import QueryDesk.Text.Runs

/-!
# What becomes of characters in domain names

Before a domain name is looked at, capitals become small letters, forms of compatibility become the
characters they stand for, and characters that cannot be seen go; many characters may not be there at all.
The table is that of Unicode 17, with the sharp s and the final sigma kept.
-/

namespace QueryDesk.Wire

/-- What becomes of a character in a domain name. -/
inductive DomainMapping
  | valid
  | disallowed
  | ignored
  /-- other characters take its place -/
  | replaced (others : List Char)
  /-- the character so many places further on, or further back, takes its place -/
  | moved (back : Bool) (places : Nat)
  /-- the next character takes its place if it stands so many places, an even number, behind the start -/
  | paired (start : Nat)
  deriving DecidableEq, Repr

namespace DomainMapping

/-- A run of the table: how many characters it has and what becomes of them. `V` stands for valid, `X` for
disallowed, `I` for ignored, `M` for one character that is replaced and `R` for several, `A` for characters
that are moved and `P` for pairs. -/
def ofWord (start : Nat) (word : List Char) : Nat × DomainMapping :=
  match word with
  | 'V' :: ds => (Text.hexNat ds, .valid)
  | 'I' :: ds => (Text.hexNat ds, .ignored)
  | 'M' :: cs => (1, .replaced (characters cs))
  | 'R' :: cs => (Text.hexNat (cs.takeWhile (· != '=')), .replaced (characters ((cs.dropWhile (· != '=')).drop 1)))
  | 'A' :: cs =>
    let ds := cs.takeWhile fun c => c != '+' && c != '-'
    (Text.hexNat ds, .moved (cs.contains '-') (Text.hexNat (cs.drop (ds.length + 1))))
  | 'P' :: ds => (2 * Text.hexNat ds, .paired start)
  | ds => (Text.hexNat (ds.drop 1), .disallowed)
where
  characters (cs : List Char) : List Char := (Text.splitWords '.' cs).map fun ds => Char.ofNat (Text.hexNat ds)

/-- The characters that take the place of one, unless it is disallowed. -/
def apply (c : Char) : DomainMapping → Option (List Char)
  | .valid => some [c]
  | .disallowed => none
  | .ignored => some []
  | .replaced cs => some cs
  | .moved back places => some [Char.ofNat (if back then c.toNat - places else c.toNat + places)]
  | .paired start => some [if (c.toNat - start) % 2 = 0 then Char.ofNat (c.toNat + 1) else c]

/-- Whether a character is its own mapping. -/
def isValid (c : Char) (m : DomainMapping) : Bool := m.apply c == some [c]

/-- The runs of the table. -/
def runs : List String := [
    "V41 A1A+20 V25 X20 M20 V7 M20.308 V1 M61 V2 I1 V1 M20.304 V2 A2-80 M20.301 M3BC V2 M20.327 M31",
    "M6F V1 M31.2044.34 M31.2044.32 M33.2044.34 V1 A17+20 V1 A7+20 V21 P18 M69.307 V1 R2=69.6A P2 V1",
    "P3 R2=6C.B7 P4 M2BC.6E P17 MFF P3 M73 V1 M253 P2 M254 M188 V1 A2+CD M18C V2 M1DD M259 M25B M192",
    "V1 M260 M263 V1 M269 M268 M199 V3 M26F M272 V1 M275 P3 M280 M1A8 V1 M283 V2 M1AD V1 M288 M1B0 V1",
    "A2+D9 P2 M292 M1B9 V3 M1BD V7 R3=64.17E R3=6C.6A R3=6E.6A P8 V1 P9 V1 R3=64.7A M1F5 V1 M195 M1BF",
    "P14 M19E V1 P9 V6 M2C65 M23C V1 M19A M2C66 V2 M242 V1 M180 M289 M28C P5 V60 M68 M266 M6A M72",
    "M279 M27B M281 M77 M79 V1F M20.306 M20.307 M20.30A M20.328 M20.303 M20.30B V2 M263 M6C M73 M78",
    "M295 V5B A2-40 V1 M313 M308.301 M3B9 V9 I1 V20 P2 M2B9 V1 M377 V1 X2 M20.3B9 V3 M3B M3F3 X4",
    "M20.301 M20.308.301 M3AC MB7 A3+25 X1 M3CC X1 A2+3F V1 A11+20 X1 A9+20 V23 M3D7 M3B2 M3B8 M3C5",
    "M3CD M3CB M3C6 M3C0 V1 PC M3BA M3C1 M3C3 V1 M3B8 M3B5 V1 M3F8 V1 M3C3 M3FB V2 A3-82 A10+50",
    "A20+20 V30 P11 V8 P1B M4CF P7 V1 P30 X1 A26+30 X2 V2E M565.582 V3 X2 V3 X1 V37 X8 V1B X4 V6 X11",
    "V16 X1 V58 M627.674 M648.674 M6C7.674 M64A.674 V64 X1 V30 X2 V3B X2 V65 XE V3B X2 V31 X2 VF X1",
    "V1C X2 V1 X1 VB X5 V20 X7 V4B X1 V75 M915.93C M916.93C M917.93C M91C.93C M921.93C M922.93C",
    "M92B.93C M92F.93C V24 X1 V8 X2 V2 X2 V16 X1 V7 X1 V1 X3 V4 X2 V9 X2 V2 X2 V4 X8 V1 X4 M9A1.9BC",
    "M9A2.9BC X1 M9AF.9BC V4 X2 V19 X2 V3 X1 V6 X4 V2 X2 V16 X1 V7 X1 V1 MA32.A3C X1 V1 MA38.A3C X1",
    "V2 X2 V1 X1 V5 X4 V2 X2 V3 X3 V1 X7 MA16.A3C MA17.A3C MA1C.A3C V1 X1 MA2B.A3C X7 V11 XA V3 X1 V9",
    "X1 V3 X1 V16 X1 V7 X1 V2 X1 V5 X2 VA X1 V3 X1 V3 X2 V1 XF V4 X2 VC X7 V7 X1 V3 X1 V8 X2 V2 X2",
    "V16 X1 V7 X1 V2 X1 V5 X2 V9 X2 V2 X2 V3 X7 V3 X4 MB21.B3C MB22.B3C X1 V5 X2 V12 XA V2 X1 V6 X3",
    "V3 X1 V4 X3 V2 X1 V1 X1 V2 X3 V2 X3 V3 X3 VC X4 V5 X3 V3 X1 V4 X2 V1 X6 V1 XE V15 X5 VD X1 V3 X1",
    "V17 X1 V10 X2 V9 X1 V3 X1 V4 X7 V2 X1 V3 X1 V2 X2 V4 X2 VA X7 V16 X1 V3 X1 V17 X1 VA X1 V5 X2 V9",
    "X1 V3 X1 V4 X7 V2 X5 V3 X1 V4 X2 VA X1 V3 XC VD X1 V3 X1 V33 X1 V3 X1 V6 X4 V10 X2 V1A X1 V3 X1",
    "V12 X3 V18 X1 V9 X1 V1 X2 V7 X3 V1 X4 V6 X1 V1 X1 V8 X6 VA X2 V3 XC V32 ME4D.E32 V7 X4 V1D X25",
    "V2 X1 V1 X1 V5 X1 V18 X1 V1 X1 VC MECD.EB2 VA X2 V5 X1 V1 X1 V7 X1 VA X2 MEAB.E99 MEAB.EA1 V2",
    "X20 VC MF0B V36 MF42.FB7 V4 X1 V4 MF4C.FB7 V4 MF51.FB7 V4 MF56.FB7 V4 MF5B.FB7 VC MF40.FB5 V3 X4",
    "V2 MF71.F72 V1 MF71.F74 MFB2.F80 MFB2.F71.F80 MFB3.F80 MFB3.F71.F80 V7 MF71.F80 V11 MF92.FB7 V4",
    "X1 V4 MF9C.FB7 V4 MFA1.FB7 V4 MFA6.FB7 V4 MFAB.FB7 VC MF90.FB5 V3 X1 VF X1 VD X25 VA0 A26+1C60",
    "X1 M2D27 X5 M2D2D X2 V2C M10DC V62 I2 VE8 X1 V4 X2 V7 X1 V1 X1 V4 X2 V29 X1 V4 X2 V21 X1 V4 X2",
    "V7 X1 V1 X1 V4 X2 VF X1 V39 X1 V4 X2 V43 X2 V20 X3 V1A X6 V56 X2 A6-8 X2 V280 X1 V1C X3 V59 X7",
    "V16 X9 V18 X9 V14 XC VD X1 V3 X1 V2 XC V34 I2 V28 X2 VA X6 VA X6 VB I5 VA X6 V59 X7 V2B X5 V46",
    "XA V1F X1 VC X4 VC X4 V1 X3 V2A X2 V5 XB V2C X4 V1A X6 VB X3 V3E X2 V41 X1 V1D X2 VB X6 VA X6 VE",
    "X2 V2E X2 VC X14 V4D X1 VA6 X8 V3C X3 VF X3 V33 M432 M434 M43E A2-1842 M442 M44A M463 MA64B",
    "M1C8A V1 X5 A2B-BC0 X2 A3-BC0 V8 X8 V2B X5 V2C M61 ME6 M62 V1 A2-1CCC M1DD A8-1CCC V1 M6F M223",
    "M70 M72 A2-1CCC M77 M61 A2-1AF4 M1D02 M62 A2-1CE4 M259 A2-1AF0 M67 V1 M6B M6D M14B M6F M254",
    "A2-3E M70 A2-1CE3 M1D1D M26F M76 M1D25 A3-19AB A2-199A M69 M72 A2-1CEF A2-19B4 M3C1 A2-19A3 VD",
    "M43D V22 M252 M63 M255 MF0 M25C M66 M25F M261 M265 A3-1B3C M1D7B M29D M26D M1D85 M29F M271 M270",
    "A4-1B3C M278 A2-1B31 M1AB A2-1B2D M1D1C A2-1B2E M7A A3-1B2C M3B8 V40 P4B V4 M61.2BE M1E61 V2 MDF",
    "V1 P30 V8 A8-8 V6 X2 A6-8 X2 V8 A8-8 V8 A8-8 V6 X2 A6-8 X2 V8 X1 M1F51 X1 M1F53 X1 M1F55 X1",
    "M1F57 V8 A8-8 V1 M3AC V1 M3AD V1 M3AE V1 M3AF V1 M3CC V1 M3CD V1 M3CE X2 M1F00.3B9 M1F01.3B9",
    "M1F02.3B9 M1F03.3B9 M1F04.3B9 M1F05.3B9 M1F06.3B9 M1F07.3B9 M1F00.3B9 M1F01.3B9 M1F02.3B9",
    "M1F03.3B9 M1F04.3B9 M1F05.3B9 M1F06.3B9 M1F07.3B9 M1F20.3B9 M1F21.3B9 M1F22.3B9 M1F23.3B9",
    "M1F24.3B9 M1F25.3B9 M1F26.3B9 M1F27.3B9 M1F20.3B9 M1F21.3B9 M1F22.3B9 M1F23.3B9 M1F24.3B9",
    "M1F25.3B9 M1F26.3B9 M1F27.3B9 M1F60.3B9 M1F61.3B9 M1F62.3B9 M1F63.3B9 M1F64.3B9 M1F65.3B9",
    "M1F66.3B9 M1F67.3B9 M1F60.3B9 M1F61.3B9 M1F62.3B9 M1F63.3B9 M1F64.3B9 M1F65.3B9 M1F66.3B9",
    "M1F67.3B9 V2 M1F70.3B9 M3B1.3B9 M3AC.3B9 X1 V1 M1FB6.3B9 A2-8 M1F70 M3AC M3B1.3B9 M20.313 M3B9",
    "M20.313 M20.342 M20.308.342 M1F74.3B9 M3B7.3B9 M3AE.3B9 X1 V1 M1FC6.3B9 M1F72 M3AD M1F74 M3AE",
    "M3B7.3B9 M20.313.300 M20.313.301 M20.313.342 V3 M390 X2 V2 A2-8 M1F76 M3AF X1 M20.314.300",
    "M20.314.301 M20.314.342 V3 M3B0 V4 A2-8 M1F7A M3CD M1FE5 M20.308.300 M20.308.301 M60 X2",
    "M1F7C.3B9 M3C9.3B9 M3CE.3B9 X1 V1 M1FF6.3B9 M1F78 M3CC M1F7C M3CE M3C9.3B9 M20.301 M20.314 X1",
    "RB=20 I1 V2 X2 V1 M2010 V5 M20.333 VC X3 V1 X7 M20 V3 M2032.2032 M2032.2032.2032 V1 M2035.2035",
    "M2035.2035.2035 V4 M21.21 V1 M20.305 V8 M3F.3F M3F.21 M21.3F VD M2032.2032.2032.2032 V7 M20 I5",
    "X5 I6 M30 M69 X2 A6-2040 M2B M2212 M3D A2-2055 M6E AA-2050 M2B M2212 M3D A2-2065 X1 M61 M65 M6F",
    "M78 M259 M68 A4-202B M70 A2-2028 X3 V8 M72.73 V19 XE V21 XF M61.2F.63 M61.2F.73 M63 MB0.63 V1",
    "M63.2F.6F M63.2F.75 M25B V1 MB0.66 A2-20A3 R3=68 M127 R2=69 R2=6C V1 M6E M6E.6F V2 A3-20A9 R2=72",
    "V2 M73.6D M74.65.6C M74.6D V1 M7A V1 M3C9 V1 M7A V1 M6B ME5 A2-20CA V1 R2=65 M66 M214E M6D M6F",
    "A4-1B65 M69 V1 M66.61.78 M3C0 R2=3B3 M3C0 M2211 V4 R2=64 M65 A2-20DF V6 M31.2044.37 M31.2044.39",
    "M31.2044.31.30 M31.2044.33 M32.2044.33 M31.2044.35 M32.2044.35 M33.2044.35 M34.2044.35",
    "M31.2044.36 M35.2044.36 M31.2044.38 M33.2044.38 M35.2044.38 M37.2044.38 M31.2044 M69 M69.69",
    "M69.69.69 M69.76 M76 M76.69 M76.69.69 M76.69.69.69 M69.78 M78 M78.69 M78.69.69 M6C A2-210A M6D",
    "M69 M69.69 M69.69.69 M69.76 M76 M76.69 M76.69.69 M76.69.69.69 M69.78 M78 M78.69 M78.69.69 M6C",
    "A2-211A M6D V3 M2184 V5 M30.2044.33 V2 X4 V9C M222B.222B M222B.222B.222B V1 M222E.222E",
    "M222E.222E.222E VF8 A2+CDF VFF X16 VB X15 A9-242F M31.30 M31.31 M31.32 M31.33 M31.34 M31.35",
    "M31.36 M31.37 M31.38 M31.39 M32.30 M28.31.29 M28.32.29 M28.33.29 M28.34.29 M28.35.29 M28.36.29",
    "M28.37.29 M28.38.29 M28.39.29 M28.31.30.29 M28.31.31.29 M28.31.32.29 M28.31.33.29 M28.31.34.29",
    "M28.31.35.29 M28.31.36.29 M28.31.37.29 M28.31.38.29 M28.31.39.29 M28.32.30.29 X14 M28.61.29",
    "M28.62.29 M28.63.29 M28.64.29 M28.65.29 M28.66.29 M28.67.29 M28.68.29 M28.69.29 M28.6A.29",
    "M28.6B.29 M28.6C.29 M28.6D.29 M28.6E.29 M28.6F.29 M28.70.29 M28.71.29 M28.72.29 M28.73.29",
    "M28.74.29 M28.75.29 M28.76.29 M28.77.29 M28.78.29 M28.79.29 M28.7A.29 A1A-2455 A1A-246F M30 V521",
    "M222B.222B.222B.222B V67 M3A.3A.3D M3D.3D M3D.3D.3D V65 M2ADD.338 V97 X2 V8A A30+30 V30 M2C61 V1",
    "M26B M1D7D M27D V2 P3 M251 M271 M250 M252 V1 M2C73 V2 M2C76 V6 M6A M76 A2-2A3F P32 V7 P2 V3",
    "M2CF3 V1 X5 V2D X1 V1 X5 V1 X2 V38 X7 M2D61 V1 XE V18 X9 V7 X1 V7 X1 V7 X1 V7 X1 V7 X1 V7 X1 V7",
    "X1 V7 X1 V7E X22 V1A X1 V4 M6BCD V53 M9F9F XC M4E00 M4E28 M4E36 M4E3F M4E59 M4E85 M4E8C M4EA0",
    "M4EBA M513F M5165 M516B M5182 M5196 M51AB M51E0 M51F5 M5200 M529B M52F9 M5315 M531A M5338 M5341",
    "M535C M5369 M5382 M53B6 M53C8 M53E3 M56D7 M571F M58EB M5902 M590A M5915 M5927 M5973 M5B50 M5B80",
    "M5BF8 M5C0F M5C22 M5C38 M5C6E M5C71 M5DDB M5DE5 M5DF1 M5DFE M5E72 M5E7A M5E7F M5EF4 M5EFE M5F0B",
    "M5F13 M5F50 M5F61 M5F73 M5FC3 M6208 M6236 M624B M652F M6534 M6587 M6597 M65A4 M65B9 M65E0 M65E5",
    "M66F0 M6708 M6728 M6B20 M6B62 M6B79 M6BB3 M6BCB M6BD4 M6BDB M6C0F M6C14 M6C34 M706B M722A M7236",
    "M723B M723F M7247 M7259 M725B M72AC M7384 M7389 M74DC M74E6 M7518 M751F M7528 M7530 M758B M7592",
    "M7676 M767D M76AE M76BF M76EE M77DB M77E2 M77F3 M793A M79B8 M79BE M7A74 M7ACB M7AF9 M7C73 M7CF8",
    "M7F36 M7F51 M7F8A M7FBD M8001 M800C M8012 M8033 M807F M8089 M81E3 M81EA M81F3 M81FC M820C M821B",
    "M821F M826E M8272 M8278 M864D M866B M8840 M884C M8863 M897E M898B M89D2 M8A00 M8C37 M8C46 M8C55",
    "M8C78 M8C9D M8D64 M8D70 M8DB3 M8EAB M8ECA M8F9B M8FB0 M8FB5 M9091 M9149 M91C6 M91CC M91D1 M9577",
    "M9580 M961C M96B6 M96B9 M96E8 M9751 M975E M9762 M9769 M97CB M97ED M97F3 M9801 M98A8 M98DB M98DF",
    "M9996 M9999 M99AC M9AA8 M9AD8 M9ADF M9B25 M9B2F M9B32 M9B3C M9B5A M9CE5 M9E75 M9E7F M9EA5 M9EBB",
    "M9EC3 M9ECD M9ED1 M9EF9 M9EFD M9F0E M9F13 M9F20 M9F3B M9F4A M9F52 M9F8D M9F9C M9FA0 X2A M20 V1",
    "M2E V33 M3012 V1 M5341 A2+230B V5 X1 V56 X2 V2 M20.3099 M20.309A V2 M3088.308A V5F M30B3.30C8 X5",
    "V2B X1 A2-2031 M11AA M1102 A2-1F89 A3-2034 A6-1F8A M111A A3-203B M1121 AA-203C A15-1FEE I1",
    "A2-2051 A2-1FA0 M11CC M11CE M11D3 M11D7 M11D9 M111C M11DD M11DF A2-2054 M1120 A2-2052 M1127",
    "M1129 A5-204D M1132 M1136 M1140 M1147 M114C A2-1F91 A3-202D A2-2003 M1188 A2-1FF9 M1194 M119E",
    "M11A1 X1 V2 M4E00 M4E8C M4E09 M56DB M4E0A M4E2D M4E0B M7532 M4E59 M4E19 M4E01 M5929 M5730 M4EBA",
    "V46 XA V10 M28.1100.29 M28.1102.29 M28.1103.29 M28.1105.29 M28.1106.29 M28.1107.29 M28.1109.29",
    "M28.110B.29 M28.110C.29 M28.110E.29 M28.110F.29 M28.1110.29 M28.1111.29 M28.1112.29 M28.AC00.29",
    "M28.B098.29 M28.B2E4.29 M28.B77C.29 M28.B9C8.29 M28.BC14.29 M28.C0AC.29 M28.C544.29 M28.C790.29",
    "M28.CC28.29 M28.CE74.29 M28.D0C0.29 M28.D30C.29 M28.D558.29 M28.C8FC.29 M28.C624.C804.29",
    "M28.C624.D6C4.29 X1 M28.4E00.29 M28.4E8C.29 M28.4E09.29 M28.56DB.29 M28.4E94.29 M28.516D.29",
    "M28.4E03.29 M28.516B.29 M28.4E5D.29 M28.5341.29 M28.6708.29 M28.706B.29 M28.6C34.29 M28.6728.29",
    "M28.91D1.29 M28.571F.29 M28.65E5.29 M28.682A.29 M28.6709.29 M28.793E.29 M28.540D.29 M28.7279.29",
    "M28.8CA1.29 M28.795D.29 M28.52B4.29 M28.4EE3.29 M28.547C.29 M28.5B66.29 M28.76E3.29 M28.4F01.29",
    "M28.8CC7.29 M28.5354.29 M28.796D.29 M28.4F11.29 M28.81EA.29 M28.81F3.29 M554F M5E7C M6587 M7B8F",
    "V8 M70.74.65 M32.31 M32.32 M32.33 M32.34 M32.35 M32.36 M32.37 M32.38 M32.39 M33.30 M33.31 M33.32",
    "M33.33 M33.34 M33.35 M1100 A2-215F A3-215E M1109 A2-215C A5-215B MAC00 MB098 MB2E4 MB77C MB9C8",
    "MBC14 MC0AC MC544 MC790 MCC28 MCE74 MD0C0 MD30C MD558 MCC38.ACE0 MC8FC.C758 MC6B0 V1 M4E00 M4E8C",
    "M4E09 M56DB M4E94 M516D M4E03 M516B M4E5D M5341 M6708 M706B M6C34 M6728 M91D1 M571F M65E5 M682A",
    "M6709 M793E M540D M7279 M8CA1 M795D M52B4 M79D8 M7537 M5973 M9069 M512A M5370 M6CE8 M9805 M4F11",
    "M5199 M6B63 M4E0A M4E2D M4E0B M5DE6 M53F3 M533B M5B97 M5B66 M76E3 M4F01 M8CC7 M5354 M591C M33.36",
    "M33.37 M33.38 M33.39 M34.30 M34.31 M34.32 M34.33 M34.34 M34.35 M34.36 M34.37 M34.38 M34.39",
    "M35.30 M31.6708 M32.6708 M33.6708 M34.6708 M35.6708 M36.6708 M37.6708 M38.6708 M39.6708",
    "M31.30.6708 M31.31.6708 M31.32.6708 M68.67 M65.72.67 M65.76 M6C.74.64 M30A2 M30A4 M30A6 M30A8",
    "A2-22A M30AD M30AF M30B1 M30B3 M30B5 M30B7 M30B9 M30BB M30BD M30BF M30C1 M30C4 M30C6 M30C8",
    "A6-21A M30D2 M30D5 M30D8 M30DB A5-210 M30E4 M30E6 A6-20D A4-20C M4EE4.548C M30A2.30D1.30FC.30C8",
    "M30A2.30EB.30D5.30A1 M30A2.30F3.30DA.30A2 M30A2.30FC.30EB M30A4.30CB.30F3.30B0 M30A4.30F3.30C1",
    "M30A6.30A9.30F3 M30A8.30B9.30AF.30FC.30C9 M30A8.30FC.30AB.30FC M30AA.30F3.30B9 M30AA.30FC.30E0",
    "M30AB.30A4.30EA M30AB.30E9.30C3.30C8 M30AB.30ED.30EA.30FC M30AC.30ED.30F3 M30AC.30F3.30DE",
    "M30AE.30AC M30AE.30CB.30FC M30AD.30E5.30EA.30FC M30AE.30EB.30C0.30FC M30AD.30ED",
    "M30AD.30ED.30B0.30E9.30E0 M30AD.30ED.30E1.30FC.30C8.30EB M30AD.30ED.30EF.30C3.30C8",
    "M30B0.30E9.30E0 M30B0.30E9.30E0.30C8.30F3 M30AF.30EB.30BC.30A4.30ED M30AF.30ED.30FC.30CD",
    "M30B1.30FC.30B9 M30B3.30EB.30CA M30B3.30FC.30DD M30B5.30A4.30AF.30EB M30B5.30F3.30C1.30FC.30E0",
    "M30B7.30EA.30F3.30B0 M30BB.30F3.30C1 M30BB.30F3.30C8 M30C0.30FC.30B9 M30C7.30B7 M30C9.30EB",
    "M30C8.30F3 M30CA.30CE M30CE.30C3.30C8 M30CF.30A4.30C4 M30D1.30FC.30BB.30F3.30C8 M30D1.30FC.30C4",
    "M30D0.30FC.30EC.30EB M30D4.30A2.30B9.30C8.30EB M30D4.30AF.30EB M30D4.30B3 M30D3.30EB",
    "M30D5.30A1.30E9.30C3.30C9 M30D5.30A3.30FC.30C8 M30D6.30C3.30B7.30A7.30EB M30D5.30E9.30F3",
    "M30D8.30AF.30BF.30FC.30EB M30DA.30BD M30DA.30CB.30D2 M30D8.30EB.30C4 M30DA.30F3.30B9",
    "M30DA.30FC.30B8 M30D9.30FC.30BF M30DD.30A4.30F3.30C8 M30DC.30EB.30C8 M30DB.30F3 M30DD.30F3.30C9",
    "M30DB.30FC.30EB M30DB.30FC.30F3 M30DE.30A4.30AF.30ED M30DE.30A4.30EB M30DE.30C3.30CF",
    "M30DE.30EB.30AF M30DE.30F3.30B7.30E7.30F3 M30DF.30AF.30ED.30F3 M30DF.30EA",
    "M30DF.30EA.30D0.30FC.30EB M30E1.30AC M30E1.30AC.30C8.30F3 M30E1.30FC.30C8.30EB M30E4.30FC.30C9",
    "M30E4.30FC.30EB M30E6.30A2.30F3 M30EA.30C3.30C8.30EB M30EA.30E9 M30EB.30D4.30FC",
    "M30EB.30FC.30D6.30EB M30EC.30E0 M30EC.30F3.30C8.30B2.30F3 M30EF.30C3.30C8 M30.70B9 M31.70B9",
    "M32.70B9 M33.70B9 M34.70B9 M35.70B9 M36.70B9 M37.70B9 M38.70B9 M39.70B9 M31.30.70B9 M31.31.70B9",
    "M31.32.70B9 M31.33.70B9 M31.34.70B9 M31.35.70B9 M31.36.70B9 M31.37.70B9 M31.38.70B9 M31.39.70B9",
    "M32.30.70B9 M32.31.70B9 M32.32.70B9 M32.33.70B9 M32.34.70B9 M68.70.61 M64.61 M61.75 M62.61.72",
    "M6F.76 M70.63 M64.6D M64.6D.32 M64.6D.33 M69.75 M5E73.6210 M662D.548C M5927.6B63 M660E.6CBB",
    "M682A.5F0F.4F1A.793E M70.61 M6E.61 M3BC.61 M6D.61 M6B.61 M6B.62 M6D.62 M67.62 M63.61.6C",
    "M6B.63.61.6C M70.66 M6E.66 M3BC.66 M3BC.67 M6D.67 M6B.67 M68.7A M6B.68.7A M6D.68.7A M67.68.7A",
    "M74.68.7A M3BC.6C M6D.6C M64.6C M6B.6C M66.6D M6E.6D M3BC.6D M6D.6D M63.6D M6B.6D M6D.6D.32",
    "M63.6D.32 M6D.32 M6B.6D.32 M6D.6D.33 M63.6D.33 M6D.33 M6B.6D.33 M6D.2215.73 M6D.2215.73.32",
    "M70.61 M6B.70.61 M6D.70.61 M67.70.61 M72.61.64 M72.61.64.2215.73 M72.61.64.2215.73.32 M70.73",
    "M6E.73 M3BC.73 M6D.73 M70.76 M6E.76 M3BC.76 M6D.76 M6B.76 M6D.76 M70.77 M6E.77 M3BC.77 M6D.77",
    "M6B.77 M6D.77 M6B.3C9 M6D.3C9 X1 M62.71 M63.63 M63.64 M63.2215.6B.67 X1 M64.62 M67.79 M68.61",
    "M68.70 M69.6E M6B.6B M6B.6D M6B.74 M6C.6D M6C.6E M6C.6F.67 M6C.78 M6D.62 M6D.69.6C M6D.6F.6C",
    "M70.68 X1 M70.70.6D M70.72 M73.72 M73.76 M77.62 M76.2215.6D M61.2215.6D M31.65E5 M32.65E5",
    "M33.65E5 M34.65E5 M35.65E5 M36.65E5 M37.65E5 M38.65E5 M39.65E5 M31.30.65E5 M31.31.65E5",
    "M31.32.65E5 M31.33.65E5 M31.34.65E5 M31.35.65E5 M31.36.65E5 M31.37.65E5 M31.38.65E5 M31.39.65E5",
    "M32.30.65E5 M32.31.65E5 M32.32.65E5 M32.33.65E5 M32.34.65E5 M32.35.65E5 M32.36.65E5 M32.37.65E5",
    "M32.38.65E5 M32.39.65E5 M33.30.65E5 M33.31.65E5 M67.61.6C V708D X3 V37 X9 V15C X14 P17 V12 PE",
    "M44A M44C V5A X8 V22 P7 V2 P1F MA76F V8 P2 M1D79 P5 V3 MA78C V1 M265 V2 P2 V2 PA M266 M25C M261",
    "M26C M26A V1 M29E M287 M29D MAB53 P8 MA794 M282 M1D8E P2 M264 P8 M19B X14 M73 M63 M66 M71 MA7F6",
    "V2 M127 M153 V33 X3 VA X6 V38 X8 V46 X8 VC X6 V74 XB V1E X3 V4E X1 VB X4 V21 X1 V37 X9 VE X2 VA",
    "X2 V67 X18 V1C XA V6 X2 V6 X2 V6 X9 V7 X1 V7 X1 V2C MA727 MAB37 M26B MAB52 V9 M28D V2 X4",
    "A50-97D0 V2E X2 VA X6 V2BA4 XC V17 X4 V31 X2104 M8C48 M66F4 M8ECA M8CC8 M6ED1 M4E32 M53E5",
    "R2=9F9C M5951 M91D1 M5587 M5948 M61F6 M7669 M7F85 M863F M87BA M88F8 M908F M6A02 M6D1B M70D9",
    "M73DE M843D M916A M99F1 M4E82 M5375 M6B04 M721B M862D M9E1E M5D50 M6FEB M85CD M8964 M62C9 M81D8",
    "M881F M5ECA M6717 M6D6A M72FC M90CE M4F86 M51B7 M52DE M64C4 M6AD3 M7210 M76E7 M8001 M8606 M865C",
    "M8DEF M9732 M9B6F M9DFA M788C M797F M7DA0 M83C9 M9304 M9E7F M8AD6 M58DF M5F04 M7C60 M807E M7262",
    "M78CA M8CC2 M96F7 M58D8 M5C62 M6A13 M6DDA M6F0F M7D2F M7E37 M964B M52D2 M808B M51DC M51CC M7A1C",
    "M7DBE M83F1 M9675 M8B80 M62CF M6A02 M8AFE M4E39 M5BE7 M6012 M7387 M7570 M5317 M78FB M4FBF M5FA9",
    "M4E0D M6CCC M6578 M7D22 M53C3 M585E M7701 M8449 M8AAA M6BBA M8FB0 M6C88 M62FE M82E5 M63A0 M7565",
    "M4EAE M5169 M51C9 M6881 M7CE7 M826F M8AD2 M91CF M52F5 M5442 M5973 M5EEC M65C5 M6FFE M792A M95AD",
    "M9A6A M9E97 M9ECE M529B M66C6 M6B77 M8F62 M5E74 M6190 M6200 M649A M6F23 M7149 M7489 M79CA M7DF4",
    "M806F M8F26 M84EE M9023 M934A M5217 M52A3 M54BD M70C8 M88C2 M8AAA M5EC9 M5FF5 M637B M6BAE M7C3E",
    "M7375 M4EE4 M56F9 M5BE7 M5DBA M601C M73B2 M7469 M7F9A M8046 M9234 M96F6 M9748 M9818 M4F8B M79AE",
    "M91B4 M96B8 M60E1 M4E86 M50DA M5BEE M5C3F M6599 M6A02 M71CE M7642 M84FC M907C M9F8D M6688 M962E",
    "M5289 M677B M67F3 M6D41 M6E9C M7409 M7559 M786B M7D10 M985E M516D M622E M9678 M502B M5D19 M6DEA",
    "M8F2A M5F8B M6144 M6817 M7387 M9686 M5229 M540F M5C65 M6613 M674E M68A8 M6CE5 M7406 M75E2 M7F79",
    "M88CF M88E1 M91CC M96E2 M533F M6EBA M541D M71D0 M7498 M85FA M96A3 M9C57 M9E9F M6797 M6DCB M81E8",
    "M7ACB M7B20 M7C92 M72C0 M7099 M8B58 M4EC0 M8336 M523A M5207 M5EA6 M62D3 M7CD6 M5B85 M6D1E M66B4",
    "M8F3B M884C M964D M898B M5ED3 M5140 M55C0 V2 M585A V1 M6674 V2 M51DE M732A M76CA M793C M795E",
    "M7965 M798F M9756 M7CBE M7FBD V1 M8612 V1 M8AF8 V2 M9038 M90FD V3 M98EF M98FC M9928 M9DB4 M90DE",
    "M96B7 M4FAE M50E7 M514D M52C9 M52E4 M5351 M559D M5606 M5668 M5840 M58A8 M5C64 M5C6E M6094 M6168",
    "M618E M61F2 M654F M65E2 M6691 M6885 M6D77 M6E1A M6F22 M716E M722B M7422 M7891 M793E M7949 M7948",
    "M7950 M7956 M795D A2-80C5 M7A40 M7A81 M7BC0 M7DF4 M7E09 M7E41 M7F72 M8005 M81ED R2=8279 M8457",
    "M8910 M8996 M8B01 M8B39 M8CD3 M8D08 M8FB6 M9038 M96E3 M97FF M983B M6075 M242EE M8218 X2 M4E26",
    "M51B5 M5168 M4F80 M5145 M5180 M52C7 M52FA M559D M5555 M5599 M55E2 M585A M58B3 M5944 M5954 M5A62",
    "M5B28 M5ED2 M5ED9 M5F69 M5FAD M60D8 M614E M6108 M618E M6160 M61F2 M6234 M63C4 M641C M6452 M6556",
    "M6674 M6717 M671B M6756 M6B79 M6BBA M6D41 M6EDB M6ECB M6F22 M701E M716E M77A7 M7235 M72AF M732A",
    "M7471 M7506 M753B M761D M761F M76CA M76DB M76F4 M774A M7740 M78CC M7AB1 M7BC0 M7C7B M7D5B M7DF4",
    "M7F3E M8005 M8352 M83EF M8779 M8941 M8986 M8996 M8ABF M8AF8 M8ACB M8B01 M8AFE M8AED M8B39 M8B8A",
    "M8D08 M8F38 M9072 M9199 M9276 M967C M96E3 M9756 M97DB M97FF M980B M983B M9B12 M9F9C M2284A",
    "M22844 M233D5 M3B9D M4018 M4039 M25249 M25CD0 M27ED3 M9F43 M9F8E X26 M66.66 M66.69 M66.6C",
    "M66.66.69 M66.66.6C R2=73.74 XC M574.576 M574.565 M574.56B M57E.576 M574.56D X5 M5D9.5B4 V1",
    "M5F2.5B7 M5E2 M5D0 A2-F54F A3-F549 M5E8 M5EA M2B M5E9.5C1 M5E9.5C2 M5E9.5BC.5C1 M5E9.5BC.5C2",
    "M5D0.5B7 M5D0.5B8 M5D0.5BC M5D1.5BC M5D2.5BC M5D3.5BC M5D4.5BC M5D5.5BC M5D6.5BC X1 M5D8.5BC",
    "M5D9.5BC M5DA.5BC M5DB.5BC M5DC.5BC X1 M5DE.5BC X1 M5E0.5BC M5E1.5BC X1 M5E3.5BC M5E4.5BC X1",
    "M5E6.5BC M5E7.5BC M5E8.5BC M5E9.5BC M5EA.5BC M5D5.5B9 M5D1.5BF M5DB.5BF M5E4.5BF M5D0.5DC R2=671",
    "R4=67B R4=67E R4=680 R4=67A R4=67F R4=679 R4=6A4 R4=6A6 R4=684 R4=683 R4=686 R4=687 R2=68D",
    "R2=68C R2=68E R2=688 R2=698 R2=691 R4=6A9 R4=6AF R4=6B3 R4=6B1 R2=6BA R4=6BB R2=6C0 R4=6C1",
    "R4=6BE R2=6D2 R2=6D3 V21 R4=6AD R2=6C7 R2=6C6 R2=6C8 M6C7.674 R2=6CB R2=6C5 R2=6C9 R4=6D0 R2=649",
    "R2=626.627 R2=626.6D5 R2=626.648 R2=626.6C7 R2=626.6C6 R2=626.6C8 R3=626.6D0 R3=626.649 R4=6CC",
    "M626.62C M626.62D M626.645 M626.649 M626.64A M628.62C M628.62D M628.62E M628.645 M628.649",
    "M628.64A M62A.62C M62A.62D M62A.62E M62A.645 M62A.649 M62A.64A M62B.62C M62B.645 M62B.649",
    "M62B.64A M62C.62D M62C.645 M62D.62C M62D.645 M62E.62C M62E.62D M62E.645 M633.62C M633.62D",
    "M633.62E M633.645 M635.62D M635.645 M636.62C M636.62D M636.62E M636.645 M637.62D M637.645",
    "M638.645 M639.62C M639.645 M63A.62C M63A.645 M641.62C M641.62D M641.62E M641.645 M641.649",
    "M641.64A M642.62D M642.645 M642.649 M642.64A M643.627 M643.62C M643.62D M643.62E M643.644",
    "M643.645 M643.649 M643.64A M644.62C M644.62D M644.62E M644.645 M644.649 M644.64A M645.62C",
    "M645.62D M645.62E M645.645 M645.649 M645.64A M646.62C M646.62D M646.62E M646.645 M646.649",
    "M646.64A M647.62C M647.645 M647.649 M647.64A M64A.62C M64A.62D M64A.62E M64A.645 M64A.649",
    "M64A.64A M630.670 M631.670 M649.670 M20.64C.651 M20.64D.651 M20.64E.651 M20.64F.651 M20.650.651",
    "M20.651.670 M626.631 M626.632 M626.645 M626.646 M626.649 M626.64A M628.631 M628.632 M628.645",
    "M628.646 M628.649 M628.64A M62A.631 M62A.632 M62A.645 M62A.646 M62A.649 M62A.64A M62B.631",
    "M62B.632 M62B.645 M62B.646 M62B.649 M62B.64A M641.649 M641.64A M642.649 M642.64A M643.627",
    "M643.644 M643.645 M643.649 M643.64A M644.645 M644.649 M644.64A M645.627 M645.645 M646.631",
    "M646.632 M646.645 M646.646 M646.649 M646.64A M649.670 M64A.631 M64A.632 M64A.645 M64A.646",
    "M64A.649 M64A.64A M626.62C M626.62D M626.62E M626.645 M626.647 M628.62C M628.62D M628.62E",
    "M628.645 M628.647 M62A.62C M62A.62D M62A.62E M62A.645 M62A.647 M62B.645 M62C.62D M62C.645",
    "M62D.62C M62D.645 M62E.62C M62E.645 M633.62C M633.62D M633.62E M633.645 M635.62D M635.62E",
    "M635.645 M636.62C M636.62D M636.62E M636.645 M637.62D M638.645 M639.62C M639.645 M63A.62C",
    "M63A.645 M641.62C M641.62D M641.62E M641.645 M642.62D M642.645 M643.62C M643.62D M643.62E",
    "M643.644 M643.645 M644.62C M644.62D M644.62E M644.645 M644.647 M645.62C M645.62D M645.62E",
    "M645.645 M646.62C M646.62D M646.62E M646.645 M646.647 M647.62C M647.645 M647.670 M64A.62C",
    "M64A.62D M64A.62E M64A.645 M64A.647 M626.645 M626.647 M628.645 M628.647 M62A.645 M62A.647",
    "M62B.645 M62B.647 M633.645 M633.647 M634.645 M634.647 M643.644 M643.645 M644.645 M646.645",
    "M646.647 M64A.645 M64A.647 M640.64E.651 M640.64F.651 M640.650.651 M637.649 M637.64A M639.649",
    "M639.64A M63A.649 M63A.64A M633.649 M633.64A M634.649 M634.64A M62D.649 M62D.64A M62C.649",
    "M62C.64A M62E.649 M62E.64A M635.649 M635.64A M636.649 M636.64A M634.62C M634.62D M634.62E",
    "M634.645 M634.631 M633.631 M635.631 M636.631 M637.649 M637.64A M639.649 M639.64A M63A.649",
    "M63A.64A M633.649 M633.64A M634.649 M634.64A M62D.649 M62D.64A M62C.649 M62C.64A M62E.649",
    "M62E.64A M635.649 M635.64A M636.649 M636.64A M634.62C M634.62D M634.62E M634.645 M634.631",
    "M633.631 M635.631 M636.631 M634.62C M634.62D M634.62E M634.645 M633.647 M634.647 M637.645",
    "M633.62C M633.62D M633.62E M634.62C M634.62D M634.62E M637.645 M638.645 R2=627.64B V12",
    "M62A.62C.645 R2=62A.62D.62C M62A.62D.645 M62A.62E.645 M62A.645.62C M62A.645.62D M62A.645.62E",
    "R2=62C.645.62D M62D.645.64A M62D.645.649 M633.62D.62C M633.62C.62D M633.62C.649 R2=633.645.62D",
    "M633.645.62C R2=633.645.645 R2=635.62D.62D M635.645.645 R2=634.62D.645 M634.62C.64A",
    "R2=634.645.62E R2=634.645.645 M636.62D.649 R2=636.62E.645 R2=637.645.62D M637.645.645",
    "M637.645.64A M639.62C.645 R2=639.645.645 M639.645.649 M63A.645.645 M63A.645.64A M63A.645.649",
    "R2=641.62E.645 M642.645.62D M642.645.645 M644.62D.645 M644.62D.64A M644.62D.649 R2=644.62C.62C",
    "R2=644.62E.645 R2=644.645.62D M645.62D.62C M645.62D.645 M645.62D.64A M645.62C.62D M645.62C.645",
    "M645.62E.62C M645.62E.645 V2 M645.62C.62E M647.645.62C M647.645.645 M646.62D.645 M646.62D.649",
    "R2=646.62C.645 M646.62C.649 M646.645.64A M646.645.649 R2=64A.645.645 M628.62E.64A M62A.62C.64A",
    "M62A.62C.649 M62A.62E.64A M62A.62E.649 M62A.645.64A M62A.645.649 M62C.645.64A M62C.62D.649",
    "M62C.645.649 M633.62E.649 M635.62D.64A M634.62D.64A M636.62D.64A M644.62C.64A M644.645.64A",
    "M64A.62D.64A M64A.62C.64A M64A.645.64A M645.645.64A M642.645.64A M646.62D.64A M642.645.62D",
    "M644.62D.645 M639.645.64A M643.645.64A M646.62C.62D M645.62E.64A M644.62C.645 M643.645.645",
    "M644.62C.645 M646.62C.62D M62C.62D.64A M62D.62C.64A M645.62C.64A M641.645.64A M628.62D.64A",
    "M643.645.645 M639.62C.645 M635.645.645 M633.62E.64A M646.62C.64A V8 X20 M635.644.6D2",
    "M642.644.6D2 M627.644.644.647 M627.643.628.631 M645.62D.645.62F M635.644.639.645",
    "M631.633.648.644 M639.644.64A.647 M648.633.644.645 M635.644.649",
    "M635.644.649.20.627.644.644.647.20.639.644.64A.647.20.648.633.644.645",
    "M62C.644.20.62C.644.627.644.647 M631.6CC.627.644 V3 I10 M2C M3001 X1 A2-FDD9 M21 M3F A2-CE01 X7",
    "V10 X1 M2014 M2013 R2=5F A2-FE0D M7B M7D A2-CE25 A2-CE2B A2-CE33 A2-CE37 A4-CE35 V2 M5B M5D",
    "R4=20.305 R3=5F M2C M3001 X2 M3B M3A M3F M21 M2014 A2-FE31 M7B M7D A2-CE49 M23 M26 A2-FE37 M2D",
    "M3C M3E M3D X1 M5C A2-FE45 M40 X4 M20.64B M640.64B M20.64C V1 M20.64D X1 M20.64E M640.64E",
    "M20.64F M640.64F M20.650 M640.650 M20.651 M640.651 M20.652 M640.652 A2-F85F A2-F860 A2-F861",
    "A2-F862 A2-F863 R3=626 R2=627 R4=628 R2=629 R4=62A R4=62B R4=62C R4=62D R4=62E R2=62F R2=630",
    "R2=631 R2=632 R4=633 R4=634 R4=635 R4=636 R4=637 R4=638 R4=639 R4=63A R4=641 R4=642 R4=643",
    "R4=644 R4=645 R4=646 R4=647 R2=648 R2=649 R4=64A R2=644.622 R2=644.623 R2=644.625 R2=644.627 X2",
    "I1 X1 A20-FEE0 A1A-FEC0 A24-FEE0 A2-D5DA M2E A2-CF56 M3001 M30FB M30F2 M30A1 M30A3 M30A5 M30A7",
    "M30A9 M30E3 M30E5 M30E7 M30C3 M30FC M30A2 M30A4 M30A6 M30A8 A2-CECB M30AD M30AF M30B1 M30B3",
    "M30B5 M30B7 M30B9 M30BB M30BD M30BF M30C1 M30C4 M30C6 M30C8 A6-CEBB M30D2 M30D5 M30D8 M30DB",
    "A5-CEB1 M30E4 M30E6 A6-CEAE M30EF M30F3 A2-CF05 I1 A2-EEA1 M11AA M1102 A2-EDF9 A3-EEA4 A6-EDFA",
    "M111A A3-EEAB M1121 AA-EEAC X3 A6-EE61 X2 A6-EE63 X2 A6-EE65 X2 A3-EE67 X3 A2-FF3E MAC M20.304",
    "MA6 MA5 M20A9 X1 M2502 A4-DE59 M25A0 M25CB X11 VC X1 V1A X1 V13 X1 V2 X1 VF X2 VE X22 V7B X5 V3",
    "X4 V2D X3 V58 X1 VD X3 V1 X2F V2E X82 V1D X3 V31 XF V1C X4 V24 X9 V1E X5 V2B X5 V1E X1 V25 X4 VE",
    "X2A A28+28 V76 X2 VA X6 A24+28 X4 V24 X4 V28 X8 V34 XB V1 AB+27 X1 AF+27 X1 A7+27 X1 A2+27 X1 VB",
    "X1 VF X1 V7 X1 V2 X3 V34 XC V137 X9 V16 XA V8 X18 V1 A2-104B1 ME6 M299 M253 X1 M2A3 MAB66 M2A5",
    "M2A4 A2-10535 M1D91 M258 M25E M2A9 M264 M262 M260 M29B M127 M29C M267 M284 A2-104EF M26C M1DF04",
    "MA78E M26E M1DF05 M28E M1DF06 MF8 A2-1052D M71 M27A M1DF08 A2-1052B M280 M2A8 M2A6 MAB67 M2A7",
    "M288 M2C71 X1 M28F A2-10512 M298 A3-105F6 M1DF0A M1DF1E X45 V6 X2 V1 X1 V2C X1 V2 X3 V1 X2 V17",
    "X1 V48 X8 V9 X30 V13 X1 V2 X5 V21 X3 V1B X5 V1B X26 V38 X4 V14 X2 V32 X1 V2 X5 V8 X1 V3 X1 V1D",
    "X2 V3 X4 VA X7 V9 X7 V40 X20 V27 X4 VC X9 V36 X3 V1D X2 V1B X5 V1A X7 V4 XC V7 X50 V49 X37",
    "A33+40 XD V33 X7 V2E X8 VA X6 V10 A16+20 X3 V1D X8 V2 XD0 V1F X1 V2A X1 V3 X2 V2 X10 V6 X8 V9",
    "X21 V2E X8 V2A X16 V1A X26 V1C X14 V17 X9 V4E X4 V24 X9 V3E X1 V5 XD V19 X7 VA X6 V35 X1 V12 X8",
    "V27 X9 V60 X1 V14 XB V12 X1 V2F X3E V7 X1 V1 X1 V4 X1 VF X1 VB X6 V3B X5 VA X6 V4 X1 V8 X2 V2 X2",
    "V16 X1 V7 X1 V2 X1 V5 X1 VA X2 V2 X2 V3 X2 V1 X6 V1 X5 V7 X2 V7 X3 V5 XB VA X1 V1 X2 V1 X1 V26",
    "X1 VA X1 V1 X2 V1 X1 V4 X1 VA X1 V2 X8 V2 X1D V5C X1 V5 X1E V48 X8 VA XA6 V36 X2 V26 X22 V45 XB",
    "VA X6 VD X13 V3A X6 VA X6 V14 X1C V1B X2 VF X4 V17 XB9 V3C X64 A20+20 V33 XC V8 X2 V1 X2 V8 X1",
    "V2 X1 V1E X1 V2 X2 VC X9 VA X46 V8 X2 V2E X2 VB X1B V48 X8 V53 XD V49 X7 VA X56 V8 X58 V22 XE VA",
    "X6 V9 X1 V2D X1 VE XA V1D X3 V20 X2 V16 X1 VE X49 V7 X1 V2 X1 V2C X3 V1 X1 V2 X1 V9 X8 VA X6 V6",
    "X1 V2 X1 V25 X1 V2 X1 V6 X7 VA X6 V2C X4 VA XF6 V19 X7 V11 X1 V29 X3 V1D X55 V1 XF V32 XD V39B",
    "X66 V6F X1 V5 XB VC4 XA4C V63 XD V430 X10 V16 XA VF9B X5 V247 X1AB9 V3A X6C6 V239 X7 V1F X1 VA",
    "X4 V51 X1 VA X6 V1E X2 V6 XA V46 XA VA X1 V7 X1 V15 X5 V13 X1B0 V3A XC6 A20+20 V3B X5 A19+1B X2",
    "V19 X2C V4B X4 V39 X7 V11 X40 V5 XB V7 X9 V1CD6 X29 V20 X61 V73 X21FD V4 X1 V7 X1 V2 X1 V123 XF",
    "V1 X1D V3 X2 V1 XE V4 X8 V18C X904 V6B X5 VD X3 V9 X7 VA X2 V4 I4 XF5C VD6 A1A-1CC75 AA-1CCC0 V3",
    "X3 V1B4 X6 V17 XF V11 XF V2E X2 V17 X9 V74 X3C VF6 XA V27 X2 V35 M1D157.1D165 M1D158.1D165",
    "M1D158.1D165.1D16E M1D158.1D165.1D16F M1D158.1D165.1D170 M1D158.1D165.1D171 M1D158.1D165.1D172",
    "VE I8 V40 M1D1B9.1D165 M1D1BA.1D165 M1D1B9.1D165.1D16E M1D1BA.1D165.1D16E M1D1B9.1D165.1D16F",
    "M1D1BA.1D165.1D16F V2A X15 V46 X7A V14 XC V14 XC V57 X9 V19 X87 A1A-1D39F A1A-1D3B9 A1A-1D3D3",
    "A7-1D3ED X1 A12-1D3ED A1A-1D407 A1A-1D421 M61 X1 A2-1D43B X2 M67 X2 A2-1D43B X2 A4-1D43B X1",
    "A8-1D43B A4-1D455 X1 M66 X1 A7-1D455 X1 AB-1D455 A1A-1D46F A1A-1D489 A2-1D4A3 X1 A4-1D4A3 X2",
    "A8-1D4A3 X1 A7-1D4A3 X1 A1A-1D4BD A2-1D4D7 X1 A4-1D4D7 X1 A5-1D4D7 X1 M6F X3 A7-1D4D7 X1",
    "A1A-1D4F1 A1A-1D50B A1A-1D525 A1A-1D53F A1A-1D559 A1A-1D573 A1A-1D58D A1A-1D5A7 A1A-1D5C1",
    "A1A-1D5DB A1A-1D5F5 A1A-1D60F A1A-1D629 M131 M237 X2 A11-1D2F7 M3B8 A7-1D2F7 M2207 A11-1D311",
    "R2=3C3 A6-1D311 M2202 M3B5 M3B8 M3BA M3C6 M3C1 M3C0 A11-1D331 M3B8 A7-1D331 M2207 A11-1D34B",
    "R2=3C3 A6-1D34B M2202 M3B5 M3B8 M3BA M3C6 M3C1 M3C0 A11-1D36B M3B8 A7-1D36B M2207 A11-1D385",
    "R2=3C3 A6-1D385 M2202 M3B5 M3B8 M3BA M3C6 M3C1 M3C0 A11-1D3A5 M3B8 A7-1D3A5 M2207 A11-1D3BF",
    "R2=3C3 A6-1D3BF M2202 M3B5 M3B8 M3BA M3C6 M3C1 M3C0 A11-1D3DF M3B8 A7-1D3DF M2207 A11-1D3F9",
    "R2=3C3 A6-1D3F9 M2202 M3B5 M3B8 M3BA M3C6 M3C1 M3C0 R2=3DD X2 AA-1D79E AA-1D7A8 AA-1D7B2",
    "AA-1D7BC AA-1D7C6 V28C XF V5 X1 VF X450 V1F X6 V6 XD5 V7 X1 V11 X2 V7 X1 V2 X1 V5 X5 A9-1DC00",
    "A3-1DBFF AB-1DBFE M44B A2-1DBFB MA689 M4D9 M456 M458 M4E9 M4AF M4CF A9-1DC21 A2-1DC20 A2-1DC1E",
    "M441 A6-1DC1C A2-1DC1B M491 M456 M455 M45F M4AB MA651 M4B1 X21 V1 X70 V2D X3 VE X2 VA X4 V2 X140",
    "V1F X11 V3A X5 V1 X1D0 V2A XD6 V2B X4 V1 XC0 V1F X1 V16 X8 V2 XE0 V7 X1 V4 X1 V2 X1 VF X1 VC5 X2",
    "V10 X29 A22+22 V2A X4 VA X4 V2 X311 V44 X4C V3D XC2 A2-1E7D9 M62C M62F X1 M648 M632 M62D M637",
    "M64A A4-1E7C7 M633 M639 M641 M635 M642 M631 M634 A2-1E7EB M62E M630 M636 M638 M63A M66E M6BA",
    "M6A1 M66F X1 M628 M62C X1 M647 X2 M62D X1 M64A A4-1E7E7 M633 M639 M641 M635 M642 X1 M634",
    "A2-1E80B M62E X1 M636 X1 M63A X6 M62C X4 M62D X1 M64A X1 M644 X1 M646 M633 M639 X1 M635 M642 X1",
    "M634 X2 M62E X1 M636 X1 M63A X1 M6BA X1 M66F X1 M628 M62C X1 M647 X2 M62D M637 M64A M643 X1",
    "A2-1E827 M633 M639 M641 M635 M642 X1 M634 A2-1E84B M62E X1 M636 M638 M63A M66E X1 M6A1 X1",
    "A2-1E859 M62C M62F A2-1E83D M632 M62D M637 M64A X1 A3-1E847 M633 M639 M641 M635 M642 M631 M634",
    "A2-1E86B M62E M630 M636 M638 M63A X5 M628 M62C M62F X1 M648 M632 M62D M637 M64A X1 A3-1E867 M633",
    "M639 M641 M635 M642 M631 M634 A2-1E88B M62E M630 M636 M638 M63A X34 V2 X10E V2C X4 V64 XC VF X2",
    "VF X1 VF X1 V25 XB M30.2C M31.2C M32.2C M33.2C M34.2C M35.2C M36.2C M37.2C M38.2C M39.2C V5",
    "M28.61.29 M28.62.29 M28.63.29 M28.64.29 M28.65.29 M28.66.29 M28.67.29 M28.68.29 M28.69.29",
    "M28.6A.29 M28.6B.29 M28.6C.29 M28.6D.29 M28.6E.29 M28.6F.29 M28.70.29 M28.71.29 M28.72.29",
    "M28.73.29 M28.74.29 M28.75.29 M28.76.29 M28.77.29 M28.78.29 M28.79.29 M28.7A.29 M3014.73.3015",
    "M63 M72 M63.64 M77.7A V1 A1A-1F0CF M68.76 M6D.76 M73.64 M73.73 M70.70.76 M77.63 V1A M6D.63",
    "M6D.64 M6D.72 V23 M64.6A V1D X38 V1A M307B.304B M30B3.30B3 M30B5 XD M624B M5B57 M53CC M30C7",
    "M4E8C M591A M89E3 M5929 M4EA4 M6620 M7121 M6599 M524D M5F8C M518D M65B0 M521D M7D42 M751F M8CA9",
    "M58F0 M5439 M6F14 M6295 M6355 M4E00 M4E09 M904A M5DE6 M4E2D M53F3 M6307 M8D70 M6253 M7981 M7A7A",
    "M5408 M6E80 M6709 M6708 M7533 M5272 M55B6 M914D X4 M3014.672C.3015 M3014.4E09.3015",
    "M3014.4E8C.3015 M3014.5B89.3015 M3014.70B9.3015 M3014.6253.3015 M3014.76D7.3015 M3014.52DD.3015",
    "M3014.6557.3015 X7 M5F97 M53EF XE V6 X9A V3D9 X3 V11 X3 VD X3 VDA X6 VC X4 V1 XF VC X4 V38 X8 VA",
    "X6 V28 X8 V1E X2 VC X4 V2 XE V9 X27 V158 X8 VE X2 VD X3 VB X3 V39 X1 V1 X4 V10 X2 VC X4 VA X7",
    "V93 X1 V5C AA-1FBC0 V1 X405 VA6E0 X20 V111E X2 V168E X2 V1D31 XF V26E X9A2 M4E3D M4E38 M4E41",
    "M20122 M4F60 M4FAE M4FBB M5002 M507A M5099 M50E7 M50CF M349E M2063A M514D M5154 M5164 M5177",
    "M2051C M34B9 M5167 M518D M2054B M5197 M51A4 M4ECC M51AC M51B5 M291DF M51F5 M5203 M34DF M523B",
    "M5246 M5272 M5277 M3515 M52C7 M52C9 M52E4 M52FA A2-2A524 M5317 M5349 M5351 M535A M5373 M537D",
    "R3=537F M20A2C M7070 M53CA M53DF M20B63 M53EB M53F1 M5406 M549E M5438 M5448 M5468 M54A2 M54F6",
    "M5510 M5553 M5563 R2=5584 M5599 M55AB M55B3 M55C2 M5716 M5606 M5717 M5651 M5674 M5207 M58EE",
    "M57CE M57F4 M580D M578B M5832 M5831 M58AC M214E4 M58F2 M58F7 M5906 M591A M5922 M5962 M216A8",
    "M216EA M59EC M5A1B M5A27 M59D8 M5A66 M36EE M36FC M5B08 R2=5B3E M219C8 M5BC3 M5BD8 M5BE7 M5BF3",
    "M21B18 M5BFF M5C06 M5F53 M5C22 M3781 M5C60 M5C6E M5CC0 M5C8D M21DE4 M5D43 M21DE6 M5D6E M5D6B",
    "M5D7C A2-29AA0 M382F M5DFD M5E28 M5E3D M5E69 M3862 M22183 M387C M5EB0 M5EB3 M5EB6 M5ECA M2A392",
    "M5EFE R2=22331 M8201 R2=5F22 M38C7 M232B8 M261DA M5F62 M5F6B M38E3 M5F9A M5FCD M5FD7 M5FF9 M6081",
    "M393A M391C M6094 M226D4 M60C7 M6148 M614C M614E M614C M617A M618E M61B2 M61A4 M61AF M61DE M61F2",
    "M61F6 M6210 M621B M625D M62B1 M62D4 M6350 M22B0C M633D M62FC M6368 M6383 M63E4 M22BF1 M6422",
    "M63C5 M63A9 M3A2E M6469 M647E M649D M6477 M3A6C M654F M656C M2300A M65E3 M66F8 M6649 M3B19 M6691",
    "M3B08 M3AE4 M5192 M5195 M6700 M669C M80AD M43D9 M6717 M671B M6721 M675E M6753 M233C3 M3B49 M67FA",
    "M6785 M6852 M6885 M2346D M688E M681F M6914 M3B9D M6942 M69A3 M69EA M6AA8 M236A3 M6ADB M3C18",
    "M6B21 M238A7 M6B54 M3C4E M6B72 M6B9F A2-28D3B M23A8D M21D0B M23AFA M6C4E M23CBC M6CBF M6CCD",
    "M6C67 M6D16 M6D3E M6D77 M6D41 M6D69 M6D78 M6D85 M23D1E M6D34 M6E2F M6E6E M3D33 M6ECB M6EC7",
    "M23ED1 M6DF9 M6F6E M23F5E M23F8E M6FC6 M7039 M701E M701B M3D96 M704A M707D M7077 M70AD M20525",
    "M7145 M24263 M719C M243AB M7228 M7235 M7250 M24608 M7280 M7295 M24735 M24814 M737A M738B M3EAC",
    "M73A5 R2=3EB8 M7447 M745C M7471 M7485 M74CA M3F1B M7524 M24C36 M753E M24C92 M7570 M2219F M7610",
    "M24FA1 M24FB8 M25044 M3FFC M4008 M76F4 M250F3 M250F2 M25119 M25133 A2-28227 M771F M774A M4039",
    "M778B M4046 M4096 M2541D M784E M788C M78CC M40E3 M25626 M7956 M2569A M256C5 M798F M79EB M412F",
    "M7A40 M7A4A M7A4F M2597C R2=25AA7 M7AEE M4202 M25BAB M7BC6 M7BC9 M4227 M25C80 M7CD2 M42A0 M7CE8",
    "M7CE3 M7D00 M25F86 M7D63 M4301 M7DC7 M7E02 M7E45 M4334 M26228 M26247 M4359 M262D9 M7F7A M2633E",
    "M7F95 M7FFA M8005 M264DA M26523 M8060 M265A8 M8070 M2335F M43D5 M80B2 M8103 M440B M813E M5AB5",
    "M267A7 M267B5 M23393 M2339C M8201 M8204 M8F9E M446B M8291 M828B M829D M52B3 M82B1 M82B3 M82BD",
    "M82E6 M26B3C M82E5 M831D M8363 M83AD M8323 M83BD M83E7 M8457 M8353 M83CA M83CC M83DC M26C36",
    "M26D6B M26CD5 M452B M84F1 M84F3 M8516 M273CA M8564 M26F2C M455D M4561 M26FB1 M270D2 M456B M8650",
    "M865C M8667 M8669 M86A9 M8688 M870E M86E2 M8779 M8728 M876B M8786 M45D7 M87E1 M8801 M45F9 M8860",
    "M8863 M27667 M88D7 M88DE M4635 M88FA M34BB M278AE M27966 M46BE M46C7 M8AA0 M8AED M8B8A M8C55",
    "M27CA8 M8CAB M8CC1 M8D1B M8D77 M27F2F M20804 M8DCB M8DBC M8DF0 M208DE M8ED4 M8F38 M285D2 M285ED",
    "M9094 M90F1 M9111 M2872E M911B M9238 A2-26711 M927C M93F9 M9415 M28BFA M958B M4995 M95B7 M28D77",
    "M49E6 M96C3 M5DB2 M9723 M29145 M2921A M4A6E M4A76 M97E0 M2940A M4AB2 M29496 R2=980B M9829 M295B6",
    "M98E2 M4B33 M9929 M99A7 M99C2 M99FE M4BCE M29B30 M9B12 M9C40 M9CFD M4CCE M4CED M9D67 M2A0CE",
    "M4CF8 M2A105 M2A20E M2A291 M9EBB M4D56 M9EF9 M9EFE M9F05 M9F0F M9F16 M9F3B M2A600 X5E2 V134B X5",
    "V212A XACC86 IF0 X2FE10"]

def table : Text.Runs DomainMapping := Text.Runs.ofLines runs ofWord

/-- What becomes of a character. -/
def of (c : Char) : DomainMapping := (table.value? c.toNat).getD .disallowed

end DomainMapping

end QueryDesk.Wire
