import QueryDesk.Text.Runs

/-!
# Direction and joining

How characters behave in a line: which way they are written, whether they are marks on the character before
them, and on which sides letters join. The tables cover the characters that may stand in domain names; for
others they say nothing.
-/

namespace QueryDesk.Text

/-- Which way a character is written. -/
inductive Direction
  | leftToRight
  | rightToLeft
  | arabicNumber
  | europeanNumber
  /-- the way of the character before it -/
  | nonspacing
  | neutral
  | other
  deriving DecidableEq, Repr

/-- On which sides a letter joins. -/
inductive Joining
  | none
  | left
  | right
  | both
  /-- it lets others join through it -/
  | through
  deriving DecidableEq, Repr

/-- Runs of characters: a letter for the direction, which is small for marks, and a length. -/
def directionRuns : List String := [
    "O9 X5 OE X5 OF EA O27 L1A O64 L18 O1 L1C1 O2 L7 OE L2 O1C L1 O11 n71 L4 O2 L7F O2 L8B n8 LFF O7",
    "n2D R1 n1 R1 n2 R1 n2 R1 n9 R36 O2 R1 O2 R1 O1 R1 O2 nB R30 n15 AA O1 A2 R3 n1 R65 n8 O1 n6 R2",
    "n2 O1 n4 R2 EA R17 n1 R1E n1D R59 nB R3A n9 R2 O4 R3 n1 R18 n4 R1 n9 R1 n3 R1 n7 R29 n5 R3A n8",
    "R2A n39 l1 L36 n1 l1 n1 L1 l3 n8 l4 n1 l2 L1 nF L2 n2 L1D n1 l3 L37 n1 L1 l3 n6 l6 n1 L9 l9 L2",
    "n4 LC O2 L7 O1 L2 n5 l2 L37 n2 l3 n1B L14 n2 L3 n1 LB n2 l2 L37 n1 L1 l3 n8 l4 n3 L12 n4 LB O8",
    "L1 n8 l3 L37 n1 L1 l1 n1 l1 n6 l6 nA l8 L3 n4 L1C n1 L3B l2 n1 lC n3 L7 lF LD OD n1 l3 n1 L37 n1",
    "L1 n3 l5 n12 LA n4 L12 O7 L2 n1 l2 L38 n1 L1 lE n9 l7 L6 n4 L1A n2 l2 L37 n2 L1 l3 n5 l7 n1 L9",
    "l1 LA n4 L1B n1 l3 L45 n5 l3 n6 lE LC l2 L3D n1 L2 nB O1 L7 n8 L62 n1 L2 n9 LB n6 L4A n2 L1B n1",
    "L1 n1 L1 n1 O4 l2 L31 nE l1 n5 L1 n2 L5 n31 L8 n1 L64 l2 n4 l1 n6 l1 n2 l2 n2 L17 l2 n2 L4 n3 L1",
    "l3 L2 l7 L3 n4 LD n1 l2 n2 l6 n1 L1 l1 LA l3 n1 L2BF n3 L30 O10 L60 O1 L29A O5 L72 n3 lA L13 n2",
    "l1 L1D nE L12 nE L36 l1 n7 l8 n1 l2 nB L7 O1 L1 n3 L10 O20 L75 n2 L22 n1 L76 n3 l4 n2 l9 n1 l6",
    "n7 O6 L98 O22 L17 n2 l2 n3 L37 l1 n1 l1 n9 l1 n1 l2 n8 l6 nD L30 n1F L31 n4 l1 L2F n1 l1 n5 l1",
    "n1 l5 n1 l2 L26 n9 LC n2 l1 L1E l1 n4 l2 n2 l1 n3 L38 n1 l1 n2 l3 n1 l1 n3 lA L28 l8 n8 l2 n5",
    "L95 n3 L1 nD l1 n7 L4 n1 L6 n1 L2 l1 n2 LC6 n41 L20B OB5 LF n34 O4A L3C O1AC L45 O1A L1 O91 L19",
    "O26C L1 O153 L100 O296 L1 O99 LB5 O7 L3 n4 L6 O7 L7F n1 L60 n20 O205 L3 O19 L9 n4 l2 O1 L6 O4 L2",
    "O4 L58 n4 L3 O1 L5A O1 LC4 O24 L1BDC O40 L5690 O40 L13D O3 L5F n4 O1 nA O3 L1D n2 L50 n2 LE O23",
    "L65 O1 L79 n1 L3 n1 L4 n1 L17 l2 n2 l1 O4 n4 L8 O8 L34 OC l2 L32 l10 nA L12 n12 LD n1 L26 n8 L19",
    "nB lD L21 n3 l1 L2F n1 l2 n4 l2 n2 l3 L24 n1 L43 n6 l2 n2 l2 nB L3 n1 L8 n1 l3 L2B l1 n1 l1 L32",
    "n1 L1 n3 L2 n2 L5 n2 L1 n1 L29 l1 n2 l2 L5 l1 nB L69 O56 L23 l2 n1 l2 n1 l2 L1 l1 n3 L4F2E n94",
    "R18C O52 R3F O51 n25 O2E R18D L101 O1 L3E O4D L3 O40 L2D n83 L60 n1 E1F L76 nA L480 R11F O1 RE1",
    "nF R28 n8 RA5 n6 R4E O7 R1E4 nC A10 R120 A20 R2B n2 R99 nB R31 n4 R7A l1 n1 l1 L35 nF LB O14 LA",
    "n1 L2 n2 LA n3 l1 L2D l3 n4 l2 n2 L7 nE L30 n3 L24 n5 l1 n9 LF l2 L2C n1 LC n2 l1 L30 l3 n9 l2",
    "L8 n4 L1 l1 n1 L5C l3 n3 l2 n1 l1 n2 L6 n1 LA0 n1 l3 nD L10 n2 l3 L36 n2 L1 l2 n1 lF L7 l6 L5 l4",
    "n1A LB5 l3 n8 l2 n3 l1 n1 L17 n1 L51 l3 n6 l1 n1 l4 n2 l1 n2 LEB l3 n6 l4 n2 l1 n2 L1B n24 L30",
    "l3 n8 l2 n1 l1 n2 L1F O20 L2B n1 l1 n1 l2 n6 l1 n1 L65 n3 l2 n4 l1 n9 LFC l3 n9 l1 n2 LF5 lB n2",
    "l1 n1 L1 l1 L1 l1 n1 L8D l3 n8 l4 n1 L3 l1C L1 n6 l2 n2 L28 n6 l1 L1 n4 L8 n9 L1 n6 l2 n3 L2E nD",
    "l1 n2 L195 l1 nE l2 L52 n17 l1 n7 l1 n2 l1 n4B L31 n15 L1 n9 L3A l6 n3 l2 n1 l1 n1 L15B n2 l2",
    "LDE O2A L4AF1 n5 L3B n7 L418 n1 L1 l3E n4 L4F O1 L1 nC l2 L4CAB n2 L1261 n50 L215 l2 n3 L3 lE n8",
    "L2 n7 L1E n4 L3B O59 n3 O7B L40 O60 L6A0 n37 L4 n32 L8 n1 LE n1 L16 n465 L100 n8F LA1 n7 L177",
    "n12 L2C n4 LF O1D1 L330 RD0 n52 R22 n7 R5A5 O260 L1D O3 L3D O39 L7A O478 L5 O97 LC O59 L7 OD2",
    "L4E O154 LC O15 L3 OF L9 O1D L3 OB L5 O6 LA OA L6 O8 L8 O7 L9 OCB LF0435"]

/-- The direction of a letter in the table. -/
def Direction.ofLetter (c : Char) : Direction :=
  ([('L', .leftToRight), ('R', .rightToLeft), ('A', .arabicNumber), ('E', .europeanNumber), ('N', .nonspacing),
    ('O', .neutral)].lookup c.toUpper).getD .other

/-- The directions, with whether a character is a mark. -/
def directionTable : Runs (Direction × Bool) :=
  Runs.ofLines directionRuns fun _ word =>
    (hexNat (word.drop 1), (Direction.ofLetter (word.headD 'X'), (word.headD 'X').isLower))

def directionOf (c : Char) : Direction := ((directionTable.value? c.toNat).map (·.1)).getD .other

/-- Whether a character is a mark on the one before it. -/
def isMark (c : Char) : Bool := ((directionTable.value? c.toNat).map (·.2)).getD false

/-- Runs of characters: a letter for the joining and a length. -/
def joiningRuns : List String := [
    "UAD T1 U252 T70 U113 T7 U107 T2D U1 T1 U1 T2 U1 T2 U1 T1 U48 TB U1 T1 U3 D1 U1 R4 D1 R1 D1 R1 D5",
    "R4 D15 R1 D2 T15 UE D2 T1 R3 U1 R3 D10 R12 D26 R1 D2 R9 D1 R1 D1 R1 D2 R2 U1 R1 T7 U2 T6 U2 T2",
    "U1 T4 R2 UA D3 U2 D1 UF T1 R1 T1 D3 R5 D4 R1 D9 R1 D1 R1 D1 R1 D2 R1 T1B U2 R1 DB R3 DF R2 D4 R1",
    "D1 R2 D3 R2 D6 U26 TB U19 D21 T9 U6 D1 U2 T1 U18 T4 U1 T9 U1 T3 U1 T5 U12 R1 D5 R2 D1 R1 DA R1",
    "D1 R3 T3 U4 D1 U1 D4 U1 R1 D1 R2 U5 R13 D4 U2 D5 R1 D1 U7 T9 DA R3 U1 R1 D2 R2 D6 R1 DF U1 T18",
    "U1 T20 U37 T1 U1 T1 U4 T8 U4 T1 U3 T7 UA T2 U1D T1 U3A T1 U4 T4 U8 T1 U14 T2 U1A T1 U2 T2 U39 T1",
    "U4 T2 U4 T2 U2 T3 U3 T1 U1E T2 U3 T1 UB T2 U39 T1 U4 T5 U1 T2 U4 T1 U14 T2 U16 T6 U1 T1 U3A T1",
    "U2 T1 U1 T4 U8 T1 U7 T2 UB T2 U1E T1 U3D T1 UC T1 U32 T1 U3 T1 U37 T1 U1 T3 U5 T3 U1 T4 U7 T2 UB",
    "T2 U1D T1 U3A T1 U2 T1 U6 T1 U5 T2 U14 T2 U1C T2 U39 T2 U4 T4 U8 T1 U14 T2 U1D T1 U48 T1 U7 T3",
    "U1 T1 U5A T1 U2 T7 UC T8 U62 T1 U2 T9 UB T7 U49 T2 U1B T1 U1 T1 U1 T1 U37 TE U1 T5 U1 T2 U5 TB",
    "U1 T24 U9 T1 U66 T4 U1 T6 U1 T2 U2 T2 U19 T2 U4 T3 U10 T4 UD T1 U2 T2 U6 T1 UF T1 U2BF T3 U3B2",
    "T3 U1D T2 U1E T2 U1E T2 U40 T2 U1 T7 U8 T1 U2 TB U9 T1 U29 D1 U2 D1 T3 U1 T1 U10 D59 UC T2 D22",
    "T1 D1 U75 T3 U4 T2 U9 T1 U6 T3 UDB T2 U2 T1 U3A T1 U1 T7 U1 T1 U1 T1 U2 T8 U6 TA U2 T1 U30 T2E",
    "U2 TC U14 T4 U30 T1 U1 T5 U1 T1 U5 T1 U28 T9 UC T2 U20 T4 U2 T2 U1 T3 U38 T1 U1 T2 U3 T1 U1 T3",
    "U3A T8 U2 T2 U98 T3 U1 TD U1 T7 U4 T1 U6 T1 U3 T2 UC6 T40 U20B T1 U1 D1 T2 U1A T5 U31 T5 U5 T6",
    "U60 T21 UBFE T3 U8D T1 U60 T20 U22A T4 U6B T2 U75D4 T4 U1 TA U20 T2 U50 T2 U110 T1 U3 T1 U4 T1",
    "U19 T2 U5 T1 U13 D32 L1 U51 T2 U1A T12 UD T1 U26 T8 U19 TB U2E T3 U30 T1 U2 T4 U2 T2 U27 T1 U43",
    "T6 U2 T2 U2 T2 UC T1 U8 T1 U2F T1 U33 T1 U1 T3 U2 T2 U5 T2 U1 T1 U2A T2 U8 T1 UEE T1 U2 T1 U4 T1",
    "U4F30 T1 U2E1 T10 U10 T10 UCF T1 UF9 T3 U201 T1 UE2 T1 U95 T5 U686 T3 U1 T2 U5 T4 U28 T3 U4 T1",
    "U80 D5 R1 U1 R1 U1 R2 U2 L1 R5 D4 L1 D5 R1 D3 R1 U2 R1 T2 U4 D4 R1 U90 D1 R1 D1 R3 D3 R1 D2 R1",
    "D1 R2 D1 R1 U17 R4 D2 U151 L1 D21 R1 D1 T4 U41 T5 U13D T2 U15 R1 D2 U1 D2 U32 T6 U30 D3 R1 D11",
    "U1 TB D3 R1 U1B D4 R2 DC T4 U2A D1 U1 D2 R3 U1 D1 R2 D2 R1 D2 U1 D1 R2 D1 U4 R1 D1 L1 U35 T1 U36",
    "TF U29 T1 U2 T2 UA T3 U31 T4 U2 T2 U7 T1 U3D T3 U24 T5 U1 T8 U3E T1 UC T2 U34 T9 UA T4 U2 T1 U5F",
    "T3 U2 T1 U1 T2 U6 T1 U2 T1 U9D T1 U3 T8 U15 T2 U39 T2 U3 T1 U25 T7 U3 T5 U46 T6 UD T1 U1 T1 U1",
    "T1 UE T2 U55 T8 U2 T3 U1 T1 U17 T1 U54 T6 U1 T1 U4 T2 U1 T2 UEE T4 U6 T2 U1 T2 U1B T2 U55 T8 U2",
    "T1 U1 T2 U6A T1 U1 T1 U2 T6 U1 T1 U65 T1 U1 T1 U2 T4 U1 T5 U103 T9 U1 T2 U100 T2 U1 T1 U4 T1 U90",
    "T4 U2 T2 U4 T1 U20 TA U28 T6 U2 T4 U8 T1 U9 T6 U2 T3 U2E TD U1 T2 UC6 T1 U1 T3 U1 T1 UC9 T7 U1",
    "T6 U1 T1 U52 T16 U2 T7 U1 T2 U1 T2 U7A T6 U3 T1 U1 T2 U1 T7 U1 T1 U48 T2 U3 T1 U1 T1 U15B T2 UB",
    "T2 U34 T5 U5 T1 U1 T1 U17 T1 U14D5 T11 U6 TF U2CC8 TC U3 T3 U9C0 T5 U3B T7 U418 T1 U3F T4 U51 T1",
    "U4CB8 T2 U1 T4 U125C T2E U2 T17 U220 T3 U9 T10 U2 T7 U1E T4 U94 T3 U7BB T37 U4 T32 U8 T1 UE T1",
    "U16 T5 U1 TF U550 T7 U1 T11 U2 T7 U1 T2 U1 T5 U64 T1 UA0 T7 U177 T1 U3D T4 U1FC T4 UFE T2 UF3 T1",
    "U2 T1 U7 T2 U5 T1 U1DA T7 U29 D44 T8 UC16B5 T1 U1E T60 U80 TF0 U2FE10"]

def joiningTable : Runs Joining :=
  Runs.ofLines joiningRuns fun _ word =>
    (hexNat (word.drop 1),
      ([('L', Joining.left), ('R', .right), ('D', .both), ('T', .through)].lookup (word.headD 'U')).getD .none)

def joiningOf (c : Char) : Joining := (joiningTable.value? c.toNat).getD .none

end QueryDesk.Text
