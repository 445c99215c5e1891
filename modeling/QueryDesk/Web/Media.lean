import QueryDesk.Text.Identifier

/-!
# Media types

A media type is two names with a slash between them, the second of which may end in a plus sign and a
suffix, followed by parameters. `MediaType.parse?` reads one and `MediaType.isJson` says whether it stands
for JSON.
-/

namespace QueryDesk.Web

/-- What the names of a media type are made of. -/
def isTokenChar (c : Char) : Bool :=
  Text.isAsciiLetter c || Text.isAsciiDigit c || "!#$%&'+-.^_\x60|~".toList.contains c

/-- What may stand between the quotes of a parameter value. A backslash stands for itself. -/
def isQuotedChar (c : Char) : Bool := ' ' ≤ c && c ≤ '~'

/-- A media type in lower case, without its parameters. -/
structure MediaType where
  type : String
  subtype : String
  suffix : Option String
  deriving DecidableEq, Repr

namespace MediaType

/-- Where the reader of parameters stands. -/
inductive Place
  /-- before a name -/
  | start
  | name
  /-- before a value -/
  | value
  | plain
  /-- in a quoted value, of which something or nothing has been read -/
  | quoted (begun : Bool)
  | afterQuotes
  deriving DecidableEq, Repr

/-- Whether a text is a list of parameters, of which the part before a place has been read. -/
def parameters : Place → List Char → Bool
  | p, [] => p = .start || p = .value || p = .plain || p = .afterQuotes
  | .start, c :: rest => if c = ' ' then parameters .start rest else isTokenChar c && parameters .name rest
  | .name, c :: rest => if c = '=' then parameters .value rest else isTokenChar c && parameters .name rest
  | .value, c :: rest =>
    if c = '"' then parameters (.quoted false) rest else isTokenChar c && parameters .plain rest
  | .plain, c :: rest => if c = ';' then parameters .start rest else isTokenChar c && parameters .plain rest
  | .quoted begun, c :: rest =>
    if c = '"' ∧ begun then parameters .afterQuotes rest else isQuotedChar c && parameters (.quoted true) rest
  | .afterQuotes, c :: rest =>
    if c = ';' then parameters .start rest else c = ' ' && parameters .afterQuotes rest

def lower (cs : List Char) : String := String.ofList (cs.map Char.toLower)

/-- A subtype and its suffix, which begins after the last plus sign. A plus sign in front does not count. -/
def splitSuffix : List Char → List Char × Option (List Char)
  | [] => ([], none)
  | c :: rest =>
    match rest.reverse.dropWhile (· != '+') with
    | [] => (c :: rest, none)
    | _ :: base => (c :: base.reverse, some (rest.reverse.takeWhile (· != '+')).reverse)

/-- Reads a media type. -/
def parse? (s : String) : Option MediaType :=
  let cs := s.toList
  let type := cs.takeWhile (· != '/')
  match cs.dropWhile (· != '/') with
  | [] => none
  | _ :: rest =>
    let subtype := rest.takeWhile (· != ';')
    let rest := (rest.dropWhile (· != ';')).drop 1
    if type.isEmpty || subtype.isEmpty || !type.all isTokenChar || !subtype.all isTokenChar
        || !parameters .start rest then none
    else
      let (base, suffix) := splitSuffix subtype
      some ⟨lower type, lower base, suffix.map lower⟩

/-- Whether bodies of a media type are JSON. -/
def isJson (m : MediaType) : Bool :=
  m.type == "application" && (m.subtype == "json" || m.suffix == some "json")

end MediaType

end QueryDesk.Web
