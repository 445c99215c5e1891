import QueryDesk.Error
import QueryDesk.Text.Blank
import QueryDesk.Wire.Host

/-!
# Addresses

The address of a request, taken from a text. `Address.ofText?` reads it leniently, as web clients do: blanks
around it and line breaks in it are dropped, dot segments are resolved, and what may not stand in a part of
it is percent-encoded. How the rest is laid out depends on the scheme: on the web there is a host always,
and back slashes count as slashes; a file may have a host; elsewhere all of it is optional.
-/

namespace QueryDesk.Wire

/-- A user with a password, as they stand in an address. -/
structure Credentials where
  user : List Char
  password : List Char
  deriving DecidableEq, Repr

/-- Who is asked, by whom and at which number, unless that is the usual one of the scheme. -/
structure Authority where
  credentials : Option Credentials
  host : Host
  number : Option Nat
  deriving DecidableEq, Repr

/-- Where a request goes. -/
structure Address where
  scheme : String
  authority : Option Authority
  path : String
  query : Option String
  fragment : Option String
  deriving DecidableEq, Repr

/-- A part behind its mark, if it is there. -/
def marked (mark : String) : Option String → String
  | some part => mark ++ part
  | none => ""

/-! ### Credentials -/

namespace Credentials

/-- The part of a text before a mark and the part behind it. -/
def splitMark (mark : Char) (cs : List Char) : List Char × Option (List Char) :=
  match cs.dropWhile (· != mark) with
  | [] => (cs, none)
  | _ :: rest => (cs.takeWhile (· != mark), some rest)

/-- Percent-encodes what would be mistaken for another part of an address. -/
def encode (cs : List Char) : List Char :=
  Text.percentEncode (fun c => ' ' < c && c ≤ '~' && !"\"#<>?\x60\x7b\x7d/:;=@[\\]^|".toList.contains c) cs

/-- The credentials of a text, unless both of them are empty. -/
def ofText? (cs : List Char) : Option Credentials :=
  let (user, password) := splitMark ':' cs
  let c : Credentials := ⟨encode user, encode (password.getD [])⟩
  if c.user = [] ∧ c.password = [] then none else some c

/-- The text of credentials. The colon goes with an empty password. -/
def text (c : Credentials) : String :=
  String.ofList c.user ++ (if c.password = [] then "" else ":" ++ String.ofList c.password) ++ "@"

/-- Whether somebody can sign in with credentials: the name of the user is text, and so is the password if
the name is empty. -/
def isUsable (c : Credentials) : Bool :=
  match Text.decodeSegment? c.user with
  | none => false
  | some user => user != "" || (c.password ≠ [] && (Text.decodeSegment? c.password).isSome)

end Credentials

/-! ### Authorities -/

namespace Authority

def ofHost (h : Host) : Authority := ⟨none, h, none⟩

def text (a : Authority) : String :=
  ((a.credentials.map Credentials.text).getD "") ++ a.host.text ++ marked ":" (a.number.map toString)

/-- What stands in front of the first colon outside brackets, and what begins with it. -/
def splitHost (inBrackets : Bool) : List Char → List Char × List Char
  | [] => ([], [])
  | c :: rest =>
    if c = ':' ∧ !inBrackets then ([], c :: rest)
    else
      let (host, behind) := splitHost (c == '[' || (inBrackets && c != ']')) rest
      (c :: host, behind)

/-- The number behind a colon, if digits stand there, and what follows. Only a back slash may. -/
def number? (cs : List Char) : Option (Option Nat × List Char) :=
  let ds := cs.takeWhile Text.isAsciiDigit
  let rest := cs.dropWhile Text.isAsciiDigit
  if rest ≠ [] ∧ rest.head? ≠ some '\\' then none
  else if ds = [] then some (none, rest)
  else do
    let n ← Text.ofDigits? 10 ds
    if n < 65536 then some (some n, rest) else none

/-- What stands behind the last `@`, and what stands in front of it. -/
def splitCredentials (cs : List Char) : List Char × Option (List Char) :=
  let (behind, front) := Credentials.splitMark '@' cs.reverse
  (behind.reverse, front.map List.reverse)

/-- The authority of a text up to the path, and the start of the path if it begins with a back slash.
`host?` reads the host. -/
def ofText? (host? : List Char → Option Host) (usual : Option Nat) (cs : List Char) :
    Option (Authority × List Char) := do
  let (place, front) := splitCredentials cs
  if place = [] ∧ front = some [] then none
  let credentials := front.bind Credentials.ofText?
  let (name, behind) := splitHost false place
  let host ← host? name
  if host = .nobody ∧ (credentials ≠ none ∨ behind ≠ []) then none
  let (number, rest) ← number? (behind.drop 1)
  return (⟨credentials, host, number.filter fun n => some n ≠ usual⟩, rest)

end Authority

namespace Address

/-! ### Paths -/

/-- What stands for a dot in a segment of a path. -/
def isDot (cs : List Char) : Bool := [['.'], "%2e".toList].contains (cs.map Char.toLower)

def isTwoDots (cs : List Char) : Bool :=
  ["..".toList, ".%2e".toList, "%2e.".toList, "%2e%2e".toList].contains (cs.map Char.toLower)

/-- Whether a segment names a drive. -/
def isDrive : List Char → Bool
  | [c, mark] => Text.isAsciiLetter c && (mark == ':' || mark == '|')
  | _ => false

/-- The segments in reverse without the last one. A drive is not left. -/
def leave : List (List Char) → List (List Char)
  | s :: before => if isDrive s then s :: before else before
  | [] => []

/-- The segments in reverse with one more. The drive of a file, which comes first, has a colon. -/
def enter (isFile : Bool) (before : List (List Char)) (s : List Char) : List (List Char) :=
  (if isFile && before.isEmpty && isDrive s then s.take 1 ++ [':'] else s) :: before

/-- The segments of a path with the dot segments resolved, after those in front of them. A dot segment at
the end leaves an empty one. -/
def resolve (isFile : Bool) (before : List (List Char)) : List (List Char) → List (List Char)
  | [] => before.reverse
  | [s] =>
    if isTwoDots s then ([] :: leave before).reverse
    else if isDot s then ([] :: before).reverse
    else (enter isFile before s).reverse
  | s :: rest =>
    if isTwoDots s then resolve isFile (leave before) rest
    else if isDot s then resolve isFile before rest
    else resolve isFile (enter isFile before s) rest

/-- Percent-encodes everything but the visible characters that are not listed. -/
def encodePart (listed : String) (cs : List Char) : List Char :=
  Text.percentEncode (fun c => ' ' < c && c ≤ '~' && !listed.toList.contains c) cs

/-- Whether a character parts segments. -/
def isSlash (lenient : Bool) (c : Char) : Bool := c == '/' || (lenient && c == '\\')

/-- The segments of a path, resolved. -/
def segments (isLenient isFile : Bool) (cs : List Char) : List (List Char) :=
  resolve isFile [] (Text.splitAt '/' (cs.map fun c => if isSlash isLenient c then '/' else c))

/-- The text of segments, with a slash in front of each. -/
def segmentsText (segments : List (List Char)) : String :=
  String.join (segments.map fun s => "/" ++ String.ofList (encodePart "\"#<>?\x60\x7b\x7d" s))

/-- The text without a slash in front. -/
def dropSlash (isLenient : Bool) : List Char → List Char
  | [] => []
  | c :: rest => if isSlash isLenient c then rest else c :: rest

/-! ### Layouts -/

/-- The number a host on the web is asked at under a scheme. -/
def usualNumber? (scheme : String) : Option Nat :=
  [("http", 80), ("https", 443), ("ws", 80), ("wss", 443), ("ftp", 21)].lookup scheme

/-- An authority and a path, of the text between scheme and query. -/
abbrev Target := Option Authority × String

/-- What an address on the web asks for. -/
def web? (usual : Nat) (cs : List Char) : Option Target := do
  let cs := cs.dropWhile (isSlash true)
  let (authority, _) ← Authority.ofText? Host.ofText? (some usual) (cs.takeWhile (!isSlash true ·))
  let path := dropSlash true (cs.dropWhile (!isSlash true ·))
  return (some authority, segmentsText (segments true false path))

/-- What the address of a file asks for. A path with a drive is on this host. -/
def file (host : Host) (path : List Char) : Target :=
  let path := segments true true path
  let host := if path.head?.any isDrive then .nobody else host
  (some (.ofHost host), "/" ++ Text.trimStartSlashes (segmentsText path))

/-- What the address of a file asks for: with two slashes in front, the host may be named. -/
def file? (cs : List Char) : Option Target :=
  if (cs.take 2).length = 2 ∧ (cs.take 2).all (isSlash true) then
    let rest := cs.drop 2
    let name := rest.takeWhile (!isSlash true ·)
    let path := rest.dropWhile (!isSlash true ·)
    if isDrive name then some (file .nobody rest)
    else if name = [] then some (file .nobody path)
    else do
      let host ← Host.ofText? name
      if host = .name "localhost" then return file .nobody path
      return file host (dropSlash true path)
  else some (file .nobody (dropSlash true cs))

/-- What an address elsewhere asks for. Without a slash in front the text is taken as it is. -/
def other? (cs : List Char) : Option Target :=
  match cs with
  | '/' :: '/' :: rest => do
    let (authority, front) ←
      Authority.ofText? Host.ofRawText? none (rest.takeWhile (!isSlash false ·))
    let path := front ++ rest.dropWhile (!isSlash false ·)
    return (some authority,
      if path = [] then "" else segmentsText (segments false false (dropSlash false path)))
  | '/' :: rest => some (none, segmentsText (segments false false rest))
  | _ => some (none, String.ofList (Text.percentEncode Host.isPlain cs))

/-- What an address asks for under a scheme. -/
def target? (scheme : String) (cs : List Char) : Option Target :=
  if scheme = "file" then file? cs
  else match usualNumber? scheme with
    | some usual => web? usual cs
    | none => other? cs

/-! ### Addresses -/

def isControlOrSpace (c : Char) : Bool := c ≤ ' '

def isSchemeChar (c : Char) : Bool :=
  Text.isAsciiLetter c || Text.isAsciiDigit c || c == '+' || c == '-' || c == '.'

/-- The scheme in lower case and what follows its colon. -/
def splitScheme? (cs : List Char) : Option (String × List Char) :=
  match cs with
  | [] => none
  | c :: _ =>
    if Text.isAsciiLetter c then
      match cs.dropWhile isSchemeChar with
      | ':' :: rest => some (String.ofList ((cs.takeWhile isSchemeChar).map Char.toLower), rest)
      | _ => none
    else none

/-- What must be encoded in a query. -/
def queryMarks (scheme : String) : String :=
  if scheme = "file" ∨ (usualNumber? scheme).isSome then "\"#<>'" else "\"#<>"

/-- The address of a text. -/
def ofText? (s : String) : Option Address := do
  let cs := (Text.trimWhile isControlOrSpace s.toList).filter fun c => !(c == '\t' || c == '\n' || c == '\r')
  let (scheme, rest) ← splitScheme? cs
  let (rest, fragment) := Credentials.splitMark '#' rest
  let (rest, query) := Credentials.splitMark '?' rest
  let (authority, path) ← target? scheme rest
  return {
    scheme := scheme
    authority := authority
    path := path
    query := query.map fun q => String.ofList (encodePart (queryMarks scheme) q)
    fragment := fragment.map fun f => String.ofList (encodePart "\"<>\x60" f) }

/-- What stands for the authority. Without one, a path does not look like it. -/
def authorityText (a : Address) : String :=
  match a.authority with
  | some authority => "//" ++ authority.text
  | none => if a.path.startsWith "//" then "/." else ""

/-- The text of an address. -/
def text (a : Address) : String :=
  a.scheme ++ ":" ++ a.authorityText ++ a.path ++ marked "?" a.query ++ marked "#" a.fragment

/-- Whether an address says who is asked. -/
def hasHost (a : Address) : Bool := a.authority.any (·.host ≠ .nobody)

/-- The address without the credentials, which are sent in another way if they can be used. -/
def withoutCredentials (a : Address) : Address :=
  { a with authority := a.authority.map fun authority =>
      { authority with credentials := authority.credentials.filter (!·.isUsable) } }

/-- The greatest length of an address that is asked. -/
def maxLength : Nat := 65534

/-- Whether a request can be sent to an address. -/
def isReachable (a : Address) : Bool :=
  (a.scheme == "http" || a.scheme == "https")
    && a.authority.all (fun authority => !authority.host.text.toList.any "\"\x60\x7b\x7d".toList.contains)
    && a.text.length ≤ maxLength

end Address

end QueryDesk.Wire
