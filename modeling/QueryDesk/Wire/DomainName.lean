import QueryDesk.Text.Composition
import QueryDesk.Text.Direction
import QueryDesk.Text.Punycode
import QueryDesk.Wire.DomainMapping

/-!
# Domain names

A domain name is labels with dots between them. `DomainName.toAscii?` brings it into the form in which it is
looked up: its characters are mapped, labels that are not ASCII are encoded behind `xn--`, and what is not a
name is refused.
-/

namespace QueryDesk.Wire.DomainName

/-- What may not stand in a name, even if it is ASCII. -/
def isDenied (c : Char) : Bool := c ≤ ' ' || c == '\x7f' || "%#/:<>?@[\\]^|".toList.contains c

/-- The mark in front of a label that is encoded. -/
def mark : List Char := ['x', 'n', '-', '-']

/-- The last letter in a text in reverse that lets nothing through. -/
def joinedTo (cs : List Char) : Text.Joining :=
  ((cs.find? fun c => Text.joiningOf c != .through).map Text.joiningOf).getD .none

/-- Whether joiners stand where they make a difference: behind a virama, or a non-joiner between letters
that would join. The part in front is given in reverse. -/
def joinersFit (before : List Char) : List Char → Bool
  | [] => true
  | c :: rest =>
    let afterVirama := before.head?.any fun v => Text.combiningClass v == 9
    let fits :=
      if c = '\u200d' then afterVirama
      else if c = '\u200c' then
        afterVirama || ((joinedTo before == .left || joinedTo before == .both)
          && (joinedTo rest == .right || joinedTo rest == .both))
      else true
    fits && joinersFit (c :: before) rest

/-- Whether a character makes a name one that is written from right to left. -/
def turnsName (c : Char) : Bool :=
  Text.directionOf c == .rightToLeft || Text.directionOf c == .arabicNumber

/-- Whether the directions in a label go together. -/
def directionsFit (label : List Char) : Bool :=
  let ds := label.map Text.directionOf
  match ds with
  | [] => true
  | first :: _ =>
    let last := ds.reverse.find? (· != .nonspacing)
    if first = .rightToLeft then
      ds.all (fun d => d != .leftToRight && d != .other)
        && (last == some .rightToLeft || last == some .europeanNumber || last == some .arabicNumber)
        && !(ds.contains .europeanNumber && ds.contains .arabicNumber)
    else
      first == .leftToRight
        && ds.all (fun d => d != .rightToLeft && d != .arabicNumber && d != .other)
        && (last == some .leftToRight || last == some .europeanNumber)

/-- A label with the characters it stands for, unless it is none. -/
def readLabel? (label : List Char) : Option (List Char) :=
  if label.take 4 = mark then
    match Text.Punycode.decode? (label.drop 4) with
    | none => none
    | some cs => if cs.all (·.toNat < 0x80) ∨ Text.compose cs ≠ cs then none else some cs
  else some label

/-- Whether the characters of a label may stand in one. -/
def isLabel (label : List Char) : Bool :=
  label.all (fun c => (DomainMapping.of c).isValid c && !isDenied c) && !label.head?.any Text.isMark && joinersFit [] label

/-- A label as it is looked up. -/
def labelText (label : List Char) : List Char :=
  if label.all (·.toNat < 0x80) then label else mark ++ Text.Punycode.encode label

/-- The name as it is looked up. -/
def toAscii? (cs : List Char) : Option (List Char) := do
  let mapped ← cs.mapM fun c => (DomainMapping.of c).apply c
  let labels ← (Text.splitWords '.' (Text.compose mapped.flatten)).mapM readLabel?
  let turns := labels.any (·.any turnsName)
  if labels.all fun l => isLabel l && (!turns || directionsFit l) then
    return ['.'].intercalate (labels.map labelText)
  else none

end QueryDesk.Wire.DomainName
