import QueryDesk.Json.Error

/-!
# Documents

A `Document` is a JSON text as far as it can be read, with the first fault in the place where it stands.
Whoever goes through a document in order meets its faults in the order of the text, so a reader that
stops early reports what it met first. Each item and member keeps the stretch of text it was read from.
-/

namespace QueryDesk.Json

/-- A stretch of text: where it begins, and what stands behind it. -/
structure Stretch where
  start : List Char
  behind : List Char

/-- The characters of a stretch. -/
def Stretch.chars (s : Stretch) : List Char := s.start.take (s.start.length - s.behind.length)

/-- A text as a whole. -/
def Stretch.whole (cs : List Char) : Stretch := ⟨cs, []⟩

mutual
/-- A value of a text. -/
inductive Document
  | null
  | bool (b : Bool)
  | number (n : Number)
  | text (s : String)
  | array (items : Items)
  | object (members : Fields)
  /-- A value that cannot be held. `passing` is the fault that also stops whoever only passes over the
  value; without it the text goes on behind the value. -/
  | flawed (reading : Fault) (passing : Option Fault)

/-- The items of an array. -/
inductive Items
  | done
  | broken (reading passing : Fault)
  | item (source : Stretch) (value : Document) (rest : Items)

/-- The members of an object, in the order of the text. A name can be one that cannot be held. -/
inductive Fields
  | done
  | broken (reading passing : Fault)
  | field (name : Except Fault String) (source : Stretch) (value : Document) (rest : Fields)
end

mutual
/-- Passes over a value: only what breaks the text is a fault. -/
def Document.pass : Document → Except Fault Unit
  | .flawed _ (some f) => .error f
  | .array items => items.pass
  | .object members => members.pass
  | _ => .ok ()
termination_by structural d => d

def Items.pass : Items → Except Fault Unit
  | .done => .ok ()
  | .broken _ f => .error f
  | .item _ v rest => do v.pass; rest.pass
termination_by structural xs => xs

def Fields.pass : Fields → Except Fault Unit
  | .done => .ok ()
  | .broken _ f => .error f
  | .field _ _ v rest => do v.pass; rest.pass
termination_by structural ms => ms
end

mutual
/-- The document of a value, whose items and members are written compactly. -/
def toDocument : Json → Document
  | .null => .null
  | .bool b => .bool b
  | .number n => .number n
  | .text s => .text s
  | .array xs => .array (toItems xs)
  | .object ms => .object (toFields ms)
termination_by structural j => j

def toItems : List Json → Items
  | [] => .done
  | x :: xs => .item (.whole x.print) (toDocument x) (toItems xs)
termination_by structural xs => xs

def toFields : List (String × Json) → Fields
  | [] => .done
  | (name, v) :: ms => .field (.ok name) (.whole v.print) (toDocument v) (toFields ms)
termination_by structural ms => ms
end

/-- How many items follow. -/
def Items.length : Items → Nat
  | .item _ _ rest => rest.length + 1
  | _ => 0
termination_by structural xs => xs

/-- Where a document comes from, with how many more levels of a text may be opened. -/
inductive Origin
  | text (room : Nat)
  | value

/-- A text may nest arrays and objects 127 deep. -/
def Origin.ofText : Origin := .text 128

/-- One level further in. -/
def Origin.enter : Origin → Except Fault Origin
  | .text room => if room ≤ 1 then .error .tooDeep else .ok (.text (room - 1))
  | .value => .ok .value

end QueryDesk.Json
