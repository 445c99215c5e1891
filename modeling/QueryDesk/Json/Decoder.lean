import QueryDesk.Json.Value

/-!
# Decoding documents

A `Decoder` takes a value of a domain type out of a document. `Record` decodes an object with known names,
or an array with the fields in their order; records are built from `field`s with `<*>`, and
`Record.decoder` reports what it meets first: wrong values in the order of the text, a repeated name where
it is repeated, a missing field last.
-/

namespace QueryDesk.Json

/-- Takes a value out of a document, of which the text is given as well. -/
abbrev Decoder (α : Type) := Origin → Stretch → Document → Except Error α

namespace Decoder

def text : Decoder String
  | _, _, .text s => .ok s
  | _, _, d => d.refuse .text

def bool : Decoder Bool
  | _, _, .bool b => .ok b
  | _, _, d => d.refuse .bool

def unit : Decoder Unit
  | _, _, .null => .ok ()
  | _, _, d => d.refuse .unit

/-- An integer from `low` to `high`, the range of a named width. -/
def integer (width : String) (low high : Int) : Decoder Int
  | _, _, .number (.int i) =>
    if low ≤ i ∧ i ≤ high then .ok i else .error (.mismatch (.wrongValue (.number (.int i)) (.integer width)))
  | _, _, d => d.refuse (.integer width)

/-- A natural number of 32 bits. -/
def nat32 : Decoder Nat := fun o s d => (integer "u32" 0 4294967295 o s d).map Int.toNat

/-- A natural number of 64 bits. -/
def nat64 : Decoder Nat := fun o s d => (integer "u64" 0 18446744073709551615 o s d).map Int.toNat

/-- An integer of 64 bits. -/
def int64 : Decoder Int := integer "i64" (-9223372036854775808) 9223372036854775807

/-- Any value. -/
def json : Decoder Json := fun o _ d => d.toJson o

/-- The text of a value, which is only passed over. -/
def source : Decoder String := fun _ s d => (lift d.pass).map fun _ => String.ofList s.chars

/-- A value that null stands for the absence of. What begins like the word for null must be it. -/
def nullable {α : Type} (f : Decoder α) : Decoder (Option α)
  | _, _, .null => .ok none
  | o, s, .flawed g passing =>
    if s.first? = some 'n' then .error (.fault g) else (f o s (.flawed g passing)).map some
  | o, s, d => (f o s d).map some

/-- Decodes the items in their order. -/
def items {α : Type} (f : Decoder α) (o : Origin) : Items → Except Error (List α)
  | .done => .ok []
  | .broken g _ => .error (.fault g)
  | .item s v rest => do
    let x ← f o s v
    return x :: (← items f o rest)
termination_by structural xs => xs

def list {α : Type} (f : Decoder α) : Decoder (List α)
  | o, _, .array xs => do items f (← lift o.enter) xs
  | _, _, d => d.refuse .sequence

/-- What follows the single member of a variant. -/
def afterVariant : Fields → Except Error Unit
  | .done => .ok ()
  | .broken .endInObject _ => .error (.fault .endInObject)
  | _ => .error (.fault .expectedValue)

/-- The fault of a variant that cannot be read. Only a string is looked into. -/
def variantFault (s : Stretch) (f : Fault) : Fault :=
  if f = .expectedColon ∨ f = .endInObject then f
  else match s.first? with
    | none => .endInValue
    | some c => if c = '"' then f else .expectedValue

/-- One of several named variants: its name, or an object with the name as its one member and null as the
value. -/
def variant {α : Type} (byName : String → Except Error α) : Decoder α
  | _, _, .text s => byName s
  | o, _, .object fields => do
    let _ ← lift o.enter
    match fields with
    | .field name s v rest => do
      let x ← byName (← lift name)
      unit o s v
      afterVariant rest
      return x
    | .done => .error (.fault .expectedValue)
    | .broken f _ => .error (.fault f)
  | _, s, .flawed f _ => .error (.fault (variantFault s f))
  | _, _, _ => .error (.fault .expectedValue)

/-- The variant of a table, of which the names are then the known ones. -/
def oneOf {α : Type} (table : List (String × α)) : Decoder α :=
  variant fun name =>
    match table.lookup name with
    | some x => .ok x
    | none => .error (.mismatch (.unknownVariant name (table.map (·.1))))

end Decoder

/-- A decoder of the fields of a record. `State` is what is known of the fields while the members are gone
through. -/
structure Record (α : Type) where
  State : Type
  start : State
  /-- how many fields there are -/
  size : Nat
  /-- takes a member, if its name is one of the fields -/
  accept : Origin → String → Stretch → Document → State → Option (Except Error State)
  /-- the record, once all members have been seen -/
  finish : State → Except Error α
  /-- takes the fields from the front of the items of an array. The number of items before them and the
  error for an array that ends at a place are given. -/
  take : (Nat → Error) → Origin → Nat → Items → Except Error (α × Items)

namespace Record
variable {α β : Type}

/-- The record without fields. -/
def pure (a : α) : Record α where
  State := Unit
  start := ()
  size := 0
  accept _ _ _ _ _ := none
  finish _ := .ok a
  take _ _ _ items := .ok (a, items)

/-- A field. `absent` is its value in an object that lacks it and `short` in an array that ends before
it. -/
def fieldWith (name : String) (f : Decoder α) (absent short : Option α) : Record α where
  State := Option α
  start := none
  size := 1
  accept o n s d known :=
    if n = name then
      some (if known.isSome then .error (.mismatch (.duplicateField name)) else (f o s d).map some)
    else none
  finish known :=
    match known, absent with
    | some a, _ => .ok a
    | none, some a => .ok a
    | none, none => .error (.mismatch (.missingField name))
  take ends o n items :=
    match items with
    | .item s v rest => (f o s v).map (·, rest)
    | .broken g _ => .error (.fault g)
    | .done =>
      match short with
      | some a => .ok (a, .done)
      | none => .error (ends n)

/-- A field that must be there. -/
def field (name : String) (f : Decoder α) : Record α := fieldWith name f none none

/-- A field with a value for when it is not there. -/
def fieldOr (name : String) (f : Decoder α) (default : α) : Record α :=
  fieldWith name f (some default) (some default)

/-- A field that may be null or left out. -/
def optional (name : String) (f : Decoder α) : Record (Option α) := fieldOr name (.nullable f) none

/-- A field that may be null or left out of an object, but not of an array. -/
def optionalNamed (name : String) (f : Decoder α) : Record (Option α) :=
  fieldWith name (.nullable f) (some none) none

/-- The fields of one record and then those of another. -/
def seq (f : Record (α → β)) (x : Record α) : Record β where
  State := f.State × x.State
  start := (f.start, x.start)
  size := f.size + x.size
  accept o n s d known :=
    match f.accept o n s d known.1 with
    | some r => some (r.map (·, known.2))
    | none => (x.accept o n s d known.2).map (·.map (known.1, ·))
  finish known := do
    let g ← f.finish known.1
    return g (← x.finish known.2)
  take ends o n items := do
    let (g, items) ← f.take ends o n items
    let (a, items) ← x.take ends o (n + f.size) items
    return (g a, items)

instance : Functor Record where
  map f x := seq (pure f) x

instance : Applicative Record where
  pure := pure
  seq f x := seq f (x ())

/-- Goes through the members, passing over those that are not fields. -/
def walk (r : Record α) (o : Origin) (known : r.State) : Fields → Except Error r.State
  | .done => .ok known
  | .broken f _ => .error (.fault f)
  | .field name s v rest => do
    match r.accept o (← lift name) s v known with
    | some next => walk r o (← next) rest
    | none =>
      lift v.pass
      walk r o known rest
termination_by structural fields => fields

/-- What is left of an array after the fields. -/
def rest (o : Origin) (length : Nat) : Items → Except Error Unit
  | .done => .ok ()
  | .broken f _ =>
    .error (.fault (if f = .endInList ∨ f = .trailingComma then f else .trailingCharacters))
  | .item _ _ _ =>
    match o with
    | .text _ => .error (.fault .trailingCharacters)
    | .value => .error (.mismatch (.tooLong length))

/-- The decoder of a record with the name of its type. -/
def decoder (name : String) (r : Record α) : Decoder α
  | o, _, .object fields => do
    r.finish (← r.walk (← lift o.enter) r.start fields)
  | o, _, .array items => do
    let (a, left) ← r.take (fun n => .mismatch (.tooShort n name r.size)) (← lift o.enter) 0 items
    rest o items.length left
    return a
  | _, _, d => d.refuse (.record name)

end Record

/-- Decodes a whole text. -/
def decodeText {α : Type} (f : Decoder α) (text : String) : Except Error α := do
  let (d, trailing) := Document.ofText text.toList
  let a ← f .ofText (.whole text.toList) d
  match trailing with
  | some g => .error (.fault g)
  | none => return a

/-- Decodes a value. -/
def decodeJson {α : Type} (f : Decoder α) (j : Json) : Except Error α := f .value (.whole j.print) (toDocument j)

/-- The value of a text. -/
def parse (text : String) : Except Error Json := decodeText .json text

/-- A text without the blanks around it. -/
def bare (text : String) : String := String.ofList ((skipSpace (skipSpace text.toList).reverse).reverse)

/-- A text that has been checked to be JSON, without the blanks around it. -/
def sourceText (text : String) : Except Error String := do
  let _ ← decodeText .source text
  return bare text

end QueryDesk.Json
