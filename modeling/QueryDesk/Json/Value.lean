import QueryDesk.Json.Reader

/-!
# The value of a document

`Document.toJson` is the value a document holds. An object whose first member has the name `embeddedName`
stands for another value, of which that member is the text; the text may hold such objects again.
-/

namespace QueryDesk.Json

/-- What a document holds, unless it cannot be held. -/
def Document.found : Document → Except Fault Found
  | .null => .ok .null
  | .bool b => .ok (.bool b)
  | .number n => .ok (.number n)
  | .text s => .ok (.text s)
  | .array _ => .ok .sequence
  | .object _ => .ok .map
  | .flawed f _ => .error f

/-- The error for a document that holds something else than is wanted. -/
def Document.refuse {α : Type} (d : Document) (wanted : Wanted) : Except Error α :=
  match d.found with
  | .ok found => .error (.mismatch (.wrongType found wanted))
  | .error f => .error (.fault f)

/-- The name of the member that holds the text of the value an object stands for. -/
def embeddedName : String := "$serde_json::private::RawValue"

/-- The value of which a document is the text. -/
def embedded (ofText : String → Except Error Json) : Document → Except Error Json
  | .text s => (ofText s).mapError .embedded
  | d => d.refuse .embedded

/-- What follows the text of a value: nothing. -/
def afterEmbedded : Fields → Except Fault Unit
  | .done => .ok ()
  | .broken .endInObject _ => .error .endInObject
  | .broken .expectedCommaInObject _ => .error .trailingCharacters
  | _ => .error .trailingComma

mutual
/-- The value a document holds, where `ofText` gives the values of texts. Of several members with one name
the last counts. -/
def Document.toJsonWith (ofText : String → Except Error Json) (o : Origin) : Document → Except Error Json
  | .null => .ok .null
  | .bool b => .ok (.bool b)
  | .number n => .ok (.number n)
  | .text s => .ok (.text s)
  | .array items => do return .array (← items.toListWith ofText (← lift o.enter))
  | .object members => do members.toJsonWith ofText (← lift o.enter)
  | .flawed f _ => .error (.fault f)
termination_by structural d => d

/-- The value that an object with the given members is or stands for. -/
def Fields.toJsonWith (ofText : String → Except Error Json) (o : Origin) : Fields → Except Error Json
  | .done => .ok (.object [])
  | .broken f _ => .error (.fault f)
  | .field name _ v rest => do
    let name ← lift name
    if name = embeddedName then
      let x ← embedded ofText v
      lift (afterEmbedded rest)
      return x
    else
      let first := (name, ← v.toJsonWith ofText o)
      return .object (Members.ofList (first :: (← rest.toListWith ofText o)))
termination_by structural ms => ms

def Items.toListWith (ofText : String → Except Error Json) (o : Origin) : Items → Except Error (List Json)
  | .done => .ok []
  | .broken f _ => .error (.fault f)
  | .item _ v rest => do return (← v.toJsonWith ofText o) :: (← rest.toListWith ofText o)
termination_by structural xs => xs

def Fields.toListWith (ofText : String → Except Error Json) (o : Origin) :
    Fields → Except Error (List (String × Json))
  | .done => .ok []
  | .broken f _ => .error (.fault f)
  | .field name _ v rest => do return (← lift name, ← v.toJsonWith ofText o) :: (← rest.toListWith ofText o)
termination_by structural ms => ms
end

/-- The value of a text. The fuel bounds how many texts may stand inside each other; as each is shorter than
the one around it, the length of the first is enough. -/
def ofTextWithin : Nat → String → Except Error Json
  | 0, _ => .error (.fault .tooDeep)
  | fuel + 1, s => do
    let (d, trailing) := Document.ofText s.toList
    let j ← d.toJsonWith (ofTextWithin fuel) .ofText
    match trailing with
    | some g => .error (.fault g)
    | none => return j

/-- The value a document holds. -/
def Document.toJson (o : Origin) (d : Document) : Except Error Json :=
  d.toJsonWith (fun s => ofTextWithin (s.length + 1) s) o

end QueryDesk.Json
