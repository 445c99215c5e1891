import QueryDesk.Json.Printer
import QueryDesk.Text.Quoted

/-!
# What can be wrong with JSON

A `Fault` is a place where a text is not JSON, or not JSON that can be held; a `Mismatch` is a value that
does not fit what is being read. `Json.Error.message` words both.
-/

namespace QueryDesk.Json

/-- Where a text stops being JSON that can be held. -/
inductive Fault
  | endInList
  | endInObject
  | endInString
  | endInValue
  | endInNumber
  | expectedColon
  | expectedCommaInList
  | expectedCommaInObject
  | expectedWord
  | expectedValue
  | invalidEscape
  | invalidNumber
  | numberOutOfRange
  | controlInString
  | keyNotString
  /-- a surrogate escape without its partner -/
  | loneSurrogate
  /-- a leading surrogate with no escape after it -/
  | endOfSurrogate
  | trailingComma
  | trailingCharacters
  | tooDeep
  deriving DecidableEq, Repr

def Fault.message : Fault → String
  | .endInList => "EOF while parsing a list"
  | .endInObject => "EOF while parsing an object"
  | .endInString => "EOF while parsing a string"
  | .endInValue | .endInNumber => "EOF while parsing a value"
  | .expectedColon => "expected `:`"
  | .expectedCommaInList => "expected `,` or `]`"
  | .expectedCommaInObject => "expected `,` or `\x7d`"
  | .expectedWord => "expected ident"
  | .expectedValue => "expected value"
  | .invalidEscape => "invalid escape"
  | .invalidNumber => "invalid number"
  | .numberOutOfRange => "number out of range"
  | .controlInString => "control character (\\u0000-\\u001F) found while parsing a string"
  | .keyNotString => "key must be a string"
  | .loneSurrogate => "lone leading surrogate in hex escape"
  | .endOfSurrogate => "unexpected end of hex escape"
  | .trailingComma => "trailing comma"
  | .trailingCharacters => "trailing characters"
  | .tooDeep => "recursion limit exceeded"

/-- What kind of value was met. -/
inductive Found
  | null
  | bool (b : Bool)
  | number (n : Number)
  | text (s : String)
  | sequence
  | map
  deriving DecidableEq, Repr

def Found.message : Found → String
  | .null => "null"
  | .bool b => if b then "boolean `true`" else "boolean `false`"
  | .number (.int i) => "integer `" ++ String.ofList (Number.int i).print ++ "`"
  | .number (.double x) => "floating point `" ++ String.ofList (Number.double x).print ++ "`"
  | .text s => "string " ++ Text.quoted s
  | .sequence => "sequence"
  | .map => "map"

/-- What was asked for. -/
inductive Wanted
  | text
  | bool
  | sequence
  | unit
  /-- an integer of a named width -/
  | integer (width : String)
  /-- a record of a named type -/
  | record (name : String)
  /-- the text of a value -/
  | embedded
  deriving DecidableEq, Repr

def Wanted.message : Wanted → String
  | .text => "a string"
  | .bool => "a boolean"
  | .sequence => "a sequence"
  | .unit => "unit"
  | .integer width => width
  | .record name => "struct " ++ name
  | .embedded => "raw value"

/-- Why a value does not fit. -/
inductive Mismatch
  | wrongType (found : Found) (wanted : Wanted)
  | wrongValue (found : Found) (wanted : Wanted)
  /-- an array that ends before the last item a record needs -/
  | tooShort (length : Nat) (record : String) (fields : Nat)
  /-- an array with more items than the record has fields -/
  | tooLong (length : Nat)
  | unknownVariant (given : String) (known : List String)
  | missingField (name : String)
  | duplicateField (name : String)
  deriving DecidableEq, Repr

def Mismatch.message : Mismatch → String
  | .wrongType found wanted => "invalid type: " ++ found.message ++ ", expected " ++ wanted.message
  | .wrongValue found wanted => "invalid value: " ++ found.message ++ ", expected " ++ wanted.message
  | .tooShort n record fields =>
    "invalid length " ++ toString n ++ ", expected struct " ++ record ++ " with " ++ toString fields
      ++ (if fields = 1 then " element" else " elements")
  | .tooLong n => "invalid length " ++ toString n ++ ", expected fewer elements in array"
  | .unknownVariant given known =>
    "unknown variant `" ++ given ++ "`, expected "
      ++ (if known.length ≤ 2 then "" else "one of ")
      ++ (if known.length = 2 then " or " else ", ").intercalate (known.map fun k => "`" ++ k ++ "`")
  | .missingField name => "missing field `" ++ name ++ "`"
  | .duplicateField name => "duplicate field `" ++ name ++ "`"

/-- What is wrong with a JSON text or value. -/
inductive Error
  | fault (f : Fault)
  | mismatch (m : Mismatch)
  /-- what is wrong with a text inside the text, which stands for a value -/
  | embedded (e : Error)
  deriving DecidableEq, Repr

def Error.message : Error → String
  | .fault f => f.message
  | .mismatch m => m.message
  | .embedded e => e.message

/-- Whether the text breaks off or is not JSON; otherwise it holds something else than is asked for. -/
def Error.isSyntax : Error → Bool
  | .fault _ => true
  | .mismatch _ | .embedded _ => false

/-- A fault as an error. -/
def lift {α : Type} (r : Except Fault α) : Except Error α := r.mapError .fault

end QueryDesk.Json
