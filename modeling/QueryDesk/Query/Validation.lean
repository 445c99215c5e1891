import QueryDesk.Error
import QueryDesk.Query.Basic
import QueryDesk.Text.Blank
import QueryDesk.Text.Identifier

/-!
# Validation

What is checked before anything is sent: names are identifiers, aliases are declared once, and the bare
operands of comparisons are plain literals. The first fault in a fixed order is reported.
-/

namespace QueryDesk

/-- Succeeds exactly when the condition holds. -/
def ensure (condition : Bool) (v : Violation) : Except Violation Unit :=
  if condition then .ok () else .error v

/-- Checks that a name is an identifier. -/
def checkName (role : NameRole) (name : String) : Except Violation Unit :=
  ensure (Text.isIdentifier name) (.badName role name)

/-- What a plain literal may start with. -/
def isLiteralStart (c : Char) : Bool := Text.isAsciiLetter c || Text.isAsciiDigit c

/-- What a plain literal may go on with. -/
def isLiteralPart (c : Char) : Bool := isLiteralStart c || c == ':' || c == '.' || c == '+' || c == '-'

/-- Whether a text can stand as a number, date, time or identifier without quotes. -/
def isPlainLiteral (s : String) : Bool :=
  match s.toList with
  | [] => false
  | c :: rest => isLiteralStart c && rest.all isLiteralPart

/-- Checks each element of a list in turn. -/
def checkAll {α : Type} (check : α → Except Violation Unit) : List α → Except Violation Unit
  | [] => .ok ()
  | x :: rest => do check x; checkAll check rest

/-- Checks the names of a join. -/
def Join.check (j : Join) : Except Violation Unit := do
  checkName .joinField j.fromField
  checkName .joinEntity j.toEntity
  match j.navigationProperty with
  | some n => if n = "" then .ok () else checkName .navigationProperty n
  | none => .ok ()

/-- Checks joins whose aliases must be new: neither that of the primary entity nor among those seen. -/
def Query.checkJoins (q : Query) (seen : List String) : List Join → Except Violation Unit
  | [] => .ok ()
  | j :: rest => do
    j.check
    ensure (!q.isPrimary j.toEntityAlias && !seen.contains j.toEntityAlias) (.repeatedAlias j.toEntityAlias)
    q.checkJoins (j.toEntityAlias :: seen) rest

/-- Checks a filter. A string compared by order is written without quotes, so it must be a plain
literal. -/
def Filter.check (f : Filter) : Except Violation Unit := do
  checkName .filterField f.fieldName
  match f.value with
  | some (.text s) =>
    ensure (!f.operator.isComparison || isPlainLiteral s) (.notPlainLiteral f.fieldName s)
  | _ => .ok ()

/-- Checks a query. -/
def Query.validate (q : Query) : Except Violation Unit := do
  ensure (!Text.isBlankText q.primaryEntity) .noPrimaryEntity
  ensure (!q.fields.isEmpty) .noFields
  checkName .entity q.primaryEntity
  q.checkJoins [] q.joins
  checkAll (fun f => checkName .field f.fieldName) q.fields
  checkAll Filter.check q.filters
  checkAll (fun s => checkName .sortField s.fieldName) q.sorts

/-- Checks a page number, which counts from one, and a page size. -/
def validatePage (page pageSize maxPageSize : Nat) : Except Violation Unit := do
  ensure (page != 0) .pageBelowOne
  ensure (pageSize != 0 && pageSize ≤ maxPageSize) (.pageSizeOutside maxPageSize)

end QueryDesk
