import QueryDesk.Decimal.Double
import QueryDesk.Named

/-!
# TOML values

A value of a document. Dates and times are held as their text.
-/

namespace QueryDesk

inductive Toml
  | bool (b : Bool)
  | integer (i : Int)
  | number (x : Double)
  | infinite (negative : Bool)
  | notANumber
  | text (s : String)
  /-- a date, a time, or both -/
  | moment (s : String)
  | list (items : List Toml)
  | table (members : List (String × Toml))
  deriving Repr, Inhabited

end QueryDesk
