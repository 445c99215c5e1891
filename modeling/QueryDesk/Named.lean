/-!
# Values by name

The members of tables, in the order in which their names were first used.
-/

namespace QueryDesk

/-- Values by name, each name once. -/
abbrev Named (α : Type) := List (String × α)

/-- Named values with one of them set, in its place or at the end. -/
def Named.set {α : Type} (name : String) (v : α) : Named α → Named α
  | [] => [(name, v)]
  | (n, w) :: rest => if n = name then (n, v) :: rest else (n, w) :: Named.set name v rest

/-- The values of a list by name, of which a later one replaces an earlier one of the same name. -/
def Named.ofList {α : Type} (vs : List (String × α)) : Named α :=
  vs.foldl (fun ns (name, v) => Named.set name v ns) []

end QueryDesk
