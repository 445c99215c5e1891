import QueryDesk.Text.Hex

/-!
# Tables of characters

A table gives a value to every number from zero on, in runs of numbers with the same value. It is written as
words, one for each run.
-/

namespace QueryDesk.Text

/-- The number of hexadecimal digits, zero where they are none. -/
def hexNat (ds : List Char) : Nat := (ofHex? ds).getD 0

/-- The words of a text between separators. -/
def splitWords (separator : Char) (cs : List Char) : List (List Char) :=
  let (word, words) := cs.foldr
    (fun c (word, words) => if c = separator then ([], word :: words) else (c :: word, words)) ([], [])
  word :: words

/-- The starts of runs in ascending order, each with the value of the run. -/
structure Runs (α : Type) where
  entries : Array (Nat × α)

namespace Runs
variable {α : Type}

/-- The table of lines of words. `read` gives the length and the value of the run that begins at a number. -/
def ofLines (lines : List String) (read : Nat → List Char → Nat × α) : Runs α :=
  let words := lines.flatMap fun line => splitWords ' ' line.toList
  ⟨(words.foldl (fun (start, entries) word =>
    let (length, v) := read start word
    (start + length, entries.push (start, v))) ((0, #[]) : Nat × Array (Nat × α))).2⟩

/-- The last entry from `low` up to `high` that does not begin behind a number, by halving the distance. -/
def search (r : Runs α) (n : Nat) : Nat → Nat → Nat → Option α
  | 0, low, _ => r.entries[low]?.map (·.2)
  | steps + 1, low, high =>
    if high ≤ low + 1 then r.entries[low]?.map (·.2)
    else
      let middle := (low + high) / 2
      match r.entries[middle]? with
      | some (start, _) => if start ≤ n then r.search n steps middle high else r.search n steps low middle
      | none => none

/-- The value of a number. -/
def value? (r : Runs α) (n : Nat) : Option α := r.search n 32 0 r.entries.size

end Runs

end QueryDesk.Text
