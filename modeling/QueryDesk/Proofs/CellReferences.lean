import QueryDesk.Proofs.RequestText
import QueryDesk.Workbook.Reference

/-!
# Cell references read back

The letters of a column are a number in base 26 without a zero, so each column has its own letters, and digits end them.
`readReference` gives back the column and the row that a reference was made of (`readReference_cellReference`).
-/

namespace QueryDesk.Workbook

open OData (readUntil readUntil_append readNumber readNumber_toString)

/-! ### The reader -/

/-- What a letter counts, which is 1 for A. -/
def letterValue? (c : Char) : Option Nat :=
  if 'A' ≤ c ∧ c ≤ 'Z' then some (c.toNat - 'A'.toNat + 1) else none

/-- The number that letters stand for. A letter counts 26 times as much as it would one place to its right. -/
def readLetters (cs : List Char) : Option Nat :=
  cs.foldlM (fun n c => (letterValue? c).map (n * 26 + ·)) 0

/-- The column, from zero, and the row, from one, that a reference names. -/
def readReference (s : String) : Option (Nat × Nat) := do
  let (name, number) := readUntil Char.isDigit s.toList
  let column ← readLetters name
  let row ← readNumber number
  if column = 0 then none else some (column - 1, row)

/-! ### Letters -/

theorem letterValue?_letter : ∀ d < 26, letterValue? (letter d) = some (d + 1) := by
  decide

theorem isDigit_letter : ∀ d < 26, (letter d).isDigit = false := by
  decide

theorem letters_zero : letters 0 = [] := by
  rw [letters, if_pos rfl]

theorem letters_of_ne_zero {n : Nat} (h : n ≠ 0) :
    letters n = letters ((n - 1) / 26) ++ [letter ((n - 1) % 26)] := by
  rw [letters, if_neg h]

theorem readLetters_letters (n : Nat) : readLetters (letters n) = some n := by
  induction n using letters.induct with
  | case1 => rw [letters_zero]; rfl
  | case2 n hn ih =>
    have hlast := letterValue?_letter _ (Nat.mod_lt (n - 1) (by decide : 0 < 26))
    have hvalue : (n - 1) / 26 * 26 + ((n - 1) % 26 + 1) = n := by omega
    rw [letters_of_ne_zero hn, readLetters, List.foldlM_append]
    rw [readLetters] at ih
    simp only [ih, List.foldlM_cons, List.foldlM_nil, hlast, Option.map_some, Option.bind_eq_bind, Option.bind_some,
      hvalue, Option.pure_def]

theorem exists_letter_of_mem_letters {n : Nat} {c : Char} (h : c ∈ letters n) : ∃ d < 26, c = letter d := by
  induction n using letters.induct with
  | case1 =>
    rw [letters_zero] at h
    cases h
  | case2 n hn ih =>
    rw [letters_of_ne_zero hn, List.mem_append, List.mem_singleton] at h
    rcases h with h | rfl
    · exact ih h
    · exact ⟨_, Nat.mod_lt _ (by decide), rfl⟩

theorem isDigit_of_mem_letters {n : Nat} {c : Char} (h : c ∈ letters n) : c.isDigit = false := by
  obtain ⟨d, hd, rfl⟩ := exists_letter_of_mem_letters h
  exact isDigit_letter d hd

/-! ### References -/

theorem isDigit_head?_toString (n : Nat) : ∀ c ∈ (toString n).toList.head?, c.isDigit = true := by
  intro c hc
  rw [Nat.toString_eq_ofList_toDigits, String.toList_ofList] at hc
  exact Nat.isDigit_of_mem_toDigits (by decide) (by decide) (List.mem_of_mem_head? hc)

/-- The column and the row of a cell can be told from its reference. -/
theorem readReference_cellReference (column row : Nat) :
    readReference (cellReference column row) = some (column, row) := by
  have hsplit : readUntil Char.isDigit (cellReference column row).toList =
      (letters (column + 1), (toString row).toList) := by
    rw [cellReference, columnLetter, String.toList_append, String.toList_ofList]
    exact readUntil_append (fun c => isDigit_of_mem_letters) (isDigit_head?_toString row)
  simp only [readReference, hsplit, readLetters_letters, readNumber_toString, Option.bind_eq_bind, Option.bind_some,
    Nat.succ_ne_zero, if_false, Nat.add_sub_cancel]

end QueryDesk.Workbook
