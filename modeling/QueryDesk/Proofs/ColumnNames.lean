import Mathlib.Data.List.Induction
import Mathlib.Data.List.Shortlex
import Mathlib.Data.Nat.Digits.Defs
import Mathlib.Data.Set.Function
import Mathlib.Logic.Relation
import QueryDesk.Proofs.CellReferences
import QueryDesk.Proofs.Utf8

/-!
# Column names

The names of the columns are the numbers from one in base 26 without a zero: the letters A to Z are the digits 1 to 26,
each text of these letters that is not empty is the name of one column, and the columns come in the order of their
names, the shorter name first. A name is written from its last letter to its first by a loop over machine words. The
loop comes to an end, its sums and differences stay within their words, and it leaves the name.
`columnLetter_numbers_columns` says all of it for the indices whose successor is a word of 64 bits.
-/

namespace QueryDesk.Workbook

/-! ### The number of a name -/

/-- The digit that a letter stands for, 1 for A and 26 for Z. -/
def letterDigit (c : Char) : Nat := c.toNat - 'A'.toNat + 1

/-- The number that letters stand for in base 26. -/
def lettersNumber (cs : List Char) : Nat := Nat.ofDigits 26 (cs.reverse.map letterDigit)

/-- The number that a name stands for. -/
def columnNumber (name : String) : Nat := lettersNumber name.toList

/-- Letters from A to Z. -/
def AreLetters (cs : List Char) : Prop := ∀ c ∈ cs, 'A' ≤ c ∧ c ≤ 'Z'

/-- A text of letters from A to Z that is not empty. -/
structure IsColumnName (name : String) : Prop where
  ne_nil : name.toList ≠ []
  areLetters : AreLetters name.toList

variable {cs : List Char} {c : Char} {m n : Nat}

theorem lettersNumber_concat (cs : List Char) (c : Char) :
    lettersNumber (cs ++ [c]) = letterDigit c + 26 * lettersNumber cs := by
  rw [lettersNumber, List.reverse_concat, List.map_cons, Nat.ofDigits_cons, ← lettersNumber]

theorem areLetters_concat : AreLetters (cs ++ [c]) ↔ AreLetters cs ∧ 'A' ≤ c ∧ c ≤ 'Z' := by
  rw [AreLetters, List.forall_mem_append, List.forall_mem_singleton, AreLetters]

theorem letter_range : ∀ d < 26, 'A' ≤ letter d ∧ letter d ≤ 'Z' := by
  decide

theorem areLetters_letters (n : Nat) : AreLetters (letters n) := by
  intro c hc
  obtain ⟨d, hd, rfl⟩ := exists_letter_of_mem_letters hc
  exact letter_range d hd

theorem letters_ne_nil (h : n ≠ 0) : letters n ≠ [] := by
  rw [letters_of_ne_zero h]
  exact List.concat_ne_nil _ _

theorem exists_letter_of_range (hA : 'A' ≤ c) (hZ : c ≤ 'Z') : ∃ d < 26, c = letter d ∧ letterDigit c = d + 1 := by
  have hlow : 'A'.toNat ≤ c.toNat := UInt32.le_iff_toNat_le.1 (Char.le_def.1 hA)
  have hhigh : c.toNat ≤ 'Z'.toNat := UInt32.le_iff_toNat_le.1 (Char.le_def.1 hZ)
  have hwidth : 'Z'.toNat - 'A'.toNat < 26 := by decide
  refine ⟨c.toNat - 'A'.toNat, by omega, ?_, rfl⟩
  rw [letter, Nat.add_sub_cancel' hlow, Char.ofNat_toNat]

/-- The reader of references reads this number. -/
theorem readLetters_eq (h : AreLetters cs) : readLetters cs = some (lettersNumber cs) := by
  induction cs using List.reverseRecOn with
  | nil => rfl
  | append_singleton cs c ih =>
    obtain ⟨hcs, hc⟩ := areLetters_concat.1 h
    have hread : cs.foldlM (fun n c => (letterValue? c).map (n * 26 + ·)) 0 = some (lettersNumber cs) := ih hcs
    have hdigit : letterValue? c = some (letterDigit c) := if_pos hc
    rw [readLetters, List.foldlM_append, hread, lettersNumber_concat, Nat.add_comm, Nat.mul_comm 26]
    simp only [Option.bind_eq_bind, Option.bind_some, List.foldlM_cons, hdigit, Option.map_some, List.foldlM_nil,
      Option.pure_def]

theorem lettersNumber_letters (n : Nat) : lettersNumber (letters n) = n :=
  Option.some.inj ((readLetters_eq (areLetters_letters n)).symm.trans (readLetters_letters n))

theorem letters_lettersNumber (h : AreLetters cs) : letters (lettersNumber cs) = cs := by
  induction cs using List.reverseRecOn with
  | nil => exact letters_zero
  | append_singleton cs c ih =>
    obtain ⟨hcs, hA, hZ⟩ := areLetters_concat.1 h
    obtain ⟨d, hd, rfl, hdigit⟩ := exists_letter_of_range hA hZ
    -- one less, since the digits begin with one
    have hrest : (d + 1 + 26 * lettersNumber cs - 1) / 26 = lettersNumber cs := by omega
    have hlast : (d + 1 + 26 * lettersNumber cs - 1) % 26 = d := by omega
    rw [lettersNumber_concat, hdigit, letters_of_ne_zero (by omega), hrest, hlast, ih hcs]

theorem columnNumber_columnLetter (index : Nat) : columnNumber (columnLetter index) = index + 1 := by
  rw [columnNumber, columnLetter, String.toList_ofList, lettersNumber_letters]

theorem isColumnName_columnLetter (index : Nat) : IsColumnName (columnLetter index) := by
  have hname : (columnLetter index).toList = letters (index + 1) := by rw [columnLetter, String.toList_ofList]
  refine ⟨?_, ?_⟩ <;> rw [hname]
  · exact letters_ne_nil (Nat.succ_ne_zero index)
  · exact areLetters_letters _

theorem IsColumnName.exists_index {name : String} (h : IsColumnName name) :
    ∃ index, columnNumber name = index + 1 ∧ columnLetter index = name := by
  have hletters : letters (columnNumber name) = name.toList := letters_lettersNumber h.areLetters
  have hpos : columnNumber name ≠ 0 := by
    intro hzero
    rw [hzero, letters_zero] at hletters
    exact h.ne_nil hletters.symm
  refine ⟨columnNumber name - 1, by omega, ?_⟩
  rw [columnLetter, Nat.sub_add_cancel (Nat.pos_of_ne_zero hpos), hletters, String.ofList_toList]

/-! ### The order of the names -/

section Order

variable {α : Type} {r : α → α → Prop} {as bs : List α}

theorem lex_concat (h : List.Lex r as bs) (hlen : as.length = bs.length) (a b : α) :
    List.Lex r (as ++ [a]) (bs ++ [b]) := by
  induction h with
  | nil => cases hlen
  | cons _ ih => exact .cons (ih (Nat.succ.inj hlen))
  | rel h => exact .rel h

/-- What comes behind does not matter. -/
theorem shortlex_concat (h : List.Shortlex r as bs) (a b : α) : List.Shortlex r (as ++ [a]) (bs ++ [b]) := by
  have hconcat : ∀ (xs : List α) (x : α), (xs ++ [x]).length = xs.length + 1 := fun _ _ => List.length_append
  rcases List.shortlex_def.1 h with hlen | ⟨hlen, hlex⟩
  · refine .of_length_lt ?_
    rw [hconcat, hconcat]
    exact Nat.succ_lt_succ hlen
  · refine .of_lex ?_ (lex_concat hlex hlen a b)
    rw [hconcat, hconcat, hlen]

end Order

theorem letter_lt_letter : ∀ e < 26, ∀ d < e, letter d < letter e := by
  decide

theorem shortlex_letters (h : m < n) : List.Shortlex (· < ·) (letters m) (letters n) := by
  induction n using letters.induct generalizing m with
  | case1 => cases h
  | case2 n hn ih =>
    rw [letters_of_ne_zero hn]
    by_cases hm : m = 0
    · subst hm
      rw [letters_zero]
      exact .of_length_lt (by simp)
    · rw [letters_of_ne_zero hm]
      rcases Nat.lt_or_ge ((m - 1) / 26) ((n - 1) / 26) with hrest | hrest
      · exact shortlex_concat (ih hrest) _ _
      · have hsame : (m - 1) / 26 = (n - 1) / 26 := by omega
        have hlast : (m - 1) % 26 < (n - 1) % 26 := by omega
        rw [hsame]
        refine .append_left ((List.shortlex_singleton_iff _ _).2 ?_) _
        exact letter_lt_letter _ (Nat.mod_lt _ (by decide)) _ hlast

theorem shortlex_columnLetter (i j : Nat) :
    List.Shortlex (· < ·) (columnLetter i).toList (columnLetter j).toList ↔ i < j := by
  simp only [columnLetter, String.toList_ofList]
  refine ⟨fun h => ?_, fun h => shortlex_letters (Nat.succ_lt_succ h)⟩
  rcases Nat.lt_trichotomy i j with hlt | rfl | hgt
  · exact hlt
  · exact absurd h (Std.Asymm.asymm _ _ h)
  · exact absurd h (Std.Asymm.asymm _ _ (shortlex_letters (Nat.succ_lt_succ hgt)))

/-! ### Words

A sum or a difference of words is none where it leaves the range of its words. -/

section Words

variable {w : Nat} {x y : BitVec w}

def plus? (x y : BitVec w) : Option (BitVec w) := if x.uaddOverflow y then none else some (x + y)

def minus? (x y : BitVec w) : Option (BitVec w) := if x.usubOverflow y then none else some (x - y)

theorem exists_plus?_eq (h : x.toNat + y.toNat < 2 ^ w) : ∃ z, plus? x y = some z ∧ z.toNat = x.toNat + y.toNat := by
  refine ⟨x + y, if_neg ?_, BitVec.toNat_add_of_lt h⟩
  rw [BitVec.uaddOverflow, decide_eq_true_eq]
  exact Nat.not_le.2 h

theorem exists_minus?_eq (h : y.toNat ≤ x.toNat) : ∃ z, minus? x y = some z ∧ z.toNat = x.toNat - y.toNat := by
  refine ⟨x - y, if_neg ?_, BitVec.toNat_sub_of_le h⟩
  rw [BitVec.usubOverflow, decide_eq_true_eq]
  exact Nat.not_lt.2 h

end Words

/-! ### The loop that writes a name -/

/-- A name that is being written: what is left of its number, and the bytes so far, the last letter first. -/
structure Writing where
  left : BitVec 64
  bytes : List (BitVec 8)
  deriving DecidableEq, Repr

namespace Writing

/-- Where the loop begins for the column at an index. -/
def begin? (index : BitVec 64) : Option Writing := (plus? index 1).map (⟨·, []⟩)

/-- The last letter of what is left is taken off and joins the bytes. -/
def turn? (w : Writing) : Option Writing := do
  let digit := (← minus? w.left 1) % 26
  let byte ← plus? (BitVec.ofNat 8 'A'.toNat) (digit.setWidth 8)
  let left := (← minus? w.left 1) / 26
  some ⟨left, w.bytes ++ [byte]⟩

/-- There is another turn as long as something is left. -/
def Turn (w v : Writing) : Prop := w.left ≠ 0 ∧ w.turn? = some v

/-- Any number of turns. -/
def Run : Writing → Writing → Prop := Relation.ReflTransGen Turn

/-- The letters so far, the first one first. -/
def written (w : Writing) : List Char := Text.ofUtf8Lossy (w.bytes.reverse.map UInt8.ofBitVec)

/-- From here the loop leaves a name. -/
structure Yields (w : Writing) (name : String) : Prop where
  /-- it does not go on forever -/
  ends : Acc (fun v w => Turn w v) w
  /-- it does not fail while something is left -/
  turns : ∀ v, Run w v → v.left ≠ 0 → ∃ u, v.turn? = some u
  /-- it gets to where nothing is left, and there the name is written -/
  leaves : ∃ v, Run w v ∧ v.left = 0 ∧ String.ofList v.written = name

variable {w v : Writing} {n : Nat}

theorem toNat_left_ne_zero (h : w.left ≠ 0) : w.left.toNat ≠ 0 := fun hzero => h (BitVec.eq_of_toNat_eq hzero)

theorem written_concat {left : BitVec 64} {bytes : List (BitVec 8)} {b : BitVec 8} (h : b.toNat < 0x80) :
    written ⟨left, bytes ++ [b]⟩ = Char.ofNat b.toNat :: written ⟨left, bytes⟩ := by
  have hlead : Text.leadByte (UInt8.ofBitVec b).toNat = .ok (some (Char.ofNat b.toNat)) := if_pos h
  rw [written, List.reverse_concat, List.map_cons, Text.ofUtf8Lossy, Text.decodeBytes_single hlead]
  rfl

/-- The byte of a letter is the letter, and its arithmetic stays below 128. -/
theorem exists_letterByte {digit : BitVec 64} (h : digit.toNat < 26) :
    ∃ b, plus? (BitVec.ofNat 8 'A'.toNat) (digit.setWidth 8) = some b ∧ b.toNat < 0x80 ∧
      Char.ofNat b.toNat = letter digit.toNat := by
  have hdigit : (digit.setWidth 8).toNat = digit.toNat := by
    rw [BitVec.toNat_setWidth]
    exact Nat.mod_eq_of_lt (Nat.lt_trans h (by decide))
  have hascii : 'A'.toNat + digit.toNat < 0x80 := Nat.lt_trans (Nat.add_lt_add_left h _) (by decide)
  obtain ⟨b, hplus, hb⟩ : ∃ z, plus? (BitVec.ofNat 8 'A'.toNat) (digit.setWidth 8) = some z ∧
      z.toNat = 'A'.toNat + (digit.setWidth 8).toNat :=
    exists_plus?_eq (hdigit.symm ▸ Nat.lt_trans hascii (by decide))
  rw [hdigit] at hb
  exact ⟨b, hplus, hb ▸ hascii, congrArg Char.ofNat hb⟩

theorem exists_turn?_eq (h : w.left ≠ 0) : ∃ v, w.turn? = some v ∧ v.left.toNat = (w.left.toNat - 1) / 26 ∧
    v.written = letter ((w.left.toNat - 1) % 26) :: w.written := by
  obtain ⟨before, hminus, hbefore⟩ : ∃ z, minus? w.left 1 = some z ∧ z.toNat = w.left.toNat - 1 :=
    exists_minus?_eq (Nat.pos_of_ne_zero (toNat_left_ne_zero h))
  have hdigit : (before % 26).toNat = (w.left.toNat - 1) % 26 := by
    rw [BitVec.toNat_umod, hbefore]
    rfl
  have hrest : (before / 26).toNat = (w.left.toNat - 1) / 26 := by
    rw [BitVec.toNat_udiv, hbefore]
    rfl
  obtain ⟨byte, hplus, hascii, hletter⟩ := exists_letterByte (hdigit ▸ Nat.mod_lt _ (by decide))
  refine ⟨⟨before / 26, w.bytes ++ [byte]⟩, ?_, hrest, ?_⟩
  · simp only [turn?, hminus, hplus, Option.bind_eq_bind, Option.bind_some]
  · rw [written_concat hascii, hletter, hdigit]
    rfl

/-- All that a turn does: the last letter of what is left becomes the first one that is written. -/
theorem Turn.takes_last (h : Turn w v) : w.left.toNat ≠ 0 ∧ v.left.toNat = (w.left.toNat - 1) / 26 ∧
    v.written = letter ((w.left.toNat - 1) % 26) :: w.written := by
  obtain ⟨hleft, hturn⟩ := h
  obtain ⟨u, hu, hrest⟩ := exists_turn?_eq hleft
  obtain rfl : u = v := Option.some.inj (hu.symm.trans hturn)
  exact ⟨toNat_left_ne_zero hleft, hrest⟩

/-- The letters of what is left and the letters so far are those of the number. -/
def Spells (n : Nat) (w : Writing) : Prop := letters w.left.toNat ++ w.written = letters n

theorem Turn.spells (h : Turn w v) (hw : w.Spells n) : v.Spells n := by
  obtain ⟨hleft, hrest, hwritten⟩ := h.takes_last
  rw [Spells, hrest, hwritten, ← hw, letters_of_ne_zero hleft, List.append_assoc, List.singleton_append]

theorem Run.spells (h : Run w v) (hw : w.Spells n) : v.Spells n := by
  induction h with
  | refl => exact hw
  | tail _ hturn ih => exact hturn.spells ih

theorem acc_turn (w : Writing) : Acc (fun v w => Turn w v) w := by
  refine Subrelation.accessible (r := (measure fun w : Writing => w.left.toNat).rel) (fun {v w} hturn => ?_)
    ((measure fun w : Writing => w.left.toNat).wf.apply w)
  obtain ⟨hleft, hrest, -⟩ := hturn.takes_last
  show v.left.toNat < w.left.toNat
  omega

theorem exists_end (w : Writing) : ∃ v, Run w v ∧ v.left = 0 := by
  have hends : Acc (fun v w => Turn w v) w := acc_turn w
  induction hends with
  | intro w _ ih =>
    by_cases hleft : w.left = 0
    · exact ⟨w, .refl, hleft⟩
    · obtain ⟨u, hu, -⟩ := exists_turn?_eq hleft
      obtain ⟨v, hrun, hv⟩ := ih u ⟨hleft, hu⟩
      exact ⟨v, .head ⟨hleft, hu⟩ hrun, hv⟩

theorem Spells.yields (hw : w.Spells n) : w.Yields (String.ofList (letters n)) where
  ends := acc_turn w
  turns v _ hleft := by
    obtain ⟨u, hu, -⟩ := exists_turn?_eq hleft
    exact ⟨u, hu⟩
  leaves := by
    obtain ⟨v, hrun, hend⟩ := exists_end w
    have hv : v.Spells n := hrun.spells hw
    have hzero : v.left.toNat = 0 := by rw [hend]; rfl
    rw [Spells, hzero, letters_zero, List.nil_append] at hv
    exact ⟨v, hrun, hend, congrArg String.ofList hv⟩

theorem exists_begin?_eq {index : Nat} (h : index + 1 < 2 ^ 64) :
    ∃ w, begin? (BitVec.ofNat 64 index) = some w ∧ w.Spells (index + 1) := by
  have hindex : (BitVec.ofNat 64 index).toNat = index :=
    (BitVec.toNat_ofNat ..).trans (Nat.mod_eq_of_lt (Nat.lt_of_succ_lt h))
  obtain ⟨start, hplus, hstart⟩ : ∃ z, plus? (BitVec.ofNat 64 index) 1 = some z ∧
      z.toNat = (BitVec.ofNat 64 index).toNat + 1 := exists_plus?_eq (hindex.symm ▸ h)
  refine ⟨⟨start, []⟩, by rw [begin?, hplus, Option.map_some], ?_⟩
  rw [Spells, hstart, hindex]
  exact List.append_nil _

end Writing

/-! ### All columns -/

/-- For the indices whose successor is a word: the columns have the names of the numbers that are words, all of them and
no two columns the same; the name of a column stands for the number after its index; of two columns the first has the
shorter name, or of names of one length that which comes first in the alphabet; and the loop leaves the name. -/
theorem columnLetter_numbers_columns :
    Set.BijOn columnLetter {i | i + 1 < 2 ^ 64} {name | IsColumnName name ∧ columnNumber name < 2 ^ 64} ∧
    ∀ i, i + 1 < 2 ^ 64 → columnNumber (columnLetter i) = i + 1 ∧
      (∀ j, j + 1 < 2 ^ 64 → (i < j ↔ List.Shortlex (· < ·) (columnLetter i).toList (columnLetter j).toList)) ∧
      ∃ w, Writing.begin? (BitVec.ofNat 64 i) = some w ∧ w.Yields (columnLetter i) := by
  refine ⟨⟨fun i hi => ⟨isColumnName_columnLetter i, ?_⟩, fun i _ j _ h => ?_, fun name hname => ?_⟩, fun i hi => ?_⟩
  · rw [columnNumber_columnLetter]
    exact hi
  · have hnumber := congrArg columnNumber h
    rw [columnNumber_columnLetter, columnNumber_columnLetter] at hnumber
    exact Nat.succ.inj hnumber
  · obtain ⟨hcolumn, hbound⟩ := hname
    obtain ⟨i, hi, heq⟩ := hcolumn.exists_index
    rw [hi] at hbound
    exact ⟨i, hbound, heq⟩
  · obtain ⟨w, hw, hspells⟩ := Writing.exists_begin?_eq hi
    exact ⟨columnNumber_columnLetter i, fun j _ => (shortlex_columnLetter i j).symm, w, hw, hspells.yields⟩

theorem columnLetter_numbers_columns_sample :
    (702 + 1 < 2 ^ 64 ∧ columnLetter 702 = "AAA") ∧
    (2 ^ 64 - 2 + 1 < 2 ^ 64 ∧ columnLetter (2 ^ 64 - 2) = "GKGWBYLWRXTLPO") ∧
    List.Shortlex (· < ·) (columnLetter 702).toList (columnLetter (2 ^ 64 - 2)).toList ∧
    columnNumber (columnLetter (2 ^ 64 - 2)) = 2 ^ 64 - 1 ∧
    ∃ w, Writing.begin? (BitVec.ofNat 64 (2 ^ 64 - 2)) = some w ∧ w.Yields (columnLetter (2 ^ 64 - 2)) :=
  have h := columnLetter_numbers_columns.2
  have hlast := h (2 ^ 64 - 2) (by decide)
  ⟨⟨by decide, by decide +kernel⟩, ⟨by decide, by decide +kernel⟩,
    ((h 702 (by decide)).2.1 (2 ^ 64 - 2) (by decide)).1 (by decide), hlast.1, hlast.2.2⟩

end QueryDesk.Workbook
