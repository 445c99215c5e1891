import QueryDesk.Json.Value
import QueryDesk.Proofs.JsonText

/-!
# Printed values are read back

A reader that meets the compact text of a value takes that value and stops where the text of it ends, with any text
behind that does not go on with a number (`readValue_print`). Strings and integers come first, each with the reader's
fuel or the end of the digits in view; arrays and objects follow by recursion on the value. Doubles are left out.
-/

namespace QueryDesk

namespace Decimal

theorem head?_digits {n : Nat} (hn : n ≠ 0) : (digits n).head? ≠ some '0' := by
  induction n using Nat.strongRecOn with
  | ind n ih =>
    by_cases hlt : n < 10
    · rw [digits, Nat.toDigits_of_lt_base hlt]
      have hdigit : ∀ n < 10, n ≠ 0 → n.digitChar ≠ '0' := by decide
      exact fun h => hdigit n hlt hn (Option.some.inj h)
    · obtain ⟨d, ds, heq⟩ := List.exists_cons_of_ne_nil (digits_ne_nil (n / 10))
      have hfirst := ih (n / 10) (by omega) (by omega)
      rw [digits] at heq hfirst
      rw [digits, Nat.toDigits_of_base_le (by decide) (by omega), heq]
      rw [heq] at hfirst
      exact hfirst

end Decimal

namespace Json
open Decimal (digits isDigit_of_mem_digits digits_ne_nil)

/-! ### Parts -/

mutual
/-- A value and the values inside it. -/
def parts : Json → List Json
  | .array xs => .array xs :: partsOfItems xs
  | .object ms => .object ms :: partsOfMembers ms
  | j => [j]
termination_by structural j => j

def partsOfItems : List Json → List Json
  | [] => []
  | x :: xs => x.parts ++ partsOfItems xs
termination_by structural xs => xs

def partsOfMembers : List (String × Json) → List Json
  | [] => []
  | (_, v) :: ms => v.parts ++ partsOfMembers ms
termination_by structural ms => ms
end

variable {xs : List Json} {ms : Members} {y : Json}

theorem mem_parts_array : y ∈ (array xs).parts ↔ y = .array xs ∨ ∃ x ∈ xs, y ∈ x.parts := by
  rw [parts, List.mem_cons]
  refine or_congr_right ?_
  induction xs with
  | nil => simp [partsOfItems]
  | cons x xs ih => simp only [partsOfItems, List.mem_append, List.mem_cons, exists_eq_or_imp, ih]

theorem mem_parts_object : y ∈ (object ms).parts ↔ y = .object ms ∨ ∃ m ∈ ms, y ∈ m.2.parts := by
  rw [parts, List.mem_cons]
  refine or_congr_right ?_
  induction ms with
  | nil => simp [partsOfMembers]
  | cons m ms ih => simp only [partsOfMembers, List.mem_append, List.mem_cons, exists_eq_or_imp, ih]

/-- The integers that are held as such. -/
def IsHeld (i : Int) : Prop := -9223372036854775808 ≤ i ∧ i < 18446744073709551616

/-- All numbers of the value are integers that are held as such. -/
def Whole (j : Json) : Prop := ∀ n, .number n ∈ j.parts → ∃ i, n = .int i ∧ IsHeld i

theorem whole_array : (array xs).Whole ↔ ∀ x ∈ xs, x.Whole := by
  constructor
  · exact fun h x hx n hn => h n (mem_parts_array.2 (.inr ⟨x, hx, hn⟩))
  · intro h n hn
    rcases mem_parts_array.1 hn with hself | ⟨x, hx, hn⟩
    · cases hself
    · exact h x hx n hn

theorem whole_object : (object ms).Whole ↔ ∀ m ∈ ms, m.2.Whole := by
  constructor
  · exact fun h m hm n hn => h n (mem_parts_object.2 (.inr ⟨m, hm, hn⟩))
  · intro h n hn
    rcases mem_parts_object.1 hn with hself | ⟨m, hm, hn⟩
    · cases hself
    · exact h m hm n hn

theorem whole_number {n : Number} : (number n).Whole ↔ ∃ i, n = .int i ∧ IsHeld i := by
  constructor
  · exact fun h => h n List.mem_cons_self
  · intro h m hm
    cases List.mem_singleton.1 hm
    exact h

/-! ### Strings -/

section
variable {c : Char} {rest : List Char}

theorem readString_plain (hq : c ≠ '"') (hb : c ≠ '\\') (hlt : ¬ c < ' ') :
    readString (c :: rest) = push c (readString rest) := by
  rw [readString]
  · rw [if_neg hq, if_neg hlt]
  · exact fun _ _ _ _ _ h _ => hb h
  · exact fun _ h _ => hb h
  · exact fun _ _ h _ => hb h
  · exact fun h _ => hb h

theorem readString_escape {x : Char} (hu : c ≠ 'u') (hx : escaped? c = some x) :
    readString ('\\' :: c :: rest) = push x (readString rest) := by
  rw [readString]
  · rw [hx]
  · exact fun _ _ _ _ _ h _ => hu h
  · exact hu

theorem readString_number {a b c d : Char} {n : Nat} (hn : hex4? a b c d = some n) (hlt : n < 0xD800) :
    readString ('\\' :: 'u' :: a :: b :: c :: d :: rest) = push (Char.ofNat n) (readString rest) := by
  have htrailing : isTrailing n = false := by simp only [isTrailing]; grind
  have hleading : isLeading n = false := by simp only [isLeading]; grind
  rw [readString, hn]
  simp only [htrailing, hleading, if_false, Bool.false_eq_true]

theorem hex4_control : ∀ n < 32, ∃ a b c d, hex4 n = [a, b, c, d] ∧ hex4? a b c d = some n := by
  intro n hn
  have h : ∀ n < 32, (hex4 n).length = 4 ∧ Text.ofHex? (hex4 n) = some n := by decide
  obtain ⟨hlength, hread⟩ := h n hn
  generalize hex4 n = ds at hlength hread
  match ds with
  | [a, b, c, d] => exact ⟨a, b, c, d, rfl, hread⟩

theorem readString_printChar (c : Char) (rest : List Char) :
    readString (printChar c ++ rest) = push c (readString rest) := by
  by_cases hshort : c ∈ shortEscapes
  · have hescape : ∀ c ∈ shortEscapes, ∃ x, printChar c = ['\\', x] ∧ x ≠ 'u' ∧ escaped? x = some c := by
      simp only [shortEscapes, List.forall_mem_cons]
      exact ⟨⟨'"', rfl, by decide, rfl⟩, ⟨'\\', rfl, by decide, rfl⟩, ⟨'n', rfl, by decide, rfl⟩,
        ⟨'r', rfl, by decide, rfl⟩, ⟨'t', rfl, by decide, rfl⟩, ⟨'b', rfl, by decide, rfl⟩,
        ⟨'f', rfl, by decide, rfl⟩, List.forall_mem_nil _⟩
    obtain ⟨x, hprint, hu, hx⟩ := hescape c hshort
    rw [hprint]
    exact readString_escape hu hx
  · rw [printChar_of_not_mem hshort]
    split
    · next hlt =>
      have hn : c.toNat < 32 := UInt32.lt_iff_toNat_lt.1 (Char.lt_def.1 hlt)
      obtain ⟨a, b, x, d, hhex, hread⟩ := hex4_control c.toNat hn
      rw [hhex, List.cons_append, List.cons_append]
      have hnumber : readString ('\\' :: 'u' :: a :: b :: x :: d :: rest) = _ := readString_number hread (by omega)
      rw [Char.ofNat_toNat] at hnumber
      exact hnumber
    · next hlt =>
      have hq : c ≠ '"' := by rintro rfl; exact hshort (by decide)
      have hb : c ≠ '\\' := by rintro rfl; exact hshort (by decide)
      exact readString_plain hq hb hlt

theorem readString_print (cs rest : List Char) :
    readString (cs.flatMap printChar ++ '"' :: rest) = .ok (cs, rest) := by
  induction cs with
  | nil => rfl
  | cons c cs ih =>
    rw [List.flatMap_cons, List.append_assoc, readString_printChar, ih]
    rfl

theorem stringDocument_print (s : String) (rest : List Char) :
    stringDocument (s.toList.flatMap printChar ++ '"' :: rest) = (.text s, some rest) := by
  rw [stringDocument, readString_print]
  simp

end

/-! ### Integers -/

/-- What may follow a number: no character that would go on with it. -/
def EndsNumber (rest : List Char) : Prop :=
  ∀ c ∈ rest.head?, c.isDigit = false ∧ c ≠ '.' ∧ c ≠ 'e' ∧ c ≠ 'E'

variable {ds rest : List Char}

theorem readDigits_append (hds : ∀ c ∈ ds, c.isDigit = true) (hne : ds ≠ []) (hrest : EndsNumber rest) :
    readDigits (ds ++ rest) = .ok (ds, rest) := by
  have htake : rest.takeWhile Char.isDigit = [] ∧ rest.dropWhile Char.isDigit = rest := by
    cases rest with
    | nil => exact ⟨rfl, rfl⟩
    | cons c cs =>
      have hc := (hrest c rfl).1
      exact ⟨List.takeWhile_cons_of_neg (by rw [hc]; decide), List.dropWhile_cons_of_neg (by rw [hc]; decide)⟩
  have hsplit : (ds ++ rest).takeWhile Char.isDigit = ds ∧ (ds ++ rest).dropWhile Char.isDigit = rest := by
    rw [List.takeWhile_append_of_pos hds, List.dropWhile_append_of_pos hds, htake.1, htake.2, List.append_nil]
    exact ⟨rfl, rfl⟩
  obtain ⟨d, ds, rfl⟩ := List.exists_cons_of_ne_nil hne
  rw [List.cons_append, readDigits]
  rw [if_pos (hds d List.mem_cons_self), ← List.cons_append, hsplit.1, hsplit.2]

theorem readWhole_digits (n : Nat) (hrest : EndsNumber rest) :
    readWhole (digits n ++ rest) = .ok (digits n, rest) := by
  have hread := readDigits_append (fun c hc => isDigit_of_mem_digits hc) (digits_ne_nil n) hrest
  by_cases hn : n = 0
  · subst hn
    cases rest with
    | nil => exact hread
    | cons c cs =>
      have hc := (hrest c rfl).1
      show (if c.isDigit then _ else _) = _
      rw [if_neg (by rw [hc]; decide)]
      rfl
  · obtain ⟨d, ds, heq⟩ := List.exists_cons_of_ne_nil (digits_ne_nil n)
    have hd := Decimal.head?_digits hn
    rw [heq] at hread hd ⊢
    rw [List.cons_append, readWhole]
    · exact hread
    · intro c cs h
      exact hd (congrArg some (List.cons.inj h).1)

theorem readFraction_end (hrest : EndsNumber rest) : readFraction rest = .ok ([], rest) := by
  cases rest with
  | nil => rfl
  | cons c cs =>
    obtain ⟨-, hpoint, -, -⟩ := hrest c rfl
    rw [readFraction]
    intro cs h
    cases h
    exact hpoint rfl

theorem readExponent_end (hrest : EndsNumber rest) : readExponent rest = .ok (none, rest) := by
  cases rest with
  | nil => rfl
  | cons c cs =>
    obtain ⟨-, -, he, hE⟩ := hrest c rfl
    unfold readExponent
    exact if_neg (not_or.2 ⟨he, hE⟩)

theorem readNumeral_integer (i : Int) (hrest : EndsNumber rest) :
    readNumeral (Decimal.integer i ++ rest) = .ok (⟨i < 0, digits i.natAbs, [], none⟩, rest) := by
  have hrun : ∀ b, (readWhole (digits i.natAbs ++ rest) >>= fun w => readFraction w.2 >>= fun f => readExponent f.2
      >>= fun e => .ok ((⟨b, w.1, f.1, e.1⟩ : Numeral), e.2)) = .ok (⟨b, digits i.natAbs, [], none⟩, rest) := by
    intro b
    rw [readWhole_digits _ hrest]
    show (readFraction rest >>= _) = _
    rw [readFraction_end hrest]
    show (readExponent rest >>= _) = _
    rw [readExponent_end hrest]
    rfl
  unfold Decimal.integer
  split
  · next hneg =>
    rw [decide_eq_true hneg]
    exact hrun true
  · next hpos =>
    rw [decide_eq_false hpos, readNumeral]
    · exact hrun false
    · intro tail heq
      obtain ⟨d, ds, hds⟩ := List.exists_cons_of_ne_nil (digits_ne_nil i.natAbs)
      have hdigit : d.isDigit = true := isDigit_of_mem_digits (hds ▸ List.mem_cons_self)
      rw [hds] at heq
      obtain rfl := (List.cons.inj heq).1
      exact absurd hdigit (by decide)

namespace Numeral

theorem le_ofDigitChars (ds : List Char) (n : Nat) : n ≤ Nat.ofDigitChars 10 ds n := by
  rw [Nat.ofDigitChars_eq_ofDigitChars_zero]
  exact Nat.le_add_right_of_le (Nat.le_mul_of_pos_left n (Nat.pow_pos (by decide)))

theorem keep_eq {ds : List Char} {n : Nat} (h : Nat.ofDigitChars 10 ds n < Nat.pow 2 64) :
    keep n ds = (Nat.ofDigitChars 10 ds n, []) := by
  induction ds generalizing n with
  | nil => rfl
  | cons d ds ih =>
    rw [Nat.ofDigitChars_cons, Nat.mul_comm] at h ⊢
    rw [keep, if_pos (Nat.lt_of_le_of_lt (le_ofDigitChars ds _) h), ih h]

theorem number?_digits (negative : Bool) {n : Nat} (hn : n < Nat.pow 2 64) :
    number? ⟨negative, digits n, [], none⟩ =
      if ¬ negative then some (.int n)
      else if 0 < n ∧ n ≤ Nat.pow 2 63 then some (.int (-n))
      else (Double.nearest? true n 1).map .double := by
  have hval : Nat.ofDigitChars 10 (digits n) 0 = n := Nat.ofDigitChars_ten_toDigits
  rw [number?, keep_eq (by rw [hval]; exact hn), hval]
  rfl

end Numeral

theorem numberDocument_integer {i : Int} (hi : IsHeld i) (hrest : EndsNumber rest) :
    numberDocument (Decimal.integer i ++ rest) = (.number (.int i), some rest) := by
  obtain ⟨hlow, hhigh⟩ := hi
  have habs : i.natAbs < Nat.pow 2 64 := by
    show i.natAbs < 2 ^ 64
    omega
  rw [numberDocument, readNumeral_integer i hrest]
  simp only [Numeral.number?_digits _ habs]
  by_cases hneg : i < 0
  · have hroom : 0 < i.natAbs ∧ i.natAbs ≤ Nat.pow 2 63 := by
      show 0 < i.natAbs ∧ i.natAbs ≤ 2 ^ 63
      omega
    simp only [hneg, decide_true, not_true, if_false, hroom, and_self, if_true]
    rw [show -(i.natAbs : Int) = i by omega]
  · simp only [hneg, decide_false, Bool.false_eq_true, not_false_iff, if_true]
    rw [show (i.natAbs : Int) = i by omega]

/-! ### Values -/

mutual
/-- The document is the value, written out without a fault. -/
inductive Document.Spells : Document → Json → Prop
  | null : Document.Spells .null .null
  | bool (b : Bool) : Document.Spells (.bool b) (.bool b)
  | number (n : Number) : Document.Spells (.number n) (.number n)
  | text (s : String) : Document.Spells (.text s) (.text s)
  | array {items : Items} {xs : List Json} : items.Spells xs → Document.Spells (.array items) (.array xs)
  | object {fields : Fields} {ms : Members} : fields.Spells ms → Document.Spells (.object fields) (.object ms)

inductive Items.Spells : Items → List Json → Prop
  | done : Items.Spells .done []
  | item {s : Stretch} {d : Document} {x : Json} {rest : Items} {xs : List Json} :
    d.Spells x → rest.Spells xs → Items.Spells (.item s d rest) (x :: xs)

inductive Fields.Spells : Fields → Members → Prop
  | done : Fields.Spells .done []
  | field {name : String} {s : Stretch} {d : Document} {x : Json} {rest : Fields} {ms : Members} :
    d.Spells x → rest.Spells ms → Fields.Spells (.field (.ok name) s d rest) ((name, x) :: ms)
end

variable {fuel : Nat} {cs : List Char}

/-- What a value begins with. -/
def Begins (c : Char) : Prop := isSpace c = false ∧ c ≠ ']'

theorem Begins.skipSpace {c : Char} (hc : Begins c) (cs : List Char) : skipSpace (c :: cs) = c :: cs :=
  List.dropWhile_cons_of_neg (by rw [hc.1]; decide)

theorem exists_integer_cons (i : Int) : ∃ c cs, Decimal.integer i = c :: cs ∧ (c = '-' ∨ c.isDigit = true) := by
  rw [Decimal.integer]
  split
  · exact ⟨'-', _, rfl, .inl rfl⟩
  · obtain ⟨c, cs, heq⟩ := List.exists_cons_of_ne_nil (digits_ne_nil i.natAbs)
    exact ⟨c, cs, heq, .inr (isDigit_of_mem_digits (heq ▸ List.mem_cons_self))⟩

theorem ne_of_number_start {c x : Char} (hc : c = '-' ∨ c.isDigit = true) (hx : x ≠ '-' ∧ x.isDigit = false) :
    c ≠ x := by
  rintro rfl
  rcases hc with h | h
  · exact hx.1 h
  · rw [hx.2] at h
    cases h

theorem begins_of_number_start {c : Char} (hc : c = '-' ∨ c.isDigit = true) : Begins c := by
  refine ⟨?_, ne_of_number_start hc (by decide)⟩
  simp only [isSpace, Bool.or_eq_false_iff, beq_eq_false_iff_ne]
  exact ⟨⟨⟨ne_of_number_start hc (by decide), ne_of_number_start hc (by decide)⟩,
    ne_of_number_start hc (by decide)⟩, ne_of_number_start hc (by decide)⟩

theorem exists_print_cons {j : Json} (hj : j.Whole) : ∃ c cs, j.print = c :: cs ∧ Begins c := by
  cases j with
  | null => exact ⟨_, _, rfl, by decide, by decide⟩
  | bool b => cases b <;> exact ⟨_, _, rfl, by decide, by decide⟩
  | text s => exact ⟨_, _, rfl, by decide, by decide⟩
  | array xs => cases xs <;> exact ⟨_, _, rfl, by decide, by decide⟩
  | object ms => cases ms <;> exact ⟨_, _, rfl, by decide, by decide⟩
  | number n =>
    obtain ⟨i, rfl, -⟩ := whole_number.1 hj
    obtain ⟨c, cs, heq, hc⟩ := exists_integer_cons i
    exact ⟨c, cs, heq, begins_of_number_start hc⟩

theorem readValue_number {c : Char} (hc : c = '-' ∨ c.isDigit = true) :
    readValue (fuel + 1) (c :: cs) = numberDocument (c :: cs) := by
  rw [readValue, (begins_of_number_start hc).skipSpace]
  have hn := ne_of_number_start hc (x := 'n') (by decide)
  have ht := ne_of_number_start hc (x := 't') (by decide)
  have hf := ne_of_number_start hc (x := 'f') (by decide)
  have hq := ne_of_number_start hc (x := '"') (by decide)
  simp only [if_neg hn, if_neg ht, if_neg hf, if_neg hq, if_pos hc]

theorem readValue_array (cs : List Char) :
    readValue (fuel + 1) ('[' :: cs) = (.array (readItems fuel true cs).1, (readItems fuel true cs).2) := rfl

theorem readValue_object (cs : List Char) :
    readValue (fuel + 1) ('\x7b' :: cs) = (.object (readFields fuel true cs).1, (readFields fuel true cs).2) := rfl

theorem readValue_quote (cs : List Char) : readValue (fuel + 1) ('"' :: cs) = stringDocument cs := rfl

theorem readFields_first_quote (cs : List Char) : readFields (fuel + 1) true ('"' :: cs) = readField fuel cs := rfl

theorem readFields_next_quote (cs : List Char) :
    readFields (fuel + 1) false (',' :: '"' :: cs) = readField fuel cs := rfl

theorem printText_append (s : String) (rest : List Char) :
    printText s ++ rest = '"' :: (s.toList.flatMap printChar ++ '"' :: rest) := by
  rw [printText, List.cons_append, List.append_assoc, List.singleton_append]

theorem readValue_text (s : String) (rest : List Char) :
    readValue (fuel + 1) (printText s ++ rest) = (.text s, some rest) := by
  rw [printText_append, readValue_quote, stringDocument_print]

section
variable {x : Json} {d : Document} {items : Items} {fields : Fields} {behind : List Char}

/-- A value among the items is read, whether it is the first of them or stands behind a comma. -/
theorem readItems_value (hx : x.Whole) (hd : readValue fuel (x.print ++ rest) = (d, some rest))
    (hrest : readItems fuel false rest = (items, some behind)) : ∃ s,
    readItems (fuel + 2) true (x.print ++ rest) = (.item s d items, some behind) ∧
      readItems (fuel + 2) false (',' :: (x.print ++ rest)) = (.item s d items, some behind) := by
  refine ⟨⟨x.print ++ rest, rest⟩, ?_⟩
  have hitem : readItem (fuel + 1) (x.print ++ rest) = (.item ⟨x.print ++ rest, rest⟩ d items, some behind) := by
    rw [readItem, hd]
    simp only [hrest]
  obtain ⟨c, cs, heq, hc⟩ := exists_print_cons hx
  rw [heq, List.cons_append] at hitem ⊢
  have hcomma : skipSpace (',' :: c :: (cs ++ rest)) = ',' :: c :: (cs ++ rest) := rfl
  constructor
  · rw [readItems, hc.skipSpace]
    simp only [if_neg hc.2, if_true]
    exact hitem
  · rw [readItems, hcomma]
    simp only [hc.skipSpace, if_neg hc.2]
    exact hitem

/-- A member is read, whether it is the first or stands behind a comma. -/
theorem readFields_value (name : String) (hd : readValue fuel cs = (d, some rest))
    (hrest : readFields fuel false rest = (fields, some behind)) : ∃ s,
    readFields (fuel + 3) true (printText name ++ ':' :: cs) = (.field (.ok name) s d fields, some behind) ∧
      readFields (fuel + 3) false (',' :: (printText name ++ ':' :: cs))
        = (.field (.ok name) s d fields, some behind) := by
  refine ⟨⟨skipSpace cs, rest⟩, ?_⟩
  have hvalue : readFieldValue (fuel + 1) (.ok name) (':' :: cs)
      = (.field (.ok name) ⟨skipSpace cs, rest⟩ d fields, some behind) := by
    have hcolon : skipSpace (':' :: cs) = ':' :: cs := rfl
    rw [readFieldValue, hcolon]
    simp only [if_true, hd, hrest]
  have hfield : readField (fuel + 2) (name.toList.flatMap printChar ++ '"' :: ':' :: cs)
      = (.field (.ok name) ⟨skipSpace cs, rest⟩ d fields, some behind) := by
    rw [readField]
    simp only [stringDocument_print]
    exact hvalue
  rw [printText_append, readFields_first_quote, readFields_next_quote]
  exact ⟨hfield, hfield⟩

end

theorem endsNumber_printItems (xs : List Json) (rest : List Char) : EndsNumber (printItems xs ++ rest) := by
  cases xs <;> exact fun c hc => by cases hc; decide

theorem endsNumber_printMembers (ms : List (String × Json)) (rest : List Char) :
    EndsNumber (printMembers ms ++ rest) := by
  cases ms <;> exact fun c hc => by cases hc; decide

/-- Enough fuel for a character is enough for the three steps to the value behind it. -/
theorem exists_fuel {n : Nat} (h : 3 * (n + 1) ≤ fuel) : ∃ k, fuel = k + 3 ∧ 3 * n ≤ k :=
  ⟨fuel - 3, by omega, by omega⟩

mutual
theorem readValue_print : ∀ (j : Json), j.Whole → ∀ (fuel : Nat) (rest : List Char), 3 * j.print.length ≤ fuel →
    EndsNumber rest → ∃ d, readValue fuel (j.print ++ rest) = (d, some rest) ∧ d.Spells j
  | .null, _, _, _, hfuel, _ => by
    obtain ⟨k, rfl, -⟩ := exists_fuel hfuel
    exact ⟨_, rfl, .null⟩
  | .bool b, _, _, _, hfuel, _ => by
    cases b <;> (obtain ⟨k, rfl, -⟩ := exists_fuel hfuel; exact ⟨_, rfl, .bool _⟩)
  | .text s, _, _, rest, hfuel, _ => by
    obtain ⟨k, rfl, -⟩ := exists_fuel hfuel
    exact ⟨_, readValue_text s rest, .text s⟩
  | .number n, hj, fuel, rest, hfuel, hrest => by
    obtain ⟨i, rfl, hi⟩ := whole_number.1 hj
    obtain ⟨c, cs, heq, hc⟩ := exists_integer_cons i
    have hread := numberDocument_integer hi hrest
    rw [heq] at hread
    rw [print, Number.print, heq] at hfuel ⊢
    obtain ⟨k, rfl, -⟩ := exists_fuel hfuel
    exact ⟨_, (readValue_number hc).trans hread, .number _⟩
  | .array [], _, _, _, hfuel, _ => by
    obtain ⟨k, rfl, -⟩ := exists_fuel hfuel
    exact ⟨_, rfl, .array .done⟩
  | .array (x :: xs), hj, fuel, rest, hfuel, _ => by
    obtain ⟨hx, hxs⟩ := List.forall_mem_cons.1 (whole_array.1 hj)
    rw [print] at hfuel ⊢
    -- the bracket pays for the steps to the first item, which has the fuel for its own text left
    obtain ⟨k, rfl, hk⟩ := exists_fuel hfuel
    rw [List.length_append] at hk
    obtain ⟨d, hd, hspell⟩ := readValue_print x hx k _ (by omega) (endsNumber_printItems xs rest)
    obtain ⟨items, hitems, hspells⟩ := readItems_print xs hxs k rest (by omega)
    obtain ⟨s, hfirst, -⟩ := readItems_value hx hd hitems
    refine ⟨.array (.item s d items), ?_, .array (.item hspell hspells)⟩
    rw [List.cons_append, List.append_assoc, readValue_array, hfirst]
  | .object [], _, _, _, hfuel, _ => by
    obtain ⟨k, rfl, -⟩ := exists_fuel hfuel
    exact ⟨_, rfl, .object .done⟩
  | .object ((name, v) :: ms), hj, fuel, rest, hfuel, _ => by
    obtain ⟨hv, hms⟩ := List.forall_mem_cons.1 (whole_object.1 hj)
    rw [print] at hfuel ⊢
    rw [List.length_cons, List.length_append, List.length_cons, List.length_append] at hfuel
    obtain ⟨k, rfl⟩ : ∃ k, fuel = k + 4 := ⟨fuel - 4, by omega⟩
    obtain ⟨d, hd, hspell⟩ := readValue_print v hv k _ (by omega) (endsNumber_printMembers ms rest)
    obtain ⟨fields, hfields, hspells⟩ := readFields_print ms hms k rest (by omega)
    obtain ⟨s, hfirst, -⟩ := readFields_value name hd hfields
    refine ⟨.object (.field (.ok name) s d fields), ?_, .object (.field hspell hspells)⟩
    rw [List.cons_append, List.append_assoc, List.cons_append, List.append_assoc]
    rw [readValue_object, hfirst]
termination_by structural j => j

theorem readItems_print : ∀ (xs : List Json), (∀ x ∈ xs, x.Whole) → ∀ (fuel : Nat) (rest : List Char),
    3 * (printItems xs).length ≤ fuel →
    ∃ items, readItems fuel false (printItems xs ++ rest) = (items, some rest) ∧ items.Spells xs
  | [], _, fuel, rest, hfuel => by
    obtain ⟨k, rfl, -⟩ := exists_fuel hfuel
    exact ⟨_, rfl, .done⟩
  | x :: xs, h, fuel, rest, hfuel => by
    obtain ⟨hx, hxs⟩ := List.forall_mem_cons.1 h
    rw [printItems] at hfuel ⊢
    rw [List.length_cons, List.length_append] at hfuel
    obtain ⟨k, rfl⟩ : ∃ k, fuel = k + 2 := ⟨fuel - 2, by omega⟩
    obtain ⟨d, hd, hspell⟩ := readValue_print x hx k _ (by omega) (endsNumber_printItems xs rest)
    obtain ⟨items, hitems, hspells⟩ := readItems_print xs hxs k rest (by omega)
    obtain ⟨s, -, hnext⟩ := readItems_value hx hd hitems
    refine ⟨.item s d items, ?_, .item hspell hspells⟩
    rw [List.cons_append, List.append_assoc]
    exact hnext
termination_by structural xs => xs

theorem readFields_print : ∀ (ms : Members), (∀ m ∈ ms, m.2.Whole) → ∀ (fuel : Nat) (rest : List Char),
    3 * (printMembers ms).length ≤ fuel →
    ∃ fields, readFields fuel false (printMembers ms ++ rest) = (fields, some rest) ∧ fields.Spells ms
  | [], _, fuel, rest, hfuel => by
    obtain ⟨k, rfl, -⟩ := exists_fuel hfuel
    exact ⟨_, rfl, .done⟩
  | (name, v) :: ms, h, fuel, rest, hfuel => by
    obtain ⟨hv, hms⟩ := List.forall_mem_cons.1 h
    rw [printMembers] at hfuel ⊢
    rw [List.length_cons, List.length_append, List.length_cons, List.length_append] at hfuel
    obtain ⟨k, rfl⟩ : ∃ k, fuel = k + 3 := ⟨fuel - 3, by omega⟩
    obtain ⟨d, hd, hspell⟩ := readValue_print v hv k _ (by omega) (endsNumber_printMembers ms rest)
    obtain ⟨fields, hfields, hspells⟩ := readFields_print ms hms k rest (by omega)
    obtain ⟨s, -, hnext⟩ := readFields_value name hd hfields
    refine ⟨.field (.ok name) s d fields, ?_, .field hspell hspells⟩
    rw [List.cons_append, List.append_assoc, List.cons_append, List.append_assoc]
    exact hnext
termination_by structural ms => ms
end

/-- The text of a value without doubles is the text of that value and of nothing else. -/
theorem ofText_print {j : Json} (hj : j.Whole) : ∃ d, Document.ofText j.print = (d, none) ∧ d.Spells j := by
  obtain ⟨d, hd, hspell⟩ := readValue_print j hj (3 * j.print.length + 3) [] (by omega) nofun
  refine ⟨d, ?_, hspell⟩
  rw [List.append_nil] at hd
  rw [Document.ofText, hd]
  rfl

end Json

end QueryDesk
