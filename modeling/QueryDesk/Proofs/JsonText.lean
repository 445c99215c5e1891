import QueryDesk.Json.Printer
import QueryDesk.Query.Validation

/-!
# Where the text of a value ends

The text of an array or object ends at the bracket that closes it, and `readNested` finds that bracket
by counting: brackets inside strings do not count, nor does a quote behind a backslash
(`readNested_print`). The other values are written as runs of literal characters, strings apart.
-/

namespace QueryDesk

/-! ### Numbers -/

theorem isLiteralStart_of_isDigit {c : Char} (h : c.isDigit = true) : isLiteralStart c = true := by
  have hdigit : Text.isAsciiDigit c = true := by
    simp only [Char.isDigit, Bool.and_eq_true, decide_eq_true_eq] at h
    simp only [Text.isAsciiDigit, Bool.and_eq_true, decide_eq_true_eq, Char.le_def]
    exact h
  simp [isLiteralStart, hdigit]

theorem isLiteralPart_of_isDigit {c : Char} (h : c.isDigit = true) : isLiteralPart c = true := by
  simp [isLiteralPart, isLiteralStart_of_isDigit h]

namespace Decimal

theorem isDigit_of_mem_digits {n : Nat} {c : Char} (h : c ∈ digits n) : c.isDigit = true :=
  Nat.isDigit_of_mem_toDigits (by decide) (by decide) h

theorem digits_ne_nil (n : Nat) : digits n ≠ [] := Nat.toDigits_ne_nil

theorem digits_literal (n : Nat) : ∀ c ∈ digits n, isLiteralPart c = true := fun _ hc =>
  isLiteralPart_of_isDigit (isDigit_of_mem_digits hc)

theorem integer_literal (i : Int) : ∀ c ∈ integer i, isLiteralPart c = true := by
  unfold integer
  split
  · exact List.forall_mem_cons.2 ⟨rfl, digits_literal _⟩
  · exact digits_literal _

theorem replicate_zero_literal (n : Nat) : ∀ c ∈ List.replicate n '0', isLiteralPart c = true := by
  intro c hc
  rw [(List.mem_replicate.1 hc).2]; rfl

namespace Layout
variable (l : Layout) {ds : List Char}

theorem place_literal (h : ∀ c ∈ ds, isLiteralPart c = true) (point : Int) :
    ∀ c ∈ l.place ds point, isLiteralPart c = true := by
  unfold place
  split
  · exact List.forall_mem_cons.2 ⟨rfl, List.forall_mem_cons.2 ⟨rfl,
      List.forall_mem_append.2 ⟨replicate_zero_literal _, h⟩⟩⟩
  · split
    · exact List.forall_mem_append.2 ⟨fun c hc => h c (List.mem_of_mem_take hc),
        List.forall_mem_cons.2 ⟨rfl, fun c hc => h c (List.mem_of_mem_drop hc)⟩⟩
    · refine List.forall_mem_append.2 ⟨List.forall_mem_append.2 ⟨h, replicate_zero_literal _⟩, ?_⟩
      split <;> exact List.all_eq_true.1 rfl

theorem scientific_literal (h : ∀ c ∈ ds, isLiteralPart c = true) (exponent : Int) :
    ∀ c ∈ l.scientific ds exponent, isLiteralPart c = true := by
  unfold scientific
  refine List.forall_mem_append.2 ⟨List.forall_mem_append.2 ⟨fun c hc => h c (List.mem_of_mem_take hc), ?_⟩,
    List.forall_mem_cons.2 ⟨rfl, List.forall_mem_append.2 ⟨?_, integer_literal _⟩⟩⟩
  · split
    · exact List.forall_mem_nil _
    · exact List.forall_mem_cons.2 ⟨rfl, fun c hc => h c (List.mem_of_mem_drop hc)⟩
  · split <;> exact List.all_eq_true.1 rfl

theorem write_literal (x : Double) : ∀ c ∈ l.write x, isLiteralPart c = true := by
  have hbody : ∀ (d : Nat) (k : Int), ∀ c ∈ (if d = 0 ∨ l.positional ((digits d).length + k - 1) then
      l.place (digits d) ((digits d).length + k) else l.scientific (digits d) ((digits d).length + k - 1)),
      isLiteralPart c = true := by
    intro d k
    split
    · exact l.place_literal (digits_literal d) _
    · exact l.scientific_literal (digits_literal d) _
  unfold write
  simp only
  split
  · exact List.forall_mem_cons.2 ⟨rfl, hbody _ _⟩
  · exact hbody _ _

theorem place_ne_nil (h : ds ≠ []) (point : Int) : l.place ds point ≠ [] := by
  unfold place
  split
  · simp
  · split <;> simp [h]

theorem scientific_ne_nil (exponent : Int) : l.scientific ds exponent ≠ [] := by
  simp [scientific]

theorem write_ne_nil (x : Double) : l.write x ≠ [] := by
  unfold write
  simp only
  split
  · exact List.cons_ne_nil _ _
  · split
    · exact l.place_ne_nil (digits_ne_nil _) _
    · exact l.scientific_ne_nil _

end Layout

end Decimal

theorem Number.print_literal (n : Number) : ∀ c ∈ n.print, isLiteralPart c = true := by
  cases n with
  | int i => exact Decimal.integer_literal i
  | double x => exact Number.layout.write_literal x

theorem Number.print_ne_nil (n : Number) : n.print ≠ [] := by
  cases n with
  | int i =>
    rw [Number.print, Decimal.integer]
    split
    · exact List.cons_ne_nil _ _
    · exact Decimal.digits_ne_nil _
  | double x => exact Number.layout.write_ne_nil x

namespace Json

/-! ### Nested text -/

/-- Where a reader of nested text stands: outside of strings, in one, or behind a backslash in one. -/
inductive Mode
  | plain
  | text
  | escape
  deriving DecidableEq, Repr

def isOpening (c : Char) : Bool := c == '[' || c == '\x7b'

def isClosing (c : Char) : Bool := c == ']' || c == '\x7d'

/-- The text up to the bracket that closes the outermost one, with that bracket, and what follows it;
`depth` further brackets are open. -/
def readNested (depth : Nat) (mode : Mode) : List Char → Option (List Char × List Char)
  | [] => none
  | c :: rest =>
    let continued (depth : Nat) (mode : Mode) := (readNested depth mode rest).map fun (t, r) => (c :: t, r)
    match mode with
    | .escape => continued depth .text
    | .text => continued depth (if c = '\\' then .escape else if c = '"' then .plain else .text)
    | .plain =>
      if c = '"' then continued depth .text
      else if isOpening c then continued (depth + 1) .plain
      else if isClosing c then
        match depth with
        | 0 => some ([c], rest)
        | depth + 1 => continued depth .plain
      else continued depth .plain

/-- The reader passes over a text and then stands as told. -/
def Passes (depth : Nat) (mode : Mode) (cs : List Char) (depth' : Nat) (mode' : Mode) : Prop :=
  ∀ rest, readNested depth mode (cs ++ rest) = (readNested depth' mode' rest).map fun (t, r) => (cs ++ t, r)

namespace Passes
variable {d d' d'' : Nat} {m m' m'' : Mode} {cs cs' : List Char} {c : Char}

theorem nil : Passes d m [] d m := fun rest => by
  cases h : readNested d m rest <;> simp [h]

theorem append (h : Passes d m cs d' m') (h' : Passes d' m' cs' d'' m'') : Passes d m (cs ++ cs') d'' m'' := by
  intro rest
  rw [List.append_assoc, h, h', Option.map_map]
  simp only [Function.comp_def, List.append_assoc]

theorem cons (h : Passes d m [c] d' m') (h' : Passes d' m' cs' d'' m'') : Passes d m (c :: cs') d'' m'' :=
  h.append h'

/-- Characters that are neither quotes nor brackets change nothing outside of strings. -/
theorem plain (h : ∀ c ∈ cs, c ≠ '"' ∧ isOpening c = false ∧ isClosing c = false) :
    Passes d .plain cs d .plain := by
  induction cs with
  | nil => exact nil
  | cons c cs ih =>
    obtain ⟨hq, ho, hc⟩ := h c List.mem_cons_self
    have hone : Passes d .plain [c] d .plain := fun rest => by
      simp only [List.singleton_append, readNested, hq, ho, hc, if_false, Bool.false_eq_true]
    exact hone.cons (ih fun x hx => h x (List.mem_cons_of_mem _ hx))

/-- Characters that are neither quotes nor backslashes change nothing in a string. -/
theorem text (h : ∀ c ∈ cs, c ≠ '"' ∧ c ≠ '\\') : Passes d .text cs d .text := by
  induction cs with
  | nil => exact nil
  | cons c cs ih =>
    obtain ⟨hq, hb⟩ := h c List.mem_cons_self
    have hone : Passes d .text [c] d .text := fun rest => by
      simp only [List.singleton_append, readNested, hq, hb, if_false]
    exact hone.cons (ih fun x hx => h x (List.mem_cons_of_mem _ hx))

theorem escaped (c : Char) : Passes d .text ['\\', c] d .text := by
  have hback : Passes d .text ['\\'] d .escape := fun rest => rfl
  have hnext : Passes d .escape [c] d .text := fun rest => rfl
  exact hback.cons hnext

theorem quote_open : Passes d .plain ['"'] d .text := fun _ => rfl

theorem quote_close : Passes d .text ['"'] d .plain := fun _ => rfl

theorem opening (h : isOpening c = true) : Passes d .plain [c] (d + 1) .plain := by
  have hq : c ≠ '"' := by rintro rfl; exact absurd h (by decide)
  intro rest
  simp only [List.singleton_append, readNested, hq, h, if_false, if_true]

theorem closing (h : isClosing c = true) : Passes (d + 1) .plain [c] d .plain := by
  have hq : c ≠ '"' := by rintro rfl; exact absurd h (by decide)
  have ho : isOpening c = false := by
    simp only [isClosing, Bool.or_eq_true, beq_iff_eq] at h
    rcases h with rfl | rfl <;> rfl
  intro rest
  simp only [List.singleton_append, readNested, hq, ho, h, if_false, if_true, Bool.false_eq_true]

end Passes

theorem readNested_closing {c : Char} (h : isClosing c = true) (rest : List Char) :
    readNested 0 .plain (c :: rest) = some ([c], rest) := by
  simp only [isClosing, Bool.or_eq_true, beq_iff_eq] at h
  rcases h with rfl | rfl <;> rfl

/-! ### The text of a value -/

/-- The characters with an escape of two characters. -/
def shortEscapes : List Char := ['"', '\\', '\n', '\r', '\t', '\x08', '\x0c']

theorem printChar_of_not_mem {c : Char} (h : c ∉ shortEscapes) :
    printChar c = if c < ' ' then '\\' :: 'u' :: hex4 c.toNat else [c] := by
  simp only [shortEscapes, List.mem_cons, List.not_mem_nil, or_false, not_or] at h
  obtain ⟨hquote, hback, hn, hr, ht, hb, hf⟩ := h
  simp only [printChar, hquote, hback, hn, hr, ht, hb, hf, if_false]

variable {d : Nat}

theorem passes_printChar (c : Char) : Passes d .text (printChar c) d .text := by
  unfold printChar
  split
  · exact .escaped _
  · next hq =>
    split
    · exact .escaped _
    · next hb =>
      split
      · exact .escaped _
      split
      · exact .escaped _
      split
      · exact .escaped _
      split
      · exact .escaped _
      split
      · exact .escaped _
      split
      · next hlt =>
        have hn : c.toNat < 32 := UInt32.lt_iff_toNat_lt.1 (Char.lt_def.1 hlt)
        have hhex : ∀ n < 32, (hex4 n).all (fun x => x ≠ '"' ∧ x ≠ '\\') = true := by decide
        refine (Passes.escaped 'u').append (.text fun x hx => ?_)
        exact of_decide_eq_true (List.all_eq_true.1 (hhex _ hn) x hx)
      · exact .text (by simp [hq, hb])

theorem passes_printText (s : String) : Passes d .plain (printText s) d .plain := by
  have hbody : ∀ cs : List Char, Passes d .text (cs.flatMap printChar) d .text := by
    intro cs
    induction cs with
    | nil => exact .nil
    | cons c cs ih => exact (passes_printChar c).append ih
  exact Passes.quote_open.cons ((hbody _).append .quote_close)

theorem printItems_eq (xs : List Json) : printItems xs = xs.flatMap (fun x => ',' :: print x) ++ [']'] := by
  induction xs with
  | nil => rfl
  | cons x xs ih => rw [printItems, ih, List.flatMap_cons, List.cons_append, List.cons_append, List.append_assoc]

def printMember (m : String × Json) : List Char := printText m.1 ++ ':' :: print m.2

theorem printMembers_eq (ms : List (String × Json)) :
    printMembers ms = ms.flatMap (fun m => ',' :: printMember m) ++ ['\x7d'] := by
  induction ms with
  | nil => rfl
  | cons m ms ih =>
    obtain ⟨name, v⟩ := m
    rw [printMembers, ih, List.flatMap_cons]
    simp [printMember]

theorem passes_flatMap {α : Type} {f : α → List Char} {xs : List α}
    (h : ∀ x ∈ xs, Passes d .plain (f x) d .plain) :
    Passes d .plain (xs.flatMap fun x => ',' :: f x) d .plain := by
  induction xs with
  | nil => exact .nil
  | cons x xs ih =>
    have hcomma : Passes d .plain [','] d .plain := fun rest => rfl
    exact (hcomma.cons (h x List.mem_cons_self)).append (ih fun y hy => h y (List.mem_cons_of_mem _ hy))

/-- A value that is written between brackets. -/
def isNested : Json → Bool
  | .array _ | .object _ => true
  | _ => false

/-- A nested value is written as brackets around text that the reader passes over, provided it passes
over the values inside. -/
theorem print_nested (j : Json) (h : j.isNested = true)
    (hitems : ∀ xs, j = .array xs → ∀ x ∈ xs, ∀ d, Passes d .plain (print x) d .plain)
    (hmembers : ∀ ms, j = .object ms → ∀ m ∈ ms, ∀ d, Passes d .plain (print m.2) d .plain) :
    ∃ o inner c, print j = o :: (inner ++ [c]) ∧ isOpening o = true ∧ isClosing c = true ∧
      ∀ d, Passes d .plain inner d .plain := by
  cases j with
  | null | bool | number | text => cases h
  | array xs =>
    cases xs with
    | nil => exact ⟨'[', [], ']', rfl, rfl, rfl, fun d => .nil⟩
    | cons x xs =>
      refine ⟨'[', print x ++ xs.flatMap (fun x => ',' :: print x), ']', ?_, rfl, rfl, fun d => ?_⟩
      · rw [print, printItems_eq, List.append_assoc]
      · exact (hitems _ rfl x List.mem_cons_self d).append
          (passes_flatMap fun y hy => hitems _ rfl y (List.mem_cons_of_mem _ hy) d)
  | object ms =>
    cases ms with
    | nil => exact ⟨'\x7b', [], '\x7d', rfl, rfl, rfl, fun d => .nil⟩
    | cons m ms =>
      have hmember : ∀ m' ∈ m :: ms, ∀ d, Passes d .plain (printMember m') d .plain := fun m' hm' d => by
        have hcolon : Passes d .plain [':'] d .plain := fun rest => rfl
        exact (passes_printText m'.1).append (hcolon.cons (hmembers _ rfl m' hm' d))
      obtain ⟨name, v⟩ := m
      refine ⟨'\x7b', printMember (name, v) ++ ms.flatMap (fun m => ',' :: printMember m), '\x7d', ?_, rfl, rfl,
        fun d => ?_⟩
      · rw [print, printMembers_eq]
        simp [printMember]
      · exact (hmember _ List.mem_cons_self d).append
          (passes_flatMap fun y hy => hmember y (List.mem_cons_of_mem _ hy) d)

/-- Literal characters are neither quotes nor brackets. -/
theorem passes_literal {cs : List Char} (h : ∀ c ∈ cs, isLiteralPart c = true) : Passes d .plain cs d .plain := by
  refine .plain fun c hc => ?_
  have hlit := h c hc
  refine ⟨?_, ?_, ?_⟩
  · rintro rfl; exact absurd hlit (by decide)
  · rw [isOpening, Bool.or_eq_false_iff, beq_eq_false_iff_ne, beq_eq_false_iff_ne]
    constructor <;> (rintro rfl; exact absurd hlit (by decide))
  · rw [isClosing, Bool.or_eq_false_iff, beq_eq_false_iff_ne, beq_eq_false_iff_ne]
    constructor <;> (rintro rfl; exact absurd hlit (by decide))

theorem print_literal (j : Json) (hn : j.isNested = false) (ht : j.text? = none) :
    ∀ c ∈ print j, isLiteralPart c = true := by
  cases j with
  | null => exact List.all_eq_true.1 rfl
  | bool b => cases b <;> exact List.all_eq_true.1 rfl
  | number n => exact n.print_literal
  | text s => cases ht
  | array | object => cases hn

theorem passes_print (j : Json) : ∀ d, Passes d .plain (print j) d .plain := by
  intro d
  by_cases hn : j.isNested = true
  · obtain ⟨o, inner, c, heq, ho, hc, hinner⟩ := print_nested j hn
      (fun xs hxs x hx => passes_print x) (fun ms hms m hm => passes_print m.2)
    rw [heq]
    exact (Passes.opening ho).cons ((hinner _).append (.closing hc))
  · cases ht : j.text? with
    | none => exact passes_literal (print_literal j (by simpa using hn) ht)
    | some s =>
      obtain rfl : j = .text s := by cases j <;> simp_all [text?]
      exact passes_printText s
termination_by j
decreasing_by
  · subst hxs
    have := List.sizeOf_lt_of_mem hx
    simp only [array.sizeOf_spec]
    omega
  · subst hms
    have := List.sizeOf_lt_of_mem hm
    obtain ⟨name, v⟩ := m
    simp only [object.sizeOf_spec, Prod.mk.sizeOf_spec] at this ⊢
    omega

/-- Behind the bracket that opens a nested value, its text is read to the end and no further. -/
theorem readNested_print (j : Json) (h : j.isNested = true) :
    ∃ o inner, print j = o :: inner ∧ isOpening o = true ∧
      ∀ rest, readNested 0 .plain (inner ++ rest) = some (inner, rest) := by
  obtain ⟨o, inner, c, heq, ho, hc, hinner⟩ := print_nested j h
    (fun _ _ x _ => passes_print x) (fun _ _ m _ => passes_print m.2)
  refine ⟨o, inner ++ [c], heq, ho, fun rest => ?_⟩
  rw [List.append_assoc, hinner, List.singleton_append, readNested_closing hc, Option.map_some]

end Json

end QueryDesk
