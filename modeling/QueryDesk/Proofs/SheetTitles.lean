import QueryDesk.Proofs.SavedSoundness
import QueryDesk.Proofs.WrittenCharacters

/-!
# Sheet titles

A title has at most 31 characters, none of those that are forbidden, and no apostrophe at either end. White space goes
before apostrophes do, once, so white space that stood between apostrophes may be left at an end. `sheetTitle_ends` says
for which names that happens, and that the titles it does not happen to are those that are titles of themselves.
-/

namespace QueryDesk

/-! ### Trimming -/

namespace Text

variable {p : Char → Bool} {as cs ds : List Char}

theorem exists_dropEndWhile (p : Char → Bool) (cs : List Char) :
    ∃ ds, cs = dropEndWhile p cs ++ ds ∧ ∀ c ∈ ds, p c = true := by
  refine ⟨(cs.reverse.takeWhile p).reverse, ?_, fun c hc => List.mem_takeWhile_imp (List.mem_reverse.1 hc)⟩
  rw [dropEndWhile, ← List.reverse_append, List.takeWhile_append_dropWhile, List.reverse_reverse]

theorem exists_trimWhile (p : Char → Bool) (cs : List Char) :
    ∃ as ds, cs = as ++ trimWhile p cs ++ ds ∧ (∀ c ∈ as, p c = true) ∧ ∀ c ∈ ds, p c = true := by
  obtain ⟨ds, hds, hall⟩ := exists_dropEndWhile p (cs.dropWhile p)
  refine ⟨cs.takeWhile p, ds, ?_, fun c hc => List.mem_takeWhile_imp hc, hall⟩
  rw [trimWhile, List.append_assoc, ← hds, List.takeWhile_append_dropWhile]

theorem dropWhile_append (has : ∀ c ∈ as, p c = true) (hcs : ∀ c ∈ cs.head?, p c = false) :
    (as ++ cs).dropWhile p = cs := by
  rw [List.dropWhile_append_of_pos has]
  cases cs with
  | nil => rfl
  | cons c cs => rw [List.dropWhile_cons_of_neg (by simp [hcs c rfl])]

theorem getLast?_dropEndWhile : ∀ c ∈ (dropEndWhile p cs).getLast?, p c = false := by
  rw [dropEndWhile, List.getLast?_reverse]
  exact head?_dropWhile

theorem dropEndWhile_cons {c : Char} (h : p c = false) : dropEndWhile p (c :: cs) = c :: dropEndWhile p cs := by
  obtain ⟨ds, hds, hall⟩ := exists_dropEndWhile p cs
  rw [dropEndWhile, List.reverse_cons, List.dropWhile_append]
  cases hleft : cs.reverse.dropWhile p with
  | nil => simp [dropEndWhile, hleft, h]
  | cons d left => simp [dropEndWhile, hleft]

/-- Trimming is what takes away all that can go at either end. -/
theorem trimWhile_append (has : ∀ c ∈ as, p c = true) (hds : ∀ c ∈ ds, p c = true)
    (hfirst : ∀ c ∈ cs.head?, p c = false) (hlast : ∀ c ∈ cs.getLast?, p c = false) :
    trimWhile p (as ++ cs ++ ds) = cs := by
  have hrest : dropEndWhile p (cs ++ ds) = cs := by
    rw [dropEndWhile, List.reverse_append, dropWhile_append (fun c hc => hds c (List.mem_reverse.1 hc)),
      List.reverse_reverse]
    rwa [List.head?_reverse]
  rw [trimWhile, List.append_assoc]
  cases cs with
  | nil =>
    -- nothing is left, whatever of the two ends goes first
    rw [List.nil_append, List.dropWhile_append_of_pos has, List.dropWhile_eq_nil_iff.2 hds]
    rfl
  | cons c cs => rw [dropWhile_append has (by simpa using hfirst c rfl), hrest]

theorem trimWhile_eq_self_iff :
    trimWhile p cs = cs ↔ (∀ c ∈ cs.head?, p c = false) ∧ ∀ c ∈ cs.getLast?, p c = false := by
  constructor
  · intro h
    rw [← h]
    exact ⟨head?_trimWhile, getLast?_trimWhile⟩
  · rintro ⟨hfirst, hlast⟩
    have h : trimWhile p ([] ++ cs ++ []) = cs := trimWhile_append nofun nofun hfirst hlast
    rwa [List.nil_append, List.append_nil] at h

theorem trimWhile_reverse (p : Char → Bool) (cs : List Char) : trimWhile p cs.reverse = (trimWhile p cs).reverse := by
  obtain ⟨as, ds, hcs, has, hds⟩ := exists_trimWhile p cs
  have h : trimWhile p (ds.reverse ++ (trimWhile p cs).reverse ++ as.reverse) = (trimWhile p cs).reverse := by
    refine trimWhile_append (fun c hc => hds c (List.mem_reverse.1 hc)) (fun c hc => has c (List.mem_reverse.1 hc)) ?_ ?_
    · rw [List.head?_reverse]
      exact getLast?_trimWhile
    · rw [List.getLast?_reverse]
      exact head?_trimWhile
  rwa [← List.reverse_append, ← List.reverse_append, ← List.append_assoc, ← hcs] at h

theorem length_trimWhile_le (p : Char → Bool) (cs : List Char) : (trimWhile p cs).length ≤ cs.length := by
  obtain ⟨as, ds, hcs, -, -⟩ := exists_trimWhile p cs
  have h := congrArg List.length hcs
  simp only [List.length_append] at h
  omega

/-- White space that comes to an end of the text once the apostrophes before it are gone: apostrophes, perhaps behind
white space, then white space, and further on something that is none. -/
def Exposed (cs : List Char) : Prop :=
  ∃ blanks quotes c rest, cs = blanks ++ quotes ++ c :: rest ∧ (∀ b ∈ blanks, isBlank b = true) ∧ quotes ≠ [] ∧
    (∀ q ∈ quotes, q = '\'') ∧ isBlank c = true ∧ ∃ d ∈ rest, isBlank d = false

theorem exposed_of_head?_trimWhile {c : Char} (hc : c ∈ (trimWhile (· == '\'') (trimWhile isBlank cs)).head?)
    (hblank : isBlank c = true) : Exposed cs := by
  obtain ⟨blanks, blanks', hcs, hblanks, -⟩ := exists_trimWhile isBlank cs
  obtain ⟨quotes, quotes', hquoted, hquotes, -⟩ := exists_trimWhile (· == '\'') (trimWhile isBlank cs)
  have hfirst : ∀ c ∈ (trimWhile isBlank cs).head?, isBlank c = false := head?_trimWhile
  have hlast : ∀ c ∈ (trimWhile isBlank cs).getLast?, isBlank c = false := getLast?_trimWhile
  obtain ⟨rest, hrest⟩ := List.head?_eq_some_iff.1 hc
  rw [hrest] at hquoted
  refine ⟨blanks, quotes, c, rest ++ quotes' ++ blanks', ?_, hblanks, ?_, fun q hq => beq_iff_eq.1 (hquotes q hq),
    hblank, ?_⟩
  · rw [hcs, hquoted]
    simp only [List.append_assoc, List.cons_append]
  · rintro rfl
    -- without apostrophes the white space would have gone
    rw [hquoted] at hfirst
    exact Bool.false_ne_true ((hfirst c rfl).symm.trans hblank)
  · rw [hquoted, List.append_assoc, List.cons_append, List.getLast?_append_cons] at hlast
    rcases List.eq_nil_or_concat (rest ++ quotes') with hnil | ⟨front, d, hfront⟩
    · rw [hnil] at hlast
      exact absurd ((hlast c rfl).symm.trans hblank) Bool.false_ne_true
    · rw [hfront, List.concat_eq_append] at hlast ⊢
      have hd : d ∈ (c :: (front ++ [d])).getLast? := by
        rw [← List.cons_append, List.getLast?_concat]
        rfl
      exact ⟨d, List.mem_append_left _ (List.mem_append_right _ List.mem_cons_self), hlast d hd⟩

theorem head?_trimWhile_of_exposed (h : Exposed cs) :
    ∃ c ∈ (trimWhile (· == '\'') (trimWhile isBlank cs)).head?, isBlank c = true := by
  obtain ⟨blanks, quotes, c, rest, rfl, hblanks, hquotes, hall, hblank, d, hd, hdark⟩ := h
  obtain ⟨blanks', hrest, hblanks'⟩ := exists_dropEndWhile isBlank rest
  -- white space at the end goes up to what is none
  have hleft : dropEndWhile isBlank rest ≠ [] := by
    intro hnil
    rw [hnil, List.nil_append] at hrest
    exact Bool.false_ne_true (hdark.symm.trans (hblanks' d (hrest ▸ hd)))
  have hlast : ∀ e ∈ (quotes ++ c :: dropEndWhile isBlank rest).getLast?, isBlank e = false := by
    rw [List.getLast?_append_cons, List.getLast?_cons_of_ne_nil hleft]
    exact getLast?_dropEndWhile
  have hfirst : ∀ e ∈ (quotes ++ c :: dropEndWhile isBlank rest).head?, isBlank e = false := by
    obtain ⟨q, quotes, rfl⟩ := List.exists_cons_of_ne_nil hquotes
    rintro e he
    obtain rfl := Option.mem_some.1 he
    rw [hall q List.mem_cons_self]
    decide
  have htrimmed : trimWhile isBlank (blanks ++ quotes ++ c :: rest) = quotes ++ c :: dropEndWhile isBlank rest := by
    have h := trimWhile_append hblanks hblanks' hfirst hlast
    rwa [List.append_assoc, List.append_assoc, List.cons_append, ← hrest, ← List.append_assoc] at h
  -- the apostrophes go up to the white space behind them
  obtain ⟨quotes', hkept, hquotes'⟩ := exists_dropEndWhile (· == '\'') (c :: dropEndWhile isBlank rest)
  have hc : (c == '\'') = false := by
    refine beq_eq_false_iff_ne.2 ?_
    rintro rfl
    cases hblank
  have hkeep : dropEndWhile (· == '\'') (c :: dropEndWhile isBlank rest) =
      c :: dropEndWhile (· == '\'') (dropEndWhile isBlank rest) := dropEndWhile_cons hc
  rw [hkeep] at hkept
  have hend : ∀ e ∈ (c :: dropEndWhile (· == '\'') (dropEndWhile isBlank rest)).getLast?, (e == '\'') = false :=
    hkeep ▸ getLast?_dropEndWhile
  have hunquoted := trimWhile_append (p := (· == '\'')) (fun q hq => beq_iff_eq.2 (hall q hq)) hquotes'
    (fun e he => Option.mem_some.1 (List.head?_cons ▸ he) ▸ hc) hend
  rw [htrimmed, hkept, ← List.append_assoc, hunquoted]
  exact ⟨c, rfl, hblank⟩

theorem isBlank_head?_trimWhile_iff :
    (∃ c ∈ (trimWhile (· == '\'') (trimWhile isBlank cs)).head?, isBlank c = true) ↔ Exposed cs :=
  ⟨fun ⟨_, hc, hblank⟩ => exposed_of_head?_trimWhile hc hblank, head?_trimWhile_of_exposed⟩

/-- What is exposed is told from where white space and apostrophes stand. -/
theorem exposed_map {f : Char → Char} (hblank : ∀ c, isBlank (f c) = isBlank c) (hquote : ∀ c, f c = '\'' ↔ c = '\'') :
    Exposed (cs.map f) ↔ Exposed cs := by
  constructor
  · rintro ⟨blanks, quotes, c, rest, hcs, hblanks, hquotes, hall, hc, d, hd, hdark⟩
    obtain ⟨front, back, rfl, hfront, hback⟩ := List.map_eq_append_iff.1 hcs
    obtain ⟨blanks', quotes', rfl, rfl, rfl⟩ := List.map_eq_append_iff.1 hfront
    obtain ⟨c', rest', rfl, rfl, rfl⟩ := List.map_eq_cons_iff.1 hback
    obtain ⟨d', hd', rfl⟩ := List.mem_map.1 hd
    refine ⟨blanks', quotes', c', rest', rfl, fun b hb => ?_, fun hnil => hquotes (List.map_eq_nil_iff.2 hnil),
      fun q hq => ?_, hblank c' ▸ hc, d', hd', hblank d' ▸ hdark⟩
    · exact hblank b ▸ hblanks _ (List.mem_map_of_mem hb)
    · exact (hquote q).1 (hall _ (List.mem_map_of_mem hq))
  · rintro ⟨blanks, quotes, c, rest, rfl, hblanks, hquotes, hall, hc, d, hd, hdark⟩
    refine ⟨blanks.map f, quotes.map f, f c, rest.map f, ?_, ?_, mt List.map_eq_nil_iff.1 hquotes, ?_,
      (hblank c).trans hc, f d, List.mem_map_of_mem hd, (hblank d).trans hdark⟩
    · rw [List.map_append, List.map_append, List.map_cons]
    · exact List.forall_mem_map.2 fun b hb => (hblank b).trans (hblanks b hb)
    · exact List.forall_mem_map.2 fun q hq => (hquote q).2 (hall q hq)

theorem trimWhile_eq_self_of_length_le (h : cs.length ≤ (trimWhile p cs).length) : trimWhile p cs = cs := by
  obtain ⟨as, ds, hcs, -, -⟩ := exists_trimWhile p cs
  have hlength := congrArg List.length hcs
  simp only [List.length_append] at hlength
  obtain rfl : as = [] := List.length_eq_zero_iff.1 (by omega)
  obtain rfl : ds = [] := List.length_eq_zero_iff.1 (by omega)
  rw [List.nil_append, List.append_nil] at hcs
  exact hcs.symm

end Text

namespace Workbook

open Text (isBlank trimWhile Exposed)

/-! ### Titles -/

/-- The character that stands for a character of a name in a title. -/
def titleChar (c : Char) : Char := if isForbiddenInTitle c then '_' else c

theorem isForbiddenInTitle_iff {c : Char} : isForbiddenInTitle c = true ↔ c ∈ ['[', ']', ':', '*', '?', '/', '\\'] := by
  rw [isForbiddenInTitle, List.contains_iff_mem]

theorem isForbiddenInTitle_titleChar (c : Char) : isForbiddenInTitle (titleChar c) = false := by
  rw [titleChar]
  split
  case isTrue => decide
  case isFalse h => exact Bool.eq_false_iff.2 h

/-- A forbidden character is neither white space nor an apostrophe. -/
theorem not_blank_of_isForbiddenInTitle {c : Char} (h : isForbiddenInTitle c = true) : isBlank c = false ∧ c ≠ '\'' := by
  have hall : (['[', ']', ':', '*', '?', '/', '\\'].all fun c => !isBlank c && c != '\'') = true := by decide
  obtain ⟨hblank, hquote⟩ := Bool.and_eq_true_iff.1 (List.all_eq_true.1 hall c (isForbiddenInTitle_iff.1 h))
  exact ⟨Eq.mp (Bool.not_eq_true' _) hblank, bne_iff_ne.1 hquote⟩

theorem isBlank_titleChar (c : Char) : isBlank (titleChar c) = isBlank c := by
  rw [titleChar]
  split
  case isTrue h =>
    rw [(not_blank_of_isForbiddenInTitle h).1]
    decide
  case isFalse => rfl

theorem titleChar_eq_quote_iff (c : Char) : titleChar c = '\'' ↔ c = '\'' := by
  rw [titleChar]
  split
  case isTrue h => exact iff_of_false (by decide) (not_blank_of_isForbiddenInTitle h).2
  case isFalse => rfl

/-- The characters of a title, if any are left. -/
def titleChars (name : String) : List Char :=
  trimWhile (· == '\'') (trimWhile isBlank ((name.toList.take 31).map titleChar))

theorem toList_sheetTitle (name : String) :
    (sheetTitle name).toList = if titleChars name = [] then "Sheet1".toList else titleChars name := by
  have hchars : titleChars name = trimWhile (· == '\'') (trimWhile isBlank
      ((name.toList.map fun c => if isForbiddenInTitle c then '_' else c).take 31)) := by
    rw [titleChars, List.map_take]
    rfl
  rw [sheetTitle, ← hchars]
  simp only [List.isEmpty_iff]
  split
  · rfl
  · exact String.toList_ofList

variable {name : String}

theorem mem_titleChars {c : Char} (h : c ∈ titleChars name) : isForbiddenInTitle c = false := by
  obtain ⟨d, -, rfl⟩ := List.mem_map.1 (Text.mem_of_mem_trimWhile (Text.mem_of_mem_trimWhile h))
  exact isForbiddenInTitle_titleChar d

theorem length_titleChars_le (name : String) : (titleChars name).length ≤ 31 := by
  refine (Text.length_trimWhile_le _ _).trans ((Text.length_trimWhile_le _ _).trans ?_)
  rw [List.length_map]
  exact List.length_take_le 31 _

/-- White space at the end is white space at the start of what is read backwards. -/
theorem isBlank_getLast?_titleChars_iff :
    (∃ c ∈ (titleChars name).getLast?, isBlank c = true) ↔ Exposed (name.toList.take 31).reverse := by
  rw [← List.head?_reverse, titleChars, ← Text.trimWhile_reverse, ← Text.trimWhile_reverse, ← List.map_reverse,
    Text.isBlank_head?_trimWhile_iff, Text.exposed_map isBlank_titleChar titleChar_eq_quote_iff]

theorem isBlank_head?_titleChars_iff :
    (∃ c ∈ (titleChars name).head?, isBlank c = true) ↔ Exposed (name.toList.take 31) := by
  rw [titleChars, Text.isBlank_head?_trimWhile_iff, Text.exposed_map isBlank_titleChar titleChar_eq_quote_iff]

/-- What holds of the characters of the title that stands for nothing and of those of any other holds of a title. -/
theorem sheetTitle_cases {P : List Char → Prop} (hnone : P "Sheet1".toList)
    (hsome : titleChars name ≠ [] → P (titleChars name)) : P (sheetTitle name).toList := by
  rw [toList_sheetTitle]
  split
  case isTrue => exact hnone
  case isFalse h => exact hsome h

theorem mem_sheetTitle {c : Char} (h : c ∈ (sheetTitle name).toList) : isForbiddenInTitle c = false := by
  have hnone : ("Sheet1".toList.all fun c => !isForbiddenInTitle c) = true := by decide
  refine sheetTitle_cases (P := fun cs => ∀ c ∈ cs, isForbiddenInTitle c = false) (fun c hc => ?_)
    (fun _ _ => mem_titleChars) c h
  exact Eq.mp (Bool.not_eq_true' _) (List.all_eq_true.1 hnone c hc)

theorem length_sheetTitle (name : String) : 1 ≤ (sheetTitle name).toList.length ∧ (sheetTitle name).toList.length ≤ 31 :=
  sheetTitle_cases (P := fun cs => 1 ≤ cs.length ∧ cs.length ≤ 31) (by decide) fun h =>
    ⟨List.length_pos_iff.2 h, length_titleChars_le name⟩

theorem sheetTitle_ne_empty (name : String) : sheetTitle name ≠ "" := by
  intro hempty
  have hlength := (length_sheetTitle name).1
  rw [hempty] at hlength
  exact absurd hlength (by decide)

/-- Apostrophes at the ends of a title are gone. -/
theorem trimWhile_sheetTitle (name : String) :
    trimWhile (· == '\'') (sheetTitle name).toList = (sheetTitle name).toList :=
  sheetTitle_cases (P := fun cs => trimWhile (· == '\'') cs = cs) (by decide) fun _ =>
    Text.trimWhile_eq_self_iff.2 ⟨Text.head?_trimWhile, Text.getLast?_trimWhile⟩

theorem trimmed_default : Text.Trimmed "Sheet1" where
  nonempty := by decide
  first c hc := Option.mem_some.1 (show c ∈ some 'S' from hc) ▸ (by decide)
  last c hc := Option.mem_some.1 (show c ∈ some '1' from hc) ▸ (by decide)

/-- The title that stands for nothing has no white space at its ends either. -/
theorem exists_isBlank_sheetTitle_iff {atEnd : List Char → Option Char} (hempty : atEnd [] = none)
    (hdefault : ∀ c ∈ atEnd "Sheet1".toList, isBlank c = false) :
    (∃ c ∈ atEnd (sheetTitle name).toList, isBlank c = true) ↔ ∃ c ∈ atEnd (titleChars name), isBlank c = true := by
  rw [toList_sheetTitle]
  split
  case isTrue h =>
    rw [h, hempty]
    refine iff_of_false (fun ⟨c, hc, hblank⟩ => ?_) nofun
    exact Bool.false_ne_true ((hdefault c hc).symm.trans hblank)
  case isFalse => rfl

theorem isBlank_head?_sheetTitle_iff :
    (∃ c ∈ (sheetTitle name).toList.head?, isBlank c = true) ↔ Exposed (name.toList.take 31) :=
  (exists_isBlank_sheetTitle_iff List.head?_nil trimmed_default.first).trans isBlank_head?_titleChars_iff

theorem isBlank_getLast?_sheetTitle_iff :
    (∃ c ∈ (sheetTitle name).toList.getLast?, isBlank c = true) ↔ Exposed (name.toList.take 31).reverse :=
  (exists_isBlank_sheetTitle_iff List.getLast?_nil trimmed_default.last).trans isBlank_getLast?_titleChars_iff

/-- A title is the title of itself if there is no white space at its ends. -/
theorem sheetTitle_sheetTitle_iff :
    sheetTitle (sheetTitle name) = sheetTitle name ↔ Text.Trimmed (sheetTitle name) := by
  have hchars : titleChars (sheetTitle name) =
      trimWhile (· == '\'') (trimWhile isBlank (sheetTitle name).toList) := by
    have hmap : (sheetTitle name).toList.map titleChar = (sheetTitle name).toList :=
      (List.map_congr_left fun c hc => if_neg (by rw [mem_sheetTitle hc]; exact Bool.false_ne_true)).trans (List.map_id' _)
    rw [titleChars, List.take_of_length_le (length_sheetTitle name).2, hmap]
  constructor
  · intro h
    rw [← String.toList_inj, toList_sheetTitle, hchars] at h
    split at h
    case isTrue => exact String.toList_inj.1 h ▸ trimmed_default
    case isFalse =>
      -- two trimmings that take nothing away
      have hkept : trimWhile isBlank (sheetTitle name).toList = (sheetTitle name).toList := by
        refine Text.trimWhile_eq_self_of_length_le ?_
        rw [← congrArg List.length h]
        exact Text.length_trimWhile_le _ _
      obtain ⟨hfirst, hlast⟩ := Text.trimWhile_eq_self_iff.1 hkept
      exact ⟨sheetTitle_ne_empty name, hfirst, hlast⟩
  · rintro ⟨hne, hfirst, hlast⟩
    rw [← String.toList_inj, toList_sheetTitle, hchars, Text.trimWhile_eq_self_iff.2 ⟨hfirst, hlast⟩,
      trimWhile_sheetTitle, if_neg (mt String.toList_eq_nil_iff.1 hne)]

/-! ### Normal titles -/

/-- A legal title that is kept as it is. -/
structure NormalTitle (title : String) : Prop where
  length : 1 ≤ title.length ∧ title.length ≤ 31
  allowed : ∀ c ∈ ['[', ']', ':', '*', '?', '/', '\\'], c ∉ title.toList
  unquoted : title.toList.head? ≠ some '\'' ∧ title.toList.getLast? ≠ some '\''
  trimmed : Text.Trimmed title
  filled : Text.isBlankText title = false
  kept : sheetTitle title = title

theorem trimmed_sheetTitle_iff :
    Text.Trimmed (sheetTitle name) ↔ ¬Exposed (name.toList.take 31) ∧ ¬Exposed (name.toList.take 31).reverse := by
  rw [← isBlank_head?_sheetTitle_iff, ← isBlank_getLast?_sheetTitle_iff]
  simp only [not_exists, not_and, Bool.not_eq_true]
  exact ⟨fun h => ⟨h.first, h.last⟩, fun h => ⟨sheetTitle_ne_empty name, h.1, h.2⟩⟩

/-- A title is never too long and never empty, has no forbidden character and no apostrophe at an end. It begins or ends
with white space exactly if the first 31 characters of the name have apostrophes there with white space behind them,
and if they have not it is normal. -/
theorem sheetTitle_ends (name : String) :
    (1 ≤ (sheetTitle name).length ∧ (sheetTitle name).length ≤ 31) ∧
    (∀ c ∈ ['[', ']', ':', '*', '?', '/', '\\'], c ∉ (sheetTitle name).toList) ∧
    ((sheetTitle name).toList.head? ≠ some '\'' ∧ (sheetTitle name).toList.getLast? ≠ some '\'') ∧
    ((∃ c ∈ (sheetTitle name).toList.head?, isBlank c = true) ↔ Exposed (name.toList.take 31)) ∧
    ((∃ c ∈ (sheetTitle name).toList.getLast?, isBlank c = true) ↔ Exposed (name.toList.take 31).reverse) ∧
    (NormalTitle (sheetTitle name) ↔ ¬Exposed (name.toList.take 31) ∧ ¬Exposed (name.toList.take 31).reverse) := by
  have hlength : 1 ≤ (sheetTitle name).length ∧ (sheetTitle name).length ≤ 31 := length_sheetTitle name
  have hallowed : ∀ c ∈ ['[', ']', ':', '*', '?', '/', '\\'], c ∉ (sheetTitle name).toList := fun c hc hmem =>
    Bool.false_ne_true ((mem_sheetTitle hmem).symm.trans (isForbiddenInTitle_iff.2 hc))
  obtain ⟨hfirst, hlast⟩ := Text.trimWhile_eq_self_iff.1 (trimWhile_sheetTitle name)
  have hunquoted : (sheetTitle name).toList.head? ≠ some '\'' ∧ (sheetTitle name).toList.getLast? ≠ some '\'' :=
    ⟨fun h => absurd (hfirst _ h) (by decide), fun h => absurd (hlast _ h) (by decide)⟩
  refine ⟨hlength, hallowed, hunquoted, isBlank_head?_sheetTitle_iff, isBlank_getLast?_sheetTitle_iff, ?_⟩
  rw [← trimmed_sheetTitle_iff]
  refine ⟨NormalTitle.trimmed, fun h => ⟨hlength, hallowed, hunquoted, h, ?_, sheetTitle_sheetTitle_iff.2 h⟩⟩
  rw [← Bool.not_eq_true, ← Text.trim_eq_empty_iff, Text.trim, Text.trimWhile_eq_self_iff.2 ⟨h.first, h.last⟩,
    String.ofList_toList]
  exact h.nonempty

/-- Apostrophes around white space leave a blank title, and apostrophes before a word or behind it a title with white
space at that end. None of the three is the title of itself. -/
theorem exists_title_not_normal :
    sheetTitle "' '" = " " ∧ sheetTitle "' x" = " x" ∧ sheetTitle "x '" = "x " ∧
      ∀ name ∈ ["' '", "' x", "x '"], ¬NormalTitle (sheetTitle name) := by
  have hblank : sheetTitle "' '" = " " := by decide
  have hfirst : sheetTitle "' x" = " x" := by decide
  have hlast : sheetTitle "x '" = "x " := by decide
  refine ⟨hblank, hfirst, hlast, ?_⟩
  simp only [List.forall_mem_cons, hblank, hfirst, hlast]
  refine ⟨fun h => ?_, fun h => ?_, fun h => ?_, nofun⟩
  · exact absurd h.filled (by decide)
  · exact absurd (h.trimmed.first ' ' rfl) (by decide)
  · exact absurd (h.trimmed.last ' ' rfl) (by decide)

end Workbook

end QueryDesk
