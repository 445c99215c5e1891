import QueryDesk.Proofs.HeldValues

/-!
# Which values can be read again

A canonical value written out is read as itself from a place where it is not nested too deep, unless an object in it
would stand for another value (`toJsonWith_eq_ok_iff`). A document without members of the name for that holds values
that fit where it stands (`Document.fits_of_toJsonWith`).
-/

namespace QueryDesk.Json

/-! ### Values that fit -/

mutual
/-- How deep arrays and objects are nested in a value. -/
def depth : Json → Nat
  | .array xs => depthOfItems xs + 1
  | .object ms => depthOfMembers ms + 1
  | _ => 0
termination_by structural j => j

def depthOfItems : List Json → Nat
  | [] => 0
  | x :: xs => max x.depth (depthOfItems xs)
termination_by structural xs => xs

def depthOfMembers : List (String × Json) → Nat
  | [] => 0
  | (_, v) :: ms => max v.depth (depthOfMembers ms)
termination_by structural ms => ms
end

variable {n : Nat}

theorem depthOfItems_le {xs : List Json} : depthOfItems xs ≤ n ↔ ∀ x ∈ xs, x.depth ≤ n := by
  induction xs with
  | nil => simp [depthOfItems]
  | cons x xs ih => rw [depthOfItems, max_le_iff, List.forall_mem_cons, ih]

theorem depthOfMembers_le {ms : Members} : depthOfMembers ms ≤ n ↔ ∀ m ∈ ms, m.2.depth ≤ n := by
  induction ms with
  | nil => simp [depthOfMembers]
  | cons m ms ih => rw [depthOfMembers, max_le_iff, List.forall_mem_cons, ih]

/-- The members are those of an object that stands for another value. -/
def Stands (ms : Members) : Prop := ms.head?.map Prod.fst = some embeddedName

instance (ms : Members) : Decidable (Stands ms) := inferInstanceAs (Decidable (_ = _))

/-- The value is nested no deeper than so many levels, and no object in it stands for another value. -/
structure Fits (levels : Nat) (j : Json) : Prop where
  depth_le : j.depth ≤ levels
  not_stands : ∀ ms, .object ms ∈ j.parts → ¬ Stands ms

theorem fits_array {xs : List Json} : (array xs).Fits (n + 1) ↔ ∀ x ∈ xs, x.Fits n := by
  constructor
  · intro h x hx
    exact ⟨depthOfItems_le.1 (Nat.le_of_succ_le_succ h.depth_le) x hx,
      fun ms hms => h.not_stands ms (mem_parts_array.2 (.inr ⟨x, hx, hms⟩))⟩
  · intro h
    refine ⟨Nat.succ_le_succ (depthOfItems_le.2 fun x hx => (h x hx).depth_le), fun ms hms => ?_⟩
    rcases mem_parts_array.1 hms with hself | ⟨x, hx, hms⟩
    · cases hself
    · exact (h x hx).not_stands ms hms

theorem fits_object {ms : Members} : (object ms).Fits (n + 1) ↔ ¬ Stands ms ∧ ∀ m ∈ ms, m.2.Fits n := by
  constructor
  · intro h
    refine ⟨h.not_stands ms (mem_parts_object.2 (.inl rfl)), fun m hm => ?_⟩
    exact ⟨depthOfMembers_le.1 (Nat.le_of_succ_le_succ h.depth_le) m hm,
      fun ms' hms => h.not_stands ms' (mem_parts_object.2 (.inr ⟨m, hm, hms⟩))⟩
  · rintro ⟨hself, h⟩
    refine ⟨Nat.succ_le_succ (depthOfMembers_le.2 fun m hm => (h m hm).depth_le), fun ms' hms => ?_⟩
    rcases mem_parts_object.1 hms with heq | ⟨m, hm, hms⟩
    · cases heq
      exact hself
    · exact (h m hm).not_stands ms' hms

theorem Fits.ne_zero {j : Json} (h : j.Fits n) (hj : j.isNested = true) : n ≠ 0 := by
  rintro rfl
  have hdepth := h.depth_le
  cases j with
  | array => exact absurd hdepth (Nat.not_succ_le_zero _)
  | object => exact absurd hdepth (Nat.not_succ_le_zero _)
  | _ => cases hj

theorem Fields.names_of_toListWith {ofText : String → Except Error Json} {o : Origin} :
    ∀ {fields : Fields} {ms : Members} {ms' : List (String × Json)}, fields.Spells ms →
      fields.toListWith ofText o = .ok ms' → ms'.map Prod.fst = ms.map Prod.fst
  | .done, _, _, .done, h => by cases h; rfl
  | .field _ _ _ _, _, _, .field _ hrest, h => by
    rw [Fields.toListWith] at h
    obtain ⟨name, hname, h⟩ := Except.exists_of_bind_eq_ok h
    obtain ⟨x, -, h⟩ := Except.exists_of_bind_eq_ok h
    obtain ⟨ms, hms, h⟩ := Except.exists_of_bind_eq_ok h
    cases h
    cases hname
    rw [List.map_cons, List.map_cons, names_of_toListWith hrest hms]

section
variable {ofText : String → Except Error Json}

/-- The members of an object that stands for nothing are those of the list, in order. -/
theorem Fields.toJsonWith_of_not_stands {o : Origin} {fields : Fields} {ms : Members} (hspell : fields.Spells ms)
    (hms : ¬ Stands ms) : fields.toJsonWith ofText o = (fields.toListWith ofText o).map (.object ∘ Members.ofList) := by
  cases hspell with
  | done => rfl
  | @field name s d x rest ms hd hrest =>
    have hne : name ≠ embeddedName := fun h => hms (congrArg some h)
    rw [Fields.toJsonWith, Fields.toListWith]
    show (if name = embeddedName then _ else _) = _
    rw [if_neg hne]
    cases d.toJsonWith ofText o with
    | error e => rfl
    | ok y => cases rest.toListWith ofText o <;> rfl

/-- An object that stands for a value is none of its members, as it has no others. -/
theorem Fields.toJsonWith_ne_of_stands {o : Origin} {fields : Fields} {ms : Members} (hspell : fields.Spells ms)
    (hms : Stands ms) (haccompanied : ∀ v, ms ≠ [(embeddedName, v)]) (j : Json) :
    fields.toJsonWith ofText o ≠ .ok j := by
  intro h
  cases hspell with
  | done => cases hms
  | @field name s d x rest ms hd hrest =>
    obtain rfl : name = embeddedName := Option.some.inj hms
    rw [Fields.toJsonWith] at h
    obtain ⟨n, hn, h⟩ := Except.exists_of_bind_eq_ok h
    cases hn
    rw [if_pos rfl] at h
    obtain ⟨y, -, h⟩ := Except.exists_of_bind_eq_ok h
    obtain ⟨u, hu, -⟩ := Except.exists_of_bind_eq_ok h
    rw [eq_done_of_afterEmbedded (eq_ok_of_lift hu)] at hrest
    cases hrest
    exact haccompanied x rfl

theorem bind_cons_eq_ok {ε α β : Type} {f : α → β} (hf : f.Injective) {x : Except ε α} {xs : Except ε (List β)}
    {a : α} {bs : List β} : (do return f (← x) :: (← xs)) = .ok (f a :: bs) ↔ x = .ok a ∧ xs = .ok bs := by
  constructor
  · intro h
    obtain ⟨c, hc, h⟩ := Except.exists_of_bind_eq_ok h
    obtain ⟨cs, hcs, h⟩ := Except.exists_of_bind_eq_ok h
    obtain ⟨hca, rfl⟩ := List.cons.inj (Except.ok.inj h)
    obtain rfl := hf hca
    exact ⟨hc, hcs⟩
  · rintro ⟨ha, hbs⟩
    rw [ha, hbs]
    rfl

theorem map_eq_ok_iff {ε α β : Type} {x : Except ε α} {f : α → β} {a : α} (hf : ∀ b, x = .ok b → f b = f a → b = a) :
    x.map f = .ok (f a) ↔ x = .ok a := by
  constructor
  · intro h
    obtain ⟨b, hb, hfb⟩ := Except.exists_of_map_eq_ok h
    rw [hb, hf b hb hfb]
  · intro h
    rw [h]
    rfl

theorem fits_of_not_nested {j : Json} (h : j.isNested = false) : j.Fits n := by
  cases j with
  | array | object => cases h
  | _ => exact ⟨Nat.zero_le n, fun ms hms => by cases List.mem_singleton.1 hms⟩

mutual
theorem toJsonWith_eq_ok_iff : ∀ {n : Nat} {d : Document} {j : Json}, d.Spells j → j.Canonical →
    (d.toJsonWith ofText (.text (n + 1)) = .ok j ↔ j.Fits n)
  | _, _, _, .null, _ | _, _, _, .bool _, _ | _, _, _, .number _, _ | _, _, _, .text _, _ =>
    iff_of_true rfl (fits_of_not_nested rfl)
  | 0, _, _, .array _, _ | 0, _, _, .object _, _ => iff_of_false nofun fun h => h.ne_zero rfl rfl
  | n + 1, _, _, .array hitems, hj => by
    rw [fits_array, ← toListWith_items_eq_ok_iff hitems hj.of_array]
    exact map_eq_ok_iff fun _ _ heq => array.inj heq
  | n + 1, _, _, @Document.Spells.object fields ms hfields, hj => by
    obtain ⟨hsorted, haccompanied, hms⟩ := hj.of_object
    rw [fits_object, ← toListWith_fields_eq_ok_iff hfields hms]
    show fields.toJsonWith ofText (.text (n + 1)) = .ok (.object ms) ↔ _
    by_cases hstands : Stands ms
    · exact iff_of_false (Fields.toJsonWith_ne_of_stands hfields hstands haccompanied _) fun h => h.1 hstands
    · rw [Fields.toJsonWith_of_not_stands hfields hstands, and_iff_right hstands]
      have heq := Members.ofList_of_sorted hsorted
      rw [← congrArg object heq]
      refine map_eq_ok_iff fun ms' hms' hobject => ?_
      -- the members read have the names of `ms`, so they are in order as well
      have hsorted' : Members.Sorted ms' := by
        have hnames := Fields.names_of_toListWith hfields hms'
        rw [Members.Sorted, ← List.pairwise_map (f := Prod.fst) (R := (· < ·))] at hsorted ⊢
        rw [hnames]
        exact hsorted
      rw [← Members.ofList_of_sorted hsorted', ← heq]
      exact object.inj hobject

theorem toListWith_items_eq_ok_iff : ∀ {n : Nat} {items : Items} {xs : List Json}, items.Spells xs →
    (∀ x ∈ xs, x.Canonical) → (items.toListWith ofText (.text (n + 1)) = .ok xs ↔ ∀ x ∈ xs, x.Fits n)
  | _, _, _, .done, _ => iff_of_true rfl nofun
  | n, _, _, .item hd hrest, h => by
    obtain ⟨hx, hxs⟩ := List.forall_mem_cons.1 h
    rw [List.forall_mem_cons, ← toJsonWith_eq_ok_iff hd hx, ← toListWith_items_eq_ok_iff hrest hxs]
    exact bind_cons_eq_ok Function.injective_id

theorem toListWith_fields_eq_ok_iff : ∀ {n : Nat} {fields : Fields} {ms : Members}, fields.Spells ms →
    (∀ m ∈ ms, m.2.Canonical) → (fields.toListWith ofText (.text (n + 1)) = .ok ms ↔ ∀ m ∈ ms, m.2.Fits n)
  | _, _, _, .done, _ => iff_of_true rfl nofun
  | n, _, _, @Fields.Spells.field name _ _ _ _ _ hd hrest, h => by
    obtain ⟨hx, hxs⟩ := List.forall_mem_cons.1 h
    rw [List.forall_mem_cons, ← toJsonWith_eq_ok_iff hd hx, ← toListWith_fields_eq_ok_iff hrest hxs]
    exact bind_cons_eq_ok (Prod.mk_right_injective name)
end

/-! ### Documents without embedded texts -/

/-- The names of members that can be held. -/
def Fields.names : Fields → List String
  | .field (.ok name) _ _ rest => name :: rest.names
  | .field (.error _) _ _ rest => rest.names
  | _ => []
termination_by structural fields => fields

/-- The document is no object with a member of the name that stands for values. -/
def Document.Unmarked : Document → Prop
  | .object fields => embeddedName ∉ fields.names
  | _ => True

instance : DecidablePred Document.Unmarked
  | .object fields => inferInstanceAs (Decidable (embeddedName ∉ fields.names))
  | .null | .bool _ | .number _ | .text _ | .array _ | .flawed _ _ => inferInstanceAs (Decidable True)

/-- The names of what is held are names of the document. -/
theorem Fields.mem_names_of_toListWith {o : Origin} {ms : List (String × Json)} {name : String} :
    ∀ {fields : Fields}, fields.toListWith ofText o = .ok ms → name ∈ ms.map Prod.fst → name ∈ fields.names
  | .done, h, hname => by cases h; cases hname
  | .broken _ _, h, _ => by cases h
  | .field n s v rest, h, hname => by
    rw [Fields.toListWith] at h
    obtain ⟨n', hn, h⟩ := Except.exists_of_bind_eq_ok h
    obtain ⟨x, -, h⟩ := Except.exists_of_bind_eq_ok h
    obtain ⟨xs, hxs, h⟩ := Except.exists_of_bind_eq_ok h
    cases h
    cases eq_ok_of_lift hn
    rw [List.map_cons, List.mem_cons] at hname
    exact List.mem_cons.2 (hname.imp_right (mem_names_of_toListWith hxs))

/-- An object without the name holds its members. -/
theorem Fields.exists_of_toJsonWith {o : Origin} {fields : Fields} {j : Json} (hnames : embeddedName ∉ fields.names)
    (h : fields.toJsonWith ofText o = .ok j) :
    ∃ ms, fields.toListWith ofText o = .ok ms ∧ j = .object (Members.ofList ms) := by
  cases fields with
  | done => cases h; exact ⟨[], rfl, rfl⟩
  | broken => cases h
  | field name s v rest =>
    rw [Fields.toJsonWith] at h
    obtain ⟨n, hn, h⟩ := Except.exists_of_bind_eq_ok h
    have hne : n ≠ embeddedName := by
      rintro rfl
      cases eq_ok_of_lift hn
      exact hnames List.mem_cons_self
    rw [if_neg hne] at h
    obtain ⟨x, hx, h⟩ := Except.exists_of_bind_eq_ok h
    obtain ⟨ms, hms, h⟩ := Except.exists_of_bind_eq_ok h
    cases h
    refine ⟨(n, x) :: ms, ?_, rfl⟩
    rw [Fields.toListWith, hn, hx, hms]
    rfl

theorem Origin.exists_of_enter {n : Nat} {o : Origin} (h : lift (Origin.text (n + 1)).enter = .ok o) :
    ∃ m, n = m + 1 ∧ o = .text (m + 1) := by
  cases n with
  | zero => cases h
  | succ m => exact ⟨m, rfl, (Except.ok.inj h).symm⟩

mutual
theorem Document.fits_of_toJsonWith : ∀ {n : Nat} {d : Document} {j : Json}, (∀ x ∈ d.parts, x.Unmarked) →
    d.toJsonWith ofText (.text (n + 1)) = .ok j → j.Fits n
  | _, .null, _, _, h | _, .bool _, _, _, h | _, .number _, _, _, h | _, .text _, _, _, h => by
    cases h
    exact fits_of_not_nested rfl
  | n, .array items, j, hd, h => by
    rw [Document.toJsonWith] at h
    obtain ⟨inner, ho, h⟩ := Except.exists_of_bind_eq_ok h
    obtain ⟨n, rfl, rfl⟩ := Origin.exists_of_enter ho
    obtain ⟨xs, hxs, h⟩ := Except.exists_of_bind_eq_ok h
    cases h
    exact fits_array.2 (Items.fits_of_toListWith (List.forall_mem_cons.1 hd).2 hxs)
  | n, .object fields, j, hd, h => by
    obtain ⟨hself, hfields⟩ := List.forall_mem_cons.1 hd
    have hnames : embeddedName ∉ fields.names := hself
    rw [Document.toJsonWith] at h
    obtain ⟨inner, ho, h⟩ := Except.exists_of_bind_eq_ok h
    obtain ⟨n, rfl, rfl⟩ := Origin.exists_of_enter ho
    obtain ⟨ms, hms, rfl⟩ := Fields.exists_of_toJsonWith hnames h
    refine fits_object.2 ⟨fun hstands => ?_, fun m hm =>
      Fields.fits_of_toListWith hfields hms m (Members.mem_of_mem_ofList hm)⟩
    obtain ⟨m, hm, hname⟩ := Option.map_eq_some_iff.1 hstands
    refine hnames (Fields.mem_names_of_toListWith hms ?_)
    rw [← hname]
    exact List.mem_map_of_mem (Members.mem_of_mem_ofList (List.mem_of_mem_head? hm))
  | _, .flawed _ _, _, _, h => by cases h

theorem Items.fits_of_toListWith : ∀ {n : Nat} {items : Items} {xs : List Json}, (∀ x ∈ items.parts, x.Unmarked) →
    items.toListWith ofText (.text (n + 1)) = .ok xs → ∀ x ∈ xs, x.Fits n
  | _, .done, _, _, h => by cases h; exact nofun
  | _, .broken _ _, _, _, h => by cases h
  | _, .item _ v rest, _, hd, h => by
    obtain ⟨hv, hrest⟩ := List.forall_mem_append.1 hd
    rw [Items.toListWith] at h
    obtain ⟨x, hx, h⟩ := Except.exists_of_bind_eq_ok h
    obtain ⟨xs, hxs, h⟩ := Except.exists_of_bind_eq_ok h
    cases h
    exact List.forall_mem_cons.2 ⟨Document.fits_of_toJsonWith hv hx, Items.fits_of_toListWith hrest hxs⟩

theorem Fields.fits_of_toListWith : ∀ {n : Nat} {fields : Fields} {ms : List (String × Json)},
    (∀ x ∈ fields.parts, x.Unmarked) → fields.toListWith ofText (.text (n + 1)) = .ok ms → ∀ m ∈ ms, m.2.Fits n
  | _, .done, _, _, h => by cases h; exact nofun
  | _, .broken _ _, _, _, h => by cases h
  | _, .field _ _ v rest, _, hd, h => by
    obtain ⟨hv, hrest⟩ := List.forall_mem_append.1 hd
    rw [Fields.toListWith] at h
    obtain ⟨name, -, h⟩ := Except.exists_of_bind_eq_ok h
    obtain ⟨x, hx, h⟩ := Except.exists_of_bind_eq_ok h
    obtain ⟨ms, hms, h⟩ := Except.exists_of_bind_eq_ok h
    cases h
    exact List.forall_mem_cons.2 ⟨Document.fits_of_toJsonWith hv hx, Fields.fits_of_toListWith hrest hms⟩
end

theorem Document.eq_null_of_toJsonWith {o : Origin} {d : Document} (hd : ∀ x ∈ d.parts, x.Unmarked)
    (h : d.toJsonWith ofText o = .ok .null) : d = .null := by
  cases d with
  | null => rfl
  | bool | number | text | flawed => cases h
  | array items =>
    rw [Document.toJsonWith] at h
    obtain ⟨inner, -, h⟩ := Except.exists_of_bind_eq_ok h
    obtain ⟨xs, -, h⟩ := Except.exists_of_bind_eq_ok h
    cases h
  | object fields =>
    rw [Document.toJsonWith] at h
    obtain ⟨inner, -, h⟩ := Except.exists_of_bind_eq_ok h
    obtain ⟨ms, -, heq⟩ := Fields.exists_of_toJsonWith (List.forall_mem_cons.1 hd).1 h
    cases heq

end

end QueryDesk.Json
