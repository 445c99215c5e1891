import Mathlib.Data.List.Nodup
import QueryDesk.Proofs.Rereading

/-!
# Records are read back

A record meets the members of an object in the order in which they stand, but as its fields have different names they
do not disturb each other (`Record.yields_seq`): each has what its own decoder takes from its own member. So a decoder
that reads back the values of the fields reads back the record (`Decoder.record_readsBack`).
-/

namespace QueryDesk

namespace Members

theorem mem_of_get? {ms : Members} {name : String} {v : Json} (h : ms.get? name = some v) : (name, v) ∈ ms := by
  obtain ⟨before, behind, rfl, -⟩ := List.lookup_eq_some_iff.1 h
  exact List.mem_append_right _ List.mem_cons_self

theorem not_mem_of_get?_eq_none {ms : Members} {name : String} (h : ms.get? name = none) : name ∉ ms.map Prod.fst := by
  intro hmem
  obtain ⟨m, hm, rfl⟩ := List.mem_map.1 hmem
  have := List.lookup_eq_none_iff.1 h m hm
  simp at this

theorem get?_ofList_presentMembers {xs : List (String × Option Json)} (hnd : (xs.map Prod.fst).Nodup)
    {name : String} {v? : Option Json} (h : (name, v?) ∈ xs) : (ofList (presentMembers xs)).get? name = v? := by
  have hnames : ((presentMembers xs).map Prod.fst).Sublist (xs.map Prod.fst) := by
    clear hnd h
    induction xs with
    | nil => exact .slnil
    | cons x xs ih =>
      obtain ⟨n, w?⟩ := x
      cases w? with
      | none => exact ih.cons n
      | some w => exact ih.cons_cons n
  cases v? with
  | some v => exact get?_ofList (hnames.nodup hnd) (List.mem_filterMap.2 ⟨_, h, rfl⟩)
  | none =>
    refine get?_foldl_insert_of_not_mem fun hmem => ?_
    obtain ⟨⟨n, v⟩, hv, rfl⟩ := List.mem_map.1 hmem
    obtain ⟨⟨n', w?⟩, hw, heq⟩ := List.mem_filterMap.1 hv
    obtain ⟨w, rfl, heq⟩ := Option.map_eq_some_iff.1 heq
    cases heq
    -- two entries of one name are the same entry
    have := List.inj_on_of_nodup_map hnd hw h rfl
    cases this

end Members

namespace Json

variable {α β : Type}

mutual
theorem Document.Spells.pass : ∀ {d : Document} {j : Json}, d.Spells j → d.pass = .ok ()
  | _, _, .null | _, _, .bool _ | _, _, .number _ | _, _, .text _ => rfl
  | _, _, .array h => h.pass
  | _, _, .object h => h.pass

theorem Items.Spells.pass : ∀ {items : Items} {xs : List Json}, items.Spells xs → items.pass = .ok ()
  | _, _, .done => rfl
  | _, _, .item hd hrest => Items.pass_item hd.pass hrest.pass

theorem Fields.Spells.pass : ∀ {fields : Fields} {ms : Members}, fields.Spells ms → fields.pass = .ok ()
  | _, _, .done => rfl
  | _, _, .field hd hrest => Fields.pass_field hd.pass hrest.pass
end

namespace Record
variable {f : Record (α → β)} {x r : Record α} {o : Origin} {fields : Fields} {ms : Members} {ns ns' : List String}
  {name : String} {g : Decoder α} {absent short : Option α}

/-- The record takes members of some names only. -/
def Named (r : Record α) (ns : List String) : Prop :=
  ∀ o n s d known, n ∉ ns → r.accept o n s d known = none

/-- Going through the members gives the record. -/
def Yields (r : Record α) (o : Origin) (fields : Fields) (a : α) : Prop :=
  ∃ known, r.walk o r.start fields = .ok known ∧ r.finish known = .ok a

theorem walk_field {s : Stretch} {d : Document} {j : Json} (hd : d.Spells j) (known : r.State) (rest : Fields) :
    r.walk o known (.field (.ok name) s d rest)
      = match r.accept o name s d known with
        | some next => next >>= (r.walk o · rest)
        | none => r.walk o known rest := by
  rw [walk]
  show (match r.accept o name s d known with | some next => _ | none => _) = _
  cases r.accept o name s d known with
  | some next => rfl
  | none =>
    simp only [hd.pass]
    rfl

/-- Members of other names are passed over. -/
theorem Named.walk_eq (hr : r.Named ns) : ∀ {fields : Fields} {ms : Members}, fields.Spells ms →
    (∀ m ∈ ms, m.1 ∉ ns) → ∀ known, r.walk o known fields = .ok known
  | _, _, .done, _, _ => rfl
  | _, _, .field hd hrest, hms, known => by
    obtain ⟨hname, hms⟩ := List.forall_mem_cons.1 hms
    rw [walk_field hd, hr _ _ _ _ _ hname]
    exact hr.walk_eq hrest hms known

theorem named_pure (a : α) : (pure a).Named [] := fun _ _ _ _ _ _ => rfl

theorem named_fieldWith (name : String) (g : Decoder α) (absent short : Option α) :
    (fieldWith name g absent short).Named [name] :=
  fun _ _ _ _ _ hn => if_neg fun h => hn (List.mem_singleton.2 h)

theorem Named.seq (hf : f.Named ns) (hx : x.Named ns') : (seq f x).Named (ns ++ ns') := by
  intro o n s d known hn
  rw [List.mem_append, not_or] at hn
  simp only [Record.seq, hf _ _ _ _ _ hn.1, hx _ _ _ _ _ hn.2, Option.map_none]

/-- Two records of different names go through the members side by side. -/
theorem walk_seq (hf : f.Named ns) (hx : x.Named ns') (hdisjoint : ns.Disjoint ns') (hfields : fields.Spells ms)
    {s s' : f.State} {t t' : x.State} :
    (seq f x).walk o (s, t) fields = .ok (s', t') ↔ f.walk o s fields = .ok s' ∧ x.walk o t fields = .ok t' := by
  induction ms generalizing fields s t with
  | nil =>
    cases hfields
    constructor
    · intro h
      cases h
      exact ⟨rfl, rfl⟩
    · rintro ⟨hs, ht⟩
      cases hs
      cases ht
      rfl
  | cons m ms ih =>
    cases hfields with
    | @field name st d j rest _ hd hrest =>
      have hboth : (seq f x).walk o (s, t) (.field (.ok name) st d rest) = _ :=
        walk_field (r := seq f x) hd (s, t) rest
      rw [hboth, walk_field hd, walk_field hd]
      simp only [Record.seq]
      -- the name belongs to one of the two at most, and the other passes over the member
      by_cases hname : name ∈ ns
      · rw [hx o name st d t (hdisjoint hname)]
        cases f.accept o name st d s with
        | none => exact ih hrest
        | some r =>
          cases r with
          | error e => exact iff_of_false (by intro h; cases h) (by rintro ⟨h, -⟩; cases h)
          | ok k => exact ih hrest
      · rw [hf o name st d s hname]
        cases x.accept o name st d t with
        | none => exact ih hrest
        | some r =>
          cases r with
          | error e => exact iff_of_false (by intro h; cases h) (by rintro ⟨-, h⟩; cases h)
          | ok k => exact ih hrest

theorem yields_pure (hfields : fields.Spells ms) {a b : α} : (pure a).Yields o fields b ↔ a = b := by
  have hwalk := (named_pure a).walk_eq (o := o) hfields (fun _ _ => List.not_mem_nil) ()
  constructor
  · rintro ⟨known, -, hfinish⟩
    exact Except.ok.inj hfinish
  · rintro rfl
    exact ⟨(), hwalk, rfl⟩

theorem yields_seq (hf : f.Named ns) (hx : x.Named ns') (hdisjoint : ns.Disjoint ns') (hfields : fields.Spells ms)
    {b : β} : (seq f x).Yields o fields b ↔ ∃ g a, f.Yields o fields g ∧ x.Yields o fields a ∧ g a = b := by
  constructor
  · rintro ⟨⟨s, t⟩, hwalk, hfinish⟩
    obtain ⟨hs, ht⟩ := (walk_seq hf hx hdisjoint hfields).1 hwalk
    obtain ⟨g, hg, hfinish⟩ := Except.exists_of_bind_eq_ok hfinish
    obtain ⟨a, ha, hfinish⟩ := Except.exists_of_bind_eq_ok hfinish
    exact ⟨g, a, ⟨s, hs, hg⟩, ⟨t, ht, ha⟩, Except.ok.inj hfinish⟩
  · rintro ⟨g, a, ⟨s, hs, hg⟩, ⟨t, ht, ha⟩, rfl⟩
    refine ⟨(s, t), (walk_seq hf hx hdisjoint hfields).2 ⟨hs, ht⟩, ?_⟩
    show (f.finish s >>= fun g => x.finish t >>= fun a => .ok (g a)) = _
    rw [hg, ha]
    rfl

theorem yields_fieldWith_of_none (hfields : fields.Spells ms) (hget : name ∉ ms.map Prod.fst) {a : α} :
    (fieldWith name g absent short).Yields o fields a ↔ absent = some a := by
  have hwalk := (named_fieldWith name g absent short).walk_eq (o := o) hfields
    (fun m hm h => hget (List.mem_singleton.1 h ▸ List.mem_map_of_mem hm)) none
  constructor
  · rintro ⟨known, hknown, hfinish⟩
    cases hwalk.symm.trans hknown
    cases absent with
    | none => cases hfinish
    | some b => exact congrArg some (Except.ok.inj hfinish)
  · rintro rfl
    exact ⟨none, hwalk, rfl⟩

/-- A field that is there has what its decoder takes from the document of its member. -/
theorem exists_walk_fieldWith {j : Json} (hfields : fields.Spells ms) (hnames : (ms.map Prod.fst).Nodup)
    (hmem : (name, j) ∈ ms) :
    ∃ s d, d.Spells j ∧ (fieldWith name g absent short).walk o none fields = (g o s d).map some := by
  induction ms generalizing fields with
  | nil => cases hmem
  | cons m ms ih =>
    obtain ⟨hn, hrestnames⟩ := List.nodup_cons.1 hnames
    cases hfields with
    | @field n s d k rest _ hd hrest =>
      have hfresh : ∀ m ∈ ms, m.1 ≠ n := fun m hm h => hn (List.mem_map.2 ⟨m, hm, h⟩)
      have hwalk : (fieldWith name g absent short).walk o none (.field (.ok n) s d rest) = _ :=
        walk_field (r := fieldWith name g absent short) hd none rest
      rw [hwalk]
      simp only [fieldWith]
      rcases List.mem_cons.1 hmem with heq | hmem
      · cases heq
        refine ⟨s, d, hd, ?_⟩
        rw [if_pos rfl]
        show ((g o s d).map some >>= _) = _
        cases g o s d with
        | error e => rfl
        | ok a =>
          exact (named_fieldWith name g absent short).walk_eq hrest
            (fun m hm h => hfresh m hm (List.mem_singleton.1 h)) (some a)
      · rw [if_neg (hfresh _ hmem).symm]
        exact ih hrest hrestnames hmem

theorem exists_yields_fieldWith {j : Json} (hfields : fields.Spells ms) (hnames : (ms.map Prod.fst).Nodup)
    (hmem : (name, j) ∈ ms) : ∃ s d, d.Spells j ∧
      ∀ a, (fieldWith name g absent short).Yields o fields a ↔ g o s d = .ok a := by
  obtain ⟨s, d, hd, hwalk⟩ := exists_walk_fieldWith (o := o) (g := g) hfields hnames hmem
  refine ⟨s, d, hd, fun a => ?_⟩
  constructor
  · rintro ⟨known, hknown, hfinish⟩
    obtain ⟨b, hb, rfl⟩ := Except.exists_of_map_eq_ok (hwalk.symm.trans hknown)
    rw [hb]
    exact hfinish
  · intro ha
    refine ⟨some a, ?_, rfl⟩
    rw [ha] at hwalk
    exact hwalk

/-- The members as read make the record exactly if the predicate holds of it; the names are those it takes. -/
structure Builds (r : Record α) (o : Origin) (fields : Fields) (ns : List String) (P : α → Prop) : Prop where
  spells : ∃ ms, fields.Spells ms
  named : r.Named ns
  yields_iff : ∀ a, r.Yields o fields a ↔ P a

theorem builds_pure (hfields : ∃ ms, fields.Spells ms) (a : α) : (pure a).Builds o fields [] (a = ·) :=
  ⟨hfields, named_pure a, fun _ => hfields.elim fun _ h => yields_pure h⟩

theorem Builds.fieldWith {F : (α → β) → Prop} (hf : f.Builds o fields ns F) (hname : name ∉ ns) :
    (Record.seq f (Record.fieldWith name g absent short)).Builds o fields (ns ++ [name])
      fun b => ∃ h a, F h ∧ (Record.fieldWith name g absent short).Yields o fields a ∧ h a = b := by
  have hfield := named_fieldWith name g absent short
  refine ⟨hf.spells, hf.named.seq hfield, fun b => ?_⟩
  obtain ⟨ms, hms⟩ := hf.spells
  rw [yields_seq hf.named hfield (List.disjoint_singleton.2 hname) hms]
  simp only [hf.yields_iff]

theorem Builds.field {F : (α → β) → Prop} (hf : f.Builds o fields ns F) (hname : name ∉ ns) :
    (Record.seq f (Record.field name g)).Builds o fields (ns ++ [name])
      fun b => ∃ h a, F h ∧ (Record.field name g).Yields o fields a ∧ h a = b := hf.fieldWith hname

theorem Builds.optional {F : (Option α → β) → Prop} {f : Record (Option α → β)} (hf : f.Builds o fields ns F)
    (hname : name ∉ ns) : (Record.seq f (Record.optional name g)).Builds o fields (ns ++ [name])
      fun b => ∃ h a, F h ∧ (Record.optional name g).Yields o fields a ∧ h a = b := hf.fieldWith hname

end Record

/-- The members spelled out are in order, and of the given ones they are those that are present. -/
def Fields.Holds (fields : Fields) (xs : List (String × Option Json)) : Prop :=
  ∃ ms : Members, fields.Spells ms ∧ ms.Sorted ∧ ∀ m ∈ xs, ms.get? m.1 = m.2

theorem Fields.Holds.spells {fields : Fields} {xs : List (String × Option Json)} (h : fields.Holds xs) :
    ∃ ms, fields.Spells ms := h.imp fun _ h => h.1

/-- From a place with so many levels left, the decoder takes the value out of what it is written as exactly if the
condition holds. -/
def Decoder.ReadsBack (g : Decoder α) (n : Nat) (j : Json) (a : α) (P : Prop) : Prop :=
  ∀ ⦃s d⦄, d.Spells j → (g (.text (n + 1)) s d = .ok a ↔ P)

namespace Decoder
variable {n : Nat} {g : Decoder α}

theorem text_readsBack (s : String) : text.ReadsBack n (.text s) s True := by
  rintro s' _ ⟨⟩
  exact iff_of_true rfl trivial

theorem nat32_readsBack (i : Nat) : nat32.ReadsBack n (.ofNat i) i (i < 2 ^ 32) := by
  rintro s _ ⟨⟩
  simp only [nat32, integer]
  split
  · next h => exact iff_of_true rfl (by omega)
  · next h => exact iff_of_false nofun (by omega)

theorem variant_readsBack {byName : String → Except Error α} (name : String) (a : α) :
    (variant byName).ReadsBack n (.text name) a (byName name = .ok a) := by
  rintro s _ ⟨⟩
  exact Iff.rfl

theorem json_readsBack {j : Json} (hj : j.Canonical) : json.ReadsBack n j j (j.Fits n) :=
  fun _ _ hd => toJsonWith_eq_ok_iff hd hj

theorem list_readsBack {enc : α → Json} {P : α → Prop} {xs : List α} (h : ∀ x ∈ xs, g.ReadsBack n (enc x) x (P x)) :
    (list g).ReadsBack (n + 1) (.array (xs.map enc)) xs (∀ x ∈ xs, P x) := by
  intro s d hd
  obtain ⟨read, rfl, hitems⟩ : ∃ read, d = .array read ∧ read.Spells (xs.map enc) := by
    cases hd with
    | array hitems => exact ⟨_, rfl, hitems⟩
  show items g (.text (n + 1)) read = .ok xs ↔ _
  clear hd
  induction xs generalizing read with
  | nil =>
    cases hitems
    exact iff_of_true rfl nofun
  | cons x xs ih =>
    obtain ⟨hx, hxs⟩ := List.forall_mem_cons.1 h
    cases hitems with
    | item hd hrest =>
      rw [List.forall_mem_cons, ← hx hd, ← ih hxs _ hrest]
      exact bind_cons_eq_ok Function.injective_id

/-- What is not written as null is read from behind a possible null. -/
theorem nullable_readsBack {j : Json} {a : α} {P : Prop} (h : g.ReadsBack n j a P) :
    (nullable g).ReadsBack n j (some a) (j ≠ .null ∧ P) := by
  intro s d hd
  have hg := h hd (s := s)
  cases hd with
  | null => exact iff_of_false nofun fun h => h.1 rfl
  | bool | number | text | array | object =>
    rw [← hg, and_iff_right nofun]
    exact map_eq_ok_iff fun _ _ heq => Option.some.inj heq

/-- A record is read from the object of its present members as from those members in order. -/
theorem record_readsBack {r : Record α} {name : String} {xs : List (String × Option Json)} {a : α} {P : Prop}
    (hnames : (xs.map Prod.fst).Nodup)
    (h : ∀ fields : Fields, fields.Holds xs → (r.Yields (.text (n + 1)) fields a ↔ P)) :
    (r.decoder name).ReadsBack (n + 1) (.ofMembers (presentMembers xs)) a P := by
  intro s d hd
  cases hd with
  | object hfields =>
    rw [← h _ ⟨_, hfields, Members.sorted_ofList _, fun m hm => Members.get?_ofList_presentMembers hnames hm⟩]
    show (r.walk (.text (n + 1)) r.start _ >>= r.finish) = .ok a ↔ _
    constructor
    · exact Except.exists_of_bind_eq_ok
    · rintro ⟨known, hknown, hfinish⟩
      rw [hknown]
      exact hfinish

end Decoder

namespace Record
variable {n : Nat} {fields : Fields} {xs : List (String × Option Json)} {name : String} {g : Decoder α}

theorem yields_field {j : Json} {a : α} {P : Prop} (hfields : fields.Holds xs) (hmem : (name, some j) ∈ xs)
    (hg : g.ReadsBack n j a P) : (field name g).Yields (.text (n + 1)) fields a ↔ P := by
  obtain ⟨ms, hms, hsorted, hget⟩ := hfields
  obtain ⟨s, d, hd, h⟩ := exists_yields_fieldWith hms hsorted.nodup (Members.mem_of_get? (hget _ hmem))
  exact (h a).trans (hg hd)

/-- A field that may be left out comes back also where it is. -/
theorem yields_optional {enc : α → Json} {a? : Option α} {P : α → Prop} (hfields : fields.Holds xs)
    (hmem : (name, a?.map enc) ∈ xs) (hg : ∀ a ∈ a?, g.ReadsBack n (enc a) a (P a)) :
    (optional name g).Yields (.text (n + 1)) fields a? ↔ ∀ a ∈ a?, enc a ≠ .null ∧ P a := by
  obtain ⟨ms, hms, hsorted, hget⟩ := hfields
  have hget := hget _ hmem
  cases a? with
  | none =>
    exact (yields_fieldWith_of_none hms (Members.not_mem_of_get?_eq_none hget)).trans (iff_of_true rfl nofun)
  | some a =>
    obtain ⟨s, d, hd, h⟩ := exists_yields_fieldWith hms hsorted.nodup (Members.mem_of_get? hget)
    simp only [Option.mem_def, Option.some.injEq, forall_eq']
    exact (h (some a)).trans (Decoder.nullable_readsBack (hg a rfl) hd)

theorem yields_optional_json {v? : Option Json} (hfields : fields.Holds xs) (hmem : (name, v?) ∈ xs)
    (hv : ∀ v ∈ v?, v.Canonical) :
    (optional name .json).Yields (.text (n + 1)) fields v? ↔ ∀ v ∈ v?, v ≠ .null ∧ v.Fits n :=
  yields_optional hfields (by rwa [Option.map_id']) fun v h => Decoder.json_readsBack (hv v h)

theorem yields_text {s : String} (hfields : fields.Holds xs) (hmem : (name, some (.text s)) ∈ xs) :
    (field name .text).Yields (.text (n + 1)) fields s :=
  (yields_field hfields hmem (Decoder.text_readsBack s)).2 trivial

theorem yields_optional_text {s? : Option String} (hfields : fields.Holds xs) (hmem : (name, s?.map .text) ∈ xs) :
    (optional name .text).Yields (.text (n + 1)) fields s? :=
  (yields_optional hfields hmem fun s _ => Decoder.text_readsBack s).2 fun _ _ => ⟨nofun, trivial⟩

end Record

end Json

end QueryDesk
