import QueryDesk.Proofs.Rereading

/-!
# What decoders give

Every value a decoder puts into what it makes is read from a part of the document it is given. `Decoder.Gives` says so
for any property of the parts; records keep a property of what they know from member to member, whether the document is
an object or an array.
-/

namespace QueryDesk

namespace Json

variable {α β : Type} {S : Document → Prop} {n : Nat}

/-- From a place in a text with that room, the decoder gives only such values, provided the parts of what it is given
are as told. -/
def Decoder.Gives (S : Document → Prop) (n : Nat) (g : Decoder α) (P : α → Prop) : Prop :=
  ∀ ⦃s d a⦄, (∀ x ∈ d.parts, S x) → g (.text n) s d = .ok a → P a

/-- The same of a record and of what it knows on the way. -/
structure Record.Gives (S : Document → Prop) (n : Nat) (r : Record α) (Known : r.State → Prop) (P : α → Prop) :
    Prop where
  start : Known r.start
  accept : ∀ {name s d known next}, (∀ x ∈ d.parts, S x) → Known known →
    r.accept (.text n) name s d known = some (.ok next) → Known next
  finish : ∀ {known a}, Known known → r.finish known = .ok a → P a
  take : ∀ {ends i items a left}, (∀ x ∈ items.parts, S x) → r.take ends (.text n) i items = .ok (a, left) →
    P a ∧ ∀ x ∈ left.parts, S x

/-- The value is that of a document other than null. -/
def ReadFrom (S : Document → Prop) (n : Nat) (v : Json) : Prop :=
  ∃ d : Document, (∀ x ∈ d.parts, S x) ∧ d ≠ .null ∧ d.toJson (.text n) = .ok v

namespace Decoder
variable {g : Decoder α} {P : α → Prop}

theorem gives_any (g : Decoder α) : g.Gives S n fun _ => True := fun _ _ _ _ _ => trivial

theorem gives_nat32 : nat32.Gives S n (· < 2 ^ 32) := by
  intro s d a _ h
  obtain ⟨i, hi, rfl⟩ := Except.exists_of_map_eq_ok h
  unfold integer at hi
  split at hi
  · split at hi
    · cases hi
      omega
    · cases hi
  · exact absurd hi (Document.refuse_ne_ok _ _ _)

theorem exists_of_nullable {o : Origin} {s : Stretch} {d : Document} {a : α} (h : nullable g o s d = .ok (some a)) :
    d ≠ .null ∧ g o s d = .ok a := by
  unfold nullable at h
  split at h
  · cases h
  · split at h
    · cases h
    · obtain ⟨b, hb, heq⟩ := Except.exists_of_map_eq_ok h
      cases heq
      exact ⟨nofun, hb⟩
  · next hnull _ =>
    obtain ⟨b, hb, heq⟩ := Except.exists_of_map_eq_ok h
    cases heq
    exact ⟨hnull, hb⟩

theorem Gives.nullable (hg : g.Gives S n P) : (nullable g).Gives S n fun a? => ∀ a ∈ a?, P a := by
  rintro s d _ hd h a rfl
  exact hg hd (exists_of_nullable h).2

theorem gives_nullable_json : (Decoder.nullable json).Gives S n fun v? => ∀ v ∈ v?, ReadFrom S n v := by
  rintro s d _ hd h v rfl
  obtain ⟨hnull, hv⟩ := exists_of_nullable h
  exact ⟨d, hd, hnull, hv⟩

theorem Gives.of_items (hg : g.Gives S n P) : ∀ {xs : Items} {as : List α}, (∀ x ∈ xs.parts, S x) →
    items g (.text n) xs = .ok as → ∀ a ∈ as, P a
  | .done, _, _, h => by cases h; exact nofun
  | .broken _ _, _, _, h => by cases h
  | .item s v rest, _, hd, h => by
    obtain ⟨hv, hrest⟩ := List.forall_mem_append.1 hd
    rw [items] at h
    obtain ⟨a, ha, h⟩ := Except.exists_of_bind_eq_ok h
    obtain ⟨as, has, h⟩ := Except.exists_of_bind_eq_ok h
    cases h
    exact List.forall_mem_cons.2 ⟨hg hv ha, hg.of_items hrest has⟩

theorem Gives.list (hg : g.Gives S n P) : (list g).Gives S (n + 1) fun as => ∀ a ∈ as, P a := by
  intro s d as hd h
  unfold Decoder.list at h
  split at h
  · obtain ⟨o, ho, h⟩ := Except.exists_of_bind_eq_ok h
    obtain ⟨m, rfl, rfl⟩ := Origin.exists_of_enter ho
    exact hg.of_items (List.forall_mem_cons.1 hd).2 h
  · exact absurd h (Document.refuse_ne_ok _ _ _)

end Decoder

namespace Record
variable {P : α → Prop}

theorem gives_pure {a : α} (ha : P a) : (pure a).Gives S n (fun _ => True) P where
  start := trivial
  accept _ _ h := by cases h
  finish _ h := by
    cases h
    exact ha
  take hd h := by
    obtain ⟨rfl, rfl⟩ := Prod.mk.inj (Except.ok.inj h)
    exact ⟨ha, hd⟩

theorem gives_fieldWith (name : String) {g : Decoder α} (hg : g.Gives S n P) {absent short : Option α}
    (habsent : ∀ a ∈ absent, P a) (hshort : ∀ a ∈ short, P a) :
    (fieldWith name g absent short).Gives S n (fun known : Option _ => ∀ a ∈ known, P a) P where
  start := nofun
  accept hd hknown h := by
    simp only [fieldWith] at h
    split at h
    · split at h
      · cases h
      · obtain ⟨a, ha, rfl⟩ := Except.exists_of_map_eq_ok (Option.some.inj h)
        intro b hb
        cases hb
        exact hg hd ha
    · cases h
  finish hknown h := by
    simp only [fieldWith] at h
    split at h
    · cases h
      exact hknown _ rfl
    · cases h
      exact habsent _ rfl
    · cases h
  take hd h := by
    simp only [fieldWith] at h
    split at h
    · obtain ⟨hv, hrest⟩ := List.forall_mem_append.1 hd
      obtain ⟨a, ha, heq⟩ := Except.exists_of_map_eq_ok h
      obtain ⟨rfl, rfl⟩ := Prod.mk.inj heq
      exact ⟨hg hv ha, hrest⟩
    · cases h
    · split at h
      · obtain ⟨rfl, rfl⟩ := Prod.mk.inj (Except.ok.inj h)
        exact ⟨hshort _ rfl, hd⟩
      · cases h

theorem gives_field (name : String) {g : Decoder α} (hg : g.Gives S n P) :
    (field name g).Gives S n (fun known : Option _ => ∀ a ∈ known, P a) P :=
  gives_fieldWith name hg nofun nofun

theorem gives_optional (name : String) {g : Decoder α} {P : Option α → Prop} (hg : (Decoder.nullable g).Gives S n P)
    (hnone : P none) : (optional name g).Gives S n (fun known : Option _ => ∀ a ∈ known, P a) P := by
  have habsent : ∀ a ∈ some (none : Option α), P a := by
    rintro _ ⟨⟩
    exact hnone
  exact gives_fieldWith name hg habsent habsent

/-- What the fields before give is a function that makes such a value of whatever the field gives. -/
theorem Gives.seq {P : β → Prop} {X : α → Prop} {f : Record (α → β)} {x : Record α} {K : f.State → Prop}
    {K' : x.State → Prop} (hf : f.Gives S n K fun g => ∀ a, X a → P (g a)) (hx : x.Gives S n K' X) :
    (seq f x).Gives S n (fun known => K known.1 ∧ K' known.2) P where
  start := ⟨hf.start, hx.start⟩
  accept hd hknown h := by
    simp only [Record.seq] at h
    split at h
    · next r hr =>
      obtain ⟨next, hnext, rfl⟩ := Except.exists_of_map_eq_ok (Option.some.inj h)
      rw [hnext] at hr
      exact ⟨hf.accept hd hknown.1 hr, hknown.2⟩
    · obtain ⟨r, hr, h⟩ := Option.map_eq_some_iff.1 h
      obtain ⟨next, hnext, rfl⟩ := Except.exists_of_map_eq_ok h
      rw [hnext] at hr
      exact ⟨hknown.1, hx.accept hd hknown.2 hr⟩
  finish hknown h := by
    obtain ⟨g, hg, h⟩ := Except.exists_of_bind_eq_ok h
    obtain ⟨a, ha, h⟩ := Except.exists_of_bind_eq_ok h
    cases h
    exact hf.finish hknown.1 hg a (hx.finish hknown.2 ha)
  take hd h := by
    obtain ⟨⟨g, items⟩, hg, h⟩ := Except.exists_of_bind_eq_ok h
    obtain ⟨⟨a, rest⟩, ha, h⟩ := Except.exists_of_bind_eq_ok h
    obtain ⟨rfl, rfl⟩ := Prod.mk.inj (Except.ok.inj h)
    obtain ⟨hPg, hitems⟩ := hf.take hd hg
    obtain ⟨hXa, hrest⟩ := hx.take hitems ha
    exact ⟨hPg a hXa, hrest⟩

theorem Gives.of_walk {r : Record α} {K : r.State → Prop} (hr : r.Gives S n K P) : ∀ {fields : Fields}
    {known next : r.State}, (∀ x ∈ fields.parts, S x) → K known → r.walk (.text n) known fields = .ok next → K next
  | .done, _, _, _, hknown, h => by cases h; exact hknown
  | .broken _ _, _, _, _, _, h => by cases h
  | .field name s v rest, known, _, hd, hknown, h => by
    obtain ⟨hv, hrest⟩ := List.forall_mem_append.1 hd
    rw [walk] at h
    obtain ⟨name, -, h⟩ := Except.exists_of_bind_eq_ok h
    split at h
    · next a ha =>
      obtain ⟨next, rfl, h⟩ := Except.exists_of_bind_eq_ok h
      exact hr.of_walk hrest (hr.accept hv hknown ha) h
    · obtain ⟨u, -, h⟩ := Except.exists_of_bind_eq_ok h
      exact hr.of_walk hrest hknown h

theorem Gives.decoder {r : Record α} {K : r.State → Prop} (hr : r.Gives S n K P) (name : String) :
    (r.decoder name).Gives S (n + 1) P := by
  intro s d a hd h
  unfold Record.decoder at h
  split at h
  · obtain ⟨o, ho, h⟩ := Except.exists_of_bind_eq_ok h
    obtain ⟨m, rfl, rfl⟩ := Origin.exists_of_enter ho
    obtain ⟨known, hknown, h⟩ := Except.exists_of_bind_eq_ok h
    exact hr.finish (hr.of_walk (List.forall_mem_cons.1 hd).2 hr.start hknown) h
  · obtain ⟨o, ho, h⟩ := Except.exists_of_bind_eq_ok h
    obtain ⟨m, rfl, rfl⟩ := Origin.exists_of_enter ho
    obtain ⟨⟨b, left⟩, htake, h⟩ := Except.exists_of_bind_eq_ok h
    obtain ⟨u, -, h⟩ := Except.exists_of_bind_eq_ok h
    cases h
    exact (hr.take (List.forall_mem_cons.1 hd).2 htake).1
  · exact absurd h (Document.refuse_ne_ok _ _ _)

end Record

end Json

end QueryDesk
