import QueryDesk.Query.Json

/-!
# What has been decoded can be passed over

A reader that passes over a value looks for less than one that decodes it, so a text that decodes is JSON for
everyone. A decoder is `Thorough` if it accepts nothing that cannot be passed over; the records are, because each of
their members is either decoded or passed over (`Record.Thorough.decoder`).
-/

namespace QueryDesk

theorem Except.exists_of_bind_eq_ok {ε α β : Type} {x : Except ε α} {f : α → Except ε β} {b : β}
    (h : x >>= f = .ok b) : ∃ a, x = .ok a ∧ f a = .ok b := by
  cases x with
  | error e => cases h
  | ok a => exact ⟨a, rfl, h⟩

theorem Except.exists_of_map_eq_ok {ε α β : Type} {x : Except ε α} {f : α → β} {b : β} (h : x.map f = .ok b) :
    ∃ a, x = .ok a ∧ f a = b := by
  cases x with
  | error e => cases h
  | ok a => exact ⟨a, rfl, Except.ok.inj h⟩

namespace Json

variable {α β : Type}

theorem eq_ok_of_lift {r : Except Fault α} {a : α} (h : lift r = .ok a) : r = .ok a := by
  cases r with
  | error f => cases h
  | ok b => exact congrArg _ (Except.ok.inj h)

theorem Document.refuse_ne_ok (d : Document) (wanted : Wanted) (a : α) : d.refuse wanted ≠ .ok a := by
  intro h
  rw [refuse] at h
  cases hfound : d.found with
  | error f => rw [hfound] at h; cases h
  | ok found => rw [hfound] at h; cases h

theorem Items.pass_item {s : Stretch} {v : Document} {rest : Items} (hv : v.pass = .ok ())
    (hrest : rest.pass = .ok ()) : (Items.item s v rest).pass = .ok () := by
  rw [pass, hv]
  exact hrest

theorem Fields.pass_field {name : Except Fault String} {s : Stretch} {v : Document} {rest : Fields}
    (hv : v.pass = .ok ()) (hrest : rest.pass = .ok ()) : (Fields.field name s v rest).pass = .ok () := by
  rw [pass, hv]
  exact hrest

/-! ### Values -/

theorem eq_done_of_afterEmbedded {fields : Fields} {u : Unit} (h : afterEmbedded fields = .ok u) : fields = .done := by
  unfold afterEmbedded at h
  split at h
  · rfl
  all_goals cases h

theorem pass_of_embedded {ofText : String → Except Error Json} {d : Document} {j : Json}
    (h : embedded ofText d = .ok j) : d.pass = .ok () := by
  unfold embedded at h
  split at h
  · rfl
  · exact absurd h (Document.refuse_ne_ok _ _ _)

section
variable {ofText : String → Except Error Json}

mutual
theorem Document.pass_of_toJsonWith {o : Origin} {j : Json} :
    ∀ {d : Document}, d.toJsonWith ofText o = .ok j → d.pass = .ok ()
  | .null, _ | .bool _, _ | .number _, _ | .text _, _ => rfl
  | .array items, h => by
    rw [Document.toJsonWith] at h
    obtain ⟨inner, -, h⟩ := Except.exists_of_bind_eq_ok h
    obtain ⟨js, hjs, -⟩ := Except.exists_of_bind_eq_ok h
    exact Items.pass_of_toListWith hjs
  | .object members, h => by
    rw [Document.toJsonWith] at h
    obtain ⟨inner, -, h⟩ := Except.exists_of_bind_eq_ok h
    exact Fields.pass_of_toJsonWith h
  | .flawed f _, h => by cases h

/-- The members behind an embedded text are none; otherwise each member has its value. -/
theorem Fields.pass_of_toJsonWith {o : Origin} {j : Json} :
    ∀ {ms : Fields}, ms.toJsonWith ofText o = .ok j → ms.pass = .ok ()
  | .done, _ => rfl
  | .broken f _, h => by cases h
  | .field name s v rest, h => by
    rw [Fields.toJsonWith] at h
    obtain ⟨n, -, h⟩ := Except.exists_of_bind_eq_ok h
    split at h
    · obtain ⟨x, hx, h⟩ := Except.exists_of_bind_eq_ok h
      obtain ⟨u, hu, -⟩ := Except.exists_of_bind_eq_ok h
      rw [eq_done_of_afterEmbedded (eq_ok_of_lift hu)]
      exact Fields.pass_field (pass_of_embedded hx) rfl
    · obtain ⟨x, hx, h⟩ := Except.exists_of_bind_eq_ok h
      obtain ⟨xs, hxs, -⟩ := Except.exists_of_bind_eq_ok h
      exact Fields.pass_field (Document.pass_of_toJsonWith hx) (Fields.pass_of_toListWith hxs)

theorem Items.pass_of_toListWith {o : Origin} {js : List Json} :
    ∀ {xs : Items}, xs.toListWith ofText o = .ok js → xs.pass = .ok ()
  | .done, _ => rfl
  | .broken f _, h => by cases h
  | .item s v rest, h => by
    rw [Items.toListWith] at h
    obtain ⟨x, hx, h⟩ := Except.exists_of_bind_eq_ok h
    obtain ⟨xs, hxs, -⟩ := Except.exists_of_bind_eq_ok h
    exact Items.pass_item (Document.pass_of_toJsonWith hx) (Items.pass_of_toListWith hxs)

theorem Fields.pass_of_toListWith {o : Origin} {js : List (String × Json)} :
    ∀ {ms : Fields}, ms.toListWith ofText o = .ok js → ms.pass = .ok ()
  | .done, _ => rfl
  | .broken f _, h => by cases h
  | .field name s v rest, h => by
    rw [Fields.toListWith] at h
    obtain ⟨n, -, h⟩ := Except.exists_of_bind_eq_ok h
    obtain ⟨x, hx, h⟩ := Except.exists_of_bind_eq_ok h
    obtain ⟨xs, hxs, -⟩ := Except.exists_of_bind_eq_ok h
    exact Fields.pass_field (Document.pass_of_toJsonWith hx) (Fields.pass_of_toListWith hxs)
end

end

/-! ### Decoders -/

/-- What the decoder accepts can be passed over. -/
def Decoder.Thorough (f : Decoder α) : Prop := ∀ ⦃o s d a⦄, f o s d = .ok a → d.pass = .ok ()

namespace Decoder

theorem thorough_text : Thorough text := by
  intro o s d a h
  unfold text at h
  split at h
  · rfl
  · exact absurd h (Document.refuse_ne_ok _ _ _)

theorem thorough_integer (width : String) (low high : Int) : Thorough (integer width low high) := by
  intro o s d a h
  unfold integer at h
  split at h
  · rfl
  · exact absurd h (Document.refuse_ne_ok _ _ _)

theorem thorough_nat32 : Thorough nat32 := by
  intro o s d a h
  obtain ⟨i, hi, -⟩ := Except.exists_of_map_eq_ok h
  exact thorough_integer _ _ _ hi

theorem thorough_json : Thorough json := fun _ _ _ _ h => Document.pass_of_toJsonWith h

theorem eq_null_of_unit {o : Origin} {s : Stretch} {d : Document} {u : Unit} (h : unit o s d = .ok u) : d = .null := by
  unfold unit at h
  split at h
  · rfl
  · exact absurd h (Document.refuse_ne_ok _ _ _)

theorem eq_done_of_afterVariant {fields : Fields} {u : Unit} (h : afterVariant fields = .ok u) : fields = .done := by
  unfold afterVariant at h
  split at h
  · rfl
  all_goals cases h

theorem thorough_variant (byName : String → Except Error α) : Thorough (variant byName) := by
  intro o s d a h
  cases d with
  | text => rfl
  | object fields =>
    obtain ⟨inner, -, h⟩ := Except.exists_of_bind_eq_ok h
    cases fields with
    | field name s v rest =>
      obtain ⟨n, -, h⟩ := Except.exists_of_bind_eq_ok h
      obtain ⟨x, -, h⟩ := Except.exists_of_bind_eq_ok h
      obtain ⟨u, hu, h⟩ := Except.exists_of_bind_eq_ok h
      obtain ⟨w, hw, -⟩ := Except.exists_of_bind_eq_ok h
      rw [eq_null_of_unit hu, eq_done_of_afterVariant hw]
      rfl
    | done => cases h
    | broken => cases h
  | _ => cases h

theorem Thorough.nullable {f : Decoder α} (hf : Thorough f) : Thorough (nullable f) := by
  intro o s d a h
  unfold Decoder.nullable at h
  split at h
  · rfl
  · split at h
    · cases h
    · obtain ⟨b, hb, -⟩ := Except.exists_of_map_eq_ok h
      exact hf hb
  · obtain ⟨b, hb, -⟩ := Except.exists_of_map_eq_ok h
    exact hf hb

theorem Thorough.pass_of_items {f : Decoder α} (hf : Thorough f) {o : Origin} :
    ∀ {xs : Items} {as : List α}, items f o xs = .ok as → xs.pass = .ok ()
  | .done, _, _ => rfl
  | .broken _ _, _, h => by cases h
  | .item s v rest, _, h => by
    rw [items] at h
    obtain ⟨a, ha, h⟩ := Except.exists_of_bind_eq_ok h
    obtain ⟨as, has, -⟩ := Except.exists_of_bind_eq_ok h
    exact Items.pass_item (hf ha) (hf.pass_of_items has)

theorem Thorough.list {f : Decoder α} (hf : Thorough f) : Thorough (list f) := by
  intro o s d a h
  unfold Decoder.list at h
  split at h
  · obtain ⟨inner, -, h⟩ := Except.exists_of_bind_eq_ok h
    exact hf.pass_of_items h
  · exact absurd h (Document.refuse_ne_ok _ _ _)

end Decoder

/-! ### Records -/

namespace Record

/-- What a record takes as one of its fields can be passed over, and so can the front of an array it takes. -/
structure Thorough (r : Record α) : Prop where
  accept : ∀ {o name s d known next}, r.accept o name s d known = some (.ok next) → d.pass = .ok ()
  take : ∀ {ends o n items a left}, r.take ends o n items = .ok (a, left) → left.pass = .ok () → items.pass = .ok ()

theorem thorough_pure (a : α) : Thorough (pure a) where
  accept h := by cases h
  take h hleft := by
    obtain ⟨-, rfl⟩ := Prod.mk.inj (Except.ok.inj h)
    exact hleft

theorem thorough_fieldWith (name : String) {f : Decoder α} (hf : f.Thorough) (absent short : Option α) :
    Thorough (fieldWith name f absent short) where
  accept h := by
    simp only [fieldWith] at h
    split at h
    · split at h
      · cases h
      · obtain ⟨a, ha, -⟩ := Except.exists_of_map_eq_ok (Option.some.inj h)
        exact hf ha
    · cases h
  take h hleft := by
    simp only [fieldWith] at h
    split at h
    · obtain ⟨a, ha, heq⟩ := Except.exists_of_map_eq_ok h
      obtain ⟨-, rfl⟩ := Prod.mk.inj heq
      exact Items.pass_item (hf ha) hleft
    · cases h
    · rfl

theorem thorough_field (name : String) {f : Decoder α} (hf : f.Thorough) : Thorough (field name f) :=
  thorough_fieldWith name hf none none

theorem thorough_optional (name : String) {f : Decoder α} (hf : f.Thorough) : Thorough (optional name f) :=
  thorough_fieldWith name hf.nullable (some none) (some none)

theorem Thorough.seq {f : Record (α → β)} {x : Record α} (hf : f.Thorough) (hx : x.Thorough) : (seq f x).Thorough where
  accept h := by
    simp only [Record.seq] at h
    split at h
    · next r hr =>
      obtain ⟨next, hnext, -⟩ := Except.exists_of_map_eq_ok (Option.some.inj h)
      rw [hnext] at hr
      exact hf.accept hr
    · obtain ⟨r, hr, h⟩ := Option.map_eq_some_iff.1 h
      obtain ⟨next, hnext, -⟩ := Except.exists_of_map_eq_ok h
      rw [hnext] at hr
      exact hx.accept hr
  take h hleft := by
    obtain ⟨⟨g, items⟩, hg, h⟩ := Except.exists_of_bind_eq_ok h
    obtain ⟨⟨a, rest⟩, ha, h⟩ := Except.exists_of_bind_eq_ok h
    obtain ⟨-, rfl⟩ := Prod.mk.inj (Except.ok.inj h)
    exact hf.take hg (hx.take ha hleft)

theorem Thorough.map {f : α → β} {x : Record α} (hx : x.Thorough) : (f <$> x).Thorough := (thorough_pure f).seq hx

theorem Thorough.pass_of_walk {r : Record α} (hr : r.Thorough) {o : Origin} :
    ∀ {ms : Fields} {known next : r.State}, r.walk o known ms = .ok next → ms.pass = .ok ()
  | .done, _, _, _ => rfl
  | .broken _ _, _, _, h => by cases h
  | .field name s v rest, known, _, h => by
    rw [walk] at h
    obtain ⟨n, -, h⟩ := Except.exists_of_bind_eq_ok h
    split at h
    · next a ha =>
      obtain ⟨next, rfl, h⟩ := Except.exists_of_bind_eq_ok h
      exact Fields.pass_field (hr.accept ha) (hr.pass_of_walk h)
    · obtain ⟨u, hu, h⟩ := Except.exists_of_bind_eq_ok h
      exact Fields.pass_field (eq_ok_of_lift hu) (hr.pass_of_walk h)

theorem eq_done_of_rest {o : Origin} {n : Nat} {items : Items} {u : Unit} (h : rest o n items = .ok u) :
    items = .done := by
  unfold rest at h
  split at h
  · rfl
  · cases h
  · split at h <;> cases h

theorem Thorough.decoder {r : Record α} (hr : r.Thorough) (name : String) : (r.decoder name).Thorough := by
  intro o s d a h
  unfold Record.decoder at h
  split at h
  · obtain ⟨inner, -, h⟩ := Except.exists_of_bind_eq_ok h
    obtain ⟨known, hknown, -⟩ := Except.exists_of_bind_eq_ok h
    exact hr.pass_of_walk hknown
  · obtain ⟨inner, -, h⟩ := Except.exists_of_bind_eq_ok h
    obtain ⟨⟨b, left⟩, htake, h⟩ := Except.exists_of_bind_eq_ok h
    obtain ⟨u, hu, -⟩ := Except.exists_of_bind_eq_ok h
    refine hr.take htake ?_
    rw [eq_done_of_rest hu]
    rfl
  · exact absurd h (Document.refuse_ne_ok _ _ _)

end Record

/-- A text that decodes is the text of a value. -/
theorem sourceText_of_decodeText {f : Decoder α} (hf : f.Thorough) {text : String} {a : α}
    (h : decodeText f text = .ok a) : sourceText text = .ok (bare text) := by
  rw [decodeText] at h
  rw [sourceText, decodeText]
  generalize Document.ofText text.toList = read at h ⊢
  obtain ⟨d, trailing⟩ := read
  obtain ⟨b, hb, h⟩ := Except.exists_of_bind_eq_ok h
  cases trailing with
  | some g => cases h
  | none =>
    have hsource : Decoder.source .ofText (.whole text.toList) d
        = .ok (String.ofList (Stretch.whole text.toList).chars) := by
      rw [Decoder.source, hf hb]
      rfl
    simp only [hsource]
    rfl

end Json

/-! ### Queries -/

section Queries

open Json (Decoder)
open Json.Record
open Json.Decoder

theorem Field.thorough_decoder : Field.decoder.Thorough :=
  (thorough_field _ thorough_text).map.seq (thorough_field _ thorough_text)
    |>.seq (thorough_optional _ thorough_text) |>.seq (thorough_optional _ thorough_text) |>.decoder _

theorem Join.thorough_decoder : Join.decoder.Thorough :=
  (thorough_field _ thorough_text).map.seq (thorough_field _ thorough_text)
    |>.seq (thorough_field _ thorough_text) |>.seq (thorough_field _ thorough_text)
    |>.seq (thorough_field _ thorough_text) |>.seq (thorough_optional _ thorough_text)
    |>.seq (thorough_optional _ thorough_text) |>.decoder _

theorem Filter.thorough_decoder : Filter.decoder.Thorough :=
  (thorough_field _ thorough_text).map.seq (thorough_field _ thorough_text)
    |>.seq (thorough_field _ (thorough_variant _)) |>.seq (thorough_optional _ thorough_json)
    |>.seq (thorough_optional _ (thorough_variant _)) |>.decoder _

theorem SortKey.thorough_decoder : SortKey.decoder.Thorough :=
  (thorough_field _ thorough_text).map.seq (thorough_field _ thorough_text)
    |>.seq (thorough_optional _ (thorough_variant _)) |>.decoder _

theorem Query.thorough_decoder : Query.decoder.Thorough :=
  (thorough_field _ thorough_text).map.seq (thorough_field _ thorough_text)
    |>.seq (thorough_optional _ thorough_text) |>.seq (thorough_field _ Field.thorough_decoder.list)
    |>.seq (thorough_optional _ Join.thorough_decoder.list) |>.seq (thorough_optional _ Filter.thorough_decoder.list)
    |>.seq (thorough_optional _ SortKey.thorough_decoder.list) |>.seq (thorough_optional _ thorough_nat32)
    |>.decoder _

/-- A query definition is JSON. -/
theorem Query.sourceText_of_ofText {text : String} {q : Query} (h : Query.ofText text = .ok q) :
    Json.sourceText text = .ok (Json.bare text) :=
  Json.sourceText_of_decodeText Query.thorough_decoder h

end Queries

end QueryDesk
