import Mathlib.Data.List.Induction
import Mathlib.Data.String.Basic
import QueryDesk.Proofs.DecodedText
import QueryDesk.Proofs.Members
import QueryDesk.Proofs.ReadBack

/-!
# What values read from texts are like

A document holds an integer only within the 64-bit ranges (`held_ofText`), and the members of a value made from it
are in the order of their names. Values inside embedded texts come from documents again, so the same holds of them:
all are `Canonical` (`canonical_of_toJson`).
-/

namespace QueryDesk

/-! ### Members in order -/

namespace Members
variable {ms acc : Members} {name : String} {v : Json} {m : String × Json} {xs : List (String × Json)}

/-- The members are in the order of their names, each name once. -/
def Sorted (ms : Members) : Prop := ms.Pairwise fun a b => a.1 < b.1

theorem Sorted.nodup (h : ms.Sorted) : (ms.map Prod.fst).Nodup :=
  List.pairwise_map.2 (h.imp fun hlt => hlt.ne)

theorem mem_of_mem_insert (h : m ∈ ms.insert name v) : m = (name, v) ∨ m ∈ ms := by
  induction ms with
  | nil => exact .inl (List.mem_singleton.1 h)
  | cons n ms ih =>
    rw [insert] at h
    split at h
    · exact List.mem_cons.1 h
    split at h
    · exact (List.mem_cons.1 h).imp_right (List.mem_cons_of_mem _)
    · rcases List.mem_cons.1 h with rfl | h
      · exact .inr List.mem_cons_self
      · exact (ih h).imp_right (List.mem_cons_of_mem _)

theorem Sorted.insert (h : ms.Sorted) (name : String) (v : Json) : (ms.insert name v).Sorted := by
  induction ms with
  | nil => exact List.pairwise_singleton _ _
  | cons m ms ih =>
    obtain ⟨hm, hms⟩ := List.pairwise_cons.1 h
    rw [Members.insert]
    split
    · next hlt => exact List.pairwise_cons.2 ⟨List.forall_mem_cons.2 ⟨hlt, fun b hb => hlt.trans (hm b hb)⟩, h⟩
    split
    · next heq =>
      subst heq
      exact List.pairwise_cons.2 ⟨hm, hms⟩
    · next hlt hne =>
      refine List.pairwise_cons.2 ⟨fun b hb => ?_, ih hms⟩
      rcases mem_of_mem_insert hb with rfl | hb
      · exact lt_of_le_of_ne (not_lt.1 hlt) (Ne.symm hne)
      · exact hm b hb

theorem ofList_append_singleton (xs : List (String × Json)) (name : String) (v : Json) :
    ofList (xs ++ [(name, v)]) = (ofList xs).insert name v := by
  rw [ofList, List.foldl_append]
  rfl

theorem sorted_ofList (xs : List (String × Json)) : (ofList xs).Sorted := by
  induction xs using List.reverseRecOn with
  | nil => exact .nil
  | append_singleton xs x ih =>
    rw [ofList_append_singleton]
    exact ih.insert _ _

theorem mem_of_mem_ofList (h : m ∈ ofList xs) : m ∈ xs := by
  induction xs using List.reverseRecOn with
  | nil => exact h
  | append_singleton xs x ih =>
    rw [ofList_append_singleton] at h
    rcases mem_of_mem_insert h with rfl | h
    · exact List.mem_append_right _ List.mem_cons_self
    · exact List.mem_append_left _ (ih h)

theorem get?_ofList_ne_none (h : name ∈ xs.map Prod.fst) : (ofList xs).get? name ≠ none := by
  induction xs using List.reverseRecOn with
  | nil => cases h
  | append_singleton xs x ih =>
    rw [ofList_append_singleton, get?_insert]
    split
    · exact Option.some_ne_none _
    · next hne =>
      rw [List.map_append, List.mem_append] at h
      exact ih (h.resolve_right fun hlast => hne (List.mem_singleton.1 hlast))

theorem insert_of_forall_lt (h : ∀ m ∈ ms, m.1 < name) : ms.insert name v = ms ++ [(name, v)] := by
  induction ms with
  | nil => rfl
  | cons m ms ih =>
    obtain ⟨hm, hms⟩ := List.forall_mem_cons.1 h
    rw [insert, if_neg hm.not_gt, if_neg hm.ne', ih hms, List.cons_append]

theorem ofList_of_sorted (h : ms.Sorted) : ofList ms = ms := by
  induction ms using List.reverseRecOn with
  | nil => rfl
  | append_singleton ms m ih =>
    obtain ⟨hms, -, hlast⟩ := List.pairwise_append.1 h
    rw [ofList_append_singleton, ih hms, insert_of_forall_lt fun a ha => hlast a ha m List.mem_cons_self]

end Members

namespace Json

/-! ### Parts of a document -/

mutual
/-- A document and the documents inside it. -/
def Document.parts : Document → List Document
  | .array items => .array items :: items.parts
  | .object fields => .object fields :: fields.parts
  | d => [d]
termination_by structural d => d

def Items.parts : Items → List Document
  | .item _ v rest => v.parts ++ rest.parts
  | _ => []
termination_by structural items => items

def Fields.parts : Fields → List Document
  | .field _ _ v rest => v.parts ++ rest.parts
  | _ => []
termination_by structural fields => fields
end

/-- An integer is held as such only if it can be. -/
def Document.Held : Document → Prop
  | .number (.int i) => IsHeld i
  | _ => True

namespace Numeral

theorem keep_lt {n : Nat} (hn : n < Nat.pow 2 64) (ds : List Char) : (keep n ds).1 < Nat.pow 2 64 := by
  induction ds generalizing n with
  | nil => exact hn
  | cons d ds ih =>
    rw [keep]
    split
    · next hnext => exact ih hnext
    · exact hn

theorem isHeld_of_number? {n : Numeral} {i : Int} (h : n.number? = some (.int i)) : IsHeld i := by
  have hkeep : (keep 0 n.whole).1 < 2 ^ 64 := keep_lt (by decide) n.whole
  rw [number?] at h
  simp only at h
  split at h
  · -- a negative zero and what is out of range are held as doubles
    split at h
    · cases h
      exact ⟨by omega, by omega⟩
    split at h
    · next hrange =>
      obtain ⟨hpos, hle⟩ : 0 < (keep 0 n.whole).1 ∧ (keep 0 n.whole).1 ≤ 2 ^ 63 := hrange
      cases h
      exact ⟨by omega, by omega⟩
    · obtain ⟨x, -, hx⟩ := Option.map_eq_some_iff.1 h
      cases hx
  · obtain ⟨x, -, hx⟩ := Option.map_eq_some_iff.1 h
    cases hx

end Numeral

theorem held_wordDocument {d : Document} (hd : ∀ x ∈ d.parts, x.Held) (word rest : List Char) :
    ∀ x ∈ (wordDocument d word rest).1.parts, x.Held := by
  rw [wordDocument]
  split
  · exact hd
  · exact List.forall_mem_singleton.2 trivial

theorem held_stringDocument (cs : List Char) : ∀ x ∈ (stringDocument cs).1.parts, x.Held := by
  rw [stringDocument]
  split
  · exact List.forall_mem_singleton.2 trivial
  split <;> exact List.forall_mem_singleton.2 trivial

theorem held_numberDocument (cs : List Char) : ∀ x ∈ (numberDocument cs).1.parts, x.Held := by
  rw [numberDocument]
  split
  · split
    · next n _ _ x hx =>
      refine List.forall_mem_singleton.2 ?_
      cases x with
      | int i => exact Numeral.isHeld_of_number? hx
      | double x => trivial
    · exact List.forall_mem_singleton.2 trivial
  · exact List.forall_mem_singleton.2 trivial

mutual
theorem held_readValue : ∀ (fuel : Nat) (cs : List Char), ∀ x ∈ (readValue fuel cs).1.parts, x.Held
  | 0, _ => List.forall_mem_singleton.2 trivial
  | fuel + 1, cs => by
    rw [readValue]
    split
    · exact List.forall_mem_singleton.2 trivial
    · next c rest _ =>
      split
      · exact held_wordDocument (List.forall_mem_singleton.2 trivial) _ _
      split
      · exact held_wordDocument (List.forall_mem_singleton.2 trivial) _ _
      split
      · exact held_wordDocument (List.forall_mem_singleton.2 trivial) _ _
      split
      · exact held_stringDocument rest
      split
      · exact held_numberDocument (c :: rest)
      split
      · exact List.forall_mem_cons.2 ⟨trivial, held_readItems fuel true rest⟩
      split
      · exact List.forall_mem_cons.2 ⟨trivial, held_readFields fuel true rest⟩
      · exact List.forall_mem_singleton.2 trivial
termination_by structural fuel => fuel

theorem held_readItems : ∀ (fuel : Nat) (first : Bool) (cs : List Char), ∀ x ∈ (readItems fuel first cs).1.parts, x.Held
  | 0, _, _ => List.forall_mem_nil _
  | fuel + 1, first, cs => by
    rw [readItems]
    split
    · exact List.forall_mem_nil _
    split
    · exact List.forall_mem_nil _
    split
    · exact held_readItem fuel _
    split
    · split
      · exact List.forall_mem_nil _
      split
      · exact List.forall_mem_nil _
      · exact held_readItem fuel _
    · exact List.forall_mem_nil _
termination_by structural fuel => fuel

theorem held_readItem : ∀ (fuel : Nat) (cs : List Char), ∀ x ∈ (readItem fuel cs).1.parts, x.Held
  | 0, _ => List.forall_mem_nil _
  | fuel + 1, cs => by
    have hvalue := held_readValue fuel cs
    rw [readItem]
    split
    · next v heq =>
      rw [heq] at hvalue
      exact List.forall_mem_append.2 ⟨hvalue, List.forall_mem_nil _⟩
    · next v rest heq =>
      rw [heq] at hvalue
      exact List.forall_mem_append.2 ⟨hvalue, held_readItems fuel false rest⟩
termination_by structural fuel => fuel

theorem held_readFields : ∀ (fuel : Nat) (first : Bool) (cs : List Char),
    ∀ x ∈ (readFields fuel first cs).1.parts, x.Held
  | 0, _, _ => List.forall_mem_nil _
  | fuel + 1, first, cs => by
    rw [readFields]
    split
    · exact List.forall_mem_nil _
    split
    · exact List.forall_mem_nil _
    split
    · split
      · exact held_readField fuel _
      · exact List.forall_mem_nil _
    split
    · split
      · exact List.forall_mem_nil _
      split
      · exact held_readField fuel _
      split <;> exact List.forall_mem_nil _
    · exact List.forall_mem_nil _
termination_by structural fuel => fuel

theorem held_readField : ∀ (fuel : Nat) (cs : List Char), ∀ x ∈ (readField fuel cs).1.parts, x.Held
  | 0, _ => List.forall_mem_nil _
  | fuel + 1, cs => by
    rw [readField]
    split
    · exact held_readFieldValue fuel _ _
    · exact held_readFieldValue fuel _ _
    · exact List.forall_mem_nil _
    · exact List.forall_mem_nil _
termination_by structural fuel => fuel

theorem held_readFieldValue : ∀ (fuel : Nat) (name : Except Fault String) (cs : List Char),
    ∀ x ∈ (readFieldValue fuel name cs).1.parts, x.Held
  | 0, _, _ => List.forall_mem_nil _
  | fuel + 1, name, cs => by
    rw [readFieldValue]
    split
    · exact List.forall_mem_singleton.2 trivial
    split
    · next c rest _ _ =>
      have hvalue := held_readValue fuel rest
      split
      · next v heq =>
        rw [heq] at hvalue
        exact List.forall_mem_append.2 ⟨hvalue, List.forall_mem_nil _⟩
      · next v rest' heq =>
        rw [heq] at hvalue
        exact List.forall_mem_append.2 ⟨hvalue, held_readFields fuel false rest'⟩
    · exact List.forall_mem_singleton.2 trivial
termination_by structural fuel => fuel
end

theorem held_ofText (cs : List Char) : ∀ x ∈ (Document.ofText cs).1.parts, x.Held := by
  have hvalue := held_readValue (3 * cs.length + 3) cs
  rw [Document.ofText]
  split
  · next d heq => rw [heq] at hvalue; exact hvalue
  · next d rest heq => rw [heq] at hvalue; exact hvalue

/-! ### Values as they are held -/

/-- What a value read from a text is like: its members are in order, and no object stands for another value. -/
inductive Canonical : Json → Prop
  | null : Canonical .null
  | bool (b : Bool) : Canonical (.bool b)
  | text (s : String) : Canonical (.text s)
  | number {n : Number} (held : ∀ i, n = .int i → IsHeld i) : Canonical (.number n)
  | array {xs : List Json} (items : ∀ x ∈ xs, Canonical x) : Canonical (.array xs)
  | object {ms : Members} (sorted : ms.Sorted) (accompanied : ∀ v, ms ≠ [(embeddedName, v)])
    (members : ∀ m ∈ ms, Canonical m.2) : Canonical (.object ms)

theorem Canonical.of_array {xs : List Json} (h : (Json.array xs).Canonical) : ∀ x ∈ xs, x.Canonical := by
  cases h with
  | array items => exact items

theorem Canonical.of_object {ms : Members} (h : (Json.object ms).Canonical) :
    ms.Sorted ∧ (∀ v, ms ≠ [(embeddedName, v)]) ∧ ∀ m ∈ ms, m.2.Canonical := by
  cases h with
  | object sorted accompanied members => exact ⟨sorted, accompanied, members⟩

/-- An object made from members of which the first does not stand for a value. -/
theorem canonical_object_ofList {first : String × Json} {ms : List (String × Json)} (hne : first.1 ≠ embeddedName)
    (hms : ∀ m ∈ first :: ms, m.2.Canonical) : (object (Members.ofList (first :: ms))).Canonical := by
  refine .object (Members.sorted_ofList _) (fun v heq => ?_) fun m hm => hms m (Members.mem_of_mem_ofList hm)
  have hfirst : (Members.ofList (first :: ms)).get? first.1 ≠ none :=
    Members.get?_ofList_ne_none List.mem_cons_self
  rw [heq, Members.get?_cons, if_neg hne] at hfirst
  exact hfirst rfl

theorem canonical_of_embedded {ofText : String → Except Error Json} (hofText : ∀ s j, ofText s = .ok j → j.Canonical)
    {d : Document} {j : Json} (h : embedded ofText d = .ok j) : j.Canonical := by
  unfold embedded at h
  split at h
  · next s =>
    cases hj : ofText s with
    | error e => rw [hj] at h; cases h
    | ok x =>
      rw [hj] at h
      cases h
      exact hofText s _ hj
  · exact absurd h (Document.refuse_ne_ok _ _ _)

section
variable {ofText : String → Except Error Json}

mutual
theorem Document.canonical_of_toJsonWith (hofText : ∀ s j, ofText s = .ok j → j.Canonical) {o : Origin} {j : Json} :
    ∀ {d : Document}, (∀ x ∈ d.parts, x.Held) → d.toJsonWith ofText o = .ok j → j.Canonical
  | .null, _, h => by cases h; exact .null
  | .bool b, _, h => by cases h; exact .bool b
  | .text s, _, h => by cases h; exact .text s
  | .number n, hd, h => by
    cases h
    refine .number fun i hi => ?_
    subst hi
    exact hd _ List.mem_cons_self
  | .array items, hd, h => by
    rw [Document.toJsonWith] at h
    obtain ⟨inner, -, h⟩ := Except.exists_of_bind_eq_ok h
    obtain ⟨xs, hxs, h⟩ := Except.exists_of_bind_eq_ok h
    cases h
    exact .array (Items.canonical_of_toListWith hofText (List.forall_mem_cons.1 hd).2 hxs)
  | .object fields, hd, h => by
    rw [Document.toJsonWith] at h
    obtain ⟨inner, -, h⟩ := Except.exists_of_bind_eq_ok h
    exact Fields.canonical_of_toJsonWith hofText (List.forall_mem_cons.1 hd).2 h
  | .flawed f _, _, h => by cases h

theorem Fields.canonical_of_toJsonWith (hofText : ∀ s j, ofText s = .ok j → j.Canonical) {o : Origin} {j : Json} :
    ∀ {fields : Fields}, (∀ x ∈ fields.parts, x.Held) → fields.toJsonWith ofText o = .ok j → j.Canonical
  | .done, _, h => by cases h; exact .object .nil nofun nofun
  | .broken f _, _, h => by cases h
  | .field name s v rest, hd, h => by
    obtain ⟨hv, hrest⟩ := List.forall_mem_append.1 hd
    rw [Fields.toJsonWith] at h
    obtain ⟨n, -, h⟩ := Except.exists_of_bind_eq_ok h
    split at h
    · obtain ⟨x, hx, h⟩ := Except.exists_of_bind_eq_ok h
      obtain ⟨u, -, h⟩ := Except.exists_of_bind_eq_ok h
      cases h
      exact canonical_of_embedded hofText hx
    · next hne =>
      obtain ⟨x, hx, h⟩ := Except.exists_of_bind_eq_ok h
      obtain ⟨ms, hms, h⟩ := Except.exists_of_bind_eq_ok h
      cases h
      exact canonical_object_ofList hne (List.forall_mem_cons.2
        ⟨Document.canonical_of_toJsonWith hofText hv hx, Fields.canonical_of_toListWith hofText hrest hms⟩)

theorem Items.canonical_of_toListWith (hofText : ∀ s j, ofText s = .ok j → j.Canonical) {o : Origin} {xs : List Json} :
    ∀ {items : Items}, (∀ x ∈ items.parts, x.Held) → items.toListWith ofText o = .ok xs → ∀ x ∈ xs, x.Canonical
  | .done, _, h => by cases h; exact nofun
  | .broken f _, _, h => by cases h
  | .item s v rest, hd, h => by
    obtain ⟨hv, hrest⟩ := List.forall_mem_append.1 hd
    rw [Items.toListWith] at h
    obtain ⟨x, hx, h⟩ := Except.exists_of_bind_eq_ok h
    obtain ⟨xs, hxs, h⟩ := Except.exists_of_bind_eq_ok h
    cases h
    exact List.forall_mem_cons.2
      ⟨Document.canonical_of_toJsonWith hofText hv hx, Items.canonical_of_toListWith hofText hrest hxs⟩

theorem Fields.canonical_of_toListWith (hofText : ∀ s j, ofText s = .ok j → j.Canonical) {o : Origin}
    {ms : List (String × Json)} :
    ∀ {fields : Fields}, (∀ x ∈ fields.parts, x.Held) → fields.toListWith ofText o = .ok ms → ∀ m ∈ ms, m.2.Canonical
  | .done, _, h => by cases h; exact nofun
  | .broken f _, _, h => by cases h
  | .field name s v rest, hd, h => by
    obtain ⟨hv, hrest⟩ := List.forall_mem_append.1 hd
    rw [Fields.toListWith] at h
    obtain ⟨n, -, h⟩ := Except.exists_of_bind_eq_ok h
    obtain ⟨x, hx, h⟩ := Except.exists_of_bind_eq_ok h
    obtain ⟨ms, hms, h⟩ := Except.exists_of_bind_eq_ok h
    cases h
    exact List.forall_mem_cons.2
      ⟨Document.canonical_of_toJsonWith hofText hv hx, Fields.canonical_of_toListWith hofText hrest hms⟩
end

end

theorem canonical_of_ofTextWithin : ∀ {fuel : Nat} {s : String} {j : Json}, ofTextWithin fuel s = .ok j → j.Canonical
  | 0, _, _, h => by cases h
  | fuel + 1, s, j, h => by
    have hparts := held_ofText s.toList
    rw [ofTextWithin] at h
    generalize Document.ofText s.toList = read at h hparts
    obtain ⟨x, hx, h⟩ := Except.exists_of_bind_eq_ok h
    split at h
    · cases h
    · cases h
      exact Document.canonical_of_toJsonWith (fun _ _ => canonical_of_ofTextWithin) hparts hx

/-- Whatever is read from a text is in order, embedded texts included. -/
theorem canonical_of_toJson {o : Origin} {d : Document} {j : Json} (hd : ∀ x ∈ d.parts, x.Held)
    (h : d.toJson o = .ok j) : j.Canonical :=
  Document.canonical_of_toJsonWith (fun _ _ => canonical_of_ofTextWithin) hd h

end Json

end QueryDesk
