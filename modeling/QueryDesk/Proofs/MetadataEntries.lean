import QueryDesk.Metadata.Payload
import QueryDesk.Proofs.RecordText

/-!
# Entries of metadata payloads

What the payloads of the metadata requests say, read off their values: a record is an object with members of certain
names, or an array that has them in order. The decoders go through the members one after the other; each of them takes
from a value what is read here, and fails where nothing is (`Decoder.Reads`). For records this follows from their
fields (`Record.Reads.seq`).
-/

namespace QueryDesk

/-! ### Reading values -/

namespace Json

variable {α : Type}

/-- The part of a record that an object has under a name, and an array at a place. -/
def partOf (j : Json) (name : String) (place : Nat) : Option Json :=
  match j with
  | .object ms => Members.get? ms name
  | .array xs => xs[place]?
  | _ => none

/-- An object in which none of the names stands twice, or an array that is not longer than the list of names. -/
def hasFields (names : List String) : Json → Bool
  | .object ms => names.all fun n => (ms.map Prod.fst).count n ≤ 1
  | .array xs => xs.length ≤ names.length
  | _ => false

def bool? : Json → Option Bool
  | .bool b => some b
  | _ => none

def int64? : Json → Option Int
  | .number (.int i) => if -9223372036854775808 ≤ i ∧ i ≤ 9223372036854775807 then some i else none
  | _ => none

def listOf? (read : Json → Option α) : Json → Option (List α)
  | .array xs => xs.mapM read
  | _ => none

/-- A part that may be missing or null. -/
def optionally (read : Json → Option α) : Option Json → Option (Option α)
  | none | some .null => some none
  | some j => (read j).map some

end Json

namespace Metadata

open Json (text? bool? int64? listOf? optionally)

/-- The items of the list in a collection. -/
def entries? {α : Type} (read : Json → Option α) (payload : Json) : Option (List α) :=
  if payload.hasFields ["value"] then (payload.partOf "value" 0).bind (listOf? read) else none

def localized? (j : Json) : Option String :=
  if j.hasFields ["Label"] then (j.partOf "Label" 0).bind text? else none

/-- The text of a label, which is none if it is empty or not given. -/
def label? (j : Json) : Option (Option String) :=
  if j.hasFields ["UserLocalizedLabel"] then
    (optionally localized? (j.partOf "UserLocalizedLabel" 0)).map fun
      | some "" => none
      | label => label
  else none

def labelAt (part : Option Json) : Option (Option String) := (optionally label? part).map Option.join

def level? (j : Json) : Option String :=
  if j.hasFields ["Value"] then (j.partOf "Value" 0).bind text? else none

def attribute? (j : Json) : Option AttributeRecord :=
  if j.hasFields ["LogicalName", "DisplayName", "AttributeType", "IsPrimaryId", "IsPrimaryName", "RequiredLevel",
      "IsCustomAttribute", "Description", "AttributeOf"] then do
    let logicalName ← (j.partOf "LogicalName" 0).bind text?
    let displayName ← labelAt (j.partOf "DisplayName" 1)
    let type ← optionally text? (j.partOf "AttributeType" 2)
    let isPrimaryId ← optionally bool? (j.partOf "IsPrimaryId" 3)
    let isPrimaryName ← optionally bool? (j.partOf "IsPrimaryName" 4)
    let requiredLevel ← optionally level? (j.partOf "RequiredLevel" 5)
    let isCustom ← optionally bool? (j.partOf "IsCustomAttribute" 6)
    let description ← labelAt (j.partOf "Description" 7)
    let attributeOf ← optionally text? (j.partOf "AttributeOf" 8)
    return { logicalName, displayName, type, isPrimaryId, isPrimaryName, requiredLevel, isCustom, description, attributeOf }
  else none

/-- A name and the entities it refers to, of which there are none if they are not given. -/
def targets? (j : Json) : Option (String × List String) :=
  if j.hasFields ["LogicalName", "Targets"] then do
    let name ← (j.partOf "LogicalName" 0).bind text?
    let targets ← (j.partOf "Targets" 1).elim (some []) (listOf? text?)
    return (name, targets)
  else none

/-- A value and its label. Without one the value is shown in decimal. -/
def option? (j : Json) : Option Choice :=
  if j.hasFields ["Value", "Label"] then do
    let value ← (j.partOf "Value" 0).bind int64?
    let label ← labelAt (j.partOf "Label" 1)
    return ⟨value, label.getD (toString value)⟩
  else none

def optionSet? (j : Json) : Option (List Choice) :=
  if j.hasFields ["Options"] then (j.partOf "Options" 0).elim (some []) (listOf? option?) else none

/-- A name and its options, of which there are none without an option set. -/
def options? (j : Json) : Option (String × List Choice) :=
  if j.hasFields ["LogicalName", "OptionSet"] then do
    let name ← (j.partOf "LogicalName" 0).bind text?
    let set ← optionally optionSet? (j.partOf "OptionSet" 1)
    return (name, set.getD [])
  else none

end Metadata

/-! ### Decoders -/

namespace Json

variable {α β : Type}

mutual
theorem spells_toDocument : ∀ j : Json, (toDocument j).Spells j
  | .null => .null
  | .bool b => .bool b
  | .number n => .number n
  | .text s => .text s
  | .array xs => .array (spells_toItems xs)
  | .object ms => .object (spells_toFields ms)

theorem spells_toItems : ∀ xs : List Json, (toItems xs).Spells xs
  | [] => .done
  | x :: xs => .item (spells_toDocument x) (spells_toItems xs)

theorem spells_toFields : ∀ ms : List (String × Json), (toFields ms).Spells ms
  | [] => .done
  | (_, j) :: ms => .field (spells_toDocument j) (spells_toFields ms)
end

/-- The decoder takes from a value what is read in it, and nothing else. -/
def Decoder.Reads (g : Decoder α) (read : Json → Option α) : Prop := ∀ j a, decodeJson g j = .ok a ↔ read j = some a

namespace Decoder
variable {g : Decoder α} {read read' : Json → Option α}

theorem Reads.congr (h : g.Reads read) (heq : ∀ j, read j = read' j) : g.Reads read' := by
  intro j a
  rw [h j a, heq]

theorem reads_text : text.Reads text? := by
  intro j a
  cases j <;> simp [decodeJson, toDocument, text, text?, Document.refuse_ne_ok]

theorem reads_bool : bool.Reads bool? := by
  intro j a
  cases j <;> simp [decodeJson, toDocument, bool, bool?, Document.refuse_ne_ok]

theorem reads_int64 : int64.Reads int64? := by
  intro j a
  rcases j with - | - | (i | x) | - | - | -
  case number.int =>
    simp only [decodeJson, toDocument, int64, integer, int64?]
    by_cases hi : -9223372036854775808 ≤ i ∧ i ≤ 9223372036854775807
    · rw [if_pos hi, if_pos (by omega)]
      simp
    · rw [if_neg hi, if_neg (by omega)]
      simp
  all_goals simp [decodeJson, toDocument, int64, integer, int64?, Document.refuse_ne_ok]

theorem Reads.nullable (h : g.Reads read) : (nullable g).Reads fun j => optionally read (some j) := by
  intro j a?
  have hsome (hnull : j ≠ .null) : (g .value (.whole j.print) (toDocument j)).map some = .ok a? ↔
      (read j).map some = some a? := by
    constructor
    · intro hmap
      obtain ⟨a, ha, rfl⟩ := Except.exists_of_map_eq_ok hmap
      rw [(h j a).1 ha, Option.map_some]
    · intro hmap
      obtain ⟨a, ha, rfl⟩ := Option.map_eq_some_iff.1 hmap
      rw [show g .value (.whole j.print) (toDocument j) = .ok a from (h j a).2 ha]
      rfl
  cases j with
  | null => simp [decodeJson, toDocument, Decoder.nullable, optionally]
  | _ => exact hsome nofun

theorem Reads.list (h : g.Reads read) : (list g).Reads (listOf? read) := by
  intro j as
  cases j with
  | array xs =>
    show items g .value (toItems xs) = .ok as ↔ xs.mapM read = some as
    induction xs generalizing as with
    | nil => simp [toItems, items]
    | cons x xs ih =>
      rw [List.mapM_cons, toItems, items]
      constructor
      · intro hitems
        obtain ⟨a, ha, hitems⟩ := Except.exists_of_bind_eq_ok hitems
        obtain ⟨rest, hrest, hitems⟩ := Except.exists_of_bind_eq_ok hitems
        obtain rfl := Except.ok.inj hitems
        simp [(h x a).1 ha, (ih rest).1 hrest]
      · intro hmap
        obtain ⟨a, ha, hmap⟩ := Option.bind_eq_some_iff.1 hmap
        obtain ⟨rest, hrest, hmap⟩ := Option.bind_eq_some_iff.1 hmap
        obtain rfl := Option.some.inj hmap
        have hx : g .value (.whole x.print) (toDocument x) = .ok a := (h x a).2 ha
        rw [hx, (ih rest).2 hrest]
        rfl
  | _ => simp [decodeJson, toDocument, Decoder.list, listOf?, Document.refuse_ne_ok]

end Decoder

/-! ### Records -/

/-- What a record makes of its parts. These are told by their names in an object, and in an array by their places behind
the parts of the records before it. -/
structure Record.Reads (r : Record α) (ns : List String) (read : (String → Nat → Option Json) → Option α) : Prop where
  named : r.Named ns
  object : ∀ ms a, r.Yields .value (toFields ms) a ↔
    (∀ n ∈ ns, (ms.map Prod.fst).count n ≤ 1) ∧ read (fun name _ => Members.get? ms name) = some a
  array : ∀ ends k xs a left, r.take ends .value k (toItems xs) = .ok (a, left) ↔
    read (fun _ place => xs[place]?) = some a ∧ left = toItems (xs.drop ns.length)

namespace Record

variable {r x : Record α} {f : Record (α → β)} {ns ns' : List String} {name : String} {g : Decoder α}
  {read : Json → Option α} {ms : Members}

theorem reads_pure (a : α) : (pure a).Reads [] fun _ => some a where
  named := named_pure a
  object ms b := by
    rw [yields_pure (spells_toFields ms)]
    simp
  array ends k xs b left := by
    show Except.ok (a, toItems xs) = .ok (b, left) ↔ _
    simp [eq_comm]

theorem walk_fieldWith_cons {absent short known : Option α} (n : String) (j : Json) (ms : Members) :
    (fieldWith name g absent short).walk .value known (toFields ((n, j) :: ms)) =
      if n = name then
        (if known.isSome then .error (.mismatch (.duplicateField name)) else (decodeJson g j).map some) >>= fun next =>
          (fieldWith name g absent short).walk .value next (toFields ms)
      else (fieldWith name g absent short).walk .value known (toFields ms) := by
  refine (walk_field (r := fieldWith name g absent short) (spells_toDocument j) known (toFields ms)).trans ?_
  by_cases hn : n = name
  · simp only [fieldWith, hn, if_true]
    rfl
  · simp only [fieldWith, hn, if_false]

/-- A field that is known does not stand there again. -/
theorem walk_fieldWith_some {absent short known : Option α} (a : α) :
    (fieldWith name g absent short).walk .value (some a) (toFields ms) = .ok known ↔
      name ∉ ms.map Prod.fst ∧ known = some a := by
  induction ms with
  | nil =>
    show Except.ok (some a) = .ok known ↔ _
    simp [eq_comm]
  | cons m ms ih =>
    obtain ⟨n, j⟩ := m
    rw [walk_fieldWith_cons, List.map_cons, List.mem_cons, not_or]
    by_cases hn : n = name
    · simp [hn, bind, Except.bind]
    · rw [if_neg hn, ih, and_iff_right (Ne.symm hn)]

theorem walk_fieldWith_none {absent short known : Option α} (hg : g.Reads read) :
    (fieldWith name g absent short).walk .value none (toFields ms) = .ok known ↔ (ms.map Prod.fst).count name ≤ 1 ∧
      (Members.get? ms name).elim (some none) (fun j => (read j).map some) = some known := by
  induction ms with
  | nil =>
    show Except.ok none = .ok known ↔ _
    simp [Members.get?]
  | cons m ms ih =>
    obtain ⟨n, j⟩ := m
    rw [walk_fieldWith_cons, Members.get?_cons, List.map_cons, List.count_cons]
    by_cases hn : n = name
    · subst hn
      simp only [if_true, beq_self_eq_true, Option.elim_some, Option.isSome_none, Bool.false_eq_true, if_false]
      constructor
      · intro h
        obtain ⟨next, hnext, h⟩ := Except.exists_of_bind_eq_ok h
        obtain ⟨a, ha, rfl⟩ := Except.exists_of_map_eq_ok hnext
        obtain ⟨hnot, rfl⟩ := (walk_fieldWith_some a).1 h
        rw [(hg j a).1 ha, List.count_eq_zero_of_not_mem hnot]
        exact ⟨Nat.le_refl _, rfl⟩
      · rintro ⟨hcount, h⟩
        obtain ⟨a, ha, rfl⟩ := Option.map_eq_some_iff.1 h
        have hnot : n ∉ ms.map Prod.fst := List.count_eq_zero.1 (by omega)
        rw [(hg j a).2 ha]
        exact (walk_fieldWith_some a).2 ⟨hnot, rfl⟩
    · have hne : name ≠ n := Ne.symm hn
      simpa [hn, hne] using ih

/-- A field with one value for where it is missing, in an object or in an array. -/
theorem reads_fieldWith (hg : g.Reads read) (name : String) (absent : Option α) :
    (fieldWith name g absent absent).Reads [name] fun part => (part name 0).elim absent read where
  named := named_fieldWith name g absent absent
  object ms a := by
    rw [List.forall_mem_singleton]
    constructor
    · rintro ⟨known, hknown, hfinish⟩
      obtain ⟨hcount, hread⟩ := (walk_fieldWith_none hg).1 hknown
      refine ⟨hcount, ?_⟩
      show (Members.get? ms name).elim absent read = some a
      cases hget : Members.get? ms name with
      | none =>
        rw [hget] at hread
        obtain rfl := Option.some.inj hread
        cases absent with
        | none => cases hfinish
        | some b => exact congrArg some (Except.ok.inj hfinish)
      | some j =>
        rw [hget] at hread
        obtain ⟨b, hb, rfl⟩ := Option.map_eq_some_iff.1 hread
        obtain rfl : b = a := Except.ok.inj hfinish
        exact hb
    · rintro ⟨hcount, hread⟩
      have hread : (Members.get? ms name).elim absent read = some a := hread
      cases hget : Members.get? ms name with
      | none =>
        rw [hget] at hread
        obtain rfl : absent = some a := hread
        exact ⟨none, (walk_fieldWith_none hg).2 ⟨hcount, by rw [hget]; rfl⟩, rfl⟩
      | some j =>
        rw [hget] at hread
        have hread : read j = some a := hread
        exact ⟨some a, (walk_fieldWith_none hg).2 ⟨hcount, by rw [hget, Option.elim_some, hread]; rfl⟩, rfl⟩
  array ends k xs a left := by
    cases xs with
    | nil =>
      cases absent with
      | none => exact iff_of_false nofun nofun
      | some b =>
        show Except.ok (b, Items.done) = .ok (a, left) ↔ some b = some a ∧ left = Items.done
        rw [Except.ok.injEq, Prod.mk.injEq, Option.some.injEq, eq_comm (a := Items.done)]
    | cons j xs =>
      show (g .value (.whole j.print) (toDocument j)).map (·, toItems xs) = .ok (a, left) ↔ read j = some a ∧ _
      constructor
      · intro h
        obtain ⟨b, hb, heq⟩ := Except.exists_of_map_eq_ok h
        obtain ⟨rfl, rfl⟩ := Prod.mk.inj heq
        exact ⟨(hg j b).1 hb, rfl⟩
      · rintro ⟨hread, rfl⟩
        have hj : g .value (.whole j.print) (toDocument j) = .ok a := (hg j a).2 hread
        rw [hj]
        rfl

theorem Reads.congr {reading reading' : (String → Nat → Option Json) → Option α} (h : r.Reads ns reading)
    (heq : ∀ part, reading part = reading' part) : r.Reads ns reading' := funext heq ▸ h

theorem reads_field (hg : g.Reads read) (name : String) :
    (field name g).Reads [name] fun part => (part name 0).bind read :=
  (reads_fieldWith hg name none).congr fun part => by
    cases part name 0 <;> rfl

theorem reads_fieldOr (hg : g.Reads read) (name : String) (default : α) :
    (fieldOr name g default).Reads [name] fun part => (part name 0).elim (some default) read :=
  reads_fieldWith hg name (some default)

theorem reads_optional (hg : g.Reads read) (name : String) :
    (optional name g).Reads [name] fun part => optionally read (part name 0) :=
  (reads_fieldOr hg.nullable name none).congr fun part => by
    cases part name 0 <;> rfl

/-- The places of the second record are those behind the first one. -/
theorem Reads.seq {first : (String → Nat → Option Json) → Option (α → β)}
    {second : (String → Nat → Option Json) → Option α} (hf : f.Reads ns first) (hx : x.Reads ns' second)
    (hdisjoint : ns.Disjoint ns') :
    (seq f x).Reads (ns ++ ns') fun part =>
      (first part).bind fun h => (second fun name place => part name (place + ns.length)).map h where
  named := hf.named.seq hx.named
  object ms b := by
    rw [yields_seq hf.named hx.named hdisjoint (spells_toFields ms), List.forall_mem_append]
    simp only [hf.object, hx.object, Option.bind_eq_some_iff, Option.map_eq_some_iff]
    constructor
    · rintro ⟨h, a, ⟨hns, hh⟩, ⟨hns', ha⟩, rfl⟩
      exact ⟨⟨hns, hns'⟩, h, hh, a, ha, rfl⟩
    · rintro ⟨⟨hns, hns'⟩, h, hh, a, ha, rfl⟩
      exact ⟨h, a, ⟨hns, hh⟩, ⟨hns', ha⟩, rfl⟩
  array ends k xs b left := by
    have hplaces : (fun (_ : String) place => (xs.drop ns.length)[place]?) =
        fun (_ : String) place => xs[place + ns.length]? := by
      funext _ place
      rw [List.getElem?_drop, Nat.add_comm]
    simp only [Option.bind_eq_some_iff, Option.map_eq_some_iff, List.length_append]
    constructor
    · intro htake
      obtain ⟨⟨h, rest⟩, hh, htake⟩ := Except.exists_of_bind_eq_ok htake
      obtain ⟨⟨a, last⟩, ha, htake⟩ := Except.exists_of_bind_eq_ok htake
      obtain ⟨rfl, rfl⟩ := Prod.mk.inj (Except.ok.inj htake)
      obtain ⟨hfirst, rfl⟩ := (hf.array ..).1 hh
      obtain ⟨hsecond, rfl⟩ := (hx.array ..).1 ha
      rw [hplaces] at hsecond
      exact ⟨⟨h, hfirst, a, hsecond, rfl⟩, by rw [List.drop_drop]⟩
    · rintro ⟨⟨h, hh, a, ha, rfl⟩, rfl⟩
      rw [← hplaces] at ha
      have hfirst := (hf.array ends k xs h _).2 ⟨hh, rfl⟩
      have hsecond := (hx.array ends (k + f.size) _ a _).2 ⟨ha, rfl⟩
      show (f.take ends .value k (toItems xs) >>= fun taken =>
        x.take ends .value (k + f.size) taken.2 >>= fun next => .ok (taken.1 next.1, next.2)) = _
      rw [hfirst]
      show (x.take ends .value (k + f.size) _ >>= fun next => _) = _
      rw [hsecond, List.drop_drop]
      rfl

/-- One more field at the end of a record. -/
theorem Reads.andField {first : (String → Nat → Option Json) → Option (α → β)} {p : Option Json → Option α}
    (hf : f.Reads ns first) (hx : x.Reads [name] fun part => p (part name 0)) (hname : name ∉ ns) :
    (Record.seq f x).Reads (ns ++ [name]) fun part =>
      (first part).bind fun h => (p (part name ns.length)).map h :=
  (hf.seq hx (List.disjoint_singleton.2 hname)).congr fun part => by simp only [Nat.zero_add]

theorem Reads.map {reading : (String → Nat → Option Json) → Option α} (hx : x.Reads ns reading) (h : α → β) :
    (h <$> x).Reads ns fun part => (reading part).map h := (reads_pure h).seq hx (List.disjoint_nil_left ns)

/-- A record is read from an object or from an array that ends with its last field. -/
theorem Reads.decoder {reading : (String → Nat → Option Json) → Option α} (hr : r.Reads ns reading) (name : String) :
    (r.decoder name).Reads fun j => if j.hasFields ns then reading j.partOf else none := by
  intro j a
  cases j with
  | object ms =>
    have hfields : (Json.object ms).hasFields ns = true ↔ ∀ n ∈ ns, (ms.map Prod.fst).count n ≤ 1 := by
      simp [hasFields]
    rw [Option.ite_none_right_eq_some, hfields]
    refine Iff.trans ?_ (hr.object ms a)
    show (r.walk .value r.start (toFields ms) >>= r.finish) = .ok a ↔ _
    constructor
    · exact Except.exists_of_bind_eq_ok
    · rintro ⟨known, hknown, hfinish⟩
      rw [hknown]
      exact hfinish
  | array xs =>
    have hfields : (Json.array xs).hasFields ns = true ↔ xs.length ≤ ns.length := by simp [hasFields]
    rw [Option.ite_none_right_eq_some, hfields]
    show (r.take _ .value 0 (toItems xs) >>= fun taken =>
      rest .value (toItems xs).length taken.2 >>= fun _ => .ok taken.1) = .ok a ↔ _
    constructor
    · intro h
      obtain ⟨⟨b, left⟩, htake, h⟩ := Except.exists_of_bind_eq_ok h
      obtain ⟨u, hrest, h⟩ := Except.exists_of_bind_eq_ok h
      obtain rfl := Except.ok.inj h
      obtain ⟨hread, rfl⟩ := (hr.array ..).1 htake
      have hdone := eq_done_of_rest hrest
      cases hdrop : xs.drop ns.length with
      | nil => exact ⟨List.drop_eq_nil_iff.1 hdrop, hread⟩
      | cons y ys =>
        rw [hdrop] at hdone
        cases hdone
    · rintro ⟨hlength, hread⟩
      rw [(hr.array _ 0 xs a _).2 ⟨hread, rfl⟩, List.drop_eq_nil_iff.2 hlength]
      rfl
  | _ => simp [decodeJson, toDocument, Record.decoder, hasFields, Document.refuse_ne_ok]

end Record

end Json

/-! ### The decoders of metadata -/

namespace Metadata

open Json (Decoder Record text? bool? int64? listOf? optionally)
open Json.Decoder (reads_text reads_bool reads_int64)
open Json.Record (reads_pure reads_field reads_fieldOr reads_optional)

theorem reads_collection {α : Type} {g : Decoder α} {read : Json → Option α} (hg : g.Reads read) :
    (collection g).Reads (entries? read) := (reads_field hg.list "value").decoder _

theorem reads_localizedLabel : localizedLabel.Reads localized? := (reads_field reads_text "Label").decoder _

theorem filter_ne_empty (l : Option String) : l.filter (· != "") = match l with | some "" => none | l => l := by
  rcases l with - | s
  · rfl
  · by_cases hs : s = ""
    · subst hs
      rfl
    · simp [hs]

theorem reads_label : label.Reads label? :=
  (((reads_optional reads_localizedLabel "UserLocalizedLabel").map _).decoder _).congr fun j => by
    simp only [filter_ne_empty]
    rfl

theorem reads_labelField (name : String) : (labelField name).Reads [name] fun part => labelAt (part name 0) :=
  (reads_optional reads_label name).map _

theorem reads_levelValue : levelValue.Reads level? := (reads_field reads_text "Value").decoder _

theorem reads_attribute : AttributeRecord.decoder.Reads attribute? := by
  have hname := (reads_field reads_text "LogicalName").map AttributeRecord.mk
  have hdisplay := hname.andField (reads_labelField "DisplayName") (by decide)
  have htype := hdisplay.andField (reads_optional reads_text "AttributeType") (by decide)
  have hid := htype.andField (reads_optional reads_bool "IsPrimaryId") (by decide)
  have hprimary := hid.andField (reads_optional reads_bool "IsPrimaryName") (by decide)
  have hlevel := hprimary.andField (reads_optional reads_levelValue "RequiredLevel") (by decide)
  have hcustom := hlevel.andField (reads_optional reads_bool "IsCustomAttribute") (by decide)
  have hdescription := hcustom.andField (reads_labelField "Description") (by decide)
  have hall := hdescription.andField (reads_optional reads_text "AttributeOf") (by decide)
  refine (hall.decoder "RawAttribute").congr fun j => ?_
  unfold attribute?
  simp only [Option.map_eq_bind, Option.bind_eq_bind, Option.bind_assoc, Option.bind_some, Option.pure_def,
    Function.comp_def]
  rfl

theorem reads_targets : lookupTargets.Reads targets? := by
  have hname := (reads_field reads_text "LogicalName").map (Prod.mk (β := List String))
  have hall := hname.andField (p := (·.elim (some []) (listOf? text?)))
    (reads_fieldOr reads_text.list "Targets" []) (by decide)
  refine (hall.decoder "RawLookupTargets").congr fun j => ?_
  unfold targets?
  simp only [Option.map_eq_bind, Option.bind_eq_bind, Option.bind_assoc, Option.bind_some, Option.pure_def,
    Function.comp_def]
  rfl

theorem reads_option : choice.Reads option? := by
  have hvalue := (reads_field reads_int64 "Value").map
    fun value (label : Option String) => (⟨value, label.getD (toString value)⟩ : Choice)
  refine ((hvalue.andField (reads_labelField "Label") (by decide)).decoder _).congr fun j => ?_
  unfold option?
  simp only [Option.map_eq_bind, Option.bind_eq_bind, Option.bind_assoc, Option.bind_some, Option.pure_def,
    Function.comp_def]
  rfl

theorem reads_optionSet : choices.Reads optionSet? := (reads_fieldOr reads_option.list "Options" []).decoder _

theorem reads_options : picklist.Reads options? := by
  have hname := (reads_field reads_text "LogicalName").map
    fun name (set : Option (List Choice)) => (name, set.getD [])
  refine ((hname.andField (reads_optional reads_optionSet "OptionSet") (by decide)).decoder _).congr fun j => ?_
  unfold options?
  simp only [Option.map_eq_bind, Option.bind_eq_bind, Option.bind_assoc, Option.bind_some, Option.pure_def,
    Function.comp_def]
  rfl

end Metadata

end QueryDesk
