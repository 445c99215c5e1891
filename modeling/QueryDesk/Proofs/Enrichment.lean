import Mathlib.Data.List.Forall2
import QueryDesk.Proofs.MetadataEntries
import QueryDesk.Proofs.Stages
import QueryDesk.Proofs.StableOrder

/-!
# Enriched attributes

The attributes of an entity are asked for in three requests. The first one decides whether there is an answer and which
rows it has; each of the other two adds something to the rows, or does not if it fails (`Session.runFrom_attributes`).
`attributes_best_effort` says what comes of it for every behaviour of the Web API, and that what a failure of one
of the two takes away is what that one would have added, and nothing else.
-/

namespace QueryDesk

/-! ### Last entries -/

section
variable {α : Type} {entries : List (String × α)} {name other : String} {v : α}

/-- The last entry of a list under a name has this value. -/
def LastUnder (entries : List (String × α)) (name : String) (v : α) : Prop :=
  ∃ earlier later, entries = earlier ++ (name, v) :: later ∧ ∀ e ∈ later, e.1 ≠ name

theorem Session.lastEntry?_eq_some_iff : lastEntry? entries name = some v ↔ LastUnder entries name v := by
  unfold lastEntry?
  rw [List.lookup_eq_some_iff]
  constructor
  · rintro ⟨later, earlier, hreverse, hlater⟩
    refine ⟨earlier.reverse, later.reverse, ?_, fun e he => ?_⟩
    · rw [← List.reverse_reverse entries, hreverse]
      simp
    · exact (bne_iff_ne.1 (hlater e (List.mem_reverse.1 he))).symm
  · rintro ⟨earlier, later, rfl, hlater⟩
    refine ⟨later.reverse, earlier.reverse, by simp, fun e he => ?_⟩
    exact bne_iff_ne.2 (hlater e (List.mem_reverse.1 he)).symm

/-- Entries under another name do not matter. -/
theorem Session.lastEntry?_filter (h : name ≠ other) :
    lastEntry? (entries.filter (·.1 != other)) name = lastEntry? entries name := by
  unfold lastEntry?
  rw [← List.filter_reverse]
  induction entries.reverse with
  | nil => rfl
  | cons e rest ih =>
    obtain ⟨key, v⟩ := e
    by_cases hkey : key = other
    · subst hkey
      have hskip : (name == key) = false := beq_eq_false_iff_ne.2 h
      simp only [List.filter_cons, bne_self_eq_false, Bool.false_eq_true, if_false, List.lookup_cons, hskip, ih]
    · simp only [List.filter_cons, bne_iff_ne.2 hkey, if_true, List.lookup_cons, ih]

end

/-! ### Requests -/

namespace Session

variable {s : Session} {name : String} {log : Log}

/-- The call that asks for a resource. -/
def callFor (s : Session) (resource : String) : Call := ⟨s.environment, s.token, resource, none⟩

/-- What a request for a resource comes to after a log. -/
def fetched {α : Type} (s : Session) (decoder : Json.Decoder α) (resource : String) (log : Log) : Except Error α :=
  (s.remote.answer log (s.callFor resource)).bind fun payload => (Json.decodeJson decoder payload).mapError .json

theorem runFrom_fetch_eq {α : Type} (s : Session) (decoder : Json.Decoder α) (resource : String) (log : Log) :
    (s.fetch decoder resource).runFrom log = (s.fetched decoder resource log, log ++ [.call (s.callFor resource)]) := by
  have hget : (s.get resource none).runFrom log =
      (s.remote.answer log (s.callFor resource), log ++ [.call (s.callFor resource)]) := rfl
  rw [fetch, Exchange.runFrom_bind, hget, fetched]
  cases s.remote.answer log (s.callFor resource) <;> rfl

theorem runFrom_attempt_fetch {α : Type} (s : Session) (decoder : Json.Decoder α) (resource : String) (log : Log) :
    (Exchange.attempt (s.fetch decoder resource)).runFrom log =
      (.ok (s.fetched decoder resource log), log ++ [.call (s.callFor resource)]) := by
  rw [Exchange.runFrom_attempt, runFrom_fetch_eq]
  rfl

theorem runFrom_checkLogicalName_of_not (h : Text.isIdentifier name = false) (log : Log) :
    (checkLogicalName name).runFrom log = (.error (.validation (.badName .logical name)), log) := by
  rw [checkLogicalName, Exchange.runFrom_ofExcept, checkName, ensure, h]
  rfl

theorem runFrom_attributes_of_not (h : Text.isIdentifier name = false) :
    (s.attributes name).runFrom log = (.error (.validation (.badName .logical name)), log) := by
  rw [attributes, Exchange.runFrom_bind, runFrom_checkLogicalName_of_not h]

/-- What the three requests for attributes come to. -/
structure AttributeAnswers where
  base : Except Error (List Metadata.AttributeRecord)
  lookups : Except Error (List (String × List String))
  picklists : Except Error (List (String × List Choice))

/-- What the three requests for the attributes of an entity come to after a log, if all of them are made. -/
def attributeAnswers (s : Session) (name : String) (log : Log) : AttributeAnswers where
  base := s.fetched (Metadata.collection Metadata.AttributeRecord.decoder) (attributesResource name) log
  lookups := s.fetched (Metadata.collection Metadata.lookupTargets) (lookupsResource name)
    (log ++ [.call (s.callFor (attributesResource name))])
  picklists := s.fetched (Metadata.collection Metadata.picklist) (picklistsResource name)
    (log ++ [.call (s.callFor (attributesResource name)), .call (s.callFor (lookupsResource name))])

/-- The rows of the records that are shown. -/
def baseRows (found : List Metadata.AttributeRecord) : List AttributeInfo :=
  (found.filter (·.attributeOf.isNone)).map Metadata.AttributeRecord.info

/-- Rows with what the entries for lookups, if there are any, add to them. -/
def addTargets (lookups : Option (List (String × List String))) (rows : List AttributeInfo) : List AttributeInfo :=
  lookups.elim rows (withTargets · rows)

/-- Rows with what the entries for choices, if there are any, add to them. -/
def addChoices (picklists : Option (List (String × List Choice))) (rows : List AttributeInfo) : List AttributeInfo :=
  picklists.elim rows (withChoices · rows)

/-- The rows of the answers in the order of the base payload. -/
def AttributeAnswers.rows (answers : AttributeAnswers) (found : List Metadata.AttributeRecord) : List AttributeInfo :=
  addChoices answers.picklists.toOption (addTargets answers.lookups.toOption (baseRows found))

/-- How the three requests go. -/
theorem runFrom_attributes (hname : Text.isIdentifier name = true) :
    (s.attributes name).runFrom log =
      match (s.attributeAnswers name log).base with
      | .error e => (.error e, log ++ [.call (s.callFor (attributesResource name))])
      | .ok found =>
        (.ok (((s.attributeAnswers name log).rows found).mergeSort fun a b =>
            displayedBefore a.displayName b.displayName),
          log ++ [.call (s.callFor (attributesResource name)), .call (s.callFor (lookupsResource name)),
            .call (s.callFor (picklistsResource name))]) := by
  rw [attributes, Exchange.runFrom_bind_ok (runFrom_checkLogicalName hname log), Exchange.runFrom_bind,
    runFrom_fetch_eq]
  simp only [attributeAnswers, AttributeAnswers.rows]
  cases s.fetched (Metadata.collection Metadata.AttributeRecord.decoder) (attributesResource name) log with
  | error e => rfl
  | ok found =>
    simp only [Exchange.runFrom_bind, runFrom_attempt_fetch, List.append_assoc, List.cons_append, List.nil_append]
    rcases s.fetched (Metadata.collection Metadata.lookupTargets) (lookupsResource name) _ with - | - <;>
      rcases s.fetched (Metadata.collection Metadata.picklist) (picklistsResource name) _ with - | - <;> rfl

/-! ### What the requests add -/

variable {answers answers' : AttributeAnswers} {rows : List AttributeInfo} {found : List Metadata.AttributeRecord}

/-- What a request adds to a row of a name: the last entry of that name, if there are entries. -/
def Adds {α : Type} (entries? : Option (List (String × α))) (name : String) (shown : Option α) : Prop :=
  ∀ v, shown = some v ↔ ∃ entries, entries? = some entries ∧ LastUnder entries name v

/-- The last entry of a name. -/
def addition {α : Type} (entries? : Option (List (String × α))) (name : String) : Option α :=
  entries?.bind fun entries => lastEntry? entries name

theorem adds_addition {α : Type} (entries? : Option (List (String × α))) (name : String) :
    Adds entries? name (addition entries? name) := by
  intro v
  cases entries? with
  | none => exact iff_of_false nofun nofun
  | some entries =>
    refine lastEntry?_eq_some_iff.trans ⟨fun h => ⟨entries, rfl, h⟩, ?_⟩
    rintro ⟨_, ⟨⟩, h⟩
    exact h

/-- A record is shown by a row. The targets and the options come of the entries of the other two requests; all else is
what the record says, or what stands for it where the record says nothing. -/
structure Shows (lookups : Option (List (String × List String))) (picklists : Option (List (String × List Choice)))
    (r : Metadata.AttributeRecord) (a : AttributeInfo) : Prop where
  logicalName : a.logicalName = r.logicalName
  displayName : a.displayName = r.displayName.getD r.logicalName
  type : a.type = r.type.getD "Unknown"
  isPrimaryId : a.isPrimaryId = r.isPrimaryId.getD false
  isPrimaryName : a.isPrimaryName = r.isPrimaryName.getD false
  isRequired : a.isRequired = true ↔
    r.requiredLevel = some "ApplicationRequired" ∨ r.requiredLevel = some "SystemRequired"
  isCustom : a.isCustom = r.isCustom.getD false
  description : a.description = r.description
  targets : Adds lookups r.logicalName a.targets
  options : Adds picklists r.logicalName a.options

theorem isRequired_info (r : Metadata.AttributeRecord) : r.info.isRequired = true ↔
    r.requiredLevel = some "ApplicationRequired" ∨ r.requiredLevel = some "SystemRequired" := by
  show (r.requiredLevel.map Metadata.isRequiredLevel).getD false = true ↔ _
  rcases r.requiredLevel with - | level
  · simp
  · simp [Metadata.isRequiredLevel]

theorem shows_info (lookups : Option (List (String × List String))) (picklists : Option (List (String × List Choice)))
    (r : Metadata.AttributeRecord) :
    Shows lookups picklists r { r.info with
      targets := addition lookups r.logicalName, options := addition picklists r.logicalName } :=
  ⟨rfl, rfl, rfl, rfl, rfl, isRequired_info r, rfl, rfl, adds_addition _ _, adds_addition _ _⟩

/-- A row is told by the record and the entries. -/
theorem Shows.unique {lookups : Option (List (String × List String))} {picklists : Option (List (String × List Choice))}
    {r : Metadata.AttributeRecord} {a b : AttributeInfo} (ha : Shows lookups picklists r a)
    (hb : Shows lookups picklists r b) : a = b := by
  have hrequired : a.isRequired = b.isRequired := Bool.eq_iff_iff.2 (ha.isRequired.trans hb.isRequired.symm)
  have htargets : a.targets = b.targets := Option.ext fun v => (ha.targets v).trans (hb.targets v).symm
  have hoptions : a.options = b.options := Option.ext fun v => (ha.options v).trans (hb.options v).symm
  cases a
  cases b
  simp only [AttributeInfo.mk.injEq]
  exact ⟨ha.logicalName.trans hb.logicalName.symm, ha.displayName.trans hb.displayName.symm, ha.type.trans hb.type.symm,
    ha.isPrimaryId.trans hb.isPrimaryId.symm, ha.isPrimaryName.trans hb.isPrimaryName.symm, hrequired,
    ha.isCustom.trans hb.isCustom.symm, ha.description.trans hb.description.symm, htargets, hoptions⟩

theorem addTargets_eq_map (hnone : ∀ a ∈ rows, a.targets = none) (lookups : Option (List (String × List String))) :
    addTargets lookups rows =
      rows.map fun a => { a with targets := addition lookups a.logicalName } := by
  cases lookups with
  | none =>
    refine (List.map_id' rows).symm.trans (List.map_congr_left fun a ha => ?_)
    rw [addition, Option.bind_none, ← hnone a ha]
  | some entries => rfl

/-- An entry that was given to the only row of its name is not missed by the others. -/
theorem withChoices_eq_map (hnames : (rows.map (·.logicalName)).Nodup) (entries : List (String × List Choice)) :
    withChoices entries rows = rows.map fun a => { a with options := lastEntry? entries a.logicalName } := by
  induction rows generalizing entries with
  | nil => rfl
  | cons a rest ih =>
    obtain ⟨hother, hrest⟩ := List.nodup_cons.1 hnames
    rw [withChoices, ih hrest, List.map_cons]
    refine congrArg _ (List.map_congr_left fun b hb => ?_)
    rw [lastEntry?_filter fun heq => hother (List.mem_map.2 ⟨b, hb, heq⟩)]

theorem addChoices_eq_map (hnames : (rows.map (·.logicalName)).Nodup) (hnone : ∀ a ∈ rows, a.options = none)
    (picklists : Option (List (String × List Choice))) :
    addChoices picklists rows =
      rows.map fun a => { a with options := addition picklists a.logicalName } := by
  cases picklists with
  | none =>
    refine (List.map_id' rows).symm.trans (List.map_congr_left fun a ha => ?_)
    rw [addition, Option.bind_none, ← hnone a ha]
  | some entries => exact withChoices_eq_map hnames entries

/-- Where no name repeats, each row has what is added under its name. -/
theorem AttributeAnswers.forall₂_shows (answers : AttributeAnswers) (hnames : (found.map (·.logicalName)).Nodup) :
    List.Forall₂ (Shows answers.lookups.toOption answers.picklists.toOption) (found.filter (·.attributeOf.isNone))
      (answers.rows found) := by
  have hkept : ((found.filter (·.attributeOf.isNone)).map (·.logicalName)).Nodup :=
    hnames.sublist (List.filter_sublist.map _)
  rw [rows, baseRows, addTargets_eq_map (List.forall_mem_map.2 fun _ _ => rfl), List.map_map, addChoices_eq_map,
    List.map_map, List.forall₂_map_right_iff, List.forall₂_same]
  · exact fun r _ => shows_info _ _ r
  · rw [List.map_map]
    exact hkept
  · exact List.forall_mem_map.2 fun _ _ => rfl

/-! ### What a failure takes away -/

/-- A row without its targets. -/
def withoutTargets (a : AttributeInfo) : AttributeInfo := { a with targets := none }

/-- A row without its choices. -/
def withoutOptions (a : AttributeInfo) : AttributeInfo := { a with options := none }

theorem baseRows_withoutTargets (found : List Metadata.AttributeRecord) :
    (baseRows found).map withoutTargets = baseRows found := List.map_map ..

theorem baseRows_withoutOptions (found : List Metadata.AttributeRecord) :
    (baseRows found).map withoutOptions = baseRows found := List.map_map ..

theorem addTargets_withoutTargets (lookups : Option (List (String × List String))) (rows : List AttributeInfo) :
    (addTargets lookups rows).map withoutTargets = rows.map withoutTargets := by
  cases lookups with
  | none => rfl
  | some entries => exact List.map_map ..

theorem addTargets_withoutOptions (lookups : Option (List (String × List String))) (rows : List AttributeInfo) :
    (addTargets lookups rows).map withoutOptions = addTargets lookups (rows.map withoutOptions) := by
  cases lookups with
  | none => rfl
  | some entries =>
    rw [addTargets, addTargets, Option.elim_some, Option.elim_some, withTargets, withTargets, List.map_map, List.map_map]
    rfl

theorem withChoices_withoutTargets (entries : List (String × List Choice)) (rows : List AttributeInfo) :
    (withChoices entries rows).map withoutTargets = withChoices entries (rows.map withoutTargets) := by
  induction rows generalizing entries with
  | nil => rfl
  | cons a rest ih => exact congrArg (List.cons _) (ih (entries.filter (·.1 != a.logicalName)))

theorem withChoices_withoutOptions (entries : List (String × List Choice)) (rows : List AttributeInfo) :
    (withChoices entries rows).map withoutOptions = rows.map withoutOptions := by
  induction rows generalizing entries with
  | nil => rfl
  | cons a rest ih => exact congrArg (List.cons _) (ih (entries.filter (·.1 != a.logicalName)))

theorem addChoices_withoutTargets (picklists : Option (List (String × List Choice))) (rows : List AttributeInfo) :
    (addChoices picklists rows).map withoutTargets = addChoices picklists (rows.map withoutTargets) := by
  cases picklists with
  | none => rfl
  | some entries => exact withChoices_withoutTargets entries rows

theorem addChoices_withoutOptions (picklists : Option (List (String × List Choice))) (rows : List AttributeInfo) :
    (addChoices picklists rows).map withoutOptions = rows.map withoutOptions := by
  cases picklists with
  | none => rfl
  | some entries => exact withChoices_withoutOptions entries rows

/-- Without the lookups the rows are what they are with them, targets aside. -/
theorem AttributeAnswers.rows_without_lookups (hlookups : answers'.lookups.toOption = none)
    (hpicklists : answers'.picklists.toOption = answers.picklists.toOption) (found : List Metadata.AttributeRecord) :
    answers'.rows found = (answers.rows found).map withoutTargets := by
  rw [rows, rows, addChoices_withoutTargets, addTargets_withoutTargets, baseRows_withoutTargets, hlookups, hpicklists]
  rfl

/-- Without the picklists the rows are what they are with them, choices aside. -/
theorem AttributeAnswers.rows_without_picklists (hpicklists : answers'.picklists.toOption = none)
    (hlookups : answers'.lookups.toOption = answers.lookups.toOption) (found : List Metadata.AttributeRecord) :
    answers'.rows found = (answers.rows found).map withoutOptions := by
  rw [rows, rows, addChoices_withoutOptions, addTargets_withoutOptions, baseRows_withoutOptions, hlookups, hpicklists]
  rfl

/-- What changes the rows of the answers, but not their display names, changes the outcome in the same way. -/
theorem attributes_map {s' : Session} {log' : Log} {f : AttributeInfo → AttributeInfo}
    (hname : ∀ a, (f a).displayName = a.displayName)
    (hbase : (s'.attributeAnswers name log').base = (s.attributeAnswers name log).base)
    (hrows : ∀ found, (s'.attributeAnswers name log').rows found = ((s.attributeAnswers name log).rows found).map f) :
    ((s'.attributes name).runFrom log').1 = ((s.attributes name).runFrom log).1.map (·.map f) := by
  cases hidentifier : Text.isIdentifier name with
  | false =>
    rw [runFrom_attributes_of_not hidentifier, runFrom_attributes_of_not hidentifier]
    rfl
  | true =>
    rw [runFrom_attributes hidentifier, runFrom_attributes hidentifier, hbase]
    cases (s.attributeAnswers name log).base with
    | error e => rfl
    | ok found =>
      have hsorted := List.map_mergeSort (f := f) (l := (s.attributeAnswers name log).rows found)
        (r := fun a b => displayedBefore a.displayName b.displayName)
        (s := fun a b => displayedBefore a.displayName b.displayName) fun a _ b _ => by rw [hname, hname]
      exact congrArg Except.ok ((hrows found).symm ▸ hsorted.symm)

/-! ### What the Web API answers -/

/-- The entries of an answer, if it is a payload of which they can be read. -/
def told {α : Type} (read : Json → Option α) (answer : Except Error Json) : Option (List α) :=
  answer.toOption.bind (Metadata.entries? read)

theorem toOption_fetched {α : Type} {decoder : Json.Decoder α} {read : Json → Option α} (hread : decoder.Reads read)
    (s : Session) (resource : String) (log : Log) :
    (s.fetched (Metadata.collection decoder) resource log).toOption =
      told read (s.remote.answer log (s.callFor resource)) := by
  unfold fetched told
  rcases s.remote.answer log (s.callFor resource) with e | payload
  · rfl
  · have hentries := Metadata.reads_collection hread payload
    show ((Json.decodeJson (Metadata.collection decoder) payload).mapError Error.json).toOption =
      Metadata.entries? read payload
    cases hdecoded : Json.decodeJson (Metadata.collection decoder) payload with
    | ok entries => exact ((hentries entries).1 hdecoded).symm
    | error f =>
      cases hnone : Metadata.entries? read payload with
      | none => rfl
      | some entries =>
        rw [(hentries entries).2 hnone] at hdecoded
        cases hdecoded

/-- What the Web API answers to the three requests for the attributes of an entity. -/
structure AttributePayloads where
  base : Except Error Json
  lookups : Except Error Json
  picklists : Except Error Json

/-- What is answered to the three requests after a log, if all of them are made. -/
def attributePayloads (s : Session) (name : String) (log : Log) : AttributePayloads where
  base := s.remote.answer log (s.callFor (attributesResource name))
  lookups := s.remote.answer (log ++ [.call (s.callFor (attributesResource name))])
    (s.callFor (lookupsResource name))
  picklists := s.remote.answer
    (log ++ [.call (s.callFor (attributesResource name)), .call (s.callFor (lookupsResource name))])
    (s.callFor (picklistsResource name))

theorem toOption_lookups (s : Session) (name : String) (log : Log) :
    (s.attributeAnswers name log).lookups.toOption = told Metadata.targets? (s.attributePayloads name log).lookups :=
  toOption_fetched Metadata.reads_targets ..

theorem toOption_picklists (s : Session) (name : String) (log : Log) :
    (s.attributeAnswers name log).picklists.toOption = told Metadata.options? (s.attributePayloads name log).picklists :=
  toOption_fetched Metadata.reads_options ..

theorem base_attributeAnswers (s : Session) (name : String) (log : Log) :
    (s.attributeAnswers name log).base = (s.attributePayloads name log).base.bind fun payload =>
      (Json.decodeJson (Metadata.collection Metadata.AttributeRecord.decoder) payload).mapError .json := rfl

theorem base_eq_ok_of_told {found : List Metadata.AttributeRecord}
    (h : told Metadata.attribute? (s.attributePayloads name log).base = some found) :
    (s.attributeAnswers name log).base = .ok found := by
  have hbase := toOption_fetched Metadata.reads_attribute s (attributesResource name) log
  cases hfetched : s.fetched (Metadata.collection Metadata.AttributeRecord.decoder) (attributesResource name) log with
  | error e =>
    rw [hfetched] at hbase
    cases hbase.trans h
  | ok records =>
    rw [hfetched] at hbase
    obtain rfl := Option.some.inj (hbase.trans h)
    exact hfetched

/-- What cannot be read fails to decode. -/
theorem base_eq_error_of_untold {payload : Json} (hpayload : (s.attributePayloads name log).base = .ok payload)
    (h : Metadata.entries? Metadata.attribute? payload = none) :
    ∃ f, Json.decodeJson (Metadata.collection Metadata.AttributeRecord.decoder) payload = .error f ∧
      (s.attributeAnswers name log).base = .error (.json f) := by
  rw [base_attributeAnswers, hpayload]
  cases hdecoded : Json.decodeJson (Metadata.collection Metadata.AttributeRecord.decoder) payload with
  | error f =>
    refine ⟨f, rfl, ?_⟩
    show (Json.decodeJson _ payload).mapError Error.json = _
    rw [hdecoded]
    rfl
  | ok records =>
    rw [(Metadata.reads_collection Metadata.reads_attribute payload records).1 hdecoded] at h
    cases h

/-! ### Attributes for every behaviour of the Web API -/

/-- A name that is no identifier is refused before anything is asked. If the first request fails, or its payload cannot
be read, so does the answer, and nothing else is asked. Otherwise all three requests are made and there is an answer:
where no name repeats, the rows of the records that are no helper columns, sorted stably by what they show in lower
case, with what the other two requests add. Where one of these fails or its payload cannot be read, the answer is that
of a run in which it succeeds, without what it adds. -/
theorem attributes_best_effort (s : Session) (name : String) (log : Log) :
    (Text.isIdentifier name = false →
      (s.attributes name).runFrom log = (.error (.validation (.badName .logical name)), log)) ∧
    (Text.isIdentifier name = true → ∀ e, (s.attributePayloads name log).base = .error e →
      (s.attributes name).runFrom log = (.error e, log ++ [.call (s.callFor (attributesResource name))])) ∧
    (Text.isIdentifier name = true → ∀ payload, (s.attributePayloads name log).base = .ok payload →
      Metadata.entries? Metadata.attribute? payload = none →
      ∃ f, Json.decodeJson (Metadata.collection Metadata.AttributeRecord.decoder) payload = .error f ∧
        (s.attributes name).runFrom log =
          (.error (.json f), log ++ [.call (s.callFor (attributesResource name))])) ∧
    (Text.isIdentifier name = true → ∀ found, told Metadata.attribute? (s.attributePayloads name log).base = some found →
      ∃ rows, (s.attributes name).runFrom log = (.ok rows, log ++ [.call (s.callFor (attributesResource name)),
          .call (s.callFor (lookupsResource name)), .call (s.callFor (picklistsResource name))]) ∧
        ((found.map (·.logicalName)).Nodup → ∃ shown,
          List.Forall₂ (Shows (told Metadata.targets? (s.attributePayloads name log).lookups)
            (told Metadata.options? (s.attributePayloads name log).picklists))
            (found.filter (·.attributeOf.isNone)) shown ∧
            StablySorted (fun a => Text.toLower a.displayName) shown rows)) ∧
    (∀ (s' : Session) (log' : Log), (s'.attributePayloads name log').base = (s.attributePayloads name log).base →
      told Metadata.targets? (s'.attributePayloads name log').lookups = none →
      told Metadata.options? (s'.attributePayloads name log').picklists =
        told Metadata.options? (s.attributePayloads name log).picklists →
      ((s'.attributes name).runFrom log').1 = ((s.attributes name).runFrom log).1.map (·.map withoutTargets)) ∧
    ∀ (s' : Session) (log' : Log), (s'.attributePayloads name log').base = (s.attributePayloads name log).base →
      told Metadata.options? (s'.attributePayloads name log').picklists = none →
      told Metadata.targets? (s'.attributePayloads name log').lookups =
        told Metadata.targets? (s.attributePayloads name log).lookups →
      ((s'.attributes name).runFrom log').1 = ((s.attributes name).runFrom log).1.map (·.map withoutOptions) := by
  have hbases {s' : Session} {log' : Log}
      (h : (s'.attributePayloads name log').base = (s.attributePayloads name log).base) :
      (s'.attributeAnswers name log').base = (s.attributeAnswers name log).base := by
    rw [base_attributeAnswers, base_attributeAnswers, h]
  refine ⟨fun hname => runFrom_attributes_of_not hname, fun hname e hbase => ?_, fun hname payload hbase hnone => ?_,
    fun hname found hbase => ?_,
    fun s' log' hbase hlookups hpicklists => attributes_map (fun _ => rfl) (hbases hbase) fun found => ?_,
    fun s' log' hbase hpicklists hlookups => attributes_map (fun _ => rfl) (hbases hbase) fun found => ?_⟩
  · rw [runFrom_attributes hname, base_attributeAnswers, hbase]
    rfl
  · obtain ⟨f, hdecoded, hf⟩ := base_eq_error_of_untold hbase hnone
    exact ⟨f, hdecoded, by rw [runFrom_attributes hname, hf]⟩
  · rw [runFrom_attributes hname, base_eq_ok_of_told hbase, ← toOption_lookups, ← toOption_picklists]
    refine ⟨_, rfl, fun hnames => ⟨_, (s.attributeAnswers name log).forall₂_shows hnames, ?_⟩⟩
    exact stablySorted_mergeSort (fun a : AttributeInfo => Text.toLower a.displayName) _
  · refine AttributeAnswers.rows_without_lookups ?_ ?_ found
    · rw [toOption_lookups, hlookups]
    · rw [toOption_picklists, toOption_picklists, hpicklists]
  · refine AttributeAnswers.rows_without_picklists ?_ ?_ found
    · rw [toOption_picklists, hpicklists]
    · rw [toOption_lookups, toOption_lookups, hlookups]

/-! ### A sample -/

/-- The attributes of accounts: two of them, of which one has a label, and a helper column. -/
def sampleAttributes : Json := .ofMembers [("value", .array
  [.ofMembers [("LogicalName", .text "primarycontactid"), ("AttributeType", .text "Lookup")],
    .ofMembers [("LogicalName", .text "industrycode"), ("AttributeType", .text "Picklist"),
      ("DisplayName", .ofMembers [("UserLocalizedLabel", .ofMembers [("Label", .text "Industry")])]),
      ("RequiredLevel", .ofMembers [("Value", .text "ApplicationRequired")])],
    .ofMembers [("LogicalName", .text "primarycontactidname"), ("AttributeOf", .text "primarycontactid")]])]

/-- Two entries for one lookup. -/
def sampleLookups : Json := .ofMembers [("value", .array
  [.ofMembers [("LogicalName", .text "primarycontactid"), ("Targets", .array [.text "account"])],
    .ofMembers [("LogicalName", .text "primarycontactid"), ("Targets", .array [.text "contact"])]])]

/-- Two entries for one attribute. Of the options in the second one, the first has a label, that of the next is empty,
and the last has none. -/
def samplePicklists : Json := .ofMembers [("value", .array
  [.ofMembers [("LogicalName", .text "industrycode")],
    .ofMembers [("LogicalName", .text "industrycode"), ("OptionSet", .ofMembers [("Options", .array
      [.ofMembers [("Value", .number (.int 1)),
          ("Label", .ofMembers [("UserLocalizedLabel", .ofMembers [("Label", .text "Accounting")])])],
        .ofMembers [("Value", .number (.int 20)),
          ("Label", .ofMembers [("UserLocalizedLabel", .ofMembers [("Label", .text "")])])],
        .ofMembers [("Value", .number (.int (-3)))]])])]])]

/-- A session with a Web API that knows the attributes of accounts. The other two answers are given. -/
def sampleSession (lookups picklists : Except Error Json) : Session where
  remote :=
    { signIn _ _ := .ok ⟨"secret", none⟩
      answer _ c :=
        if c.resource = attributesResource "account" then .ok sampleAttributes
        else if c.resource = lookupsResource "account" then lookups
        else if c.resource = picklistsResource "account" then picklists
        else .error (.request 403 "" none) }
  environment := ⟨"dev", "ann", "Development", "", "", "", ""⟩
  token := ⟨"secret", none⟩

/-- The records of the sample. -/
def sampleRecords : List Metadata.AttributeRecord :=
  [⟨"primarycontactid", none, some "Lookup", none, none, none, none, none, none⟩,
    ⟨"industrycode", some "Industry", some "Picklist", none, none, some "ApplicationRequired", none, none, none⟩,
    ⟨"primarycontactidname", none, none, none, none, none, none, none, some "primarycontactid"⟩]

/-- The rows of the sample. -/
def sampleRows : List AttributeInfo :=
  [⟨"industrycode", "Industry", "Picklist", false, false, true, false, none, none,
      some [⟨1, "Accounting"⟩, ⟨20, "20"⟩, ⟨-3, "-3"⟩]⟩,
    ⟨"primarycontactid", "primarycontactid", "Lookup", false, false, false, false, none, some ["contact"], none⟩]

/-- A run of the sample. -/
def sampleRun (lookups picklists : Except Error Json) (name : String) : Except Error (List AttributeInfo) × Log :=
  ((sampleSession lookups picklists).attributes name).runFrom []

theorem attributePayloads_sample (lookups picklists : Except Error Json) :
    (sampleSession lookups picklists).attributePayloads "account" [] = ⟨.ok sampleAttributes, lookups, picklists⟩ := by
  have hlookups : lookupsResource "account" ≠ attributesResource "account" := by decide +kernel
  have hpicklists : picklistsResource "account" ≠ attributesResource "account" := by decide +kernel
  have hother : picklistsResource "account" ≠ lookupsResource "account" := by decide +kernel
  simp only [attributePayloads, sampleSession, callFor, if_true, if_neg hlookups, if_neg hpicklists, if_neg hother]

/-- The records and the entries of the sample are read off the payloads: the last entry counts, and where an option has no
label its value stands for it. With all three answers the rows are known; where one of the other two is refused or is
no collection, its part is missing. A name with an apostrophe is not asked for, and of an entity that is not known
nothing is asked but its attributes. -/
theorem attributes_best_effort_sample :
    Text.isIdentifier "account" = true ∧ told Metadata.attribute? (.ok sampleAttributes) = some sampleRecords ∧
    (sampleRecords.map (·.logicalName)).Nodup ∧
    told Metadata.targets? (.ok sampleLookups) =
      some [("primarycontactid", ["account"]), ("primarycontactid", ["contact"])] ∧
    told Metadata.options? (.ok samplePicklists) =
      some [("industrycode", []), ("industrycode", [⟨1, "Accounting"⟩, ⟨20, "20"⟩, ⟨-3, "-3"⟩])] ∧
    (∃ shown, (sampleRun (.ok sampleLookups) (.ok samplePicklists) "account").1 = .ok sampleRows ∧
      List.Forall₂ (Shows (told Metadata.targets? (.ok sampleLookups)) (told Metadata.options? (.ok samplePicklists)))
        (sampleRecords.take 2) shown ∧
      StablySorted (fun a : AttributeInfo => Text.toLower a.displayName) shown sampleRows) ∧
    (sampleRun (.error (.request 403 "" none)) (.ok samplePicklists) "account").1 =
      .ok (sampleRows.map withoutTargets) ∧
    (sampleRun (.ok sampleLookups) (.ok .null) "account").1 = .ok (sampleRows.map withoutOptions) ∧
    sampleRun (.ok sampleLookups) (.ok samplePicklists) "account'" =
      (.error (.validation (.badName .logical "account'")), []) ∧
    sampleRun (.ok sampleLookups) (.ok samplePicklists) "contact" = (.error (.request 403 "" none),
      [.call ((sampleSession (.ok sampleLookups) (.ok samplePicklists)).callFor (attributesResource "contact"))]) := by
  have hname : Text.isIdentifier "account" = true := by decide
  have hrecords : told Metadata.attribute? (.ok sampleAttributes) = some sampleRecords := by decide +kernel
  have hnames : (sampleRecords.map (·.logicalName)).Nodup := by decide
  have hall := attributes_best_effort (sampleSession (.ok sampleLookups) (.ok samplePicklists))
  obtain ⟨-, -, -, hfound, hlookups, hpicklists⟩ := hall "account" []
  simp only [attributePayloads_sample] at hfound hlookups hpicklists
  obtain ⟨rows, hrun, hshown⟩ := hfound hname sampleRecords hrecords
  obtain ⟨shown, hshows, hsorted⟩ := hshown hnames
  have hinfo : sampleRows.reverse = (sampleRecords.take 2).map fun r => { r.info with
      targets := addition (told Metadata.targets? (.ok sampleLookups)) r.logicalName
      options := addition (told Metadata.options? (.ok samplePicklists)) r.logicalName } := by
    decide +kernel
  have hunique : Relator.RightUnique
      (Shows (told Metadata.targets? (.ok sampleLookups)) (told Metadata.options? (.ok samplePicklists))) :=
    fun _ _ _ => Shows.unique
  have hkept : sampleRecords.filter (·.attributeOf.isNone) = sampleRecords.take 2 := by decide
  rw [hkept] at hshows
  have hreverse : shown = sampleRows.reverse := by
    refine List.right_unique_forall₂' hunique hshows ?_
    rw [hinfo, List.forall₂_map_right_iff, List.forall₂_same]
    exact fun r _ => shows_info _ _ r
  have hperm : sampleRows.Perm rows := (List.reverse_perm _).symm.trans (hreverse ▸ hsorted.perm.symm)
  obtain rfl : sampleRows = rows :=
    eq_of_perm_of_ordered (fun _ _ => le_antisymm) (by decide +kernel) hperm (by decide +kernel) hsorted.ordered
  have houtcome : (sampleRun (.ok sampleLookups) (.ok samplePicklists) "account").1 = .ok sampleRows :=
    congrArg Prod.fst hrun
  have hrefused := hlookups (sampleSession (.error (.request 403 "" none)) (.ok samplePicklists)) []
  have hunread := hpicklists (sampleSession (.ok sampleLookups) (.ok .null)) []
  simp only [attributePayloads_sample] at hrefused hunread
  refine ⟨hname, hrecords, hnames, by decide +kernel, by decide +kernel, ⟨shown, houtcome, hshows, hsorted⟩, ?_, ?_,
    (hall "account'" []).1 (by decide), (hall "contact" []).2.1 (by decide) _ ?_⟩
  · exact (hrefused trivial rfl trivial).trans (congrArg _ houtcome)
  · exact (hunread trivial rfl trivial).trans (congrArg _ houtcome)
  · rfl

end Session

end QueryDesk
