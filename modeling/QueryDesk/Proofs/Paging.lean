import QueryDesk.Proofs.Exchanges
import QueryDesk.Proofs.RequestText

/-!
# Page by page

`Browsed` asks for one page after the other, up to the first that does not come back full. If the Web API gives out a
list of records as the numbers in the query string say (`Remote.Serves`), every page has its share of that list
(`Query.shares_execute`), and browsing gives all of it, each record once and in order (`Shares.exists_browsed`).
-/

namespace QueryDesk

/-! ### Browsing -/

/-- Asks for one page after the other, up to the first that has no more behind it. -/
inductive Browsed (ask : Nat → Exchange ResultPage) : Nat → Log → List ResultPage → Log → Prop
  | last {page : Nat} {log log' : Log} {p : ResultPage} (hp : (ask page).runFrom log = (.ok p, log'))
      (hmore : p.hasMore = false) : Browsed ask page log [p] log'
  | more {page : Nat} {log log' log'' : Log} {p : ResultPage} {ps : List ResultPage}
      (hp : (ask page).runFrom log = (.ok p, log')) (hmore : p.hasMore = true)
      (hrest : Browsed ask (page + 1) log' ps log'') : Browsed ask page log (p :: ps) log''

variable {ask : Nat → Exchange ResultPage}

theorem Browsed.unique {page : Nat} {log l l' : Log} {ps ps' : List ResultPage} (h : Browsed ask page log ps l)
    (h' : Browsed ask page log ps' l') : ps' = ps ∧ l' = l := by
  -- the page that is got decides whether it is the last one
  induction h generalizing ps' l' with
  | last hp hmore =>
    cases h' with
    | last hp' _ =>
      obtain ⟨heq, rfl⟩ := Prod.mk.inj (hp.symm.trans hp')
      exact ⟨by rw [Except.ok.inj heq], rfl⟩
    | more hp' hmore' _ =>
      obtain ⟨heq, -⟩ := Prod.mk.inj (hp.symm.trans hp')
      rw [← Except.ok.inj heq, hmore] at hmore'
      cases hmore'
  | more hp hmore _ ih =>
    cases h' with
    | last hp' hmore' =>
      obtain ⟨heq, -⟩ := Prod.mk.inj (hp.symm.trans hp')
      rw [← Except.ok.inj heq, hmore] at hmore'
      cases hmore'
    | more hp' _ hrest' =>
      obtain ⟨heq, rfl⟩ := Prod.mk.inj (hp.symm.trans hp')
      obtain ⟨rfl, rfl⟩ := ih hrest'
      exact ⟨by rw [Except.ok.inj heq], rfl⟩

/-- A page, whatever was asked before, has the rows of its share of the records, and is the last one if that share is
short. The first page has the number one. -/
def Shares (ask : Nat → Exchange ResultPage) (q : Query) (records : List Json) (size : Nat) : Prop :=
  ∀ k log, ∃ p log', (ask (k + 1)).runFrom log = (.ok p, log') ∧ p.page = k + 1 ∧
    p.rows = q.rows ((records.drop (k * size)).take size) ∧
    p.hasMore = (((records.drop (k * size)).take size).length == size)

/-- Browsing from any page on: `left` full pages follow, and then one that is not full. -/
theorem Shares.exists_browsed {q : Query} {records : List Json} {size : Nat} (h : Shares ask q records size)
    (hsize : 0 < size) {k left : Nat} (hleft : k + left = records.length / size) (log : Log) :
    ∃ pages log', Browsed ask (k + 1) log pages log' ∧
      pages.map (·.page) = List.range' (k + 1) (left + 1) ∧
      pages.map (·.hasMore) = List.replicate left true ++ [false] ∧
      pages.flatMap (·.rows) = q.rows (records.drop (k * size)) := by
  induction left generalizing k log with
  | zero =>
    obtain ⟨p, log', hp, hpage, hrows, hmore⟩ := h k log
    -- fewer records are left than go on a page
    have hshort : (records.drop (k * size)).length < size := by
      have hmod := Nat.mod_lt records.length hsize
      have hdiv := Nat.div_add_mod' records.length size
      rw [List.length_drop, ← Nat.add_zero k, hleft]
      omega
    rw [List.take_of_length_le (Nat.le_of_lt hshort)] at hrows hmore
    rw [beq_eq_false_iff_ne.2 (Nat.ne_of_lt hshort)] at hmore
    refine ⟨[p], log', .last hp hmore, ?_, ?_, ?_⟩
    · rw [List.map_singleton, hpage]
      rfl
    · rw [List.map_singleton, hmore]
      rfl
    · rw [List.flatMap_singleton, hrows]
  | succ left ih =>
    obtain ⟨p, log', hp, hpage, hrows, hmore⟩ := h k log
    have hfull : ((records.drop (k * size)).take size).length = size := by
      have hnext : (k + 1) * size ≤ records.length := (Nat.le_div_iff_mul_le hsize).1 (by omega)
      rw [List.length_take, List.length_drop]
      rw [Nat.succ_mul] at hnext
      omega
    rw [hfull, beq_self_eq_true] at hmore
    obtain ⟨pages, log'', hbrowsed, hpages, hmores, hrest⟩ := ih (k := k + 1) (by omega) log'
    refine ⟨p :: pages, log'', .more hp hmore hbrowsed, ?_, ?_, ?_⟩
    · rw [List.map_cons, hpages, hpage]
      rfl
    · rw [List.map_cons, hmores, hmore]
      rfl
    · have hsplit : (records.drop (k * size)).take size ++ records.drop ((k + 1) * size) =
          records.drop (k * size) := by
        rw [Nat.succ_mul, ← List.drop_drop, List.take_append_drop]
      rw [List.flatMap_cons, hrows, hrest, Query.rows, Query.rows, ← List.map_append, hsplit, Query.rows]

/-! ### Numbers in a query string -/

namespace OData

/-- The number that a parameter of a query string gives. -/
def numberOf? (name request : String) : Option Nat :=
  ((readParameters request).bind (·.lookup name)).bind readNumber

theorem lookup_present_of_ne {name other : String} (h : name ≠ other) (v? : Option (List Char))
    (fields : List (String × Option (List Char))) :
    (present ((other, v?) :: fields)).lookup name = (present fields).lookup name := by
  cases v? with
  | none => rfl
  | some v => rw [present_some, List.lookup_cons, beq_eq_false_iff_ne.2 h]

namespace Options.Named

variable {o : Options}

theorem numberOf?_top (h : o.Named) : numberOf? "$top" o.render = some o.top := by
  have hlookup : (present o.fields).lookup "$top" = some (toString o.top).toList := by
    rw [fields, lookup_present_of_ne (by decide), lookup_present_of_ne (by decide), lookup_present_of_ne (by decide),
      lookup_present_of_ne (by decide), lookup_present_of_ne (by decide)]
    rfl
  rw [numberOf?, h.readParameters_render, Option.bind_some, hlookup, Option.bind_some, readNumber_toString]

theorem numberOf?_skip (h : o.Named) : numberOf? "$skip" o.render = o.skip := by
  have hlookup : (present o.fields).lookup "$skip" = o.skip.map fun n => (toString n).toList := by
    rw [fields, lookup_present_of_ne (by decide), lookup_present_of_ne (by decide), lookup_present_of_ne (by decide),
      lookup_present_of_ne (by decide), lookup_present_of_ne (by decide), lookup_present_of_ne (by decide)]
    cases o.skip <;> rfl
  rw [numberOf?, h.readParameters_render, Option.bind_some, hlookup]
  cases o.skip with
  | none => rfl
  | some n => exact readNumber_toString n

end Options.Named

end OData

/-! ### A Web API that gives out records -/

/-- A query string asks for what the query does, on some page. -/
def Query.AskedBy (q : Query) (request : String) : Prop :=
  ∃ top skip, OData.readOptions request = some { q.options 1 0 false with top := top, skip := skip }

/-- A Web API that issues tokens for an environment, knows the entity set of a query, and gives out the records of the
query as the numbers in a query string say, as far as the preference allows. Whatever was asked before does not
matter. -/
structure Remote.Serves (remote : Remote) (e : Environment) (q : Query) (entitySet : String) (records : List Json) :
    Prop where
  named : entitySet ≠ ""
  issued : ∀ log, ∃ token, remote.signIn log e = .ok token
  resolved : ∀ {log token}, remote.signIn log e = .ok token → ∀ later, ∃ payload found,
    remote.answer later
        ⟨e, token, "EntityDefinitions(LogicalName='" ++ q.primaryEntity ++ "')?$select=EntitySetName", none⟩ =
          .ok payload ∧
      Json.decodeJson Metadata.EntityRecord.decoder payload = .ok found ∧ found.entitySetName = some entitySet
  answered : ∀ {log token request top size}, remote.signIn log e = .ok token → q.AskedBy request →
    OData.numberOf? "$top" request = some top → top ≤ size → ∀ later, ∃ payload,
      remote.answer later ⟨e, token, entitySet ++ request, some (OData.preference size)⟩ = .ok payload ∧
        OData.records payload = (records.drop ((OData.numberOf? "$skip" request).getD 0)).take top

open Exchange (runFrom_ofExcept runFrom_bind_ok runFrom_mapError)

namespace Session

variable {s : Session} {log : Log} {payload : Json}

theorem runFrom_fetch {α : Type} {decoder : Json.Decoder α} {resource : String} {found : α}
    (hanswer : s.remote.answer log ⟨s.environment, s.token, resource, none⟩ = .ok payload)
    (hfound : Json.decodeJson decoder payload = .ok found) :
    (s.fetch decoder resource).runFrom log = (.ok found, log ++ [.call ⟨s.environment, s.token, resource, none⟩]) := by
  have hget : (s.get resource none).runFrom log =
      (.ok payload, log ++ [.call ⟨s.environment, s.token, resource, none⟩]) := Prod.ext hanswer rfl
  rw [fetch, runFrom_bind_ok hget, runFrom_ofExcept, hfound]
  rfl

theorem runFrom_entitySetName {name entitySet : String} {found : Metadata.EntityRecord}
    (hname : Text.isIdentifier name = true) (hset : entitySet ≠ "")
    (hanswer : s.remote.answer log ⟨s.environment, s.token,
      "EntityDefinitions(LogicalName='" ++ name ++ "')?$select=EntitySetName", none⟩ = .ok payload)
    (hfound : Json.decodeJson Metadata.EntityRecord.decoder payload = .ok found)
    (hnamed : found.entitySetName = some entitySet) :
    (s.entitySetName name).runFrom log = (.ok entitySet,
      log ++ [.call ⟨s.environment, s.token,
        "EntityDefinitions(LogicalName='" ++ name ++ "')?$select=EntitySetName", none⟩]) := by
  have hchecked : (checkLogicalName name).runFrom log = (.ok (), log) := by
    rw [checkLogicalName, runFrom_ofExcept, checkName_eq_ok_iff.2 hname]
    rfl
  have hkept : found.entitySetName.filter (· != "") = some entitySet := by
    rw [hnamed, Option.filter_some, if_pos (bne_iff_ne.2 hset)]
  rw [entitySetName, definitionPath_select, runFrom_bind_ok hchecked, runFrom_bind_ok (runFrom_fetch hanswer hfound),
    hkept]
  rfl

theorem runFrom_data {q : Query} {page pageSize : Nat} {countOnly : Bool} {entitySet : String}
    (hanswer : s.remote.answer log ⟨s.environment, s.token, entitySet ++ q.compile page pageSize countOnly,
      some (OData.preference pageSize)⟩ = .ok payload) :
    (s.data q page pageSize countOnly entitySet).runFrom log = (.ok payload, log ++ [.call ⟨s.environment, s.token,
      entitySet ++ q.compile page pageSize countOnly, some (OData.preference pageSize)⟩]) := by
  have hget : (s.get (entitySet ++ q.compile page pageSize countOnly) (some (OData.preference pageSize))).runFrom log =
      (.ok payload, log ++ [.call ⟨s.environment, s.token, entitySet ++ q.compile page pageSize countOnly,
        some (OData.preference pageSize)⟩]) := Prod.ext hanswer rfl
  rw [data, runFrom_mapError, hget]
  rfl

end Session

/-! ### Pages of a query -/

namespace Query

variable {remote : Remote} {environments : EnvironmentStore} {userId entitySet : String} {q : Query} {e : Environment}
  {records : List Json} {size maxSize : Nat}

theorem validatePage_eq_ok {page : Nat} (hpage : page ≠ 0) (hsize : 1 ≤ size) (hmax : size ≤ maxSize) :
    validatePage page size maxSize = .ok () := by
  rw [validatePage, Except.bind_eq_ok_iff, ensure_eq_ok_iff, ensure_eq_ok_iff]
  simp only [bne_iff_ne, Bool.and_eq_true, decide_eq_true_eq]
  exact ⟨hpage, Nat.one_le_iff_ne_zero.1 hsize, hmax⟩

theorem outcome_execute (hq : q.validate = .ok ()) (howned : environments.owned userId q.environmentId = .ok e)
    (hserves : remote.Serves e q entitySet records) {page : Nat} (hpage : page ≠ 0) (hsize : 1 ≤ size)
    (hmax : size ≤ maxSize) (countOnly : Bool) (log : Log) :
    ∃ payload,
      ((execute remote environments userId q page size countOnly maxSize).runFrom log).1 =
        .ok (q.resultPage page size payload) ∧
      OData.records payload = (records.drop ((q.options page size countOnly).skip.getD 0)).take
        (q.options page size countOnly).top := by
  have hvalid := validate_eq_ok_iff.1 hq
  have hnamed := hvalid.options page size countOnly
  obtain ⟨token, htoken⟩ := hserves.issued log
  obtain ⟨definition, found, hdefinition, hfound, hset⟩ := hserves.resolved htoken (log ++ [.signIn e])
  have htop : (q.options page size countOnly).top ≤ size := by
    cases countOnly with
    | false => exact Nat.le_refl size
    | true => exact Nat.zero_le size
  have hasked : q.AskedBy (q.compile page size countOnly) := ⟨_, _, hnamed.readOptions_render⟩
  have hchecked : (Exchange.ofExcept ((Except.ok () : Except Violation Unit).mapError Error.validation)).runFrom log =
      (.ok (), log) := rfl
  have hconnected : (Session.connect remote environments userId q.environmentId).runFrom log =
      (.ok ⟨remote, e, token⟩, log ++ [.signIn e]) := by
    rw [Session.runFrom_connect, howned]
    simp only [htoken]
    rfl
  obtain ⟨later, hresolved⟩ : ∃ later,
      ((Session.mk remote e token).entitySetName q.primaryEntity).runFrom (log ++ [.signIn e]) =
        (.ok entitySet, later) :=
    ⟨_, Session.runFrom_entitySetName hvalid.primaryEntity hserves.named hdefinition hfound hset⟩
  obtain ⟨payload, hpayload, hrecords⟩ := hserves.answered htoken hasked hnamed.numberOf?_top htop later
  have hdata := Session.runFrom_data (s := ⟨remote, e, token⟩) hpayload
  rw [compile, hnamed.numberOf?_skip] at hrecords
  refine ⟨payload, ?_, hrecords⟩
  rw [execute, hq, validatePage_eq_ok hpage hsize hmax, runFrom_bind_ok hchecked, runFrom_bind_ok hchecked,
    runFrom_bind_ok hconnected, runFrom_bind_ok hresolved, runFrom_bind_ok hdata]
  rfl

theorem shares_execute (hq : q.validate = .ok ()) (howned : environments.owned userId q.environmentId = .ok e)
    (hserves : remote.Serves e q entitySet records) (hsize : 1 ≤ size) (hmax : size ≤ maxSize) :
    Shares (fun page => execute remote environments userId q page size false maxSize) q records size := by
  intro k log
  obtain ⟨payload, houtcome, hrecords⟩ :=
    outcome_execute hq howned hserves (Nat.succ_ne_zero k) hsize hmax false log
  -- nothing is skipped on the first page, where the option is left out
  have hskip : (q.options (k + 1) size false).skip.getD 0 = k * size := by
    cases k with
    | zero => exact (Nat.zero_mul size).symm
    | succ k => rfl
  rw [hskip] at hrecords
  refine ⟨q.resultPage (k + 1) size payload, _, Prod.ext houtcome rfl, rfl, congrArg q.rows hrecords, ?_⟩
  exact congrArg (·.length == size) hrecords

theorem getElem?_rows (q : Query) {k : Nat} {record : Json} (h : records[k]? = some record) :
    (q.rows records)[k]? = some (q.row record) := by
  rw [rows, List.getElem?_map, h, Option.map_some]

/-- Browsing a query page by page gives the row of each record once and in order: it stops, every page but the last one
says there are more, and a count alone never gives rows. -/
theorem browse_eq_rows (remote : Remote) (environments : EnvironmentStore) (userId entitySet : String) (q : Query)
    (e : Environment) (records : List Json) (size maxSize : Nat) (hq : q.validate = .ok ())
    (howned : environments.owned userId q.environmentId = .ok e)
    (hserves : remote.Serves e q entitySet records) (hsize : 1 ≤ size) (hmax : size ≤ maxSize)
    (log : Log) :
    (∃ pages last,
      (∀ ps l, Browsed (fun page => execute remote environments userId q page size false maxSize) 1 log ps l ↔
        ps = pages ∧ l = last) ∧
      pages.map (·.page) = List.range' 1 (records.length / size + 1) ∧
      pages.map (·.hasMore) = List.replicate (records.length / size) true ++ [false] ∧
      pages.flatMap (·.rows) = q.rows records ∧ (pages.flatMap (·.rows)).length = records.length ∧
      ∀ (k : Nat) (record : Json), records[k]? = some record →
        (pages.flatMap (·.rows))[k]? = some (q.row record)) ∧
    ∀ page, page ≠ 0 → ∃ p,
      ((execute remote environments userId q page size true maxSize).runFrom log).1 = .ok p ∧
        p.rows = [] ∧ p.hasMore = false := by
  constructor
  · obtain ⟨pages, last, hbrowsed, hpages, hmores, hrows⟩ :=
      (shares_execute hq howned hserves hsize hmax).exists_browsed hsize (Nat.zero_add _) log
    rw [Nat.zero_mul, List.drop_zero] at hrows
    refine ⟨pages, last, fun ps l => ⟨hbrowsed.unique, ?_⟩, hpages, hmores, hrows, ?_, fun k record hk => ?_⟩
    · rintro ⟨rfl, rfl⟩
      exact hbrowsed
    · rw [hrows, rows, List.length_map]
    · rw [hrows, getElem?_rows q hk]
  · intro page hpage
    obtain ⟨payload, houtcome, hrecords⟩ := outcome_execute hq howned hserves hpage hsize hmax true log
    have hnone : OData.records payload = [] := hrecords.trans List.take_zero
    refine ⟨q.resultPage page size payload, houtcome, ?_, ?_⟩
    · rw [resultPage, hnone]
      rfl
    · rw [resultPage, hnone]
      exact beq_eq_false_iff_ne.2 (Nat.ne_of_lt hsize)

/-! ### A sample -/

def sampleEnvironment : Environment := ⟨"dev", "ann", "Development", "", "", "", ""⟩

def sampleRecords : List Json := ["A", "B", "C", "D"].map fun name => .ofMembers [("name", .text name)]

/-- A Web API with the sample records, which reads `$top` and `$skip` between the `&` of a query string. -/
def sampleRemote : Remote where
  signIn _ _ := .ok ⟨"secret", none⟩
  answer _ c :=
    match c.prefer, OData.behind? "opportunities".toList c.resource.toList with
    | none, _ =>
      .ok (.ofMembers [("LogicalName", .text "opportunity"), ("EntitySetName", .text "opportunities")])
    | some _, some request =>
      let skip := (OData.numberOf? "$skip" (String.ofList request)).getD 0
      let top := (OData.numberOf? "$top" (String.ofList request)).getD sampleRecords.length
      .ok (.ofMembers [("value", .array ((sampleRecords.drop skip).take top))])
    | some _, none => .error (.request 404 "" none)

theorem serves_sample : sampleRemote.Serves sampleEnvironment sample "opportunities" sampleRecords where
  named := by decide
  issued _ := ⟨_, rfl⟩
  resolved _ _ := ⟨_, _, rfl, rfl, rfl⟩
  answered {log token request top size} _ _ htop _ later := by
    have hbehind : OData.behind? "opportunities".toList ("opportunities" ++ request).toList = some request.toList := by
      rw [String.toList_append, OData.behind?_append]
    refine ⟨.ofMembers [("value", .array ((sampleRecords.drop ((OData.numberOf? "$skip" request).getD 0)).take top))],
      ?_, rfl⟩
    simp only [sampleRemote, hbehind, String.ofList_toList, htop, Option.getD_some]

/-- Four records on pages of two: the third page is empty and the last. The names stand in the cells in order. -/
theorem browse_eq_rows_sample :
    sample.validate = .ok () ∧ (EnvironmentStore.mk [sampleEnvironment]).owned "ann" sample.environmentId =
      .ok sampleEnvironment ∧
    sampleRemote.Serves sampleEnvironment sample "opportunities" sampleRecords ∧
    ∃ pages last,
      (∀ ps l, Browsed (fun page => execute sampleRemote ⟨[sampleEnvironment]⟩ "ann" sample page 2 false 5000) 1 [] ps l ↔
        ps = pages ∧ l = last) ∧
      pages.map (·.page) = [1, 2, 3] ∧ pages.map (·.hasMore) = [true, true, false] ∧
      pages.flatMap (·.rows) = sample.rows sampleRecords ∧
      (pages.flatMap (·.rows)).map (Members.get? · "main.name") =
        [some (.text "A"), some (.text "B"), some (.text "C"), some (.text "D")] := by
  have howned : (EnvironmentStore.mk [sampleEnvironment]).owned "ann" sample.environmentId = .ok sampleEnvironment := rfl
  obtain ⟨⟨pages, last, hbrowsed, hpages, hmores, hrows, -, -⟩, -⟩ := browse_eq_rows sampleRemote ⟨[sampleEnvironment]⟩
    "ann" "opportunities" sample sampleEnvironment sampleRecords 2 5000 rfl howned serves_sample (by decide) (by decide)
    []
  exact ⟨rfl, howned, serves_sample, pages, last, hbrowsed, hpages, hmores, hrows, by rw [hrows]; rfl⟩

end Query

end QueryDesk
