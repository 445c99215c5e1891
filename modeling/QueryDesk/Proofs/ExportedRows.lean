import QueryDesk.Proofs.JoinedCells
import QueryDesk.Proofs.Paging
import QueryDesk.Proofs.SheetText
import QueryDesk.Proofs.Stages
import QueryDesk.Web.Service

/-!
# The rows of an export

An export asks for its rows once, as many as its limit allows, and writes them down. If the Web API gives out the first
records of a list as `$top` says (`Remote.GivesFirst`), a reader of the worksheet finds the titles of the distinct fields
and below them the first records of the list, each value under the title of its field (`export_has_first_rows`).
-/

namespace QueryDesk

open Workbook (Part Table readSheet)

/-- How many rows an export has at most: the cap of the query if it is positive and below the configured one. -/
def cappedRows (maxRows : Nat) : Option Nat → Nat
  | some top => if 0 < top ∧ top < maxRows then top else maxRows
  | none => maxRows

theorem ExportOptions.rowLimit_eq (o : ExportOptions) (q : Query) : o.rowLimit q = cappedRows o.maxRows q.top := by
  rw [rowLimit]
  cases q.top with
  | none => rfl
  | some top =>
    simp only [cappedRows]
    split <;> split <;> omega

theorem cappedRows_pos {maxRows : Nat} (h : 1 ≤ maxRows) (top : Option Nat) : 1 ≤ cappedRows maxRows top := by
  cases top with
  | none => exact h
  | some top =>
    rw [cappedRows]
    split <;> omega

theorem cappedRows_zero (top : Option Nat) : cappedRows 0 top = 0 := by
  cases top with
  | none => rfl
  | some top => exact if_neg fun h => Nat.not_lt_zero top h.2

/-! ### A Web API that gives out the first records -/

/-- A Web API that, when nothing but `log` has been asked, issues a token for an environment, finds the entity set of a
query, and answers a request for what the query asks, unless it skips any, with the first records of a list. How many is
read from the request. -/
structure Remote.GivesFirst (remote : Remote) (e : Environment) (q : Query) (entitySet : String) (records : List Json)
    (log : Log) : Prop where
  issued : ∃ token, remote.signIn log e = .ok token
  resolved : ∀ {token}, remote.signIn log e = .ok token →
    LookedUp q.primaryEntity (remote.answer (log ++ [.signIn e]) (lookupCall e token q.primaryEntity)) (.ok entitySet)
  answered : ∀ {token request top size}, remote.signIn log e = .ok token → q.AskedBy request →
    OData.numberOf? "$top" request = some top → OData.numberOf? "$skip" request = none → top ≤ size → ∃ payload,
      remote.answer (log ++ [.signIn e, .call (lookupCall e token q.primaryEntity)])
          ⟨e, token, entitySet ++ request, some (OData.preference size)⟩ = .ok payload ∧
        OData.records payload = records.take top

variable {remote : Remote} {e : Environment} {q : Query} {entitySet : String} {records : List Json}

/-- A Web API that gives out any records gives out the first ones. -/
theorem Remote.Serves.givesFirst (h : remote.Serves e q entitySet records) (log : Log) :
    remote.GivesFirst e q entitySet records log where
  issued := h.issued log
  resolved htoken := by
    obtain ⟨payload, found, hanswer, hfound, hname⟩ := h.resolved htoken (log ++ [.signIn e])
    rw [lookupCall, hanswer]
    exact .named hfound hname h.named
  answered htoken hasked htop hskip hsize := by
    obtain ⟨payload, hanswer, hrecords⟩ := h.answered htoken hasked htop hsize _
    rw [hskip, Option.getD_none, List.drop_zero] at hrecords
    exact ⟨payload, hanswer, hrecords⟩

/-! ### The table of an export -/

/-- The titles of the distinct fields and the value of each in each record. -/
def Query.table (q : Query) (records : List Json) : Table where
  titles := q.distinctFields.map fun f => f.displayName.getD f.fieldName
  values := records.map fun record => q.distinctFields.map (q.cell record)

/-- The columns find what the rows hold under the keys of the fields. -/
theorem Query.Valid.table_resultPage (h : q.Valid) (page pageSize : Nat) (payload : Json) :
    Table.ofPage (q.resultPage page pageSize payload) = q.table (OData.records payload) := by
  have hvalues (record : Json) :
      (q.distinctFields.map Field.column).map (fun c => ((q.row record).get? c.key).getD .null) =
        q.distinctFields.map (q.cell record) := by
    rw [List.map_map]
    refine List.map_congr_left fun f hf => ?_
    have hget : (q.row record).get? f.column.key = some (q.cell record f) := h.get?_row record hf
    exact congrArg (·.getD .null) hget
  refine congrArg₂ Table.mk List.map_map ?_
  exact List.map_map.trans (List.map_congr_left fun record _ => hvalues record)

theorem Workbook.find?_parts (page : ResultPage) (sheetName : String) :
    (parts page sheetName).find? (·.name == "xl/worksheets/sheet1.xml") =
      some ⟨"xl/worksheets/sheet1.xml", Markup.document (sheetMarkup page)⟩ := by
  simp [parts, contentTypes, packageRelationships, workbookRelationships, styles]

/-! ### Exports -/

/-- The first page of a query, as large as may be. -/
theorem Remote.GivesFirst.runFrom_execute {environments : EnvironmentStore} {userId : String} {log : Log} {limit : Nat}
    (h : remote.GivesFirst e q entitySet records log) (hq : q.validate = .ok ())
    (howned : environments.owned userId q.environmentId = .ok e) (hlimit : 1 ≤ limit) :
    ∃ token request payload,
      (execute remote environments userId q 1 limit false limit).runFrom log =
        (.ok (q.resultPage 1 limit payload), log ++ [.signIn e, .call (lookupCall e token q.primaryEntity),
          .call ⟨e, token, entitySet ++ request, some (OData.preference limit)⟩]) ∧
      OData.numberOf? "$top" request = some limit ∧ OData.numberOf? "$skip" request = none ∧
      OData.records payload = records.take limit := by
  have hnamed := (Query.validate_eq_ok_iff.1 hq).options 1 limit false
  have htop : OData.numberOf? "$top" (q.compile 1 limit false) = some limit := hnamed.numberOf?_top
  have hskip : OData.numberOf? "$skip" (q.compile 1 limit false) = none := hnamed.numberOf?_skip
  have hasked : q.AskedBy (q.compile 1 limit false) := ⟨_, _, hnamed.readOptions_render⟩
  obtain ⟨token, htoken⟩ := h.issued
  obtain ⟨payload, hanswer, hrecords⟩ := h.answered htoken hasked htop hskip (Nat.le_refl limit)
  -- the limit is also the largest page that is allowed
  have hpage := Query.validatePage_eq_ok Nat.one_ne_zero hlimit (Nat.le_refl limit)
  have hadmitted : Admitted remote environments userId q 1 limit limit log e token := ⟨hq, hpage, howned, htoken⟩
  exact ⟨token, _, payload, (Executed.answered hadmitted (h.resolved htoken) hanswer).runFrom, htop, hskip, hrecords⟩

/-- A page without rows is refused before anything is asked, if the query is not. -/
theorem runFrom_execute_of_zero (remote : Remote) (environments : EnvironmentStore) (userId : String) (q : Query)
    (log : Log) :
    ∃ v, (execute remote environments userId q 1 0 false 0).runFrom log = (.error (.validation v), log) := by
  have hrefused {v : Violation}
      (h : Executed remote environments userId q 1 0 false 0 log (.error (.validation v)) []) :
      (execute remote environments userId q 1 0 false 0).runFrom log = (.error (.validation v), log) := by
    rw [h.runFrom, List.append_nil]
  rcases hquery : q.validate with v | ⟨⟩
  · exact ⟨v, hrefused (.invalid hquery)⟩
  · exact ⟨_, hrefused (.badPage hquery rfl)⟩

namespace Web.Service

/-- An export packs the page it gets. -/
theorem perform_export {s : Service} {user : String} {q : Query} {state : ServiceState} {r : Except Error ResultPage}
    {log : Log} (hrun : (QueryDesk.execute s.remote s.environments user q 1 (s.exporting.rowLimit q) false
      (s.exporting.rowLimit q)).runFrom state.log = (r, log)) (fresh : Uuid) (now : Time) :
    s.perform user fresh now (.export q) state =
      (r.map fun page => .workbook q.exportName (Workbook.parts page s.exporting.sheetName),
        { state with log := log }) := by
  have hpacked : (s.exporting.workbook s.remote s.environments user q).runFrom state.log =
      (r.map fun page => Workbook.parts page s.exporting.sheetName, log) := by
    rw [ExportOptions.workbook, bind_pure_comp, Exchange.runFrom_map, hrun]
    rfl
  rw [perform, ServiceState.exchange, Exchange.runFrom_map, hpacked]
  cases r <;> rfl

theorem perform_export_of_maxRows_zero {s : Service} (h : s.exporting.maxRows = 0) (user : String) (fresh : Uuid)
    (now : Time) (q : Query) (state : ServiceState) :
    ∃ v, s.perform user fresh now (.export q) state = (.error (.validation v), state) := by
  obtain ⟨v, hrun⟩ := runFrom_execute_of_zero s.remote s.environments user q state.log
  have hlimit : s.exporting.rowLimit q = 0 := by
    rw [ExportOptions.rowLimit_eq, h, cappedRows_zero]
  rw [← hlimit] at hrun
  exact ⟨v, perform_export hrun fresh now⟩

/-- An export, whatever is configured for pages, makes one data request, which skips nothing, and its worksheet has the
titles of the distinct fields and below them the first records, each value where it belongs. With no rows allowed nothing
is asked, and the export is refused. -/
theorem export_has_first_rows (s : Service) (user : String) (fresh : Uuid) (now : Time) (q : Query) (e : Environment)
    (entitySet : String) (records : List Json) (state : ServiceState) (hrows : 1 ≤ s.exporting.maxRows)
    (hq : q.validate = .ok ()) (howned : s.environments.owned user q.environmentId = .ok e)
    (hgives : s.remote.GivesFirst e q entitySet records state.log) :
    (∃ token request parts text rows,
      (∀ paging, { s with paging := paging }.perform user fresh now (.export q) state =
        (.ok (.workbook q.exportName parts),
          { state with log := state.log ++ [.signIn e, .call (lookupCall e token q.primaryEntity),
            .call ⟨e, token, entitySet ++ request,
              some (OData.preference (cappedRows s.exporting.maxRows q.top))⟩] })) ∧
      OData.numberOf? "$top" request = some (cappedRows s.exporting.maxRows q.top) ∧
      OData.numberOf? "$skip" request = none ∧
      parts.find? (·.name == "xl/worksheets/sheet1.xml") = some ⟨"xl/worksheets/sheet1.xml", text⟩ ∧
      readSheet text = some rows ∧
      rows.length = min records.length (cappedRows s.exporting.maxRows q.top) + 1 ∧
      (q.table (records.take (cappedRows s.exporting.maxRows q.top))).Written rows) ∧
    ∀ (closed : Service) (user : String) (fresh : Uuid) (now : Time) (q : Query) (state : ServiceState),
      closed.exporting.maxRows = 0 →
        ∃ v, closed.perform user fresh now (.export q) state = (.error (.validation v), state) := by
  refine ⟨?_, fun closed user fresh now q state h => perform_export_of_maxRows_zero h user fresh now q state⟩
  have hvalid := Query.validate_eq_ok_iff.1 hq
  obtain ⟨token, request, payload, hrun, htop, hskip, hrecords⟩ :=
    hgives.runFrom_execute hq howned (cappedRows_pos hrows q.top)
  have hlimit := s.exporting.rowLimit_eq q
  generalize cappedRows s.exporting.maxRows q.top = limit at *
  have htable := hvalid.table_resultPage 1 limit payload
  rw [hrecords] at htable
  have hwritten := Workbook.written_sheetRows (q.resultPage 1 limit payload)
  rw [htable] at hwritten
  refine ⟨token, request, _, _, _, fun paging => ?_, htop, hskip, Workbook.find?_parts _ s.exporting.sheetName,
    Workbook.readSheet_document _, ?_, hwritten⟩
  · rw [← hlimit] at hrun ⊢
    exact perform_export hrun fresh now
  · have hvalues : (q.table (records.take limit)).values.length = min records.length limit := by
      rw [Query.table, List.length_map, List.length_take, Nat.min_comm]
    rw [hwritten.length_rows, hvalues]

/-! ### A sample -/

/-- A service that exports three rows at most. -/
def exportingService : Service where
  environments := ⟨[Query.sampleEnvironment]⟩
  remote := Query.sampleRemote
  paging := {}
  exporting := ⟨3, "Opportunities"⟩

/-- The first three of four records. -/
theorem export_has_first_rows_sample :
    1 ≤ exportingService.exporting.maxRows ∧ Query.sample.validate = .ok () ∧
    exportingService.environments.owned "ann" Query.sample.environmentId = .ok Query.sampleEnvironment ∧
    exportingService.remote.GivesFirst Query.sampleEnvironment Query.sample "opportunities" Query.sampleRecords [] ∧
    ∃ parts log text rows,
      exportingService.perform "ann" .nil ⟨0⟩ (.export Query.sample) .start =
        (.ok (.workbook "opportunity-export.xlsx" parts), ⟨.empty, log⟩) ∧
      parts.find? (·.name == "xl/worksheets/sheet1.xml") = some ⟨"xl/worksheets/sheet1.xml", text⟩ ∧
      readSheet text = some rows ∧ rows.length = 4 ∧
      (Query.sample.table (Query.sampleRecords.take 3)).Written rows := by
  have hgives := Query.serves_sample.givesFirst []
  obtain ⟨token, request, parts, text, rows, hperform, -, -, hpart, hread, hlength, hwritten⟩ :=
    (export_has_first_rows exportingService "ann" .nil ⟨0⟩ Query.sample Query.sampleEnvironment "opportunities"
      Query.sampleRecords .start (by decide) rfl rfl hgives).1
  exact ⟨by decide, rfl, rfl, hgives, parts, _, text, rows, hperform {}, hpart, hread, hlength, hwritten⟩

end Web.Service

end QueryDesk
