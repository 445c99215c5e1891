import QueryDesk.Proofs.Exchanges
import QueryDesk.Proofs.Validity

/-!
# Stages of a run

A query is run in stages: it is checked, the page is checked, its environment is given out, a token is issued, the entity
set is looked up, the data are requested. `Executed` says for every stage how a run ends that fails there first, and what
was asked by then; `execute_ends_at_first_fault` says that every run is one of these. There are at most two calls, and
what a stage before the data request says of its failure is what the run says.
-/

namespace QueryDesk

/-! ### Calls -/

def Event.call? : Event → Option Call
  | .signIn _ => none
  | .call c => some c

/-- The calls of the Web API among the events. -/
def webCalls (events : List Event) : List Call := events.filterMap Event.call?

/-- Asks for the entity set of an entity. -/
def lookupCall (e : Environment) (t : Token) (name : String) : Call :=
  ⟨e, t, "EntityDefinitions(LogicalName='" ++ name ++ "')?$select=EntitySetName", none⟩

/-- Asks for a page of a query. -/
def dataCall (e : Environment) (t : Token) (q : Query) (page pageSize : Nat) (countOnly : Bool)
    (entitySet : String) : Call :=
  ⟨e, t, entitySet ++ q.compile page pageSize countOnly, some (OData.preference pageSize)⟩

/-! ### The lookup -/

/-- What comes of the answer to a lookup. -/
inductive LookedUp (name : String) : Except Error Json → Except Error String → Prop
  | refused (f : Error) : LookedUp name (.error f) (.error f)
  | unreadable {payload : Json} {f : Json.Error}
      (h : Json.decodeJson Metadata.EntityRecord.decoder payload = .error f) :
      LookedUp name (.ok payload) (.error (.json f))
  | unnamed {payload : Json} {found : Metadata.EntityRecord}
      (hfound : Json.decodeJson Metadata.EntityRecord.decoder payload = .ok found)
      (hname : found.entitySetName = none ∨ found.entitySetName = some "") :
      LookedUp name (.ok payload) (.error (.notFound (.entitySet name)))
  | named {payload : Json} {found : Metadata.EntityRecord} {entitySet : String}
      (hfound : Json.decodeJson Metadata.EntityRecord.decoder payload = .ok found)
      (hname : found.entitySetName = some entitySet) (hne : entitySet ≠ "") :
      LookedUp name (.ok payload) (.ok entitySet)

theorem exists_lookedUp (name : String) (answer : Except Error Json) : ∃ r, LookedUp name answer r := by
  rcases answer with f | payload
  · exact ⟨_, .refused f⟩
  rcases hfound : Json.decodeJson Metadata.EntityRecord.decoder payload with f | found
  · exact ⟨_, .unreadable hfound⟩
  rcases hname : found.entitySetName with - | entitySet
  · exact ⟨_, .unnamed hfound (.inl hname)⟩
  by_cases hne : entitySet = ""
  · subst hne
    exact ⟨_, .unnamed hfound (.inr hname)⟩
  · exact ⟨_, .named hfound hname hne⟩

open Exchange (runFrom_ofExcept runFrom_bind runFrom_bind_ok runFrom_mapError)

/-- Names that passed the check of the query pass that of the session. -/
theorem Session.runFrom_checkLogicalName {name : String} (h : Text.isIdentifier name = true) (log : Log) :
    (checkLogicalName name).runFrom log = (.ok (), log) := by
  rw [checkLogicalName, runFrom_ofExcept, checkName_eq_ok_iff.2 h]
  rfl

theorem LookedUp.runFrom {s : Session} {name : String} {log : Log} {r : Except Error String}
    (hname : Text.isIdentifier name = true)
    (h : LookedUp name (s.remote.answer log (lookupCall s.environment s.token name)) r) :
    (s.entitySetName name).runFrom log = (r, log ++ [.call (lookupCall s.environment s.token name)]) := by
  have hget : (s.get ("EntityDefinitions(LogicalName='" ++ name ++ "')?$select=EntitySetName") none).runFrom log =
      (s.remote.answer log (lookupCall s.environment s.token name),
        log ++ [.call (lookupCall s.environment s.token name)]) := rfl
  rw [Session.entitySetName, runFrom_bind_ok (Session.runFrom_checkLogicalName hname log), runFrom_bind, Session.fetch,
    Session.definitionPath_select, runFrom_bind, hget]
  have hdecoded {payload : Json} {found : Metadata.EntityRecord}
      (hfound : Json.decodeJson Metadata.EntityRecord.decoder payload = .ok found) :
      (Json.decodeJson Metadata.EntityRecord.decoder payload).mapError Error.json = .ok found := by
    rw [hfound]
    rfl
  generalize s.remote.answer log (lookupCall s.environment s.token name) = answer at h
  cases h with
  | refused f => rfl
  | unreadable h =>
    simp only [runFrom_ofExcept, h]
    rfl
  | unnamed hfound hname =>
    simp only [runFrom_ofExcept, hdecoded hfound]
    rcases hname with hname | hname <;> rw [hname] <;> rfl
  | named hfound hname hne =>
    simp only [runFrom_ofExcept, hdecoded hfound, hname, Option.filter_some, if_pos (bne_iff_ne.2 hne)]
    rfl

/-! ### Runs -/

section
variable (remote : Remote) (environments : EnvironmentStore) (userId : String) (q : Query) (page pageSize : Nat)
  (countOnly : Bool) (maxPageSize : Nat) (log : Log)

/-- The query and the page are as they must be, and there is a token for the environment. -/
structure Admitted (e : Environment) (t : Token) : Prop where
  query : q.validate = .ok ()
  page : validatePage page pageSize maxPageSize = .ok ()
  owned : environments.owned userId q.environmentId = .ok e
  issued : remote.signIn log e = .ok t

/-- How a run of a query ends and what is asked in it. The first stage that fails ends the run with its own failure;
only a refusal of the data request that names no query has the query attached. -/
inductive Executed : Except Error ResultPage → List Event → Prop
  | invalid {v : Violation} (h : q.validate = .error v) : Executed (.error (.validation v)) []
  | badPage {v : Violation} (hquery : q.validate = .ok ()) (h : validatePage page pageSize maxPageSize = .error v) :
      Executed (.error (.validation v)) []
  | notOwned {f : Error} (hquery : q.validate = .ok ()) (hpage : validatePage page pageSize maxPageSize = .ok ())
      (h : environments.owned userId q.environmentId = .error f) : Executed (.error f) []
  | noToken {e : Environment} {f : Error} (hquery : q.validate = .ok ())
      (hpage : validatePage page pageSize maxPageSize = .ok ())
      (howned : environments.owned userId q.environmentId = .ok e) (h : remote.signIn log e = .error f) :
      Executed (.error f) [.signIn e]
  | noEntitySet {e : Environment} {t : Token} {f : Error}
      (hadmitted : Admitted remote environments userId q page pageSize maxPageSize log e t)
      (h : LookedUp q.primaryEntity (remote.answer (log ++ [.signIn e]) (lookupCall e t q.primaryEntity)) (.error f)) :
      Executed (.error f) [.signIn e, .call (lookupCall e t q.primaryEntity)]
  | refused {e : Environment} {t : Token} {entitySet : String} {f : Error}
      (hadmitted : Admitted remote environments userId q page pageSize maxPageSize log e t)
      (hlookup : LookedUp q.primaryEntity (remote.answer (log ++ [.signIn e]) (lookupCall e t q.primaryEntity))
        (.ok entitySet))
      (h : remote.answer (log ++ [.signIn e, .call (lookupCall e t q.primaryEntity)])
        (dataCall e t q page pageSize countOnly entitySet) = .error f)
      (hf : ∀ status m, f ≠ .request status m none) :
      Executed (.error f) [.signIn e, .call (lookupCall e t q.primaryEntity),
        .call (dataCall e t q page pageSize countOnly entitySet)]
  | refusedBare {e : Environment} {t : Token} {entitySet : String} {status : Nat} {m : String}
      (hadmitted : Admitted remote environments userId q page pageSize maxPageSize log e t)
      (hlookup : LookedUp q.primaryEntity (remote.answer (log ++ [.signIn e]) (lookupCall e t q.primaryEntity))
        (.ok entitySet))
      (h : remote.answer (log ++ [.signIn e, .call (lookupCall e t q.primaryEntity)])
        (dataCall e t q page pageSize countOnly entitySet) = .error (.request status m none)) :
      Executed (.error (.request status m (some (q.compile page pageSize countOnly))))
        [.signIn e, .call (lookupCall e t q.primaryEntity), .call (dataCall e t q page pageSize countOnly entitySet)]
  | answered {e : Environment} {t : Token} {entitySet : String} {payload : Json}
      (hadmitted : Admitted remote environments userId q page pageSize maxPageSize log e t)
      (hlookup : LookedUp q.primaryEntity (remote.answer (log ++ [.signIn e]) (lookupCall e t q.primaryEntity))
        (.ok entitySet))
      (h : remote.answer (log ++ [.signIn e, .call (lookupCall e t q.primaryEntity)])
        (dataCall e t q page pageSize countOnly entitySet) = .ok payload) :
      Executed (.ok (q.resultPage page pageSize payload))
        [.signIn e, .call (lookupCall e t q.primaryEntity), .call (dataCall e t q page pageSize countOnly entitySet)]

end

section
variable {remote : Remote} {environments : EnvironmentStore} {userId : String} {q : Query} {page pageSize : Nat}
  {countOnly : Bool} {maxPageSize : Nat} {log : Log} {e : Environment} {t : Token} {r : Except Error ResultPage}
  {events : List Event}

theorem Query.isIdentifier_primaryEntity (h : q.validate = .ok ()) : Text.isIdentifier q.primaryEntity = true :=
  (validate_eq_ok_iff.1 h).primaryEntity

theorem Admitted.unique {e' : Environment} {t' : Token}
    (h : Admitted remote environments userId q page pageSize maxPageSize log e t)
    (h' : Admitted remote environments userId q page pageSize maxPageSize log e' t') : e' = e ∧ t' = t := by
  have he : e' = e := Except.ok.inj (h'.owned.symm.trans h.owned)
  subst he
  exact ⟨rfl, Except.ok.inj (h'.issued.symm.trans h.issued)⟩

theorem runFrom_checked (log : Log) :
    (Exchange.ofExcept ((Except.ok () : Except Violation Unit).mapError Error.validation)).runFrom log =
      (.ok (), log) := rfl

/-- Checks that are passed leave no trace. -/
theorem runFrom_execute_of_checked (hquery : q.validate = .ok ())
    (hpage : validatePage page pageSize maxPageSize = .ok ()) :
    (execute remote environments userId q page pageSize countOnly maxPageSize).runFrom log =
      (do
        let s ← Session.connect remote environments userId q.environmentId
        let entitySet ← s.entitySetName q.primaryEntity
        let payload ← s.data q page pageSize countOnly entitySet
        return q.resultPage page pageSize payload : Exchange ResultPage).runFrom log := by
  rw [execute, hquery, hpage, runFrom_bind_ok (runFrom_checked log), runFrom_bind_ok (runFrom_checked log)]

/-- Up to the token nothing is called. -/
theorem Admitted.runFrom_execute (h : Admitted remote environments userId q page pageSize maxPageSize log e t) :
    (execute remote environments userId q page pageSize countOnly maxPageSize).runFrom log =
      (do
        let entitySet ← (Session.mk remote e t).entitySetName q.primaryEntity
        let payload ← (Session.mk remote e t).data q page pageSize countOnly entitySet
        return q.resultPage page pageSize payload : Exchange ResultPage).runFrom (log ++ [.signIn e]) := by
  have hconnected : (Session.connect remote environments userId q.environmentId).runFrom log =
      (.ok ⟨remote, e, t⟩, log ++ [.signIn e]) := by
    rw [Session.runFrom_connect, h.owned]
    simp only [h.issued]
    rfl
  rw [runFrom_execute_of_checked h.query h.page, runFrom_bind_ok hconnected]

theorem Session.runFrom_data_eq (s : Session) (q : Query) (page pageSize : Nat) (countOnly : Bool)
    (entitySet : String) (log : Log) :
    (s.data q page pageSize countOnly entitySet).runFrom log =
      ((s.remote.answer log (dataCall s.environment s.token q page pageSize countOnly entitySet)).mapError
          (Error.withQuery (q.compile page pageSize countOnly)),
        log ++ [.call (dataCall s.environment s.token q page pageSize countOnly entitySet)]) := rfl

/-- Once the entity set is known, the data request decides. -/
theorem Admitted.runFrom_resolved {entitySet : String}
    (h : Admitted remote environments userId q page pageSize maxPageSize log e t)
    (hlookup : LookedUp q.primaryEntity (remote.answer (log ++ [.signIn e]) (lookupCall e t q.primaryEntity))
      (.ok entitySet)) :
    (execute remote environments userId q page pageSize countOnly maxPageSize).runFrom log =
      (((remote.answer (log ++ [.signIn e, .call (lookupCall e t q.primaryEntity)])
            (dataCall e t q page pageSize countOnly entitySet)).mapError
          (Error.withQuery (q.compile page pageSize countOnly))).map (q.resultPage page pageSize),
        log ++ [.signIn e, .call (lookupCall e t q.primaryEntity),
          .call (dataCall e t q page pageSize countOnly entitySet)]) := by
  have hresolved := LookedUp.runFrom (s := ⟨remote, e, t⟩) (Query.isIdentifier_primaryEntity h.query) hlookup
  rw [h.runFrom_execute, runFrom_bind_ok hresolved, runFrom_bind, Session.runFrom_data_eq]
  simp only [List.append_assoc, List.cons_append, List.nil_append]
  cases remote.answer (log ++ [.signIn e, .call (lookupCall e t q.primaryEntity)])
    (dataCall e t q page pageSize countOnly entitySet) <;> rfl

theorem Executed.runFrom (h : Executed remote environments userId q page pageSize countOnly maxPageSize log r events) :
    (execute remote environments userId q page pageSize countOnly maxPageSize).runFrom log = (r, log ++ events) := by
  cases h with
  | invalid h =>
    rw [execute, h, runFrom_bind, List.append_nil]
    rfl
  | badPage hquery h =>
    rw [execute, hquery, h, runFrom_bind_ok (runFrom_checked log), runFrom_bind, List.append_nil]
    rfl
  | notOwned hquery hpage h =>
    rw [runFrom_execute_of_checked hquery hpage, runFrom_bind, Session.runFrom_connect, h, List.append_nil]
  | noToken hquery hpage howned h =>
    rw [runFrom_execute_of_checked hquery hpage, runFrom_bind, Session.runFrom_connect, howned]
    simp only [h]
    rfl
  | @noEntitySet e t f hadmitted h =>
    have hlookup := LookedUp.runFrom (s := ⟨remote, e, t⟩) (Query.isIdentifier_primaryEntity hadmitted.query) h
    rw [hadmitted.runFrom_execute, runFrom_bind, hlookup, List.append_assoc]
    rfl
  | refused hadmitted hlookup h hf =>
    rw [hadmitted.runFrom_resolved hlookup, h]
    rename_i f
    cases f with
    | request status m query =>
      cases query with
      | none => exact absurd rfl (hf status m)
      | some named => rfl
    | _ => rfl
  | refusedBare hadmitted hlookup h =>
    rw [hadmitted.runFrom_resolved hlookup, h]
    rfl
  | answered hadmitted hlookup h =>
    rw [hadmitted.runFrom_resolved hlookup, h]
    rfl

/-- Every run ends in some way. -/
theorem exists_executed (remote : Remote) (environments : EnvironmentStore) (userId : String) (q : Query)
    (page pageSize : Nat) (countOnly : Bool) (maxPageSize : Nat) (log : Log) :
    ∃ r events, Executed remote environments userId q page pageSize countOnly maxPageSize log r events := by
  rcases hquery : q.validate with v | ⟨⟩
  · exact ⟨_, _, .invalid hquery⟩
  rcases hpage : validatePage page pageSize maxPageSize with v | ⟨⟩
  · exact ⟨_, _, .badPage hquery hpage⟩
  rcases howned : environments.owned userId q.environmentId with f | e
  · exact ⟨_, _, .notOwned hquery hpage howned⟩
  rcases htoken : remote.signIn log e with f | t
  · exact ⟨_, _, .noToken hquery hpage howned htoken⟩
  have hadmitted : Admitted remote environments userId q page pageSize maxPageSize log e t :=
    ⟨hquery, hpage, howned, htoken⟩
  obtain ⟨found, hlookup⟩ := exists_lookedUp q.primaryEntity
    (remote.answer (log ++ [.signIn e]) (lookupCall e t q.primaryEntity))
  rcases found with f | entitySet
  · exact ⟨_, _, .noEntitySet hadmitted hlookup⟩
  rcases hdata : remote.answer (log ++ [.signIn e, .call (lookupCall e t q.primaryEntity)])
    (dataCall e t q page pageSize countOnly entitySet) with f | payload
  · by_cases hf : ∃ status m, f = .request status m none
    · obtain ⟨status, m, rfl⟩ := hf
      exact ⟨_, _, .refusedBare hadmitted hlookup hdata⟩
    · exact ⟨_, _, .refused hadmitted hlookup hdata fun status m heq => hf ⟨status, m, heq⟩⟩
  · exact ⟨_, _, .answered hadmitted hlookup hdata⟩

/-- What is called in a run that gets a token: the lookup, and then the data request if an entity set is found. -/
theorem Executed.webCalls_of_admitted
    (h : Executed remote environments userId q page pageSize countOnly maxPageSize log r events)
    (hadmitted : Admitted remote environments userId q page pageSize maxPageSize log e t) :
    ∃ found, LookedUp q.primaryEntity (remote.answer (log ++ [.signIn e]) (lookupCall e t q.primaryEntity)) found ∧
      webCalls events = lookupCall e t q.primaryEntity ::
        found.toOption.toList.map (dataCall e t q page pageSize countOnly) := by
  cases h with
  | invalid h =>
    rw [hadmitted.query] at h
    cases h
  | badPage _ h =>
    rw [hadmitted.page] at h
    cases h
  | notOwned _ _ h =>
    rw [hadmitted.owned] at h
    cases h
  | noToken _ _ howned h =>
    rw [← Except.ok.inj (hadmitted.owned.symm.trans howned), hadmitted.issued] at h
    cases h
  | noEntitySet h hlookup =>
    obtain ⟨rfl, rfl⟩ := hadmitted.unique h
    exact ⟨_, hlookup, rfl⟩
  | refused h hlookup | refusedBare h hlookup | answered h hlookup =>
    obtain ⟨rfl, rfl⟩ := hadmitted.unique h
    exact ⟨_, hlookup, rfl⟩

theorem Executed.webCalls_eq_nil
    (h : Executed remote environments userId q page pageSize countOnly maxPageSize log r events)
    (hnone : ∀ e t, ¬ Admitted remote environments userId q page pageSize maxPageSize log e t) :
    webCalls events = [] := by
  cases h with
  | invalid | badPage | notOwned | noToken => rfl
  | noEntitySet h | refused h | refusedBare h | answered h => exact absurd h (hnone _ _)

end

/-- A run ends at the first stage that fails, with the failure of that stage. Nothing is called before there is a token;
then the entity set is looked up, and the data are requested once if it is found. A query that passes its own checks also
passes those made for the lookup. -/
theorem execute_ends_at_first_fault (remote : Remote) (environments : EnvironmentStore) (userId : String) (q : Query)
    (page pageSize : Nat) (countOnly : Bool) (maxPageSize : Nat) (log : Log) :
    ∃ r events,
      (execute remote environments userId q page pageSize countOnly maxPageSize).runFrom log = (r, log ++ events) ∧
      Executed remote environments userId q page pageSize countOnly maxPageSize log r events ∧
      ((∀ e t, ¬ Admitted remote environments userId q page pageSize maxPageSize log e t) → webCalls events = []) ∧
      (∀ e t, Admitted remote environments userId q page pageSize maxPageSize log e t →
        ∃ found, LookedUp q.primaryEntity (remote.answer (log ++ [.signIn e]) (lookupCall e t q.primaryEntity)) found ∧
          webCalls events = lookupCall e t q.primaryEntity ::
            found.toOption.toList.map (dataCall e t q page pageSize countOnly)) ∧
      (q.validate = .ok () → ∀ later, (Session.checkLogicalName q.primaryEntity).runFrom later = (.ok (), later)) := by
  obtain ⟨r, events, h⟩ := exists_executed remote environments userId q page pageSize countOnly maxPageSize log
  refine ⟨r, events, h.runFrom, h, h.webCalls_eq_nil, fun e t => h.webCalls_of_admitted, fun hquery later => ?_⟩
  exact Session.runFrom_checkLogicalName (Query.isIdentifier_primaryEntity hquery) later

end QueryDesk
