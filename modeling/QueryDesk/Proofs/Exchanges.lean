import Mathlib.Tactic.Choose
import QueryDesk.Export

/-!
# Exchanges as talks

A session adds an environment and a token to what is asked in it. A `Talk` is what is asked without them: requests for
resources one after the other, the next one told from the answers so far. Whatever a user can ask in a session is a talk
(`Session.Oblivious`), and so is all of it that reaches the remote side: a `visit` checks something, finds an environment
of the user, gets a token for it and carries on a talk in that session (`runFrom_visit`).
-/

namespace QueryDesk

namespace Exchange

variable {α β : Type} {x y : Exchange α} {log : Log}

theorem ext (h : ∀ log, x.runFrom log = y.runFrom log) : x = y := funext h

theorem runFrom_ofExcept (r : Except Error α) (log : Log) : (ofExcept r).runFrom log = (r, log) := rfl

theorem runFrom_bind (x : Exchange α) (f : α → Exchange β) (log : Log) :
    (x >>= f).runFrom log =
      match x.runFrom log with
      | (.ok a, log) => (f a).runFrom log
      | (.error e, log) => (.error e, log) := by
  show (match x.runFrom log with | (r, log) => (ExceptT.bindCont f r).run log) = _
  cases x.runFrom log with
  | mk r log => cases r <;> rfl

theorem runFrom_bind_ok {f : α → Exchange β} {a : α} {log' : Log} (h : x.runFrom log = (.ok a, log')) :
    (x >>= f).runFrom log = (f a).runFrom log' := by
  rw [runFrom_bind, h]

theorem runFrom_attempt (x : Exchange α) (log : Log) : (attempt x).runFrom log = (x.runFrom log).map .ok id := rfl

theorem runFrom_mapError (f : Error → Error) (x : Exchange α) (log : Log) :
    (mapError f x).runFrom log = (x.runFrom log).map (·.mapError f) id := rfl

theorem runFrom_map (f : α → β) (x : Exchange α) (log : Log) :
    (f <$> x).runFrom log = (x.runFrom log).map (·.map f) id := by
  rw [map_eq_pure_bind, runFrom_bind]
  cases x.runFrom log with
  | mk r log => cases r <;> rfl

end Exchange

open Exchange (runFrom_ofExcept runFrom_bind runFrom_bind_ok runFrom_attempt runFrom_mapError runFrom_map)

/-! ### Talks -/

/-- Requests one after the other, the next one told from the answers so far. -/
inductive Talk (α : Type)
  | done (r : Except Error α)
  | ask (resource : String) (prefer : Option String) (next : Except Error Json → Talk α)

namespace Talk

variable {α β : Type}

/-- Goes on after a talk, which may have failed. -/
def andThen (f : Except Error α → Talk β) : Talk α → Talk β
  | done r => f r
  | ask resource prefer next => ask resource prefer fun answer => (next answer).andThen f

/-- A talk with what it yields changed. -/
def map (f : α → β) : Talk α → Talk β := andThen fun r => done (r.map f)

/-- Carries on a talk in a session. -/
def through (s : Session) : Talk α → Exchange α
  | done r => Exchange.ofExcept r
  | ask resource prefer next => do
    let answer ← Exchange.attempt (s.get resource prefer)
    (next answer).through s

theorem runFrom_ask (s : Session) (resource : String) (prefer : Option String) (next : Except Error Json → Talk α)
    (log : Log) :
    ((ask resource prefer next).through s).runFrom log =
      ((next (s.remote.answer log ⟨s.environment, s.token, resource, prefer⟩)).through s).runFrom
        (log ++ [.call ⟨s.environment, s.token, resource, prefer⟩]) := rfl

theorem runFrom_andThen (s : Session) (t : Talk α) (f : Except Error α → Talk β) (log : Log) :
    ((t.andThen f).through s).runFrom log =
      ((f ((t.through s).runFrom log).1).through s).runFrom ((t.through s).runFrom log).2 := by
  -- every answer lengthens the log
  induction t generalizing log with
  | done r => rfl
  | ask resource prefer next ih =>
    rw [andThen, runFrom_ask, ih, runFrom_ask]

theorem through_map (s : Session) (t : Talk α) (f : α → β) : (t.map f).through s = f <$> t.through s :=
  Exchange.ext fun log => by
    rw [map, runFrom_andThen, runFrom_map]
    rfl

end Talk

/-! ### What is asked in a session -/

namespace Session

/-- Where the entity set of an entity is asked for. -/
theorem definitionPath_select (name : String) : definitionPath name ++ "?$select=EntitySetName" =
    "EntityDefinitions(LogicalName='" ++ name ++ "')?$select=EntitySetName" := by
  have hend : "')?$select=EntitySetName" = "')" ++ "?$select=EntitySetName" := by simp
  rw [hend, ← String.append_assoc]
  rfl

/-- What is asked in a session does not depend on its environment and token. -/
def Oblivious {α : Type} (f : Session → Exchange α) : Prop := ∃ t : Talk α, ∀ s, f s = t.through s

namespace Oblivious

variable {α β : Type} {f : Session → Exchange α}

theorem result (r : Except Error α) : Oblivious fun _ => Exchange.ofExcept r := ⟨.done r, fun _ => rfl⟩

theorem get (resource : String) (prefer : Option String) : Oblivious fun s => s.get resource prefer :=
  ⟨.ask resource prefer .done, fun _ => rfl⟩

theorem bind {g : α → Session → Exchange β} (hf : Oblivious f) (hg : ∀ a, Oblivious (g a)) :
    Oblivious fun s => f s >>= (g · s) := by
  obtain ⟨t, ht⟩ := hf
  choose u hu using hg
  refine ⟨t.andThen fun | .ok a => u a | .error e => .done (.error e), fun s => Exchange.ext fun log => ?_⟩
  rw [Talk.runFrom_andThen, runFrom_bind, ht]
  cases (t.through s).runFrom log with
  | mk r log =>
    cases r with
    | ok a => exact congrArg (·.runFrom log) (hu a s)
    | error e => rfl

theorem attempt (hf : Oblivious f) : Oblivious fun s => Exchange.attempt (f s) := by
  obtain ⟨t, ht⟩ := hf
  refine ⟨t.andThen fun r => .done (.ok r), fun s => Exchange.ext fun log => ?_⟩
  rw [Talk.runFrom_andThen, runFrom_attempt, ht]
  rfl

theorem mapError (e : Error → Error) (hf : Oblivious f) : Oblivious fun s => Exchange.mapError e (f s) := by
  obtain ⟨t, ht⟩ := hf
  refine ⟨t.andThen fun r => .done (r.mapError e), fun s => Exchange.ext fun log => ?_⟩
  rw [Talk.runFrom_andThen, runFrom_mapError, ht]
  rfl

theorem pure (a : α) : Oblivious fun _ => (Pure.pure a : Exchange α) := result (.ok a)

end Oblivious

theorem oblivious_fetch {α : Type} (decoder : Json.Decoder α) (resource : String) :
    Oblivious (·.fetch decoder resource) :=
  (Oblivious.get resource none).bind fun _ => .result _

theorem oblivious_entities : Oblivious entities := (oblivious_fetch _ _).bind fun _ => .pure _

theorem oblivious_entity (name : String) : Oblivious (·.entity name) :=
  (Oblivious.result _).bind fun _ => (oblivious_fetch _ _).bind fun _ => .pure _

theorem oblivious_entitySetName (name : String) : Oblivious (·.entitySetName name) := by
  refine (Oblivious.result _).bind fun _ => (oblivious_fetch _ _).bind fun found => ?_
  cases found.entitySetName.filter (· != "") with
  | some set => exact .pure set
  | none => exact .result (.error _)

theorem oblivious_attributes (name : String) : Oblivious (·.attributes name) :=
  (Oblivious.result _).bind fun _ => (oblivious_fetch _ _).bind fun _ =>
    (oblivious_fetch _ _).attempt.bind fun _ => (oblivious_fetch _ _).attempt.bind fun _ => .pure _

theorem oblivious_relationshipsOf (name : String) (kind : RelationshipKind) :
    Oblivious (·.relationshipsOf name kind) :=
  (oblivious_fetch _ _).attempt.bind fun _ => .pure _

theorem oblivious_relationships (name : String) : Oblivious (·.relationships name) :=
  (Oblivious.result _).bind fun _ => (oblivious_relationshipsOf name .oneToMany).bind fun _ =>
    (oblivious_relationshipsOf name .manyToOne).bind fun _ => .pure _

theorem oblivious_describe (names : List String) : Oblivious (·.describe names) := by
  induction names with
  | nil => exact .pure []
  | cons name rest ih =>
    refine (oblivious_attributes name).attempt.bind fun found => ih.bind fun others => ?_
    cases found with
    | ok attributes => exact .pure _
    | error e => exact .pure _

theorem oblivious_data (q : Query) (page pageSize : Nat) (countOnly : Bool) (entitySet : String) :
    Oblivious (·.data q page pageSize countOnly entitySet) :=
  (Oblivious.get _ _).mapError _

end Session

theorem Session.runFrom_connect (remote : Remote) (environments : EnvironmentStore) (userId environmentId : String)
    (log : Log) :
    (Session.connect remote environments userId environmentId).runFrom log =
      match environments.owned userId environmentId with
      | .error e => (.error e, log)
      | .ok environment =>
        ((remote.signIn log environment).map (⟨remote, environment, ·⟩), log ++ [.signIn environment]) := by
  rw [Session.connect, runFrom_bind, runFrom_ofExcept]
  cases environments.owned userId environmentId with
  | error e => rfl
  | ok environment =>
    show (remote.token environment >>= fun t => pure (Session.mk remote environment t)).runFrom log = _
    rw [bind_pure_comp, runFrom_map]
    rfl

/-! ### Visits -/

variable {α β : Type}

/-- Checks something, and then carries on a talk in a session with an environment of the user. -/
def visit (remote : Remote) (environments : EnvironmentStore) (userId environmentId : String)
    (check : Except Error Unit) (t : Talk α) : Exchange α := do
  Exchange.ofExcept check
  let s ← Session.connect remote environments userId environmentId
  t.through s

/-- How far a visit gets. -/
theorem runFrom_visit (remote : Remote) (environments : EnvironmentStore) (userId environmentId : String)
    (check : Except Error Unit) (t : Talk α) (log : Log) :
    (visit remote environments userId environmentId check t).runFrom log =
      match check with
      | .error e => (.error e, log)
      | .ok () =>
        match environments.owned userId environmentId with
        | .error e => (.error e, log)
        | .ok environment =>
          match remote.signIn log environment with
          | .error e => (.error e, log ++ [.signIn environment])
          | .ok token => (t.through ⟨remote, environment, token⟩).runFrom (log ++ [.signIn environment]) := by
  rw [visit, runFrom_bind, runFrom_ofExcept]
  cases check with
  | error e => rfl
  | ok u =>
    show (Session.connect remote environments userId environmentId >>= _).runFrom log = _
    rw [runFrom_bind, Session.runFrom_connect]
    cases environments.owned userId environmentId with
    | error e => rfl
    | ok environment =>
      simp only
      cases remote.signIn log environment <;> rfl

theorem map_visit (remote : Remote) (environments : EnvironmentStore) (userId environmentId : String)
    (check : Except Error Unit) (t : Talk α) (f : α → β) :
    f <$> visit remote environments userId environmentId check t =
      visit remote environments userId environmentId check (t.map f) := by
  simp only [visit, map_bind, Talk.through_map]

end QueryDesk
