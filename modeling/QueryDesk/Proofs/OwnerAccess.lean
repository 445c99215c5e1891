import QueryDesk.Proofs.DecodedText
import QueryDesk.Proofs.Orders

/-!
# Only owners reach an environment

Each request is served with some events, which are added to the log. If there are any, a token was asked for one
environment, the one that the request names and its user owns, and what follows are calls of that environment with the
token that came of it: that is what it means for the events of a request to be `Granted`.
-/

namespace QueryDesk

/-- Whatever is talked of in a session, it is asked of the environment of the session, with its token. -/
theorem Talk.log_through {α : Type} (s : Session) (t : Talk α) (log : Log) :
    ∃ asked : List (String × Option String), ((t.through s).runFrom log).2 =
      log ++ asked.map fun (resource, prefer) => .call ⟨s.environment, s.token, resource, prefer⟩ := by
  induction t generalizing log with
  | done r => exact ⟨[], (List.append_nil log).symm⟩
  | ask resource prefer next ih =>
    obtain ⟨asked, h⟩ := ih _ _
    exact ⟨(resource, prefer) :: asked, by rw [runFrom_ask, h, List.append_assoc]; rfl⟩

theorem EnvironmentStore.of_owned {environments : EnvironmentStore} {userId id : String} {e : Environment}
    (h : environments.owned userId id = .ok e) : e ∈ environments.entries ∧ e.id = id ∧ e.userId = userId := by
  rw [owned] at h
  cases hfind : environments.entries.find? (·.id == id) with
  | none =>
    rw [hfind] at h
    cases h
  | some found =>
    simp only [hfind] at h
    split at h
    case isTrue huser =>
      cases h
      exact ⟨List.mem_of_find?_eq_some hfind, beq_iff_eq.1 (List.find?_some (p := fun e : Environment => e.id == id) hfind), huser⟩
    case isFalse => cases h

/-- A visit asks for a token for an environment of the user, if it gets that far, and then goes on in that environment
with that token. -/
theorem log_visit {α : Type} (remote : Remote) (environments : EnvironmentStore) (userId id : String)
    (check : Except Error Unit) (t : Talk α) (log : Log) :
    ∃ events, ((visit remote environments userId id check t).runFrom log).2 = log ++ events ∧
      (events = [] ∨ ∃ e, environments.owned userId id = .ok e ∧ ∃ calls : List Call,
        events = .signIn e :: calls.map .call ∧
          ∀ c ∈ calls, c.environment = e ∧ remote.signIn log e = .ok c.token) := by
  rw [runFrom_visit]
  rcases check with fault | ⟨⟩
  · exact ⟨[], (List.append_nil log).symm, .inl rfl⟩
  · cases environments.owned userId id with
    | error fault => exact ⟨[], (List.append_nil log).symm, .inl rfl⟩
    | ok e =>
      cases htoken : remote.signIn log e with
      | error fault =>
        -- it was asked for a token, and that is all
        simp only [htoken]
        exact ⟨[.signIn e], rfl, .inr ⟨e, rfl, [], rfl, nofun⟩⟩
      | ok token =>
        simp only [htoken]
        obtain ⟨asked, hlog⟩ := t.log_through ⟨remote, e, token⟩ (log ++ [.signIn e])
        refine ⟨_, hlog.trans (List.append_assoc _ _ _), .inr ⟨e, rfl,
          asked.map fun (resource, prefer) => ⟨e, token, resource, prefer⟩, ?_, ?_⟩⟩
        · rw [List.map_map]
          rfl
        · intro c hc
          obtain ⟨-, -, rfl⟩ := List.mem_map.1 hc
          exact ⟨rfl, htoken⟩

namespace Web

/-- The environment a request names: in its path, or in the query that is in its body. -/
def Request.environment? (r : Request) : Option String :=
  match (Place.ofPath? r.path).bind Place.decode? with
  | some (.entities e) | some (.entity e _) | some (.attributes e _) | some (.relationships e _)
  | some (.describe e) => some e
  | some .execute => (r.decodeBody ExecuteRequest.decoder).toOption.map (·.query.environmentId)
  | some .export => (r.decodeBody exportRequest).toOption.map (·.environmentId)
  | _ => none

theorem Request.environment?_of_order {r : Request} {user : String} {order : Order}
    (h : r.order = .ok (user, order)) : r.environment? = order.environment? := by
  obtain ⟨place, decoded, hplace, -, -, hdecoded, horder⟩ := order_eq_ok h
  rw [environment?, hplace, Option.bind_some, hdecoded]
  cases decoded with
  | environments | entities | entity | attributes | relationships => cases horder; rfl
  | describe e =>
    obtain ⟨names, -, h⟩ := Except.exists_of_bind_eq_ok horder
    cases h
    rfl
  | execute =>
    obtain ⟨request, hbody, h⟩ := Except.exists_of_bind_eq_ok horder
    cases h
    simp only [hbody]
    rfl
  | «export» =>
    obtain ⟨q, hbody, h⟩ := Except.exists_of_bind_eq_ok horder
    cases h
    simp only [hbody]
    rfl
  | savedQueries =>
    simp only [orderAt] at horder
    split at horder <;> obtain ⟨given, -, h⟩ := Except.exists_of_bind_eq_ok horder <;> cases h <;> rfl
  | savedQuery text =>
    obtain ⟨id, -, h⟩ := Except.exists_of_bind_eq_ok horder
    split at h
    · obtain ⟨update, -, h⟩ := Except.exists_of_bind_eq_ok h
      cases h
      rfl
    · split at h <;> cases h <;> rfl

/-- What a request may cause: a token is asked for an environment of the user that the request names, and if there is
one, calls of that environment are made with it. -/
structure Granted (s : Service) (r : Request) (before : Log) (e : Environment) (events : List Event) : Prop where
  registered : e ∈ s.environments.entries
  owner : r.user? = some e.userId
  named : r.environment? = some e.id
  asked : ∃ calls : List Call, events = .signIn e :: calls.map .call ∧
    ∀ c ∈ calls, c.environment = e ∧ s.remote.signIn before e = .ok c.token

theorem Service.log_answer (s : Service) (fresh : Uuid) (now : Time) (r : Request) (state : ServiceState) :
    ∃ events, (s.answer fresh now r state).2.log = state.log ++ events ∧
      (events = [] ∨ ∃ e, Granted s r state.log e events) := by
  rw [answer_snd]
  cases horder : r.order with
  | error refusal => exact ⟨[], (List.append_nil _).symm, .inl rfl⟩
  | ok named =>
    obtain ⟨user, order⟩ := named
    obtain ⟨-, -, -, -, huser, -, -⟩ := Request.order_eq_ok horder
    rcases order.kinds user fresh now with rfl | ⟨id, hid⟩ | ⟨c, hc, -, -⟩
    · exact ⟨[], (List.append_nil _).symm, .inl rfl⟩
    · obtain ⟨check, t, hvisit⟩ := Order.visits hid s.paging s.exporting
      obtain ⟨events, hlog, hevents⟩ := log_visit s.remote s.environments user id check t state.log
      simp only [hvisit s rfl rfl]
      refine ⟨events, hlog, hevents.imp_right ?_⟩
      rintro ⟨e, howned, hasked⟩
      obtain ⟨hmem, rfl, rfl⟩ := EnvironmentStore.of_owned howned
      exact ⟨e, hmem, huser, (Request.environment?_of_order horder).trans hid, hasked⟩
    · simp only [s.perform_savedCall user fresh now state hc]
      exact ⟨[], (List.append_nil _).symm, .inl rfl⟩

/-- A request that was served. -/
structure Served where
  request : Request
  /-- the log when the request came -/
  before : Log
  /-- what serving it added to the log -/
  events : List Event

/-- Answers requests one after the other, and keeps what each adds to the log. -/
def Service.serve (s : Service) : List (Uuid × Time × Request) → ServiceState → List Served
  | [], _ => []
  | (fresh, now, r) :: rest, state =>
    let next := (s.answer fresh now r state).2
    ⟨r, state.log, next.log.drop state.log.length⟩ :: s.serve rest next

/-- Serving a request reaches no environment but one of its user. -/
structure Served.OwnerOnly (s : Service) (v : Served) : Prop where
  /-- Whatever is asked is asked of the environment the request names, which is the user's. -/
  granted : v.events = [] ∨ ∃ e, Granted s v.request v.before e v.events
  /-- A request that names an environment its user does not own asks nothing. -/
  foreign : ∀ id, v.request.environment? = some id →
    (∀ e ∈ s.environments.entries, e.id = id → v.request.user? ≠ some e.userId) → v.events = []
  /-- The list of environments and the saved queries are served without asking. -/
  unasked : ∀ place, Place.ofPath? v.request.path = some place →
    (place = .environments ∨ place = .savedQueries ∨ ∃ id, place = .savedQuery id) → v.events = []

theorem Request.environment?_of_place {r : Request} {place : Place} (hplace : Place.ofPath? r.path = some place)
    (h : place = .environments ∨ place = .savedQueries ∨ ∃ id, place = .savedQuery id) : r.environment? = none := by
  rw [environment?, hplace, Option.bind_some]
  rcases h with rfl | rfl | ⟨id, rfl⟩
  · rfl
  · rfl
  · cases hid : Place.decode?.name? id with
    | none => simp [Place.decode?, hid]
    | some decoded => simp [Place.decode?, hid]

theorem Served.OwnerOnly.of_granted {s : Service} {v : Served}
    (h : v.events = [] ∨ ∃ e, Granted s v.request v.before e v.events) : v.OwnerOnly s where
  granted := h
  foreign id hid hforeign := by
    rcases h with h | ⟨e, h⟩
    · exact h
    · rw [h.named] at hid
      exact absurd h.owner (hforeign e h.registered (Option.some.inj hid))
  unasked place hplace hkind := by
    rcases h with h | ⟨e, h⟩
    · exact h
    · have hnone := Request.environment?_of_place hplace hkind
      rw [h.named] at hnone
      cases hnone

namespace Service

theorem ownerOnly_of_mem_serve (s : Service) (requests : List (Uuid × Time × Request)) (state : ServiceState) :
    ∀ v ∈ s.serve requests state, v.OwnerOnly s := by
  induction requests generalizing state with
  | nil => exact nofun
  | cons first rest ih =>
    obtain ⟨fresh, now, r⟩ := first
    obtain ⟨events, hlog, hgranted⟩ := s.log_answer fresh now r state
    rw [serve, hlog, List.drop_left, List.forall_mem_cons]
    exact ⟨.of_granted hgranted, ih _⟩

theorem requests_serve (s : Service) (requests : List (Uuid × Time × Request)) (state : ServiceState) :
    (s.serve requests state).map (·.request) = requests.map (·.2.2) := by
  induction requests generalizing state with
  | nil => rfl
  | cons first rest ih => exact congrArg (first.2.2 :: ·) (ih _)

theorem log_answerAll (s : Service) (requests : List (Uuid × Time × Request)) (state : ServiceState) :
    (s.answerAll requests state).2.log = state.log ++ (s.serve requests state).flatMap (·.events) := by
  induction requests generalizing state with
  | nil => exact (List.append_nil _).symm
  | cons first rest ih =>
    obtain ⟨fresh, now, r⟩ := first
    obtain ⟨events, hlog, -⟩ := s.log_answer fresh now r state
    rw [answerAll_cons, ih, serve, hlog, List.drop_left, List.flatMap_cons, List.append_assoc]

/-- Nobody reaches the remote side through an environment of someone else: in every run the log is what the requests
add to it one after the other, and each of them keeps to the environment that it names and its user owns. -/
theorem remote_reached_by_owners_only (s : Service) (requests : List (Uuid × Time × Request)) :
    (s.serve requests .start).map (·.request) = requests.map (·.2.2) ∧
      (s.answerAll requests .start).2.log = (s.serve requests .start).flatMap (·.events) ∧
      ∀ v ∈ s.serve requests .start, v.OwnerOnly s :=
  ⟨s.requests_serve requests .start, s.log_answerAll requests .start, s.ownerOnly_of_mem_serve requests .start⟩

/-- Of two users who ask for the entities of one environment only its owner causes a token and the entities to be asked
for. -/
theorem remote_reached_by_owners_only_sample :
    (sampleService.serve sampleRequests .start).map (fun v => (v.request.user?, v.events.length)) =
        [(some "bob", 0), (some "ann", 2)] ∧
      ∀ v ∈ sampleService.serve sampleRequests .start, v.OwnerOnly sampleService :=
  ⟨by decide +kernel, (remote_reached_by_owners_only sampleService sampleRequests).2.2⟩

end Service

end Web

end QueryDesk
