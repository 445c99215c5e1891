import QueryDesk.Proofs.Exchanges
import QueryDesk.Proofs.SavedCalls
import QueryDesk.Web.Service

/-!
# Orders carried out

An order lists the environments of the user, names one environment to be visited (`Order.environment?`), or is a call on
the saved queries (`Order.savedCall?`); `Service.perform_environments`, `Order.visits` and `Service.perform_savedCall`
say what is done for each. What is asked and checked in a visit is told from the order and
the options of the service alone, not from the environments and the remote side.
-/

namespace QueryDesk

/-- The checks of a query and of the page that is wanted. -/
def checkPage (q : Query) (page pageSize maxPageSize : Nat) : Except Error Unit :=
  (q.validate.mapError .validation).bind fun _ => (validatePage page pageSize maxPageSize).mapError .validation

theorem exists_execute_eq_visit (q : Query) (page pageSize : Nat) (countOnly : Bool) (maxPageSize : Nat) :
    ∃ t : Talk ResultPage, ∀ remote environments userId,
      execute remote environments userId q page pageSize countOnly maxPageSize =
        visit remote environments userId q.environmentId (checkPage q page pageSize maxPageSize) t := by
  obtain ⟨t, ht⟩ := (Session.oblivious_entitySetName q.primaryEntity).bind fun entitySet =>
    (Session.oblivious_data q page pageSize countOnly entitySet).bind fun payload =>
      .pure (q.resultPage page pageSize payload)
  refine ⟨t, fun remote environments userId => ?_⟩
  simp only [visit, ← ht, execute, checkPage]
  cases q.validate with
  | error v => rfl
  | ok u => cases validatePage page pageSize maxPageSize <;> rfl

namespace Web

/-! ### Reading orders -/

theorem Request.order_eq_ok {r : Request} {user : String} {order : Order} (h : r.order = .ok (user, order)) :
    ∃ place decoded, Place.ofPath? r.path = some place ∧ r.method ∈ place.methods ∧ r.user? = some user ∧
      place.decode? = some decoded ∧ r.orderAt decoded = .ok order := by
  rw [Request.order] at h
  cases hplace : Place.ofPath? r.path with
  | none =>
    rw [hplace] at h
    cases h
  | some place =>
    rw [hplace] at h
    by_cases hmethod : r.method ∈ place.methods
    · cases huser : r.user? with
      | none => simp [hmethod, huser] at h
      | some name =>
        cases hdecoded : place.decode? with
        | none => simp [hmethod, huser, hdecoded] at h
        | some decoded =>
          cases horder : r.orderAt decoded with
          | error refusal => simp [hmethod, huser, hdecoded, horder] at h
          | ok o =>
            simp [hmethod, huser, hdecoded, horder] at h
            obtain ⟨rfl, rfl⟩ := h
            exact ⟨place, decoded, rfl, hmethod, rfl, hdecoded, horder⟩
    · simp only [if_pos hmethod] at h
      cases h

namespace Order

/-- The environment an order names, in the path or in its query. -/
def environment? : Order → Option String
  | entities e | entity e _ | attributes e _ | relationships e _ | describe e _ => some e
  | execute r => some r.query.environmentId
  | .export q => some q.environmentId
  | environments | listSaved _ | createSaved _ | getSaved _ | updateSaved _ _ | deleteSaved _ => none

/-- The call on the saved queries an order is, with the id and the point in time that are used for it. -/
def savedCall? (user : String) (fresh : Uuid) (now : Time) : Order → Option SavedCall
  | listSaved e => some (.list user e)
  | createSaved n => some (.create user fresh now n)
  | getSaved i => some (.get user i)
  | updateSaved i u => some (.update user i now u)
  | deleteSaved i => some (.delete user i)
  | _ => none

end Order

/-- An order asks for the environments, or names one, or is a call of the user on the saved queries. -/
theorem Order.kinds (user : String) (fresh : Uuid) (now : Time) (order : Order) :
    order = .environments ∨ (∃ id, order.environment? = some id) ∨
      ∃ c, order.savedCall? user fresh now = some c ∧ c.userId = user ∧ ∀ i, c.freshId? = some i → i = fresh := by
  cases order with
  | environments => exact .inl rfl
  | entities | entity | attributes | relationships | describe | execute | «export» => exact .inr (.inl ⟨_, rfl⟩)
  | createSaved n => exact .inr (.inr ⟨_, rfl, rfl, fun i hi => (Option.some.inj hi).symm⟩)
  | listSaved | getSaved | updateSaved | deleteSaved => exact .inr (.inr ⟨_, rfl, rfl, nofun⟩)

theorem Order.time_of_savedCall? {user : String} {fresh : Uuid} {now t : Time} {order : Order} {c : SavedCall}
    (h : order.savedCall? user fresh now = some c) (ht : c.time? = some t) : t = now := by
  cases order with
  | createSaved | updateSaved => cases h; exact (Option.some.inj ht).symm
  | listSaved | getSaved | deleteSaved => cases h; cases ht
  | _ => cases h

/-! ### Carrying out orders -/

/-- What the reply to a call on the saved queries yields. -/
def Yield.ofReply : SavedReply → Except Error Yield
  | .saved r => r.map saved
  | .listed qs => .ok (savedList qs)
  | .deleted r => r.map fun _ => nothing

namespace Service

variable (s : Service) (user : String) (fresh : Uuid) (now : Time) (state : ServiceState)

theorem perform_environments : s.perform user fresh now .environments state =
    (.ok (.list Environment.toJson (s.environments.listFor user)), state) := rfl

/-- A call on the saved queries changes the rows and asks nothing. -/
theorem perform_savedCall {order : Order} {c : SavedCall} (h : order.savedCall? user fresh now = some c) :
    s.perform user fresh now order state = (Yield.ofReply (c.run s.environments state.saved).1,
      { state with saved := (c.run s.environments state.saved).2 }) := by
  cases order with
  | createSaved n =>
    cases h
    -- taken as a pair, so that creating it is not evaluated
    simp only [perform, ServiceState.act, SavedCall.run]
    cases (SavedQuery.create s.environments user fresh now n).run state.saved
    rfl
  | listSaved | getSaved | updateSaved | deleteSaved => cases h; rfl
  | _ => cases h

end Service

/-- Carrying out an order is a visit of an environment. What is checked and asked in it does not depend on the
environments, the remote side and the user. -/
def Order.Visits (paging : PageOptions) (exporting : ExportOptions) (order : Order) (id : String) : Prop :=
  ∃ (check : Except Error Unit) (t : Talk Yield), ∀ s : Service, s.paging = paging → s.exporting = exporting →
    ∀ user fresh now state, s.perform user fresh now order state =
      state.exchange (visit s.remote s.environments user id check t)

namespace Order

variable {α : Type} {paging : PageOptions} {exporting : ExportOptions} {order : Order} {id : String}

theorem visits_of_oblivious (check : Except Error Unit) {ask : Session → Exchange α} (h : Session.Oblivious ask)
    (toYield : α → Yield)
    (hp : ∀ (s : Service) user fresh now state, s.perform user fresh now order state =
      state.exchange (toYield <$> (Exchange.ofExcept check >>= fun _ => s.within user id ask))) :
    order.Visits paging exporting id := by
  obtain ⟨t, ht⟩ := h
  refine ⟨check, t.map toYield, fun s _ _ user fresh now state => ?_⟩
  rw [hp, ← map_visit, visit]
  simp only [Service.within, ht]

/-- An order that names an environment is carried out in a visit of it. -/
theorem visits (h : order.environment? = some id) (paging : PageOptions) (exporting : ExportOptions) :
    order.Visits paging exporting id := by
  cases order with
  | entities e =>
    cases h
    exact visits_of_oblivious (.ok ()) Session.oblivious_entities _ fun _ _ _ _ _ => rfl
  | entity e n =>
    cases h
    exact visits_of_oblivious (.ok ()) (Session.oblivious_entity n) _ fun _ _ _ _ _ => rfl
  | attributes e n =>
    cases h
    exact visits_of_oblivious (.ok ()) (Session.oblivious_attributes n) _ fun _ _ _ _ _ => rfl
  | relationships e n =>
    cases h
    exact visits_of_oblivious (.ok ()) (Session.oblivious_relationships n) _ fun _ _ _ _ _ => rfl
  | describe e names =>
    cases h
    -- without names nothing is asked, not even for a token
    refine visits_of_oblivious (if names.isEmpty then .error (.invalidInput "entities must not be empty") else .ok ())
      (Session.oblivious_describe names) (.list EntityAttributes.toJson) fun s user fresh now state => ?_
    simp only [Service.perform, Service.describe]
    cases names.isEmpty <;> rfl
  | execute r =>
    cases h
    obtain ⟨t, ht⟩ := exists_execute_eq_visit r.query (r.page.getD 1) (r.pageSize.getD paging.defaultSize)
      r.countOnly paging.maxSize
    refine ⟨checkPage r.query (r.page.getD 1) (r.pageSize.getD paging.defaultSize) paging.maxSize, t.map .page, ?_⟩
    rintro s rfl rfl user fresh now state
    simp only [Service.perform, Service.execute, ht, map_visit]
  | «export» q =>
    cases h
    obtain ⟨t, ht⟩ := exists_execute_eq_visit q 1 (exporting.rowLimit q) false (exporting.rowLimit q)
    refine ⟨checkPage q 1 (exporting.rowLimit q) (exporting.rowLimit q),
      (t.map fun page => Workbook.parts page exporting.sheetName).map (.workbook q.exportName), ?_⟩
    rintro s rfl rfl user fresh now state
    simp only [Service.perform, ExportOptions.workbook, ht, ← map_visit, map_eq_pure_bind]
  | environments | listSaved | createSaved | getSaved | updateSaved | deleteSaved => cases h

end Order

/-! ### Answering requests -/

namespace Service

theorem answer_snd (s : Service) (fresh : Uuid) (now : Time) (r : Request) (state : ServiceState) :
    (s.answer fresh now r state).2 =
      match r.order with
      | .error _ => state
      | .ok (user, order) => (s.perform user fresh now order state).2 := by
  rw [answer]
  cases r.order <;> rfl

/-- What serving a request does to the saved rows: nothing, or what a call of its user does. -/
theorem saved_answer (s : Service) (fresh : Uuid) (now : Time) (r : Request) (state : ServiceState) :
    (s.answer fresh now r state).2.saved = state.saved ∨
      ∃ c : SavedCall, r.user? = some c.userId ∧ (∀ i, c.freshId? = some i → i = fresh) ∧
        (∀ t, c.time? = some t → t = now) ∧
        (s.answer fresh now r state).2.saved = (c.run s.environments state.saved).2 := by
  rw [answer_snd]
  cases horder : r.order with
  | error refusal => exact .inl rfl
  | ok asked =>
    obtain ⟨user, order⟩ := asked
    obtain ⟨-, -, -, -, huser, -, -⟩ := Request.order_eq_ok horder
    rcases order.kinds user fresh now with rfl | ⟨id, hid⟩ | ⟨c, hc, rfl, hfresh⟩
    · exact .inl rfl
    · obtain ⟨check, t, hvisit⟩ := Order.visits hid s.paging s.exporting
      simp only [hvisit s rfl rfl]
      exact .inl rfl
    · simp only [s.perform_savedCall _ fresh now state hc]
      exact .inr ⟨c, huser, hfresh, fun _ => Order.time_of_savedCall? hc, rfl⟩

theorem answerAll_cons (s : Service) (fresh : Uuid) (now : Time) (r : Request) (rest : List (Uuid × Time × Request))
    (state : ServiceState) :
    s.answerAll ((fresh, now, r) :: rest) state =
      ((s.answer fresh now r state).1 :: (s.answerAll rest (s.answer fresh now r state).2).1,
        (s.answerAll rest (s.answer fresh now r state).2).2) := rfl

/-! ### A sample -/

/-- A service with one environment, whose Web API refuses everything. -/
def sampleService : Service where
  environments := ⟨[⟨"prod", "ann", "Production", "", "", "", ""⟩]⟩
  remote := ⟨fun _ _ => .ok ⟨"secret", none⟩, fun _ _ => .error (.request 403 "" none)⟩
  paging := {}
  exporting := {}

/-- Two users ask for the entities of the environment. -/
def sampleRequests : List (Uuid × Time × Request) :=
  [(.ofNat 1, ⟨10⟩, ⟨.get, "/api/environments/prod/entities", none, some "bob", none, ""⟩),
    (.ofNat 2, ⟨20⟩, ⟨.get, "/api/environments/prod/entities", none, some "ann", none, ""⟩)]

end Service

end Web

end QueryDesk
