import QueryDesk.Proofs.Orders
import QueryDesk.Proofs.SavedCalls

/-!
# Secrets are never answered

Two services that are told apart by the client secrets of their environments and the texts of their tokens alone
(`Service.SameButSecrets`) give the same answers to every sequence of requests. What a session asks does not depend on
its environment and token (`Session.Oblivious`), so both services ask the same, secrets aside, and hear the same
(`outcome_visit_of_redacted`); and nothing that is given out is made from a secret.
-/

namespace QueryDesk

/-! ### Without secrets -/

/-- An environment without its secret. -/
def Environment.redacted (e : Environment) : Environment := { e with clientSecret := "" }

/-- A token without its text. -/
def Token.redacted (t : Token) : Token := { t with secret := "" }

def Call.redacted (c : Call) : Call := { c with environment := c.environment.redacted, token := c.token.redacted }

def Event.redacted : Event → Event
  | .signIn e => .signIn e.redacted
  | .call c => .call c.redacted

/-- A log in which no secret stands. -/
def redactedLog (log : Log) : Log := log.map Event.redacted

theorem redactedLog_concat (log : Log) (v : Event) : redactedLog (log ++ [v]) = redactedLog log ++ [v.redacted] :=
  List.map_append

namespace Environment

variable {e e' : Environment}

theorem toJson_redacted (e : Environment) : e.redacted.toJson = e.toJson := rfl

theorem describe_redacted (e : Environment) : e.redacted.describe = e.describe := rfl

theorem describeSeed_redacted (e : Environment) : e.redacted.describeSeed = e.describeSeed := rfl

theorem id_eq_of_redacted (h : e'.redacted = e.redacted) : e'.id = e.id := by
  show e'.redacted.id = e.redacted.id
  rw [h]

theorem userId_eq_of_redacted (h : e'.redacted = e.redacted) : e'.userId = e.userId := by
  show e'.redacted.userId = e.redacted.userId
  rw [h]

end Environment

theorem Token.describe_redacted (t : Token) : t.redacted.describe = t.describe := rfl

/-! ### Stores -/

namespace EnvironmentStore

variable {environments environments' : EnvironmentStore} {userId id : String}

/-- The environments of two stores that stand in the same place. -/
def Pairs (environments environments' : EnvironmentStore) (e e' : Environment) : Prop :=
  (e, e') ∈ environments.entries.zip environments'.entries

/-- Two stores with the same environments, secrets aside. -/
def SameButSecrets (environments environments' : EnvironmentStore) : Prop :=
  environments'.entries.map Environment.redacted = environments.entries.map Environment.redacted

theorem redacted_of_mem_zip {es es' : List Environment} {e e' : Environment}
    (h : es'.map Environment.redacted = es.map Environment.redacted) (hpair : (e, e') ∈ es.zip es') :
    e'.redacted = e.redacted := by
  induction es generalizing es' with
  | nil => cases hpair
  | cons f es ih =>
    rcases es' with - | ⟨f', es'⟩
    · cases hpair
    · obtain ⟨hhead, htail⟩ := List.cons.inj h
      rcases List.mem_cons.1 hpair with heq | hmem
      · obtain ⟨rfl, rfl⟩ := Prod.mk.inj heq
        exact hhead
      · exact ih htail hmem

/-- The first environment of an id stands in the same place in both stores. -/
theorem find?_of_redacted {es es' : List Environment} (h : es'.map Environment.redacted = es.map Environment.redacted)
    (id : String) :
    (es.find? (·.id == id) = none ∧ es'.find? (·.id == id) = none) ∨
      ∃ e e', es.find? (·.id == id) = some e ∧ es'.find? (·.id == id) = some e' ∧ (e, e') ∈ es.zip es' := by
  induction es generalizing es' with
  | nil =>
    obtain rfl := List.map_eq_nil_iff.1 h
    exact .inl ⟨rfl, rfl⟩
  | cons e es ih =>
    rcases es' with - | ⟨e', es'⟩
    · cases h
    obtain ⟨hhead, htail⟩ := List.cons.inj h
    have hid : (e'.id == id) = (e.id == id) := by rw [Environment.id_eq_of_redacted hhead]
    by_cases hfound : (e.id == id) = true
    · exact .inr ⟨e, e', by simp [hfound], by simp [hid, hfound], List.mem_cons_self⟩
    · simp only [List.find?_cons, hid, hfound]
      rcases ih htail with hnone | ⟨f, f', hf, hf', hmem⟩
      · exact .inl hnone
      · exact .inr ⟨f, f', hf, hf', List.mem_cons_of_mem _ hmem⟩

/-- Both stores give out an environment, or both fail in the same way. -/
theorem SameButSecrets.owned (h : SameButSecrets environments environments') (userId id : String) :
    (∃ f, environments.owned userId id = .error f ∧ environments'.owned userId id = .error f) ∨
      ∃ e e', environments.owned userId id = .ok e ∧ environments'.owned userId id = .ok e' ∧
        Pairs environments environments' e e' := by
  simp only [EnvironmentStore.owned]
  rcases find?_of_redacted h id with ⟨hnone, hnone'⟩ | ⟨e, e', hfind, hfind', hpair⟩
  · exact .inl ⟨_, by rw [hnone], by rw [hnone']⟩
  · have howner := Environment.userId_eq_of_redacted (redacted_of_mem_zip h hpair)
    simp only [hfind, hfind', howner]
    by_cases huser : e.userId = userId
    · exact .inr ⟨e, e', if_pos huser, if_pos huser, hpair⟩
    · exact .inl ⟨_, if_neg huser, if_neg huser⟩

/-- The environments of a user are listed in the same order. -/
theorem SameButSecrets.listFor (h : SameButSecrets environments environments') (userId : String) :
    (environments'.listFor userId).map Environment.redacted =
      (environments.listFor userId).map Environment.redacted := by
  have hsorted (es : List Environment) : (es.mergeSort fun a b => a.name ≤ b.name).map Environment.redacted =
      (es.map Environment.redacted).mergeSort fun a b => a.name ≤ b.name :=
    List.map_mergeSort fun _ _ _ _ => rfl
  have hfilter (es : List Environment) : (es.filter (·.userId == userId)).map Environment.redacted =
      (es.map Environment.redacted).filter (·.userId == userId) := by
    rw [List.filter_map]
    rfl
  rw [EnvironmentStore.listFor, EnvironmentStore.listFor, hsorted, hsorted, hfilter, hfilter, h]

end EnvironmentStore

open EnvironmentStore (Pairs SameButSecrets)

/-- Creating a saved query uses no more of an environment than that it is there. -/
theorem SavedCall.run_of_redacted {environments environments' : EnvironmentStore}
    (h : SameButSecrets environments environments') (c : SavedCall) (s : SavedRows) :
    c.run environments' s = c.run environments s := by
  cases c with
  | create userId i now n =>
    have hnew : SavedQuery.new environments' userId i now n = SavedQuery.new environments userId i now n := by
      rcases h.owned userId n.environmentId with ⟨f, hf, hf'⟩ | ⟨e, e', he, he', -⟩
      · simp only [SavedQuery.new, hf, hf']
      · simp only [SavedQuery.new, he, he']
        rfl
    simp only [run, SavedQuery.create, hnew]
  | get | list | update | delete => rfl

/-! ### Remote sides -/

/-- Two remote sides that are told apart by secrets alone. For environments in the same place of two stores they fail in
the same way to issue a token, or issue tokens that may differ in their texts, and with those they are asked the same
and give the same answers, whatever was asked before. -/
structure Remote.SameButSecrets (environments environments' : EnvironmentStore) (remote remote' : Remote) : Prop where
  signIn : ∀ e e', Pairs environments environments' e e' → ∀ log log', redactedLog log' = redactedLog log →
    (remote'.signIn log' e').map Token.redacted = (remote.signIn log e).map Token.redacted
  answer : ∀ e e', Pairs environments environments' e e' → ∀ log log', redactedLog log' = redactedLog log →
    ∀ t t', remote.signIn log e = .ok t → remote'.signIn log' e' = .ok t' →
    ∀ later later', redactedLog later' = redactedLog later → ∀ resource prefer,
      remote'.answer later' ⟨e', t', resource, prefer⟩ = remote.answer later ⟨e, t, resource, prefer⟩

open Exchange (runFrom_ofExcept)
open Talk (runFrom_ask)

/-- What is heard in two sessions is the same if every single answer is. -/
theorem Talk.runFrom_of_redacted {α : Type} (s s' : Session)
    (henvironment : s'.environment.redacted = s.environment.redacted)
    (htoken : s'.token.redacted = s.token.redacted)
    (hanswer : ∀ later later', redactedLog later' = redactedLog later → ∀ resource prefer,
      s'.remote.answer later' ⟨s'.environment, s'.token, resource, prefer⟩ =
        s.remote.answer later ⟨s.environment, s.token, resource, prefer⟩)
    (t : Talk α) {log log' : Log} (hlog : redactedLog log' = redactedLog log) :
    ((t.through s').runFrom log').1 = ((t.through s).runFrom log).1 ∧
      redactedLog ((t.through s').runFrom log').2 = redactedLog ((t.through s).runFrom log).2 := by
  -- both are asked the same next, as they have heard the same so far
  induction t generalizing log log' with
  | done r => exact ⟨rfl, hlog⟩
  | ask resource prefer next ih =>
    rw [runFrom_ask, runFrom_ask, hanswer log log' hlog]
    refine ih _ ?_
    rw [redactedLog_concat, redactedLog_concat, hlog]
    simp only [Event.redacted, Call.redacted, henvironment, htoken]

theorem outcome_visit_of_redacted {α : Type} {environments environments' : EnvironmentStore} {remote remote' : Remote}
    (henvironments : SameButSecrets environments environments')
    (hremote : Remote.SameButSecrets environments environments' remote remote') (userId id : String)
    (check : Except Error Unit) (t : Talk α) {log log' : Log} (hlog : redactedLog log' = redactedLog log) :
    ((visit remote' environments' userId id check t).runFrom log').1 =
        ((visit remote environments userId id check t).runFrom log).1 ∧
      redactedLog ((visit remote' environments' userId id check t).runFrom log').2 =
        redactedLog ((visit remote environments userId id check t).runFrom log).2 := by
  rw [runFrom_visit, runFrom_visit]
  rcases check with f | ⟨⟩
  · exact ⟨rfl, hlog⟩
  rcases henvironments.owned userId id with ⟨f, hf, hf'⟩ | ⟨e, e', he, he', hpair⟩
  · simp only [hf, hf']
    exact ⟨trivial, hlog⟩
  have hredacted := EnvironmentStore.redacted_of_mem_zip henvironments hpair
  have hsignIn := hremote.signIn e e' hpair log log' hlog
  have hlog' : redactedLog (log' ++ [.signIn e']) = redactedLog (log ++ [.signIn e]) := by
    rw [redactedLog_concat, redactedLog_concat, hlog]
    simp only [Event.redacted, hredacted]
  simp only [he, he']
  rcases htoken : remote.signIn log e with f | token <;> rcases htoken' : remote'.signIn log' e' with f' | token' <;>
    rw [htoken, htoken'] at hsignIn
  · obtain rfl : f' = f := Except.error.inj hsignIn
    exact ⟨rfl, hlog'⟩
  · cases hsignIn
  · cases hsignIn
  · exact Talk.runFrom_of_redacted ⟨remote, e, token⟩ ⟨remote', e', token'⟩ hredacted
      (Except.ok.inj hsignIn) (hremote.answer e e' hpair log log' hlog token token' htoken htoken') t hlog'

/-! ### Services -/

namespace Web

/-- Two services that are told apart, if at all, by the secrets of their environments and the texts of the tokens issued
for them. -/
structure Service.SameButSecrets (s s' : Service) : Prop where
  environments : s.environments.SameButSecrets s'.environments
  remote : s.remote.SameButSecrets s.environments s'.environments s'.remote
  paging : s'.paging = s.paging
  exporting : s'.exporting = s.exporting

/-- Two states that are told apart by secrets in their logs alone. -/
structure ServiceState.SameButSecrets (state state' : ServiceState) : Prop where
  saved : state'.saved = state.saved
  log : redactedLog state'.log = redactedLog state.log

namespace Service.SameButSecrets

variable {s s' : Service} {state state' : ServiceState}

theorem perform (h : s.SameButSecrets s') (user : String) (fresh : Uuid) (now : Time) (order : Order)
    (hstate : state.SameButSecrets state') :
    (s'.perform user fresh now order state').1 = (s.perform user fresh now order state).1 ∧
      (s.perform user fresh now order state).2.SameButSecrets (s'.perform user fresh now order state').2 := by
  rcases order.kinds user fresh now with rfl | ⟨id, hid⟩ | ⟨c, hc, -, -⟩
  · rw [perform_environments, perform_environments]
    have hlisted (es : List Environment) :
        es.map Environment.toJson = (es.map Environment.redacted).map Environment.toJson := by
      rw [List.map_map]
      rfl
    refine ⟨?_, hstate⟩
    rw [Yield.list, Yield.list, hlisted, h.environments.listFor, ← hlisted]
  · obtain ⟨check, t, hvisit⟩ := Order.visits hid s.paging s.exporting
    rw [hvisit s rfl rfl, hvisit s' h.paging h.exporting]
    obtain ⟨houtcome, hlog⟩ := outcome_visit_of_redacted h.environments h.remote user id check t hstate.log
    exact ⟨houtcome, hstate.saved, hlog⟩
  · rw [s.perform_savedCall user fresh now state hc, s'.perform_savedCall user fresh now state' hc, hstate.saved,
      SavedCall.run_of_redacted h.environments]
    exact ⟨rfl, rfl, hstate.log⟩

theorem answer (h : s.SameButSecrets s') (fresh : Uuid) (now : Time) (r : Request)
    (hstate : state.SameButSecrets state') :
    (s'.answer fresh now r state').1 = (s.answer fresh now r state).1 ∧
      (s.answer fresh now r state).2.SameButSecrets (s'.answer fresh now r state').2 := by
  rw [Service.answer, Service.answer]
  rcases r.order with refusal | ⟨user, order⟩
  · exact ⟨rfl, hstate⟩
  · obtain ⟨houtcome, hnext⟩ := h.perform user fresh now order hstate
    exact ⟨by simp only [Prod.map_fst, houtcome], hnext⟩

/-- The answers to a run of requests are the same, and no secret is told from what is kept. -/
theorem answerAll (h : s.SameButSecrets s') (requests : List (Uuid × Time × Request))
    (hstate : state.SameButSecrets state') :
    (s'.answerAll requests state').1 = (s.answerAll requests state).1 ∧
      (s.answerAll requests state).2.SameButSecrets (s'.answerAll requests state').2 := by
  induction requests generalizing state state' with
  | nil => exact ⟨rfl, hstate⟩
  | cons first rest ih =>
    obtain ⟨fresh, now, r⟩ := first
    obtain ⟨hanswer, hnext⟩ := h.answer fresh now r hstate
    obtain ⟨hanswers, hlast⟩ := ih hnext
    rw [answerAll_cons, answerAll_cons, hanswer, hanswers]
    exact ⟨rfl, hlast⟩

end Service.SameButSecrets

namespace Service

/-- Secrets are never answered: two services that differ in the secrets of their environments and the texts of their
tokens alone answer every run of requests alike, in status, headers and body, and environments and tokens that differ in
them alone have the same JSON and diagnostic texts. -/
theorem answers_independent_of_secrets (s s' : Service) (h : s.SameButSecrets s')
    (requests : List (Uuid × Time × Request)) :
    (s'.answerAll requests .start).1 = (s.answerAll requests .start).1 ∧
    (∀ e e' : Environment, e'.redacted = e.redacted →
      e'.toJson = e.toJson ∧ e'.describe = e.describe ∧ e'.describeSeed = e.describeSeed) ∧
    ∀ t t' : Token, t'.redacted = t.redacted → t'.describe = t.describe := by
  refine ⟨(h.answerAll requests ⟨rfl, rfl⟩).1, fun e e' he => ⟨?_, ?_, ?_⟩, fun t t' ht => ?_⟩
  · rw [← e'.toJson_redacted, he, e.toJson_redacted]
  · rw [← e'.describe_redacted, he, e.describe_redacted]
  · rw [← e'.describeSeed_redacted, he, e.describeSeed_redacted]
  · rw [← t'.describe_redacted, ht, t.describe_redacted]

/-- A service with one environment, whose token is made from its secret. The Web API lists an entity and refuses all
else, and it takes no other token. -/
def guardedService (secret : String) : Service where
  environments := ⟨[⟨"prod", "ann", "Production", "https://contoso.example", "tenant", "client", secret⟩]⟩
  remote :=
    { signIn := fun _ e => .ok ⟨"token of " ++ e.clientSecret, none⟩
      answer := fun _ c =>
        if c.token.secret = "token of " ++ c.environment.clientSecret then
          if c.prefer = none then
            .ok (.ofMembers [("LogicalName", .text "account"), ("EntitySetName", .text "accounts")])
          else .error (.request 400 "no such column" none)
        else .error (.request 401 "" none) }
  paging := {}
  exporting := {}

/-- The owner asks for the environments and runs a query that is refused. -/
def guardedRequests : List (Uuid × Time × Request) :=
  [(.ofNat 1, ⟨10⟩, ⟨.get, "/api/environments", none, some "ann", none, ""⟩),
    (.ofNat 2, ⟨20⟩, ⟨.post, "/api/query/execute", none, some "ann", some "application/json",
      "\x7b\"query\":\x7b\"environmentId\":\"prod\",\"primaryEntity\":\"account\",\"fields\":[[\"main\",\"name\"]]\x7d\x7d"⟩)]

theorem guardedService_sameButSecrets (secret secret' : String) :
    (guardedService secret).SameButSecrets (guardedService secret') where
  environments := rfl
  paging := rfl
  exporting := rfl
  remote := by
    refine ⟨fun _ _ _ _ _ _ => rfl, ?_⟩
    intro e e' _ log log' _ t t' ht ht' later later' _ resource prefer
    obtain rfl := Except.ok.inj ht
    obtain rfl := Except.ok.inj ht'
    simp only [guardedService, if_true]

/-- Neither the list of environments nor the refusal, which shows the query, tells which secret there is. -/
theorem answers_independent_of_secrets_sample :
    (guardedService "hunter2").SameButSecrets (guardedService "correct horse") ∧
      (guardedService "hunter2").environments.entries ≠ (guardedService "correct horse").environments.entries ∧
      ((guardedService "hunter2").answerAll guardedRequests .start).1.map (·.status) = [200, 502] ∧
      ((guardedService "correct horse").answerAll guardedRequests .start).1 =
        ((guardedService "hunter2").answerAll guardedRequests .start).1 := by
  have hsame := guardedService_sameButSecrets "hunter2" "correct horse"
  exact ⟨hsame, by decide, by decide +kernel, (answers_independent_of_secrets _ _ hsame guardedRequests).1⟩

end Service

end Web

end QueryDesk
