import QueryDesk.Proofs.DecodedText
import QueryDesk.Proofs.SeparateUsers

/-!
# What requests change

Answering a request either leaves the saved queries alone or touches the row of one id. `Request.Effect` says which: an
answer other than 200 stands for no change, a request without a caller is answered with 401 and has no effect at all, and
what is changed by the others is the row that is created at `/api/saved-queries` or the one that is named below it
(`Request.Edit`), which is a row of the caller.
-/

namespace QueryDesk

/-! ### Rows -/

namespace SavedRows

variable {s : SavedRows} {q : SavedQuery} {i : Uuid}

/-- The rows but the one of an id. -/
def others (s : SavedRows) (i : Uuid) : List SavedQuery := s.rows.filter (·.id != i)

theorem others_insert (s : SavedRows) (q : SavedQuery) : (s.insert q).others q.id = s.others q.id := by
  rw [others, insert, List.filter_cons, bne_self_eq_false, if_neg Bool.false_ne_true, List.filter_filter]
  simp only [Bool.and_self]
  rfl

theorem others_replace (s : SavedRows) (q : SavedQuery) : (s.replace q).2.others q.id = s.others q.id := by
  rw [others, others, replace]
  induction s.rows with
  | nil => rfl
  | cons r rows ih =>
    rw [List.map_cons, List.filter_cons, List.filter_cons, ih]
    by_cases hid : r.id = q.id
    · rw [if_pos hid, hid]
      simp only [bne_self_eq_false, Bool.false_eq_true, if_false]
    · rw [if_neg hid]

theorem others_remove (s : SavedRows) (i : Uuid) : (s.remove i).2.others i = s.others i := by
  rw [others, remove, List.filter_filter]
  simp only [Bool.and_self]
  rfl

end SavedRows

/-! ### Paths -/

namespace Text

theorem splitAt_ne_nil (separator : Char) (cs : List Char) : splitAt separator cs ≠ [] := by
  cases cs with
  | nil => exact List.cons_ne_nil _ _
  | cons c cs =>
    rw [splitAt]
    split
    · exact List.cons_ne_nil _ _
    · split <;> exact List.cons_ne_nil _ _

theorem intercalate_splitAt (separator : Char) (cs : List Char) :
    [separator].intercalate (splitAt separator cs) = cs := by
  induction cs with
  | nil => rfl
  | cons c cs ih =>
    rw [splitAt]
    cases hparts : splitAt separator cs with
    | nil => exact absurd hparts (splitAt_ne_nil separator cs)
    | cons part parts =>
      rw [hparts] at ih
      split
      · next heq => rw [List.intercalate_cons_cons, ih, heq]; rfl
      · cases parts with
        | nil =>
          rw [List.intercalate_singleton] at ih
          rw [List.intercalate_singleton, ih]
        | cons p ps =>
          rw [List.intercalate_cons_cons] at ih
          rw [List.intercalate_cons_cons, ← ih]
          rfl

theorem intercalate_segments (path : String) :
    "/".intercalate ((splitAt '/' path.toList).map String.ofList) = path := by
  have hinverse : String.toList ∘ String.ofList = id := funext fun cs => String.toList_ofList
  rw [← String.toList_inj, String.toList_intercalate, List.map_map, hinverse, List.map_id]
  exact intercalate_splitAt '/' path.toList

end Text

namespace Web

namespace Place

variable {path : String} {place decoded : Place}

theorem path_of_saved (h : ofPath? path = some place) :
    (place = savedQueries → path = "/api/saved-queries") ∧
      ∀ text, place = savedQuery text → path = "/api/saved-queries/" ++ text := by
  rw [ofPath?] at h
  rw [← Text.intercalate_segments path]
  generalize (Text.splitAt '/' path.toList).map String.ofList = segments at h ⊢
  unfold ofSegments? at h
  split at h
  case h_9 =>
    cases h
    exact ⟨fun _ => rfl, nofun⟩
  case h_10 id =>
    split at h
    · cases h
    · cases h
      refine ⟨nofun, ?_⟩
      rintro _ ⟨⟩
      rfl
  case h_3 =>
    split at h
    · cases h
    · cases h
      exact ⟨nofun, nofun⟩
  case h_11 => cases h
  all_goals
    cases h
    exact ⟨nofun, nofun⟩

/-- Percent decoding changes what stands in the segments of a place, and not which place it is. -/
theorem saved_of_decode? (h : place.decode? = some decoded) :
    (decoded = savedQueries → place = savedQueries) ∧
      ∀ text, decoded = savedQuery text → ∃ written, place = savedQuery written := by
  cases place with
  | environments | execute | «export» =>
    cases h
    exact ⟨nofun, nofun⟩
  | savedQueries =>
    cases h
    exact ⟨fun _ => rfl, nofun⟩
  | entity e n | attributes e n | relationships e n =>
    obtain ⟨e', -, h⟩ := Option.bind_eq_some_iff.1 h
    obtain ⟨n', -, h⟩ := Option.bind_eq_some_iff.1 h
    cases h
    exact ⟨nofun, nofun⟩
  | entities e | describe e =>
    obtain ⟨e', -, h⟩ := Option.bind_eq_some_iff.1 h
    cases h
    exact ⟨nofun, nofun⟩
  | savedQuery written =>
    obtain ⟨text, -, h⟩ := Option.bind_eq_some_iff.1 h
    cases h
    exact ⟨nofun, fun _ _ => ⟨written, rfl⟩⟩

end Place

/-! ### Requests -/

namespace Request

/-- The request is for a place of the service, in a method the place answers to. -/
def Routed (r : Request) : Prop := ∃ place, Place.ofPath? r.path = some place ∧ r.method ∈ place.methods

/-- The header with the caller is missing, is not visible text, or is blank. -/
def Anonymous (r : Request) : Prop :=
  ∀ name, r.caller = some name → (∃ c ∈ name.toList, isHeaderChar c = false) ∨ Text.isBlankText name = true

/-- The id of the saved query that the path names. -/
def savedId? (r : Request) : Option Uuid :=
  match (Place.ofPath? r.path).bind Place.decode? with
  | some (.savedQuery text) => Uuid.parse? text
  | _ => none

/-- How a user changes the saved queries in a request, and the id of the row that is changed. -/
inductive Edit (r : Request) (fresh : Uuid) (before after : SavedRows) (user : String) : Uuid → Prop
  | created {q : SavedQuery} (method : r.method = .post) (path : r.path = "/api/saved-queries")
      (row : after.find? fresh = some q) (owner : q.userId = user) : Edit r fresh before after user fresh
  | revised {i : Uuid} {text : String} {old new : SavedQuery} (method : r.method = .put)
      (path : r.path = "/api/saved-queries/" ++ text) (named : r.savedId? = some i) (found : before.find? i = some old)
      (row : after.find? i = some new) (owner : old.userId = user ∧ new.userId = user) :
      Edit r fresh before after user i
  | removed {i : Uuid} {text : String} {old : SavedQuery} (method : r.method = .delete)
      (path : r.path = "/api/saved-queries/" ++ text) (named : r.savedId? = some i) (found : before.find? i = some old)
      (gone : after.find? i = none) (owner : old.userId = user) : Edit r fresh before after user i

/-- What a request has to do with the state before its answer and the state after it. -/
structure Effect (r : Request) (fresh : Uuid) (response : Response) (before after : ServiceState) : Prop where
  /-- Where the answer is not 200 the saved queries stay as they are. -/
  rejected : response.status ≠ 200 → after.saved = before.saved
  /-- Without a caller nothing is done and nothing is asked, whatever else is in the request. -/
  anonymous : r.Routed → r.Anonymous → response.status = 401 ∧ after = before
  /-- Where the answer is 200 the only row that can change is the one created or named, which is the caller's. -/
  accepted : response.status = 200 → after.saved ≠ before.saved → ∃ user i, r.user? = some user ∧
    r.Edit fresh before.saved after.saved user i ∧ after.saved.others i = before.saved.others i

variable {r : Request}

theorem user?_eq_none_iff : r.user? = none ↔ r.Anonymous := by
  rw [user?, Anonymous]
  cases r.caller with
  | none => exact iff_of_true rfl nofun
  | some name =>
    rw [Option.bind_some]
    by_cases htext : name.toList.all isHeaderChar = true
    · by_cases hblank : Text.trim name = ""
      · refine iff_of_true (by simp only [hblank, bne_self_eq_false, Bool.and_false, Bool.false_eq_true, if_false]) ?_
        rintro _ ⟨⟩
        exact .inr (Text.trim_eq_empty_iff.1 hblank)
      · refine iff_of_false (by simp only [htext, bne_iff_ne.2 hblank, Bool.and_self, if_true]; nofun) fun h => ?_
        rcases h name rfl with ⟨c, hc, hnot⟩ | h
        · exact Bool.false_ne_true (hnot.symm.trans (List.all_eq_true.1 htext c hc))
        · exact hblank (Text.trim_eq_empty_iff.2 h)
    · have hfalse := Bool.eq_false_of_not_eq_true htext
      refine iff_of_true (by simp only [hfalse, Bool.false_and, Bool.false_eq_true, if_false]) ?_
      rintro _ ⟨⟩
      obtain ⟨c, hc, hnot⟩ := List.all_eq_false.1 hfalse
      exact .inl ⟨c, hc, Bool.eq_false_of_not_eq_true hnot⟩

theorem order_of_anonymous (hrouted : r.Routed) (h : r.Anonymous) : r.order = .error .noUser := by
  obtain ⟨place, hplace, hmethod⟩ := hrouted
  rw [order, hplace, user?_eq_none_iff.2 h]
  simp only [if_neg (not_not.2 hmethod)]

/-- Where a request that may change the saved queries is sent. -/
def SentTo (r : Request) (place : Place) : Order → Prop
  | .createSaved _ => place = .savedQueries ∧ r.method = .post
  | .updateSaved i _ => r.method = .put ∧ ∃ text, place = .savedQuery text ∧ Uuid.parse? text = some i
  | .deleteSaved i => r.method = .delete ∧ ∃ text, place = .savedQuery text ∧ Uuid.parse? text = some i
  | _ => True

theorem savedId_eq_ok {text : String} {i : Uuid} (h : savedId text = .ok i) : Uuid.parse? text = some i := by
  rw [savedId] at h
  cases hparse : Uuid.parse? text with
  | none => rw [hparse] at h; cases h
  | some j => rw [hparse] at h; rw [Except.ok.inj h]

theorem sentTo_of_orderAt {place : Place} {order : Order} (h : r.orderAt place = .ok order) : r.SentTo place order := by
  cases place with
  | environments | entities | entity | attributes | relationships => cases h; trivial
  | describe | execute | «export» =>
    obtain ⟨given, -, h⟩ := Except.exists_of_bind_eq_ok h
    cases h
    trivial
  | savedQueries =>
    simp only [orderAt] at h
    split at h
    · next hmethod =>
      obtain ⟨given, -, h⟩ := Except.exists_of_bind_eq_ok h
      cases h
      exact ⟨rfl, hmethod⟩
    · obtain ⟨given, -, h⟩ := Except.exists_of_bind_eq_ok h
      cases h
      trivial
  | savedQuery text =>
    obtain ⟨i, hi, h⟩ := Except.exists_of_bind_eq_ok h
    have hnamed := savedId_eq_ok hi
    split at h
    · next hmethod =>
      obtain ⟨update, -, h⟩ := Except.exists_of_bind_eq_ok h
      cases h
      exact ⟨hmethod, text, rfl, hnamed⟩
    · split at h
      · next hmethod =>
        cases h
        exact ⟨hmethod, text, rfl, hnamed⟩
      · cases h
        trivial

theorem path_of_named {place : Place} {text : String} {i : Uuid} (hplace : Place.ofPath? r.path = some place)
    (hdecoded : place.decode? = some (.savedQuery text)) (hparse : Uuid.parse? text = some i) :
    (∃ written, r.path = "/api/saved-queries/" ++ written) ∧ r.savedId? = some i := by
  obtain ⟨written, hwritten⟩ := (Place.saved_of_decode? hdecoded).2 text rfl
  refine ⟨⟨written, (Place.path_of_saved hplace).2 written hwritten⟩, ?_⟩
  rw [savedId?, hplace, Option.bind_some, hdecoded]
  exact hparse

/-- What a call does to the rows where a request asks for it. -/
theorem edit_of_writes {environments : EnvironmentStore} {before after : SavedRows} {user : String} {fresh : Uuid}
    {now : Time} {order : Order} {c : SavedCall} (horder : r.order = .ok (user, order))
    (hc : order.savedCall? user fresh now = some c) (hwrites : c.Writes environments before after) :
    after = before ∨ ∃ i, r.Edit fresh before after user i ∧ after.others i = before.others i := by
  obtain ⟨place, decoded, hplace, -, -, hdecoded, hat⟩ := order_eq_ok horder
  have hsent := sentTo_of_orderAt hat
  cases order with
  | createSaved n =>
    cases hc
    cases hwrites with
    | nothing => exact .inl rfl
    | created hfault =>
      obtain ⟨rfl, hmethod⟩ := hsent
      have hpath := (Place.path_of_saved hplace).1 ((Place.saved_of_decode? hdecoded).1 rfl)
      refine .inr ⟨fresh, .created hmethod hpath ((SavedRows.find?_insert _ _ _).trans (if_pos rfl)) rfl, ?_⟩
      exact SavedRows.others_insert before (.created user fresh now n)
  | updateSaved i u =>
    obtain ⟨hmethod, text, rfl, hparse⟩ := hsent
    obtain ⟨⟨written, hpath⟩, hnamed⟩ := path_of_named hplace hdecoded hparse
    cases hc
    cases hwrites with
    | nothing => exact .inl rfl
    | @revised q _ _ _ hfind hfault =>
      obtain rfl : q.id = i := SavedRows.id_of_find? hfind
      have hrow : (before.replace (q.revised now u)).2.find? q.id = some (q.revised now u) := by
        rw [SavedRows.find?_replace, hfind]
        exact if_pos rfl
      refine .inr ⟨q.id, .revised hmethod hpath hnamed hfind hrow ⟨rfl, rfl⟩, ?_⟩
      exact SavedRows.others_replace before (q.revised now u)
  | deleteSaved i =>
    obtain ⟨hmethod, text, rfl, hparse⟩ := hsent
    obtain ⟨⟨written, hpath⟩, hnamed⟩ := path_of_named hplace hdecoded hparse
    cases hc
    cases hwrites with
    | nothing => exact .inl rfl
    | @removed q _ hfind =>
      have hgone : (before.remove i).2.find? i = none := (SavedRows.find?_remove _ _ _).trans (if_pos rfl)
      exact .inr ⟨i, .removed hmethod hpath hnamed hfind hgone rfl, SavedRows.others_remove before i⟩
  | listSaved | getSaved =>
    cases hc
    cases hwrites
    exact .inl rfl
  | _ => cases hc

end Request

/-! ### Answers -/

theorem Response.status_ofOutcome_ok (y : Yield) : (Response.ofOutcome (.ok y)).status = 200 := by
  cases y <;> rfl

theorem Yield.fails_of_ofReply {reply : SavedReply} {e : Error} (h : Yield.ofReply reply = .error e) : reply.Fails := by
  cases reply with
  | saved r | deleted r =>
    cases r with
    | ok a => cases h
    | error e => exact ⟨e, rfl⟩
  | listed qs => cases h

namespace Service

variable (s : Service) (fresh : Uuid) (now : Time) (r : Request) (state : ServiceState)

theorem status_answer : (s.answer fresh now r state).1.status =
    match r.order with
    | .error refusal => (Response.ofRefusal refusal).status
    | .ok (user, order) => (Response.ofOutcome (s.perform user fresh now order state).1).status := by
  rw [answer]
  cases r.order with
  | error refusal => dsimp only; split <;> rfl
  | ok asked => dsimp only; split <;> rfl

theorem saved_perform_or_savedCall (user : String) (order : Order) :
    (s.perform user fresh now order state).2.saved = state.saved ∨
      ∃ c, order.savedCall? user fresh now = some c := by
  rcases order.kinds user fresh now with rfl | ⟨id, hid⟩ | ⟨c, hc, -, -⟩
  · exact .inl rfl
  · -- a visit of an environment is an exchange with the remote side, and the saved queries have no part in it
    obtain ⟨check, t, hvisit⟩ := Order.visits hid s.paging s.exporting
    rw [hvisit s rfl rfl]
    exact .inl rfl
  · exact .inr ⟨c, hc⟩

theorem saved_of_rejected_perform {user : String} {order : Order}
    (h : (Response.ofOutcome (s.perform user fresh now order state).1).status ≠ 200) :
    (s.perform user fresh now order state).2.saved = state.saved := by
  rcases s.saved_perform_or_savedCall fresh now state user order with hsame | ⟨c, hc⟩
  · exact hsame
  · rw [s.perform_savedCall user fresh now state hc] at h ⊢
    cases houtcome : Yield.ofReply (c.run s.environments state.saved).1 with
    | ok y => exact absurd (houtcome ▸ Response.status_ofOutcome_ok y) h
    | error e => exact SavedCall.rows_of_fails (Yield.fails_of_ofReply houtcome)

theorem edit_of_perform {user : String} {order : Order} (horder : r.order = .ok (user, order)) :
    (s.perform user fresh now order state).2.saved = state.saved ∨
      ∃ i, r.Edit fresh state.saved (s.perform user fresh now order state).2.saved user i ∧
        (s.perform user fresh now order state).2.saved.others i = state.saved.others i := by
  rcases s.saved_perform_or_savedCall fresh now state user order with hsame | ⟨c, hc⟩
  · exact .inl hsame
  · rw [s.perform_savedCall user fresh now state hc]
    exact Request.edit_of_writes horder hc (c.writes_run s.environments state.saved)

theorem effect_answer :
    r.Effect fresh (s.answer fresh now r state).1 state (s.answer fresh now r state).2 := by
  cases horder : r.order with
  | error refusal =>
    have hstatus := s.status_answer fresh now r state
    have hstate := s.answer_snd fresh now r state
    rw [horder] at hstatus hstate
    refine ⟨fun _ => congrArg ServiceState.saved hstate, fun hrouted hanonymous => ⟨?_, hstate⟩,
      fun _ hchanged => absurd (congrArg ServiceState.saved hstate) hchanged⟩
    rw [Request.order_of_anonymous hrouted hanonymous] at horder
    cases horder
    exact hstatus
  | ok asked =>
    obtain ⟨user, order⟩ := asked
    have hstatus := s.status_answer fresh now r state
    have hstate := s.answer_snd fresh now r state
    rw [horder] at hstatus hstate
    rw [hstate]
    refine ⟨fun h => s.saved_of_rejected_perform fresh now state (hstatus.symm.trans_ne h),
      fun hrouted hanonymous => ?_, fun _ hchanged => ?_⟩
    · rw [Request.order_of_anonymous hrouted hanonymous] at horder
      cases horder
    · obtain ⟨-, -, -, -, huser, -, -⟩ := Request.order_eq_ok horder
      obtain ⟨i, hedit⟩ := (s.edit_of_perform fresh now r state horder).resolve_left hchanged
      exact ⟨user, i, huser, hedit⟩

/-- An id is in use only if it was given to an earlier request. -/
theorem find?_answerAll (requests : List (Uuid × Time × Request)) (hsaved : state.saved.find? fresh = none)
    (hfresh : fresh ∉ requests.map (·.1)) : (s.answerAll requests state).2.saved.find? fresh = none := by
  induction requests generalizing state with
  | nil => exact hsaved
  | cons first rest ih =>
    obtain ⟨given, now, r⟩ := first
    obtain ⟨hgiven, hrest⟩ := not_or.1 (mt List.mem_cons.2 hfresh)
    rw [answerAll_cons]
    refine ih _ (SavedRows.find?_eq_none_iff.2 fun q hq hid => ?_) hrest
    rcases id_of_mem_answer hq with ⟨p, hp, hpid⟩ | h
    · exact SavedRows.find?_eq_none_iff.1 hsaved p hp (hpid.trans hid)
    · exact hgiven (hid.symm.trans h)

/-- Requests that are rejected change nothing, and what the others change is a row of the caller: so in every state that
requests lead to, for every further request. The row that one of them creates is new where its id is. -/
theorem rejected_requests_change_nothing (s : Service) (prior : List (Uuid × Time × Request)) (fresh : Uuid)
    (now : Time) (r : Request) :
    r.Effect fresh (s.answer fresh now r (s.answerAll prior .start).2).1 (s.answerAll prior .start).2
        (s.answer fresh now r (s.answerAll prior .start).2).2 ∧
      (fresh ∉ prior.map (·.1) → (s.answerAll prior .start).2.saved.find? fresh = none) :=
  ⟨s.effect_answer fresh now r _, s.find?_answerAll fresh .start prior rfl⟩

/-- Ann saves a query, which Bob cannot delete and she can. -/
example : (sampleService.answerAll
    [(.ofNat 1, ⟨10⟩, ⟨.post, "/api/saved-queries", none, some "ann", some "application/json",
        "\x7b\"environmentId\":\"prod\",\"name\":\"All\",\"definition\":\x7b\"environmentId\":\"prod\"," ++
          "\"primaryEntity\":\"account\",\"fields\":[]\x7d\x7d"⟩),
      (.ofNat 2, ⟨20⟩, ⟨.delete, "/api/saved-queries/" ++ (Uuid.ofNat 1).print, none, some "bob", none, ""⟩),
      (.ofNat 3, ⟨30⟩, ⟨.delete, "/api/saved-queries/" ++ (Uuid.ofNat 1).print, none, some " ann ", none, ""⟩)]
    .start).1.map (·.status) = [200, 404, 200] := by
  decide +kernel

end Service

end Web

end QueryDesk
