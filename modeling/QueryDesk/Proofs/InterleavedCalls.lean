import QueryDesk.Proofs.InterleavedUpdates
import QueryDesk.Proofs.SavedSoundness

/-!
# Interleaved calls

Any number of calls on saved queries take turns on the rows, step by step. `SavedCall.Move` lists the steps there are:
reading, creating a row, writing a revised row in place of the one that was read, and removing a row that was read. An
update and a delete act on a row they have read some time ago, which is safe since a row keeps its owner and its
environment, since what was removed is not put back, and since no two calls create one id: `Progress` says so of the
rows and of what each call has left to do, and every step keeps it (`Progress.step`). What is gone stays gone
(`Gone.step`).
-/

namespace QueryDesk

namespace Action

variable {ι α β : Type} [DecidableEq ι]

/-- An action with its result changed. -/
def map (f : α → β) : Action α → Action β
  | done a => done (f a)
  | find id next => find id fun found => (next found).map f
  | list userId next => list userId fun rows => (next rows).map f
  | insert q next => insert q (next.map f)
  | replace q next => replace q fun there => (next there).map f
  | remove id next => remove id fun there => (next there).map f

theorem run_map (f : α → β) (x : Action α) (s : SavedRows) : (x.map f).run s = (x.run s).map f id := by
  induction x generalizing s with
  | done a => rfl
  | find id next ih => exact ih _ s
  | list userId next ih => exact ih _ s
  | insert q next ih => exact ih _
  | replace q next ih => exact ih _ _
  | remove id next ih => exact ih _ _

/-- What every step keeps holds after any number of turns. -/
@[elab_as_elim]
theorem takeTurns_induction {P : (ι → Action α) → SavedRows → Prop} {x x' : ι → Action α} {s s' : SavedRows}
    {turns : List ι}
    (hstep : ∀ x s k y s', P x s → (x k).step s = some (y, s') → P (Function.update x k y) s') (h : P x s)
    (hturns : takeTurns s x turns = some (x', s')) : P x' s' := by
  induction turns generalizing s x with
  | nil =>
    obtain ⟨rfl, rfl⟩ := takeTurns_nil.1 hturns
    exact h
  | cons k turns ih =>
    rw [takeTurns] at hturns
    cases hk : (x k).step s with
    | none =>
      rw [hk] at hturns
      cases hturns
    | some next =>
      rw [hk] at hturns
      exact ih (hstep x s k _ _ h hk) hturns

end Action

/-! ### The steps of a call -/

namespace SavedCall

open SavedQuery

variable {environments : EnvironmentStore} {s s' : SavedRows} {c : SavedCall} {a a' : Action SavedReply}

/-- The steps of a call. -/
def action (environments : EnvironmentStore) : SavedCall → Action SavedReply
  | create userId i now n => (SavedQuery.create environments userId i now n).map .saved
  | get userId i => (SavedQuery.get userId i).map .saved
  | list userId environmentId => (SavedQuery.list userId environmentId).map .listed
  | update userId i now u => (SavedQuery.update userId i now u).map .saved
  | delete userId i => (SavedQuery.delete userId i).map .deleted

/-- A call is carried out by taking all of its steps. -/
theorem run_action (environments : EnvironmentStore) (c : SavedCall) (s : SavedRows) :
    (c.action environments).run s = c.run environments s := by
  cases c <;> exact Action.run_map ..

/-- What an update still has to do once it has read a row. -/
def writing (q : SavedQuery) (now : Time) (u : SavedQueryUpdate) : Action SavedReply :=
  .replace (q.revised now u) fun there =>
    .done (.saved (if there then .ok (q.revised now u) else .error (missing q.id)))

/-- What a delete still has to do once it has read a row. -/
def removing (q : SavedQuery) : Action SavedReply :=
  .remove q.id fun there => .done (.deleted (if there then .ok () else .error (missing q.id)))

/-- What a call can have left to do, where the rows it has read are `Known`. -/
inductive Left (environments : EnvironmentStore) (Known : SavedQuery → Prop) : SavedCall → Action SavedReply → Prop
  | all (c : SavedCall) : Left environments Known c (c.action environments)
  | write {q : SavedQuery} {now : Time} {u : SavedQueryUpdate} (hq : Known q)
      (hfault : changeFault q.environmentId u = none) :
      Left environments Known (.update q.userId q.id now u) (writing q now u)
  | remove {q : SavedQuery} (hq : Known q) : Left environments Known (.delete q.userId q.id) (removing q)
  | nothing (c : SavedCall) (r : SavedReply) : Left environments Known c (.done r)

/-- The steps of calls: what is left to do after one, and what the rows are. -/
inductive Move (environments : EnvironmentStore) (Known : SavedQuery → Prop) (s : SavedRows) :
    SavedCall → Action SavedReply → SavedRows → Prop
  | created {userId : String} {i : Uuid} {now : Time} {n : NewSavedQuery}
      (hfault : creationFault environments userId n = none) :
      Move environments Known s (.create userId i now n) (.done (.saved (.ok (created userId i now n))))
        (s.insert (created userId i now n))
  | got {userId : String} {i : Uuid} :
      Move environments Known s (.get userId i) (.done (.saved (ownedBy userId i (s.find? i)))) s
  | listed {userId : String} {environmentId : Option String} :
      Move environments Known s (.list userId environmentId)
        (.done (.listed ((inEnvironment environmentId (s.listOf userId)).mergeSort lastChangedFirst))) s
  | readToWrite {q : SavedQuery} {i : Uuid} {now : Time} {u : SavedQueryUpdate} (hfind : s.find? i = some q)
      (hfault : changeFault q.environmentId u = none) :
      Move environments Known s (.update q.userId i now u) (writing q now u) s
  | notRevised {userId : String} {i : Uuid} {now : Time} {u : SavedQueryUpdate} {e : Error}
      (hfault : (ownedBy userId i (s.find? i)).bind (·.changed now u) = .error e) :
      Move environments Known s (.update userId i now u) (.done (.saved (.error e))) s
  | written {q : SavedQuery} {now : Time} {u : SavedQueryUpdate} (hq : Known q)
      (hfault : changeFault q.environmentId u = none) :
      Move environments Known s (.update q.userId q.id now u)
        (.done (.saved (if (s.replace (q.revised now u)).1 then .ok (q.revised now u) else .error (missing q.id))))
        (s.replace (q.revised now u)).2
  | readToRemove {q : SavedQuery} {i : Uuid} (hfind : s.find? i = some q) :
      Move environments Known s (.delete q.userId i) (removing q) s
  | notRemoved {userId : String} {i : Uuid} {e : Error} (hfault : ownedBy userId i (s.find? i) = .error e) :
      Move environments Known s (.delete userId i) (.done (.deleted (.error e))) s
  | removed {q : SavedQuery} (hq : Known q) :
      Move environments Known s (.delete q.userId q.id)
        (.done (.deleted (if (s.remove q.id).1 then .ok () else .error (missing q.id)))) (s.remove q.id).2

variable {Known : SavedQuery → Prop}

/-- A step of a call that has everything left to do. -/
theorem move_action (hstep : (c.action environments).step s = some (a', s')) : c.Move environments Known s a' s' := by
  cases c with
  | create userId i now n =>
    rw [action, SavedQuery.create, new_eq] at hstep
    cases hfault : creationFault environments userId n with
    | some e =>
      rw [hfault] at hstep
      cases hstep
    | none =>
      rw [hfault] at hstep
      cases hstep
      exact .created hfault
  | get userId i =>
    cases hstep
    exact .got
  | list userId environmentId =>
    cases hstep
    exact .listed
  | update userId i now u =>
    obtain ⟨rfl, rfl⟩ := Prod.mk.inj (Option.some.inj hstep)
    cases hchanged : (ownedBy userId i (s.find? i)).bind (·.changed now u) with
    | error e =>
      simp only [hchanged]
      exact .notRevised hchanged
    | ok r =>
      simp only [hchanged]
      cases hfound : ownedBy userId i (s.find? i) with
      | error e =>
        rw [hfound] at hchanged
        cases hchanged
      | ok q =>
        obtain ⟨hfind, rfl⟩ := ownedBy_eq_ok_iff.1 hfound
        rw [hfound, Except.bind, changed_eq] at hchanged
        cases hfault : changeFault q.environmentId u with
        | some e =>
          rw [hfault] at hchanged
          cases hchanged
        | none =>
          rw [hfault] at hchanged
          cases hchanged
          obtain rfl : q.id = i := SavedRows.id_of_find? hfind
          exact .readToWrite hfind hfault
  | delete userId i =>
    obtain ⟨rfl, rfl⟩ := Prod.mk.inj (Option.some.inj hstep)
    cases hfound : ownedBy userId i (s.find? i) with
    | error e =>
      simp only [hfound]
      exact .notRemoved hfound
    | ok q =>
      simp only [hfound]
      obtain ⟨hfind, rfl⟩ := ownedBy_eq_ok_iff.1 hfound
      obtain rfl : q.id = i := SavedRows.id_of_find? hfind
      exact .readToRemove hfind

theorem Left.move (h : c.Left environments Known a) (hstep : a.step s = some (a', s')) :
    c.Move environments Known s a' s' := by
  cases h with
  | all => exact move_action hstep
  | write hq hfault =>
    cases hstep
    exact .written hq hfault
  | remove hq =>
    cases hstep
    exact .removed hq
  | nothing => cases hstep

theorem Left.mono {Known' : SavedQuery → Prop} (h : c.Left environments Known a) (hknown : ∀ q, Known q → Known' q) :
    c.Left environments Known' a := by
  cases h with
  | all => exact .all c
  | write hq hfault => exact .write (hknown _ hq) hfault
  | remove hq => exact .remove (hknown _ hq)
  | nothing => exact .nothing c _

theorem Move.left (h : c.Move environments Known s a s') (hknown : ∀ q ∈ s.rows, Known q) :
    c.Left environments Known a := by
  cases h with
  | readToWrite hfind hfault =>
    obtain rfl := SavedRows.id_of_find? hfind
    exact .write (hknown _ (SavedRows.mem_of_find? hfind)) hfault
  | readToRemove hfind =>
    obtain rfl := SavedRows.id_of_find? hfind
    exact .remove (hknown _ (SavedRows.mem_of_find? hfind))
  | _ => exact .nothing _ _

theorem Move.nodup_ids (h : c.Move environments Known s a s') (hids : (s.rows.map (·.id)).Nodup) :
    (s'.rows.map (·.id)).Nodup := by
  cases h with
  | created hfault => exact SavedRows.nodup_ids_insert hids
  | written hq hfault => exact SavedRows.nodup_ids_replace hids
  | removed hq => exact SavedRows.nodup_ids_remove hids
  | _ => exact hids

/-- A row after a step was there before, or it was created, or it is a known row revised. -/
theorem Move.cases_of_mem {q : SavedQuery} (h : c.Move environments Known s a s') (hq : q ∈ s'.rows) :
    q ∈ s.rows ∨
      (∃ userId i now n, c = .create userId i now n ∧ creationFault environments userId n = none ∧
        q = .created userId i now n ∧ ∃ r, a = .done r) ∨
      ∃ q₀ now u, Known q₀ ∧ changeFault q₀.environmentId u = none ∧ q = q₀.revised now u := by
  cases h with
  | created hfault =>
    rcases List.mem_cons.1 hq with heq | hq
    · exact .inr (.inl ⟨_, _, _, _, rfl, hfault, heq, _, rfl⟩)
    · exact .inl (List.mem_of_mem_filter hq)
  | @written q₀ now u hq₀ hfault =>
    obtain ⟨r, hr, heq⟩ := List.mem_map.1 hq
    split at heq
    · exact .inr (.inr ⟨q₀, now, u, hq₀, hfault, heq.symm⟩)
    · exact .inl (heq ▸ hr)
  | removed hq₀ => exact .inl (List.mem_of_mem_filter hq)
  | _ => exact .inl hq

/-- An update of an id that no row has comes to nothing. -/
theorem Left.step_of_absent {userId : String} {i : Uuid} {now : Time} {u : SavedQueryUpdate}
    (h : (update userId i now u).Left environments Known a) (habsent : s.find? i = none)
    (hstep : a.step s = some (a', s')) : s' = s ∧ a' = .done (.saved (.error (missing i))) := by
  cases h with
  | all =>
    obtain ⟨rfl, rfl⟩ := Prod.mk.inj (Option.some.inj hstep)
    rw [habsent]
    exact ⟨rfl, rfl⟩
  | @write q now u hq hfault =>
    obtain ⟨rfl, rfl⟩ := Prod.mk.inj (Option.some.inj hstep)
    rw [SavedRows.replace_of_absent (q := q.revised now u) habsent]
    exact ⟨rfl, rfl⟩
  | nothing => cases hstep

theorem Left.ne_remove {userId : String} {i j : Uuid} {now : Time} {u : SavedQueryUpdate}
    {next : Bool → Action SavedReply} (h : (update userId i now u).Left environments Known a) : a ≠ .remove j next := by
  rintro rfl
  cases h

/-- A delete succeeds in the step that removes the row. -/
theorem Move.removed_of_deleted {userId : String} {i : Uuid} (h : (delete userId i).Move environments Known s a s')
    (ha : a = .done (.deleted (.ok ()))) : (s.remove i).1 = true ∧ s' = (s.remove i).2 := by
  cases h with
  | readToRemove => cases ha
  | notRemoved => cases ha
  | @removed q hq =>
    refine ⟨?_, rfl⟩
    by_contra hthere
    rw [if_neg hthere] at ha
    cases ha

/-- A step leaves the rows of all but the caller as they are. -/
theorem Move.listOf_eq (h : c.Move environments Known s a s')
    (hknown : ∀ q, Known q → ∀ r ∈ s.rows, r.id = q.id → r.userId = q.userId)
    (hnew : ∀ i, c.freshId? = some i → s.find? i = none) {userId : String} (hother : userId ≠ c.userId) :
    s'.listOf userId = s.listOf userId := by
  cases h with
  | created hfault =>
    refine SavedRows.listOf_insert (Ne.symm hother) fun r hr hid => ?_
    exact absurd hid (SavedRows.find?_eq_none_iff.1 (hnew _ rfl) r hr)
  | written hq hfault =>
    exact SavedRows.listOf_replace (Ne.symm hother) fun r hr hid => hknown _ hq r hr hid ▸ Ne.symm hother
  | removed hq => exact SavedRows.listOf_remove fun r hr hid => hknown _ hq r hr hid ▸ Ne.symm hother
  | _ => rfl

end SavedCall

/-! ### Calls in progress -/

namespace Interleaving

open SavedQuery
open QueryDesk.Action (takeTurns takeTurns_induction)

variable {ι : Type} {environments : EnvironmentStore} {calls : ι → SavedCall}
variable {x x' : ι → Action SavedReply} {s s' : SavedRows} {q r : SavedQuery} {k : ι} {y : Action SavedReply} {i : Uuid}

/-- No two calls create one id. -/
def FreshIds (calls : ι → SavedCall) : Prop :=
  ∀ k l i, (calls k).freshId? = some i → (calls l).freshId? = some i → k = l

/-- A row that has passed the checks and comes of a creation that is done. -/
structure Proper (environments : EnvironmentStore) (calls : ι → SavedCall) (x : ι → Action SavedReply)
    (q : SavedQuery) : Prop where
  sound : q.Sound environments
  origin : ∃ k n, calls k = .create q.userId q.id q.createdAt n ∧ n.environmentId = q.environmentId ∧
    ∃ a, x k = .done a

/-- The rows are proper, one for each id, and so is what calls have read of them. -/
structure Progress (environments : EnvironmentStore) (calls : ι → SavedCall) (x : ι → Action SavedReply)
    (s : SavedRows) : Prop where
  nodup_ids : (s.rows.map (·.id)).Nodup
  proper : ∀ q ∈ s.rows, Proper environments calls x q
  left : ∀ k, (calls k).Left environments (Proper environments calls x) (x k)

/-- No row has the id, and none will: the call that creates it is done. -/
structure Gone (calls : ι → SavedCall) (x : ι → Action SavedReply) (s : SavedRows) (i : Uuid) : Prop where
  absent : s.find? i = none
  created : ∀ k, (calls k).freshId? = some i → ∃ a, x k = .done a

/-- A delete of the id that has succeeded. -/
structure Deleted (calls : ι → SavedCall) (x : ι → Action SavedReply) (k : ι) (i : Uuid) : Prop where
  call : ∃ userId, calls k = .delete userId i
  succeeded : x k = .done (.deleted (.ok ()))

/-- What was deleted is gone, and it was deleted once. -/
structure DeletedOnce (calls : ι → SavedCall) (x : ι → Action SavedReply) (s : SavedRows) : Prop where
  gone : ∀ k i, Deleted calls x k i → Gone calls x s i
  once : ∀ k l i, Deleted calls x k i → Deleted calls x l i → k = l

theorem Proper.revised {now : Time} {u : SavedQueryUpdate} (h : Proper environments calls x q)
    (hfault : changeFault q.environmentId u = none) : Proper environments calls x (q.revised now u) :=
  ⟨h.sound.revised hfault, h.origin⟩

/-- Rows of one id come of one creation. -/
theorem Proper.same_origin (hfresh : FreshIds calls) (hq : Proper environments calls x q)
    (hr : Proper environments calls x' r) (hid : r.id = q.id) :
    r.userId = q.userId ∧ r.environmentId = q.environmentId ∧ r.createdAt = q.createdAt := by
  obtain ⟨k, n, hk, hn, -⟩ := hq.origin
  obtain ⟨l, m, hl, hm, -⟩ := hr.origin
  obtain rfl : k = l := hfresh k l q.id (by rw [hk]; rfl) (by rw [hl, hid]; rfl)
  obtain ⟨howner, -, hcreatedAt, rfl⟩ := SavedCall.create.inj (hk.symm.trans hl)
  exact ⟨howner.symm, hm.symm.trans hn, hcreatedAt.symm⟩

theorem Progress.start (environments : EnvironmentStore) (calls : ι → SavedCall) :
    Progress environments calls (fun k => (calls k).action environments) .empty where
  nodup_ids := .nil
  proper := by
    intro q hq
    cases hq
  left k := .all _

theorem Progress.move (h : Progress environments calls x s) (hstep : (x k).step s = some (y, s')) :
    (calls k).Move environments (Proper environments calls x) s y s' := (h.left k).move hstep

theorem Progress.absent_of_fresh (h : Progress environments calls x s) (hfresh : FreshIds calls)
    (hstep : (x k).step s = some (y, s')) (hid : (calls k).freshId? = some i) : s.find? i = none := by
  rw [SavedRows.find?_eq_none_iff]
  rintro r hr rfl
  obtain ⟨j, n, hcall, -, a, ha⟩ := (h.proper r hr).origin
  obtain rfl : j = k := hfresh j k r.id (by rw [hcall]; rfl) hid
  rw [ha] at hstep
  cases hstep

theorem Progress.listOf_step (h : Progress environments calls x s) (hfresh : FreshIds calls)
    (hstep : (x k).step s = some (y, s')) {userId : String} (hother : userId ≠ (calls k).userId) :
    s'.listOf userId = s.listOf userId :=
  (h.move hstep).listOf_eq (fun _ hq r hr hid => (hq.same_origin hfresh (h.proper r hr) hid).1)
    (fun _ hid => h.absent_of_fresh hfresh hstep hid) hother

theorem DeletedOnce.start (environments : EnvironmentStore) (calls : ι → SavedCall) :
    DeletedOnce calls (fun k => (calls k).action environments) .empty := by
  have hnone : ∀ k i, ¬ Deleted calls (fun k => (calls k).action environments) k i := by
    rintro k i ⟨⟨userId, hcall⟩, hdone⟩
    simp only [hcall] at hdone
    cases hdone
  exact ⟨fun k i h => absurd h (hnone k i), fun k l i h => absurd h (hnone k i)⟩

/-! ### Steps of one of the calls -/

variable [DecidableEq ι]

theorem done_of_step {j : ι} (hdone : ∃ a, x j = .done a) (hstep : (x k).step s = some (y, s')) :
    ∃ a, Function.update x k y j = .done a := by
  obtain ⟨a, ha⟩ := hdone
  by_cases hjk : j = k
  · rw [← hjk, ha] at hstep
    cases hstep
  · exact ⟨a, by rw [Function.update_of_ne hjk, ha]⟩

theorem Proper.mono (h : Proper environments calls x q) (hstep : (x k).step s = some (y, s')) :
    Proper environments calls (Function.update x k y) q := by
  obtain ⟨j, n, hcall, henvironment, hdone⟩ := h.origin
  exact ⟨h.sound, j, n, hcall, henvironment, done_of_step hdone hstep⟩

theorem Progress.step (h : Progress environments calls x s) (hstep : (x k).step s = some (y, s')) :
    Progress environments calls (Function.update x k y) s' where
  nodup_ids := (h.move hstep).nodup_ids h.nodup_ids
  proper := by
    intro q hq
    rcases (h.move hstep).cases_of_mem hq with
      hq | ⟨userId, i, now, n, hcall, hfault, rfl, a, rfl⟩ | ⟨q₀, now, u, hq₀, hfault, rfl⟩
    · exact (h.proper q hq).mono hstep
    · exact ⟨sound_created hfault, k, n, hcall, rfl, a, Function.update_self ..⟩
    · exact (hq₀.mono hstep).revised hfault
  left j := by
    have hmono : ∀ q, Proper environments calls x q → Proper environments calls (Function.update x k y) q :=
      fun q hq => hq.mono hstep
    by_cases hjk : j = k
    · rw [hjk, Function.update_self]
      exact ((h.move hstep).left h.proper).mono hmono
    · rw [Function.update_of_ne hjk]
      exact (h.left j).mono hmono

theorem Progress.gone_of_remove (h : Progress environments calls x s) (hfresh : FreshIds calls)
    (hthere : (s.remove i).1 = true) (hstep : (x k).step s = some (y, (s.remove i).2)) :
    Gone calls (Function.update x k y) (s.remove i).2 i where
  absent := by rw [SavedRows.find?_remove, if_pos rfl]
  created := by
    intro l hl
    obtain ⟨r, hr, hid⟩ := List.any_eq_true.1 hthere
    obtain ⟨j, n, hcall, -, hdone⟩ := (h.proper r hr).origin
    obtain rfl : j = l := hfresh j l i (by rw [hcall, ← beq_iff_eq.1 hid]; rfl) hl
    exact done_of_step hdone hstep

theorem Gone.step (hgone : Gone calls x s i) (h : Progress environments calls x s)
    (hstep : (x k).step s = some (y, s')) : Gone calls (Function.update x k y) s' i where
  absent := by
    have hmove := h.move hstep
    generalize hc : calls k = c at hmove
    cases hmove with
    | created hfault =>
      rw [SavedRows.find?_insert, if_neg, hgone.absent]
      rintro rfl
      obtain ⟨a, ha⟩ := hgone.created k (by rw [hc]; rfl)
      rw [ha] at hstep
      cases hstep
    | written hq hfault =>
      rw [SavedRows.find?_replace, hgone.absent]
      exact ite_self _
    | removed hq =>
      rw [SavedRows.find?_remove, hgone.absent]
      exact ite_self _
    | _ => exact hgone.absent
  created l hl := done_of_step (hgone.created l hl) hstep

theorem Deleted.of_step {j : ι} (h : Deleted calls (Function.update x k y) j i) : j = k ∨ Deleted calls x j i := by
  by_cases hjk : j = k
  · exact .inl hjk
  · exact .inr ⟨h.call, by rw [← h.succeeded, Function.update_of_ne hjk]⟩

theorem DeletedOnce.step (hdeleted : DeletedOnce calls x s) (h : Progress environments calls x s)
    (hfresh : FreshIds calls) (hstep : (x k).step s = some (y, s')) :
    DeletedOnce calls (Function.update x k y) s' := by
  -- the delete that has just succeeded has removed the row in this step
  have hnow : ∀ i, Deleted calls (Function.update x k y) k i → (s.remove i).1 = true ∧ s' = (s.remove i).2 := by
    rintro i ⟨⟨userId, hcall⟩, hdone⟩
    rw [Function.update_self] at hdone
    exact (hcall ▸ h.move hstep).removed_of_deleted hdone
  -- so no other has succeeded before
  have hfirst : ∀ l i, Deleted calls (Function.update x k y) k i → ¬ Deleted calls x l i := by
    intro l i hk hl
    obtain ⟨r, hr, hid⟩ := List.any_eq_true.1 (hnow i hk).1
    exact SavedRows.find?_eq_none_iff.1 (hdeleted.gone l i hl).absent r hr (beq_iff_eq.1 hid)
  constructor
  · intro j i hj
    rcases hj.of_step with rfl | hbefore
    · obtain ⟨hthere, rfl⟩ := hnow i hj
      exact h.gone_of_remove hfresh hthere hstep
    · exact (hdeleted.gone j i hbefore).step h hstep
  · intro j l i hj hl
    rcases hj.of_step with rfl | hj' <;> rcases hl.of_step with rfl | hl'
    · rfl
    · exact absurd hl' (hfirst l i hj)
    · exact absurd hj' (hfirst j i hl)
    · exact hdeleted.once j l i hj' hl'

/-! ### Any number of turns -/

variable {turns : List ι}

theorem progress_turns (hfresh : FreshIds calls)
    (hturns : takeTurns .empty (fun k => (calls k).action environments) turns = some (x, s)) :
    Progress environments calls x s ∧ DeletedOnce calls x s := by
  refine takeTurns_induction ?_ ⟨.start environments calls, .start environments calls⟩ hturns
  rintro x s k y s' ⟨h, hdeleted⟩ hstep
  exact ⟨h.step hstep, hdeleted.step h hfresh hstep⟩

theorem Progress.after (h : Progress environments calls x s) (hturns : takeTurns s x turns = some (x', s')) :
    Progress environments calls x' s' :=
  takeTurns_induction (fun _ _ _ _ _ h hstep => h.step hstep) h hturns

/-- What is gone stays gone, and an update of it that is not done finds it missing. -/
theorem Gone.after (hgone : Gone calls x s i) (h : Progress environments calls x s)
    (hturns : takeTurns s x turns = some (x', s')) :
    Gone calls x' s' i ∧
      ∀ l userId now u, calls l = .update userId i now u → (∀ a, x l ≠ .done a) →
        ∀ a, x' l = .done a → a = .saved (.error (missing i)) := by
  have hall : Progress environments calls x' s' ∧ Gone calls x' s' i ∧
      ∀ l userId now u, calls l = .update userId i now u → (∀ a, x l ≠ .done a) →
        ∀ a, x' l = .done a → a = .saved (.error (missing i)) := by
    refine takeTurns_induction (fun z s₁ k y s₂ => ?_) ?_ hturns
    · rintro ⟨hz, hgone, hmissing⟩ hstep
      refine ⟨hz.step hstep, hgone.step hz hstep, fun l userId now u hcall hnot a ha => ?_⟩
      by_cases hlk : l = k
      · subst hlk
        rw [Function.update_self] at ha
        obtain ⟨-, hy⟩ := (hcall ▸ hz.left l).step_of_absent hgone.absent hstep
        rw [hy] at ha
        cases ha
        rfl
      · rw [Function.update_of_ne hlk] at ha
        exact hmissing l userId now u hcall hnot a ha
    · exact ⟨h, hgone, fun l userId now u hcall hnot a ha => absurd ha (hnot a)⟩
  exact hall.2

/-- Calls whose steps interleave in any way keep every row sound and leave the rows of others as they are; a row keeps
its owner, its environment and the time of its creation; of the deletes of an id at most one succeeds; and once an id
is removed no row has it again, and an update of it that is not done, even one that has read the row, finds it missing
and writes nothing. -/
theorem interleaved_calls_safe (hfresh : FreshIds calls)
    (hturns : takeTurns .empty (fun k => (calls k).action environments) turns = some (x, s)) :
    (∀ q ∈ s.rows, q.Sound environments) ∧
      (∀ k y s', (x k).step s = some (y, s') → ∀ userId, userId ≠ (calls k).userId →
        s'.listOf userId = s.listOf userId) ∧
      (∀ later x' s', takeTurns s x later = some (x', s') → ∀ i q r, s.find? i = some q → s'.find? i = some r →
        r.userId = q.userId ∧ r.environmentId = q.environmentId ∧ r.createdAt = q.createdAt) ∧
      (∀ k l i userId userId', calls k = .delete userId i → calls l = .delete userId' i →
        x k = .done (.deleted (.ok ())) → x l = .done (.deleted (.ok ())) → k = l) ∧
      ∀ k i next, x k = .remove i next → (s.remove i).1 = true →
        ∀ later x' s', takeTurns (s.remove i).2 (Function.update x k (next true)) later = some (x', s') →
          s'.find? i = none ∧
            ∀ l userId now u, calls l = .update userId i now u → (∀ a, x l ≠ .done a) →
              (∀ a, x' l = .done a → a = .saved (.error (missing i))) ∧
                ∀ y s'', (x' l).step s' = some (y, s'') → s'' = s' := by
  obtain ⟨h, hdeleted⟩ := progress_turns hfresh hturns
  refine ⟨fun q hq => (h.proper q hq).sound, fun k y s' hstep userId hother => h.listOf_step hfresh hstep hother,
    ?_, ?_, ?_⟩
  · intro later x' s' hlater i q r hq hr
    have hid : r.id = q.id := (SavedRows.id_of_find? hr).trans (SavedRows.id_of_find? hq).symm
    exact (h.proper q (SavedRows.mem_of_find? hq)).same_origin hfresh
      ((h.after hlater).proper r (SavedRows.mem_of_find? hr)) hid
  · intro k l i userId userId' hk hl hxk hxl
    exact hdeleted.once k l i ⟨⟨_, hk⟩, hxk⟩ ⟨⟨_, hl⟩, hxl⟩
  · intro k i next hk hthere later x' s' hlater
    have hstep : (x k).step s = some (next true, (s.remove i).2) := by rw [hk, Action.step, hthere]
    have hprogress := (h.step hstep).after hlater
    obtain ⟨hgone, hmissing⟩ := (h.gone_of_remove hfresh hthere hstep).after (h.step hstep) hlater
    refine ⟨hgone.absent, fun l userId now u hcall hnot => ⟨?_, fun y s'' hstep' => ?_⟩⟩
    · refine hmissing l userId now u hcall fun a ha => ?_
      have hlk : l ≠ k := by
        rintro rfl
        exact (hcall ▸ h.left l).ne_remove hk
      rw [Function.update_of_ne hlk] at ha
      exact hnot a ha
    · exact ((hcall ▸ hprogress.left l).step_of_absent hgone.absent hstep').1

section Sample

open SavedRows (sampleEnvironments sampleNew creationFault_sample)

/-- The owner of a saved query renames it and, at the same time, deletes it. -/
def sampleCalls : Fin 3 → SavedCall
  | 0 => .create "ann" (.ofNat 1) ⟨10⟩ sampleNew
  | 1 => .update "ann" (.ofNat 1) ⟨20⟩ ⟨some "Customers", none, none⟩
  | 2 => .delete "ann" (.ofNat 1)

def sampleCreated : SavedQuery := .created "ann" (.ofNat 1) ⟨10⟩ sampleNew

theorem action_sample : (sampleCalls 0).action sampleEnvironments =
    .insert sampleCreated (.done (.saved (.ok sampleCreated))) := by
  rw [sampleCalls, SavedCall.action, SavedQuery.create, new_eq, creationFault_sample]
  rfl

theorem freshIds_sample : FreshIds sampleCalls := by
  have hcreates : ∀ k i, (sampleCalls k).freshId? = some i → k = 0 := by
    intro k i hk
    match k with
    | 0 => rfl
    | 1 | 2 => cases hk
  intro k l i hk hl
  rw [hcreates k i hk, hcreates l i hl]

/-- Both have read the row, and neither has written yet. -/
theorem takeTurns_sample : ∃ x, takeTurns .empty (fun k => (sampleCalls k).action sampleEnvironments) [0, 1, 2] =
      some (x, ⟨[sampleCreated]⟩) ∧
    x 1 = SavedCall.writing sampleCreated ⟨20⟩ ⟨some "Customers", none, none⟩ ∧
    x 2 = SavedCall.removing sampleCreated := by
  rw [Action.takeTurns_cons (k := 0) (x := fun k => (sampleCalls k).action sampleEnvironments) action_sample rfl]
  exact ⟨_, rfl, rfl, rfl⟩

theorem interleaved_calls_safe_sample : FreshIds sampleCalls ∧
    ∃ x, takeTurns .empty (fun k => (sampleCalls k).action sampleEnvironments) [0, 1, 2] =
        some (x, ⟨[sampleCreated]⟩) ∧
      x 1 = SavedCall.writing sampleCreated ⟨20⟩ ⟨some "Customers", none, none⟩ ∧
      ∃ x' s', takeTurns ⟨[sampleCreated]⟩ x [2, 1] = some (x', s') ∧ s'.find? (.ofNat 1) = none ∧
        x' 1 = .done (.saved (.error (missing (.ofNat 1)))) := by
  obtain ⟨x, hturns, hwriting, hremoving⟩ := takeTurns_sample
  obtain ⟨-, -, -, -, hremoved⟩ := interleaved_calls_safe freshIds_sample hturns
  -- the delete goes on, then the update
  obtain ⟨x', s', hlater, a, ha⟩ : ∃ x' s',
      takeTurns .empty (Function.update x 2 (.done (.deleted (.ok ())))) [1] = some (x', s') ∧
        ∃ a, x' 1 = .done a := by
    have hwriting' : Function.update x 2 (.done (.deleted (.ok ()))) 1 = _ :=
      (Function.update_of_ne (by decide) ..).trans hwriting
    exact ⟨_, _, Action.takeTurns_cons hwriting' rfl, _, Function.update_self ..⟩
  obtain ⟨habsent, hmissing⟩ := hremoved 2 (.ofNat 1) _ hremoving rfl [1] _ _ hlater
  have hnot : ∀ a, x 1 ≠ .done a := by
    rw [hwriting]
    intro a h
    cases h
  obtain rfl := (hmissing 1 _ _ _ rfl hnot).1 a ha
  exact ⟨freshIds_sample, x, hturns, hwriting, x', s', (Action.takeTurns_cons hremoving rfl).trans hlater, habsent, ha⟩

end Sample

end Interleaving

end QueryDesk
