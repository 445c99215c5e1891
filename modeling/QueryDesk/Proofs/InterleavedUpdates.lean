import Mathlib.Logic.Function.Basic
import QueryDesk.Proofs.SavedCalls

/-!
# Interleaved updates

Two updates of one saved query take turns on the rows, step by step. Each reads the row and later writes all of it, and
nothing is locked in between. Updates that do not overlap are one after the other; of two that overlap, the one that
writes last has changed the row that both of them read (`SavedQuery.turns_writes`), so what only the other names is
lost.
-/

namespace QueryDesk

/-! ### Taking turns -/

namespace Action

variable {ι α : Type} [DecidableEq ι]

/-- Lets actions take turns, one step a turn, as long as the one whose turn it is has a step left. -/
def takeTurns (s : SavedRows) (x : ι → Action α) : List ι → Option ((ι → Action α) × SavedRows)
  | [] => some (x, s)
  | k :: turns =>
    match (x k).step s with
    | none => none
    | some (y, s) => takeTurns s (Function.update x k y) turns

variable {s s' : SavedRows} {x x' : ι → Action α} {k : ι} {turns : List ι}

theorem takeTurns_nil : takeTurns s x [] = some (x', s') ↔ x = x' ∧ s = s' := by
  rw [takeTurns, Option.some.injEq, Prod.mk.injEq]

theorem takeTurns_cons {y z : Action α} {s₁ : SavedRows} (hk : x k = z) (hstep : z.step s = some (y, s₁)) :
    takeTurns s x (k :: turns) = takeTurns s₁ (Function.update x k y) turns := by
  rw [takeTurns, hk, hstep]

/-- What is done takes no turn. -/
theorem not_mem_of_done {a : α} (hturns : takeTurns s x turns = some (x', s')) (hk : x k = .done a) :
    k ∉ turns ∧ x' k = .done a := by
  induction turns generalizing s x with
  | nil =>
    obtain ⟨rfl, rfl⟩ := takeTurns_nil.1 hturns
    exact ⟨List.not_mem_nil, hk⟩
  | cons j turns ih =>
    rw [takeTurns] at hturns
    by_cases hjk : j = k
    · rw [hjk, hk] at hturns
      cases hturns
    · cases hstep : (x j).step s with
      | none =>
        rw [hstep] at hturns
        cases hturns
      | some next =>
        rw [hstep] at hturns
        obtain ⟨hmem, hdone⟩ := ih hturns (by rw [Function.update_of_ne (Ne.symm hjk), hk])
        exact ⟨List.not_mem_cons_of_ne_of_not_mem (Ne.symm hjk) hmem, hdone⟩

end Action

/-! ### The steps of an update -/

namespace SavedQuery

open QueryDesk.Action (takeTurns takeTurns_nil takeTurns_cons not_mem_of_done)

variable {s s' : SavedRows} {q q₀ : SavedQuery} {i : Uuid} {now : Time} {u : SavedQueryUpdate}

/-- What an update still has to do once it has read the row. -/
def write (i : Uuid) (q : SavedQuery) (now : Time) (u : SavedQueryUpdate) : Action (Except Error SavedQuery) :=
  .replace (q.revised now u) fun there => .done (if there then .ok (q.revised now u) else .error (missing i))

theorem step_update (hfind : s.find? i = some q) :
    (update q.userId i now u).step s = some (
      match changeFault q.environmentId u with
      | some e => .done (.error e)
      | none => write i q now u, s) := by
  have hfound : ownedBy q.userId i (some q) = .ok q := if_pos rfl
  rw [update, Action.step, hfind, hfound, Except.bind, changed_eq]
  cases changeFault q.environmentId u <;> rfl

theorem step_write (hfind : s.find? i = some q₀) (hid : q.id = i) :
    (write i q now u).step s = some (.done (.ok (q.revised now u)), (s.replace (q.revised now u)).2) := by
  have hthere : (s.replace (q.revised now u)).1 = true := by
    have hid' : (q.revised now u).id = i := hid
    rw [SavedRows.replace, hid']
    exact SavedRows.any_id_of_find? hfind
  rw [write, Action.step, hthere, if_pos rfl]

theorem find?_replace_revised (hfind : s.find? i = some q₀) (hid : q.id = i) :
    (s.replace (q.revised now u)).2.find? i = some (q.revised now u) := by
  have hid' : (q.revised now u).id = i := hid
  rw [SavedRows.find?_replace, if_pos hid'.symm, hfind, Option.map_some]

theorem update_run_eq (hfind : s.find? i = some q) (hfault : changeFault q.environmentId u = none) :
    (update q.userId i now u).run s = (.ok (q.revised now u), (s.replace (q.revised now u)).2) := by
  have hfound : ownedBy q.userId i (some q) = .ok q := if_pos rfl
  rw [run_update, hfind, hfound]
  simp only [hfault]

/-! ### Two updates -/

variable {x x' : Bool → Action (Except Error SavedQuery)} {turns : List Bool} {k : Bool}

theorem turn_of_done {j : Bool} {a : Except Error SavedQuery} (hturns : takeTurns s x (j :: turns) = some (x', s'))
    (hother : x (!k) = .done a) : j = k := by
  by_contra hne
  exact (not_mem_of_done hturns hother).1 (Bool.eq_not.2 hne ▸ List.mem_cons_self)

theorem eq_nil_of_done {a b : Except Error SavedQuery} (hturns : takeTurns s x turns = some (x', s'))
    (hk : x k = .done a) (hother : x (!k) = .done b) : turns = [] ∧ x' k = .done a ∧ s' = s := by
  obtain ⟨hmem, hdone⟩ := not_mem_of_done hturns hk
  cases turns with
  | nil => exact ⟨rfl, hdone, (takeTurns_nil.1 hturns).2.symm⟩
  | cons j turns => exact absurd (turn_of_done hturns hother ▸ List.mem_cons_self) hmem

theorem update_not (x : Bool → Action (Except Error SavedQuery)) (k : Bool) (y : Action (Except Error SavedQuery)) :
    Function.update x k y (!k) = x (!k) := by
  refine Function.update_of_ne ?_ _ _
  cases k <;> decide

theorem update_of_not (x : Bool → Action (Except Error SavedQuery)) (k : Bool) (y : Action (Except Error SavedQuery)) :
    Function.update x (!k) y k = x k := by
  refine Function.update_of_ne ?_ _ _
  cases k <;> decide

/-- The writing of an update that is the only one left. -/
theorem turns_write {a : Except Error SavedQuery} {r : SavedQuery} (hturns : takeTurns s x turns = some (x', s'))
    (hk : x k = write i q now u) (hother : x (!k) = .done a) (hfind : s.find? i = some q₀) (hid : q.id = i)
    (hok : x' k = .done (.ok r)) : turns = [k] ∧ s' = (s.replace (q.revised now u)).2 := by
  cases turns with
  | nil =>
    obtain ⟨rfl, -⟩ := takeTurns_nil.1 hturns
    rw [hk] at hok
    cases hok
  | cons j turns =>
    obtain rfl : j = k := turn_of_done hturns hother
    rw [takeTurns_cons hk (step_write hfind hid)] at hturns
    obtain ⟨rfl, -, rfl⟩ := eq_nil_of_done hturns (Function.update_self ..) ((update_not ..).trans hother)
    exact ⟨rfl, rfl⟩

/-- An update that begins when the other is done. -/
theorem turns_update {a : Except Error SavedQuery} {r : SavedQuery} (hturns : takeTurns s x turns = some (x', s'))
    (hk : x k = update q.userId i now u) (hother : x (!k) = .done a) (hfind : s.find? i = some q)
    (hok : x' k = .done (.ok r)) :
    turns = [k, k] ∧ changeFault q.environmentId u = none ∧ s' = ((update q.userId i now u).run s).2 := by
  cases turns with
  | nil =>
    obtain ⟨rfl, -⟩ := takeTurns_nil.1 hturns
    rw [hk] at hok
    cases hok
  | cons j turns =>
    obtain rfl : j = k := turn_of_done hturns hother
    rw [takeTurns_cons hk (step_update hfind)] at hturns
    have hother' : ∀ y, Function.update x j y (!j) = .done a := fun y => (update_not x j y).trans hother
    cases hfault : changeFault q.environmentId u with
    | some e =>
      rw [hfault] at hturns
      obtain ⟨-, hdone, -⟩ := eq_nil_of_done hturns (Function.update_self ..) (hother' _)
      rw [hdone] at hok
      cases hok
    | none =>
      rw [hfault] at hturns
      obtain ⟨rfl, rfl⟩ := turns_write hturns (Function.update_self ..) (hother' _) hfind
        (SavedRows.id_of_find? hfind) hok
      rw [update_run_eq hfind hfault]
      exact ⟨rfl, rfl, rfl⟩

variable {t : Bool → Time} {w : Bool → SavedQueryUpdate}

/-- When both updates have read the row, the second writing undoes the first. -/
theorem turns_writes (hturns : takeTurns s x turns = some (x', s')) (hx : ∀ k, x k = write i q (t k) (w k))
    (hfind : s.find? i = some q) (hok : ∀ k, ∃ r, x' k = .done (.ok r)) :
    ∃ last, turns = [!last, last] ∧ s'.find? i = some (q.revised (t last) (w last)) := by
  have hid : q.id = i := SavedRows.id_of_find? hfind
  cases turns with
  | nil =>
    obtain ⟨rfl, -⟩ := takeTurns_nil.1 hturns
    obtain ⟨r, hr⟩ := hok true
    rw [hx] at hr
    cases hr
  | cons j turns =>
    rw [takeTurns_cons (hx j) (step_write hfind hid)] at hturns
    have hfind' : (s.replace (q.revised (t j) (w j))).2.find? i = some _ := find?_replace_revised hfind hid
    obtain ⟨r, hr⟩ := hok (!j)
    obtain ⟨rfl, rfl⟩ := turns_write hturns ((update_not ..).trans (hx _))
      (by rw [Bool.not_not]; exact Function.update_self ..) hfind' hid hr
    exact ⟨!j, by rw [Bool.not_not], find?_replace_revised hfind' hid⟩

/-- The first update has read the row, and the second begins or the first goes on. -/
theorem turns_write_update (hturns : takeTurns s x turns = some (x', s')) (hk : x k = write i q (t k) (w k))
    (hother : x (!k) = update q.userId i (t !k) (w !k)) (hfind : s.find? i = some q)
    (hok : ∀ k, ∃ r, x' k = .done (.ok r)) :
    changeFault q.environmentId (w !k) = none ∧
      (turns = [k, !k, !k] ∧ s' = ((update q.userId i (t !k) (w !k)).run (s.replace (q.revised (t k) (w k))).2).2 ∨
        ∃ last, turns = [!k, !last, last] ∧ s'.find? i = some (q.revised (t last) (w last))) := by
  have hid : q.id = i := SavedRows.id_of_find? hfind
  cases turns with
  | nil =>
    obtain ⟨rfl, -⟩ := takeTurns_nil.1 hturns
    obtain ⟨r, hr⟩ := hok k
    rw [hk] at hr
    cases hr
  | cons j turns =>
    by_cases hj : j = k
    · subst hj
      rw [takeTurns_cons hk (step_write hfind hid)] at hturns
      obtain ⟨r, hr⟩ := hok (!j)
      obtain ⟨rfl, hfault, rfl⟩ := turns_update (q := q.revised (t j) (w j)) hturns ((update_not ..).trans hother)
        (by rw [Bool.not_not]; exact Function.update_self ..) (find?_replace_revised hfind hid) hr
      exact ⟨hfault, .inl ⟨rfl, rfl⟩⟩
    · obtain rfl : j = !k := Bool.eq_not.2 hj
      rw [takeTurns_cons hother (step_update hfind)] at hturns
      cases hfault : changeFault q.environmentId (w !k) with
      | some e =>
        rw [hfault] at hturns
        obtain ⟨r, hr⟩ := hok (!k)
        rw [(not_mem_of_done hturns (Function.update_self ..)).2] at hr
        cases hr
      | none =>
        rw [hfault] at hturns
        -- both have read the row now, since reading has changed nothing
        have hx : ∀ m, Function.update x (!k) (write i q (t !k) (w !k)) m = write i q (t m) (w m) := by
          intro m
          by_cases hm : m = k
          · rw [hm, update_of_not, hk]
          · rw [Bool.eq_not.2 hm]
            exact Function.update_self ..
        obtain ⟨last, rfl, hlast⟩ := turns_writes hturns hx hfind hok
        exact ⟨rfl, .inr ⟨last, rfl, hlast⟩⟩

theorem find?_run_run {v : SavedQueryUpdate} {later : Time} (hfind : s.find? i = some q)
    (hu : changeFault q.environmentId u = none) (hv : changeFault q.environmentId v = none) :
    ((update q.userId i later v).run ((update q.userId i now u).run s).2).2.find? i =
      some ((q.revised now u).revised later v) := by
  have hid : q.id = i := SavedRows.id_of_find? hfind
  have hfind' : (s.replace (q.revised now u)).2.find? i = some _ := find?_replace_revised hfind hid
  rw [update_run_eq hfind hu]
  show ((update (q.revised now u).userId i later v).run _).2.find? i = _
  rw [update_run_eq hfind' hv]
  exact find?_replace_revised hfind' hid

/-- What a user has given of a saved query: its name, description and definition. -/
def content (q : SavedQuery) : String × Option String × String := (q.name, q.description, q.definition)

/-- A saved query has changed only where a change names the field. -/
structure ChangedWithin (u : SavedQueryUpdate) (q r : SavedQuery) : Prop where
  name : u.name = none → r.name = q.name
  description : u.description = none → r.description = q.description
  definition : u.definition = none → r.definition = q.definition

/-- Of the saved query that a change starts from, only the fields that it leaves out matter. -/
theorem content_revised_eq_iff {r : SavedQuery} :
    content (r.revised now u) = content (q.revised now u) ↔ ChangedWithin u q r := by
  have hfield : ∀ {α : Type} {o : Option α} {a b : α}, o.getD a = o.getD b ↔ (o = none → a = b) := by
    intro α o a b
    cases o <;> simp
  rw [content, content, revised, revised, Prod.mk.injEq, Prod.mk.injEq, hfield, hfield, hfield, Option.map_eq_none_iff,
    Option.map_eq_none_iff]
  exact ⟨fun h => ⟨h.1, h.2.1, h.2.2⟩, fun h => ⟨h.name, h.description, h.definition⟩⟩

/-- Two updates of a saved query by its owner that both succeed either follow each other, and then both changes are
made; or each reads the row before the other writes it, and then the row that both have read is changed by the one that
writes last. That is the outcome of following the other exactly if the other changes no field that it leaves out. -/
theorem interleaved_updates
    (hturns : takeTurns s (fun k => update q.userId i (t k) (w k)) turns = some (x', s')) (hfind : s.find? i = some q)
    (hok : ∀ k, ∃ r, x' k = .done (.ok r)) :
    (∃ k, turns = [k, k, !k, !k] ∧
      s' = ((update q.userId i (t !k) (w !k)).run ((update q.userId i (t k) (w k)).run s).2).2 ∧
      s'.find? i = some ((q.revised (t k) (w k)).revised (t !k) (w !k))) ∨
    ∃ k last, turns = [k, !k, !last, last] ∧ s'.find? i = some (q.revised (t last) (w last)) ∧
      ((((update q.userId i (t last) (w last)).run
          ((update q.userId i (t !last) (w !last)).run s).2).2.find? i).map content = (s'.find? i).map content ↔
        ChangedWithin (w last) q (q.revised (t !last) (w !last))) := by
  generalize hupdates : (fun k => update q.userId i (t k) (w k)) = x at hturns
  have hx : ∀ k, x k = update q.userId i (t k) (w k) := fun k => (congrFun hupdates k).symm
  cases turns with
  | nil =>
    obtain ⟨rfl, -⟩ := takeTurns_nil.1 hturns
    obtain ⟨r, hr⟩ := hok true
    rw [hx] at hr
    cases hr
  | cons k turns =>
    rw [takeTurns_cons (hx k) (step_update hfind)] at hturns
    cases hfault : changeFault q.environmentId (w k) with
    | some e =>
      rw [hfault] at hturns
      obtain ⟨r, hr⟩ := hok k
      rw [(not_mem_of_done hturns (Function.update_self ..)).2] at hr
      cases hr
    | none =>
      rw [hfault] at hturns
      obtain ⟨hother, hcases⟩ := turns_write_update hturns (Function.update_self ..)
        ((update_not ..).trans (hx _)) hfind hok
      rcases hcases with ⟨rfl, rfl⟩ | ⟨last, rfl, hlast⟩
      · have hrow : ((update q.userId i (t !k) (w !k)).run ((update q.userId i (t k) (w k)).run s).2).2.find? i =
            some _ := find?_run_run hfind hfault hother
        rw [update_run_eq hfind hfault] at hrow
        refine .inl ⟨k, rfl, ?_, hrow⟩
        rw [update_run_eq hfind hfault]
      · refine .inr ⟨k, last, rfl, hlast, ?_⟩
        have hboth : ∀ m, changeFault q.environmentId (w m) = none := by
          intro m
          by_cases hm : m = k
          · rw [hm, hfault]
          · rw [Bool.eq_not.2 hm, hother]
        rw [find?_run_run hfind (hboth _) (hboth _), hlast, Option.map_some, Option.map_some, Option.some.injEq,
          content_revised_eq_iff]

/-! ### A lost update -/

/-- Updates without a fault can read the row both before either writes it. -/
theorem exists_takeTurns (hfind : s.find? i = some q) (hfault : ∀ k, changeFault q.environmentId (w k) = none)
    (last : Bool) : ∃ x, takeTurns s (fun k => update q.userId i (t k) (w k)) [!last, last, !last, last] =
        some (x, ((s.replace (q.revised (t !last) (w !last))).2.replace (q.revised (t last) (w last))).2) ∧
      ∀ k, ∃ r, x k = .done (.ok r) := by
  have hid : q.id = i := SavedRows.id_of_find? hfind
  have hread : ∀ k, (update q.userId i (t k) (w k)).step s = some (write i q (t k) (w k), s) := by
    intro k
    rw [step_update hfind, hfault]
  generalize hupdates : (fun k => update q.userId i (t k) (w k)) = x
  have hx : ∀ k, x k = update q.userId i (t k) (w k) := fun k => (congrFun hupdates k).symm
  have hfind' : (s.replace (q.revised (t !last) (w !last))).2.find? i = some _ := find?_replace_revised hfind hid
  rw [takeTurns_cons (hx (!last)) (hread _), takeTurns_cons ((update_of_not ..).trans (hx last)) (hread _),
    takeTurns_cons ((update_not ..).trans (Function.update_self ..)) (step_write hfind hid),
    takeTurns_cons ((update_of_not ..).trans (Function.update_self ..)) (step_write hfind' hid), takeTurns]
  refine ⟨_, rfl, fun k => ?_⟩
  by_cases hk : k = last
  · rw [hk, Function.update_self]
    exact ⟨_, rfl⟩
  · rw [Bool.eq_not.2 hk, update_not, Function.update_self]
    exact ⟨_, rfl⟩

/-- The owner of the saved query of the sample renames it and, at the same time, describes it. -/
def sampleChange : Bool → SavedQueryUpdate
  | false => ⟨some "Clients", none, none⟩
  | true => ⟨none, some "By revenue", none⟩

def sampleTime : Bool → Time
  | false => ⟨30⟩
  | true => ⟨40⟩

section Sample

open SavedRows (empty sampleEnvironments sampleCalls sampleRow)

theorem find?_sample : (empty.serve sampleEnvironments sampleCalls).2.find? (.ofNat 1) = some sampleRow := by
  rw [SavedRows.find?, SavedRows.rows_sample]
  rfl

theorem changeFault_sample : ∀ k, changeFault sampleRow.environmentId (sampleChange k) = none
  | false => rfl
  | true => rfl

theorem interleaved_updates_sample :
    ∃ x s', takeTurns (empty.serve sampleEnvironments sampleCalls).2
        (fun k => update sampleRow.userId (.ofNat 1) (sampleTime k) (sampleChange k)) [false, true, false, true] =
          some (x, s') ∧
      (∀ k, ∃ r, x k = .done (.ok r)) ∧ s'.find? (.ofNat 1) = some (sampleRow.revised ⟨40⟩ (sampleChange true)) := by
  obtain ⟨x, hturns, hok⟩ := exists_takeTurns (t := sampleTime) find?_sample changeFault_sample true
  refine ⟨x, _, hturns, hok, ?_⟩
  rcases interleaved_updates hturns find?_sample hok with ⟨k, heq, -, -⟩ | ⟨k, last, heq, hlast, -⟩
  · cases k <;> cases heq
  · obtain rfl : last = true := by
      cases k <;> cases last <;> first | rfl | cases heq
    exact hlast

/-- Both changes can be accepted and one of them be lost. -/
theorem update_lost : ¬ ∀ (environments : EnvironmentStore) (calls : List SavedCall) (i : Uuid) (q : SavedQuery)
    (t : Bool → Time) (w : Bool → SavedQueryUpdate) (turns : List Bool)
    (x : Bool → Action (Except Error SavedQuery)) (s' : SavedRows),
    (empty.serve environments calls).2.find? i = some q →
    takeTurns (empty.serve environments calls).2 (fun k => update q.userId i (t k) (w k)) turns = some (x, s') →
    (∀ k, ∃ r, x k = .done (.ok r)) →
    ∃ k, (s'.find? i).map content =
      (((update q.userId i (t !k) (w !k)).run
        ((update q.userId i (t k) (w k)).run (empty.serve environments calls).2).2).2.find? i).map content := by
  intro hclaim
  obtain ⟨x, hturns, hok⟩ := exists_takeTurns (t := sampleTime) find?_sample changeFault_sample true
  obtain ⟨k, hk⟩ := hclaim _ _ _ _ _ _ _ _ _ find?_sample hturns hok
  have hid : sampleRow.id = .ofNat 1 := rfl
  rw [find?_run_run find?_sample (changeFault_sample _) (changeFault_sample _),
    find?_replace_revised (find?_replace_revised find?_sample hid) hid] at hk
  -- one after the other, in either order, they change the name; overlapping, the last one restores it
  have hname : Text.trim "Customers" = Text.trim "Clients" := by
    cases k <;> exact congrArg Prod.fst (Option.some.inj hk)
  have htrim : Text.trim "Customers" = "Customers" ∧ Text.trim "Clients" = "Clients" := ⟨rfl, rfl⟩
  rw [htrim.1, htrim.2] at hname
  exact absurd hname (by decide)

end Sample

end SavedQuery

end QueryDesk
