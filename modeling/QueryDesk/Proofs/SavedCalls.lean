import Mathlib
import QueryDesk.Saved.Store

/-!
# Calls on saved queries

What each operation on saved queries does when it runs alone: `SavedQuery.run_create` to `SavedQuery.run_delete` say
it once, in terms of the first fault of what is given (`creationFault`, `changeFault`) and of the row that comes of it
(`created`, `revised`). `SavedRows.serve` runs calls one after the other; a call that fails leaves the rows as they
are (`SavedCall.rows_of_fails`).
-/

namespace QueryDesk

/-! ### Trimmed text -/

namespace Text

theorem trimWhile_eq_nil_iff {p : Char → Bool} {cs : List Char} : trimWhile p cs = [] ↔ ∀ c ∈ cs, p c = true := by
  rw [trimWhile, dropEndWhile, List.reverse_eq_nil_iff, List.dropWhile_eq_nil_iff]
  constructor
  · intro h c hc
    rw [← List.takeWhile_append_dropWhile (p := p) (l := cs), List.mem_append] at hc
    rcases hc with hc | hc
    · exact List.mem_takeWhile_imp hc
    · exact h c (List.mem_reverse.2 hc)
  · intro h c hc
    exact h c ((List.dropWhile_suffix p).subset (List.mem_reverse.1 hc))

theorem head?_dropWhile {p : Char → Bool} {cs : List Char} : ∀ c ∈ (cs.dropWhile p).head?, p c = false := by
  intro c hc
  have h := List.head?_dropWhile_not p cs
  rw [Option.mem_def.1 hc] at h
  exact h

theorem getLast?_trimWhile {p : Char → Bool} {cs : List Char} : ∀ c ∈ (trimWhile p cs).getLast?, p c = false := by
  rw [trimWhile, dropEndWhile, List.getLast?_reverse]
  exact head?_dropWhile

/-- Dropping at the end leaves the start as it is. -/
theorem head?_trimWhile {p : Char → Bool} {cs : List Char} : ∀ c ∈ (trimWhile p cs).head?, p c = false := by
  intro c hc
  have hprefix : trimWhile p cs <+: cs.dropWhile p := by
    rw [trimWhile, dropEndWhile, ← List.reverse_suffix, List.reverse_reverse]
    exact List.dropWhile_suffix p
  obtain ⟨rest, hrest⟩ := hprefix
  have hhead : c ∈ (cs.dropWhile p).head? := by
    rw [← hrest, List.head?_append, Option.mem_def.1 hc]
    rfl
  exact head?_dropWhile c hhead

theorem trim_eq_empty_iff {s : String} : trim s = "" ↔ isBlankText s = true := by
  rw [trim, isBlankText, List.all_eq_true, ← trimWhile_eq_nil_iff, ← String.toList_inj, String.toList_ofList]
  rfl

end Text

/-! ### Rows -/

namespace SavedRows

variable {s : SavedRows} {q : SavedQuery} {i : Uuid}

theorem mem_of_find? (h : s.find? i = some q) : q ∈ s.rows := List.mem_of_find?_eq_some h

theorem id_of_find? (h : s.find? i = some q) : q.id = i := by
  have hid := List.find?_some (p := fun r : SavedQuery => r.id == i) h
  exact beq_iff_eq.1 hid

theorem find?_insert (s : SavedRows) (q : SavedQuery) (i : Uuid) :
    (s.insert q).find? i = if i = q.id then some q else s.find? i := by
  rw [find?, insert, List.find?_cons, List.find?_filter]
  by_cases h : i = q.id
  · rw [if_pos h, beq_iff_eq.2 h.symm]
  · rw [if_neg h, beq_eq_false_iff_ne.2 (Ne.symm h), find?]
    refine congrArg (List.find? · s.rows) (funext fun r => ?_)
    by_cases hr : r.id = i
    · simp [hr, h]
    · simp [hr]

theorem find?_remove (s : SavedRows) (i k : Uuid) : (s.remove i).2.find? k = if k = i then none else s.find? k := by
  rw [find?, remove, List.find?_filter]
  by_cases h : k = i
  · rw [if_pos h, List.find?_eq_none]
    intro r _
    simp [h]
  · rw [if_neg h, find?]
    refine congrArg (List.find? · s.rows) (funext fun r => ?_)
    by_cases hr : r.id = k
    · simp [hr, h]
    · simp [hr]

theorem find?_replace (s : SavedRows) (q : SavedQuery) (i : Uuid) :
    (s.replace q).2.find? i = if i = q.id then (s.find? i).map fun _ => q else s.find? i := by
  rw [find?, replace, List.find?_map, find?]
  -- what is put in place has the id of what it replaces
  have hids : (fun r : SavedQuery => r.id == i) ∘ (fun r => if r.id = q.id then q else r) = fun r => r.id == i := by
    funext r
    by_cases h : r.id = q.id <;> simp [h]
  rw [hids]
  cases hfind : s.rows.find? fun r => r.id == i with
  | none => simp
  | some r =>
    have hr : r.id = i := id_of_find? hfind
    by_cases h : i = q.id <;> simp [h, hr]

/-- A row that was found can be replaced and removed. -/
theorem any_id_of_find? (h : s.find? i = some q) : s.rows.any (·.id == i) = true :=
  List.any_eq_true.2 ⟨q, mem_of_find? h, beq_iff_eq.2 (id_of_find? h)⟩

theorem find?_eq_none_iff : s.find? i = none ↔ ∀ r ∈ s.rows, r.id ≠ i := by
  rw [find?, List.find?_eq_none]
  exact forall₂_congr fun r _ => not_congr beq_iff_eq

theorem replace_of_absent (h : s.find? q.id = none) : s.replace q = (false, s) := by
  have hne := find?_eq_none_iff.1 h
  have hthere : s.rows.any (·.id == q.id) = false :=
    List.any_eq_false.2 fun r hr => mt beq_iff_eq.1 (hne r hr)
  rw [replace, hthere, List.map_congr_left fun r hr => if_neg (hne r hr), List.map_id']

/-! No two rows come to have one id. -/

theorem nodup_ids_insert (hids : (s.rows.map (·.id)).Nodup) : ((s.insert q).rows.map (·.id)).Nodup := by
  refine List.nodup_cons.2 ⟨fun hmem => ?_, hids.sublist (List.filter_sublist.map _)⟩
  obtain ⟨r, hr, heq⟩ := List.mem_map.1 hmem
  have hne := (List.mem_filter.1 hr).2
  rw [heq, bne_self_eq_false] at hne
  cases hne

theorem nodup_ids_replace (hids : (s.rows.map (·.id)).Nodup) : ((s.replace q).2.rows.map (·.id)).Nodup := by
  -- what is put in place stands where a row with its id stood
  have hkeeps : ∀ r : SavedQuery, (if r.id = q.id then q else r).id = r.id := by
    intro r
    split
    · next heq => exact heq.symm
    · rfl
  rw [replace, List.map_map]
  exact (List.map_congr_left fun r _ => hkeeps r) ▸ hids

theorem nodup_ids_remove (hids : (s.rows.map (·.id)).Nodup) : ((s.remove i).2.rows.map (·.id)).Nodup :=
  hids.sublist (List.filter_sublist.map _)

/-! What a write does to the rows of a user. -/

variable {userId : String}

theorem listOf_remove_eq_filter (s : SavedRows) (userId : String) (i : Uuid) :
    (s.remove i).2.listOf userId = (s.listOf userId).filter (·.id != i) := by
  simp only [listOf, remove, List.filter_filter, Bool.and_comm]

/-- Where the row that is replaced and the one put in its place both belong to the user, or neither does. -/
theorem listOf_replace_eq_map (h : ∀ r ∈ s.rows, r.id = q.id → (r.userId = userId ↔ q.userId = userId)) :
    (s.replace q).2.listOf userId = (s.listOf userId).map fun r => if r.id = q.id then q else r := by
  have hfilter : s.rows.filter ((·.userId == userId) ∘ fun r => if r.id = q.id then q else r) =
      s.rows.filter (·.userId == userId) := by
    refine List.filter_congr fun r hr => ?_
    by_cases hid : r.id = q.id
    · simp [hid, h r hr hid]
    · simp [hid]
  rw [listOf, replace, List.filter_map, hfilter, listOf]

/-! A user's rows stay as they are where none of them has the id that is written to. -/

theorem listOf_remove (hids : ∀ r ∈ s.rows, r.id = i → r.userId ≠ userId) :
    (s.remove i).2.listOf userId = s.listOf userId := by
  rw [listOf_remove_eq_filter, List.filter_eq_self]
  intro r hr
  obtain ⟨hmem, howns⟩ := List.mem_filter.1 hr
  exact bne_iff_ne.2 fun hid => hids r hmem hid (beq_iff_eq.1 howns)

theorem listOf_insert (howner : q.userId ≠ userId) (hids : ∀ r ∈ s.rows, r.id = q.id → r.userId ≠ userId) :
    (s.insert q).listOf userId = s.listOf userId := by
  rw [← listOf_remove hids, listOf, insert, List.filter_cons_of_neg (by simpa using howner)]
  rfl

theorem listOf_replace (howner : q.userId ≠ userId) (hids : ∀ r ∈ s.rows, r.id = q.id → r.userId ≠ userId) :
    (s.replace q).2.listOf userId = s.listOf userId := by
  have hkeeps : ∀ r ∈ s.listOf userId, (if r.id = q.id then q else r) = r := by
    intro r hr
    obtain ⟨hmem, howns⟩ := List.mem_filter.1 hr
    exact if_neg fun hid => hids r hmem hid (beq_iff_eq.1 howns)
  rw [listOf_replace_eq_map fun r hr hid => iff_of_false (hids r hr hid) howner, List.map_congr_left hkeeps,
    List.map_id']

end SavedRows

/-! ### What is turned down -/

/-- A value unless there is a fault. -/
def orFault {α : Type} (fault : Option Error) (a : α) : Except Error α :=
  match fault with
  | some e => .error e
  | none => .ok a

namespace SavedQuery

/-- A name must not be blank. -/
def nameFault (name : String) : Option Error :=
  if Text.isBlankText name then some (.validation .blankSavedName) else none

/-- A definition must be a query of the environment. -/
def definitionFault (environmentId definition : String) : Option Error :=
  match parseDefinition definition with
  | .error e => some e
  | .ok q => if q.environmentId = environmentId then none else some (.validation .foreignDefinition)

/-- An environment must belong to the user. -/
def environmentFault (environments : EnvironmentStore) (userId environmentId : String) : Option Error :=
  match environments.entries.find? (·.id == environmentId) with
  | some e => if e.userId = userId then none else some (.notFound (.environment environmentId))
  | none => some (.notFound (.environment environmentId))

/-- The first fault of a new saved query. -/
def creationFault (environments : EnvironmentStore) (userId : String) (n : NewSavedQuery) : Option Error :=
  (nameFault n.name).or <| (definitionFault n.environmentId n.definition).or <|
    environmentFault environments userId n.environmentId

/-- The first fault of a change. -/
def changeFault (environmentId : String) (u : SavedQueryUpdate) : Option Error :=
  (u.name.bind nameFault).or (u.definition.bind (definitionFault environmentId))

/-- A description that is there. -/
def presentDescription (d : String) : Option String := if d = "" then none else some d

def created (userId : String) (i : Uuid) (now : Time) (n : NewSavedQuery) : SavedQuery where
  id := i
  userId := userId
  environmentId := n.environmentId
  name := Text.trim n.name
  description := n.description
  definition := n.definition
  createdAt := now
  updatedAt := now

/-- The row with the fields a change names. -/
def revised (q : SavedQuery) (now : Time) (u : SavedQueryUpdate) : SavedQuery :=
  { q with
    name := (u.name.map Text.trim).getD q.name
    description := (u.description.map presentDescription).getD q.description
    definition := u.definition.getD q.definition
    updatedAt := now }

theorem checkedName_eq (name : String) : checkedName name = orFault (nameFault name) (Text.trim name) := by
  rw [checkedName, nameFault]
  by_cases h : Text.isBlankText name = true
  · rw [if_pos (Text.trim_eq_empty_iff.2 h), if_pos h, orFault]
  · rw [if_neg (mt Text.trim_eq_empty_iff.1 h), if_neg h, orFault]

theorem checkDefinition_eq (environmentId definition : String) :
    checkDefinition environmentId definition = orFault (definitionFault environmentId definition) () := by
  rw [checkDefinition, definitionFault]
  cases parseDefinition definition with
  | error e => rfl
  | ok q =>
    show (if q.environmentId = environmentId then Except.ok () else _) = orFault (if _ then none else _) ()
    by_cases h : q.environmentId = environmentId
    · rw [if_pos h, if_pos h, orFault]
    · rw [if_neg h, if_neg h, orFault]

theorem environmentFault_eq_none_iff {environments : EnvironmentStore} {userId environmentId : String} :
    environmentFault environments userId environmentId = none ↔
      ∃ e, environments.owned userId environmentId = .ok e ∧ e ∈ environments.entries ∧ e.id = environmentId ∧
        e.userId = userId := by
  rw [environmentFault, EnvironmentStore.owned]
  cases hfind : environments.entries.find? (·.id == environmentId) with
  | none => simp
  | some e =>
    have hmem := List.mem_of_find?_eq_some hfind
    have hid := beq_iff_eq.1 (List.find?_some (p := fun e : Environment => e.id == environmentId) hfind)
    by_cases h : e.userId = userId <;> simp [h, hmem, hid]

/-- A new saved query comes of what is given unless there is a fault. -/
theorem new_eq (environments : EnvironmentStore) (userId : String) (i : Uuid) (now : Time) (n : NewSavedQuery) :
    new environments userId i now n = orFault (creationFault environments userId n) (created userId i now n) := by
  rw [new, checkedName_eq, checkDefinition_eq, creationFault]
  cases nameFault n.name with
  | some e => rfl
  | none =>
    cases definitionFault n.environmentId n.definition with
    | some e => rfl
    | none =>
      rw [EnvironmentStore.owned, environmentFault]
      cases environments.entries.find? (·.id == n.environmentId) with
      | none => rfl
      | some e =>
        by_cases h : e.userId = userId
        · simp only [h, if_true]
          rfl
        · simp only [h, if_false]
          rfl

/-- A change names its fields and keeps the others unless there is a fault. -/
theorem changed_eq (q : SavedQuery) (now : Time) (u : SavedQueryUpdate) :
    q.changed now u = orFault (changeFault q.environmentId u) (q.revised now u) := by
  obtain ⟨name, description, definition⟩ := u
  cases name with
  | none =>
    cases definition with
    | none => cases description <;> rfl
    | some d =>
      rw [changeFault]
      simp only [changed, checkDefinition_eq, Option.bind_none, Option.bind_some, Option.none_or]
      cases definitionFault q.environmentId d <;> cases description <;> rfl
  | some name =>
    cases definition with
    | none =>
      rw [changeFault]
      simp only [changed, checkedName_eq, Option.bind_none, Option.bind_some, Option.or_none]
      cases nameFault name <;> cases description <;> rfl
    | some d =>
      rw [changeFault]
      simp only [changed, checkedName_eq, checkDefinition_eq, Option.bind_some]
      cases nameFault name with
      | some e => rfl
      | none => cases definitionFault q.environmentId d <;> cases description <;> rfl

/-! ### What the operations do -/

variable {s : SavedRows} {q : SavedQuery} {userId : String} {i : Uuid}

theorem ownedBy_eq_ok_iff {found : Option SavedQuery} :
    ownedBy userId i found = .ok q ↔ found = some q ∧ q.userId = userId := by
  cases found with
  | none => simp [ownedBy]
  | some r =>
    rw [ownedBy]
    by_cases h : r.userId = userId
    · simp only [h, if_true, Except.ok.injEq, Option.some.injEq]
      exact ⟨fun heq => ⟨heq, heq ▸ h⟩, And.left⟩
    · simp only [h, if_false, reduceCtorEq, Option.some.injEq, false_iff, not_and]
      exact fun heq => heq ▸ h

theorem run_create (environments : EnvironmentStore) (userId : String) (i : Uuid) (now : Time) (n : NewSavedQuery)
    (s : SavedRows) : (create environments userId i now n).run s =
      match creationFault environments userId n with
      | some e => (.error e, s)
      | none => (.ok (created userId i now n), s.insert (created userId i now n)) := by
  rw [create, new_eq]
  cases creationFault environments userId n <;> rfl

theorem run_get (userId : String) (i : Uuid) (s : SavedRows) :
    (get userId i).run s = (ownedBy userId i (s.find? i), s) := rfl

theorem run_list (userId : String) (environmentId : Option String) (s : SavedRows) :
    (list userId environmentId).run s =
      ((inEnvironment environmentId (s.listOf userId)).mergeSort lastChangedFirst, s) := rfl

theorem ordered_list (s : SavedRows) (userId : String) (environmentId : Option String) :
    ((list userId environmentId).run s).1.Pairwise fun a b => b.updatedAt ≤ a.updatedAt := by
  rw [run_list]
  refine (List.pairwise_mergeSort (fun a b c hab hbc => ?_) (fun a b => ?_) _).imp of_decide_eq_true
  · exact decide_eq_true (Nat.le_trans (of_decide_eq_true hbc) (of_decide_eq_true hab))
  · rw [Bool.or_eq_true]
    exact (Nat.le_total b.updatedAt.nanoseconds a.updatedAt.nanoseconds).imp decide_eq_true decide_eq_true

theorem inEnvironment_sublist (environmentId : Option String) (qs : List SavedQuery) :
    (inEnvironment environmentId qs).Sublist qs := by
  cases environmentId with
  | none => exact .refl _
  | some e => exact List.filter_sublist

theorem nodup_times_list (htimes : (s.rows.map (·.updatedAt)).Nodup) (userId : String) (environmentId : Option String) :
    (((list userId environmentId).run s).1.map (·.updatedAt)).Nodup := by
  rw [run_list]
  refine ((List.mergeSort_perm _ _).map _).nodup_iff.2 (htimes.sublist ?_)
  exact ((inEnvironment_sublist _ _).trans List.filter_sublist).map _

/-- The row that was found is still there when it is replaced. -/
theorem run_update (userId : String) (i : Uuid) (now : Time) (u : SavedQueryUpdate) (s : SavedRows) :
    (update userId i now u).run s =
      match ownedBy userId i (s.find? i) with
      | .error e => (.error e, s)
      | .ok q =>
        match changeFault q.environmentId u with
        | some e => (.error e, s)
        | none => (.ok (q.revised now u), (s.replace (q.revised now u)).2) := by
  rw [update, Action.run]
  cases hfound : ownedBy userId i (s.find? i) with
  | error e => rfl
  | ok q =>
    obtain ⟨hq, -⟩ := ownedBy_eq_ok_iff.1 hfound
    -- nothing came between, so the answer about the replaced row is never "missing"
    have hthere : (s.replace (q.revised now u)).1 = true := by
      have hid : (q.revised now u).id = i := (SavedRows.id_of_find? hq : q.id = i)
      rw [SavedRows.replace, hid]
      exact SavedRows.any_id_of_find? hq
    rw [Except.bind, changed_eq]
    cases hfault : changeFault q.environmentId u with
    | some e => simp only [orFault, Action.run, hfault]
    | none => simp only [orFault, Action.run, hfault, hthere, if_true]

theorem run_delete (userId : String) (i : Uuid) (s : SavedRows) :
    (delete userId i).run s =
      match ownedBy userId i (s.find? i) with
      | .error e => (.error e, s)
      | .ok _ => (.ok (), (s.remove i).2) := by
  rw [delete, Action.run]
  cases hfound : ownedBy userId i (s.find? i) with
  | error e => rfl
  | ok q =>
    obtain ⟨hq, -⟩ := ownedBy_eq_ok_iff.1 hfound
    have hthere : (s.remove i).1 = true := SavedRows.any_id_of_find? hq
    simp only [Action.run, hthere, if_true]

end SavedQuery

/-! ### Calls one after the other -/

/-- What a user asks of the saved queries, with the id and the point in time that are used for it. -/
inductive SavedCall
  | create (userId : String) (id : Uuid) (now : Time) (new : NewSavedQuery)
  | get (userId : String) (id : Uuid)
  | list (userId : String) (environmentId : Option String)
  | update (userId : String) (id : Uuid) (now : Time) (change : SavedQueryUpdate)
  | delete (userId : String) (id : Uuid)

/-- What a call answers. -/
inductive SavedReply
  | saved (r : Except Error SavedQuery)
  | listed (qs : List SavedQuery)
  | deleted (r : Except Error Unit)

def SavedReply.Fails : SavedReply → Prop
  | .saved r => ∃ e, r = .error e
  | .listed _ => False
  | .deleted r => ∃ e, r = .error e

namespace SavedCall

/-- Who makes a call. -/
def userId : SavedCall → String
  | create userId _ _ _ | get userId _ | list userId _ | update userId _ _ _ | delete userId _ => userId

/-- The id a new saved query gets. -/
def freshId? : SavedCall → Option Uuid
  | create _ i _ _ => some i
  | _ => none

/-- The point in time a call that writes uses. -/
def time? : SavedCall → Option Time
  | create _ _ now _ => some now
  | update _ _ now _ => some now
  | _ => none

/-- The definition a call gives. -/
def definition? : SavedCall → Option String
  | create _ _ _ n => some n.definition
  | update _ _ _ u => u.definition
  | _ => none

def run (environments : EnvironmentStore) (s : SavedRows) : SavedCall → SavedReply × SavedRows
  | create userId i now n => ((SavedQuery.create environments userId i now n).run s).map .saved id
  | get userId i => ((SavedQuery.get userId i).run s).map .saved id
  | list userId environmentId => ((SavedQuery.list userId environmentId).run s).map .listed id
  | update userId i now u => ((SavedQuery.update userId i now u).run s).map .saved id
  | delete userId i => ((SavedQuery.delete userId i).run s).map .deleted id

open SavedQuery in
/-- What becomes of the rows in a call: they change only where nothing is wrong with it. -/
inductive Writes (environments : EnvironmentStore) (s : SavedRows) : SavedCall → SavedRows → Prop
  | nothing (c : SavedCall) : Writes environments s c s
  | created {userId : String} {i : Uuid} {now : Time} {n : NewSavedQuery}
      (hfault : creationFault environments userId n = none) :
      Writes environments s (.create userId i now n) (s.insert (created userId i now n))
  | revised {q : SavedQuery} {i : Uuid} {now : Time} {u : SavedQueryUpdate} (hfind : s.find? i = some q)
      (hfault : changeFault q.environmentId u = none) :
      Writes environments s (.update q.userId i now u) (s.replace (q.revised now u)).2
  | removed {q : SavedQuery} {i : Uuid} (hfind : s.find? i = some q) :
      Writes environments s (.delete q.userId i) (s.remove i).2

theorem writes_run (environments : EnvironmentStore) (s : SavedRows) (c : SavedCall) :
    c.Writes environments s (c.run environments s).2 := by
  cases c with
  | create userId i now n =>
    rw [run, SavedQuery.run_create]
    cases hfault : SavedQuery.creationFault environments userId n with
    | some e => exact .nothing _
    | none => exact .created hfault
  | get userId i => exact .nothing _
  | list userId environmentId => exact .nothing _
  | update userId i now u =>
    rw [run, SavedQuery.run_update]
    cases hfound : SavedQuery.ownedBy userId i (s.find? i) with
    | error e => exact .nothing _
    | ok q =>
      obtain ⟨hfind, rfl⟩ := SavedQuery.ownedBy_eq_ok_iff.1 hfound
      cases hfault : SavedQuery.changeFault q.environmentId u with
      | some e =>
        simp only [hfault]
        exact .nothing _
      | none =>
        simp only [hfault]
        exact .revised hfind hfault
  | delete userId i =>
    rw [run, SavedQuery.run_delete]
    cases hfound : SavedQuery.ownedBy userId i (s.find? i) with
    | error e => exact .nothing _
    | ok q =>
      obtain ⟨hfind, rfl⟩ := SavedQuery.ownedBy_eq_ok_iff.1 hfound
      exact .removed hfind

/-- A row after a call was there before the call, or the call has created or revised it. -/
theorem Writes.cases_of_mem {environments : EnvironmentStore} {s s' : SavedRows} {c : SavedCall} {q : SavedQuery}
    (h : Writes environments s c s') (hq : q ∈ s'.rows) :
    q ∈ s.rows ∨
      (∃ userId i now n, c = .create userId i now n ∧ SavedQuery.creationFault environments userId n = none ∧
        q = .created userId i now n) ∨
      ∃ q₀ ∈ s.rows, ∃ now u, c = .update q₀.userId q₀.id now u ∧
        SavedQuery.changeFault q₀.environmentId u = none ∧ q = q₀.revised now u := by
  cases h with
  | nothing => exact .inl hq
  | created hfault =>
    rcases List.mem_cons.1 hq with heq | hq
    · exact .inr (.inl ⟨_, _, _, _, rfl, hfault, heq⟩)
    · exact .inl (List.mem_of_mem_filter hq)
  | @revised q₀ i now u hfind hfault =>
    obtain ⟨r, hr, heq⟩ := List.mem_map.1 hq
    obtain rfl : q₀.id = i := SavedRows.id_of_find? hfind
    split at heq
    · exact .inr (.inr ⟨q₀, SavedRows.mem_of_find? hfind, now, u, rfl, hfault, heq.symm⟩)
    · exact .inl (heq ▸ hr)
  | removed hfind => exact .inl (List.mem_of_mem_filter hq)

/-- No two rows come to have one id. -/
theorem Writes.nodup_ids {environments : EnvironmentStore} {s s' : SavedRows} {c : SavedCall}
    (h : Writes environments s c s') (hids : (s.rows.map (·.id)).Nodup) : (s'.rows.map (·.id)).Nodup := by
  cases h with
  | nothing => exact hids
  | created hfault => exact SavedRows.nodup_ids_insert hids
  | revised hfind hfault => exact SavedRows.nodup_ids_replace hids
  | removed hfind => exact SavedRows.nodup_ids_remove hids

/-- No two rows come to be changed at once where no row was changed at the time of the call. -/
theorem Writes.nodup_times {environments : EnvironmentStore} {s s' : SavedRows} {c : SavedCall}
    (h : Writes environments s c s') (hids : (s.rows.map (·.id)).Nodup) (htimes : (s.rows.map (·.updatedAt)).Nodup)
    (hnew : ∀ now ∈ c.time?, ∀ q ∈ s.rows, q.updatedAt ≠ now) : (s'.rows.map (·.updatedAt)).Nodup := by
  cases h with
  | nothing => exact htimes
  | created hfault =>
    refine List.nodup_cons.2 ⟨fun hmem => ?_, htimes.sublist (List.filter_sublist.map _)⟩
    obtain ⟨r, hr, heq⟩ := List.mem_map.1 hmem
    exact hnew _ rfl r (List.mem_of_mem_filter hr) heq
  | @revised q i now u hfind hfault =>
    -- of two rows at most one is the revised one, and the other was changed before
    have hboth := (List.pairwise_map.1 hids).and (List.pairwise_map.1 htimes)
    refine List.pairwise_map.2 (List.pairwise_map.2 (hboth.imp_of_mem fun {a b} ha hb hab => ?_))
    by_cases haq : a.id = (q.revised now u).id
    · have hbq : b.id ≠ (q.revised now u).id := fun hbq => hab.1 (haq.trans hbq.symm)
      rw [if_pos haq, if_neg hbq]
      exact (hnew now rfl b hb).symm
    · rw [if_neg haq]
      by_cases hbq : b.id = (q.revised now u).id
      · rw [if_pos hbq]
        exact hnew now rfl a ha
      · rw [if_neg hbq]
        exact hab.2
  | removed hfind => exact htimes.sublist (List.filter_sublist.map _)

/-- A call that fails changes nothing, whatever else it was given. -/
theorem rows_of_fails {environments : EnvironmentStore} {s : SavedRows} {c : SavedCall}
    (h : (c.run environments s).1.Fails) : (c.run environments s).2 = s := by
  cases c with
  | create userId i now n =>
    rw [run, SavedQuery.run_create] at h ⊢
    cases hfault : SavedQuery.creationFault environments userId n with
    | some e => rfl
    | none =>
      rw [hfault] at h
      obtain ⟨e, he⟩ := h
      cases he
  | get userId i => rfl
  | list userId environmentId => rfl
  | update userId i now u =>
    rw [run, SavedQuery.run_update] at h ⊢
    cases hfound : SavedQuery.ownedBy userId i (s.find? i) with
    | error e => rfl
    | ok q =>
      rw [hfound] at h
      cases hfault : SavedQuery.changeFault q.environmentId u with
      | some e => simp only [hfault, Prod.map_snd, id]
      | none =>
        simp only [hfault] at h
        obtain ⟨e, he⟩ := h
        cases he
  | delete userId i =>
    rw [run, SavedQuery.run_delete] at h ⊢
    cases hfound : SavedQuery.ownedBy userId i (s.find? i) with
    | error e => rfl
    | ok q =>
      rw [hfound] at h
      obtain ⟨e, he⟩ := h
      cases he

end SavedCall

/-- Carries out calls one after the other, and gives each with its reply. -/
def SavedRows.serve (environments : EnvironmentStore) : SavedRows → List SavedCall →
    List (SavedCall × SavedReply) × SavedRows
  | s, [] => ([], s)
  | s, c :: cs =>
    let (r, s) := c.run environments s
    let (answered, s) := serve environments s cs
    ((c, r) :: answered, s)

namespace SavedRows

theorem serve_cons (environments : EnvironmentStore) (s : SavedRows) (c : SavedCall) (cs : List SavedCall) :
    s.serve environments (c :: cs) =
      ((c, (c.run environments s).1) :: ((c.run environments s).2.serve environments cs).1,
        ((c.run environments s).2.serve environments cs).2) := rfl

theorem serve_concat (environments : EnvironmentStore) (s : SavedRows) (cs : List SavedCall) (c : SavedCall) :
    s.serve environments (cs ++ [c]) =
      ((s.serve environments cs).1 ++ [(c, (c.run environments (s.serve environments cs).2).1)],
        (c.run environments (s.serve environments cs).2).2) := by
  induction cs generalizing s with
  | nil => rfl
  | cons d cs ih =>
    rw [List.cons_append, serve_cons, ih, serve_cons]
    rfl

theorem serve_append (environments : EnvironmentStore) (s : SavedRows) (cs ds : List SavedCall) :
    (s.serve environments (cs ++ ds)).2 = ((s.serve environments cs).2.serve environments ds).2 := by
  induction cs generalizing s with
  | nil => rfl
  | cons c cs ih =>
    rw [List.cons_append, serve_cons, serve_cons]
    exact ih _

/-- What holds of every row that is created, and is kept by every change, holds of all rows. -/
theorem forall_rows_serve {environments : EnvironmentStore} {P : SavedQuery → Prop} {calls : List SavedCall}
    (hcreated : ∀ userId i now n, .create userId i now n ∈ calls →
      SavedQuery.creationFault environments userId n = none → P (.created userId i now n))
    (hrevised : ∀ q now u, .update q.userId q.id now u ∈ calls →
      SavedQuery.changeFault q.environmentId u = none → P q → P (q.revised now u)) :
    ∀ q ∈ (empty.serve environments calls).2.rows, P q := by
  induction calls using List.reverseRecOn with
  | nil =>
    intro q hq
    cases hq
  | append_singleton cs c ih =>
    have hrows := ih (fun userId i now n hmem => hcreated userId i now n (List.mem_append_left _ hmem))
      (fun q now u hmem => hrevised q now u (List.mem_append_left _ hmem))
    intro q hq
    rw [serve_concat] at hq
    rcases (c.writes_run environments _).cases_of_mem hq with
      hq | ⟨userId, i, now, n, rfl, hfault, rfl⟩ | ⟨q₀, hq₀, now, u, rfl, hfault, rfl⟩
    · exact hrows q hq
    · exact hcreated userId i now n (by simp) hfault
    · exact hrevised q₀ now u (by simp) hfault (hrows q₀ hq₀)

theorem nodup_ids_serve (environments : EnvironmentStore) (calls : List SavedCall) :
    ((empty.serve environments calls).2.rows.map (·.id)).Nodup := by
  induction calls using List.reverseRecOn with
  | nil => exact .nil
  | append_singleton cs c ih =>
    rw [serve_concat]
    exact (c.writes_run environments _).nodup_ids ih

theorem find?_eq_some_iff {s : SavedRows} {i : Uuid} {q : SavedQuery} (hids : (s.rows.map (·.id)).Nodup) :
    s.find? i = some q ↔ q ∈ s.rows ∧ q.id = i := by
  constructor
  · intro h
    exact ⟨mem_of_find? h, id_of_find? h⟩
  · rintro ⟨hq, rfl⟩
    cases hfind : s.find? q.id with
    | none => exact absurd (beq_self_eq_true q.id) (List.find?_eq_none.1 hfind q hq)
    | some r =>
      have heq := List.inj_on_of_nodup_map hids (mem_of_find? hfind) hq (id_of_find? hfind)
      rw [heq]

/-! ### A sample -/

def sampleEnvironments : EnvironmentStore := ⟨[⟨"prod", "ann", "Production", "", "", "", ""⟩]⟩

def sampleNew : NewSavedQuery where
  environmentId := "prod"
  name := " Accounts "
  description := none
  definition := "\x7b\"environmentId\":\"prod\",\"primaryEntity\":\"account\",\"fields\":[]\x7d"

def sampleCalls : List SavedCall :=
  [.create "ann" (.ofNat 1) ⟨10⟩ sampleNew, .update "ann" (.ofNat 1) ⟨20⟩ ⟨some "Customers", none, none⟩]

def sampleRow : SavedQuery :=
  (SavedQuery.created "ann" (.ofNat 1) ⟨10⟩ sampleNew).revised ⟨20⟩ ⟨some "Customers", none, none⟩

theorem creationFault_sample : SavedQuery.creationFault sampleEnvironments "ann" sampleNew = none := by
  have hname : SavedQuery.nameFault sampleNew.name = none := rfl
  have hdefinition : SavedQuery.definitionFault sampleNew.environmentId sampleNew.definition = none := by cbv
  have henvironment : SavedQuery.environmentFault sampleEnvironments "ann" sampleNew.environmentId = none := rfl
  rw [SavedQuery.creationFault, hname, hdefinition, henvironment]
  rfl

theorem rows_sample : (empty.serve sampleEnvironments sampleCalls).2.rows = [sampleRow] := by
  rw [sampleCalls, serve_cons, SavedCall.run, SavedQuery.run_create, creationFault_sample]
  rfl

end SavedRows

end QueryDesk
