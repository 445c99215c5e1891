import QueryDesk.Grid
import QueryDesk.Proofs.ExpandTree
import QueryDesk.Proofs.Members

/-!
# Cells of joined fields

A row is filled from a record by walking joins, a request nests its expansions by going down the same joins.
For records that have no members named like aliases both lead to the same place (`follow_bind_get?`): the cell of
a joined field is what stands where the field was selected, or else what the record holds for the field itself.
-/

namespace QueryDesk

/-! ### Keys -/

theorem List.append_cons_inj {α : Type} {x : α} {as bs fs gs : List α} (hf : x ∉ fs) (hg : x ∉ gs)
    (h : as ++ x :: fs = bs ++ x :: gs) : as = bs ∧ fs = gs := by
  rcases List.append_eq_append_iff.1 h with ⟨cs, hbs, hcs⟩ | ⟨cs, has, hcs⟩
  · cases cs with
    | nil => exact ⟨by rw [hbs, List.append_nil], (List.cons.inj hcs).2⟩
    | cons c cs =>
      rw [(List.cons.inj hcs).2] at hf
      exact absurd (List.mem_append_right cs List.mem_cons_self) hf
  · cases cs with
    | nil => exact ⟨by rw [has, List.append_nil], (List.cons.inj hcs).2.symm⟩
    | cons c cs =>
      rw [(List.cons.inj hcs).2] at hg
      exact absurd (List.mem_append_right cs List.mem_cons_self) hg

/-- The dot in front of a field name is the last one of a key. -/
theorem Field.identity_eq_of_key_eq {f g : Field} (hf : '.' ∉ f.fieldName.toList) (hg : '.' ∉ g.fieldName.toList)
    (h : f.key = g.key) : f.identity = g.identity := by
  have hchars := congrArg String.toList h
  simp only [Field.key, String.toList_append, List.append_assoc] at hchars
  obtain ⟨halias, hname⟩ := List.append_cons_inj hf hg hchars
  rw [Field.identity, Field.identity, String.toList_inj.1 halias, String.toList_inj.1 hname]

namespace Query

variable {q : Query}

theorem dedupFields_nodup (seen : List (String × String)) (fs : List Field) :
    ((dedupFields seen fs).map Field.identity).Nodup ∧ ∀ f ∈ dedupFields seen fs, f.identity ∉ seen := by
  induction fs generalizing seen with
  | nil => exact ⟨List.nodup_nil, List.forall_mem_nil _⟩
  | cons f fs ih =>
    rw [dedupFields]
    split
    · exact ih seen
    · next hf =>
      obtain ⟨hnd, hseen⟩ := ih (f.identity :: seen)
      rw [List.map_cons, List.nodup_cons, List.forall_mem_cons]
      refine ⟨⟨fun hmem => ?_, hnd⟩, hf, fun g hg hmem => hseen g hg (List.mem_cons_of_mem _ hmem)⟩
      obtain ⟨g, hg, heq⟩ := List.mem_map.1 hmem
      exact hseen g hg (heq ▸ List.mem_cons_self)

theorem nodup_keys (h : ∀ f ∈ q.distinctFields, '.' ∉ f.fieldName.toList) :
    (q.distinctFields.map Field.key).Nodup := by
  have hnd := List.pairwise_map.1 (dedupFields_nodup [] q.fields).1
  refine List.pairwise_map.2 (hnd.imp_of_mem fun {f g} hf hg hne hkey => hne ?_)
  exact Field.identity_eq_of_key_eq (h f hf) (h g hg) hkey

theorem Valid.nodup_keys (h : q.Valid) : (q.distinctFields.map Field.key).Nodup :=
  Query.nodup_keys fun f hf => Text.isIdentifier_not_mem (h.distinctFields f hf) (by decide)

/-- If the keys of its fields are different, a row has nothing but their cells. -/
theorem perm_row (h : (q.distinctFields.map Field.key).Nodup) (record : Json) :
    (q.row record).Perm (q.distinctFields.map fun f => (f.key, q.cell record f)) := by
  refine Members.perm_ofList ?_
  rw [List.map_map]
  exact h

/-- A row has the cell of a field under the key of the field. -/
theorem Valid.get?_row (h : q.Valid) (record : Json) {f : Field} (hf : f ∈ q.distinctFields) :
    (q.row record).get? f.key = some (q.cell record f) := by
  refine Members.get?_ofList ?_ (List.mem_map_of_mem hf)
  rw [List.map_map]
  exact h.nodup_keys

end Query

/-! ### Walks -/

theorem objectIn_eq_none {ms : Members} {name : String} (h : name ∉ (Json.object ms).memberNames) :
    objectIn ms name = none := by
  rw [objectIn, Json.get?_eq_none h]
  rfl

/-- Without members named like aliases, joins are followed by their navigation names. -/
theorem follow_bind_get? {ms : Members} {js : List Join}
    (h : ∀ j ∈ js, j.toEntityAlias ∉ (Json.object ms).memberNames) (name : String) :
    (follow ms js).bind (Members.get? · name) = (Json.object ms).at? (js.map Join.navigation ++ [name]) := by
  induction js generalizing ms with
  | nil =>
    show ms.get? name = (ms.get? name).bind some
    cases ms.get? name <;> rfl
  | cons j js ih =>
    obtain ⟨hj, hjs⟩ := List.forall_mem_cons.1 h
    have hmember : (Json.object ms).member? j.navigation = ms.get? j.navigation := rfl
    rw [follow, objectIn_eq_none hj, List.map_cons, List.cons_append, Json.at?, hmember, objectIn]
    cases hget : ms.get? j.navigation with
    | none => rfl
    | some v =>
      cases hv : v.members? with
      | none =>
        obtain ⟨first, rest, heq⟩ := List.exists_cons_of_ne_nil (l := js.map Join.navigation ++ [name]) (by simp)
        simp [hv, heq, Json.at?, Json.member?]
      | some ns =>
        obtain rfl := Json.members?_eq_some.1 hv
        have hns : ∀ k ∈ js, k.toEntityAlias ∉ (Json.object ns).memberNames := fun k hk hmem =>
          hjs k hk ((Json.memberNames_of_get? hget).2 _ hmem)
        have hrest := ih hns
        simpa [hv] using hrest

/-! ### Cells -/

/-- What is shown of several values: the first one. What is missing and what is null is passed over, and null is shown
if nothing else is left. -/
def firstGiven : List (Option Json) → Json
  | [] => .null
  | none :: vs | some .null :: vs => firstGiven vs
  | some v :: _ => v

theorem firstGiven_of_not_null {v : Json} (h : v.isNull = false) (vs : List (Option Json)) :
    firstGiven (some v :: vs) = v := by
  cases v with
  | null => cases h
  | _ => rfl

theorem defined_of_not_null {v : Json} (h : v.isNull = false) : defined (some v) = some v := by
  rw [defined, Option.filter_some, h]
  rfl

theorem firstGiven_cons (v : Option Json) (vs : List (Option Json)) :
    firstGiven (v :: vs) = (defined v).getD (firstGiven vs) := by
  rcases v with - | v
  · rfl
  cases hv : v.isNull with
  | true =>
    cases v with
    | null => rfl
    | _ => cases hv
  | false => rw [firstGiven_of_not_null hv, defined_of_not_null hv, Option.getD_some]

open OData

namespace Query

variable {q : Query} {ms : Members} {f : Field} {a : String}

theorem getD_primaryValue (ms : Members) (name : String) :
    (primaryValue ms name).getD .null = firstGiven [formattedValue? ms name, ms.get? name] := by
  rw [firstGiven_cons, firstGiven_cons, firstGiven, primaryValue]
  cases defined (formattedValue? ms name) <;> rfl

theorem cell_of_primary (ms : Members) (hf : f.entityAlias = q.primaryAlias) :
    q.cell (.object ms) f = firstGiven [formattedValue? ms f.fieldName, ms.get? f.fieldName] := by
  show (if q.isPrimary f.entityAlias then primaryValue ms f.fieldName else _).getD .null = _
  rw [if_pos (isPrimary_iff.2 hf), getD_primaryValue]

theorem cell_of_joined (ms : Members) (hf : f.entityAlias ≠ q.primaryAlias) :
    q.cell (.object ms) f = firstGiven
      [(q.expanded ms f.entityAlias).bind (Members.get? · f.fieldName), formattedValue? ms f.fieldName,
        ms.get? f.fieldName] := by
  show (if q.isPrimary f.entityAlias then _ else q.joinedValue ms f.entityAlias f.fieldName).getD .null = _
  rw [if_neg (mt isPrimary_iff.1 hf), joinedValue, firstGiven_cons, ← getD_primaryValue]
  cases defined ((q.expanded ms f.entityAlias).bind (Members.get? · f.fieldName)) <;> rfl

theorem Valid.joinPath_ne_nil (h : q.Valid) {j : Join} (hj : j ∈ q.joins) (hr : q.Reaches j.toEntityAlias) :
    q.joinPath j.toEntityAlias ≠ [] := by
  obtain ⟨is, his⟩ := hr
  cases is with
  | nil => exact absurd his.eq_primary (h.alias_ne j hj)
  | cons i is =>
    obtain ⟨k, hk, ha, hp⟩ := his.parent_of_cons
    rw [← ha, h.joinPath_step hk ⟨is, hp⟩]
    exact List.append_ne_nil_of_right_ne_nil _ (List.cons_ne_nil _ _)

/-- Without members named like aliases the expanded object stands at the end of the path of its alias. -/
theorem expanded_bind_get? (ha : a ∉ (Json.object ms).memberNames)
    (hjs : ∀ j ∈ q.joins, j.toEntityAlias ∉ (Json.object ms).memberNames) (name : String) :
    (q.expanded ms a).bind (Members.get? · name) =
      if q.joinPath a = [] then none
      else (Json.object ms).at? ((q.joinPath a).map Join.navigation ++ [name]) := by
  have havoid : ∀ k ∈ q.joinPath a, k.toEntityAlias ∉ (Json.object ms).memberNames :=
    fun k hk => hjs k (mem_joins_of_mem_joinPath hk)
  have hfollow := follow_bind_get? havoid name
  rw [expanded, objectIn_eq_none ha]
  cases hpath : q.joinPath a with
  | nil => rfl
  | cons k ks =>
    rw [hpath] at hfollow
    rw [if_neg (List.cons_ne_nil k ks)]
    exact hfollow

theorem Valid.expanded_bind_get? (h : q.Valid) (hms : ∀ j ∈ q.joins, j.toEntityAlias ∉ (Json.object ms).memberNames)
    {j : Join} (hj : j ∈ q.joins) (hr : q.Reaches j.toEntityAlias) (name : String) :
    (q.expanded ms j.toEntityAlias).bind (Members.get? · name) =
      (Json.object ms).at? ((q.joinPath j.toEntityAlias).map Join.navigation ++ [name]) := by
  rw [Query.expanded_bind_get? (hms j hj) hms, if_neg (h.joinPath_ne_nil hj hr)]

/-- A joined cell holds what stands where its field was selected, or else what the record holds for the field; a
cell of the primary entity holds the label of its field, or else the raw value. A null counts as nothing held. -/
theorem rows_cells (q : Query) (h : q.validate = .ok ()) (records : List Json) :
    expandAll q.branches = q.expands ∧
    ∀ (k : Nat) (ms : Members), records[k]? = some (.object ms) → ∃ row : Row, (q.rows records)[k]? = some row ∧
      (∀ f ∈ q.distinctFields, f.entityAlias = q.primaryAlias →
        Members.get? row f.key = some (firstGiven
          [ms.get? (f.fieldName ++ "@OData.Community.Display.V1.FormattedValue"), ms.get? f.fieldName])) ∧
      ((∀ j ∈ q.joins, j.toEntityAlias ∉ (Json.object ms).memberNames) →
        ∀ f ∈ q.distinctFields, ∀ j ∈ q.joins, j.toEntityAlias = f.entityAlias → q.Reaches j.toEntityAlias →
        ∃ n ∈ nodesAll [] q.branches, n.join = j ∧ f.fieldName ∈ n.select ∧
          (∀ n' ∈ nodesAll [] q.branches, n'.join = j → n' = n) ∧
          Members.get? row f.key = some (firstGiven [(Json.object ms).at? (n.path ++ [f.fieldName]),
            ms.get? (f.fieldName ++ "@OData.Community.Display.V1.FormattedValue"), ms.get? f.fieldName])) := by
  have hq := validate_eq_ok_iff.1 h
  refine ⟨expandAll_branchesBelow _ _ _, fun k ms hk => ⟨q.row (.object ms), by rw [rows, List.getElem?_map, hk]; rfl,
    fun f hf hprimary => ?_, fun hms f hf j hj halias hr => ?_⟩⟩
  · rw [hq.get?_row _ hf, cell_of_primary ms hprimary]
    rfl
  · have hnode : q.node j ∈ nodesAll [] q.branches :=
      hq.mem_nodesAll_branches.2 ⟨hj, hr, ⟨f, hf, halias ▸ .self hj⟩, rfl⟩
    refine ⟨q.node j, hnode, rfl, ?_, fun n' hn' hjoin => ?_, ?_⟩
    · rw [node, hq.selectedNames]
      exact List.mem_map_of_mem (List.mem_filter.2 ⟨hf, beq_iff_eq.2 halias.symm⟩)
    · obtain ⟨-, -, -, heq⟩ := hq.mem_nodesAll_branches.1 hn'
      rw [heq, hjoin]
    · rw [hq.get?_row _ hf, cell_of_joined ms (halias ▸ hq.alias_ne j hj), ← halias,
        hq.expanded_bind_get? hms hj hr, node]
      rfl

/-- An opportunity that has a label, with its account, which has no name, and the contact of that. -/
def sampleRecord : Members :=
  [("name", .text "Deal"), ("name@OData.Community.Display.V1.FormattedValue", .text "The deal"),
    ("parentaccount", .object [("name", .null), ("primarycontact", .object [("fullname", .text "Ann")])])]

/-- An opportunity without an account, of which the label is null. -/
def sampleLead : Members := [("name", .text "Lead"), ("name@OData.Community.Display.V1.FormattedValue", .null)]

/-- The missing name of the account gives way to the label, and the label that is null to the name. -/
theorem rows_cells_sample : sample.validate = .ok () ∧
    (∀ ms ∈ [sampleRecord, sampleLead], ∀ j ∈ sample.joins, j.toEntityAlias ∉ (Json.object ms).memberNames) ∧
    (∃ n ∈ nodesAll [] sample.branches, n.join.toEntityAlias = "pc" ∧ n.path = ["parentaccount", "primarycontact"]) ∧
    ∃ row row' : Row, (sample.rows [.object sampleRecord, .object sampleLead])[0]? = some row ∧
      (sample.rows [.object sampleRecord, .object sampleLead])[1]? = some row' ∧
      Members.get? row "main.name" = some (.text "The deal") ∧
      Members.get? row "acct.name" = some (.text "The deal") ∧ Members.get? row "pc.fullname" = some (.text "Ann") ∧
      Members.get? row' "main.name" = some (.text "Lead") ∧
      Members.get? row' "acct.name" = some (.text "Lead") ∧ Members.get? row' "pc.fullname" = some .null := by
  have hnames : ∀ ms ∈ [sampleRecord, sampleLead], ∀ j ∈ sample.joins,
      j.toEntityAlias ∉ (Json.object ms).memberNames := by decide
  have hpaths : ∀ n ∈ nodesAll [] sample.branches,
      (n.join.toEntityAlias = "acct" → n.path = ["parentaccount"]) ∧
        (n.join.toEntityAlias = "pc" → n.path = ["parentaccount", "primarycontact"]) := by decide
  obtain ⟨-, hrows⟩ := rows_cells sample rfl [.object sampleRecord, .object sampleLead]
  obtain ⟨row, hrow, hprimary, hjoined⟩ := hrows 0 sampleRecord rfl
  obtain ⟨row', hrow', hprimary', hjoined'⟩ := hrows 1 sampleLead rfl
  have hmain : (⟨"main", "name", none, none⟩ : Field) ∈ sample.distinctFields := by decide
  have hacct : (⟨"acct", "name", none, none⟩ : Field) ∈ sample.distinctFields := by decide
  have hpc : (⟨"pc", "fullname", none, none⟩ : Field) ∈ sample.distinctFields := by decide
  have haccount : ⟨"main", "parentaccountid", "account", "acct", "accountid", none, none⟩ ∈ sample.joins := by decide
  have hcontact : ⟨"acct", "primarycontactid", "contact", "pc", "contactid", none, none⟩ ∈ sample.joins := by decide
  obtain ⟨n, hn, hjoin, -, -, hcell⟩ := hjoined (hnames _ (by simp)) _ hpc _ hcontact rfl (by decide)
  obtain ⟨m, hm, hmjoin, -, -, hmcell⟩ := hjoined (hnames _ (by simp)) _ hacct _ haccount rfl (by decide)
  obtain ⟨n', hn', hjoin', -, -, hcell'⟩ := hjoined' (hnames _ (by simp)) _ hpc _ hcontact rfl (by decide)
  obtain ⟨m', hm', hmjoin', -, -, hmcell'⟩ := hjoined' (hnames _ (by simp)) _ hacct _ haccount rfl (by decide)
  rw [(hpaths n hn).2 (hjoin ▸ rfl)] at hcell
  rw [(hpaths m hm).1 (hmjoin ▸ rfl)] at hmcell
  rw [(hpaths n' hn').2 (hjoin' ▸ rfl)] at hcell'
  rw [(hpaths m' hm').1 (hmjoin' ▸ rfl)] at hmcell'
  exact ⟨rfl, hnames, ⟨n, hn, hjoin ▸ rfl, (hpaths n hn).2 (hjoin ▸ rfl)⟩, row, row', hrow, hrow', hprimary _ hmain rfl,
    hmcell, hcell, hprimary' _ hmain rfl, hmcell', hcell'⟩

end Query

end QueryDesk
