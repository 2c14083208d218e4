import Tensegrity.Proofs.Markers

/-!
# Queries and labels

A query is a tag string, read as a set of words, and a component, a rigid body, an actuator or a
group matches it when its tags hold every word of it (`Tags.contains_eq`). Every way the model
answers a query agrees with that one test. The ids it finds are exactly the ids of the matching
components, in ascending order; the components it finds are the components at those ids; the
actuators and the rigid bodies it finds are the matching ones among all actuators and all rigid
bodies (`filterMap_filter_contains`, one lemma for both kinds); the groups it finds are the
matching groups.

A label names what a query found when it was bound. The model keeps its labels as a map in
which the last binding of a label wins (`Model.lookup_bind`) and a tear-down forgets all of
them; every other operation leaves them alone (`Model.bindings_apply`). So after any run from a
new model a label is looked up to the ids found by its last binding since the last tear-down
(`Model.LastBound`), and the labels the model knows are exactly those bound since
(`Model.lookup_run`).
-/

namespace Tensegrity

/-- **A tag set contains a query** when it holds every word of it. -/
theorem Tags.contains_eq (t q : Tags) : t.contains q = decide (q.tokens ⊆ t.tokens) := by
  rw [Bool.eq_iff_iff, decide_eq_true_iff, Tags.contains, List.all_eq_true]
  simp [List.subset_def]

/-- **Picking out one kind of component commutes with a tag test**, for any kind whose values
carry the tags of the component they come from. -/
theorem filterMap_filter_contains {α : Type} (f : Component → Option α) (tags : α → Tags)
    (hf : ∀ c a, f c = some a → tags a = c.tags) (t : Tags) (cs : List Component) :
    (cs.filter (·.tags.contains t)).filterMap f = (cs.filterMap f).filter (fun a => (tags a).contains t) := by
  rw [List.filterMap_filter, List.filter_filterMap]
  apply List.filterMap_congr
  intro c _
  cases hc : f c with
  | none => simp
  | some a => simp [hf c a hc, Option.filter]

namespace Model

/-! ## Queries -/

/-- **The ids a query finds** are those of the components whose tags hold every word of it. -/
theorem mem_findIds (m : Model) (q : String) (i : Nat) :
    i ∈ m.findIds q ↔ ∃ c, m.components[i]? = some c ∧ (Tags.parse q).tokens ⊆ c.tags.tokens := by
  simp only [findIds, List.mem_map, List.mem_filter, Tags.contains_eq, decide_eq_true_iff]
  constructor
  · rintro ⟨⟨c, j⟩, ⟨hmem, hc⟩, rfl⟩
    exact ⟨c, List.mk_mem_zipIdx_iff_getElem?.1 hmem, hc⟩
  · rintro ⟨c, hc, hsub⟩
    exact ⟨(c, i), ⟨List.mk_mem_zipIdx_iff_getElem?.2 hc, hsub⟩, rfl⟩

/-- **The ids a query finds are ascending**: they are positions of the components, filtered. -/
theorem findIds_ascending (m : Model) (q : String) : (m.findIds q).Pairwise (· < ·) := by
  have hids : (m.components.zipIdx.map Prod.snd).Pairwise (· < ·) := by
    rw [List.zipIdx_map_snd]
    exact List.pairwise_lt_range'
  exact List.pairwise_map.2 ((List.pairwise_map.1 hids).filter _)

/-- The ids a query finds, as a filter over the components with their ids. -/
theorem findIds_eq (m : Model) (q : String) :
    m.findIds q = (m.components.zipIdx.filter fun p => p.1.tags.contains (Tags.parse q)).map Prod.snd :=
  rfl

/-- **The components a query finds are the components at the ids it finds**, in order. -/
theorem map_component?_findIds (m : Model) (q : String) :
    (m.findIds q).map m.component? = (m.find q).map some := by
  -- each entry of the list with ids reads its component back at its id
  have hread : ∀ p ∈ m.components.zipIdx.filter (fun p => p.1.tags.contains (Tags.parse q)),
      (m.component? ∘ Prod.snd) p = (some ∘ Prod.fst) p := by
    intro p hp
    exact List.mk_mem_zipIdx_iff_getElem?.1 (List.mem_of_mem_filter hp)
  rw [findIds_eq, List.map_map, List.map_congr_left hread, ← List.map_map]
  congr 1
  -- the test reads only the component of each entry
  show List.map Prod.fst (List.filter ((fun c : Component => c.tags.contains (Tags.parse q)) ∘ Prod.fst)
    m.components.zipIdx) = _
  rw [← List.filter_map, List.zipIdx_map_fst]
  rfl

/-- **The actuators a query finds** are the matching ones among all actuators. -/
theorem findActuators_eq (m : Model) (q : String) :
    m.findActuators q = m.actuators.filter fun a => decide ((Tags.parse q).tokens ⊆ a.tags.tokens) := by
  have hf : ∀ (c : Component) (a : Actuator), c.actuator? = some a → a.tags = c.tags := by
    intro c a h
    cases c with
    | rigid b => cases h
    | actuator a' =>
      cases h
      rfl
  rw [findActuators, find, filterMap_filter_contains _ Actuator.tags hf, actuators]
  simp only [Tags.contains_eq]

/-- **The rigid bodies a query finds** are the matching ones among all rigid bodies. -/
theorem findRigids_eq (m : Model) (q : String) :
    m.findRigids q = m.rigids.filter fun b => decide ((Tags.parse q).tokens ⊆ b.tags.tokens) := by
  have hf : ∀ (c : Component) (b : RigidBody), c.rigid? = some b → b.tags = c.tags := by
    intro c b h
    cases c with
    | rigid b' =>
      cases h
      rfl
    | actuator a => cases h
  rw [findRigids, find, filterMap_filter_contains _ RigidBody.tags hf, rigids]
  simp only [Tags.contains_eq]

/-- **The groups a query finds** are the matching groups, in order. -/
theorem findGroups_eq (m : Model) (q : String) :
    m.findGroups q = m.groups.filter fun g => decide ((Tags.parse q).tokens ⊆ g.tags.tokens) := by
  simp only [findGroups, Tags.contains_eq]

/-! ## Labels -/

/-- **After a binding, the label is found with its new ids** and every other label as before. -/
theorem find?_insertBinding (l : String) (ids : List Nat) (l' : String) (bs : List (String × List Nat)) :
    (insertBinding l ids bs).find? (·.1 == l') = if l = l' then some (l, ids) else bs.find? (·.1 == l') := by
  induction bs with
  | nil => by_cases h : l = l' <;> simp [insertBinding, h]
  | cons b bs ih =>
    obtain ⟨k, kids⟩ := b
    unfold insertBinding
    split
    · by_cases h : l = l' <;> simp [h]
    · split
      · -- the old binding of the label is replaced
        next hk =>
        subst hk
        by_cases h : l = l' <;> simp [h]
      · -- the binding goes further on, past a binding of another label
        next _ hk =>
        rw [List.find?_cons, ih, List.find?_cons]
        by_cases h : l = l'
        · subst h
          have hkl : (k == l) = false := by simpa using Ne.symm hk
          simp [hkl]
        · simp [h]

/-- **Binding a label** finds it with the ids the query finds now, and leaves the others. -/
theorem lookup_bind (m : Model) (l q l' : String) :
    (m.bind l q).1.lookup l' = if l = l' then .ok (m.findIds q) else m.lookup l' := by
  unfold lookup bind
  rw [find?_insertBinding]
  by_cases h : l = l'
  · rw [if_pos h, if_pos h]
  · rw [if_neg h, if_neg h]

/-- A label is looked up to its ids or is unknown. -/
theorem lookup_ok_or_unknown (m : Model) (l : String) :
    (∃ ids, m.lookup l = .ok ids) ∨ m.lookup l = .error (.unknownLabel l) := by
  unfold lookup
  split
  · exact .inl ⟨_, rfl⟩
  · exact .inr rfl

/-- **The labels of a model** are those it can look up. -/
theorem mem_labels_iff (m : Model) (l : String) : l ∈ m.labels ↔ ∃ ids, m.lookup l = .ok ids := by
  unfold labels lookup
  constructor
  · intro hl
    obtain ⟨⟨k, kids⟩, hmem, rfl⟩ := List.mem_map.1 hl
    cases hf : m.bindings.find? (·.1 == k) with
    | none => exact absurd (List.find?_eq_none.1 hf (k, kids) hmem) (by simp)
    | some b => exact ⟨b.2, rfl⟩
  · rintro ⟨ids, hids⟩
    split at hids
    · next k kids hf =>
      have hk : k = l := by simpa using List.find?_some hf
      subst hk
      exact List.mem_map.2 ⟨(k, kids), List.mem_of_find?_eq_some hf, rfl⟩
    · cases hids

/-- A model with the same bindings looks every label up alike. -/
theorem lookup_congr {m m' : Model} (h : m'.bindings = m.bindings) (l : String) : m'.lookup l = m.lookup l := by
  unfold lookup
  rw [h]

/-- **Operations other than a binding and a tear-down keep the bindings.** -/
theorem bindings_apply (m : Model) : ∀ op : Op, (∀ l q, op ≠ .bind l q) → op ≠ .teardown →
    (m.apply op).bindings = m.bindings
  | .bind l q, hb, _ => absurd rfl (hb l q)
  | .teardown, _, ht => absurd rfl ht
  | .build s spec w, _, _ => by
    simp only [apply]
    split
    · next r hb =>
      obtain ⟨-, R, -, rfl⟩ := eq_of_buildInto_eq_ok hb
      rfl
    · rfl
  | .setup, _, _ => by rw [apply, setup_eq]
  | .step dt, _, _ => by
    simp only [apply]
    split
    · next r hstep =>
      obtain ⟨cs, e, -, hm'⟩ := step_eq_ok hstep
      rw [hm']
    · rfl
  | .attachMarker r p c n, _, _ => by
    simp only [apply]
    split
    · next res hres =>
      obtain ⟨m', k⟩ := res
      obtain ⟨b, -, rfl⟩ := attachMarker_eq_ok hres
      rfl
    · rfl
  | .addObserver o, _, _ => rfl
  | .setControl i t, _, _ => by
    simp only [apply]
    cases hs : m.setControl i t with
    | none => rfl
    | some res =>
      obtain ⟨a, -, -, hm'⟩ := setControl_eq_some hs
      rw [Option.map_some, Option.getD_some, hm']

/-- **`l` was last bound to `ids`**: some operation of the run bound `l`, to the ids its query
found on the model the run had reached, and no tear-down and no other binding of `l` came
after it. -/
def LastBound (m : Model) (ops : List Op) (l : String) (ids : List Nat) : Prop :=
  ∃ pre q post, ops = pre ++ .bind l q :: post ∧ ids = (m.run pre).findIds q ∧
    ∀ op ∈ post, op ≠ .teardown ∧ ∀ q', op ≠ .bind l q'

/-- A run one operation longer: a binding of `l` counts when it is the last operation, and an
earlier one still counts unless the last operation tears down or binds `l` again. -/
theorem lastBound_append_singleton (m : Model) (ops : List Op) (op : Op) (l : String) (ids : List Nat) :
    LastBound m (ops ++ [op]) l ids ↔ (∃ q, op = .bind l q ∧ ids = (m.run ops).findIds q) ∨
      ((op ≠ .teardown ∧ ∀ q', op ≠ .bind l q') ∧ LastBound m ops l ids) := by
  constructor
  · rintro ⟨pre, q, post, heq, hids, hpost⟩
    rcases append_singleton_eq_append_cons.1 heq with ⟨rfl, rfl, rfl⟩ | ⟨post', rfl, rfl⟩
    · -- the binding is the last operation
      exact .inl ⟨q, rfl, hids⟩
    · -- the binding came before, and the last operation is after it
      exact .inr ⟨hpost op (by simp), pre, q, post', rfl, hids, fun o ho => hpost o (by simp [ho])⟩
  · rintro (⟨q, rfl, hids⟩ | ⟨hop, pre, q, post, rfl, hids, hpost⟩)
    · exact ⟨ops, q, [], rfl, hids, fun o ho => by cases ho⟩
    · refine ⟨pre, q, post ++ [op], by simp, hids, fun o ho => ?_⟩
      rcases List.mem_append.1 ho with ho | ho
      · exact hpost o ho
      · obtain rfl := List.mem_singleton.1 ho
        exact hop

/-- **A label is looked up to the ids of its last binding since the last tear-down**, after any
run from a model with no label. -/
theorem lookup_run {m : Model} (hm : m.bindings = []) (l : String) (ops : List Op) :
    ∀ ids, (m.run ops).lookup l = .ok ids ↔ LastBound m ops l ids := by
  induction ops using List.reverseRecOn with
  | nil =>
    intro ids
    have hnone : m.lookup l = .error (.unknownLabel l) := by simp [lookup, hm]
    rw [run_nil, hnone]
    simp only [reduceCtorEq, false_iff]
    rintro ⟨pre, q, post, heq, -⟩
    simp at heq
  | append_singleton ops op ih =>
    intro ids
    rw [run_append_singleton, lastBound_append_singleton]
    cases op with
    | bind l' q =>
      rw [apply, lookup_bind]
      by_cases h : l' = l
      · -- the last operation binds this label
        subst h
        simp only [if_pos, Except.ok.injEq]
        constructor
        · rintro rfl
          exact .inl ⟨q, rfl, rfl⟩
        · rintro (⟨q', hq, rfl⟩ | ⟨⟨-, hne⟩, -⟩)
          · cases hq
            rfl
          · exact absurd rfl (hne q)
      · -- it binds another label
        rw [if_neg h, ih]
        simp [h]
    | teardown => simp [apply, teardown, lookup]
    | build s spec w | setup | step _ | attachMarker _ _ _ _ | addObserver _ | setControl _ _ =>
      rw [lookup_congr (bindings_apply _ _ (by simp) (by simp)), ih]
      simp

/-- **Actuators of a label** are those among the components at its ids, in their order. -/
theorem actuatorGroup_eq (m : Model) (l : String) :
    m.actuatorGroup l = (m.lookup l).map fun ids => (ids.filterMap m.component?).filterMap Component.actuator? := by
  unfold actuatorGroup
  cases m.lookup l with
  | error f => rfl
  | ok ids =>
    simp only [List.filterMap_filterMap]
    rfl

/-- Ids that all name components read as many components. -/
theorem map_component?_of_lt (m : Model) {ids : List Nat} (h : ∀ i ∈ ids, i < m.components.length) :
    ids.map m.component? = (ids.filterMap m.component?).map some := by
  induction ids with
  | nil => rfl
  | cons i ids ih =>
    have hlt : i < m.components.length := h i List.mem_cons_self
    have hi : m.component? i = some m.components[i] := List.getElem?_eq_getElem hlt
    rw [List.map_cons, List.filterMap_cons, hi, ih fun j hj => h j (List.mem_cons_of_mem _ hj)]
    rfl

/-- **Queries and labels.** In every model reached from a new one by any run of operations, a
query finds the ids of exactly the components whose tags hold every word of it, in ascending
order, and the components at those ids, in order; the actuators, the rigid bodies and the
groups it finds are the matching ones among all actuators, all rigid bodies and all groups, in
their order. Binding a label to a query returns the ids the query finds and stores them under
the label. A label is looked up to the ids of its last binding since the last tear-down, and is
unknown exactly when there is none; the labels the model knows are exactly the labels bound
since. The actuators of a label are the actuators among the components at its ids, each of
which exists. -/
theorem queries_and_labels (config : ModelConfig) (ops : List Op) (q l : String) :
    let m := (Model.new config).run ops
    let t := Tags.parse q
    (∀ i, i ∈ m.findIds q ↔ ∃ c, m.components[i]? = some c ∧ t.tokens ⊆ c.tags.tokens) ∧
    (m.findIds q).Pairwise (· < ·) ∧
    (m.findIds q).map m.component? = (m.find q).map some ∧
    m.findActuators q = m.actuators.filter (fun a => decide (t.tokens ⊆ a.tags.tokens)) ∧
    m.findRigids q = m.rigids.filter (fun b => decide (t.tokens ⊆ b.tags.tokens)) ∧
    m.findGroups q = m.groups.filter (fun g => decide (t.tokens ⊆ g.tags.tokens)) ∧
    (m.bind l q).2 = m.findIds q ∧ (m.bind l q).1.lookup l = .ok (m.findIds q) ∧
    (∀ ids, m.lookup l = .ok ids ↔ LastBound (Model.new config) ops l ids) ∧
    (m.lookup l = .error (.unknownLabel l) ↔ ∀ ids, ¬LastBound (Model.new config) ops l ids) ∧
    (l ∈ m.labels ↔ ∃ ids, LastBound (Model.new config) ops l ids) ∧
    (∀ ids, m.lookup l = .ok ids → ∃ cs : List Component, ids.map m.component? = cs.map some ∧
      m.actuatorGroup l = .ok (cs.filterMap Component.actuator?)) ∧
    (m.lookup l = .error (.unknownLabel l) → m.actuatorGroup l = .error (.unknownLabel l)) := by
  intro m t
  have hrun := lookup_run (m := Model.new config) rfl l ops
  refine ⟨mem_findIds m q, findIds_ascending m q, map_component?_findIds m q, findActuators_eq m q,
    findRigids_eq m q, findGroups_eq m q, rfl, by rw [lookup_bind, if_pos rfl], hrun, ?_, ?_, ?_, ?_⟩
  · -- a label is unknown exactly when it is not looked up to any ids
    constructor
    · intro hunknown ids hlast
      rw [← hrun, hunknown] at hlast
      cases hlast
    · intro hnone
      rcases lookup_ok_or_unknown m l with ⟨ids, hids⟩ | hunknown
      · exact absurd ((hrun ids).1 hids) (hnone ids)
      · exact hunknown
  · rw [mem_labels_iff]
    exact exists_congr hrun
  · -- the ids of a label were bound on this model's components, so each names one
    intro ids hids
    have hlt : ∀ i ∈ ids, i < m.components.length := by
      obtain ⟨k, hk⟩ := lookup_eq_ok hids
      exact (Sound.run config ops).bindings_lt _ hk
    refine ⟨ids.filterMap m.component?, map_component?_of_lt m hlt, ?_⟩
    rw [actuatorGroup_eq, hids]
    rfl
  · intro hunknown
    rw [actuatorGroup_eq, hunknown]
    rfl

/-- Binding a label twice: the label is looked up to what the second query found. -/
theorem rebinding_wins :
    ((Model.new {}).run [.bind "a" "rod", .bind "a" "muscle"]).lookup "a" =
      .ok (((Model.new {}).run [.bind "a" "rod"]).findIds "muscle") :=
  ((queries_and_labels {} [.bind "a" "rod", .bind "a" "muscle"] "muscle" "a").2.2.2.2.2.2.2.2.1 _).2
    ⟨[.bind "a" "rod"], "muscle", [], rfl, rfl, fun _ h => by cases h⟩

end Model

end Tensegrity
