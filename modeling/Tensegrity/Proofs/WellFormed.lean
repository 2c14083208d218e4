import Tensegrity.Proofs.Subtree

/-!
# Well-formed structures

A pair names its two nodes by index into its own structure's node list. Nothing in the type of
a structure says that these indices are in range, yet realization reads the positions of both
ends of every pair of every structure in the tree. The invariant that makes this safe is
`Structure.WellFormed`: at every depth, each pair joins two distinct nodes of its own structure.

The invariant is not checked when a structure is read; it is **kept** by every operation that
builds or changes one. `Structure.Reachable` lists those operations – adding nodes and pairs,
connecting points, adding children, tagging, the three moves, editing a node in place and
replacing a child by another reachable structure – and `Reachable.wellFormed` proves the
invariant of everything they reach. Each operation gets its own preservation lemma below, and
each of them comes down to one of two facts: the pairs of a structure whose nodes only grow stay
in range, and a tree is well-formed exactly when its root's pairs are in range and its children
are well-formed.

Since children are held by value, every child of a reachable structure is itself reachable
(`Reachable.child`): an edit made deep inside a tree is a replacement of a child by a reachable
structure, one level at a time.
-/

namespace Tensegrity

namespace Structure

/-- **Every pair joins two distinct nodes** of the structure. -/
def PairsInRange (s : Structure) : Prop :=
  ∀ p ∈ s.pairs, p.source ≠ p.target ∧ p.source < s.nodes.length ∧ p.target < s.nodes.length

instance (s : Structure) : Decidable s.PairsInRange :=
  inferInstanceAs (Decidable (∀ p ∈ s.pairs, _))

/-- **A well-formed structure**: every pair of every structure of its tree joins two distinct
nodes of its own structure. -/
def WellFormed (s : Structure) : Prop := ∀ t ∈ s.subtree, t.PairsInRange

instance (s : Structure) : Decidable s.WellFormed :=
  inferInstanceAs (Decidable (∀ t ∈ s.subtree, _))

/-- A tree is well-formed when its root's pairs are in range and its children are well-formed. -/
theorem wellFormed_iff (s : Structure) :
    s.WellFormed ↔ s.PairsInRange ∧ ∀ c ∈ s.children, c.WellFormed := by
  unfold WellFormed
  rw [subtree_eq]
  simp only [List.mem_cons, forall_eq_or_imp, List.mem_flatMap]
  constructor
  · rintro ⟨hs, hcs⟩
    exact ⟨hs, fun c hc t ht => hcs t ⟨c, hc, ht⟩⟩
  · rintro ⟨hs, hcs⟩
    refine ⟨hs, ?_⟩
    rintro t ⟨c, hc, ht⟩
    exact hcs c hc t ht

/-- **Pairs stay in range while nodes only grow.** -/
theorem PairsInRange.mono {s s' : Structure} (h : s.PairsInRange) (hp : s'.pairs = s.pairs)
    (hn : s.nodes.length ≤ s'.nodes.length) : s'.PairsInRange := by
  intro p hmem
  rw [hp] at hmem
  obtain ⟨hne, ha, hb⟩ := h p hmem
  exact ⟨hne, by omega, by omega⟩

/-- A change of the root alone keeps a tree well-formed when the root's pairs stay in range. -/
theorem WellFormed.of_root {s s' : Structure} (h : s.WellFormed) (hroot : s'.PairsInRange)
    (hc : s'.children = s.children) : s'.WellFormed := by
  rw [wellFormed_iff] at h ⊢
  rw [hc]
  exact ⟨hroot, h.2⟩

/-- **Growing the root's nodes keeps a tree well-formed**, when its pairs and children stay. -/
theorem WellFormed.of_nodes_grow {s s' : Structure} (h : s.WellFormed) (hp : s'.pairs = s.pairs)
    (hn : s.nodes.length ≤ s'.nodes.length) (hc : s'.children = s.children) : s'.WellFormed :=
  h.of_root (((wellFormed_iff s).1 h).1.mono hp hn) hc

/-! ## Each operation keeps the invariant -/

/-- Adding a pair succeeds exactly when it joins two distinct existing nodes, and then appends
it and returns its position. -/
theorem addPair_eq_ok_iff {s s' : Structure} {a b i : Nat} {t : String} :
    s.addPair a b t = .ok (s', i) ↔
      a ≠ b ∧ a < s.nodes.length ∧ b < s.nodes.length ∧
        s' = { s with pairs := s.pairs ++ [⟨a, b, Tags.parse t⟩] } ∧ i = s.pairs.length := by
  dsimp only [addPair]
  split
  · next h =>
    simp only [reduceCtorEq, false_iff]
    omega
  · next h =>
    simp only [Except.ok.injEq, Prod.mk.injEq]
    constructor
    · rintro ⟨rfl, rfl⟩
      exact ⟨by omega, by omega, by omega, rfl, rfl⟩
    · rintro ⟨-, -, -, rfl, rfl⟩
      exact ⟨rfl, rfl⟩

/-- Adding a pair refuses exactly the pairs that do not join two distinct existing nodes,
naming both indices and the node count. -/
theorem addPair_eq_error_iff {s : Structure} {a b : Nat} {t : String} {e : Fault} :
    s.addPair a b t = .error e ↔
      (a = b ∨ s.nodes.length ≤ a ∨ s.nodes.length ≤ b) ∧ e = .invalidPair a b s.nodes.length := by
  dsimp only [addPair]
  split
  · next h =>
    simp only [Except.error.injEq]
    exact ⟨fun he => ⟨h, he.symm⟩, fun ⟨_, he⟩ => he.symm⟩
  · next h =>
    simp only [reduceCtorEq, false_iff, not_and]
    intro h'
    exact absurd h' h

theorem PairsInRange.addPair {s s' : Structure} {a b i : Nat} {t : String} (h : s.PairsInRange)
    (hadd : s.addPair a b t = .ok (s', i)) : s'.PairsInRange := by
  obtain ⟨hab, ha, hb, rfl, -⟩ := addPair_eq_ok_iff.1 hadd
  intro p hp
  rcases List.mem_append.1 hp with hp | hp
  · exact h p hp
  · -- the new pair: the guard of `addPair` is exactly what is asked
    obtain rfl := List.mem_singleton.1 hp
    exact ⟨hab, ha, hb⟩

theorem WellFormed.addPair {s s' : Structure} {a b i : Nat} {t : String} (h : s.WellFormed)
    (hadd : s.addPair a b t = .ok (s', i)) : s'.WellFormed := by
  have hroot := PairsInRange.addPair ((wellFormed_iff s).1 h).1 hadd
  obtain ⟨-, -, -, rfl, -⟩ := addPair_eq_ok_iff.1 hadd
  exact h.of_root hroot rfl

theorem WellFormed.addNodeAt {s : Structure} (h : s.WellFormed) (n : Node) :
    (s.addNodeAt n).1.WellFormed :=
  h.of_nodes_grow rfl (by simp) rfl

/-- Finding or adding a node at a point only ever appends nodes. -/
theorem nodeAtOrAdd_fst (s : Structure) (p : Vec3) :
    ∃ ns, (s.nodeAtOrAdd p).1 = { s with nodes := s.nodes ++ ns } := by
  unfold nodeAtOrAdd
  split
  · exact ⟨[], by cases s; simp⟩
  · exact ⟨[.ofPosition p], rfl⟩

/-- **A connection appends nodes, then adds a pair** to the grown structure. -/
theorem connect_eq_ok {s s' : Structure} {a b : Vec3} {t : String} {k : Nat}
    (h : s.connect a b t = .ok (s', k)) :
    ∃ ns i j, ({ s with nodes := s.nodes ++ ns } : Structure).addPair i j t = .ok (s', k) := by
  unfold connect at h
  split at h
  · cases h
  · obtain ⟨ns₁, h₁⟩ := nodeAtOrAdd_fst s a
    obtain ⟨ns₂, h₂⟩ := nodeAtOrAdd_fst (s.nodeAtOrAdd a).1 b
    have hs₂ : ((s.nodeAtOrAdd a).1.nodeAtOrAdd b).1 = { s with nodes := s.nodes ++ (ns₁ ++ ns₂) } := by
      rw [h₂, h₁]
      simp
    refine ⟨ns₁ ++ ns₂, (s.nodeAtOrAdd a).2, ((s.nodeAtOrAdd a).1.nodeAtOrAdd b).2, ?_⟩
    rw [← hs₂]
    exact h

theorem WellFormed.connect {s s' : Structure} {a b : Vec3} {t : String} {k : Nat} (h : s.WellFormed)
    (hc : s.connect a b t = .ok (s', k)) : s'.WellFormed := by
  obtain ⟨ns, i, j, hadd⟩ := connect_eq_ok hc
  have hgrown : ({ s with nodes := s.nodes ++ ns } : Structure).WellFormed :=
    h.of_nodes_grow rfl (by simp) rfl
  exact hgrown.addPair hadd

theorem WellFormed.addChild {s c : Structure} (h : s.WellFormed) (hc : c.WellFormed) :
    (s.addChild c).1.WellFormed := by
  rw [wellFormed_iff] at h ⊢
  refine ⟨h.1, fun c' hc' => ?_⟩
  rcases List.mem_append.1 hc' with hc' | hc'
  · exact h.2 c' hc'
  · obtain rfl := List.mem_singleton.1 hc'
    exact hc

theorem WellFormed.addTags {s : Structure} (h : s.WellFormed) (t : String) : (s.addTags t).WellFormed :=
  h.of_nodes_grow rfl (Nat.le_refl _) rfl

/-- Editing a node in place keeps the node count, and so every pair in range. -/
theorem WellFormed.setNode {s : Structure} (h : s.WellFormed) (i : Nat) (n : Node) :
    ({ s with nodes := s.nodes.set i n } : Structure).WellFormed :=
  h.of_nodes_grow rfl (by simp) rfl

theorem WellFormed.setChild {s c : Structure} (h : s.WellFormed) (hc : c.WellFormed) (i : Nat) :
    ({ s with children := s.children.set i c } : Structure).WellFormed := by
  rw [wellFormed_iff] at h ⊢
  refine ⟨h.1, fun c' hc' => ?_⟩
  rcases List.mem_or_eq_of_mem_set hc' with hc' | rfl
  · exact h.2 c' hc'
  · exact hc

/-! ## Moves keep the tree -/

mutual

/-- Moving a structure moves every descendant and keeps every path. -/
theorem descendants_mapPositions (f : Vec3 → Vec3) : ∀ (s : Structure),
    (s.mapPositions f).descendants = s.descendants.map fun e => (e.1, e.2.mapPositions f)
  | ⟨t, ns, ps, cs⟩ => by
    rw [mapPositions, descendants, descendants, descendantsAmong_map f cs]

theorem descendantsAmong_map (f : Vec3 → Vec3) : ∀ (cs : List Structure),
    descendantsAmong (cs.map (mapPositions f)) = (descendantsAmong cs).map fun e => (e.1, e.2.mapPositions f)
  | [] => rfl
  | c :: cs => by
    simp only [List.map_cons, descendantsAmong, descendants_mapPositions f c, descendantsAmong_map f cs,
      List.map_append, List.map_map, Function.comp_def]

end

/-- **The subtree of a moved structure** is the moved subtree. -/
theorem subtree_mapPositions (f : Vec3 → Vec3) (s : Structure) :
    (s.mapPositions f).subtree = s.subtree.map (mapPositions f) := by
  simp [subtree, descendants_mapPositions, Function.comp_def]

/-- A child of a moved structure is a child moved. -/
theorem mem_children_mapPositions {f : Vec3 → Vec3} {s c : Structure} (hc : c ∈ (s.mapPositions f).children) :
    ∃ c₀ ∈ s.children, c = c₀.mapPositions f := by
  rw [mapPositions_children, List.mem_map] at hc
  obtain ⟨c₀, hc₀, rfl⟩ := hc
  exact ⟨c₀, hc₀, rfl⟩

theorem WellFormed.mapPositions {s : Structure} (h : s.WellFormed) (f : Vec3 → Vec3) :
    (s.mapPositions f).WellFormed := by
  intro t ht
  rw [subtree_mapPositions, List.mem_map] at ht
  obtain ⟨t, ht, rfl⟩ := ht
  exact (h t ht).mono (by simp) (by simp)

/-! ## Reachable structures -/

/-- **The structures the library can build**: from the empty structure, by any sequence of its
operations. A refused operation changes nothing, so only successful ones are steps. -/
inductive Reachable : Structure → Prop
  | empty : Reachable .empty
  | addNodeAt {s : Structure} (n : Node) : Reachable s → Reachable (s.addNodeAt n).1
  | addPair {s s' : Structure} {a b i : Nat} {t : String} :
      Reachable s → s.addPair a b t = .ok (s', i) → Reachable s'
  | connect {s s' : Structure} {a b : Vec3} {t : String} {i : Nat} :
      Reachable s → s.connect a b t = .ok (s', i) → Reachable s'
  | addChild {s c : Structure} : Reachable s → Reachable c → Reachable (s.addChild c).1
  | addTags {s : Structure} (t : String) : Reachable s → Reachable (s.addTags t)
  | translate {s : Structure} (o : Vec3) : Reachable s → Reachable (s.translate o)
  | rotate {s : Structure} (p : Vec3) (q : Quat) : Reachable s → Reachable (s.rotate p q)
  | scale {s : Structure} (p : Vec3) (k : Float32) : Reachable s → Reachable (s.scale p k)
  /-- A node edited in place, by any edit. -/
  | setNode {s : Structure} (i : Nat) (n : Node) : Reachable s → Reachable { s with nodes := s.nodes.set i n }
  /-- A child replaced by another reachable structure. -/
  | setChild {s c : Structure} (i : Nat) :
      Reachable s → Reachable c → Reachable { s with children := s.children.set i c }

/-- **Every reachable structure is well-formed.** -/
theorem Reachable.wellFormed {s : Structure} (h : Reachable s) : s.WellFormed := by
  induction h with
  | empty =>
    -- the empty structure has no pair and no child
    rw [wellFormed_iff]
    exact ⟨fun p hp => absurd hp (by simp [Structure.empty]), fun c hc => absurd hc (by simp [Structure.empty])⟩
  | addNodeAt n _ ih => exact ih.addNodeAt n
  | addPair _ hadd ih => exact ih.addPair hadd
  | connect _ hc ih => exact ih.connect hc
  | addChild _ _ ih ihc => exact ih.addChild ihc
  | addTags t _ ih => exact ih.addTags t
  | translate o _ ih => exact ih.mapPositions _
  | rotate p q _ ih => exact ih.mapPositions _
  | scale p k _ ih => exact ih.mapPositions _
  | setNode i n _ ih => exact ih.setNode i n
  | setChild i _ _ ih ihc => exact ih.setChild ihc i

/-- **Every child of a reachable structure is reachable**, so an edit made at any depth is a
replacement of a child by a reachable structure, level by level. -/
theorem Reachable.child {s c : Structure} (h : Reachable s) (hc : c ∈ s.children) : Reachable c := by
  induction h generalizing c with
  | empty => exact absurd hc (by simp [Structure.empty])
  | addNodeAt n _ ih => exact ih hc
  | addPair _ hadd ih =>
    obtain ⟨-, -, -, rfl, -⟩ := addPair_eq_ok_iff.1 hadd
    exact ih hc
  | connect _ hcon ih =>
    obtain ⟨ns, i, j, hadd⟩ := connect_eq_ok hcon
    obtain ⟨-, -, -, rfl, -⟩ := addPair_eq_ok_iff.1 hadd
    exact ih hc
  | addChild _ hnew ih _ =>
    rcases List.mem_append.1 hc with hc | hc
    · exact ih hc
    · obtain rfl := List.mem_singleton.1 hc
      exact hnew
  | addTags t _ ih => exact ih hc
  | translate o _ ih =>
    obtain ⟨c₀, hc₀, rfl⟩ := mem_children_mapPositions hc
    exact (ih hc₀).translate o
  | rotate p q _ ih =>
    obtain ⟨c₀, hc₀, rfl⟩ := mem_children_mapPositions hc
    exact (ih hc₀).rotate p q
  | scale p k _ ih =>
    obtain ⟨c₀, hc₀, rfl⟩ := mem_children_mapPositions hc
    exact (ih hc₀).scale p k
  | setNode i n _ ih => exact ih hc
  | setChild i _ hnew ih _ =>
    rcases List.mem_or_eq_of_mem_set hc with hc | rfl
    · exact ih hc
    · exact hnew

end Structure

end Tensegrity
