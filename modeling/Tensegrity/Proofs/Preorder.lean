import Mathlib
import Tensegrity.Realize
import Tensegrity.Proofs.Subtree
import Tensegrity.Proofs.BestMatch

/-!
# Realization is a pre-order flattening

Realization walks the tree of structures with one accumulator: for each structure it appends
its spheres, then its pair components, then goes into each child in turn, opening the child's
group before the child's own groups and patching the group's ids afterwards. A pair that cannot
be built stops the walk at once, however deep it is.

This module states what that walk computes without the accumulator. Each structure
contributes its **own components** – the spheres of its nodes that have a node builder, then
one component for each pair – and its **own faults** – one for each pair that has no pair
builder or whose cable does not validate. Listing them over the subtree in pre-order gives the
flattening `Structure.flatten` and the faults `Structure.faults`, and realization
(`realize_eq`) gives the flattening when there is no fault and the first fault otherwise.

The groups are stated in the same terms: the group of the descendant at path `π` holds the
`componentCount` ids that start at `componentStart π`, where the count of a structure is the
length of its flattening. `Proofs/Grouping` draws the layout's consequences.
-/

namespace Tensegrity

/-- The value when no fault was found, else the first fault. -/
def Fault.firstOr {α : Type} : List Fault → α → Except Fault α
  | [], a => .ok a
  | f :: _, _ => .error f

theorem Fault.firstOr_eq_ok {α : Type} {fs : List Fault} {a b : α} :
    Fault.firstOr fs a = .ok b ↔ fs = [] ∧ a = b := by
  cases fs with
  | nil => simp [Fault.firstOr]
  | cons f fs => simp [Fault.firstOr]

theorem Fault.firstOr_eq_error {α : Type} {fs : List Fault} {a : α} {e : Fault} :
    Fault.firstOr fs a = .error e ↔ fs.head? = some e := by
  cases fs with
  | nil => simp [Fault.firstOr]
  | cons f fs => simp [Fault.firstOr]

theorem Fault.firstOr_bind_firstOr {α β : Type} (fs gs : List Fault) (a : α) (g : α → β) :
    (Fault.firstOr fs a >>= fun x => Fault.firstOr gs (g x)) = Fault.firstOr (fs ++ gs) (g a) := by
  cases fs <;> rfl

theorem Fault.firstOr_bind_of {α β : Type} {fs gs : List Fault} {a : α} {b : β}
    {f : α → Except Fault β} (h : f a = Fault.firstOr gs b) :
    (Fault.firstOr fs a >>= f) = Fault.firstOr (fs ++ gs) b := by
  cases fs with
  | nil => exact h
  | cons _ _ => rfl

/-- **A computation followed by another succeeds** only when the first succeeds and the second
succeeds on its result. -/
theorem exists_of_bind_eq_ok {ε α β : Type} {x : Except ε α} {f : α → Except ε β} {b : β}
    (h : (x >>= f) = .ok b) : ∃ a, x = .ok a ∧ f a = .ok b := by
  cases x with
  | error e => cases h
  | ok a => exact ⟨a, rfl, h⟩

theorem Fault.firstOr_cons_map {α : Type} (fs : List Fault) (a : α) (as : List α) :
    (Fault.firstOr fs as >>= fun xs => pure (a :: xs)) = Fault.firstOr fs (a :: as) := by
  cases fs <;> rfl

namespace BuildSpec

/-- **Why a pair cannot be built**: it has no pair builder, or its cable does not validate. -/
def pairFault (spec : BuildSpec) (p : Pair) : Option Fault :=
  match spec.bestPair p.tags with
  | some (_, .rod _) => none
  | some (_, .cable c) =>
    match c.validate with
    | .ok () => none
    | .error f => some f
  | _ => some (.unbound p.tags)

end BuildSpec

namespace Structure

variable (spec : BuildSpec)

/-- **What a pair becomes**: a rod or a cable between the positions of its two nodes, after
its best pair builder. -/
def pairBuilt (s : Structure) (p : Pair) : Option Component :=
  match spec.bestPair p.tags with
  | some (_, .rod c) => some (.rigid (.rod p.tags (s.positionOf p.source) (s.positionOf p.target) c))
  | some (_, .cable c) => some (.actuator (.new p.tags (s.positionOf p.source) (s.positionOf p.target) c))
  | _ => none

/-- The components a structure makes of its own nodes and pairs: spheres first, then pairs. -/
def ownComponents (s : Structure) : List Component :=
  Realization.nodeSpheres spec s ++ s.pairs.filterMap (s.pairBuilt spec)

/-- The faults of a structure's own pairs, in pair order. -/
def ownFaults (s : Structure) : List Fault := s.pairs.filterMap spec.pairFault

/-- **The flattening**: the own components of every structure of the subtree, in pre-order. -/
def flatten (s : Structure) : List Component := s.subtree.flatMap (·.ownComponents spec)

/-- **The faults** of every pair of the subtree, in pre-order. -/
def faults (s : Structure) : List Fault := s.subtree.flatMap (·.ownFaults spec)

/-- The number of components realized from a subtree. -/
def componentCount (s : Structure) : Nat := (s.flatten spec).length

/-- **Where the components of a descendant start** in the flattening: after the structure's own
components, the subtrees of the earlier children, and what comes before it in its parent. -/
def componentStart : Structure → List Nat → Nat
  | _, [] => 0
  | s, i :: π => (s.ownComponents spec).length + ((s.children.take i).map (·.componentCount spec)).sum +
      ((s.children[i]?).map (·.componentStart π)).getD 0

/-- Where the components of a descendant start, counted from the first of a list of siblings. -/
def componentStartAmong (cs : List Structure) : List Nat → Nat
  | [] => 0
  | i :: π => ((cs.take i).map (·.componentCount spec)).sum + ((cs[i]?).map (·.componentStart spec π)).getD 0

/-- **The group of a descendant** whose components start at `start`. -/
def groupOf (start : Nat) (d : Structure) : Group := ⟨d.tags, List.range' start (d.componentCount spec)⟩

/-! ## The flattening and the faults, one level at a time -/

theorem flatten_eq (s : Structure) :
    s.flatten spec = s.ownComponents spec ++ s.children.flatMap (·.flatten spec) := by
  rw [flatten, subtree_eq, List.flatMap_cons, List.flatMap_assoc]
  rfl

theorem faults_eq (s : Structure) : s.faults spec = s.ownFaults spec ++ s.children.flatMap (·.faults spec) := by
  rw [faults, subtree_eq, List.flatMap_cons, List.flatMap_assoc]
  rfl

theorem componentStart_eq_own_add {s : Structure} {π : List Nat} (h : π ≠ []) :
    s.componentStart spec π = (s.ownComponents spec).length + componentStartAmong spec s.children π := by
  obtain ⟨i, π, rfl⟩ := List.exists_cons_of_ne_nil h
  simp only [componentStart, componentStartAmong, Nat.add_assoc]

theorem componentStartAmong_cons_succ (c : Structure) (cs : List Structure) {π : List Nat} (h : π ≠ []) :
    componentStartAmong spec (c :: cs) (π.modifyHead (· + 1)) =
      c.componentCount spec + componentStartAmong spec cs π := by
  obtain ⟨i, π, rfl⟩ := List.exists_cons_of_ne_nil h
  simp only [List.modifyHead_cons, componentStartAmong, List.take_succ_cons, List.map_cons, List.sum_cons,
    List.getElem?_cons_succ, Nat.add_assoc]

/-- The groups of a list of siblings: the first sibling's group, its descendants' groups, then
those of the later siblings, moved past the first sibling's components. -/
theorem groups_cons (start : Nat) (c : Structure) (cs : List Structure) :
    (descendantsAmong (c :: cs)).map (fun e => groupOf spec (start + componentStartAmong spec (c :: cs) e.1) e.2) =
      groupOf spec start c :: (c.descendants.map fun e => groupOf spec (start + c.componentStart spec e.1) e.2) ++
        (descendantsAmong cs).map fun e =>
          groupOf spec (start + c.componentCount spec + componentStartAmong spec cs e.1) e.2 := by
  rw [descendantsAmong, List.map_append, List.map_cons, List.map_map, List.map_map]
  congr 1
  · simp [componentStartAmong, componentStart, Function.comp_def]
  · refine List.map_congr_left fun e he => ?_
    simp only [Function.comp_apply, componentStartAmong_cons_succ spec c cs (ne_nil_of_mem_descendantsAmong he),
      Nat.add_assoc]

end Structure

/-! ## One pair -/

namespace Realization

variable (spec : BuildSpec)

/-- **A pair is built or refused**, and which is read off its fault. -/
theorem pairComponent_cases (s : Structure) (p : Pair) :
    (spec.pairFault p = none ∧ ∃ c, s.pairBuilt spec p = some c ∧ pairComponent spec s p = .ok c) ∨
    (∃ f, spec.pairFault p = some f ∧ pairComponent spec s p = .error f) := by
  simp only [pairComponent, Structure.pairEnds, BuildSpec.pairFault, Structure.pairBuilt]
  rcases spec.bestPair p.tags with _ | ⟨k, b⟩
  · exact .inr ⟨_, rfl, rfl⟩
  · cases b with
    | rod c => exact .inl ⟨rfl, _, rfl, rfl⟩
    | cable c =>
      dsimp only
      cases h : c.validate with
      | ok u => exact .inl ⟨rfl, _, rfl, rfl⟩
      | error f => exact .inr ⟨f, rfl, rfl⟩
    | sphere c => exact .inr ⟨_, rfl, rfl⟩

/-- The pairs of one structure are built in order, up to the first that is refused. -/
theorem mapM_pairComponent (s : Structure) (ps : List Pair) :
    ps.mapM (pairComponent spec s) = Fault.firstOr (ps.filterMap spec.pairFault) (ps.filterMap (s.pairBuilt spec)) := by
  induction ps with
  | nil => rfl
  | cons p ps ih =>
    rw [List.mapM_cons, ih]
    rcases pairComponent_cases spec s p with ⟨hf, c, hc, hp⟩ | ⟨f, hf, hp⟩
    · rw [hp, List.filterMap_cons_none hf, List.filterMap_cons_some hc]
      exact Fault.firstOr_cons_map _ _ _
    · rw [hp, List.filterMap_cons_some hf]
      rfl

/-! ## The walk -/

open Structure in
mutual

/-- **Realizing after an accumulator** appends the flattening and the groups of the subtree's
proper descendants, or stops at the first fault. -/
theorem extend_eq : ∀ (s : Structure) (acc : Realization),
    extend spec s acc = Fault.firstOr (s.faults spec)
      { components := acc.components ++ s.flatten spec,
        groups := acc.groups ++ s.descendants.map fun e =>
          groupOf spec (acc.components.length + s.componentStart spec e.1) e.2 }
  | ⟨t, ns, ps, cs⟩, acc => by
    rw [extend.eq_1, mapM_pairComponent]
    simp only [extendChildren_eq cs]
    rw [Fault.firstOr_bind_firstOr, faults_eq, flatten_eq, descendants_eq]
    congr 2
    · simp [ownComponents]
    · -- a child's group starts after the structure's own components
      refine congrArg (acc.groups ++ ·) (List.map_congr_left fun e he => ?_)
      rw [componentStart_eq_own_add spec (ne_nil_of_mem_descendantsAmong he)]
      simp [ownComponents, Nat.add_assoc]

/-- Realizing a list of siblings after an accumulator. -/
theorem extendChildren_eq : ∀ (cs : List Structure) (acc : Realization),
    extendChildren spec cs acc = Fault.firstOr (cs.flatMap (·.faults spec))
      { components := acc.components ++ cs.flatMap (·.flatten spec),
        groups := acc.groups ++ (descendantsAmong cs).map fun e =>
          groupOf spec (acc.components.length + componentStartAmong spec cs e.1) e.2 }
  | [], acc => by simp [extendChildren, Fault.firstOr, descendantsAmong]
  | c :: cs, acc => by
    rw [extendChildren.eq_2, extend_eq c, List.flatMap_cons]
    refine Fault.firstOr_bind_of ?_
    dsimp only
    -- the slot pushed for `c` is patched in place, after the groups `c` pushed itself
    rw [extendChildren_eq cs, groups_cons]
    congr 2
    · simp
    · simp [List.set_append_right, groupOf, componentCount, Nat.add_assoc]

end

end Realization

namespace Structure

/-- **Realization, without an accumulator**: the flattening and one group for each proper
descendant, or the first fault in pre-order. -/
theorem realize_eq (s : Structure) (spec : BuildSpec) :
    s.realize spec = Fault.firstOr (s.faults spec)
      ⟨s.flatten spec, s.descendants.map fun e => groupOf spec (s.componentStart spec e.1) e.2⟩ := by
  rw [realize, Realization.extend_eq]
  simp

/-! ## When a pair is refused -/

/-- **A pair is refused** for having no pair builder – no key of a rod or a cable is contained
in its tags, whatever sphere keys are – or for its cable failing to validate, with the cable's
own fault. -/
theorem pairFault_eq_some_iff (spec : BuildSpec) (p : Pair) (f : Fault) :
    spec.pairFault p = some f ↔
      ((∀ e ∈ spec.entries, ¬BuildSpec.Applies p.tags true e) ∧ f = .unbound p.tags) ∨
      ∃ k c, spec.bestPair p.tags = some (k, .cable c) ∧ c.validate = .error f := by
  rw [← BuildSpec.bestMatch_eq_none_iff, ← BuildSpec.bestPair]
  unfold BuildSpec.pairFault
  rcases h : spec.bestPair p.tags with _ | ⟨k, b⟩
  · simp [eq_comm]
  · cases b with
    | rod c => simp
    | cable c =>
      cases hv : c.validate with
      | ok u => simp [hv]
      | error g =>
        simp only [hv, Option.some.injEq, Option.some_ne_none, false_and, Prod.mk.injEq,
          Builder.cable.injEq, false_or]
        constructor
        · rintro rfl
          exact ⟨k, c, ⟨rfl, rfl⟩, hv⟩
        · rintro ⟨_, _, ⟨-, rfl⟩, hf⟩
          rw [hv] at hf
          cases hf
          rfl
    | sphere c =>
      -- a sphere builder is never the best pair builder
      have hk := spec.bestPair_forPairs h
      simp [Builder.forPairs] at hk

/-- A pair is built exactly when it has a pair builder and a cable it becomes validates. -/
theorem pairFault_eq_none_iff (spec : BuildSpec) (p : Pair) :
    spec.pairFault p = none ↔ (spec.bestPair p.tags).isSome ∧
      ∀ k c, spec.bestPair p.tags = some (k, .cable c) → c.validate = .ok () := by
  unfold BuildSpec.pairFault
  rcases h : spec.bestPair p.tags with _ | ⟨k, b⟩
  · simp
  · cases b with
    | rod c => simp
    | cable c =>
      cases hv : c.validate with
      | ok u => simp [hv]
      | error g => simp [hv]
    | sphere c =>
      have hk := spec.bestPair_forPairs h
      simp [Builder.forPairs] at hk

/-- A tree has no fault exactly when every pair of every structure in it is built. -/
theorem faults_eq_nil_iff (spec : BuildSpec) (s : Structure) :
    s.faults spec = [] ↔ ∀ t ∈ s.subtree, ∀ p ∈ t.pairs, spec.pairFault p = none := by
  simp [faults, ownFaults, List.flatMap_eq_nil_iff, List.filterMap_eq_nil_iff]

/-- **Realization is the pre-order flattening.** Realizing a structure gives the own
components of every structure of its tree, a structure's spheres and pair components before
those of its children and children in order, exactly when every pair of the tree has a pair
builder and every cable chosen validates. Otherwise it fails with the fault of the first pair,
in the same order, that is refused: `unbound` with the pair's tags when no rod or cable key is
contained in them, or the cable's own fault. -/
theorem realize_components_eq_flatten (s : Structure) (spec : BuildSpec) :
    (s.realize spec).map Realization.components =
      (match s.faults spec with
        | [] => .ok (s.flatten spec)
        | f :: _ => .error f) ∧
    s.flatten spec = s.ownComponents spec ++ s.children.flatMap (·.flatten spec) ∧
    (s.faults spec = [] ↔ ∀ t ∈ s.subtree, ∀ p ∈ t.pairs, (spec.bestPair p.tags).isSome ∧
      ∀ k c, spec.bestPair p.tags = some (k, .cable c) → c.validate = .ok ()) ∧
    ∀ p f, spec.pairFault p = some f ↔
      ((∀ e ∈ spec.entries, ¬BuildSpec.Applies p.tags true e) ∧ f = .unbound p.tags) ∨
      ∃ k c, spec.bestPair p.tags = some (k, .cable c) ∧ c.validate = .error f := by
  refine ⟨?_, flatten_eq spec s, ?_, pairFault_eq_some_iff spec⟩
  · rw [realize_eq]
    cases s.faults spec <;> rfl
  · rw [faults_eq_nil_iff]
    simp only [pairFault_eq_none_iff]

end Structure

end Tensegrity
