import Tensegrity.Structure.Basic

/-!
# The subtree of a structure

A structure holds its children by value, so a structure deep inside another is named by the
path of child indices that leads to it (`Structure.descendant?`). This module lists them all:
`descendants` gives every proper descendant with its path, in **pre-order** – a child before
its own descendants, children in order – and `subtree` puts the structure itself in front.

Everything the library does to a whole tree walks it in this order: realization builds the
components of a structure before those of its children, and a group is opened for a child
before the groups of the child's own children. The two facts proved here are what make the
listing a faithful one: a pair `(π, d)` is listed exactly when `π` is a non-empty path that
leads to `d` (`mem_descendants`), and no path is listed twice (`pairwise_descendants_paths`).
-/

namespace Tensegrity

namespace Structure

mutual

/-- **The proper descendants** of a structure, each with its path, in pre-order. -/
def descendants : Structure → List (List Nat × Structure)
  | ⟨_, _, _, cs⟩ => descendantsAmong cs

/-- The descendants of a list of siblings, the siblings included, with paths that start with
the sibling's position in the list. -/
def descendantsAmong : List Structure → List (List Nat × Structure)
  | [] => []
  | c :: cs =>
    ([0], c) :: (descendants c).map (fun e => (0 :: e.1, e.2)) ++
      (descendantsAmong cs).map (fun e => (e.1.modifyHead (· + 1), e.2))

end

/-- **The subtree** of a structure: itself, then its proper descendants in pre-order. -/
def subtree (s : Structure) : List Structure := s :: s.descendants.map (·.2)

theorem descendants_eq (s : Structure) : s.descendants = descendantsAmong s.children := by
  cases s; rw [descendants]

theorem descendantsAmong_snd (cs : List Structure) :
    (descendantsAmong cs).map (·.2) = cs.flatMap subtree := by
  induction cs with
  | nil => rfl
  | cons c cs ih =>
    rw [descendantsAmong, List.flatMap_cons, ← ih]
    simp [subtree, List.map_append, List.map_map, Function.comp_def]

/-- **A subtree is the structure followed by the subtrees of its children.** -/
theorem subtree_eq (s : Structure) : s.subtree = s :: s.children.flatMap subtree := by
  rw [subtree, descendants_eq, descendantsAmong_snd]

theorem mem_subtree_self (s : Structure) : s ∈ s.subtree := by
  rw [subtree]; exact List.mem_cons_self

/-- Every listed path is non-empty. -/
theorem ne_nil_of_mem_descendantsAmong {cs : List Structure} {e : List Nat × Structure}
    (h : e ∈ descendantsAmong cs) : e.1 ≠ [] := by
  induction cs generalizing e with
  | nil => cases h
  | cons c cs ih =>
    simp only [descendantsAmong, List.mem_cons, List.mem_append, List.mem_map] at h
    rcases h with (rfl | ⟨e', _, rfl⟩) | ⟨e', he', rfl⟩
    · simp
    · simp
    · obtain ⟨i, π, hπ⟩ := List.exists_cons_of_ne_nil (ih he')
      simp [hπ]

/-! ## Paths -/

/-- One step down a path: the descendant of the child at its first index. -/
theorem descendant?_cons (s : Structure) (i : Nat) (π : List Nat) :
    s.descendant? (i :: π) = s.children[i]?.bind (·.descendant? π) := by
  cases h : s.children[i]? <;> simp [descendant?, h]

/-- A path that starts at child `i` leads through that child. -/
theorem descendant?_cons_eq_some {s d : Structure} {i : Nat} {π : List Nat} :
    s.descendant? (i :: π) = some d ↔ ∃ c, s.children[i]? = some c ∧ c.descendant? π = some d := by
  rw [descendant?_cons, Option.bind_eq_some_iff]

mutual

/-- **The listing is faithful**: `(π, d)` is listed exactly when `π` is a non-empty path that
leads to `d`. -/
theorem mem_descendants : ∀ (s : Structure) {π : List Nat} {d : Structure},
    (π, d) ∈ s.descendants ↔ π ≠ [] ∧ s.descendant? π = some d
  | ⟨t, ns, ps, cs⟩, π, d => by
    rw [descendants, mem_descendantsAmong cs]
    constructor
    · rintro ⟨i, π', rfl, c, hc, hd⟩
      exact ⟨List.cons_ne_nil _ _, descendant?_cons_eq_some.2 ⟨c, hc, hd⟩⟩
    · rintro ⟨hne, h⟩
      obtain ⟨i, π', rfl⟩ := List.exists_cons_of_ne_nil hne
      obtain ⟨c, hc, hd⟩ := descendant?_cons_eq_some.1 h
      exact ⟨i, π', rfl, c, hc, hd⟩

/-- The listing of siblings: a path starts at the position of a sibling and continues inside
it. -/
theorem mem_descendantsAmong : ∀ (cs : List Structure) {π : List Nat} {d : Structure},
    (π, d) ∈ descendantsAmong cs ↔
      ∃ i π', π = i :: π' ∧ ∃ c, cs[i]? = some c ∧ c.descendant? π' = some d
  | [], π, d => by simp [descendantsAmong]
  | c :: cs, π, d => by
    simp only [descendantsAmong, List.mem_cons, List.mem_append, List.mem_map, Prod.mk.injEq]
    constructor
    · rintro ((⟨rfl, rfl⟩ | ⟨⟨π', d'⟩, he, rfl, rfl⟩) | ⟨⟨π', d'⟩, he, rfl, rfl⟩)
      · exact ⟨0, [], rfl, _, rfl, rfl⟩
      · exact ⟨0, π', rfl, c, rfl, ((mem_descendants c).1 he).2⟩
      · obtain ⟨j, π'', rfl, c', hc', hd⟩ := (mem_descendantsAmong cs).1 he
        exact ⟨j + 1, π'', rfl, c', hc', hd⟩
    · rintro ⟨i, π', rfl, c', hc', hd⟩
      cases i with
      | zero =>
        have hc : c' = c := by simpa using hc'.symm
        subst c'
        cases π' with
        | nil => exact .inl (.inl ⟨rfl, by simpa [descendant?] using hd.symm⟩)
        | cons j π'' =>
          exact .inl (.inr ⟨(j :: π'', d), (mem_descendants c).2 ⟨List.cons_ne_nil _ _, hd⟩, rfl, rfl⟩)
      | succ j =>
        refine .inr ⟨(j :: π', d), (mem_descendantsAmong cs).2 ⟨j, π', rfl, c', ?_, hd⟩, rfl, rfl⟩
        simpa using hc'

end

/-- Moving the first index of non-empty paths up by one keeps them apart. -/
theorem modifyHead_succ_injOn {π ρ : List Nat} (hπ : π ≠ []) (hρ : ρ ≠ [])
    (h : π.modifyHead (· + 1) = ρ.modifyHead (· + 1)) : π = ρ := by
  obtain ⟨i, π, rfl⟩ := List.exists_cons_of_ne_nil hπ
  obtain ⟨j, ρ, rfl⟩ := List.exists_cons_of_ne_nil hρ
  simp only [List.modifyHead_cons, List.cons.injEq, Nat.add_right_cancel_iff] at h
  rw [h.1, h.2]

mutual

/-- **No path is listed twice.** -/
theorem pairwise_descendants_paths : ∀ (s : Structure), s.descendants.Pairwise (fun a b => a.1 ≠ b.1)
  | ⟨_, _, _, cs⟩ => by
    rw [descendants]
    exact pairwise_descendantsAmong_paths cs

theorem pairwise_descendantsAmong_paths :
    ∀ (cs : List Structure), (descendantsAmong cs).Pairwise (fun a b => a.1 ≠ b.1)
  | [] => List.Pairwise.nil
  | c :: cs => by
    have hc := pairwise_descendants_paths c
    have hcs := pairwise_descendantsAmong_paths cs
    rw [descendantsAmong, List.pairwise_append, List.pairwise_cons, List.pairwise_map, List.pairwise_map]
    refine ⟨⟨?_, hc.imp fun h h' => h (List.cons.inj h').2⟩, ?_, ?_⟩
    · -- `[0]` names the first sibling, and the paths into it are longer
      intro e he h
      obtain ⟨e', he', rfl⟩ := List.mem_map.1 he
      rw [descendants_eq] at he'
      exact ne_nil_of_mem_descendantsAmong he' (List.cons.inj h.symm).2
    · refine hcs.imp_of_mem fun ha hb h h' => h ?_
      exact modifyHead_succ_injOn (ne_nil_of_mem_descendantsAmong ha)
        (ne_nil_of_mem_descendantsAmong hb) h'
    · -- paths into the first sibling start at `0`, the others further on
      intro a ha b hb h
      obtain ⟨e, he, rfl⟩ := List.mem_map.1 hb
      obtain ⟨j, ρ, hρ⟩ := List.exists_cons_of_ne_nil (ne_nil_of_mem_descendantsAmong he)
      have h0 : a.1.head? = some 0 := by
        rcases List.mem_cons.1 ha with rfl | ha
        · rfl
        · obtain ⟨e', _, rfl⟩ := List.mem_map.1 ha
          rfl
      rw [h, hρ] at h0
      simp at h0

end

end Structure

end Tensegrity
