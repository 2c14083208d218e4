import Mathlib
import Tensegrity.Proofs.ChainJoints

/-!
# Connecting two points

`Structure.connect` joins two points rather than two nodes. Each point is looked up among the
nodes by IEEE equality: the lookup lands on the first node equal to the point, or, when none is,
on a new untagged node at the point added at the end (`Structure.LandsAt`). The point `a` is
looked up first, so a node added for it is already there when `b` is looked up.

The two lookups never land on one node unless the points are IEEE-equal, and those are exactly
what `connect` refuses before looking anything up. Two facts carry this: a node that both
lookups find is IEEE-equal to both points, so the points are equal to each other, by symmetry
and transitivity (`Vec3.same_trans`); and a node the second lookup adds comes after every node
the first could have landed on. A NaN point, equal to nothing, even itself, always gets a node
of its own. So the pair that `connect` adds always joins two distinct nodes, and the refusal of
`addPair` is never reached (`connect_joins_distinct_nodes`).
-/

namespace Tensegrity

namespace Structure

/-- **A lookup of the point `p` in `s` lands on node `i` and leaves `s'`**: on the first node
IEEE-equal to `p`, changing nothing, or, when no node is, on a new untagged node at `p`, added at
the end. -/
def LandsAt (s : Structure) (p : Vec3) (i : Nat) (s' : Structure) : Prop :=
  (i < s.nodes.length ∧ (s.positionOf i).same p = true ∧ (∀ x < i, (s.positionOf x).same p = false) ∧
      s' = s) ∨
    ((∀ x < s.nodes.length, (s.positionOf x).same p = false) ∧ i = s.nodes.length ∧
      s' = { s with nodes := s.nodes ++ [.ofPosition p] })

/-- **Finding or adding a node lands where `LandsAt` says.** -/
theorem landsAt_nodeAtOrAdd (s : Structure) (p : Vec3) : s.LandsAt p (s.nodeAtOrAdd p).2 (s.nodeAtOrAdd p).1 := by
  unfold nodeAtOrAdd nodeAt?
  split
  · next i hi =>
    obtain ⟨hlt, hsame, hfirst⟩ := List.findIdx?_eq_some_iff_getElem.1 hi
    refine .inl ⟨hlt, by simpa [positionOf, List.getElem?_eq_getElem hlt] using hsame, fun x hx => ?_, rfl⟩
    -- the search passed every earlier node over
    have hx' := hfirst x hx
    simpa [positionOf, List.getElem?_eq_getElem (Nat.lt_trans hx hlt)] using hx'
  · next hnone =>
    refine .inr ⟨fun x hx => ?_, rfl, rfl⟩
    have hx' := List.findIdx?_eq_none_iff.1 hnone s.nodes[x] (List.getElem_mem hx)
    simpa [positionOf, List.getElem?_eq_getElem hx] using hx'

/-- The node a lookup lands on is a node of what it leaves. -/
theorem LandsAt.lt_length {s s' : Structure} {p : Vec3} {i : Nat} (h : s.LandsAt p i s') :
    i < s'.nodes.length := by
  rcases h with ⟨hi, -, -, rfl⟩ | ⟨-, rfl, rfl⟩
  · exact hi
  · simp

/-- **A node the lookup lands on holds an IEEE-equal point, or the point itself when it was
added.** Either way, a point IEEE-equal to that node is IEEE-equal to `p` too. -/
theorem LandsAt.same_of_same {s s' : Structure} {p q : Vec3} {i : Nat} (h : s.LandsAt p i s')
    (hq : (s'.positionOf i).same q = true) : p.same q = true := by
  rcases h with ⟨-, hsame, -, rfl⟩ | ⟨-, rfl, rfl⟩
  · exact Vec3.same_trans (by rwa [Vec3.same_comm]) hq
  · rwa [positionOf_append_self] at hq

/-- **Two lookups in turn land on distinct nodes** unless the points are IEEE-equal: a node the
second finds is IEEE-equal to both points, and a node it adds is new. -/
theorem LandsAt.ne {s s₁ s₂ : Structure} {a b : Vec3} {i j : Nat} (ha : s.LandsAt a i s₁)
    (hb : s₁.LandsAt b j s₂) (hab : a.same b = false) : i ≠ j := by
  rcases hb with ⟨-, hsame, -, -⟩ | ⟨-, rfl, -⟩
  · rintro rfl
    have hab' := ha.same_of_same hsame
    rw [hab] at hab'
    exact Bool.false_ne_true hab'
  · exact Nat.ne_of_lt ha.lt_length

/-- A lookup keeps the pairs. -/
theorem LandsAt.pairs_eq {s s' : Structure} {p : Vec3} {i : Nat} (h : s.LandsAt p i s') : s'.pairs = s.pairs := by
  rcases h with ⟨-, -, -, rfl⟩ | ⟨-, -, rfl⟩ <;> rfl

/-- Two coincident points are refused, naming the tags and the point. -/
theorem connect_of_same {s : Structure} {a b : Vec3} (t : String) (hab : a.same b = true) :
    s.connect a b t = .error (.selfConnection t a) := by
  unfold connect
  rw [if_pos hab]

/-- **Two points that are not IEEE-equal are always joined**, by a new pair between the nodes
the two lookups land on. -/
theorem connect_of_not_same {s : Structure} {a b : Vec3} (t : String) (hab : a.same b = false) :
    s.connect a b t = .ok ({ ((s.nodeAtOrAdd a).1.nodeAtOrAdd b).1 with
      pairs := s.pairs ++ [⟨(s.nodeAtOrAdd a).2, ((s.nodeAtOrAdd a).1.nodeAtOrAdd b).2, Tags.parse t⟩] },
      s.pairs.length) := by
  have ha := landsAt_nodeAtOrAdd s a
  have hb := landsAt_nodeAtOrAdd (s.nodeAtOrAdd a).1 b
  -- the lookups change no pairs, so the new pair goes after the old ones
  have hpairs : ((s.nodeAtOrAdd a).1.nodeAtOrAdd b).1.pairs = s.pairs := by
    rw [hb.pairs_eq, ha.pairs_eq]
  have hi : (s.nodeAtOrAdd a).2 < ((s.nodeAtOrAdd a).1.nodeAtOrAdd b).1.nodes.length := by
    obtain ⟨ns, hns⟩ := nodeAtOrAdd_fst (s.nodeAtOrAdd a).1 b
    rw [hns, List.length_append]
    exact Nat.lt_add_right _ ha.lt_length
  unfold connect
  rw [if_neg (by rw [hab]; exact Bool.false_ne_true)]
  show ((s.nodeAtOrAdd a).1.nodeAtOrAdd b).1.addPair (s.nodeAtOrAdd a).2 ((s.nodeAtOrAdd a).1.nodeAtOrAdd b).2 t = _
  rw [addPair_of_valid t (ha.ne hb hab) hi hb.lt_length, hpairs]

/-- **Connecting two points.** Two IEEE-equal points are refused with `selfConnection`, and
nothing else is ever refused: the refusal of a pair by `addPair` is never reached. Two points
that are not IEEE-equal are joined: the first is looked up, then the second, each landing on the
first node IEEE-equal to it or on a new untagged node at it added at the end, so at most two
nodes are added and the old ones are kept; the two nodes are distinct, and the one new pair,
tagged with the words of `t`, goes after the old pairs, at the index the connection returns.
Nodes that stood at pairwise unequal points still do. -/
theorem connect_joins_distinct_nodes (s : Structure) (a b : Vec3) (t : String) :
    (∀ e, s.connect a b t = .error e ↔ a.same b = true ∧ e = .selfConnection t a) ∧
    (a.same b = false → ∃ i s₁ j s₂, s.LandsAt a i s₁ ∧ s₁.LandsAt b j s₂ ∧ i ≠ j ∧
      s.connect a b t = .ok ({ s₂ with pairs := s.pairs ++ [⟨i, j, Tags.parse t⟩] }, s.pairs.length)) ∧
    (s.Apart → ∀ s' k, s.connect a b t = .ok (s', k) → s'.Apart) := by
  refine ⟨fun e => ?_, fun hab => ?_, fun hs s' k hc => ?_⟩
  · cases hab : a.same b with
    | true =>
      rw [connect_of_same t hab]
      simp [eq_comm]
    | false =>
      rw [connect_of_not_same t hab]
      simp
  · have ha := landsAt_nodeAtOrAdd s a
    have hb := landsAt_nodeAtOrAdd (s.nodeAtOrAdd a).1 b
    exact ⟨_, _, _, _, ha, hb, ha.ne hb hab, connect_of_not_same t hab⟩
  · cases hab : a.same b with
    | true =>
      rw [connect_of_same t hab] at hc
      cases hc
    | false =>
      rw [connect_of_not_same t hab] at hc
      obtain ⟨rfl, -⟩ := Prod.mk.inj (Except.ok.inj hc)
      -- only the nodes matter to `Apart`, and each lookup keeps them apart
      exact (hs.nodeAtOrAdd a).nodeAtOrAdd b

end Structure

end Tensegrity
