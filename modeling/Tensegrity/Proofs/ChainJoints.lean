import Mathlib
import Tensegrity.Proofs.Chains
import Tensegrity.Proofs.IeeeEquality

/-!
# The joints of a chain

A chain's own nodes are the points its pairs join, the *joints*: `Structure.connect` looks each
point up among them by IEEE equality and adds a new node only when none is equal. So the joints
are spread out (`Chain.Joints`): every joint is an end of some pair, no two of them stand at
IEEE-equal points, and a joint at a point with a NaN lane – which equals nothing, so is never
found again – is the end of exactly one pair. One connection keeps this, hence a junction and a
whole chain do.

Joining therefore gives each pair of a chain the ends the junction asks for (`Chain.EndsAt`): at
a point with no NaN lane, a joint IEEE-equal to it; at a point with one, a joint holding the
point exactly and serving no other pair. `replicate_layout` puts this together with the layout of
`Chain.Joined`: the segments are the children, and pair `(i - 1) * m + k` joins connector `k`
from segment `i` to segment `i + 1`.
-/

namespace Tensegrity

namespace Structure

/-- **The ends of the pairs** of a structure, in pair order, the first end of each pair first. -/
def ends (s : Structure) : List Nat := s.pairs.flatMap fun p => [p.source, p.target]

/-- **No two nodes stand at IEEE-equal points.** -/
def Apart (s : Structure) : Prop :=
  ∀ x < s.nodes.length, ∀ y < s.nodes.length, x ≠ y → (s.positionOf x).same (s.positionOf y) = false

theorem positionOf_append_self (s : Structure) (nd : Node) :
    ({ s with nodes := s.nodes ++ [nd] } : Structure).positionOf s.nodes.length = nd.position := by
  simp [positionOf]

/-- **Finding or adding a node**: either a node IEEE-equal to the point is found and nothing
changes, or no node is, and an untagged node at the point is added at the end. -/
theorem nodeAtOrAdd_cases (s : Structure) (p : Vec3) :
    (∃ i, s.nodeAtOrAdd p = (s, i) ∧ i < s.nodes.length ∧ (s.positionOf i).same p = true) ∨
    (s.nodeAtOrAdd p = ({ s with nodes := s.nodes ++ [.ofPosition p] }, s.nodes.length) ∧
      ∀ x < s.nodes.length, (s.positionOf x).same p = false) := by
  unfold nodeAtOrAdd nodeAt?
  split
  · next i hi =>
    obtain ⟨hlt, hsame, -⟩ := List.findIdx?_eq_some_iff_getElem.1 hi
    exact .inl ⟨i, rfl, hlt, by simpa [positionOf, List.getElem?_eq_getElem hlt] using hsame⟩
  · next hnone =>
    refine .inr ⟨rfl, fun x hx => ?_⟩
    have hx' := List.findIdx?_eq_none_iff.1 hnone s.nodes[x] (List.getElem_mem hx)
    simpa [positionOf, List.getElem?_eq_getElem hx] using hx'

/-- A node found for a point, and not added, is IEEE-equal to it. -/
theorem same_of_nodeAtOrAdd_lt {s : Structure} {p : Vec3} (h : (s.nodeAtOrAdd p).2 < s.nodes.length) :
    (s.positionOf (s.nodeAtOrAdd p).2).same p = true := by
  rcases nodeAtOrAdd_cases s p with ⟨i, hr, -, hsame⟩ | ⟨hr, -⟩
  · rwa [hr]
  · rw [hr] at h
    exact absurd h (Nat.lt_irrefl _)

/-- The only node a lookup may add is the one it returns. -/
theorem eq_of_nodeAtOrAdd_new {s : Structure} {p : Vec3} {x : Nat} (hx : s.nodes.length ≤ x)
    (hx' : x < (s.nodeAtOrAdd p).1.nodes.length) : x = (s.nodeAtOrAdd p).2 := by
  rcases nodeAtOrAdd_cases s p with ⟨i, hr, -, -⟩ | ⟨hr, -⟩
  · rw [hr] at hx'
    exact absurd hx' (Nat.not_lt.2 hx)
  · rw [hr] at hx' ⊢
    simp at hx'
    omega

/-- **A lookup keeps the nodes apart**: a node is added only where no node is IEEE-equal. -/
theorem Apart.nodeAtOrAdd {s : Structure} (h : s.Apart) (p : Vec3) : (s.nodeAtOrAdd p).1.Apart := by
  rcases nodeAtOrAdd_cases s p with ⟨i, hr, -, -⟩ | ⟨hr, hnone⟩
  · rw [hr]
    exact h
  · rw [hr]
    have hold : ∀ z < s.nodes.length,
        ({ s with nodes := s.nodes ++ [.ofPosition p] } : Structure).positionOf z = s.positionOf z :=
      fun z hz => Chain.positionOf_of_nodes_eq_append rfl hz
    have hnew := positionOf_append_self s (.ofPosition p)
    intro x hx y hy hxy
    simp only [List.length_append, List.length_singleton] at hx hy
    -- the new node is the last: compare old with old, old with new, or new with old
    rcases Nat.lt_or_ge x s.nodes.length with hxl | hxl <;> rcases Nat.lt_or_ge y s.nodes.length with hyl | hyl
    · rw [hold x hxl, hold y hyl]
      exact h x hxl y hyl hxy
    · rw [hold x hxl, show y = s.nodes.length by omega, hnew]
      exact hnone x hxl
    · rw [show x = s.nodes.length by omega, hnew, hold y hyl, Vec3.same_comm]
      exact hnone y hyl
    · omega

/-- A node that two lookups in turn add is one of the two they return. -/
theorem eq_of_nodeAtOrAdd_nodeAtOrAdd_new {s : Structure} {a b : Vec3} {x : Nat} (hx : s.nodes.length ≤ x)
    (hx' : x < ((s.nodeAtOrAdd a).1.nodeAtOrAdd b).1.nodes.length) :
    x = (s.nodeAtOrAdd a).2 ∨ x = ((s.nodeAtOrAdd a).1.nodeAtOrAdd b).2 := by
  rcases Nat.lt_or_ge x (s.nodeAtOrAdd a).1.nodes.length with hx₁ | hx₁
  · exact .inl (eq_of_nodeAtOrAdd_new hx hx₁)
  · exact .inr (eq_of_nodeAtOrAdd_new hx₁ hx')

/-- An old node that either of two lookups in turn returns was found IEEE-equal to its point, so
it has no NaN lane. -/
theorem hasNaN_of_nodeAtOrAdd_nodeAtOrAdd_old {s : Structure} {a b : Vec3} {x : Nat}
    (hx : x = (s.nodeAtOrAdd a).2 ∨ x = ((s.nodeAtOrAdd a).1.nodeAtOrAdd b).2) (hlt : x < s.nodes.length) :
    (s.positionOf x).hasNaN = false := by
  rcases hx with rfl | rfl
  · exact Vec3.hasNaN_of_same (same_of_nodeAtOrAdd_lt hlt)
  · obtain ⟨ns₁, h₁⟩ := nodeAtOrAdd_fst s a
    have hlen₁ : (s.nodeAtOrAdd a).1.nodes.length = s.nodes.length + ns₁.length := by simp [h₁]
    have hx₁ : ((s.nodeAtOrAdd a).1.nodeAtOrAdd b).2 < (s.nodeAtOrAdd a).1.nodes.length := by
      rw [hlen₁]
      omega
    have hsame := same_of_nodeAtOrAdd_lt hx₁
    rw [Chain.positionOf_of_nodes_eq_append (by rw [h₁]) hlt] at hsame
    exact Vec3.hasNaN_of_same hsame

end Structure

namespace Chain

open Structure

/-- **The joints of a chain**, its root's nodes: each is an end of some pair, no two stand at
IEEE-equal points, and one at a point with a NaN lane is the end of exactly one pair. -/
structure Joints (s : Structure) : Prop where
  /-- Every end is a node. -/
  ends_lt : ∀ x ∈ s.ends, x < s.nodes.length
  /-- Every node is an end. -/
  mem_ends : ∀ x < s.nodes.length, x ∈ s.ends
  /-- No two nodes are IEEE-equal. -/
  apart : s.Apart
  /-- A node at a point with a NaN lane serves one end. -/
  count_ends : ∀ x < s.nodes.length, (s.positionOf x).hasNaN = true → s.ends.count x = 1

/-- An empty root has no joints to spread. -/
theorem joints_of_nodes_eq_nil {s : Structure} (hn : s.nodes = []) (hp : s.pairs = []) : Joints s where
  ends_lt x hx := by simp [ends, hp] at hx
  mem_ends x hx := by simp [hn] at hx
  apart x hx := by simp [hn] at hx
  count_ends x hx := by simp [hn] at hx

/-- **A new pair between grown nodes keeps the joints spread**, when each new node is one of its
ends, the nodes stay apart, and an old node it joins has no NaN lane. -/
theorem Joints.addPair {s : Structure} {ns : List Node} {i j : Nat} {tg : Tags} (h : Joints s)
    (happart : ({ s with nodes := s.nodes ++ ns } : Structure).Apart) (hij : i ≠ j)
    (hi : i < s.nodes.length + ns.length) (hj : j < s.nodes.length + ns.length)
    (hnew : ∀ x, s.nodes.length ≤ x → x < s.nodes.length + ns.length → x = i ∨ x = j)
    (hold : ∀ x, x = i ∨ x = j → x < s.nodes.length → (s.positionOf x).hasNaN = false) :
    Joints { s with nodes := s.nodes ++ ns, pairs := s.pairs ++ [⟨i, j, tg⟩] } := by
  have hends : ({ s with nodes := s.nodes ++ ns, pairs := s.pairs ++ [⟨i, j, tg⟩] } : Structure).ends =
      s.ends ++ [i, j] := by
    simp [ends]
  have hpos : ∀ x < s.nodes.length,
      ({ s with nodes := s.nodes ++ ns, pairs := s.pairs ++ [⟨i, j, tg⟩] } : Structure).positionOf x =
        s.positionOf x :=
    fun x hx => positionOf_of_nodes_eq_append rfl hx
  refine ⟨fun x hx => ?_, fun x hx => ?_, happart, fun x hx hnan => ?_⟩
  · rw [hends] at hx
    simp only [List.length_append]
    rcases List.mem_append.1 hx with hx | hx
    · exact Nat.lt_of_lt_of_le (h.ends_lt x hx) (Nat.le_add_right _ _)
    · simp only [List.mem_cons, List.not_mem_nil, or_false] at hx
      rcases hx with rfl | rfl <;> assumption
  · rw [hends]
    simp only [List.length_append] at hx
    rcases Nat.lt_or_ge x s.nodes.length with hxl | hxl
    · exact List.mem_append_left _ (h.mem_ends x hxl)
    · rcases hnew x hxl hx with rfl | rfl <;> simp
  · rw [hends, List.count_append]
    simp only [List.length_append] at hx
    rcases Nat.lt_or_ge x s.nodes.length with hxl | hxl
    · -- an old node with a NaN lane was never found again, so it is no end of the new pair
      rw [hpos x hxl] at hnan
      have hxi : x ≠ i := fun hx => by simp [hold x (.inl hx) hxl] at hnan
      have hxj : x ≠ j := fun hx => by simp [hold x (.inr hx) hxl] at hnan
      simp [h.count_ends x hxl hnan, Ne.symm hxi, Ne.symm hxj]
    · -- a new node is an end of the new pair only
      have hcount : s.ends.count x = 0 :=
        List.count_eq_zero.2 fun hx' => absurd (h.ends_lt x hx') (Nat.not_lt.2 hxl)
      rcases hnew x hxl hx with rfl | rfl
      · simp [hcount, Ne.symm hij]
      · simp [hcount, hij]

/-- **One connection keeps the joints spread.** -/
theorem Joints.connect {s s' : Structure} {a b : Vec3} {t : String} {k : Nat} (h : Joints s)
    (hc : s.connect a b t = .ok (s', k)) : Joints s' := by
  unfold Structure.connect at hc
  split at hc
  · cases hc
  · have hadd : ((s.nodeAtOrAdd a).1.nodeAtOrAdd b).1.addPair (s.nodeAtOrAdd a).2
        ((s.nodeAtOrAdd a).1.nodeAtOrAdd b).2 t = .ok (s', k) := hc
    obtain ⟨hij, hi, hj, rfl, -⟩ := addPair_eq_ok_iff.1 hadd
    obtain ⟨ns₁, h₁⟩ := nodeAtOrAdd_fst s a
    obtain ⟨ns₂, h₂⟩ := nodeAtOrAdd_fst (s.nodeAtOrAdd a).1 b
    have hs₂ : ((s.nodeAtOrAdd a).1.nodeAtOrAdd b).1 = { s with nodes := s.nodes ++ (ns₁ ++ ns₂) } := by
      rw [h₂, h₁]
      simp
    have hlen₂ : ((s.nodeAtOrAdd a).1.nodeAtOrAdd b).1.nodes.length = s.nodes.length + (ns₁ ++ ns₂).length := by
      simp [hs₂]
    have happart := (h.apart.nodeAtOrAdd a).nodeAtOrAdd b
    rw [hs₂] at hi hj happart ⊢
    simp only [List.length_append] at hi hj
    refine h.addPair happart hij (by simpa using hi) (by simpa using hj) (fun x hx hx' => ?_)
      (fun x hx hlt => hasNaN_of_nodeAtOrAdd_nodeAtOrAdd_old hx hlt)
    exact eq_of_nodeAtOrAdd_nodeAtOrAdd_new hx (by rw [hlen₂]; simpa using hx')

/-! ## Junctions and chains -/

section Joining

variable {P : Structure → Prop}

/-- **What every connection keeps, a junction keeps.** -/
theorem joinSegments_keeps (hP : ∀ {s s' : Structure} {a b : Vec3} {t : String} {k : Nat}, P s →
      s.connect a b t = .ok (s', k) → P s') {prev next : List Node} {i : Nat} :
    ∀ (ws : List Wire) {k : Nat} {s s' : Structure}, P s → joinSegments prev next i k s ws = .ok s' → P s'
  | [], _, s, s', h, hj => by
    cases hj
    exact h
  | w :: ws, k, s, s', h, hj => by
    simp only [Chain.joinSegments] at hj
    split at hj
    · cases hj
    · obtain ⟨⟨s₁, idx⟩, hc, hrest⟩ := exists_of_bind_eq_ok hj
      exact joinSegments_keeps hP ws (hP h hc) hrest

/-- **What every connection keeps, a whole chain keeps.** -/
theorem joinAll_keeps (hP : ∀ {s s' : Structure} {a b : Vec3} {t : String} {k : Nat}, P s →
      s.connect a b t = .ok (s', k) → P s') (ws : List Wire) :
    ∀ {joints : List (Nat × Structure × Structure)} {s s' : Structure}, P s →
      Chain.joinAll ws s joints = .ok s' → P s'
  | [], s, s', h, hj => by
    cases hj
    exact h
  | (i, p, q) :: joints, s, s', h, hj => by
    obtain ⟨s₁, hs₁, hrest⟩ := exists_of_bind_eq_ok hj
    exact joinAll_keeps hP ws (joinSegments_keeps hP ws h hs₁) hrest

end Joining

/-- **Every chain's joints are spread.** -/
theorem joints_replicate {unit chain : Structure} {n : Nat} {offset : Vec3} {j : Junction}
    (h : unit.replicate n offset j = .ok chain) : Joints chain := by
  obtain ⟨ws, -, hjoin⟩ := exists_of_bind_eq_ok h
  exact joinAll_keeps (fun hs hc => hs.connect hc) ws (joints_of_nodes_eq_nil rfl rfl) hjoin

/-! ## The ends of each pair -/

/-- **Node `x` of a chain is an end at point `a`**: IEEE-equal to it when it has no NaN lane;
otherwise holding it exactly, and the end of no other pair. -/
def EndsAt (s : Structure) (x : Nat) (a : Vec3) : Prop :=
  (a.hasNaN = false → (s.positionOf x).same a = true) ∧
    (a.hasNaN = true → s.positionOf x = a ∧ s.ends.count x = 1)

/-- A joint standing for a point is an end at it. -/
theorem Joints.endsAt {s : Structure} (h : Joints s) {x : Nat} (hx : x < s.nodes.length) {a : Vec3}
    (hst : Stands (s.positionOf x) a) : EndsAt s x a := by
  refine ⟨fun hnan => ?_, fun hnan => ?_⟩
  · rcases hst with heq | hsame
    · rw [heq, Vec3.same_self, hnan]
      rfl
    · exact hsame
  · -- a point with a NaN lane is IEEE-equal to nothing, so the joint is the point itself
    have heq : s.positionOf x = a := hst.resolve_right fun hsame => by
      simp [Vec3.hasNaN_of_same_right hsame] at hnan
    exact ⟨heq, h.count_ends x hx (heq ▸ hnan)⟩

/-! ## Which pair joins which points -/

/-- A role names a node of the unit. -/
theorem NodeRole.resolve_lt {r : NodeRole} {unit : Structure} {i : Nat} (h : r.resolve unit = .ok i) :
    i < unit.nodes.length := by
  unfold NodeRole.resolve at h
  split at h
  · split at h
    · cases h
      assumption
    · cases h
  · split at h
    · next hi =>
      cases h
      exact (List.findIdx?_eq_some_iff_getElem.1 hi).1
    · cases h

/-- Related lists are related at each place, read from the left. -/
theorem forall₂_getElem?_left {α β : Type} {R : α → β → Prop} :
    ∀ {l₁ : List α} {l₂ : List β}, List.Forall₂ R l₁ l₂ → ∀ {r : Nat} {x : α}, l₁[r]? = some x →
      ∃ y, l₂[r]? = some y ∧ R x y
  | _, _, .nil, _, _, h => by simp at h
  | _, _, .cons hxy _, 0, _, h => by
    obtain rfl := Option.some.inj h
    exact ⟨_, rfl, hxy⟩
  | _, _, .cons _ hrest, r + 1, _, h => forall₂_getElem?_left hrest h

/-- Related lists are related at each place, read from the right. -/
theorem forall₂_getElem? {α β : Type} {R : α → β → Prop} :
    ∀ {l₁ : List α} {l₂ : List β}, List.Forall₂ R l₁ l₂ → ∀ {r : Nat} {y : β}, l₂[r]? = some y →
      ∃ x, l₁[r]? = some x ∧ R x y
  | _, _, .nil, _, _, h => by simp at h
  | _, _, .cons hxy _, 0, _, h => by
    obtain rfl := Option.some.inj h
    exact ⟨_, rfl, hxy⟩
  | _, _, .cons _ hrest, r + 1, _, h => forall₂_getElem? hrest h

/-- Blocks of one length laid end to end: place `k` of block `i` is at `i * m + k`. -/
theorem getElem?_flatMap_range {α : Type} {f : Nat → List α} {m : Nat} (hf : ∀ i, (f i).length = m) :
    ∀ {N i k : Nat}, i < N → k < m → ((List.range N).flatMap f)[i * m + k]? = (f i)[k]?
  | 0, _, _, hi, _ => absurd hi (Nat.not_lt_zero _)
  | N + 1, i, k, hi, hk => by
    have hlen : ((List.range N).flatMap f).length = N * m := by
      simp [List.length_flatMap, hf]
    rw [List.range_succ, List.flatMap_append]
    rcases Nat.lt_or_ge i N with hiN | hiN
    · -- block `i` lies in the first `N` blocks
      have hlt : i * m + k < N * m := by
        calc i * m + k < i * m + m := by omega
          _ = (i + 1) * m := by rw [Nat.succ_mul]
          _ ≤ N * m := Nat.mul_le_mul_right m hiN
      rw [List.getElem?_append_left (by rw [hlen]; exact hlt), getElem?_flatMap_range hf hiN hk]
    · -- block `i` is the last
      obtain rfl : i = N := by omega
      rw [List.getElem?_append_right (by rw [hlen]; omega), hlen, Nat.add_sub_cancel_left]
      simp

/-- **Link `i * m + k` of a chain** joins wire `k` from segment `i + 1` to segment `i + 2`. -/
theorem getElem?_links {unit : Structure} {offset : Vec3} {n : Nat} {ws : List Wire} {i k : Nat}
    (hi : i + 1 < n) (hk : k < ws.length) :
    (links unit offset n ws)[i * ws.length + k]? =
      ws[k]?.map (wireLink (segment unit offset (i + 1)) (segment unit offset (i + 2))) := by
  rw [links, getElem?_flatMap_range (fun _ => List.length_map _) (by omega) hk, List.getElem?_map]

/-- The tags, nodes, pairs and children of segment `i`: the unit's, with the words `segment i`
added to its own tags and every node at every depth moved by `offset * i`. -/
theorem segment_parts (unit : Structure) (offset : Vec3) (i : Nat) :
    (∀ w, w ∈ (segment unit offset i).tags.tokens ↔
      w ∈ unit.tags.tokens ∨ w ∈ (Tags.parse ("segment " ++ Decimal.natText i)).tokens) ∧
    (segment unit offset i).nodes = unit.nodes.map (Node.mapPosition (· + offset * Float32.ofNat i)) ∧
    (segment unit offset i).pairs = unit.pairs ∧
    (segment unit offset i).children = unit.children.map (·.translate (offset * Float32.ofNat i)) := by
  refine ⟨fun w => ?_, ?_, ?_, ?_⟩ <;>
    simp [segment, Structure.translate, Structure.addTags, Tags.add, Tags.parse, Tags.mem_insertAll]

/-- **What replication builds.** When replicating a unit into a chain of `n` segments succeeds,
each connector's roles resolve to nodes of the unit, and the chain has no tags of its own and the
`n` segments as its children: segment `i` is the unit with the words `segment i` added to its own
tags and every node at every depth moved by `offset * i`, its pairs, node tags and shape kept. It
has `m * (n - 1)` pairs for `m` connectors, and pair `(i - 1) * m + k` carries the tags of
connector `k` and joins its node in segment `i` to its node in segment `i + 1`: each end is a node
IEEE-equal to the point, or, for a point with a NaN lane, a node holding it exactly that no other
pair shares. The chain's nodes are untagged, each is an end of some pair, and no two of them
stand at IEEE-equal points. -/
theorem replicate_layout {unit chain : Structure} {n : Nat} {offset : Vec3} {j : Junction}
    (h : unit.replicate n offset j = .ok chain) :
    ∃ ws : List Wire,
      List.Forall₂ (fun c w => c.source.resolve unit = .ok w.source ∧ c.target.resolve unit = .ok w.target ∧
        w.source < unit.nodes.length ∧ w.target < unit.nodes.length) j.connectors ws ∧
      chain.tags = .empty ∧ chain.children.length = n ∧
      (∀ i, 1 ≤ i → i ≤ n → chain.children[i - 1]? = some (segment unit offset i)) ∧
      (∀ i, (∀ w, w ∈ (segment unit offset i).tags.tokens ↔
          w ∈ unit.tags.tokens ∨ w ∈ (Tags.parse ("segment " ++ Decimal.natText i)).tokens) ∧
        (segment unit offset i).nodes = unit.nodes.map (Node.mapPosition (· + offset * Float32.ofNat i)) ∧
        (segment unit offset i).pairs = unit.pairs ∧
        (segment unit offset i).children = unit.children.map (·.translate (offset * Float32.ofNat i))) ∧
      chain.pairs.length = j.connectors.length * (n - 1) ∧
      (∀ i k c, 1 ≤ i → i < n → j.connectors[k]? = some c → ∃ w p, ws[k]? = some w ∧
        chain.pairs[(i - 1) * j.connectors.length + k]? = some p ∧ p.tags = Tags.parse c.tags ∧
        EndsAt chain p.source ((segment unit offset i).positionOf w.source) ∧
        EndsAt chain p.target ((segment unit offset (i + 1)).positionOf w.target)) ∧
      (∀ nd ∈ chain.nodes, nd.tags = .empty) ∧
      (∀ x < chain.nodes.length, x ∈ chain.ends) ∧
      chain.Apart := by
  obtain ⟨ws, hws, hJ⟩ := joined_replicate h
  have hjoints := joints_replicate h
  have hwires := wires_eq_ok hws
  have hm : j.connectors.length = ws.length := hwires.length_eq
  refine ⟨ws, hwires.imp fun {c w} ⟨ha, hb, _⟩ => ⟨ha, hb, NodeRole.resolve_lt ha, NodeRole.resolve_lt hb⟩,
    hJ.tags_eq, by simp [hJ.children_eq, segments], fun i hi hin => ?_, segment_parts unit offset, ?_,
    fun i k c hi hin hc => ?_, hJ.untagged, hjoints.mem_ends, hjoints.apart⟩
  · rw [hJ.children_eq, segments, List.getElem?_map, List.getElem?_range (by omega), Option.map_some,
      Nat.sub_add_cancel hi]
  · rw [hJ.pairs.length_eq, length_links, hm, Nat.mul_comm]
  · -- connector `k` is wire `k`, whose link is pair `(i - 1) * m + k`
    obtain ⟨w, hw, -, -, htags⟩ := forall₂_getElem?_left hwires hc
    have hk : k < ws.length := (List.getElem?_eq_some_iff.1 hw).1
    have hlink := @getElem?_links unit offset n ws (i - 1) k (by omega) hk
    rw [hw, Option.map_some, Nat.sub_add_cancel hi, show i - 1 + 2 = i + 1 by omega] at hlink
    obtain ⟨p, hp, hjoins⟩ := forall₂_getElem? hJ.pairs hlink
    obtain ⟨hptags, hsrc, htgt, hsrc', htgt'⟩ := hjoins
    refine ⟨w, p, hw, by rw [hm]; exact hp, by rw [hptags, ← htags]; rfl, hjoints.endsAt hsrc hsrc',
      hjoints.endsAt htgt htgt'⟩

/-- A unit of one strut, from the origin up by one. -/
def strut : Structure :=
  { nodes := [.ofPosition ⟨0, 0, 0⟩, .ofPosition ⟨0, 1, 0⟩], pairs := [⟨0, 1, Tags.parse "strut"⟩] }

/-- A junction of one connector, tagged `tie`, from the top of a strut to the foot of the next. -/
def tieJunction : Junction := ⟨[⟨.index 1, .index 0, "tie"⟩]⟩

/-- An offset whose second lane is NaN. -/
def nanLift : Vec3 := ⟨0, 0 / 0, 0⟩

/-- Two struts moved by `nanLift` and `2 * nanLift`, tied by two joints at their NaN points. -/
def nanTies : Structure :=
  { children := [segment strut nanLift 1, segment strut nanLift 2],
    nodes := [.ofPosition ((⟨0, 1, 0⟩ : Vec3) + nanLift * Float32.ofNat 1),
      .ofPosition ((⟨0, 0, 0⟩ : Vec3) + nanLift * Float32.ofNat 2)],
    pairs := [⟨0, 1, Tags.parse "tie"⟩] }

/-- Tying two struts moved by an offset with a NaN lane gives the tie's first end a joint of its
own, holding the top of the first strut exactly, that no other pair shares. -/
theorem nan_point_gets_own_joint :
    strut.replicate 2 nanLift tieJunction = .ok nanTies ∧
      nanTies.positionOf 0 = (segment strut nanLift 1).positionOf 1 ∧ nanTies.ends.count 0 = 1 := by
  have hnodes : ∀ i, (segment strut nanLift i).nodes =
      [.ofPosition ((⟨0, 0, 0⟩ : Vec3) + nanLift * Float32.ofNat i),
        .ofPosition ((⟨0, 1, 0⟩ : Vec3) + nanLift * Float32.ofNat i)] := fun i => by
    simp [segment, Structure.translate, strut, Structure.addTags, Node.mapPosition, Node.ofPosition]
  have h : strut.replicate 2 nanLift tieJunction = .ok nanTies := by
    have hsame : Vec3.same ((⟨0, 1, 0⟩ : Vec3) + nanLift * Float32.ofNat 1)
        ((⟨0, 0, 0⟩ : Vec3) + nanLift * Float32.ofNat 2) = false := by decide
    have hjoints : (List.range' 1 (2 - 1)).zip ((segments strut nanLift 2).zip (segments strut nanLift 2).tail) =
        [(1, segment strut nanLift 1, segment strut nanLift 2)] := by
      rw [joints_eq]
      rfl
    unfold Structure.replicate
    rw [show wires strut tieJunction = .ok [⟨1, 0, "tie"⟩] from rfl]
    simp only [bind, Except.bind]
    rw [← segments, hjoints]
    simp [Chain.joinAll, Chain.joinSegments, hnodes, hsame, Structure.connect, Structure.nodeAtOrAdd,
      Structure.nodeAt?, Structure.addNode, Structure.addNodeAt, Structure.addPair, Node.ofPosition]
    rfl
  obtain ⟨ws, hwires, -, -, -, -, -, hpairs, -, -, -⟩ := replicate_layout h
  obtain ⟨w, p, hw, hp, -, hsrc, -⟩ := hpairs 1 0 ⟨.index 1, .index 0, "tie"⟩ le_rfl (by decide) rfl
  -- the tie's wire starts at node 1 of the strut, and its pair is the chain's only pair
  obtain ⟨w', hw', hres, -⟩ := forall₂_getElem?_left hwires (show tieJunction.connectors[0]? = some _ from rfl)
  obtain rfl : w' = w := Option.some.inj (hw'.symm.trans hw)
  have hsource : w'.source = 1 := (Except.ok.inj (hres.symm.trans (rfl : NodeRole.resolve (.index 1) strut = .ok 1)))
  obtain rfl : p = ⟨0, 1, Tags.parse "tie"⟩ := (Option.some.inj hp).symm
  have hpoint : (segment strut nanLift 1).positionOf 1 = (⟨0, 1, 0⟩ : Vec3) + nanLift * Float32.ofNat 1 := by
    simp [Structure.positionOf, hnodes, Node.ofPosition]
  have hnan : ((segment strut nanLift 1).positionOf 1).hasNaN = true := by
    rw [hpoint]
    decide
  rw [hsource] at hsrc
  exact ⟨h, (hsrc.2 hnan).1, (hsrc.2 hnan).2⟩

end Chain

end Tensegrity
