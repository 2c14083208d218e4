import Tensegrity.Chain
import Tensegrity.Proofs.Preorder
import Tensegrity.Proofs.WellFormed

/-!
# What a chain is made of

Replicating a unit resolves the junction's connectors into wires, lays out the segments as the
children of an empty root, and then joins neighbouring segments junction by junction, wire by
wire, through `Structure.connect`. Each connection is a *link*: the wire's node in the earlier
segment, its node in the later one, and the wire's tags (`Chain.links`).

What the joining leaves is said once, as `Chain.Joined`: the root keeps no tags of its own, its
children are the segments, every node it gains is untagged, and its pairs are the links in
order, each carrying the link's tags between nodes that stand for the link's two points – the
points themselves, or nodes found IEEE-equal to them (`Chain.Stands`). One connection keeps it
(`Joined.connect`), hence a junction and a whole chain do, and `joined_replicate` reads it off
every chain that replication returns.
-/

namespace Tensegrity

namespace Chain

/-- **A link**: two points a pair is to join, and the pair's tags as written. -/
structure Link where
  /-- The point in the earlier segment. -/
  source : Vec3
  /-- The point in the later segment. -/
  target : Vec3
  /-- The tags of the pair. -/
  tags : String

/-- The segments of a chain of `n`: segment `i + 1` at place `i`. -/
def segments (unit : Structure) (offset : Vec3) (n : Nat) : List Structure :=
  (List.range n).map fun i => segment unit offset (i + 1)

/-- The link a wire makes from a node of `prev` to a node of `next`. -/
def wireLink (prev next : Structure) (w : Wire) : Link :=
  ⟨prev.positionOf w.source, next.positionOf w.target, w.tags⟩

/-- **The links of a chain of `n`**, junction by junction and, within a junction, wire by wire:
at junction `i + 1`, each wire's node in segment `i + 1` to its node in segment `i + 2`. -/
def links (unit : Structure) (offset : Vec3) (n : Nat) (ws : List Wire) : List Link :=
  (List.range (n - 1)).flatMap fun i =>
    ws.map (wireLink (segment unit offset (i + 1)) (segment unit offset (i + 2)))

/-- One link for each wire at each of the `n - 1` junctions. -/
theorem length_links (unit : Structure) (offset : Vec3) (n : Nat) (ws : List Wire) :
    (links unit offset n ws).length = (n - 1) * ws.length := by
  simp [links]

/-- **`x` stands for the point `a`**: it is `a`, or IEEE-equal to it. A point with a NaN lane is
IEEE-equal to none, itself included, so only the first holds of it. -/
def Stands (x a : Vec3) : Prop := x = a ∨ x.same a = true

/-- **Pair `p` of `s` joins link `l`**: it carries the link's tags, and its ends are nodes of
`s` standing for the link's two points. -/
def Joins (s : Structure) (p : Pair) (l : Link) : Prop :=
  p.tags = Tags.parse l.tags ∧ p.source < s.nodes.length ∧ p.target < s.nodes.length ∧
    Stands (s.positionOf p.source) l.source ∧ Stands (s.positionOf p.target) l.target

/-- **What joining has made of a chain**: a root with no tags of its own, the segments as its
children, untagged nodes, and one pair for each link, in order. -/
structure Joined (segs : List Structure) (ls : List Link) (s : Structure) : Prop where
  /-- The root keeps no tags. -/
  tags_eq : s.tags = .empty
  /-- The segments are the children. -/
  children_eq : s.children = segs
  /-- Every node is untagged. -/
  untagged : ∀ nd ∈ s.nodes, nd.tags = .empty
  /-- The pairs join the links, in order. -/
  pairs : List.Forall₂ (Joins s) s.pairs ls

/-! ## One connection -/

/-- Appending nodes keeps the position of every node there was. -/
theorem positionOf_of_nodes_eq_append {s s' : Structure} {ns : List Node} (h : s'.nodes = s.nodes ++ ns)
    {i : Nat} (hi : i < s.nodes.length) : s'.positionOf i = s.positionOf i := by
  simp [Structure.positionOf, h, List.getElem?_append_left hi]

theorem Joins.of_nodes_eq_append {s s' : Structure} {ns : List Node} (h : s'.nodes = s.nodes ++ ns)
    {p : Pair} {l : Link} (hp : Joins s p l) : Joins s' p l := by
  obtain ⟨htags, hsrc, htgt, hsrc', htgt'⟩ := hp
  have hlen : s.nodes.length ≤ s'.nodes.length := by simp [h]
  refine ⟨htags, by omega, by omega, ?_, ?_⟩
  · rwa [positionOf_of_nodes_eq_append h hsrc]
  · rwa [positionOf_of_nodes_eq_append h htgt]

/-- **Finding or adding a node**: the node found stands for the point, and a node added is
untagged and at the point. -/
theorem nodeAtOrAdd_spec (s : Structure) (p : Vec3) :
    ∃ ns, (s.nodeAtOrAdd p).1 = { s with nodes := s.nodes ++ ns } ∧ (∀ nd ∈ ns, nd.tags = .empty) ∧
      (s.nodeAtOrAdd p).2 < (s.nodeAtOrAdd p).1.nodes.length ∧
      Stands ((s.nodeAtOrAdd p).1.positionOf (s.nodeAtOrAdd p).2) p := by
  unfold Structure.nodeAtOrAdd
  split
  · next i hi =>
    obtain ⟨hlt, hsame, -⟩ := List.findIdx?_eq_some_iff_getElem.1 hi
    refine ⟨[], by cases s; simp, by simp, hlt, .inr ?_⟩
    simpa [Structure.positionOf, List.getElem?_eq_getElem hlt] using hsame
  · refine ⟨[.ofPosition p], rfl, by simp [Node.ofPosition], by simp [Structure.addNode], .inl ?_⟩
    simp [Structure.addNode, Structure.positionOf, Node.ofPosition]

/-- **A connection** keeps the root's tags and children, appends untagged nodes, and appends one
pair, which joins the two points with the tags. -/
theorem connect_spec {s s' : Structure} {a b : Vec3} {t : String} {k : Nat}
    (h : s.connect a b t = .ok (s', k)) :
    s'.tags = s.tags ∧ s'.children = s.children ∧
      (∃ ns, s'.nodes = s.nodes ++ ns ∧ ∀ nd ∈ ns, nd.tags = .empty) ∧
      ∃ p, s'.pairs = s.pairs ++ [p] ∧ Joins s' p ⟨a, b, t⟩ := by
  unfold Structure.connect at h
  split at h
  · cases h
  · obtain ⟨ns₁, h₁, hu₁, hi₁, hs₁⟩ := nodeAtOrAdd_spec s a
    obtain ⟨ns₂, h₂, hu₂, hi₂, hs₂⟩ := nodeAtOrAdd_spec (s.nodeAtOrAdd a).1 b
    have hadd : ((s.nodeAtOrAdd a).1.nodeAtOrAdd b).1.addPair (s.nodeAtOrAdd a).2
        ((s.nodeAtOrAdd a).1.nodeAtOrAdd b).2 t = .ok (s', k) := h
    obtain ⟨-, -, -, rfl, -⟩ := Structure.addPair_eq_ok_iff.1 hadd
    -- the node found for `a` keeps its place when the node for `b` is added
    have hnodes₂ : ((s.nodeAtOrAdd a).1.nodeAtOrAdd b).1.nodes = (s.nodeAtOrAdd a).1.nodes ++ ns₂ := by
      rw [h₂]
    refine ⟨?_, ?_, ⟨ns₁ ++ ns₂, ?_, ?_⟩,
      ⟨(s.nodeAtOrAdd a).2, ((s.nodeAtOrAdd a).1.nodeAtOrAdd b).2, Tags.parse t⟩, ?_, rfl, ?_, ?_, ?_, ?_⟩
    · simp only [h₂]
      simp [h₁]
    · simp only [h₂]
      simp [h₁]
    · simp only [h₂]
      simp [h₁]
    · intro nd hnd
      rcases List.mem_append.1 hnd with hnd | hnd
      · exact hu₁ nd hnd
      · exact hu₂ nd hnd
    · simp only [h₂]
      simp [h₁]
    · simp only [hnodes₂, List.length_append]
      omega
    · exact hi₂
    · show Stands (((s.nodeAtOrAdd a).1.nodeAtOrAdd b).1.positionOf (s.nodeAtOrAdd a).2) a
      rwa [positionOf_of_nodes_eq_append hnodes₂ hi₁]
    · exact hs₂

/-- **One connection keeps the invariant**, with one more link. -/
theorem Joined.connect {segs : List Structure} {ls : List Link} {s s' : Structure} {a b : Vec3}
    {t : String} {k : Nat} (h : Joined segs ls s) (hc : s.connect a b t = .ok (s', k)) :
    Joined segs (ls ++ [⟨a, b, t⟩]) s' := by
  obtain ⟨htags, hchildren, ⟨ns, hnodes, hns⟩, p, hpairs, hp⟩ := connect_spec hc
  refine ⟨htags.trans h.tags_eq, hchildren.trans h.children_eq, fun nd hnd => ?_, ?_⟩
  · rw [hnodes] at hnd
    rcases List.mem_append.1 hnd with hnd | hnd
    · exact h.untagged nd hnd
    · exact hns nd hnd
  · rw [hpairs]
    exact List.rel_append (h.pairs.imp fun _ _ => Joins.of_nodes_eq_append hnodes) (.cons hp .nil)

/-! ## Junctions and chains -/

/-- **A junction keeps the invariant**, with one link for each wire. -/
theorem Joined.joinSegments {segs : List Structure} {prev next : Structure} {i : Nat} :
    ∀ (ws : List Wire) {k : Nat} {ls : List Link} {s s' : Structure}, Joined segs ls s →
      joinSegments prev.nodes next.nodes i k s ws = .ok s' →
      Joined segs (ls ++ ws.map (wireLink prev next)) s'
  | [], _, ls, s, s', h, hj => by
    cases hj
    simpa using h
  | w :: ws, k, ls, s, s', h, hj => by
    simp only [Chain.joinSegments] at hj
    split at hj
    · cases hj
    · obtain ⟨⟨s₁, idx⟩, hc, hrest⟩ := exists_of_bind_eq_ok hj
      have h₁ := Joined.joinSegments ws (h.connect hc) hrest
      simpa [wireLink, Structure.positionOf] using h₁

/-- **Every junction in turn keeps the invariant.** -/
theorem Joined.joinAll {segs : List Structure} (ws : List Wire) :
    ∀ {joints : List (Nat × Structure × Structure)} {ls : List Link} {s s' : Structure}, Joined segs ls s →
      Chain.joinAll ws s joints = .ok s' →
      Joined segs (ls ++ joints.flatMap fun jt => ws.map (wireLink jt.2.1 jt.2.2)) s'
  | [], ls, s, s', h, hj => by
    cases hj
    simpa using h
  | (i, p, q) :: joints, ls, s, s', h, hj => by
    obtain ⟨s₁, hs₁, hrest⟩ := exists_of_bind_eq_ok hj
    have h₁ := Joined.joinAll ws (Joined.joinSegments ws h hs₁) hrest
    simpa using h₁

/-- The junctions of a chain of `n`: junction `i + 1` between segments `i + 1` and `i + 2`. -/
theorem joints_eq (unit : Structure) (offset : Vec3) (n : Nat) :
    (List.range' 1 (n - 1)).zip ((segments unit offset n).zip (segments unit offset n).tail) =
      (List.range (n - 1)).map fun i => (i + 1, segment unit offset (i + 1), segment unit offset (i + 2)) := by
  apply List.ext_getElem
  · simp [segments]
  · intro i h₁ h₂
    simp [segments, Nat.add_comm 1 i]

/-- **Every chain is joined**: its connectors resolve to wires, and the chain holds the segments
and one pair for each link. -/
theorem joined_replicate {unit chain : Structure} {n : Nat} {offset : Vec3} {j : Junction}
    (h : unit.replicate n offset j = .ok chain) :
    ∃ ws, wires unit j = .ok ws ∧ Joined (segments unit offset n) (links unit offset n ws) chain := by
  obtain ⟨ws, hws, hjoin⟩ := exists_of_bind_eq_ok h
  refine ⟨ws, hws, ?_⟩
  have hstart : Joined (segments unit offset n) [] { children := segments unit offset n } :=
    ⟨rfl, rfl, fun nd hnd => (List.not_mem_nil hnd).elim, List.Forall₂.nil⟩
  have hjoined := Joined.joinAll ws hstart hjoin
  rwa [← segments, joints_eq, List.nil_append, List.flatMap_map] at hjoined

/-! ## Wires -/

/-- **Resolving a junction** resolves each connector in order to a wire with its tags. -/
theorem wires_eq_ok {unit : Structure} {j : Junction} {ws : List Wire} (h : wires unit j = .ok ws) :
    List.Forall₂ (fun c w => c.source.resolve unit = .ok w.source ∧ c.target.resolve unit = .ok w.target ∧
      w.tags = c.tags) j.connectors ws := by
  obtain ⟨cs⟩ := j
  unfold wires at h
  dsimp only at h ⊢
  induction cs generalizing ws with
  | nil =>
    cases h
    exact .nil
  | cons c cs ih =>
    rw [List.mapM_cons] at h
    obtain ⟨w, hw, hrest⟩ := exists_of_bind_eq_ok h
    obtain ⟨ws', hws', hpure⟩ := exists_of_bind_eq_ok hrest
    cases hpure
    obtain ⟨a, ha, htarget⟩ := exists_of_bind_eq_ok hw
    obtain ⟨b, hb, hwire⟩ := exists_of_bind_eq_ok htarget
    cases hwire
    exact .cons ⟨ha, hb, rfl⟩ (ih hws')

end Chain

end Tensegrity
