import Tensegrity.Preset
import Tensegrity.Description
import Tensegrity.Proofs.WellFormed
import Tensegrity.Proofs.Preorder

/-!
# Assemblies are reachable

The library builds structures of its own: chains of segments (`Structure.replicate`), the
structure of a description (`Description.toStructure`), and the tetrahedral unit and spine of
the presets. Each of them is put together from the operations that `Structure.Reachable` lists,
so each is reachable, and so well-formed: every pair of every structure in its tree joins two
distinct nodes of its own structure. The proofs follow the builders' own loops, one lemma per
loop, each an induction on the list the loop runs over.

The module ends with what well-formedness buys: the ends of a pair are read from nodes that
exist, so realization never falls back on the origin for a missing node.
-/

namespace Tensegrity

namespace Structure

/-! ## Structures given all at once -/

/-- Nodes appended one by one. -/
theorem Reachable.appendNodes {s : Structure} (h : Reachable s) (ns : List Node) :
    Reachable { s with nodes := s.nodes ++ ns } := by
  induction ns generalizing s with
  | nil =>
    cases s
    simpa using h
  | cons n ns ih =>
    have hstep := ih (h.addNodeAt n)
    rw [addNodeAt_nodes, List.append_assoc, List.singleton_append] at hstep
    exact hstep

/-- Children appended one by one. -/
theorem Reachable.appendChildren {s : Structure} (h : Reachable s) (cs : List Structure)
    (hcs : ∀ c ∈ cs, Reachable c) : Reachable { s with children := s.children ++ cs } := by
  induction cs generalizing s with
  | nil =>
    cases s
    simpa using h
  | cons c cs ih =>
    have hstep := ih (h.addChild (hcs c List.mem_cons_self)) fun c' hc' => hcs c' (List.mem_cons_of_mem _ hc')
    have hchildren : (s.addChild c).1.children = s.children ++ [c] := rfl
    rw [hchildren, List.append_assoc, List.singleton_append] at hstep
    exact hstep

/-- A structure of nodes alone. -/
theorem Reachable.ofNodes (ns : List Node) : Reachable { nodes := ns } := by
  simpa [Structure.empty] using Reachable.empty.appendNodes ns

/-! ## Chains -/

/-- Joining two segments connects points, wire after wire. -/
theorem Reachable.joinSegments {prev next : List Node} {i : Nat} (ws : List Wire) :
    ∀ {k : Nat} {chain chain' : Structure}, Reachable chain →
      Chain.joinSegments prev next i k chain ws = .ok chain' → Reachable chain' := by
  induction ws with
  | nil =>
    intro k chain chain' h hj
    cases hj
    exact h
  | cons w ws ih =>
    intro k chain chain' h hj
    simp only [Chain.joinSegments] at hj
    split at hj
    · cases hj
    · -- a refused connection stops the chain; an accepted one is a step
      obtain ⟨⟨c₁, idx⟩, hc, hrest⟩ := exists_of_bind_eq_ok hj
      exact ih (h.connect hc) hrest

/-- Every junction is joined in turn. -/
theorem Reachable.joinAll (ws : List Wire) :
    ∀ {joints : List (Nat × Structure × Structure)} {chain chain' : Structure}, Reachable chain →
      Chain.joinAll ws chain joints = .ok chain' → Reachable chain' := by
  intro joints
  induction joints with
  | nil =>
    intro chain chain' h hj
    cases hj
    exact h
  | cons joint joints ih =>
    intro chain chain' h hj
    obtain ⟨i, p, q⟩ := joint
    obtain ⟨c₁, hc, hrest⟩ := exists_of_bind_eq_ok hj
    exact ih (Reachable.joinSegments ws h hc) hrest

/-- **A chain of a reachable unit is reachable**: its segments are the unit tagged and moved, and
the joints are connections. -/
theorem Reachable.replicate {unit chain : Structure} {n : Nat} {offset : Vec3} {j : Junction}
    (h : Reachable unit) (hr : unit.replicate n offset j = .ok chain) : Reachable chain := by
  obtain ⟨ws, -, hjoin⟩ := exists_of_bind_eq_ok hr
  have hsegs : ∀ c ∈ (List.range n).map (fun i => Chain.segment unit offset (i + 1)), Reachable c := by
    intro c hc
    obtain ⟨i, -, rfl⟩ := List.mem_map.1 hc
    exact (h.addTags _).translate _
  have hstart := Reachable.empty.appendChildren _ hsegs
  exact Reachable.joinAll ws (by simpa [Structure.empty] using hstart) hjoin

/-! ## Descriptions and presets -/

/-- Nodes added at the points of a list. -/
theorem Reachable.foldl_addNode (pts : List (Float32 × Float32 × Float32)) :
    ∀ {s : Structure}, Reachable s → Reachable (pts.foldl (fun s (x, y, z) => (s.addNode ⟨x, y, z⟩).1) s) := by
  induction pts with
  | nil => exact fun h => h
  | cons pt pts ih =>
    intro s h
    exact ih (h.addNodeAt _)

/-- The entries of a description's list, added as pairs. -/
theorem Reachable.addEntries {tag : String} (es : List (Nat × Nat)) :
    ∀ {i : Nat} {s s' : Structure}, Reachable s → Description.addEntries tag i s es = .ok s' → Reachable s' := by
  induction es with
  | nil =>
    intro i s s' h he
    cases he
    exact h
  | cons e es ih =>
    intro i s s' h he
    obtain ⟨a, b⟩ := e
    simp only [Description.addEntries] at he
    split at he
    · cases he
    · obtain ⟨⟨s₁, k⟩, hadd, hrest⟩ := exists_of_bind_eq_ok he
      exact ih (h.addPair hadd) hrest

/-- **The structure of a description is reachable.** -/
theorem Reachable.toStructure {d : Description} {s : Structure} (h : d.toStructure = .ok s) : Reachable s := by
  obtain ⟨s₁, hrods, hmuscles⟩ := exists_of_bind_eq_ok h
  have hnodes := Reachable.foldl_addNode d.nodes Reachable.empty
  exact Reachable.addEntries _ (Reachable.addEntries _ hnodes hrods) hmuscles

/-- Rods added in order. -/
theorem Reachable.addRods (rods : List (Nat × Nat × String)) :
    ∀ {s s' : Structure}, Reachable s → Preset.addRods s rods = .ok s' → Reachable s' := by
  induction rods with
  | nil =>
    intro s s' h hr
    cases hr
    exact h
  | cons r rods ih =>
    intro s s' h hr
    obtain ⟨a, b, t⟩ := r
    obtain ⟨⟨s₁, k⟩, hadd, hrest⟩ := exists_of_bind_eq_ok hr
    exact ih (h.addPair hadd) hrest

/-- **The tetrahedral unit is reachable**, whatever its edge. -/
theorem Reachable.tetraUnit {e : Float32} {u : Structure} (h : Preset.tetraUnit e = .ok u) : Reachable u :=
  Reachable.addRods _ (Reachable.ofNodes _) h

/-- **The spine is reachable**, whatever its length. -/
theorem Reachable.tetraSpine {n : Nat} {c : Structure} (h : Preset.tetraSpine n = .ok c) : Reachable c := by
  obtain ⟨u, hu, hc⟩ := exists_of_bind_eq_ok h
  exact ((Reachable.tetraUnit hu).translate _).replicate hc

/-! ## Pair ends are nodes -/

/-- **In a well-formed tree the ends of every pair are nodes**, so the positions realization
reads for a pair are those of its two nodes. -/
theorem pairEnds_of_wellFormed {s t : Structure} {p : Pair} (h : s.WellFormed) (ht : t ∈ s.subtree)
    (hp : p ∈ t.pairs) :
    ∃ a b, t.nodes[p.source]? = some a ∧ t.nodes[p.target]? = some b ∧
      t.pairEnds p = (a.position, b.position) := by
  obtain ⟨-, hsrc, htgt⟩ := h t ht p hp
  refine ⟨t.nodes[p.source], t.nodes[p.target], List.getElem?_eq_getElem hsrc,
    List.getElem?_eq_getElem htgt, ?_⟩
  simp [pairEnds, positionOf, List.getElem?_eq_getElem hsrc, List.getElem?_eq_getElem htgt]

/-! ## Every structure the library builds -/

/-- **Every structure the library builds keeps its pairs in range.** Whatever operations built
a structure, every pair of every structure in its tree joins two distinct nodes of its own
structure, so the ends realization reads for a pair are the positions of two nodes that exist.
Chains of a reachable unit, the structures of descriptions and the presets are built so too.
Adding a pair is refused, with the two indices and the node count, exactly when they do not
name two distinct nodes; otherwise the pair is appended and its position returned. -/
theorem reachable_pairs_in_range :
    (∀ s : Structure, Reachable s → s.WellFormed ∧
      ∀ t ∈ s.subtree, ∀ p ∈ t.pairs, ∃ a b, t.nodes[p.source]? = some a ∧ t.nodes[p.target]? = some b ∧
        t.pairEnds p = (a.position, b.position)) ∧
    (∀ (unit chain : Structure) (n : Nat) (offset : Vec3) (j : Junction),
      Reachable unit → unit.replicate n offset j = .ok chain → Reachable chain) ∧
    (∀ (d : Description) (s : Structure), d.toStructure = .ok s → Reachable s) ∧
    (∀ (e : Float32) (u : Structure), Preset.tetraUnit e = .ok u → Reachable u) ∧
    (∀ (n : Nat) (c : Structure), Preset.tetraSpine n = .ok c → Reachable c) ∧
    (∀ (s : Structure) (a b : Nat) (t : String) (e : Fault), s.addPair a b t = .error e ↔
      (a = b ∨ s.nodes.length ≤ a ∨ s.nodes.length ≤ b) ∧ e = .invalidPair a b s.nodes.length) ∧
    (∀ (s s' : Structure) (a b i : Nat) (t : String), s.addPair a b t = .ok (s', i) ↔
      a ≠ b ∧ a < s.nodes.length ∧ b < s.nodes.length ∧
        s' = { s with pairs := s.pairs ++ [⟨a, b, Tags.parse t⟩] } ∧ i = s.pairs.length) := by
  refine ⟨?_, ?_, ?_, ?_, ?_, ?_, ?_⟩
  · intro s h
    have hwf := h.wellFormed
    exact ⟨hwf, fun t ht p hp => pairEnds_of_wellFormed hwf ht hp⟩
  · intro unit chain n offset j h hr
    exact h.replicate hr
  · intro d s h
    exact Reachable.toStructure h
  · intro e u h
    exact Reachable.tetraUnit h
  · intro n c h
    exact Reachable.tetraSpine h
  · intro s a b t e
    exact addPair_eq_error_iff
  · intro s s' a b i t
    exact addPair_eq_ok_iff

/-- Two nodes joined by a rod: a reachable structure, and so a well-formed one. -/
theorem rod_between_two_nodes_wellFormed :
    Reachable { nodes := [.ofPosition ⟨0, 0, 0⟩, .ofPosition ⟨1, 0, 0⟩], pairs := [⟨0, 1, Tags.parse "rod"⟩] } ∧
    Structure.WellFormed
      { nodes := [.ofPosition ⟨0, 0, 0⟩, .ofPosition ⟨1, 0, 0⟩], pairs := [⟨0, 1, Tags.parse "rod"⟩] } :=
  have h : Reachable
      { nodes := [.ofPosition ⟨0, 0, 0⟩, .ofPosition ⟨1, 0, 0⟩], pairs := [⟨0, 1, Tags.parse "rod"⟩] } :=
    (Reachable.ofNodes [.ofPosition ⟨0, 0, 0⟩, .ofPosition ⟨1, 0, 0⟩]).addPair (a := 0) (b := 1) (i := 0) rfl
  ⟨h, (reachable_pairs_in_range.1 _ h).1⟩

end Structure

end Tensegrity
