import Tensegrity.Proofs.Subtree

/-!
# Moving a structure changes positions only

Translation, rotation about a point and scaling about a point all apply one map to the position
of every node of a tree, in place (`Structure.mapPositions`): each node at each depth is reached
once, and nothing but its position changes. `Structure.MovesPositions f s s'` says what that
leaves, through the paths of child indices that name the structures deep inside a tree: `s'` has
a descendant at exactly the paths where `s` has one, and the two descendants at a path have the
same tags and pairs and the same nodes in the same order, with the same tags, each at `f` of its
old position.

The three moves are read off the one law `movesPositions_mapPositions`. A translation by `o`
maps `v` to `v + o`; a rotation by `q` about `p` maps it to `p + q (v - p)`, where `Quat.rotate`
applies `q` as given, without normalizing it; a scaling by `k` about `p` maps it to
`p + (v - p) k`.
-/

namespace Tensegrity

namespace Structure

/-- **`s'` is `s` with its node positions moved by `f`**: the tree keeps its shape, and at every
depth the tags, the pairs and the nodes' tags stay while each node position `v` becomes `f v`. -/
structure MovesPositions (f : Vec3 → Vec3) (s s' : Structure) : Prop where
  /-- A path leads into `s'` exactly when it leads into `s`. -/
  shape : ∀ π : List Nat, (s'.descendant? π).isSome = (s.descendant? π).isSome
  /-- The structure at a path keeps everything but its node positions, which are mapped. -/
  frame : ∀ (π : List Nat) (d : Structure), s.descendant? π = some d → ∃ d' : Structure, s'.descendant? π = some d' ∧
    d'.tags = d.tags ∧ d'.pairs = d.pairs ∧ d'.nodes.length = d.nodes.length ∧
      ∀ (i : Nat) (nd : Node), d.nodes[i]? = some nd → d'.nodes[i]? = some (Node.mk (f nd.position) nd.tags)

/-- **The descendant of a moved tree** at a path is the descendant there, moved. -/
theorem descendant?_mapPositions (f : Vec3 → Vec3) :
    ∀ (s : Structure) (π : List Nat), (s.mapPositions f).descendant? π = (s.descendant? π).map (mapPositions f)
  | s, [] => rfl
  | s, i :: π => by
    rw [descendant?_cons, descendant?_cons, mapPositions_children, List.getElem?_map]
    cases s.children[i]? with
    | none => rfl
    | some c => exact descendant?_mapPositions f c π

/-- Mapping node positions moves them and nothing else, at every depth. -/
theorem movesPositions_mapPositions (f : Vec3 → Vec3) (s : Structure) : MovesPositions f s (s.mapPositions f) where
  shape π := by rw [descendant?_mapPositions, Option.isSome_map]
  frame π d hd := by
    refine ⟨d.mapPositions f, by rw [descendant?_mapPositions, hd]; rfl, mapPositions_tags f d,
      mapPositions_pairs f d, by simp, fun i nd hnd => ?_⟩
    simp [hnd, Node.mapPosition]

/-- **Translating, rotating and scaling change node positions only.** At every depth of the
tree, the structure's own tags, its pairs, its nodes' tags, its number of nodes and its children
stay as they were, and each node position `v` becomes `v + o` for a translation by `o`,
`p + q (v - p)` for a rotation by `q` about `p`, with `q` used as given even when it is not of
unit length, and `p + (v - p) k` for a scaling by `k` about `p`. -/
theorem moves_change_positions_only (s : Structure) (o p : Vec3) (q : Quat) (k : Float32) :
    MovesPositions (· + o) s (s.translate o) ∧
    MovesPositions (fun v => p + q.rotate (v - p)) s (s.rotate p q) ∧
    MovesPositions (fun v => p + (v - p) * k) s (s.scale p k) :=
  ⟨movesPositions_mapPositions _ s, movesPositions_mapPositions _ s, movesPositions_mapPositions _ s⟩

end Structure

end Tensegrity
