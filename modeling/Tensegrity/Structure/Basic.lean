import Tensegrity.Node
import Tensegrity.Fault

/-!
# Structures

A structure is the graph that is later built into physical components: tagged nodes, tagged
pairs of distinct nodes, and child structures held by value. Nodes and pairs are numbered in
the order they were added, and every pair joins two distinct nodes of its own structure: adding
a pair that does not is refused and changes nothing.

`connect` joins two points rather than two indices: each point is found among the nodes by IEEE
equality of positions, or added as a new untagged node, so repeated connections share nodes.
A structure deep inside another is reached by a path of child indices. A structure is moved by
one map applied to every node position at every depth.
-/

namespace Tensegrity

/-- **A pair of nodes**, by index, with tags. -/
structure Pair where
  /-- The index of the first node. -/
  source : Nat
  /-- The index of the second node. -/
  target : Nat
  /-- Its tags. -/
  tags : Tags
deriving Inhabited

/-- **A structure**: nodes, pairs between them, and children. -/
structure Structure where
  /-- Tags of the structure itself. -/
  tags : Tags := .empty
  /-- Nodes, in the order they were added. -/
  nodes : List Node := []
  /-- Pairs, in the order they were added. -/
  pairs : List Pair := []
  /-- Child structures, in the order they were added. -/
  children : List Structure := []
deriving Inhabited

namespace Structure

/-- The structure with nothing in it. -/
def empty : Structure := {}

/-- Adds a node at the end; returns the structure and the node's index. -/
def addNodeAt (s : Structure) (n : Node) : Structure × Nat :=
  ({ s with nodes := s.nodes ++ [n] }, s.nodes.length)

/-- A new node goes at the end. -/
@[simp] theorem addNodeAt_nodes (s : Structure) (n : Node) : (s.addNodeAt n).1.nodes = s.nodes ++ [n] :=
  rfl

/-- Adding a node keeps the pairs. -/
@[simp] theorem addNodeAt_pairs (s : Structure) (n : Node) : (s.addNodeAt n).1.pairs = s.pairs := rfl

/-- A new node's index is the old node count. -/
@[simp] theorem addNodeAt_index (s : Structure) (n : Node) : (s.addNodeAt n).2 = s.nodes.length := rfl

/-- Adds an untagged node at a position. -/
def addNode (s : Structure) (p : Vec3) : Structure × Nat := s.addNodeAt (.ofPosition p)

/-- **Adds a pair** between two distinct existing nodes, tagged with the words of `tags`, and
returns its index; any other pair is refused with `invalidPair`. -/
def addPair (s : Structure) (source target : Nat) (tags : String) : Except Fault (Structure × Nat) :=
  let n := s.nodes.length
  if source = target ∨ n ≤ source ∨ n ≤ target then .error (.invalidPair source target n)
  else .ok ({ s with pairs := s.pairs ++ [⟨source, target, Tags.parse tags⟩] }, s.pairs.length)

/-- A pair between two distinct existing nodes is added at the end. -/
theorem addPair_of_valid {s : Structure} {a b : Nat} (t : String) (hab : a ≠ b)
    (ha : a < s.nodes.length) (hb : b < s.nodes.length) :
    s.addPair a b t = .ok ({ s with pairs := s.pairs ++ [⟨a, b, Tags.parse t⟩] }, s.pairs.length) := by
  unfold addPair
  rw [if_neg (by omega)]

/-- Any other pair is refused, naming both indices and the node count. -/
theorem addPair_of_invalid {s : Structure} {a b : Nat} (t : String)
    (h : a = b ∨ s.nodes.length ≤ a ∨ s.nodes.length ≤ b) :
    s.addPair a b t = .error (.invalidPair a b s.nodes.length) := by
  unfold addPair
  rw [if_pos h]

/-- The index of the first node at a position (IEEE equality), if any. -/
def nodeAt? (s : Structure) (p : Vec3) : Option Nat := s.nodes.findIdx? (·.position.same p)

/-- The index of the first node at a position, adding an untagged node there if none is. -/
def nodeAtOrAdd (s : Structure) (p : Vec3) : Structure × Nat :=
  match s.nodeAt? p with
  | some i => (s, i)
  | none => s.addNode p

/-- **Connects two points** with a pair tagged `tags`, reusing the first node at each point or
adding one there (first for `a`, then for `b`). Two equal points are refused. -/
def connect (s : Structure) (a b : Vec3) (tags : String) : Except Fault (Structure × Nat) :=
  if a.same b then .error (.selfConnection tags a)
  else
    let (s₁, i) := s.nodeAtOrAdd a
    let (s₂, j) := s₁.nodeAtOrAdd b
    s₂.addPair i j tags

/-- Adds a child at the end; returns the structure and the child's index. -/
def addChild (s : Structure) (c : Structure) : Structure × Nat :=
  ({ s with children := s.children ++ [c] }, s.children.length)

/-- Adds the words of `t` to the structure's own tags. -/
def addTags (s : Structure) (t : String) : Structure := { s with tags := s.tags.add t }

/-- Adds the words of `t` to the tags of node `i`, if there is such a node. -/
def tagNode? (s : Structure) (i : Nat) (t : String) : Option Structure :=
  match s.nodes[i]? with
  | some n => some { s with nodes := s.nodes.set i (n.withTags t) }
  | none => none

/-- The index of the first node whose tags contain the query. -/
def findNode (s : Structure) (q : Tags) : Option Nat := s.nodes.findIdx? (·.tags.contains q)

/-- The position of node `i`, or the origin past the last node. -/
def positionOf (s : Structure) (i : Nat) : Vec3 := (s.nodes[i]?.map (·.position)).getD .zero

/-- The positions of a pair's two nodes. -/
def pairEnds (s : Structure) (p : Pair) : Vec3 × Vec3 := (s.positionOf p.source, s.positionOf p.target)

/-- The descendant at a path of child indices; the empty path names the structure itself. -/
def descendant? : Structure → List Nat → Option Structure
  | s, [] => some s
  | s, i :: is => match s.children[i]? with
    | some c => c.descendant? is
    | none => none

/-- **Runs an operation on a descendant** and puts the result back in its place: `none` when
the path leaves the tree, else what the operation gave. -/
def updateAt {α : Type} (f : Structure → Except Fault (Structure × α)) :
    List Nat → Structure → Option (Except Fault (Structure × α))
  | [], s => some (f s)
  | i :: is, s => match s.children[i]? with
    | some c => (updateAt f is c).map fun r =>
        r.map fun (c', a) => ({ s with children := s.children.set i c' }, a)
    | none => none

end Structure

/-! ## Moving structures

A structure is moved by applying one map to the position of every node at every depth; tags,
pairs and the shape of the tree stay as they were. The three moves are translation `v + o`,
rotation `p + q (v - p)` about a fixed point, with the quaternion used as given, and scaling
`p + (v - p) k` about a reference point.
-/

namespace Structure

/-- **Applies `f` to every node position**, at every depth. -/
def mapPositions (f : Vec3 → Vec3) : Structure → Structure
  | ⟨t, ns, ps, cs⟩ => ⟨t, ns.map (Node.mapPosition f), ps, cs.map (mapPositions f)⟩

/-- Moving keeps the structure's own tags. -/
@[simp] theorem mapPositions_tags (f : Vec3 → Vec3) (s : Structure) :
    (s.mapPositions f).tags = s.tags := by
  cases s; rw [mapPositions]

/-- Moving maps each node's position and keeps its tags. -/
@[simp] theorem mapPositions_nodes (f : Vec3 → Vec3) (s : Structure) :
    (s.mapPositions f).nodes = s.nodes.map (Node.mapPosition f) := by
  cases s; rw [mapPositions]

/-- Moving keeps every pair. -/
@[simp] theorem mapPositions_pairs (f : Vec3 → Vec3) (s : Structure) :
    (s.mapPositions f).pairs = s.pairs := by
  cases s; rw [mapPositions]

/-- Moving moves every child the same way. -/
@[simp] theorem mapPositions_children (f : Vec3 → Vec3) (s : Structure) :
    (s.mapPositions f).children = s.children.map (mapPositions f) := by
  cases s; rw [mapPositions]

/-- Moves every node by `o`. -/
def translate (s : Structure) (o : Vec3) : Structure := s.mapPositions (· + o)

/-- Turns every node by `q` about `p`. -/
def rotate (s : Structure) (p : Vec3) (q : Quat) : Structure :=
  s.mapPositions fun v => p + q.rotate (v - p)

/-- Scales every node by `k` about `p`. -/
def scale (s : Structure) (p : Vec3) (k : Float32) : Structure :=
  s.mapPositions fun v => p + (v - p) * k

end Structure

end Tensegrity
