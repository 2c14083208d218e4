import Tensegrity.Structure.Basic

/-!
# Chains of segments

A chain is made of `n` copies of one unit structure, the segments, each moved `i` times an
offset and tagged `segment i`, and of the pairs that join each segment to the next. Which
nodes are joined is given by a junction: a list of connectors, each naming a node of the unit
at its `from` end and one at its `to` end, by index or by tags, and tagging the pair between
them. At each junction `i` (between segments `i` and `i + 1`) every connector joins the `from`
node of segment `i` to the `to` node of segment `i + 1`, through `Structure.connect`, so the
chain's own nodes are the joined points, shared where they coincide.

The roles are resolved against the unit before anything is built, so an unknown role is
reported even for an empty chain; two coincident nodes to be joined stop the chain.
-/

namespace Tensegrity

/-- **A node of a unit**, named by its index or by tags it carries. -/
inductive NodeRole where
  /-- The node with this index. -/
  | index (i : Nat)
  /-- The first node whose tags contain these. -/
  | tagged (q : Tags)
deriving Inhabited

/-- **Finds the node** a role names in a unit. -/
def NodeRole.resolve (r : NodeRole) (unit : Structure) : Except Fault Nat :=
  match r with
  | .index i => if i < unit.nodes.length then .ok i else .error (.roleIndex i unit.nodes.length)
  | .tagged q => match unit.findNode q with
    | some i => .ok i
    | none => .error (.roleTags q)

/-- **A connector**: the two roles it joins and the tags of its pairs. -/
structure Connector where
  /-- The node in the earlier segment. -/
  source : NodeRole
  /-- The node in the later segment. -/
  target : NodeRole
  /-- The tags of the pairs, as written. -/
  tags : String
deriving Inhabited

/-- **A junction**: the connectors between neighbouring segments. -/
structure Junction where
  /-- The connectors, in order. -/
  connectors : List Connector := []
deriving Inhabited

/-- A connector with its roles resolved against the unit. -/
structure Wire where
  /-- Index of the node in the earlier segment. -/
  source : Nat
  /-- Index of the node in the later segment. -/
  target : Nat
  /-- Tags of the pairs. -/
  tags : String

namespace Chain

/-- Resolves every connector, from end before to end, and stops at the first failure. -/
def wires (unit : Structure) (j : Junction) : Except Fault (List Wire) :=
  j.connectors.mapM fun c => do
    let a ← c.source.resolve unit
    let b ← c.target.resolve unit
    pure ⟨a, b, c.tags⟩

/-- Segment `i`: the unit tagged `segment i` and moved by `offset * i`. -/
def segment (unit : Structure) (offset : Vec3) (i : Nat) : Structure :=
  (unit.addTags ("segment " ++ Decimal.natText i)).translate (offset * Float32.ofNat i)

/-- Joins segment `i` (nodes `prev`) to segment `i + 1` (nodes `next`) with the wires, the
first of them numbered `k`. -/
def joinSegments (prev next : List Node) (i : Nat) :
    Nat → Structure → List Wire → Except Fault Structure
  | _, chain, [] => .ok chain
  | k, chain, w :: rest =>
    let a := ((prev[w.source]?).map (·.position)).getD .zero
    let b := ((next[w.target]?).map (·.position)).getD .zero
    if a.same b then .error (.coincidentJoint k w.tags i)
    else do
      let (chain, _) ← chain.connect a b w.tags
      joinSegments prev next i (k + 1) chain rest

/-- Wires each junction `(i, earlier, later)` in turn. -/
def joinAll (ws : List Wire) : Structure → List (Nat × Structure × Structure) → Except Fault Structure
  | chain, [] => .ok chain
  | chain, (i, p, q) :: rest => do
    let chain ← joinSegments p.nodes q.nodes i 0 chain ws
    joinAll ws chain rest

end Chain

/-- **Replicates a unit** into a chain of `n` segments moved by multiples of `offset`, joined by
the junction's connectors. -/
def Structure.replicate (unit : Structure) (n : Nat) (offset : Vec3) (j : Junction) :
    Except Fault Structure := do
  let ws ← Chain.wires unit j
  let segs := (List.range n).map fun i => Chain.segment unit offset (i + 1)
  let joints := (List.range' 1 (n - 1)).zip (segs.zip segs.tail)
  Chain.joinAll ws { children := segs } joints

end Tensegrity
