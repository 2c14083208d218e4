import Tensegrity.Structure.Basic
import Tensegrity.BuildSpec
import Tensegrity.Component

/-!
# Realization

Realizing a structure under a build specification turns it into a list of components and a
list of groups. The tree is walked in pre-order: a structure gives first a sphere for each node
that has a node builder, in node order, then one component for each pair, in pair order, and
then the components of its children in order. A pair whose best pair builder is a rod becomes a
rod, one whose best builder is a cable becomes an actuator once the cable's parameters pass
`CableConfig.validate`, and a pair with no pair builder stops the walk with `unbound`.

Each child opens a group, listed before the groups of its own children, that holds the ids of
the contiguous run of components realized within that child.
-/

namespace Tensegrity

/-- **A named set of components**: the ids realized within one child structure. -/
structure Group where
  /-- The child structure's tags. -/
  tags : Tags
  /-- Component ids, ascending. -/
  components : List Nat
deriving Inhabited

/-- **The result of realizing a structure.** -/
structure Realization where
  /-- Components in pre-order. -/
  components : List Component := []
  /-- One group per proper descendant, in pre-order. -/
  groups : List Group := []
deriving Inhabited

namespace Realization

/-- The spheres of a structure's nodes, for nodes that have a node builder. -/
def nodeSpheres (spec : BuildSpec) (s : Structure) : List Component :=
  s.nodes.filterMap fun n =>
    match spec.bestNode n.tags with
    | some (_, .sphere c) => some (.rigid (.sphere n.tags n.position c))
    | _ => none

/-- **The component of a pair**: a rod or a validated cable from its best pair builder. -/
def pairComponent (spec : BuildSpec) (s : Structure) (p : Pair) : Except Fault Component :=
  let (a, b) := s.pairEnds p
  match spec.bestPair p.tags with
  | some (_, .rod c) => .ok (.rigid (.rod p.tags a b c))
  | some (_, .cable c) => do
    c.validate
    pure (.actuator (.new p.tags a b c))
  | _ => .error (.unbound p.tags)

mutual

/-- Realizes a structure after what is already in `acc`. -/
def extend (spec : BuildSpec) : Structure → Realization → Except Fault Realization
  | s@⟨_, _, _, children⟩, acc => do
    let pcs ← s.pairs.mapM (pairComponent spec s)
    let acc := { acc with components := acc.components ++ nodeSpheres spec s ++ pcs }
    extendChildren spec children acc

/-- Realizes children in order, each opening its group before its own components. -/
def extendChildren (spec : BuildSpec) : List Structure → Realization → Except Fault Realization
  | [], acc => .ok acc
  | c :: cs, acc => do
    let start := acc.components.length
    let slot := acc.groups.length
    let acc' ← extend spec c { acc with groups := acc.groups ++ [⟨c.tags, []⟩] }
    let ids := List.range' start (acc'.components.length - start)
    extendChildren spec cs { acc' with groups := acc'.groups.set slot ⟨c.tags, ids⟩ }

end

end Realization

/-- **Realizes a structure** under a build specification. -/
def Structure.realize (s : Structure) (spec : BuildSpec) : Except Fault Realization :=
  Realization.extend spec s {}

end Tensegrity
