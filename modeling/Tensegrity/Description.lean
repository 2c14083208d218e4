import Tensegrity.Structure.Basic
import Tensegrity.BuildSpec

/-!
# Descriptions

A description lists a structure's nodes by their coordinates, its rods and its muscles as pairs
of one-based node numbers, and one set of parameters for all rods and one for all muscles.
It gives a structure, with the rods (tagged `rod`) before the muscles (tagged `muscle`), and a
build specification with a rod builder under `rod` and a cable builder under `muscle`.

A node number zero is refused before anything else is checked for its entry; an entry whose
numbers are equal or past the last node is refused as an invalid pair.
-/

namespace Tensegrity

/-- **A structure description.** -/
structure Description where
  /-- Node coordinates, in order. -/
  nodes : List (Float32 × Float32 × Float32)
  /-- Rods, as pairs of one-based node numbers. -/
  rods : List (Nat × Nat)
  /-- Muscles, as pairs of one-based node numbers. -/
  muscles : List (Nat × Nat)
  /-- Rod radius. -/
  rodRadius : Float32
  /-- Rod density. -/
  rodDensity : Float32
  /-- Muscle stiffness. -/
  stiffness : Float32
  /-- Muscle damping. -/
  damping : Float32
  /-- Muscle pretension. -/
  pretension : Float32
deriving Inhabited

namespace Description

/-- Adds the entries of one list as pairs tagged `tag`, the first numbered `i`. -/
def addEntries (tag : String) : Nat → Structure → List (Nat × Nat) → Except Fault Structure
  | _, s, [] => .ok s
  | i, s, (a, b) :: rest =>
    if a = 0 ∨ b = 0 then .error (.zeroNodeNumber tag i a b)
    else do
      let (s, _) ← s.addPair (a - 1) (b - 1) tag
      addEntries tag (i + 1) s rest

/-- **The described structure**: the nodes, then the rods, then the muscles. -/
def toStructure (d : Description) : Except Fault Structure := do
  let s := d.nodes.foldl (fun s (x, y, z) => (s.addNode ⟨x, y, z⟩).1) Structure.empty
  let s ← addEntries "rod" 0 s d.rods
  addEntries "muscle" 0 s d.muscles

/-- **The described build specification**: one rod and one cable builder. -/
def buildSpec (d : Description) : BuildSpec :=
  (BuildSpec.empty.add "rod" (.rod (.new d.rodRadius d.rodDensity))).add "muscle"
    (.cable (.new d.stiffness d.damping d.pretension))

end Description

end Tensegrity
