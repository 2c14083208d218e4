import Tensegrity.Document
import Tensegrity.Proofs.Building
import Tensegrity.Proofs.WellFormed

/-!
# Described models always build

A description names its rods and its muscles by one-based node numbers and gives one set of
parameters for all rods and one for all muscles. Its build specification has two builders, a
rod under `rod` and a cable under `muscle`, and its structure tags every rod `rod` and every
muscle `muscle`, so each pair finds its own builder and no node finds one. The cable of a
description takes only stiffness, damping and pretension; its target velocity keeps its
default, which is finite and positive, so it always validates. Building a described structure
therefore never fails, whatever the parameters are – NaN, negative and zero included.

This module states the model such a build gives (`describedModel_builds`): one rod for each rod
entry and then one actuator for each muscle entry, in entry order, each between the lifted
positions of its two nodes and with the description's parameters, no sphere and no group; and
this is what building a model from its description gives.
-/

namespace Tensegrity

/-- **A cable made from stiffness, damping and pretension alone always validates**: its target
velocity is the default, which is finite and positive. -/
theorem CableConfig.validate_new (k dmp p : Float32) : (CableConfig.new k dmp p).validate = .ok () := by
  have hvelocity : ((CableConfig.new k dmp p).targetVelocity.isFinite &&
      decide ((CableConfig.new k dmp p).targetVelocity ≥ 0)) = true := by
    show ((100 : Float32).isFinite && decide ((100 : Float32) ≥ 0)) = true
    decide
  unfold CableConfig.validate
  rw [if_pos hvelocity]

namespace Description

/-- The position a node entry gives. -/
def entryPosition (c : Float32 × Float32 × Float32) : Vec3 := ⟨c.1, c.2.1, c.2.2⟩

/-- **Where one-based node `k` stands** once the structure is moved by `lift`. -/
def liftedNode (d : Description) (lift : Vec3) (k : Nat) : Vec3 :=
  ((d.nodes[k - 1]?).map fun c => entryPosition c + lift).getD .zero

/-- **The rod of a rod entry**: between its two nodes, with the description's rod parameters. -/
def rodOf (d : Description) (lift : Vec3) (e : Nat × Nat) : Component :=
  .rigid (.rod (Tags.parse "rod") (d.liftedNode lift e.1) (d.liftedNode lift e.2) (.new d.rodRadius d.rodDensity))

/-- **The actuator of a muscle entry**: between its two nodes, with the description's muscle
parameters. -/
def muscleOf (d : Description) (lift : Vec3) (e : Nat × Nat) : Component :=
  .actuator (.new (Tags.parse "muscle") (d.liftedNode lift e.1) (d.liftedNode lift e.2)
    (.new d.stiffness d.damping d.pretension))

/-- **The described components**: the rods, then the muscles, each in entry order. -/
def components (d : Description) (lift : Vec3) : List Component :=
  d.rods.map (d.rodOf lift) ++ d.muscles.map (d.muscleOf lift)

/-- **The described structure**: the nodes, untagged, then the rods tagged `rod` and the muscles
tagged `muscle`, each joining its two nodes counted from zero. -/
def structureOf (d : Description) : Structure where
  nodes := d.nodes.map fun c => .ofPosition (entryPosition c)
  pairs := d.rods.map (fun e => ⟨e.1 - 1, e.2 - 1, Tags.parse "rod"⟩) ++
    d.muscles.map fun e => ⟨e.1 - 1, e.2 - 1, Tags.parse "muscle"⟩

/-! ## The described structure -/

/-- Adding nodes one by one appends them. -/
theorem foldl_appendNodes {α : Type} (f : Structure → α → Structure) (g : α → Node)
    (hf : ∀ s a, f s a = { s with nodes := s.nodes ++ [g a] }) (as : List α) (s : Structure) :
    as.foldl f s = { s with nodes := s.nodes ++ as.map g } := by
  induction as generalizing s with
  | nil =>
    cases s
    simp
  | cons a as ih =>
    rw [List.foldl_cons, ih, hf]
    simp

/-- **The entries of one list become pairs**, in order, each joining its two nodes counted from
zero; each entry names two existing nodes by numbers from one. -/
theorem addEntries_eq_ok {tag : String} (es : List (Nat × Nat)) :
    ∀ {i : Nat} {s s' : Structure}, addEntries tag i s es = .ok s' →
      s' = { s with pairs := s.pairs ++ es.map fun e => ⟨e.1 - 1, e.2 - 1, Tags.parse tag⟩ } ∧
      ∀ e ∈ es, 0 < e.1 ∧ 0 < e.2 ∧ e.1 ≤ s.nodes.length ∧ e.2 ≤ s.nodes.length := by
  induction es with
  | nil =>
    intro i s s' h
    cases h
    cases s
    simp
  | cons e rest ih =>
    intro i s s' h
    obtain ⟨a, b⟩ := e
    simp only [addEntries] at h
    split at h
    · cases h
    · -- the entry's pair is added, and the rest go after it on the same nodes
      obtain ⟨⟨s₁, k⟩, hadd, hrest⟩ := exists_of_bind_eq_ok h
      obtain ⟨-, ha, hb, rfl, -⟩ := Structure.addPair_eq_ok_iff.1 hadd
      obtain ⟨rfl, hin⟩ := ih hrest
      refine ⟨by simp, fun e he => ?_⟩
      rcases List.mem_cons.1 he with rfl | he
      · exact ⟨by omega, by omega, by omega, by omega⟩
      · exact hin e he

/-- **A description makes the described structure**, and every entry names two existing
nodes. -/
theorem toStructure_eq_ok {d : Description} {s : Structure} (h : d.toStructure = .ok s) :
    s = d.structureOf ∧
    ∀ e ∈ d.rods ++ d.muscles, 0 < e.1 ∧ 0 < e.2 ∧ e.1 ≤ d.nodes.length ∧ e.2 ≤ d.nodes.length := by
  unfold toStructure at h
  rw [foldl_appendNodes _ (fun c => .ofPosition (entryPosition c)) (fun s c => by obtain ⟨x, y, z⟩ := c; rfl)] at h
  obtain ⟨s₁, hrods, hmuscles⟩ := exists_of_bind_eq_ok h
  obtain ⟨rfl, hinr⟩ := addEntries_eq_ok _ hrods
  obtain ⟨rfl, hinm⟩ := addEntries_eq_ok _ hmuscles
  refine ⟨by simp [Structure.empty, structureOf], ?_⟩
  intro e he
  rcases List.mem_append.1 he with he | he
  · simpa [Structure.empty] using hinr e he
  · simpa [Structure.empty] using hinm e he

/-! ## The described specification -/

/-- A rod finds the rod builder. -/
theorem bestPair_rod (d : Description) :
    d.buildSpec.bestPair (Tags.parse "rod") = some (Tags.parse "rod", .rod (.new d.rodRadius d.rodDensity)) :=
  rfl

/-- A muscle finds the cable builder. -/
theorem bestPair_muscle (d : Description) :
    d.buildSpec.bestPair (Tags.parse "muscle") =
      some (Tags.parse "muscle", .cable (.new d.stiffness d.damping d.pretension)) :=
  rfl

/-- No node finds a builder: both builders are built on pairs. -/
theorem bestNode_eq_none (d : Description) (t : Tags) : d.buildSpec.bestNode t = none := by
  rw [BuildSpec.bestNode, BuildSpec.bestMatch_eq_none_iff]
  intro e he happ
  have hentries : d.buildSpec.entries =
      [(Tags.parse "muscle", .cable (.new d.stiffness d.damping d.pretension)),
        (Tags.parse "rod", .rod (.new d.rodRadius d.rodDensity))] := rfl
  rw [hentries] at he
  rcases List.mem_pair.1 he with rfl | rfl <;> simp [BuildSpec.Applies, Builder.forPairs] at happ

/-! ## Realizing a described structure -/

/-- Node `k - 1` of the moved structure stands at the lifted position of node number `k`. -/
theorem positionOf_translate (d : Description) (lift : Vec3) (k : Nat) :
    (d.structureOf.translate lift).positionOf (k - 1) = d.liftedNode lift k := by
  simp only [Structure.positionOf, Structure.translate, Structure.mapPositions_nodes, List.getElem?_map,
    liftedNode, structureOf, Option.map_map]
  rfl

/-- **A described structure, moved, realizes into the described components**, with no group. -/
theorem realize_translate {d : Description} {s : Structure} (hs : d.toStructure = .ok s) (lift : Vec3) :
    (s.translate lift).realize d.buildSpec = .ok ⟨d.components lift, []⟩ := by
  obtain ⟨rfl, -⟩ := toStructure_eq_ok hs
  set s' : Structure := d.structureOf.translate lift
  have hchildren : s'.children = [] := by simp [s', structureOf, Structure.translate]
  have hpairs : s'.pairs = d.rods.map (fun e => ⟨e.1 - 1, e.2 - 1, Tags.parse "rod"⟩) ++
      d.muscles.map fun e => ⟨e.1 - 1, e.2 - 1, Tags.parse "muscle"⟩ := by
    simp [s', structureOf, Structure.translate]
  -- every pair is a rod or a muscle, and each finds its own builder
  have hrod : ∀ e : Nat × Nat, s'.pairBuilt d.buildSpec ⟨e.1 - 1, e.2 - 1, Tags.parse "rod"⟩ =
      some (d.rodOf lift e) := by
    intro e
    simp only [Structure.pairBuilt, bestPair_rod, rodOf]
    rw [← positionOf_translate d lift e.1, ← positionOf_translate d lift e.2]
  have hmuscle : ∀ e : Nat × Nat, s'.pairBuilt d.buildSpec ⟨e.1 - 1, e.2 - 1, Tags.parse "muscle"⟩ =
      some (d.muscleOf lift e) := by
    intro e
    simp only [Structure.pairBuilt, bestPair_muscle, muscleOf]
    rw [← positionOf_translate d lift e.1, ← positionOf_translate d lift e.2]
  have hfaults : s'.faults d.buildSpec = [] := by
    rw [Structure.faults_eq, hchildren, List.flatMap_nil, List.append_nil, Structure.ownFaults,
      List.filterMap_eq_nil_iff]
    intro p hp
    simp only [hpairs, List.mem_append, List.mem_map] at hp
    rcases hp with ⟨e, -, rfl⟩ | ⟨e, -, rfl⟩
    · simp [BuildSpec.pairFault, bestPair_rod]
    · simp [BuildSpec.pairFault, bestPair_muscle, CableConfig.validate_new]
  have hflatten : s'.flatten d.buildSpec = d.components lift := by
    rw [Structure.flatten_eq, hchildren, List.flatMap_nil, List.append_nil, Structure.ownComponents]
    have hspheres : Realization.nodeSpheres d.buildSpec s' = [] := by
      simp [Realization.nodeSpheres, bestNode_eq_none]
    rw [hspheres, List.nil_append, hpairs, List.filterMap_append, List.filterMap_map, List.filterMap_map]
    simp only [Function.comp_def, hrod, hmuscle, List.filterMap_eq_map', components]
  rw [Structure.realize_eq, hfaults, hflatten, Structure.descendants_eq, hchildren]
  rfl

/-- **Described models always build.** Every entry of a description whose structure can be
made names two existing nodes. Moved by any lift and realized with the description's own
builders, the structure gives one rod for each rod entry and then one actuator for each muscle
entry, in entry order: the rod with the description's radius and density and the actuator with
its stiffness, damping and pretension, each between the lifted positions of its two nodes, and
no sphere and no group – whatever the parameters are. Building it into any model that is not
built succeeds, installs these components in order with consecutive handles and adopts them,
and building a model from its description gives exactly that model. -/
theorem describedModel_builds {d : Description} {s : Structure} (hs : d.toStructure = .ok s) (lift : Vec3) :
    (∀ e ∈ d.rods ++ d.muscles, 0 < e.1 ∧ 0 < e.2 ∧ e.1 ≤ d.nodes.length ∧ e.2 ≤ d.nodes.length) ∧
    (s.translate lift).realize d.buildSpec = .ok ⟨d.components lift, []⟩ ∧
    (∀ (m : Model) (w : World), m.built = false →
      m.buildInto (s.translate lift) d.buildSpec w = .ok
        ({ m with
            components := (d.components lift).mapIdx fun i c => c.withHandle (w.nextHandle + i)
            groups := []
            built := true }, (w.installAll (d.components lift)).1)) ∧
    (∀ (config : ModelConfig) (w : World) (fetch : String → Except FileProblem String) (path text : String),
      config.descriptionPath = some path → fetch path = .ok text → Description.ofJson text = .ok d →
      config.lift = lift →
      Model.fromDescription config w fetch = .ok
        ({ Model.new config with
            components := (d.components lift).mapIdx fun i c => c.withHandle (w.nextHandle + i)
            groups := []
            built := true }, (w.installAll (d.components lift)).1)) := by
  have hrealize := realize_translate hs lift
  -- building is installing what realization gives
  have hbuild : ∀ (m : Model) (w : World), m.built = false →
      m.buildInto (s.translate lift) d.buildSpec w = .ok
        ({ m with
            components := (d.components lift).mapIdx fun i c => c.withHandle (w.nextHandle + i)
            groups := []
            built := true }, (w.installAll (d.components lift)).1) := by
    intro m w hm
    rw [Model.buildInto_eq_ok hm hrealize, World.installAll_snd]
  refine ⟨(toStructure_eq_ok hs).2, hrealize, hbuild, ?_⟩
  intro config w fetch path text hpath hfetch hjson hlift
  subst hlift
  -- every step before the build succeeds
  have hjson' : Description.ofJson text = pure d := hjson
  have hs' : d.toStructure = pure s := hs
  unfold Model.fromDescription
  simp only [hpath, pure_bind, hfetch, hjson', hs']
  exact hbuild (Model.new config) w rfl

/-- Three nodes: a rod from the first to the second, and a muscle from the second to the third
whose stiffness is zero. -/
def rodAndMuscle : Description where
  nodes := [(0, 0, 0), (0, 5, 0), (5, 0, 0)]
  rods := [(1, 2)]
  muscles := [(2, 3)]
  rodRadius := 0.5
  rodDensity := 1
  stiffness := 0
  damping := 10
  pretension := 100

/-- The rod-and-muscle description makes its structure, and lifted by ten it realizes into its
rod, then its muscle, though the muscle has no stiffness. -/
theorem rodAndMuscle_builds :
    rodAndMuscle.toStructure = .ok rodAndMuscle.structureOf ∧
    (rodAndMuscle.structureOf.translate ⟨0, 10, 0⟩).realize rodAndMuscle.buildSpec =
      .ok ⟨[rodAndMuscle.rodOf ⟨0, 10, 0⟩ (1, 2), rodAndMuscle.muscleOf ⟨0, 10, 0⟩ (2, 3)], []⟩ :=
  have hs : rodAndMuscle.toStructure = .ok rodAndMuscle.structureOf := rfl
  ⟨hs, (describedModel_builds hs ⟨0, 10, 0⟩).2.1⟩

end Description

end Tensegrity
