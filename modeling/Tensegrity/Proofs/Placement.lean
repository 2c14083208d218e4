import Tensegrity.Proofs.Preorder
import Tensegrity.Proofs.WellFormed

/-!
# What realization reads

Realization decides which components a tree makes, in what order and with which builder, from
tags alone: a node's or a pair's builder is looked up by its tags, and a pair is refused for its
tags and its builder. Node positions only say where a component stands, how long it is and how
it is turned; a structure's own tags only name the group its parent opens for it.

So moving every node of a tree (`Structure.mapPositions`: translation, rotation and scaling
alike) keeps the faults, the start and the count of every descendant's components, and every
group; each component keeps its kind, its tags and its builder's settings, which
`Component.builtWith` reads back from it, and its frictions and restitution
(`Component.settings`). The laws are stated once for every view of components that is blind to
placement (`Component.PlacementBlind`), and `realize_ignores_positions` reads them off the three
moves. Adding tags to a structure changes neither its
faults, nor its components, nor the groups of its descendants.
-/

namespace Tensegrity

/-- Whatever is made of the value, the first fault stays. -/
theorem Fault.firstOr_map {α β : Type} (fs : List Fault) (a : α) (g : α → β) :
    (Fault.firstOr fs a).map g = Fault.firstOr fs (g a) := by
  cases fs <;> rfl

namespace Component

/-- **What a component was built with**: its tags and its builder, read back from it. A rod
keeps its radius in its cylinder and a sphere in its ball, beside the density and the
frictions; a cable keeps its configuration whole. -/
def builtWith : Component → Tags × Builder
  | .rigid b =>
    match b.shape with
    | .cylinder r _ => (b.tags, .rod ⟨r, b.density, b.friction, b.rollingFriction, b.restitution⟩)
    | .sphere r => (b.tags, .sphere ⟨r, b.density, b.friction⟩)
  | .actuator a => (a.tags, .cable a.config)

@[simp] theorem builtWith_rod (t : Tags) (a b : Vec3) (c : RodConfig) :
    (Component.rigid (.rod t a b c)).builtWith = (t, .rod c) := rfl

@[simp] theorem builtWith_sphere (t : Tags) (p : Vec3) (c : SphereConfig) :
    (Component.rigid (.sphere t p c)).builtWith = (t, .sphere c) := rfl

@[simp] theorem builtWith_cable (t : Tags) (a b : Vec3) (c : CableConfig) :
    (Component.actuator (.new t a b c)).builtWith = (t, .cable c) := rfl

/-- **What a component keeps wherever it stands**: what it was built with, and for a rigid body
its rolling friction and restitution, which a sphere's builder does not set. So two components
with the same settings are of the same kind, with the same tags; two rigid bodies have the same
radius, density, frictions and restitution, and two cables the same configuration. -/
def settings (c : Component) : (Tags × Builder) × Option (Float32 × Float32) :=
  (c.builtWith, c.rigid?.map fun b => (b.rollingFriction, b.restitution))

/-- A view of components is **blind to placement** when two components made by one constructor,
with the same tags and the same builder settings, look the same through it wherever their ends
stand. -/
structure PlacementBlind {β : Type} (v : Component → β) : Prop where
  /-- A rod looks the same whatever its ends. -/
  rod : ∀ t a b a' b' c, v (.rigid (.rod t a b c)) = v (.rigid (.rod t a' b' c))
  /-- A sphere looks the same whatever its centre. -/
  sphere : ∀ t p p' c, v (.rigid (.sphere t p c)) = v (.rigid (.sphere t p' c))
  /-- A cable looks the same whatever its anchors. -/
  cable : ∀ t a b a' b' c, v (.actuator (.new t a b c)) = v (.actuator (.new t a' b' c))

theorem placementBlind_builtWith : PlacementBlind builtWith := ⟨by simp, by simp, by simp⟩

@[simp] theorem settings_rod (t : Tags) (a b : Vec3) (c : RodConfig) :
    (Component.rigid (.rod t a b c)).settings = ((t, .rod c), some (c.rollingFriction, c.restitution)) := rfl

@[simp] theorem settings_sphere (t : Tags) (p : Vec3) (c : SphereConfig) :
    (Component.rigid (.sphere t p c)).settings = ((t, .sphere c), some (0, 0)) := rfl

@[simp] theorem settings_cable (t : Tags) (a b : Vec3) (c : CableConfig) :
    (Component.actuator (.new t a b c)).settings = ((t, .cable c), none) := rfl

theorem placementBlind_settings : PlacementBlind settings := ⟨by simp, by simp, by simp⟩

end Component

namespace Structure

variable (spec : BuildSpec)

/-! ## Moving the nodes -/

variable {β : Type} {v : Component → β}

/-- A pair looks the same, through a view blind to placement, wherever its nodes stand. -/
theorem pairBuilt_view (hv : Component.PlacementBlind v) (s s' : Structure) (p : Pair) :
    (s'.pairBuilt spec p).map v = (s.pairBuilt spec p).map v := by
  unfold pairBuilt
  -- the positions differ, so each case is closed by the view's blindness, never by unfolding
  split
  · exact congrArg some (hv.rod _ _ _ _ _ _)
  · exact congrArg some (hv.cable _ _ _ _ _ _)
  · rfl

/-- A node is given a sphere wherever it stands, and one that looks the same through a view
blind to placement. -/
theorem nodeSpheres_view (hv : Component.PlacementBlind v) (f : Vec3 → Vec3) (s : Structure) :
    (Realization.nodeSpheres spec (s.mapPositions f)).map v = (Realization.nodeSpheres spec s).map v := by
  simp only [Realization.nodeSpheres, mapPositions_nodes, List.map_filterMap, List.filterMap_map]
  refine List.filterMap_congr fun n _ => ?_
  simp only [Function.comp_apply, Node.mapPosition]
  split
  · exact congrArg some (hv.sphere _ _ _ _)
  · rfl

theorem ownComponents_view (hv : Component.PlacementBlind v) (f : Vec3 → Vec3) (s : Structure) :
    ((s.mapPositions f).ownComponents spec).map v = (s.ownComponents spec).map v := by
  simp only [ownComponents, List.map_append, nodeSpheres_view spec hv, mapPositions_pairs,
    List.map_filterMap]
  congr 1
  exact List.filterMap_congr fun p _ => pairBuilt_view spec hv s _ p

@[simp] theorem ownFaults_mapPositions (f : Vec3 → Vec3) (s : Structure) :
    (s.mapPositions f).ownFaults spec = s.ownFaults spec := by
  simp [ownFaults]

/-- **Moving keeps the faults**, in their order. -/
@[simp] theorem faults_mapPositions (f : Vec3 → Vec3) (s : Structure) :
    (s.mapPositions f).faults spec = s.faults spec := by
  simp [faults, subtree_mapPositions, List.flatMap_map]

/-- **Moving keeps how every component looks** through a view blind to placement, component by
component. -/
theorem flatten_view (hv : Component.PlacementBlind v) (f : Vec3 → Vec3) (s : Structure) :
    ((s.mapPositions f).flatten spec).map v = (s.flatten spec).map v := by
  simp only [flatten, subtree_mapPositions, List.flatMap_map, List.map_flatMap, ownComponents_view spec hv]

/-- Moving keeps what every component is built with. -/
theorem flatten_builtWith (f : Vec3 → Vec3) (s : Structure) :
    ((s.mapPositions f).flatten spec).map Component.builtWith = (s.flatten spec).map Component.builtWith :=
  flatten_view spec Component.placementBlind_builtWith f s

@[simp] theorem length_ownComponents_mapPositions (f : Vec3 → Vec3) (s : Structure) :
    ((s.mapPositions f).ownComponents spec).length = (s.ownComponents spec).length := by
  rw [← List.length_map (f := Component.builtWith), ownComponents_view spec Component.placementBlind_builtWith,
    List.length_map]

@[simp] theorem componentCount_mapPositions (f : Vec3 → Vec3) (s : Structure) :
    (s.mapPositions f).componentCount spec = s.componentCount spec := by
  rw [componentCount, componentCount, ← List.length_map (f := Component.builtWith), flatten_builtWith,
    List.length_map]

/-- A descendant's components start at the same place in the moved tree. -/
@[simp] theorem componentStart_mapPositions (f : Vec3 → Vec3) :
    ∀ (s : Structure) (π : List Nat), (s.mapPositions f).componentStart spec π = s.componentStart spec π
  | _, [] => rfl
  | s, i :: π => by
    simp only [componentStart, length_ownComponents_mapPositions, mapPositions_children, ← List.map_take,
      List.map_map, Function.comp_def, componentCount_mapPositions, List.getElem?_map, Option.map_map]
    congr 2
    cases s.children[i]? with
    | none => rfl
    | some c => exact congrArg some (componentStart_mapPositions f c π)

@[simp] theorem groupOf_mapPositions (f : Vec3 → Vec3) (start : Nat) (d : Structure) :
    groupOf spec start (d.mapPositions f) = groupOf spec start d := by
  simp [groupOf]

/-- **Realizing a moved tree**: it fails exactly when the tree does, with the same fault; when
it succeeds, its components look, through any view blind to placement, as the tree's do, in the
same order, and its groups are the same. -/
theorem realize_mapPositions (hv : Component.PlacementBlind v) (f : Vec3 → Vec3) (s : Structure) :
    ((s.mapPositions f).realize spec).map (fun R => (R.components.map v, R.groups)) =
      (s.realize spec).map fun R => (R.components.map v, R.groups) := by
  rw [realize_eq, realize_eq, Fault.firstOr_map, Fault.firstOr_map, faults_mapPositions]
  simp only [flatten_view spec hv, descendants_mapPositions, List.map_map, Function.comp_def,
    componentStart_mapPositions, groupOf_mapPositions]

/-! ## Adding tags -/

@[simp] theorem tags_addTags (s : Structure) (t : String) : (s.addTags t).tags = s.tags.add t := rfl

@[simp] theorem ownComponents_addTags (s : Structure) (t : String) :
    (s.addTags t).ownComponents spec = s.ownComponents spec := rfl

@[simp] theorem children_addTags (s : Structure) (t : String) : (s.addTags t).children = s.children := rfl

/-- A structure's own tags make no component. -/
@[simp] theorem flatten_addTags (s : Structure) (t : String) : (s.addTags t).flatten spec = s.flatten spec := by
  rw [flatten_eq, flatten_eq, ownComponents_addTags, children_addTags]

@[simp] theorem faults_addTags (s : Structure) (t : String) : (s.addTags t).faults spec = s.faults spec := by
  rw [faults_eq, faults_eq, children_addTags]
  rfl

@[simp] theorem componentCount_addTags (s : Structure) (t : String) :
    (s.addTags t).componentCount spec = s.componentCount spec := by
  simp [componentCount]

@[simp] theorem componentStart_addTags (s : Structure) (t : String) (π : List Nat) :
    (s.addTags t).componentStart spec π = s.componentStart spec π := by
  cases π <;> rfl

@[simp] theorem descendants_addTags (s : Structure) (t : String) : (s.addTags t).descendants = s.descendants := by
  rw [descendants_eq, descendants_eq, children_addTags]

/-! ## Moving a tree does not change what it realizes -/

/-- **Two trees realize alike** under a specification: the second fails exactly when the first
does, with the same fault, and when both succeed their components have the same settings, in
the same order, and their groups are the same. -/
def RealizesAlike (s s' : Structure) : Prop :=
  (∀ e, s'.realize spec = .error e ↔ s.realize spec = .error e) ∧
  ∀ R R', s.realize spec = .ok R → s'.realize spec = .ok R' →
    R'.components.map Component.settings = R.components.map Component.settings ∧ R'.groups = R.groups

/-- Two computations that give the same result once their values are mapped fail alike. -/
theorem eq_error_iff_of_map_eq {ε α γ : Type} {x y : Except ε α} {g : α → γ} (h : x.map g = y.map g)
    (e : ε) : x = .error e ↔ y = .error e := by
  cases x <;> cases y <;> simp_all [Except.map]

theorem realizesAlike_mapPositions (f : Vec3 → Vec3) (s : Structure) :
    RealizesAlike spec s (s.mapPositions f) := by
  have h := realize_mapPositions spec Component.placementBlind_settings f s
  refine ⟨eq_error_iff_of_map_eq h, fun R R' hR hR' => ?_⟩
  rw [hR, hR'] at h
  simpa [Except.map] using h

/-- **Realization does not read positions.** Translating, rotating or scaling a tree, by any
vector, quaternion or factor – NaN and infinities included – changes neither whether it
realizes nor its fault; moved, a tree that realizes gives as many components, of the same kinds,
with the same tags and settings, in the same order, and the same groups. So no member is ever
refused or dropped for being degenerate. -/
theorem realize_ignores_positions (s : Structure) (o p p' : Vec3) (q : Quat) (k : Float32) :
    RealizesAlike spec s (s.translate o) ∧ RealizesAlike spec s (s.rotate p q) ∧
      RealizesAlike spec s (s.scale p' k) :=
  ⟨realizesAlike_mapPositions spec _ s, realizesAlike_mapPositions spec _ s,
    realizesAlike_mapPositions spec _ s⟩

end Structure

end Tensegrity
