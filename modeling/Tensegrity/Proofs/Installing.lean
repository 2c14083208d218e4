import Mathlib
import Tensegrity.Proofs.Lifecycle

/-!
# Installing a build into a world

A world hands out handles from one counter shared by rigid bodies and actuators, and keeps a
copy of each component it is given, taken before the component learns its handle. Installing a
list of components is a run of single installs, and each install appends one copy to the list of
its kind and moves the counter on by one (`World.install_eq`). So a run keeps the rigid bodies
and the actuators of the list in order after the old ones, and moves the counter past one
handle per component (`World.installAll_fst`); a world whose counter counts what it holds
(`World.Counted`), as a new one does, keeps doing so, and the handles of a run are consecutive,
hence distinct.

A successful build installs the realized components in realization order, so component `i`
carries handle `h₀ + i` for the world's next handle `h₀`; the copies kept by the world carry
none, since realization builds every component without one
(`Structure.handle_of_mem_flatten`).
-/

namespace Tensegrity

namespace Component

@[simp] theorem rigid?_rigid (b : RigidBody) : (Component.rigid b).rigid? = some b := rfl

@[simp] theorem rigid?_actuator (a : Actuator) : (Component.actuator a).rigid? = none := rfl

@[simp] theorem actuator?_rigid (b : RigidBody) : (Component.rigid b).actuator? = none := rfl

@[simp] theorem actuator?_actuator (a : Actuator) : (Component.actuator a).actuator? = some a := rfl

/-- The rigid bodies picked out of a list are components of it. -/
theorem rigid_mem_of_mem_filterMap {cs : List Component} {b : RigidBody} (hb : b ∈ cs.filterMap rigid?) :
    Component.rigid b ∈ cs := by
  obtain ⟨c, hc, hcb⟩ := List.mem_filterMap.1 hb
  cases c with
  | rigid b' =>
    cases hcb
    exact hc
  | actuator a => cases hcb

/-- The actuators picked out of a list are components of it. -/
theorem actuator_mem_of_mem_filterMap {cs : List Component} {a : Actuator} (ha : a ∈ cs.filterMap actuator?) :
    Component.actuator a ∈ cs := by
  obtain ⟨c, hc, hca⟩ := List.mem_filterMap.1 ha
  cases c with
  | rigid b => cases hca
  | actuator a' =>
    cases hca
    exact hc

end Component

namespace World

/-- **The handle counter counts the installed components**: the next handle is the number of
rigid bodies and actuators the world holds. -/
def Counted (w : World) : Prop := w.nextHandle = w.rigids.length + w.actuators.length

/-- **One install** keeps a copy of the component, with the handle it had, after those of its
kind, and hands out the next handle. -/
theorem install_eq (w : World) (c : Component) :
    w.install c =
      ({ w with
          rigids := w.rigids ++ c.rigid?.toList
          actuators := w.actuators ++ c.actuator?.toList
          nextHandle := w.nextHandle + 1 }, w.nextHandle) := by
  cases c <;> simp [install]

/-- Every component is a rigid body or an actuator, so a list has as many of both as it has
components. -/
theorem length_rigids_add_actuators (cs : List Component) :
    (cs.filterMap Component.rigid?).length + (cs.filterMap Component.actuator?).length = cs.length := by
  induction cs with
  | nil => rfl
  | cons c cs ih => cases c <;> simp [List.filterMap] <;> omega

/-- **A run of installs** keeps the rigid bodies and the actuators of the list, in order, after
the old ones, and moves the counter past one handle for each component. -/
theorem installAll_fst (w : World) (cs : List Component) :
    (w.installAll cs).1 =
      { w with
        rigids := w.rigids ++ cs.filterMap Component.rigid?
        actuators := w.actuators ++ cs.filterMap Component.actuator?
        nextHandle := w.nextHandle + cs.length } := by
  induction cs generalizing w with
  | nil => simp [installAll]
  | cons c cs ih =>
    -- the first install, then the rest of the run from the world it leaves
    simp only [installAll, install_eq, ih]
    cases c <;> simp [List.filterMap, Nat.add_assoc, Nat.add_comm 1]

/-- **A run keeps the counter counting.** -/
theorem Counted.installAll {w : World} (h : w.Counted) (cs : List Component) : (w.installAll cs).1.Counted := by
  have hlen := length_rigids_add_actuators cs
  rw [installAll_fst]
  unfold Counted at h ⊢
  simp only [List.length_append]
  omega

/-- **The handles of a run** are the consecutive numbers from the world's next handle. -/
theorem installAll_handles (w : World) (cs : List Component) :
    (w.installAll cs).2.map Component.handle = (List.range' w.nextHandle cs.length).map some := by
  rw [installAll_snd]
  apply List.ext_getElem
  · simp
  · intro i h₁ h₂
    simp

end World

namespace Structure

/-- **A component is realized without a handle**: spheres, rods and cables are all built
with none. -/
theorem handle_of_mem_ownComponents {spec : BuildSpec} {t : Structure} {c : Component}
    (hc : c ∈ t.ownComponents spec) : c.handle = none := by
  rcases List.mem_append.1 hc with hc | hc
  · obtain ⟨n, -, hn⟩ := List.mem_filterMap.1 hc
    split at hn
    · cases hn
      rfl
    · cases hn
  · obtain ⟨p, -, hp⟩ := List.mem_filterMap.1 hc
    unfold pairBuilt at hp
    split at hp
    · cases hp
      rfl
    · cases hp
      rfl
    · cases hp

theorem handle_of_mem_flatten {spec : BuildSpec} {s : Structure} {c : Component} (hc : c ∈ s.flatten spec) :
    c.handle = none := by
  obtain ⟨t, -, ht⟩ := List.mem_flatMap.1 hc
  exact handle_of_mem_ownComponents ht

/-- A realization that succeeds lists the flattening. -/
theorem components_of_realize_eq_ok {s : Structure} {spec : BuildSpec} {R : Realization}
    (h : s.realize spec = .ok R) : R.components = s.flatten spec := by
  rw [realize_eq, Fault.firstOr_eq_ok] at h
  obtain ⟨-, rfl⟩ := h
  rfl

end Structure

namespace Model

/-- **A 32-bit counter does not wrap below its size**: counting up from `h` by `i` in 32 bits
reaches `h + i` while that stays below `2 ^ 32`. -/
theorem toNat_ofNat_add_ofNat {h i : Nat} (hb : h + i < UInt32.size) :
    (UInt32.ofNat h + UInt32.ofNat i).toNat = h + i := by
  have hsize : UInt32.size = 2 ^ 32 := rfl
  rw [UInt32.toNat_add, UInt32.toNat_ofNat', UInt32.toNat_ofNat']
  rw [Nat.mod_eq_of_lt (by omega), Nat.mod_eq_of_lt (by omega), Nat.mod_eq_of_lt (by omega)]

/-- **A build into a model that is not built installs every component, in order.** When
realizing the structure succeeds, the build succeeds. Component `i` of the model is component
`i` of the realization with the handle `h₀ + i`, where `h₀` is the world's next handle; the
groups are the realization's, the model is built, and its labels, markers, time, observers and
settings are kept. The world keeps, after its old ones, the rigid bodies of the realization in
order and its actuators in order, as copies without a handle, and its counter moves on by the
number of components. A world whose counter counts what it holds still does, and over any run
of installs a world hands out consecutive, hence distinct, handles. Handles are 32-bit: while the
last counter value `h₀ + k`, for `k` components, stays below `2 ^ 32`, counting up in 32 bits
gives exactly these handles and this counter, with no wrap. -/
theorem buildInto_installs_in_order {m : Model} {w : World} {s : Structure} {spec : BuildSpec}
    {R : Realization} (hm : m.built = false) (hR : s.realize spec = .ok R) :
    ∃ m' w', m.buildInto s spec w = .ok (m', w') ∧
      m'.components.length = R.components.length ∧
      (∀ i (c : Component), R.components[i]? = some c → m'.components[i]? = some (c.withHandle (w.nextHandle + i))) ∧
      m'.groups = R.groups ∧ m'.built = true ∧ m'.bindings = m.bindings ∧ m'.markers = m.markers ∧
      m'.elapsed = m.elapsed ∧ m'.observers = m.observers ∧ m'.config = m.config ∧
      w'.rigids = w.rigids ++ R.components.filterMap Component.rigid? ∧
      w'.actuators = w.actuators ++ R.components.filterMap Component.actuator? ∧
      (∀ b ∈ R.components.filterMap Component.rigid?, b.handle = none) ∧
      (∀ a ∈ R.components.filterMap Component.actuator?, a.handle = none) ∧
      w'.nextHandle = w.nextHandle + R.components.length ∧ w'.gravity = w.gravity ∧
      (w.Counted → w'.Counted) ∧
      (∀ (w₀ : World) (cs : List Component), w₀.Counted →
        (w₀.installAll cs).1.Counted ∧ ((w₀.installAll cs).2.map Component.handle).Nodup) ∧
      (w.nextHandle + R.components.length < UInt32.size →
        ∀ i ≤ R.components.length, (UInt32.ofNat w.nextHandle + UInt32.ofNat i).toNat = w.nextHandle + i) := by
  have hnone : ∀ c ∈ R.components, c.handle = none := by
    rw [Structure.components_of_realize_eq_ok hR]
    exact fun c hc => Structure.handle_of_mem_flatten hc
  have hworld := World.installAll_fst w R.components
  refine ⟨_, _, buildInto_eq_ok hm hR, by simp [World.installAll_snd], fun i c hc => ?_, rfl, rfl, rfl, rfl,
    rfl, rfl, rfl, by rw [hworld], by rw [hworld],
    fun b hb => hnone _ (Component.rigid_mem_of_mem_filterMap hb),
    fun a ha => hnone _ (Component.actuator_mem_of_mem_filterMap ha), by rw [hworld],
    by rw [hworld], fun h => h.installAll R.components, fun w₀ cs h₀ => ⟨h₀.installAll cs, ?_⟩,
    fun hb i hi => toNat_ofNat_add_ofNat (by omega)⟩
  · -- component `i` was installed `i`-th
    obtain ⟨hi, rfl⟩ := List.getElem?_eq_some_iff.1 hc
    simp [World.installAll_snd, hi]
  · rw [World.installAll_handles]
    exact (List.nodup_range' (s := w₀.nextHandle)).map (Option.some_injective _)

/-- Three nodes joined by a rod, a muscle, then another rod. -/
def rodsAndMuscle : Structure :=
  { nodes := [.ofPosition ⟨0, 0, 0⟩, .ofPosition ⟨0, 5, 0⟩, .ofPosition ⟨5, 0, 0⟩],
    pairs := [⟨0, 1, Tags.parse "rod"⟩, ⟨1, 2, Tags.parse "muscle"⟩, ⟨2, 0, Tags.parse "rod"⟩] }

/-- Rods for the tag `rod` and cables for the tag `muscle`. -/
def rodMuscleSpec : BuildSpec :=
  (BuildSpec.empty.add "rod" (.rod {})).add "muscle" (.cable (.new 1000 10 0))

/-- **Rigid bodies and actuators share one counter.** Building a rod, a muscle and a rod into a
new model and a new world gives them the handles `0`, `1` and `2`; the world keeps the two rods
and the muscle apart, and its counter moves on to `3`. -/
theorem rods_and_muscle_share_handles :
    (Model.new {}).built = false ∧
      rodsAndMuscle.realize rodMuscleSpec = .ok ⟨[.rigid (.rod (Tags.parse "rod") ⟨0, 0, 0⟩ ⟨0, 5, 0⟩ {}),
        .actuator (.new (Tags.parse "muscle") ⟨0, 5, 0⟩ ⟨5, 0, 0⟩ (.new 1000 10 0)),
        .rigid (.rod (Tags.parse "rod") ⟨5, 0, 0⟩ ⟨0, 0, 0⟩ {})], []⟩ ∧
      ∃ m' w', (Model.new {}).buildInto rodsAndMuscle rodMuscleSpec {} = .ok (m', w') ∧
        m'.components = [(Component.rigid (.rod (Tags.parse "rod") ⟨0, 0, 0⟩ ⟨0, 5, 0⟩ {})).withHandle 0,
          (Component.actuator (.new (Tags.parse "muscle") ⟨0, 5, 0⟩ ⟨5, 0, 0⟩ (.new 1000 10 0))).withHandle 1,
          (Component.rigid (.rod (Tags.parse "rod") ⟨5, 0, 0⟩ ⟨0, 0, 0⟩ {})).withHandle 2] ∧
        w'.rigids = [.rod (Tags.parse "rod") ⟨0, 0, 0⟩ ⟨0, 5, 0⟩ {}, .rod (Tags.parse "rod") ⟨5, 0, 0⟩ ⟨0, 0, 0⟩ {}] ∧
        w'.actuators = [.new (Tags.parse "muscle") ⟨0, 5, 0⟩ ⟨5, 0, 0⟩ (.new 1000 10 0)] ∧ w'.nextHandle = 3 := by
  have hR : rodsAndMuscle.realize rodMuscleSpec = .ok ⟨[.rigid (.rod (Tags.parse "rod") ⟨0, 0, 0⟩ ⟨0, 5, 0⟩ {}),
      .actuator (.new (Tags.parse "muscle") ⟨0, 5, 0⟩ ⟨5, 0, 0⟩ (.new 1000 10 0)),
      .rigid (.rod (Tags.parse "rod") ⟨5, 0, 0⟩ ⟨0, 0, 0⟩ {})], []⟩ := rfl
  obtain ⟨m', w', hb, hlen, hc, -, -, -, -, -, -, -, hrigids, hactuators, -, -, hnext, -⟩ :=
    buildInto_installs_in_order (m := Model.new {}) (w := {}) rfl hR
  refine ⟨rfl, hR, m', w', hb, ?_, hrigids, hactuators, hnext⟩
  -- each component is the realized one with the next handle
  apply List.ext_getElem?
  intro i
  rcases i with _ | _ | _ | i
  · exact hc 0 _ rfl
  · exact hc 1 _ rfl
  · exact hc 2 _ rfl
  · rw [List.getElem?_eq_none (by rw [hlen]; simp), List.getElem?_eq_none (by simp)]

end Model

end Tensegrity
