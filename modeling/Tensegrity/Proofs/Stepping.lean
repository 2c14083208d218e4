import Mathlib
import Tensegrity.Proofs.Lifecycle

/-!
# Stepping a model

A step of `dt` is taken only for a finite positive `dt`. The guard is written `isFinite && dt > 0`,
and in IEEE arithmetic its refusals are exactly the NaNs, the infinities and the numbers at or
below zero, `-0` among them (`Float32.step_refused_iff`): a NaN compares with nothing, so it is
neither above nor at or below zero, and every other number is one or the other. The fact is
read off the unpacked model of single-precision numbers, where a number is a signed zero, an
infinity, NaN or a finite value with a sign.

A step that is taken notifies the observers: they are taken out of the model, each reacts in
turn to what the earlier ones left, and they are put back before any observer added meanwhile.
What an observer may do is a parameter of the step (`Model.stepWith`), and what it must keep is
named once (`Model.Keeps`): it may retune the components and add observers, and keeps the rigid
bodies, groups, labels, markers, settings, built flag and elapsed time. For every reaction that
keeps them (`Model.Conforms`), each observer is told once, in the order added, and is shown the
model from before the step (`Model.told`); then every component steps once, and the observers
come back as they left themselves, followed by those they added (`Model.stepWith_of_conforms`).

The recording observers conform. Each records the step with the time and component count from
before it; one with a drive retunes the actuators it drives (`Observer.steer`), and the next
observer sees that; then every actuator takes one step and every rigid body stays
(`Model.reactAll_onStep_eq`).
-/

open Float.Model

namespace Tensegrity

/-! ## The guard -/

/-- An unpacked number fails to be finite and above zero exactly when it is NaN, infinite, or
at or below zero. -/
theorem unpacked_not_finite_pos_iff (u : UnpackedFloat) :
    ¬(u.isFinite = true ∧ (UnpackedFloat.zero .positive).lt u = true) ↔
      u.isNaN = true ∨ u.isInf = true ∨ u.le (.zero .positive) = true := by
  rcases u with s | _ | s | ⟨s, m, e, hm⟩ <;> (try cases s) <;>
    simp +decide [UnpackedFloat.isFinite, UnpackedFloat.isNaN, UnpackedFloat.isInf, UnpackedFloat.lt,
      UnpackedFloat.le, UnpackedFloat.compare]

/-- **A step length is refused** exactly when it is NaN, infinite, or at or below zero. -/
theorem Float32.step_refused_iff (dt : Float32) :
    (dt.isFinite && decide (dt > 0)) = false ↔ dt.isNaN = true ∨ dt.isInf = true ∨ dt ≤ 0 := by
  -- each side of the guard, read on the unpacked number
  have hzero : (0 : Float32).toModel.unpack = .zero .positive := rfl
  have hpos : dt > 0 ↔ (UnpackedFloat.zero .positive).lt dt.toModel.unpack = true := by
    rw [← hzero]
    show Float32.lt 0 dt = true ↔ _
    unfold Float32.lt
    rw [decide_eq_true_iff]
    rfl
  have hle : dt ≤ 0 ↔ dt.toModel.unpack.le (.zero .positive) = true := by
    rw [← hzero]
    show Float32.le dt 0 = true ↔ _
    unfold Float32.le
    rw [decide_eq_true_iff]
    rfl
  have hfin : dt.isFinite = dt.toModel.unpack.isFinite := rfl
  have hnan : dt.isNaN = dt.toModel.unpack.isNaN := rfl
  have hinf : dt.isInf = dt.toModel.unpack.isInf := rfl
  rw [hle, hnan, hinf, ← unpacked_not_finite_pos_iff, ← hfin, ← hpos]
  simp

/-- A step length is accepted exactly when it is not refused. -/
theorem Float32.step_taken_iff (dt : Float32) :
    (dt.isFinite && decide (dt > 0)) = true ↔ ¬(dt.isNaN = true ∨ dt.isInf = true ∨ dt ≤ 0) := by
  rw [← Float32.step_refused_iff, Bool.not_eq_false]

/-- `-0` is at or below zero, so a step of `-0` is refused. -/
example : (-0 : Float32) ≤ 0 := by decide

namespace Model

/-! ## Observers that conform -/

/-- **What an observer may change in the model it is shown**: it retunes the components and adds
observers after the others, and keeps the groups, labels, markers, settings, built flag and
elapsed time. -/
structure Keeps (m m' : Model) : Prop where
  components : Component.Retuned m.components m'.components
  groups : m'.groups = m.groups
  bindings : m'.bindings = m.bindings
  markers : m'.markers = m.markers
  config : m'.config = m.config
  built : m'.built = m.built
  elapsed : m'.elapsed = m.elapsed
  observers : m.observers <+: m'.observers

theorem Keeps.refl (m : Model) : m.Keeps m :=
  ⟨Component.Retuned.refl _, rfl, rfl, rfl, rfl, rfl, rfl, List.prefix_refl _⟩

theorem Keeps.trans {m m' m'' : Model} (h : m.Keeps m') (h' : m'.Keeps m'') : m.Keeps m'' :=
  ⟨h.components.trans h'.components, h'.groups.trans h.groups, h'.bindings.trans h.bindings,
    h'.markers.trans h.markers, h'.config.trans h.config, h'.built.trans h.built,
    h'.elapsed.trans h.elapsed, h.observers.trans h'.observers⟩

/-- A rigid body stays where it was in a model that is kept. -/
theorem Keeps.rigid {m m' : Model} (h : m.Keeps m') {i : Nat} {b : RigidBody}
    (hb : m.components[i]? = some (.rigid b)) : m'.components[i]? = some (.rigid b) :=
  h.components.rigid hb

/-- **A reaction that conforms** keeps, in every model it is shown, what `Keeps` names. -/
structure Conforms (react : Observer → Model → Observer × Model × List Event) : Prop where
  keeps : ∀ (o : Observer) (m : Model), m.Keeps (react o m).2.1

/-- **The observers told, each with the model it is shown**: the first is shown the model, and
each later one what the earlier ones left. -/
def told (react : Observer → Model → Observer × Model × List Event) :
    List Observer → Model → List (Observer × Model)
  | [], _ => []
  | o :: os, m => (o, m) :: told react os (react o m).2.1

section Told

variable {react : Observer → Model → Observer × Model × List Event}

/-- **Each observer is told once, in order.** -/
theorem map_fst_told : ∀ (os : List Observer) (m : Model), (told react os m).map Prod.fst = os
  | [], _ => rfl
  | o :: os, m => by rw [told, List.map_cons, map_fst_told os]

/-- The observers come out as each left itself. -/
theorem reactAll_fst :
    ∀ (os : List Observer) (m : Model), (reactAll react os m).1 = (told react os m).map fun p => (react p.1 p.2).1
  | [], _ => rfl
  | o :: os, m => by
    simp only [reactAll, told, List.map_cons]
    rw [← reactAll_fst os]

/-- The events are those of each observer in turn. -/
theorem reactAll_events :
    ∀ (os : List Observer) (m : Model), (reactAll react os m).2.2 = (told react os m).flatMap fun p => (react p.1 p.2).2.2
  | [], _ => rfl
  | o :: os, m => by
    simp only [reactAll, told, List.flatMap_cons]
    rw [← reactAll_events os]

/-- **Every observer is shown a model kept from the first**, when the reactions conform. -/
theorem keeps_of_mem_told (hr : Conforms react) :
    ∀ {os : List Observer} {m : Model} {p : Observer × Model}, p ∈ told react os m → m.Keeps p.2
  | [], _, _, hp => by cases hp
  | o :: os, m, p, hp => by
    rcases List.mem_cons.1 hp with rfl | hp
    · exact Keeps.refl _
    · -- the later observers are shown what the first one left
      exact (hr.keeps o m).trans (keeps_of_mem_told hr hp)

/-- **The observers leave a model kept from the one they were shown**, when the reactions
conform. -/
theorem keeps_reactAll (hr : Conforms react) :
    ∀ (os : List Observer) (m : Model), m.Keeps (reactAll react os m).2.1
  | [], m => Keeps.refl m
  | o :: os, m => (hr.keeps o m).trans (keeps_reactAll hr os (react o m).2.1)

/-- **Notifying observers**, read through the observers told: they come back as each left
itself, before those added meanwhile, and the events are those of each in turn. -/
theorem notify_eq (m : Model) :
    m.notify react =
      ({ (reactAll react m.observers { m with observers := [] }).2.1 with
          observers := (told react m.observers { m with observers := [] }).map (fun p => (react p.1 p.2).1) ++
            (reactAll react m.observers { m with observers := [] }).2.1.observers },
        (told react m.observers { m with observers := [] }).flatMap fun p => (react p.1 p.2).2.2) := by
  rw [← reactAll_fst, ← reactAll_events]
  rfl

end Told

/-- **A step with observers that conform.** Taken, it tells each observer once, in the order
added, and shows each the model from before the step, kept by the observers before it; the events
are those the observers record, in turn. Then every component of what the observers leave steps
once, and the observers come back as each left itself, followed by any added meanwhile; the
groups, labels, markers, settings and built flag are kept, and the time moves on by `dt`. -/
theorem stepWith_of_conforms {onStep : Float32 → Observer → Model → Observer × Model × List Event}
    {dt : Float32} (hr : Conforms (onStep dt)) (h : (dt.isFinite && decide (dt > 0)) = true) (m : Model) :
    (told (onStep dt) m.observers { m with observers := [] }).map Prod.fst = m.observers ∧
    (∀ p ∈ told (onStep dt) m.observers { m with observers := [] }, { m with observers := [] }.Keeps p.2) ∧
    ∃ m₁ m', { m with observers := [] }.Keeps m₁ ∧
      m.stepWith onStep dt =
        .ok (m', (told (onStep dt) m.observers { m with observers := [] }).flatMap fun p => (onStep dt p.1 p.2).2.2) ∧
      m'.components = m₁.components.map (·.step dt) ∧
      (∀ (i : Nat) b, m.components[i]? = some (Component.rigid b) → m'.components[i]? = some (Component.rigid b)) ∧
      m'.observers =
        (told (onStep dt) m.observers { m with observers := [] }).map (fun p => (onStep dt p.1 p.2).1) ++ m₁.observers ∧
      m'.groups = m.groups ∧ m'.bindings = m.bindings ∧ m'.markers = m.markers ∧ m'.config = m.config ∧
      m'.built = m.built ∧ m'.elapsed = m.elapsed + dt.toFloat := by
  have hkeep := keeps_reactAll hr m.observers { m with observers := [] }
  -- the model the observers leave, before its components step
  let m₁ := (reactAll (onStep dt) m.observers { m with observers := [] }).2.1
  refine ⟨map_fst_told _ _, fun p hp => keeps_of_mem_told hr hp, m₁,
    { m₁ with
      observers := (told (onStep dt) m.observers { m with observers := [] }).map (fun p => (onStep dt p.1 p.2).1) ++
        m₁.observers
      components := m₁.components.map (·.step dt)
      elapsed := m₁.elapsed + dt.toFloat },
    hkeep, ?_, rfl, fun i b hb => ?_, rfl, hkeep.groups, hkeep.bindings, hkeep.markers, hkeep.config, hkeep.built,
    congrArg (· + dt.toFloat) hkeep.elapsed⟩
  · rw [stepWith_of_taken onStep h, notify_eq]
  · -- a rigid body the observers keep steps to itself
    have hb₁ : m₁.components[i]? = some (.rigid b) := hkeep.rigid hb
    simp [List.getElem?_map, hb₁, Component.step]

/-! ## Recording observers -/

/-- **Recording observers conform**: one with a drive only retunes actuators. -/
theorem conforms_onStep (dt : Float32) : Conforms (Observer.onStep dt) := by
  refine ⟨fun o m => ?_⟩
  cases hd : o.drive with
  | some d =>
    simp only [Observer.onStep, hd]
    exact ⟨retuned_drive d m.components, rfl, rfl, rfl, rfl, rfl, rfl, List.prefix_refl _⟩
  | none =>
    simp only [Observer.onStep, hd]
    exact Keeps.refl m

/-- **A step of `dt`.** It is refused, with the step length's fault (an invalid argument whose
message names `dt`), exactly when `dt` is NaN, infinite, or at or below zero (`-0` included),
and a refused step leaves the model as it was and tells no observer. Otherwise every observer is
told once, in the order they were added, before anything moves, and records the time and the
component count from before the step. Then every rigid body stays as it was, and every actuator,
once the observers' drives have steered it in turn, takes exactly one step; the groups, labels,
markers, observers, settings and built flag are kept, and the time moves on by `dt`, widened to
double precision.

The recording observers are one kind of observer, and the same holds of every kind whose
reaction to a step keeps the rigid bodies, groups, labels, markers, settings, built flag and
time of the model it is shown, changing at most the actuators and adding observers after the
others. With any such observers, a refused step changes nothing, and a step that is taken tells
each observer once, in the order added, and shows each the model from before the step; every
component of what they leave steps once, and the observers come back as each left itself,
followed by those added while they were told. -/
theorem step_notifies_then_steps (m : Model) (dt : Float32) :
    (∀ e, m.step dt = .error e ↔ (dt.isNaN = true ∨ dt.isInf = true ∨ dt ≤ 0) ∧ e = .timeStep dt ∧
      e.kind = .invalidArgument ∧ e.message = "invalid argument: dt is not positive: " ++ Fault.number dt) ∧
    ((dt.isNaN = true ∨ dt.isInf = true ∨ dt ≤ 0) → m.apply (.step dt) = m) ∧
    (¬(dt.isNaN = true ∨ dt.isInf = true ∨ dt ≤ 0) → ∃ m' es, m.step dt = .ok (m', es) ∧
      es = m.observers.map (fun o => ⟨o.name, .step dt m.elapsed m.components.length⟩) ∧
      m'.components.length = m.components.length ∧
      (∀ (i : Nat) b, m.components[i]? = some (Component.rigid b) → m'.components[i]? = some (Component.rigid b)) ∧
      (∀ (i : Nat) a, m.components[i]? = some (Component.actuator a) →
        m'.components[i]? = some (Component.actuator ((m.observers.foldl (fun a o => o.steer a) a).step dt))) ∧
      m'.groups = m.groups ∧ m'.bindings = m.bindings ∧ m'.markers = m.markers ∧
      m'.observers = m.observers ∧ m'.config = m.config ∧ m'.built = m.built ∧
      m'.elapsed = m.elapsed + dt.toFloat) ∧
    Conforms (Observer.onStep dt) ∧
    (∀ onStep : Float32 → Observer → Model → Observer × Model × List Event,
      ((dt.isNaN = true ∨ dt.isInf = true ∨ dt ≤ 0) → m.stepWith onStep dt = .error (.timeStep dt)) ∧
      (Conforms (onStep dt) → ¬(dt.isNaN = true ∨ dt.isInf = true ∨ dt ≤ 0) →
        (told (onStep dt) m.observers { m with observers := [] }).map Prod.fst = m.observers ∧
        (∀ p ∈ told (onStep dt) m.observers { m with observers := [] }, { m with observers := [] }.Keeps p.2) ∧
        ∃ m₁ m', { m with observers := [] }.Keeps m₁ ∧
          m.stepWith onStep dt =
            .ok (m', (told (onStep dt) m.observers { m with observers := [] }).flatMap
              fun p => (onStep dt p.1 p.2).2.2) ∧
          m'.components = m₁.components.map (·.step dt) ∧
          (∀ (i : Nat) b, m.components[i]? = some (Component.rigid b) →
            m'.components[i]? = some (Component.rigid b)) ∧
          m'.observers =
            (told (onStep dt) m.observers { m with observers := [] }).map (fun p => (onStep dt p.1 p.2).1) ++
              m₁.observers ∧
          m'.groups = m.groups ∧ m'.bindings = m.bindings ∧ m'.markers = m.markers ∧ m'.config = m.config ∧
          m'.built = m.built ∧ m'.elapsed = m.elapsed + dt.toFloat)) := by
  refine ⟨fun e => ?_, fun hr => ?_, fun hr => ?_, conforms_onStep dt, fun onStep =>
    ⟨fun hr => stepWith_of_refused onStep ((Float32.step_refused_iff dt).2 hr),
      fun hc ht => stepWith_of_conforms hc ((Float32.step_taken_iff dt).2 ht) m⟩⟩
  · cases hc : (dt.isFinite && decide (dt > 0)) with
    | false =>
      rw [step_of_refused hc, Except.error.injEq]
      refine ⟨fun he => ?_, fun h => h.2.1.symm⟩
      subst he
      exact ⟨(Float32.step_refused_iff dt).1 hc, rfl, rfl, rfl⟩
    | true =>
      -- a step that is taken is not refused
      rw [step_of_taken hc]
      exact iff_of_false (fun h => by cases h) fun h => (Float32.step_taken_iff dt).1 hc h.1
  · simp only [apply, step_of_refused ((Float32.step_refused_iff dt).2 hr)]
  · refine ⟨_, _, step_of_taken ((Float32.step_taken_iff dt).2 hr), rfl, List.length_map _,
      fun i b hb => ?_, fun i a ha => ?_, rfl, rfl, rfl, rfl, rfl, rfl, rfl⟩
    · simp [hb, Component.steer, Component.step]
    · simp [ha, Component.steer, Component.step]

end Model

end Tensegrity
