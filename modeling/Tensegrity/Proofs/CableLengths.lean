import Tensegrity.Proofs.SinglePrecision

/-!
# The rest length of a cable

A cable is driven by two calls: a new target, kept at or above the minimum rest length, and a
step of `dt`, which moves the rest length toward the target by at most
`max (targetVelocity * dt) 0` and then keeps it at or above the minimum. Both calls take any
single-precision number, NaN, the infinities and the negative numbers included.

The invariant is `Actuator.Sound`: the rest length and the target are at or above the minimum,
which makes both numbers and not NaN. A new cable has it when its minimum is not NaN
(`Actuator.sound_new`), each call keeps it, and so does every run of calls (`Sound.run`); the
parameters never change. The bound of a step is never NaN and its negation lies below it, so the
clamp of a step always has its bounds in order, whatever `targetVelocity * dt` is. A step whose
`targetVelocity * dt` is NaN or at or below zero has the positive zero for its bound, the clamp
gives a zero, and a finite rest length keeps its value (`Sound.step_restLength_beq`).
-/

namespace Tensegrity

namespace Actuator

/-! ## Calls -/

/-- **What a caller does to a cable**: set its target, or step it. -/
inductive Input where
  /-- Set the target. -/
  | control (t : Float32)
  /-- Step by `dt`. -/
  | step (dt : Float32)

/-- One call. -/
def feed (a : Actuator) : Input → Actuator
  | .control t => a.setControl t
  | .step dt => a.step dt

/-- Calls made in order. -/
def run (a : Actuator) (ins : List Input) : Actuator := ins.foldl feed a

@[simp] theorem run_cons (a : Actuator) (i : Input) (ins : List Input) : a.run (i :: ins) = (a.feed i).run ins := rfl

@[simp] theorem config_setControl (a : Actuator) (t : Float32) : (a.setControl t).config = a.config := rfl

@[simp] theorem config_step (a : Actuator) (dt : Float32) : (a.step dt).config = a.config := rfl

@[simp] theorem config_feed (a : Actuator) (i : Input) : (a.feed i).config = a.config := by
  cases i with
  | control t => exact config_setControl a t
  | step dt => exact config_step a dt

/-- **A run keeps the cable's parameters.** -/
@[simp] theorem config_run (a : Actuator) (ins : List Input) : (a.run ins).config = a.config := by
  induction ins generalizing a with
  | nil => rfl
  | cons i ins ih => rw [run_cons, ih, config_feed]

/-- The rest length after a step: the old one plus the difference to the target clamped to the
step's bound, kept at or above the minimum. -/
theorem restLength_step (a : Actuator) (dt : Float32) :
    (a.step dt).restLength =
      maxF32 (a.restLength + clampF32 (a.targetLength - a.restLength)
        (-maxF32 (a.config.targetVelocity * dt) 0) (maxF32 (a.config.targetVelocity * dt) 0))
        a.config.minRestLength := rfl

/-! ## The invariant -/

/-- **The lengths of a cable are at or above its minimum rest length.** -/
structure Sound (a : Actuator) : Prop where
  rest : a.config.minRestLength ≤ a.restLength
  target : a.config.minRestLength ≤ a.targetLength

theorem Sound.restLength_isNaN {a : Actuator} (h : a.Sound) : a.restLength.isNaN = false :=
  (Float32.isNaN_of_le h.rest).2

theorem Sound.targetLength_isNaN {a : Actuator} (h : a.Sound) : a.targetLength.isNaN = false :=
  (Float32.isNaN_of_le h.target).2

theorem Sound.minRestLength_isNaN {a : Actuator} (h : a.Sound) : a.config.minRestLength.isNaN = false :=
  (Float32.isNaN_of_le h.rest).1

/-- A new cable starts at or above its minimum, at whatever distance its ends stand. -/
theorem sound_new (tags : Tags) (p q : Vec3) {c : CableConfig} (hmin : c.minRestLength.isNaN = false) :
    (new tags p q c).Sound :=
  ⟨Float32.le_maxF32 _ hmin, Float32.le_maxF32 _ hmin⟩

theorem Sound.setControl {a : Actuator} (h : a.Sound) (t : Float32) : (a.setControl t).Sound :=
  ⟨h.rest, Float32.le_maxF32 t h.minRestLength_isNaN⟩

theorem Sound.step {a : Actuator} (h : a.Sound) (dt : Float32) : (a.step dt).Sound :=
  ⟨Float32.le_maxF32 _ h.minRestLength_isNaN, h.target⟩

theorem Sound.feed {a : Actuator} (h : a.Sound) : ∀ i, (a.feed i).Sound
  | .control t => h.setControl t
  | .step dt => h.step dt

/-- **Every run of calls keeps the invariant.** -/
theorem Sound.run {a : Actuator} (h : a.Sound) (ins : List Input) : (a.run ins).Sound := by
  induction ins generalizing a with
  | nil => exact h
  | cons i ins ih => exact ih (h.feed i)

/-! ## The bound of a step -/

/-- **The bound of a step is a number**: `max v 0` is never NaN, whatever `v` is. -/
theorem maxF32_zero_isNaN (v : Float32) : (maxF32 v 0).isNaN = false :=
  (Float32.isNaN_of_le (Float32.le_maxF32 v (by decide))).2

/-- **A step with no room to move keeps a finite rest length's value.** When
`targetVelocity * dt` is NaN or at or below zero, the bound is the positive zero, the target less
the rest length is a number that the clamp takes to a zero, and the rest length plus a zero is
itself, at or above the minimum. -/
theorem Sound.step_restLength_beq {a : Actuator} (h : a.Sound) {dt : Float32} (hfin : a.restLength.isFinite = true)
    (hv : (a.config.targetVelocity * dt).isNaN = true ∨ a.config.targetVelocity * dt ≤ 0) :
    ((a.step dt).restLength == a.restLength) = true := by
  have hbound : maxF32 (a.config.targetVelocity * dt) 0 = 0 := Float32.maxF32_zero_of_not_pos hv
  have hdiff : (a.targetLength - a.restLength).isNaN = false := Float32.sub_isNaN h.targetLength_isNaN hfin
  have hdelta := Float32.clampF32_beq_zero hdiff
  rw [restLength_step, hbound]
  exact Float32.maxF32_beq_of_le (Float32.add_beq_of_beq_zero hfin hdelta) h.rest

/-- **The lengths of a driven cable.** The bound of every step is a number whose negation lies
at or below it, so a step always clamps between bounds in order. A cable whose minimum rest
length is not NaN keeps its parameters through any calls; its rest length and target stay at or
above the minimum, and so are never NaN; and a step whose `targetVelocity * dt` is NaN or at or
below zero leaves a finite rest length at the same value. -/
theorem rest_length_invariant (c : CableConfig) (hmin : c.minRestLength.isNaN = false) :
    (∀ (a : Actuator) (dt : Float32), (maxF32 (a.config.targetVelocity * dt) 0).isNaN = false ∧
      -maxF32 (a.config.targetVelocity * dt) 0 ≤ maxF32 (a.config.targetVelocity * dt) 0) ∧
    ∀ (tags : Tags) (p q : Vec3) (ins : List Input),
      ((new tags p q c).run ins).config = c ∧
      ((new tags p q c).run ins).restLength.isNaN = false ∧
      ((new tags p q c).run ins).targetLength.isNaN = false ∧
      c.minRestLength ≤ ((new tags p q c).run ins).restLength ∧
      c.minRestLength ≤ ((new tags p q c).run ins).targetLength ∧
      ∀ dt : Float32, ((new tags p q c).run ins).restLength.isFinite = true →
        ((c.targetVelocity * dt).isNaN = true ∨ c.targetVelocity * dt ≤ 0) →
        ((((new tags p q c).run ins).step dt).restLength == ((new tags p q c).run ins).restLength) = true := by
  refine ⟨fun a dt => ⟨maxF32_zero_isNaN _, Float32.neg_maxF32_zero_le _⟩, fun tags p q ins => ?_⟩
  have hsound := (sound_new tags p q hmin).run ins
  have hconfig : ((new tags p q c).run ins).config = c := config_run _ ins
  have hminRest : ((new tags p q c).run ins).config.minRestLength = c.minRestLength := by rw [hconfig]
  refine ⟨hconfig, hsound.restLength_isNaN, hsound.targetLength_isNaN, hminRest ▸ hsound.rest,
    hminRest ▸ hsound.target, fun dt hfin hv => ?_⟩
  rw [← hconfig] at hv
  exact hsound.step_restLength_beq hfin hv

/-- A cable of negative target velocity, five long, keeps its rest length when given a target
of two and stepped. -/
theorem negative_velocity_holds_rest_length :
    ({ targetVelocity := -1 } : CableConfig).minRestLength.isNaN = false ∧
    ((((new default .zero ⟨0, 5, 0⟩ { targetVelocity := -1 }).run [.control 2]).step 0.01).restLength ==
      ((new default .zero ⟨0, 5, 0⟩ { targetVelocity := -1 }).run [.control 2]).restLength) = true :=
  ⟨by decide, ((rest_length_invariant { targetVelocity := -1 } (by decide)).2 default .zero ⟨0, 5, 0⟩
    [.control 2]).2.2.2.2.2 0.01 (by decide +kernel) (.inr (by decide +kernel))⟩

end Actuator

end Tensegrity
