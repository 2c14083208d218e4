import Mathlib
import Tensegrity.Proofs.IeeeEquality
import Tensegrity.Component

/-!
# Order, clamping and the larger of two numbers in single precision

The cables of a model keep their lengths with three operations of IEEE single precision: the
larger of two numbers (`maxF32`, which passes over a NaN), a clamp between two bounds
(`clampF32`), and the sums and differences of lengths. This module gives the facts about them
that hold for every number, NaN, infinities and signed zeros included.

Every operation on `Float32` unpacks its arguments into signed zeros, infinities, NaN and finite
values, computes there and packs the result; a comparison only unpacks. The facts are first read
off the unpacked numbers, by cases on the constructors. Carrying them back to `Float32` crosses a
packing and an unpacking, which changes nothing of a number that came from unpacking
(`unpack_pack_unpack`), keeps what the comparison reads of a number read like one
(`ieeeValue_unpack_pack`), and never turns a number into a NaN (`unpack_pack_eq_notANumber`).

What the cables need: a NaN is never the larger of two numbers when the second is not one, and
the larger is at least the second (`le_maxF32`); the bound of a step, `max v 0`, is a number
whose negation lies below it (`neg_maxF32_zero_le`); a number clamped between `-0` and `0` is a
zero (`clampF32_beq_zero`); adding a zero to a finite number and taking the larger of that and a
smaller number leaves its value (`add_beq_of_beq_zero`, `maxF32_beq_of_le`).
-/

open Float.Model

namespace Tensegrity

/-! ## Unpacked numbers -/

namespace Unpacked

/-- The signed zeros. -/
def IsZero (u : UnpackedFloat) : Prop := ∃ s, u = .zero s

/-- **A number below the positive zero's negation or above the positive zero**, or a zero: a
number that is not NaN is one of the three. -/
theorem zero_of_not_lt_not_gt {u : UnpackedFloat} (hu : u.isNaN = false)
    (hlo : u.compare (.zero .negative) ≠ some .lt) (hhi : (UnpackedFloat.zero .positive).compare u ≠ some .lt) :
    IsZero u := by
  rcases u with s | _ | s | ⟨s, m, e, hm⟩ <;> (try cases s) <;>
    simp_all [UnpackedFloat.compare, UnpackedFloat.isNaN, IsZero]

/-- **Numbers that compare at all are not NaN.** -/
theorem isNaN_of_compare {u v : UnpackedFloat} {o : Ordering} (h : u.compare v = some o) :
    u.isNaN = false ∧ v.isNaN = false := by
  rcases u with s | _ | s | ⟨s, m, e, hm⟩ <;> rcases v with t | _ | t | ⟨t, n, f, hn⟩ <;>
    (try cases s) <;> (try cases t) <;> simp_all [UnpackedFloat.compare, UnpackedFloat.isNaN]

/-- A number equal to a zero is a zero. -/
theorem zero_of_compare_zero {u : UnpackedFloat} {s : UnpackedFloat.Sign} (h : u.compare (.zero s) = some .eq) :
    IsZero u := by
  rcases u with t | _ | t | ⟨t, m, e, hm⟩ <;> (try cases t) <;> (try cases s) <;>
    simp_all [UnpackedFloat.compare, IsZero]

/-- A number above zero compares above its negation. -/
theorem compare_neg_of_pos {u : UnpackedFloat} (h : (UnpackedFloat.zero .positive).compare u = some .lt) :
    u.neg.compare u = some .lt := by
  rcases u with s | _ | s | ⟨s, m, e, hm⟩ <;> (try cases s) <;>
    simp_all [UnpackedFloat.compare, UnpackedFloat.neg]
  -- the positive infinity against its negation: the signs decide
  all_goals rfl

/-- A number above zero is not at or below zero. -/
theorem not_le_zero_of_pos {u : UnpackedFloat} (h : (UnpackedFloat.zero .positive).compare u = some .lt) :
    ¬(u.compare (.zero .positive) = some .lt ∨ u.compare (.zero .positive) = some .eq) := by
  rcases u with s | _ | s | ⟨s, m, e, hm⟩ <;> (try cases s) <;> simp_all [UnpackedFloat.compare]

/-- **Numbers the comparison reads alike are compared alike.** -/
theorem compare_congr_right (u : UnpackedFloat) {v w : UnpackedFloat} (h : ieeeValue v = ieeeValue w) :
    u.compare v = u.compare w := by
  rcases v with s | _ | s | ⟨s, m, e, hm⟩ <;> rcases w with t | _ | t | ⟨t, n, f, hn⟩ <;>
    simp only [ieeeValue, reduceCtorEq, Option.some.injEq, UnpackedFloat.infinity.injEq,
      UnpackedFloat.finite.injEq] at h
  all_goals first
    | (obtain ⟨rfl, rfl, rfl⟩ := h; rfl)
    | (rcases u with r | _ | r | ⟨r, k, g, hk⟩ <;> (try cases r) <;> (try cases s) <;> (try cases t) <;>
        rfl)

/-- A sum with a zero: the other term when that is finite, and a zero when both are zeros. -/
theorem add_zero_right {u : UnpackedFloat} (hu : u.isFinite = true) (s : UnpackedFloat.Sign) :
    ieeeValue (UnpackedFloat.add .binary32 u (.zero s)) = ieeeValue u := by
  cases u with
  | infinity r => simp [UnpackedFloat.isFinite] at hu
  | notANumber => simp [UnpackedFloat.isFinite] at hu
  | zero r => cases r <;> cases s <;> rfl
  | finite r m e hm => rfl

/-- Rounding a finite value gives a zero or a finite value, never NaN. -/
theorem roundWithAccuracy_ne_notANumber (spec : Format) (s : UnpackedFloat.Sign) (m : Nat) (e : Int)
    (a : UnpackedFloat.Accuracy) : UnpackedFloat.roundWithAccuracy spec s m e a ≠ .notANumber := by
  unfold UnpackedFloat.roundWithAccuracy
  -- two pairs are taken apart before the last test, which gives a zero or a finite value
  split
  dsimp only
  split <;> simp

/-- The difference of a number and a finite number is not NaN. -/
theorem sub_ne_notANumber {u v : UnpackedFloat} (hu : u.isNaN = false) (hv : v.isFinite = true) :
    UnpackedFloat.sub .binary32 u v ≠ .notANumber := by
  rcases u with r | _ | r | ⟨r, m, e, hm⟩ <;> rcases v with s | _ | s | ⟨s, n, f, hn⟩ <;>
    simp_all [UnpackedFloat.isNaN, UnpackedFloat.isFinite, UnpackedFloat.sub]
  all_goals first
    | (split <;> simp)
    | (unfold UnpackedFloat.normalize UnpackedFloat.round
       split <;> first | exact roundWithAccuracy_ne_notANumber _ _ _ _ _ | simp)

end Unpacked

/-! ## Packing -/

/-- **Packing what was unpacked and unpacking again changes nothing.** -/
theorem unpack_pack_unpack (b : BitVec Format.binary32.numBits) :
    UnpackedFloat.unpack .binary32 (UnpackedFloat.pack .binary32 (UnpackedFloat.unpack .binary32 b)) =
      UnpackedFloat.unpack .binary32 b := by
  rw [UnpackedFloat.pack_unpack b]
  split
  · next h =>
    simp only [UnpackedFloat.isNaNBits, decide_eq_true_eq] at h
    rw [UnpackedFloat.unpack_packedNaN]
    unfold UnpackedFloat.unpack
    simp [h.1, h.2]
  · rfl

/-- An unpacking that gives NaN read an exponent of all ones. -/
theorem exponent_of_unpack_eq_notANumber {b : BitVec Format.binary32.numBits}
    (h : UnpackedFloat.unpack .binary32 b = .notANumber) : UnpackedFloat.unpackExponent b = -1#_ := by
  unfold UnpackedFloat.unpack at h
  dsimp only at h
  split at h
  · assumption
  · split at h
    · split at h <;> cases h
    · cases h

/-- The packed infinities unpack to themselves. -/
theorem unpack_pack_infinity (s : UnpackedFloat.Sign) :
    UnpackedFloat.unpack .binary32 (UnpackedFloat.pack .binary32 (.infinity s)) = .infinity s := by
  cases s <;> rfl

/-- **Packing never makes a NaN**: a packed number unpacks to NaN only when it was NaN. -/
theorem unpack_pack_eq_notANumber {u : UnpackedFloat} :
    UnpackedFloat.unpack .binary32 (UnpackedFloat.pack .binary32 u) = .notANumber ↔ u = .notANumber := by
  constructor
  · intro h
    cases u with
    | notANumber => rfl
    | infinity s => rw [unpack_pack_infinity] at h; cases h
    | zero s =>
      rw [show UnpackedFloat.pack .binary32 (.zero s) = UnpackedFloat.packedZero .binary32 s from rfl,
        UnpackedFloat.unpack_packedZero] at h
      cases h
    | finite s m e hm =>
      -- a finite number packs to an infinity, or to an exponent short of all ones
      unfold UnpackedFloat.pack at h
      dsimp only at h
      split at h
      · rw [show UnpackedFloat.packedInfinity .binary32 s = UnpackedFloat.pack .binary32 (.infinity s) from rfl,
          unpack_pack_infinity] at h
        cases h
      · next hbig =>
        have hexp := exponent_of_unpack_eq_notANumber h
        split at hexp
        · -- a normal number: its biased exponent is below all ones
          rw [UnpackedFloat.unpackExponent_packComponents] at hexp
          have := congrArg BitVec.toNat hexp
          simp only [BitVec.toNat_ofNat, BitVec.toNat_neg] at this hbig
          omega
        · -- a subnormal number: its exponent is zero
          rw [UnpackedFloat.unpackExponent_packComponents] at hexp
          exact absurd hexp (by decide)
  · rintro rfl
    exact UnpackedFloat.unpack_packedNaN

/-- **Packing keeps what the comparison reads** of a number read like an unpacked one. -/
theorem ieeeValue_unpack_pack {b : BitVec Format.binary32.numBits} {v : UnpackedFloat}
    (h : ieeeValue v = ieeeValue (UnpackedFloat.unpack .binary32 b)) :
    ieeeValue (UnpackedFloat.unpack .binary32 (UnpackedFloat.pack .binary32 v)) =
      ieeeValue (UnpackedFloat.unpack .binary32 b) := by
  cases v with
  | notANumber => rw [unpack_pack_eq_notANumber.2 rfl]; exact h
  | infinity s => rw [unpack_pack_infinity]; exact h
  | zero s =>
    rw [show UnpackedFloat.pack .binary32 (.zero s) = UnpackedFloat.packedZero .binary32 s from rfl,
      UnpackedFloat.unpack_packedZero]
    exact h
  | finite s m e hm =>
    -- a finite number is read as itself, so it is the unpacked number
    have hb : UnpackedFloat.unpack .binary32 b = .finite s m e hm := by
      cases hu : UnpackedFloat.unpack .binary32 b <;> simp_all [ieeeValue]
    rw [← hb, unpack_pack_unpack]

/-- Negating the sign bit negates the unpacked number. -/
theorem unpack_packComponents_neg (b : BitVec Format.binary32.numBits) :
    UnpackedFloat.unpack .binary32 (UnpackedFloat.packComponents .binary32
      (-UnpackedFloat.Sign.ofBitVec (UnpackedFloat.unpackSign b)) (UnpackedFloat.unpackExponent b)
      (UnpackedFloat.unpackMantissa b)) = (UnpackedFloat.unpack .binary32 b).neg := by
  unfold UnpackedFloat.unpack
  simp only [UnpackedFloat.unpackExponent_packComponents, UnpackedFloat.unpackMantissa_packComponents,
    UnpackedFloat.unpackSign_packComponents, UnpackedFloat.Sign.ofBitVec_toBitVec]
  split
  · split <;> rfl
  · split
    · split <;> rfl
    · rfl

/-! ## Comparing and computing in single precision -/

namespace Float32

/-- **Below**, read on the unpacked numbers. -/
theorem lt_iff_compare (x y : Float32) : x < y ↔ x.toModel.unpack.compare y.toModel.unpack = some .lt := by
  show Float32.lt x y = true ↔ _
  unfold Float32.lt
  rw [decide_eq_true_iff]
  exact beq_iff_eq

/-- **At or below**, read on the unpacked numbers: below or equal. -/
theorem le_iff_compare (x y : Float32) :
    x ≤ y ↔ x.toModel.unpack.compare y.toModel.unpack = some .lt ∨
      x.toModel.unpack.compare y.toModel.unpack = some .eq := by
  show Float32.le x y = true ↔ _
  unfold Float32.le
  rw [decide_eq_true_iff]
  show (x.toModel.unpack.compare y.toModel.unpack).any (·.isLE) = true ↔ _
  cases x.toModel.unpack.compare y.toModel.unpack with
  | none => simp
  | some o => cases o <;> simp

theorem unpack_zero : (0 : Float32).toModel.unpack = .zero .positive := rfl

theorem unpack_neg_zero : (-0 : Float32).toModel.unpack = .zero .negative := rfl

/-- **Negation negates the unpacked number.** -/
theorem unpack_neg (x : Float32) : (-x).toModel.unpack = x.toModel.unpack.neg := by
  show UnpackedFloat.unpack .binary32 (UnpackedFloat.pack .binary32 (UnpackedFloat.unpack .binary32
    x.toModel.toBits.toBitVec).neg) = _
  rw [← unpack_packComponents_neg, unpack_pack_unpack, unpack_packComponents_neg]
  rfl

/-- A number is at or below itself exactly when it is not NaN. -/
theorem le_self {x : Float32} (hx : x.isNaN = false) : x ≤ x := by
  rw [le_iff_compare]
  exact .inr ((unpacked_compare_self _).2 hx)

theorem le_of_lt {x y : Float32} (h : x < y) : x ≤ y :=
  (le_iff_compare x y).2 (.inl ((lt_iff_compare x y).1 h))

/-- **Numbers at or below one another are not NaN.** -/
theorem isNaN_of_le {x y : Float32} (h : x ≤ y) : x.isNaN = false ∧ y.isNaN = false := by
  rw [le_iff_compare] at h
  rcases h with h | h <;> exact Unpacked.isNaN_of_compare h

/-- A number at or below zero is not above it. -/
theorem not_pos_of_le_zero {x : Float32} (h : x ≤ 0) : ¬0 < x := by
  rw [le_iff_compare, unpack_zero] at h
  rw [lt_iff_compare, unpack_zero]
  exact fun hpos => Unpacked.not_le_zero_of_pos hpos h

/-- **The negation of a number above zero lies below it.** -/
theorem neg_le_self_of_pos {x : Float32} (hx : 0 < x) : -x ≤ x := by
  rw [lt_iff_compare, unpack_zero] at hx
  rw [le_iff_compare, unpack_neg]
  exact .inl (Unpacked.compare_neg_of_pos hx)

/-- **A difference with a finite number is not NaN** when the first number is not. -/
theorem sub_isNaN {t r : Float32} (ht : t.isNaN = false) (hr : r.isFinite = true) : (t - r).isNaN = false := by
  show (UnpackedFloat.unpack .binary32 (UnpackedFloat.pack .binary32
    (UnpackedFloat.sub .binary32 t.toModel.unpack r.toModel.unpack))).isNaN = false
  cases hnan : (UnpackedFloat.unpack .binary32 (UnpackedFloat.pack .binary32
    (UnpackedFloat.sub .binary32 t.toModel.unpack r.toModel.unpack))).isNaN with
  | false => rfl
  | true =>
    rw [UnpackedFloat.isNaN_iff, unpack_pack_eq_notANumber] at hnan
    exact absurd hnan (Unpacked.sub_ne_notANumber ht hr)

/-- **Adding a zero to a finite number leaves its value.** -/
theorem add_beq_of_beq_zero {r z : Float32} (hr : r.isFinite = true) (hz : (z == 0) = true) : (r + z == r) = true := by
  obtain ⟨s, hs⟩ := Unpacked.zero_of_compare_zero ((beq_eq_true_iff z 0).1 hz)
  have hfin : r.toModel.unpack.isFinite = true := hr
  have hnan : r.toModel.unpack.isNaN = false := by
    cases hu : r.toModel.unpack <;> simp_all [UnpackedFloat.isFinite, UnpackedFloat.isNaN]
  -- the sum is the packed sum of the unpacked numbers, which the comparison reads as `r`
  have hread : ieeeValue (r + z).toModel.unpack = ieeeValue r.toModel.unpack := by
    show ieeeValue (UnpackedFloat.unpack .binary32 (UnpackedFloat.pack .binary32
      (UnpackedFloat.add .binary32 r.toModel.unpack z.toModel.unpack))) = _
    rw [hs]
    exact ieeeValue_unpack_pack (Unpacked.add_zero_right hfin s)
  rw [beq_eq_true_iff, unpacked_compare_eq_eq_comm, Unpacked.compare_congr_right _ hread]
  exact (unpacked_compare_self _).2 hnan

/-! ## The larger of two numbers and the clamp -/

/-- **The larger of two numbers is at least the second** when that one is not NaN, whatever the
first is. -/
theorem le_maxF32 (a : Float32) {b : Float32} (hb : b.isNaN = false) : b ≤ maxF32 a b := by
  unfold maxF32
  split
  · exact le_self hb
  · rw [if_neg (ne_true_of_eq_false hb)]
    split
    · next hab => exact le_of_lt hab
    · exact le_self hb

/-- The larger of a number and zero: zero, or the number when it is above zero. -/
theorem maxF32_zero_cases (x : Float32) : maxF32 x 0 = 0 ∨ (0 < x ∧ maxF32 x 0 = x) := by
  unfold maxF32
  split
  · exact .inl rfl
  · rw [if_neg (by decide)]
    split
    · next hpos => exact .inr ⟨hpos, rfl⟩
    · exact .inl rfl

/-- **The larger of zero and a number that is NaN or not above zero is the positive zero.** -/
theorem maxF32_zero_of_not_pos {x : Float32} (h : x.isNaN = true ∨ x ≤ 0) : maxF32 x 0 = 0 := by
  rcases maxF32_zero_cases x with hzero | ⟨hpos, -⟩
  · exact hzero
  · -- a number above zero is neither NaN nor at or below zero
    have hx := (isNaN_of_le (le_of_lt hpos)).2
    rcases h with h | h
    · rw [hx] at h
      cases h
    · exact absurd hpos (not_pos_of_le_zero h)

/-- **The bound of a step lies above its negation**: the negation of `max x 0` is at or below it,
for every `x`, a NaN and the infinities included. -/
theorem neg_maxF32_zero_le (x : Float32) : -maxF32 x 0 ≤ maxF32 x 0 := by
  rcases maxF32_zero_cases x with hzero | ⟨hpos, hx⟩
  · rw [hzero]
    decide
  · rw [hx]
    exact neg_le_self_of_pos hpos

/-- **A number clamped between `-0` and `0` is a zero**, when it is not NaN. -/
theorem clampF32_beq_zero {d : Float32} (hd : d.isNaN = false) : (clampF32 d (-0) 0 == 0) = true := by
  unfold clampF32
  dsimp only
  by_cases hlo : d < -0
  · rw [if_pos hlo]
    decide
  · rw [if_neg hlo]
    by_cases hhi : d > 0
    · rw [if_pos hhi]
      decide
    · rw [if_neg hhi]
      -- neither below `-0` nor above `0`: a signed zero
      rw [lt_iff_compare, unpack_neg_zero] at hlo
      rw [gt_iff_lt, lt_iff_compare, unpack_zero] at hhi
      obtain ⟨s, hs⟩ := Unpacked.zero_of_not_lt_not_gt hd hlo hhi
      rw [beq_eq_true_iff, hs, unpack_zero]
      rfl

/-- **The larger of a number and a lower bound keeps its value** when the number has the value
of one at or above the bound. -/
theorem maxF32_beq_of_le {r' r lo : Float32} (h : (r' == r) = true) (hlo : lo ≤ r) : (maxF32 r' lo == r) = true := by
  have hr' : r'.isNaN = false := isNaN_of_beq h
  have hlo' : lo.isNaN = false := (isNaN_of_le hlo).1
  -- the comparison reads one value of `r'` and `r`
  have hread : ieeeValue r'.toModel.unpack = ieeeValue r.toModel.unpack := by
    obtain ⟨c, h₁, h₂⟩ := (unpacked_compare_eq_eq_iff _ _).1 ((beq_eq_true_iff r' r).1 h)
    rw [h₁, h₂]
  unfold maxF32
  rw [if_neg (ne_true_of_eq_false hr'), if_neg (ne_true_of_eq_false hlo')]
  split
  · exact h
  · next hnlt =>
    -- the bound is at or below `r'` and not below it, so it is equal to it
    have hle : lo ≤ r' := by
      rw [le_iff_compare, Unpacked.compare_congr_right _ hread]
      exact (le_iff_compare lo r).1 hlo
    rw [gt_iff_lt, lt_iff_compare] at hnlt
    rw [le_iff_compare] at hle
    have heq : (lo == r') = true := (beq_eq_true_iff lo r').2 (hle.resolve_left hnlt)
    exact beq_trans heq h

end Float32

end Tensegrity
