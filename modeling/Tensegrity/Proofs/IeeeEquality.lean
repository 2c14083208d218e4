import Mathlib
import Tensegrity.Geometry.Vec3

/-!
# IEEE equality of points

Points are found among the nodes of a structure by IEEE equality, lane by lane (`Vec3.same`).
It is no equivalence: a NaN equals nothing, itself included, and `-0` equals `0`. What holds is
what the joining of chains needs. The comparison is symmetric (`Vec3.same_comm`) and transitive
(`Vec3.same_trans`), a point equals itself exactly when it has no NaN lane (`Vec3.same_self`),
and a point equal to anything has no NaN lane (`Vec3.hasNaN_of_same`).

Single-precision numbers are compared through their model, unpacked into signed zeros,
infinities, NaN and finite values; the facts are read off the comparison there. Transitivity
comes from what the comparison reads of a number (`ieeeValue`): two numbers are equal exactly
when it reads the same value of both, a zero's sign forgotten and nothing read of a NaN.
-/

open Float.Model

namespace Tensegrity

/-! ## Unpacked numbers -/

theorem unpacked_compare_eq_eq_comm (u v : UnpackedFloat) :
    u.compare v = some .eq ↔ v.compare u = some .eq := by
  rcases u with s | _ | s | ⟨s, m, e, hm⟩ <;> rcases v with t | _ | t | ⟨t, n, f, hn⟩ <;>
    (try cases s) <;> (try cases t) <;> simp [UnpackedFloat.compare]
  -- two finite numbers of one sign compare equal when their exponents and mantissas are equal
  all_goals exact ⟨fun ⟨he, hm⟩ => ⟨he.symm, hm.symm⟩, fun ⟨he, hm⟩ => ⟨he.symm, hm.symm⟩⟩

theorem unpacked_compare_self (u : UnpackedFloat) : u.compare u = some .eq ↔ u.isNaN = false := by
  rcases u with s | _ | s | ⟨s, m, e, hm⟩ <;> (try cases s) <;>
    simp [UnpackedFloat.compare, UnpackedFloat.isNaN]
  all_goals rfl

theorem unpacked_isNaN_of_compare {u v : UnpackedFloat} (h : u.compare v = some .eq) : u.isNaN = false := by
  rcases u with s | _ | s | ⟨s, m, e, hm⟩ <;> simp_all [UnpackedFloat.compare, UnpackedFloat.isNaN]

/-- **What IEEE equality reads of an unpacked number**: nothing of a NaN, and a zero whatever
its sign. -/
def ieeeValue : UnpackedFloat → Option UnpackedFloat
  | .notANumber => none
  | .zero _ => some (.zero .positive)
  | u => some u

/-- Two unpacked numbers are IEEE-equal exactly when the comparison reads one value of both. -/
theorem unpacked_compare_eq_eq_iff (u v : UnpackedFloat) :
    u.compare v = some .eq ↔ ∃ c, ieeeValue u = some c ∧ ieeeValue v = some c := by
  rcases u with s | _ | s | ⟨s, m, e, hm⟩ <;> rcases v with t | _ | t | ⟨t, n, f, hn⟩ <;>
    (try cases s) <;> (try cases t) <;> simp +decide [UnpackedFloat.compare, ieeeValue]
  -- two finite numbers of one sign are equal when their exponents and mantissas are
  all_goals exact ⟨fun ⟨he, hm⟩ => ⟨hm.symm, he.symm⟩, fun ⟨hm, he⟩ => ⟨he.symm, hm.symm⟩⟩

theorem unpacked_compare_eq_trans {u v w : UnpackedFloat} (huv : u.compare v = some .eq)
    (hvw : v.compare w = some .eq) : u.compare w = some .eq := by
  obtain ⟨c, hu, hv⟩ := (unpacked_compare_eq_eq_iff u v).1 huv
  obtain ⟨c', hv', hw⟩ := (unpacked_compare_eq_eq_iff v w).1 hvw
  -- the value read of the middle number is one
  obtain rfl : c = c' := Option.some.inj (hv.symm.trans hv')
  exact (unpacked_compare_eq_eq_iff u w).2 ⟨c, hu, hw⟩

/-! ## Single-precision numbers -/

namespace Float32

theorem beq_eq_true_iff (x y : Float32) :
    (x == y) = true ↔ x.toModel.unpack.compare y.toModel.unpack = some .eq := by
  show (x.toModel.unpack.compare y.toModel.unpack == some .eq) = true ↔ _
  exact beq_iff_eq

/-- IEEE equality is symmetric. -/
theorem beq_comm (x y : Float32) : (x == y) = (y == x) :=
  Bool.eq_iff_iff.2 (by rw [beq_eq_true_iff, beq_eq_true_iff]; exact unpacked_compare_eq_eq_comm _ _)

/-- A number equals itself exactly when it is not NaN. -/
theorem beq_self (x : Float32) : (x == x) = !x.isNaN := by
  have h := unpacked_compare_self x.toModel.unpack
  rw [← beq_eq_true_iff] at h
  have hnan : x.isNaN = x.toModel.unpack.isNaN := rfl
  apply Bool.eq_iff_iff.2
  rw [h, hnan]
  cases x.toModel.unpack.isNaN <;> decide

/-- A number equal to anything is not NaN. -/
theorem isNaN_of_beq {x y : Float32} (h : (x == y) = true) : x.isNaN = false :=
  unpacked_isNaN_of_compare ((beq_eq_true_iff x y).1 h)

/-- IEEE equality is transitive. -/
theorem beq_trans {x y z : Float32} (hxy : (x == y) = true) (hyz : (y == z) = true) : (x == z) = true :=
  (beq_eq_true_iff x z).2 (unpacked_compare_eq_trans ((beq_eq_true_iff x y).1 hxy) ((beq_eq_true_iff y z).1 hyz))

end Float32

/-! ## Points -/

namespace Vec3

/-- **A point with a NaN lane.** -/
def hasNaN (a : Vec3) : Bool := a.x.isNaN || a.y.isNaN || a.z.isNaN

/-- **IEEE equality of points is symmetric.** -/
theorem same_comm (a b : Vec3) : a.same b = b.same a := by
  rw [same, same, Float32.beq_comm a.x, Float32.beq_comm a.y, Float32.beq_comm a.z]

/-- **IEEE equality of points is transitive.** -/
theorem same_trans {a b c : Vec3} (hab : a.same b = true) (hbc : b.same c = true) : a.same c = true := by
  simp only [same, Bool.and_eq_true] at hab hbc ⊢
  obtain ⟨⟨hx, hy⟩, hz⟩ := hab
  obtain ⟨⟨hx', hy'⟩, hz'⟩ := hbc
  exact ⟨⟨Float32.beq_trans hx hx', Float32.beq_trans hy hy'⟩, Float32.beq_trans hz hz'⟩

/-- **A point equals itself exactly when it has no NaN lane.** -/
theorem same_self (a : Vec3) : a.same a = !a.hasNaN := by
  rw [same, hasNaN, Float32.beq_self, Float32.beq_self, Float32.beq_self]
  cases a.x.isNaN <;> cases a.y.isNaN <;> cases a.z.isNaN <;> rfl

/-- **A point equal to anything has no NaN lane.** -/
theorem hasNaN_of_same {a b : Vec3} (h : a.same b = true) : a.hasNaN = false := by
  simp only [same, Bool.and_eq_true] at h
  obtain ⟨⟨hx, hy⟩, hz⟩ := h
  rw [hasNaN, Float32.isNaN_of_beq hx, Float32.isNaN_of_beq hy, Float32.isNaN_of_beq hz]
  rfl

/-- A point equal to anything on the right has no NaN lane either. -/
theorem hasNaN_of_same_right {a b : Vec3} (h : a.same b = true) : b.hasNaN = false :=
  hasNaN_of_same (by rwa [same_comm] at h)

end Vec3

end Tensegrity
