import Mathlib
import Plumbline.Proofs.Cap

namespace Plumbline

namespace Scale

open Float.Model (Format UnpackedFloat)
open Float.Model.UnpackedFloat

/-- Bits stand for something other than a number only where the exponent is as large as it gets. -/
theorem isNaN_unpack {spec : Format} {bits : BitVec spec.numBits}
    (number : unpackExponent bits ≠ -1#_ ∨ unpackMantissa bits = 0#_) : (unpack spec bits).isNaN = false := by
  simp only [unpack]
  split
  · rename_i largest
    rw [if_pos (number.resolve_left (not_not.mpr largest))]
    rfl
  · split
    · split <;> rfl
    · rfl

theorem isNaN_unpack_pack (spec : Format) {x : UnpackedFloat} (number : x.isNaN = false) :
    (unpack spec (pack spec x)).isNaN = false := by
  apply isNaN_unpack
  fun_cases pack with
  | case1 => contradiction
  | case2 sign => exact .inr (by simp [packedInfinity])
  | case3 sign => exact .inr (by simp [packedZero])
  | case4 sign mantissa exponent positive biased large => exact .inr (by simp [packedInfinity])
  | case5 sign mantissa exponent positive bits biased small normal =>
    left
    have fits : biased % 2 ^ spec.exponentBits ≠ 2 ^ spec.exponentBits - 1 := by
      rw [Nat.mod_eq_of_lt (by omega)]
      omega
    simp [BitVec.neg_one_eq_allOnes, ← BitVec.toNat_inj, fits]
  | case6 sign mantissa exponent positive bits biased small subnormal =>
    exact .inl (by simp [Nat.pos_iff_ne_zero.mp spec.he])

theorem isNaN_roundWithAccuracy (spec : Format) (sign : Sign) (mantissa : Nat) (exponent : Int) (accuracy : Accuracy) :
    (roundWithAccuracy spec sign mantissa exponent accuracy).isNaN = false := by
  unfold roundWithAccuracy
  dsimp only
  split <;> rfl

theorem isNaN_normalize (spec : Format) (mantissa exponent : Int) (sign : Sign) :
    (UnpackedFloat.normalize spec mantissa exponent sign).isNaN = false := by
  unfold UnpackedFloat.normalize
  split
  · exact isNaN_roundWithAccuracy ..
  · rfl
  · exact isNaN_roundWithAccuracy ..

/-- The double of a whole number is a number. -/
theorem isNaN_toFloat (n : UInt64) : n.toFloat.isNaN = false :=
  isNaN_unpack_pack Format.binary64 (isNaN_normalize Format.binary64 n.toNat 0 .positive)

theorem isNaN_neg {x : Float} (number : x.isNaN = false) : (-x).isNaN = false := by
  have negated : x.toModel.unpack.neg.isNaN = false := by
    change x.toModel.unpack.isNaN = false at number
    cases unpacked : x.toModel.unpack with
    | notANumber =>
      rw [unpacked] at number
      contradiction
    | _ => rfl
  exact isNaN_unpack_pack Format.binary64 negated

end Scale

end Plumbline
