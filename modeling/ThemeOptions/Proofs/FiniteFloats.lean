import Mathlib
import ThemeOptions.Proofs.WholeNumbers

/-!
# Finite floats

A float is finite unless its exponent bits are all ones.  Its negative and its half are finite just
when it is (`isFinite_neg`, `isFinite_half`): what is packed into a float is finite if its exponent
is not above the largest one (`isFinite_pack`), and rounding a quotient moves the exponent by no
more than one.
-/

namespace ThemeOptions.Decimal

open Float.Model
open Float.Model.UnpackedFloat (Sign Accuracy ExtendedMantissa unpackExponent divCore
  roundWithAccuracy)

/-! ### Packing -/

theorem isFinite_iff (x : Float) :
    isFinite x = true ↔ @unpackExponent Format.binary64 x.toBits.toBitVec ≠ -1#11 := by
  have hstored : (@unpackExponent Format.binary64 x.toBits.toBitVec).toNat =
      x.toBits.toNat / Nat.pow 2 storedBits % 2048 := by
    rw [UnpackedFloat.unpackExponent_def, BitVec.extractLsb'_toNat, Nat.shiftRight_eq_div_pow]
    rfl
  have hones : (-1#11).toNat = 2047 := rfl
  rw [ne_eq, ← BitVec.toNat_inj, hstored, hones]
  unfold isFinite Binary.ofFloat
  dsimp only
  by_cases h : x.toBits.toNat / Nat.pow 2 storedBits % 2048 = 2047
  · rw [if_pos h]
    by_cases hfraction : x.toBits.toNat % Nat.pow 2 storedBits = 0
    · rw [if_pos hfraction]
      exact ⟨fun e => absurd e (by simp), fun e => absurd h e⟩
    · rw [if_neg hfraction]
      exact ⟨fun e => absurd e (by simp), fun e => absurd h e⟩
  · rw [if_neg h]
    by_cases hsubnormal : x.toBits.toNat / Nat.pow 2 storedBits % 2048 = 0
    · rw [if_pos hsubnormal]
      exact ⟨fun _ => h, fun _ => rfl⟩
    · rw [if_neg hsubnormal]
      exact ⟨fun _ => h, fun _ => rfl⟩

/-- The largest exponent of two that a finite float has. -/
def greatestExponent : Int := 971

/-- Whether a float is packed into a finite one. -/
def fits : UnpackedFloat → Bool
  | .zero _ => true
  | .finite _ _ exponent _ => exponent ≤ greatestExponent
  | _ => false

/-- What is packed is finite unless its exponent is too large. -/
theorem isFinite_pack (u : UnpackedFloat) :
    isFinite (.ofModel (Float.Model.pack u)) = fits u := by
  rw [Bool.eq_iff_iff, isFinite_iff]
  show unpackExponent (UnpackedFloat.pack Format.binary64 u) ≠ -1#11 ↔ fits u = true
  cases u with
  | notANumber =>
    show unpackExponent (UnpackedFloat.packComponents _ _ _ _) ≠ _ ↔ _
    rw [UnpackedFloat.unpackExponent_packComponents]
    decide
  | infinity s =>
    show unpackExponent (UnpackedFloat.packComponents _ _ _ _) ≠ _ ↔ _
    rw [UnpackedFloat.unpackExponent_packComponents]
    exact ⟨fun h => absurd rfl h, fun h => absurd h (by simp [fits])⟩
  | zero s =>
    show unpackExponent (UnpackedFloat.packComponents _ _ _ _) ≠ _ ↔ _
    rw [UnpackedFloat.unpackExponent_packComponents]
    exact ⟨fun _ => rfl, fun _ => by decide⟩
  | finite s m e hm =>
    have hbias : Format.binary64.exponentBias = 1023 := rfl
    unfold UnpackedFloat.pack fits greatestExponent
    dsimp only
    rw [hbias, decide_eq_true_eq]
    -- too large an exponent is packed as an infinity, a small mantissa without an exponent
    by_cases hlarge : 2 ^ 11 ≤ (e + (1023 : Nat) + (52 : Nat)).toNat + 1
    · rw [if_pos hlarge, UnpackedFloat.packedInfinity, UnpackedFloat.unpackExponent_packComponents]
      exact ⟨fun h => absurd rfl h, fun h => by omega⟩
    rw [if_neg hlarge]
    refine ⟨fun _ => by omega, fun _ => ?_⟩
    by_cases hnormal : m.log2 + 1 = Format.binary64.mantissaBits
    · rw [if_pos hnormal, UnpackedFloat.unpackExponent_packComponents, ne_eq, ← BitVec.toNat_inj,
        BitVec.toNat_ofNat]
      show ¬_ = 2047
      omega
    · rw [if_neg hnormal, UnpackedFloat.unpackExponent_packComponents]
      decide

/-- A float is packed into itself. -/
theorem isFinite_eq_fits (x : Float) : isFinite x = fits x.toModel.unpack := by
  rw [← isFinite_pack]
  exact congrArg isFinite (Float.ofBits_toBits x).symm

/-! ### The negative of a float -/

theorem isFinite_neg (x : Float) : isFinite (-x) = isFinite x := by
  rw [isFinite_eq_fits x]
  show isFinite (.ofModel (Float.Model.pack x.toModel.unpack.neg)) = _
  rw [isFinite_pack]
  cases x.toModel.unpack <;> rfl

/-! ### Rounding -/

theorem mantissa_shiftRight (em : ExtendedMantissa) (k : Nat) :
    (em >>> k).mantissa = em.mantissa / 2 ^ k := by
  show (k.repeat ExtendedMantissa.shiftRightOne em).mantissa = _
  induction k with
  | zero => simp [Nat.repeat]
  | succ k ih =>
    rw [Nat.repeat, Nat.pow_succ, ← Nat.div_div_eq_div_mul, ← ih]
    rfl

theorem mantissa_ofMantissaAndAccuracy (m : Nat) (accuracy : Accuracy) :
    (ExtendedMantissa.ofMantissaAndAccuracy m accuracy).mantissa = m := by
  cases accuracy with
  | exact => rfl
  | inexact order => cases order <;> rfl

theorem roundedMantissa_le (em : ExtendedMantissa) : em.roundedMantissa ≤ em.mantissa + 1 := by
  obtain ⟨m, roundBit, stickyBit⟩ := em
  have hparity : m % 2 < 2 := Nat.mod_lt m (by decide)
  cases roundBit <;> cases stickyBit <;>
    simp only [ExtendedMantissa.roundedMantissa, ExtendedMantissa.accuracy,
      Accuracy.roundToNearestEven] <;>
    omega

/-- A mantissa that is shifted to its target exponent and rounded has fifty-three bits, or it is the
least number with one more. -/
theorem log2_roundedMantissa_le (m : Nat) (accuracy : Accuracy) {k : Nat}
    (hk : m.log2 ≤ 52 + k) :
    (ExtendedMantissa.ofMantissaAndAccuracy m accuracy >>> k).roundedMantissa.log2 ≤ 53 := by
  have hle := roundedMantissa_le (ExtendedMantissa.ofMantissaAndAccuracy m accuracy >>> k)
  rw [mantissa_shiftRight, mantissa_ofMantissaAndAccuracy] at hle
  have hlt : m / 2 ^ k < 2 ^ 53 := by
    rw [Nat.div_lt_iff_lt_mul (Nat.two_pow_pos k), ← Nat.pow_add]
    calc m < 2 ^ (m.log2 + 1) := Nat.lt_log2_self
      _ ≤ 2 ^ (53 + k) := Nat.pow_le_pow_right (by decide) (by omega)
  generalize (ExtendedMantissa.ofMantissaAndAccuracy m accuracy >>> k).roundedMantissa = r at hle
  rcases Nat.eq_zero_or_pos r with rfl | hpos
  · decide
  · exact Nat.lt_succ_iff.mp ((Nat.log2_lt hpos.ne').mpr (by omega))

/-- Rounding makes an exponent at most one larger than the mantissa asks for. -/
theorem fits_roundWithAccuracy (s : Sign) (m : Nat) {e : Int} (accuracy : Accuracy)
    (he : e < greatestExponent) (hm : m.log2 + e - 52 < greatestExponent) :
    fits (roundWithAccuracy Format.binary64 s m e accuracy) = true := by
  have hlog := log2_roundedMantissa_le m accuracy
    (k := (max (m.log2 + 1 + e - 53) (-1074) - e).toNat) (by omega)
  unfold greatestExponent at he hm
  unfold roundWithAccuracy UnpackedFloat.shiftToTargetExponent UnpackedFloat.shiftToExponent
  simp only [targetExponent_binary64, totalExponent]
  split
  · rfl
  · refine decide_eq_true ?_
    show _ ≤ (971 : Int)
    omega

/-! ### Half of a float -/

theorem unpack_two : (2 : Float).toModel.unpack = .finite .positive (2 ^ 52) (-51) (by decide) := by
  rfl

/-- The parts of a finite float are fifty-three bits and an exponent in range. -/
theorem range_of_unpack {b : BitVec Format.binary64.numBits} {s : Sign} {m : Nat} {e : Int}
    {hm : 0 < m} (h : UnpackedFloat.unpack Format.binary64 b = .finite s m e hm) :
    m < 2 ^ 53 ∧ -1074 ≤ e ∧ e ≤ greatestExponent := by
  have hbias : Format.binary64.exponentBias = 1023 := rfl
  have hexponent : (@unpackExponent Format.binary64 b).toNat < 2 ^ 11 :=
    (@unpackExponent Format.binary64 b).isLt
  unfold greatestExponent
  unfold UnpackedFloat.unpack at h
  dsimp only at h
  rw [hbias] at h
  split at h
  · split at h <;> cases h
  rename_i hones
  have hones : (@unpackExponent Format.binary64 b).toNat ≠ 2047 := fun e =>
    hones (BitVec.eq_of_toNat_eq e)
  split at h
  · split at h
    · cases h
    · rename_i hzero _
      obtain ⟨-, rfl, rfl⟩ := UnpackedFloat.finite.inj h
      have hmantissa : (@UnpackedFloat.unpackMantissa Format.binary64 b).toNat < 2 ^ 52 :=
        (@UnpackedFloat.unpackMantissa Format.binary64 b).isLt
      have hleast : (@unpackExponent Format.binary64 b).toNat = 0 :=
        congrArg BitVec.toNat hzero
      omega
  · rename_i hzero
    have hleast : (@unpackExponent Format.binary64 b).toNat ≠ 0 := fun e =>
      hzero (BitVec.eq_of_toNat_eq e)
    obtain ⟨-, rfl, rfl⟩ := UnpackedFloat.finite.inj h
    have hmantissa : (1#1 ++ @UnpackedFloat.unpackMantissa Format.binary64 b).toNat <
        2 ^ 53 := (1#1 ++ @UnpackedFloat.unpackMantissa Format.binary64 b).isLt
    omega

/-- The quotient of fifty-three bits and two before it is rounded. -/
theorem divCore_two {m : Nat} {e : Int} (hm : 0 < m) (hbits : m < 2 ^ 53) (hleast : -1074 ≤ e)
    (hgreatest : e ≤ greatestExponent) :
    (divCore Format.binary64 m e (2 ^ 52) (-51)).2.1 < greatestExponent ∧
      (divCore Format.binary64 m e (2 ^ 52) (-51)).1.log2 +
        (divCore Format.binary64 m e (2 ^ 52) (-51)).2.1 - 52 < greatestExponent := by
  have hlog : m.log2 ≤ 52 := Nat.lt_succ_iff.mp ((Nat.log2_lt hm.ne').mpr hbits)
  have htwo : (2 ^ 52).log2 = 52 := Nat.log2_two_pow
  unfold greatestExponent at hgreatest ⊢
  unfold divCore
  rw [targetExponent_binary64]
  simp only [totalExponent, htwo]
  generalize ht : min (e - -51) (max (m.log2 + 1 + e - ((52 : Nat) + 1 + -51) - 53) (-1074)) = t
  generalize hk : (e - -51 - t).toNat = k
  -- the dividend is shifted by `k`, so the quotient has at most one bit more than `k`
  have hquotient : (m <<< k / 2 ^ 52).log2 ≤ k := by
    rcases Nat.eq_zero_or_pos (m <<< k / 2 ^ 52) with hzero | hpos
    · rw [hzero]
      exact Nat.zero_le k
    · refine Nat.lt_succ_iff.mp ((Nat.log2_lt hpos.ne').mpr ?_)
      rw [Nat.div_lt_iff_lt_mul (Nat.two_pow_pos 52), Nat.shiftLeft_eq, ← Nat.pow_add]
      calc m * 2 ^ k < 2 ^ 53 * 2 ^ k := Nat.mul_lt_mul_of_pos_right hbits (Nat.two_pow_pos k)
        _ = 2 ^ (k.succ + 52) := by rw [← Nat.pow_add]; congr 1; omega
  omega

theorem isFinite_half (x : Float) : isFinite (x / 2) = isFinite x := by
  rw [isFinite_eq_fits x]
  show isFinite (.ofModel (Float.Model.pack
    (UnpackedFloat.div Format.binary64 x.toModel.unpack (2 : Float).toModel.unpack))) = _
  rw [isFinite_pack, unpack_two]
  cases hx : x.toModel.unpack with
  | notANumber => rfl
  | infinity s => rfl
  | zero s => rfl
  | finite s m e hm =>
    obtain ⟨hbits, hleast, hgreatest⟩ := range_of_unpack hx
    obtain ⟨hexponent, hmantissa⟩ := divCore_two hm hbits hleast hgreatest
    have hquotient : fits (UnpackedFloat.div Format.binary64 (.finite s m e hm)
        (.finite .positive (2 ^ 52) (-51) (by decide))) = true :=
      fits_roundWithAccuracy _ _ _ hexponent hmantissa
    rw [hquotient]
    exact (decide_eq_true hgreatest).symm

end ThemeOptions.Decimal
