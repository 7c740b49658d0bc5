import Mathlib
import ThemeOptions.Decimal.Binary

/-!
# Whole numbers as floats

A whole number `n` below `2 ^ 53` has a float of its own: its mantissa is `n` followed by as many
zeros as fill the fifty-three bits.  Nothing is lost on the way, neither when that mantissa is
rounded, nor when it is packed into bits, nor when the bits are taken apart again; so every signed
32-bit number is the nearest one to the float that it becomes.
-/

namespace ThemeOptions.Decimal

open Float.Model
open Float.Model.UnpackedFloat (Sign ExtendedMantissa Accuracy packComponents)

/-! ### Rounding -/

theorem log2_mul_two_pow {m : Nat} (hm : m ≠ 0) (k : Nat) : (m * 2 ^ k).log2 = m.log2 + k := by
  induction k with
  | zero => simp
  | succ k ih =>
    have hsplit : m * 2 ^ (k + 1) = 2 * (m * 2 ^ k) := by rw [Nat.pow_succ]; ring
    rw [hsplit, Nat.log2_two_mul (by positivity), ih, Nat.add_assoc]

theorem shiftRight_mul_two_pow (m k : Nat) :
    (⟨m * 2 ^ k, false, false⟩ : ExtendedMantissa) >>> k = ⟨m, false, false⟩ := by
  show k.repeat ExtendedMantissa.shiftRightOne _ = _
  induction k generalizing m with
  | zero => simp [Nat.repeat]
  | succ k ih =>
    have hsplit : m * 2 ^ (k + 1) = m * 2 * 2 ^ k := by rw [Nat.pow_succ']; ring
    rw [Nat.repeat, hsplit, ih]
    simp [ExtendedMantissa.shiftRightOne]

theorem targetExponent_binary64 (t : Int) :
    Format.binary64.targetExponent t = max (t - 53) (-1074) := by
  rfl

/-- A mantissa of fifty-three bits with some more zeros behind them is shifted back by these. -/
theorem shiftToTargetExponent_mul_two_pow {m : Nat} {e : Int} (hlog : m.log2 = 52)
    (he : -1074 ≤ e) (k : Nat) :
    UnpackedFloat.shiftToTargetExponent Format.binary64 (m * 2 ^ k) (e - k) .exact =
      (⟨m, false, false⟩, e) := by
  have hm : m ≠ 0 := by rintro rfl; simp at hlog
  have htarget : Format.binary64.targetExponent (totalExponent (m * 2 ^ k) (e - k)) = e := by
    rw [targetExponent_binary64, totalExponent, log2_mul_two_pow hm, hlog]
    push_cast
    omega
  have hshift : (e - (e - k)).toNat = k := by omega
  simp only [UnpackedFloat.shiftToTargetExponent, UnpackedFloat.shiftToExponent, htarget, hshift,
    ExtendedMantissa.ofMantissaAndAccuracy, shiftRight_mul_two_pow]
  rw [Int.sub_add_cancel]

/-- Nothing is rounded off a mantissa of fifty-three bits with some more zeros behind them. -/
theorem roundWithAccuracy_mul_two_pow {m : Nat} {e : Int} (s : Sign) (hlog : m.log2 = 52)
    (he : -1074 ≤ e) (k : Nat) (hm : 0 < m) :
    UnpackedFloat.roundWithAccuracy Format.binary64 s (m * 2 ^ k) (e - k) .exact =
      .finite s m e hm := by
  have hagain := shiftToTargetExponent_mul_two_pow hlog he 0
  simp only [Nat.pow_zero, Nat.mul_one, Nat.cast_zero, Int.sub_zero] at hagain
  simp [UnpackedFloat.roundWithAccuracy, shiftToTargetExponent_mul_two_pow hlog he k,
    ExtendedMantissa.roundedMantissa, ExtendedMantissa.accuracy,
    Accuracy.roundToNearestEven, hagain, hm.ne']

theorem ofNat_eq_finite {n k : Nat} (hpos : 0 < n * 2 ^ k) (hlog : n.log2 + k = 52) :
    UnpackedFloat.ofNat Format.binary64 n = .finite .positive (n * 2 ^ k) (-k) hpos := by
  have hn : n ≠ 0 := by rintro rfl; simp at hpos
  have hlog' : (n * 2 ^ k).log2 = 52 := by rw [log2_mul_two_pow hn, hlog]
  have hcompare : compare (n : Int) 0 = .gt := by
    rw [Int.compare_eq_gt]
    omega
  have htarget : Format.binary64.targetExponent (totalExponent n 0) = -k := by
    rw [targetExponent_binary64, totalExponent]
    omega
  have hround := roundWithAccuracy_mul_two_pow (e := -k) .positive hlog' (by omega) 0 hpos
  simp only [Nat.pow_zero, Nat.mul_one, Nat.cast_zero, Int.sub_zero] at hround
  have hshift : (0 - (-(k : Int))).toNat = k := by omega
  simp only [UnpackedFloat.ofNat, UnpackedFloat.ofInt, UnpackedFloat.normalize, hcompare,
    UnpackedFloat.round, htarget, UnpackedFloat.decreaseExponent, hshift, Int.toNat_natCast,
    Nat.shiftLeft_eq]
  rw [Int.zero_sub, hround]

/-! ### Bits -/

section Packing

variable {s : Sign} {m : Nat} {e : Int}

theorem pack_finite (hlog : m.log2 = 52) (hm : 0 < m) (he : -1074 ≤ e) (he' : e ≤ 971) :
    UnpackedFloat.pack Format.binary64 (.finite s m e hm) =
      packComponents Format.binary64 s (BitVec.ofNat 11 (e + 1075).toNat) (BitVec.ofNat 52 m) := by
  unfold UnpackedFloat.pack
  have hbias : e + Format.binary64.exponentBias + Format.binary64.mantissaBitsWithoutImplicit =
      e + 1075 := by
    show e + 1023 + 52 = e + 1075
    omega
  simp only [hbias]
  rw [if_neg, if_pos]
  · rw [hlog]; rfl
  · show ¬2 ^ 11 ≤ (e + 1075).toNat + 1
    omega

/-- The first of fifty-three bits is not stored. -/
theorem two_pow_add_mod (hlog : m.log2 = 52) : 2 ^ 52 + m % 2 ^ 52 = m := by
  have hm : m ≠ 0 := by rintro rfl; simp at hlog
  obtain ⟨hlow, hhigh⟩ := (Nat.log2_eq_iff hm).mp hlog
  omega

theorem unpack_pack_finite (hlog : m.log2 = 52) (hm : 0 < m) (he : -1074 ≤ e) (he' : e ≤ 971) :
    UnpackedFloat.unpack Format.binary64 (UnpackedFloat.pack Format.binary64 (.finite s m e hm)) =
      .finite s m e hm := by
  rw [pack_finite hlog hm he he']
  have hexp : (BitVec.ofNat 11 (e + 1075).toNat).toNat = (e + 1075).toNat := by
    rw [BitVec.toNat_ofNat]
    omega
  have hmax : BitVec.ofNat 11 (e + 1075).toNat ≠ -1#11 := by
    intro h
    have hnat := congrArg BitVec.toNat h
    rw [hexp] at hnat
    change (e + 1075).toNat = 2047 at hnat
    omega
  have hmin : BitVec.ofNat 11 (e + 1075).toNat ≠ 0#11 := by
    intro h
    have hnat := congrArg BitVec.toNat h
    rw [hexp] at hnat
    change (e + 1075).toNat = 0 at hnat
    omega
  have hmantissa : (1#1 ++ BitVec.ofNat 52 m).toNat = m := by
    rw [BitVec.toNat_append, BitVec.toNat_ofNat, BitVec.toNat_ofNat,
      ← Nat.shiftLeft_add_eq_or_of_lt (Nat.mod_lt m (Nat.two_pow_pos 52))]
    exact two_pow_add_mod hlog
  have hexponent : ((e + 1075).toNat : Int) - (Format.binary64.exponentBias + (52 : Nat)) = e := by
    change ((e + 1075).toNat : Int) - (1023 + 52) = e
    omega
  unfold UnpackedFloat.unpack
  simp only [UnpackedFloat.unpackExponent_packComponents,
    UnpackedFloat.unpackMantissa_packComponents, UnpackedFloat.unpackSign_packComponents,
    UnpackedFloat.Sign.ofBitVec_toBitVec, hexp, hmantissa]
  simp only [if_neg hmax, if_neg hmin, hexponent]

/-- The float that is packed from a sign, a mantissa of fifty-three bits and an exponent. -/
def packed (s : Sign) (m : Nat) (e : Int) (hm : 0 < m) : Float :=
  .ofModel (Float.Model.pack (.finite s m e hm))

theorem toNat_toBits_packed (hlog : m.log2 = 52) (hm : 0 < m) (he : -1074 ≤ e) (he' : e ≤ 971) :
    (packed s m e hm).toBits.toNat =
      s.toBitVec.toNat * 2 ^ 63 + (e + 1075).toNat * 2 ^ 52 + m % 2 ^ 52 := by
  show (UnpackedFloat.pack Format.binary64 (.finite s m e hm)).toNat = _
  rw [pack_finite hlog hm he he']
  show (s.toBitVec ++ BitVec.ofNat 11 (e + 1075).toNat ++ BitVec.ofNat 52 m).toNat = _
  have hexp : (e + 1075).toNat % 2 ^ 11 = (e + 1075).toNat := by omega
  rw [BitVec.toNat_append, BitVec.toNat_append, BitVec.toNat_ofNat, BitVec.toNat_ofNat, hexp,
    ← Nat.shiftLeft_add_eq_or_of_lt (by omega), ← Nat.shiftLeft_add_eq_or_of_lt (by omega)]
  simp only [Nat.shiftLeft_eq]
  omega

/-- A packed float is taken apart into what it was packed from. -/
theorem ofFloat_packed (hlog : m.log2 = 52) (hm : 0 < m) (he : -1074 ≤ e) (he' : e ≤ 971) :
    Binary.ofFloat (packed s m e hm) = .finite (s == .negative) m e := by
  have hbits := toNat_toBits_packed (s := s) hlog hm he he'
  have hwhole := two_pow_add_mod hlog
  have hsign : s.toBitVec.toNat < 2 := s.toBitVec.isLt
  have hnegative : (packed s m e hm).toBits.toNat / Nat.pow 2 63 % 2 = s.toBitVec.toNat := by
    rw [hbits, Nat.pow_eq]
    omega
  have hstored : (packed s m e hm).toBits.toNat / Nat.pow 2 52 % 2048 = (e + 1075).toNat := by
    rw [hbits, Nat.pow_eq]
    omega
  have hfraction : (packed s m e hm).toBits.toNat % Nat.pow 2 52 = m % 2 ^ 52 := by
    rw [hbits, Nat.pow_eq]
    omega
  simp only [Binary.ofFloat, storedBits, leastExponent, hnegative, hstored, hfraction]
  rw [if_neg (by omega), if_neg (by omega), Nat.pow_eq, hwhole]
  congr 1
  · cases s <;> rfl
  · omega

theorem neg_packed (hlog : m.log2 = 52) (hm : 0 < m) (he : -1074 ≤ e) (he' : e ≤ 971) :
    Float.neg (packed s m e hm) = packed (-s) m e hm := by
  show Float.ofModel (Float.Model.pack (UnpackedFloat.unpack _ (UnpackedFloat.pack _ _)).neg) = _
  rw [unpack_pack_finite hlog hm he he']
  rfl

end Packing

/-! ### Whole numbers -/

theorem unpack_one : (Float.ofBits 0x3FF0000000000000).toModel.unpack =
    .finite .positive (2 ^ 52) (-52) (by decide) := by
  rfl

/-- A number below `2 ^ 53` becomes a float with as many zeros in its mantissa as it leaves over. -/
theorem ofNat_eq_packed {n k : Nat} (hpos : 0 < n * 2 ^ k) (hlog : n.log2 + k = 52) :
    Float.ofNat n = packed .positive (n * 2 ^ k) (-k) hpos := by
  have hn : n ≠ 0 := by rintro rfl; simp at hpos
  have hlog' : (n * 2 ^ k).log2 = 52 := by rw [log2_mul_two_pow hn, hlog]
  have hsmall : n < 2 ^ 53 := by
    rw [← Nat.log2_lt hn]
    omega
  have hword : n.toUInt64.toNat = n := by
    show n % 2 ^ 64 = n
    omega
  have hunpack : (Float.Model.ofUInt64 n.toUInt64).unpack =
      .finite .positive (n * 2 ^ k) (-k) hpos := by
    show UnpackedFloat.unpack _ (UnpackedFloat.pack _ (UnpackedFloat.ofNat _ n.toUInt64.toNat)) = _
    rw [hword, ofNat_eq_finite hpos hlog, unpack_pack_finite hlog' hpos (by omega) (by omega)]
  have hscale : (-k : Int) + -52 = -k - (52 : Nat) := by omega
  -- A number is read as a decimal one, so it is multiplied with the zeroth power of ten.
  show Float.ofScientific n false 0 = _
  unfold Float.ofScientific
  rw [dif_pos ⟨hsmall, by decide⟩]
  show Float.ofModel (Float.Model.pack (UnpackedFloat.mul _
    (Float.Model.ofUInt64 n.toUInt64).unpack (Float.ofBits 0x3FF0000000000000).toModel.unpack)) = _
  rw [hunpack, unpack_one]
  show Float.ofModel (Float.Model.pack (UnpackedFloat.roundWithAccuracy _ .positive
    (n * 2 ^ k * 2 ^ 52) (-k + -52) .exact)) = _
  rw [hscale, roundWithAccuracy_mul_two_pow .positive hlog' (by omega) 52 hpos]
  rfl

theorem ofInt_eq_packed {i : Int} {k : Nat} (hpos : 0 < i.natAbs * 2 ^ k)
    (hlog : i.natAbs.log2 + k = 52) : Float.ofInt i =
      packed (if i < 0 then .negative else .positive) (i.natAbs * 2 ^ k) (-k) hpos := by
  cases i with
  | ofNat n => exact ofNat_eq_packed hpos hlog
  | negSucc n =>
    have hlog' : ((n + 1) * 2 ^ k).log2 = 52 := by rw [log2_mul_two_pow (by omega)]; exact hlog
    have hpositive := ofNat_eq_packed (n := n + 1) hpos hlog
    show Float.neg (Float.ofNat (n + 1)) = _
    rw [hpositive, neg_packed hlog' hpos (by omega) (by omega), if_pos (Int.negSucc_lt_zero n)]
    rfl

theorem nearestWhole_mul_two_pow (n k : Nat) : nearestWhole (n * 2 ^ k) (-k) = n := by
  unfold nearestWhole
  split
  · have hk : k = 0 := by omega
    simp [hk]
  · have hunit : 0 < 2 ^ k := Nat.two_pow_pos k
    have hhalf : 2 ^ k / 2 / 2 ^ k = 0 := Nat.div_eq_of_lt (Nat.div_lt_self hunit (by decide))
    rw [Int.neg_neg, Int.toNat_natCast]
    show (n * 2 ^ k + 2 ^ k / 2) / 2 ^ k = n
    rw [Nat.mul_comm, Nat.mul_add_div hunit, hhalf, Nat.add_zero]

theorem toInt32_packed {s : Sign} {n k : Nat} (hpos : 0 < n * 2 ^ k) (hlog : n.log2 + k = 52) :
    toInt32 (packed s (n * 2 ^ k) (-k) hpos) = Int32.ofInt (max Int32.minValue.toInt
      (min Int32.maxValue.toInt (if s == .negative then -n else n))) := by
  have hn : n ≠ 0 := by rintro rfl; simp at hpos
  have hlog' : (n * 2 ^ k).log2 = 52 := by rw [log2_mul_two_pow hn, hlog]
  have hfloat : Binary.ofFloat (packed s (n * 2 ^ k) (-k) hpos) =
      .finite (s == .negative) (n * 2 ^ k) (-k) :=
    ofFloat_packed hlog' hpos (by omega) (by omega)
  simp only [toInt32, hfloat, nearestWhole_mul_two_pow]

/-- **A signed 32-bit number is the nearest one to the float that it becomes.** -/
theorem toInt32_ofInt (n : Int32) : toInt32 (Float.ofInt n.toInt) = n := by
  have hlow : -2147483648 ≤ n.toInt := n.le_toInt
  have hhigh : n.toInt < 2147483648 := n.toInt_lt
  by_cases hzero : n.toInt = 0
  · rw [← Int32.ofInt_toInt n, hzero]
    decide +kernel
  · have habs : n.toInt.natAbs ≠ 0 := Int.natAbs_ne_zero.mpr hzero
    have hlog : n.toInt.natAbs.log2 < 53 := (Nat.log2_lt habs).mpr (by omega)
    have hpos : 0 < n.toInt.natAbs * 2 ^ (52 - n.toInt.natAbs.log2) := by positivity
    rw [ofInt_eq_packed hpos (by omega), toInt32_packed hpos (by omega)]
    have hsigned : (if (if n.toInt < 0 then Sign.negative else Sign.positive) == .negative
        then -(n.toInt.natAbs : Int) else n.toInt.natAbs) = n.toInt := by
      by_cases hneg : n.toInt < 0
      · rw [if_pos hneg, if_pos (by decide)]
        omega
      · rw [if_neg hneg, if_neg (by decide)]
        omega
    have hrange : max Int32.minValue.toInt (min Int32.maxValue.toInt n.toInt) = n.toInt := by
      show max (-2147483648) (min 2147483647 n.toInt) = n.toInt
      omega
    rw [hsigned, hrange, Int32.ofInt_toInt]

end ThemeOptions.Decimal
