import XdotViewer.Decimal.Binary64
import XdotViewer.Proofs.Geometry.Doubles

/-! # Doubles of whole numbers

The double nearest to a positive number is finite and positive. Its exponent is that of the leading
digit, or one more if the mantissa was rounded up to a power of two. So the doubles of whole numbers
keep their signs, and keep the order of numbers between which a power of two lies.
-/

namespace XdotViewer

namespace Double

open Float.Model
open Float.Model.UnpackedFloat

/-- A mantissa with its leading digit in the place that the format gives it. -/
def IsNormal (mantissa : Nat) : Prop :=
  2 ^ 52 ≤ mantissa ∧ mantissa < 2 ^ 53

variable {m q s : Nat} {e : ℤ} {sign : Sign}

private theorem IsNormal.pos (normal : IsNormal m) : 0 < m :=
  Nat.lt_of_lt_of_le (by norm_num) normal.1

private theorem IsNormal.log2_eq (normal : IsNormal m) : m.log2 = 52 :=
  (Nat.log2_eq_iff normal.pos.ne').mpr normal

private theorem isNormal_div (log : m.log2 = 52 + s) : IsNormal (m / 2 ^ s) := by
  have positive : m ≠ 0 := by
    rintro rfl
    rw [Nat.log2_zero] at log
    omega
  obtain ⟨low, high⟩ := (Nat.log2_eq_iff positive).mp log
  rw [pow_add] at low
  rw [show 52 + s + 1 = 53 + s by omega, pow_add] at high
  exact ⟨(Nat.le_div_iff_mul_le (Nat.two_pow_pos s)).mpr low,
    (Nat.div_lt_iff_lt_mul (Nat.two_pow_pos s)).mpr high⟩

private theorem mantissa_repeat_shiftRightOne (em : ExtendedMantissa) (s : Nat) :
    (s.repeat ExtendedMantissa.shiftRightOne em).mantissa = em.mantissa / 2 ^ s := by
  induction s with
  | zero => simp [Nat.repeat]
  | succ s ih =>
    rw [Nat.repeat, ExtendedMantissa.shiftRightOne, ih, Nat.div_div_eq_div_mul, pow_succ]

/-- Nothing is lost of a multiple. -/
theorem repeat_shiftRightOne_mul (q s : Nat) :
    s.repeat ExtendedMantissa.shiftRightOne ⟨q * 2 ^ s, false, false⟩ = ⟨q, false, false⟩ := by
  induction s generalizing q with
  | zero => simp [Nat.repeat]
  | succ s ih =>
    have twice : q * 2 ^ (s + 1) = 2 * q * 2 ^ s := by ring
    rw [Nat.repeat, twice, ih]
    simp [ExtendedMantissa.shiftRightOne]

private theorem roundedMantissa_bounds (em : ExtendedMantissa) :
    em.mantissa ≤ em.roundedMantissa ∧ em.roundedMantissa ≤ em.mantissa + 1 := by
  obtain ⟨m, round, sticky⟩ := em
  cases round <;> cases sticky <;>
    simp only [ExtendedMantissa.roundedMantissa, ExtendedMantissa.accuracy,
      Accuracy.roundToNearestEven] <;> omega

/-- A number with too many digits is shifted until its leading digit is in place. -/
theorem shiftToTargetExponent_eq (log : m.log2 = 52 + s) (low : -1074 ≤ e + s) :
    shiftToTargetExponent .binary64 m e .exact =
      (s.repeat ExtendedMantissa.shiftRightOne ⟨m, false, false⟩, e + s) := by
  have target : Format.targetExponent .binary64 (totalExponent m e) = e + s := by
    have least : Format.minExponent .binary64 = -1074 := rfl
    have bits : (Format.mantissaBits .binary64 : ℤ) = 53 := rfl
    rw [Format.targetExponent, totalExponent, log, least, bits]
    push_cast
    omega
  have amount : (e + s - e).toNat = s := by omega
  rw [shiftToTargetExponent, target, shiftToExponent, amount]
  rfl

private theorem log2_mul_two_pow (positive : m ≠ 0) (s : Nat) : (m * 2 ^ s).log2 = m.log2 + s := by
  have one : 0 < 2 ^ s := Nat.two_pow_pos s
  refine (Nat.log2_eq_iff (Nat.mul_ne_zero positive one.ne')).mpr ⟨?_, ?_⟩
  · rw [pow_add]
    exact Nat.mul_le_mul_right _ (Nat.log2_self_le positive)
  · rw [show m.log2 + s + 1 = m.log2 + 1 + s by omega, pow_add]
    exact Nat.mul_lt_mul_of_pos_right Nat.lt_log2_self one

private theorem IsNormal.log2_mul (normal : IsNormal q) (s : Nat) : (q * 2 ^ s).log2 = 52 + s := by
  rw [log2_mul_two_pow normal.pos.ne', normal.log2_eq]

/-- Nothing is lost of a mantissa with zeros behind it. -/
theorem shiftToTargetExponent_mul (normal : IsNormal q) (low : -1074 ≤ e + s) :
    shiftToTargetExponent .binary64 (q * 2 ^ s) e .exact = (⟨q, false, false⟩, e + s) := by
  rw [shiftToTargetExponent_eq (normal.log2_mul s) low, repeat_shiftRightOne_mul]

private theorem shiftToTargetExponent_of_normal (normal : IsNormal m) (low : -1074 ≤ e) :
    shiftToTargetExponent .binary64 m e .exact = (⟨m, false, false⟩, e) := by
  have shifted := shiftToTargetExponent_mul (s := 0) (e := e) normal (by omega)
  simpa using shifted

/-- A mantissa with zeros behind it is rounded to itself. -/
theorem roundWithAccuracy_mul (sign : Sign) (normal : IsNormal q) (low : -1074 ≤ e + s)
    (positive : 0 < q) :
    roundWithAccuracy .binary64 sign (q * 2 ^ s) e .exact = .finite sign q (e + s) positive := by
  rw [roundWithAccuracy, shiftToTargetExponent_mul normal low]
  simp only [ExtendedMantissa.roundedMantissa, ExtendedMantissa.accuracy,
    Accuracy.roundToNearestEven, shiftToTargetExponent_of_normal normal low]
  rw [dif_neg positive.ne']

/-- A number is rounded to one with its leading digit in place. The exponent is greater by one than
the shift alone makes it only if the mantissa came to a power of two. -/
theorem exists_roundWithAccuracy (sign : Sign) (log : m.log2 = 52 + s) (low : -1074 ≤ e + s) :
    ∃ r f, ∃ positive : 0 < r,
      roundWithAccuracy .binary64 sign m e .exact = .finite sign r f positive ∧ IsNormal r ∧
        (f = e + s ∨ f = e + s + 1 ∧ r = 2 ^ 52) := by
  have quotient := isNormal_div log
  let em := s.repeat ExtendedMantissa.shiftRightOne ⟨m, false, false⟩
  have same : em.mantissa = m / 2 ^ s := mantissa_repeat_shiftRightOne _ s
  obtain ⟨least, most⟩ := roundedMantissa_bounds em
  rw [same] at least most
  rw [roundWithAccuracy, shiftToTargetExponent_eq log low]
  simp only
  by_cases small : em.roundedMantissa < 2 ^ 53
  · have normal : IsNormal em.roundedMantissa := ⟨quotient.1.trans least, small⟩
    refine ⟨em.roundedMantissa, e + s, normal.pos, ?_, normal, .inl rfl⟩
    rw [shiftToTargetExponent_of_normal normal low]
    simp only
    rw [dif_neg normal.pos.ne']
  · have whole : em.roundedMantissa = 2 ^ 52 * 2 ^ 1 := by
      have := quotient.2
      omega
    have one : IsNormal (2 ^ 52) := ⟨le_rfl, by norm_num⟩
    refine ⟨2 ^ 52, e + s + 1, by norm_num, ?_, one, .inr ⟨rfl, rfl⟩⟩
    have shifted := shiftToTargetExponent_mul (s := 1) (e := e + s) one (by push_cast; omega)
    rw [whole, shifted]
    simp

private theorem ofBitVec_unpackSign (sign : Sign) (exponent : BitVec 11) (mantissa : BitVec 52) :
    Sign.ofBitVec (unpackSign (packComponents .binary64 sign exponent mantissa)) = sign := by
  have bit : unpackSign (packComponents .binary64 sign exponent mantissa) = sign.toBitVec := by
    change (sign.toBitVec ++ exponent ++ mantissa).extractLsb' 63 1 = sign.toBitVec
    rw [BitVec.extractLsb'_append_eq_of_le (by decide),
      BitVec.extractLsb'_append_eq_of_le (by decide)]
    cases sign <;> rfl
  rw [bit]
  cases sign <;> rfl

/-- A double with its leading digit in place is packed without loss. -/
theorem unpack_pack (normal : IsNormal m) (low : -1074 ≤ e) (high : e ≤ 971) (positive : 0 < m) :
    (Float.Model.pack (.finite sign m e positive)).unpack = .finite sign m e positive := by
  change UnpackedFloat.unpack .binary64 (UnpackedFloat.pack .binary64 _) = _
  have biased : (e + Format.exponentBias .binary64 +
      Format.mantissaBitsWithoutImplicit .binary64).toNat = (e + 1075).toNat := by
    change (e + 1023 + 52).toNat = _
    omega
  have code : (BitVec.ofNat 11 (e + 1075).toNat).toNat = (e + 1075).toNat := by
    rw [BitVec.toNat_ofNat]
    exact Nat.mod_eq_of_lt (by omega)
  have finite : BitVec.ofNat 11 (e + 1075).toNat ≠ -1#11 := fun same => by
    have same := congrArg BitVec.toNat same
    rw [code] at same
    change _ = 2047 at same
    omega
  have large : BitVec.ofNat 11 (e + 1075).toNat ≠ 0#11 := fun same => by
    have same := congrArg BitVec.toNat same
    rw [code] at same
    change _ = 0 at same
    omega
  have digits : (1#1 ++ BitVec.ofNat 52 m).toNat = m := by
    obtain ⟨least, most⟩ := normal
    rw [BitVec.toNat_append, ← Nat.shiftLeft_add_eq_or_of_lt (BitVec.ofNat 52 m).isLt,
      BitVec.toNat_ofNat]
    change 2 ^ 52 + m % 2 ^ 52 = m
    omega
  have packed : UnpackedFloat.pack .binary64 (.finite sign m e positive) =
      packComponents .binary64 sign (BitVec.ofNat 11 (e + 1075).toNat) (BitVec.ofNat 52 m) := by
    rw [UnpackedFloat.pack]
    simp only [biased, normal.log2_eq]
    rw [if_neg (by change ¬ 2048 ≤ _; omega)]
    exact if_pos rfl
  rw [packed, UnpackedFloat.unpack]
  simp only [unpackMantissa_packComponents, unpackExponent_packComponents, ofBitVec_unpackSign]
  rw [if_neg finite, if_neg large]
  simp only [digits, code]
  congr 1
  change ((e + 1075).toNat : ℤ) - (1023 + 52) = e
  omega

/-- A double of this sign and about this magnitude: its exponent is that of the leading digit, or
one more if the mantissa came to a power of two. -/
def IsNear (sign : Sign) (n : Nat) (a : UnpackedFloat) : Prop :=
  ∃ m e, ∃ positive : 0 < m, a = .finite sign m e positive ∧ IsNormal m ∧
    (e = n.log2 - 52 ∨ e = n.log2 - 51 ∧ m = 2 ^ 52)

variable {n : Nat} {a : Float}

private theorem log2_lt_of_bounded (bounded : n < 2 ^ 200) : n.log2 < 200 := by
  rcases Nat.eq_zero_or_pos n with rfl | positive
  · rw [Nat.log2_zero]
    norm_num
  · exact (Nat.log2_lt positive.ne').mpr bounded

private theorem isNear_pack {b : UnpackedFloat} (near : IsNear sign n b) (bounded : n < 2 ^ 200) :
    IsNear sign n (Float.Model.pack b).unpack := by
  obtain ⟨m, e, positive, rfl, normal, exponent⟩ := near
  have := log2_lt_of_bounded bounded
  exact ⟨m, e, positive, unpack_pack normal (by omega) (by omega) positive, normal, exponent⟩

private theorem isNormal_mul (positive : n ≠ 0) (small : n.log2 ≤ 52) :
    IsNormal (n * 2 ^ (52 - n.log2)) := by
  have log : (n * 2 ^ (52 - n.log2)).log2 = 52 := by
    rw [log2_mul_two_pow positive]
    omega
  have positive : n * 2 ^ (52 - n.log2) ≠ 0 := by positivity
  exact (Nat.log2_eq_iff positive).mp log

/-- Numbers of up to 53 digits are not rounded. -/
theorem ofNat_of_small (positive : n ≠ 0) (small : n.log2 ≤ 52) :
    UnpackedFloat.ofNat .binary64 n =
      .finite .positive (n * 2 ^ (52 - n.log2)) (n.log2 - 52)
        (isNormal_mul positive small).pos := by
  have target : Format.targetExponent .binary64 (totalExponent n 0) = n.log2 - 52 := by
    have least : Format.minExponent .binary64 = -1074 := rfl
    have bits : (Format.mantissaBits .binary64 : ℤ) = 53 := rfl
    rw [Format.targetExponent, totalExponent, least, bits]
    omega
  have amount : (0 - ((n.log2 : ℤ) - 52)).toNat = 52 - n.log2 := by omega
  have above : compare (n : ℤ) 0 = .gt := by
    rw [Int.compare_eq_gt]
    omega
  rw [UnpackedFloat.ofNat, UnpackedFloat.ofInt, UnpackedFloat.normalize, above]
  simp only [UnpackedFloat.round, Int.toNat_natCast, target, decreaseExponent, amount,
    Nat.shiftLeft_eq]
  have normal := isNormal_mul positive small
  have rounded := roundWithAccuracy_mul (s := 0) (e := 0 - ((52 - n.log2 : Nat) : ℤ)) .positive
    normal (by omega) normal.pos
  rw [pow_zero, mul_one] at rounded
  rw [rounded]
  congr 1
  omega

private theorem isNear_ofNat_small (positive : n ≠ 0) (small : n < 2 ^ 53) :
    IsNear .positive n (Float.ofNat n).toModel.unpack := by
  have log : n.log2 ≤ 52 := Nat.le_of_lt_succ ((Nat.log2_lt positive).mpr small)
  have normal := isNormal_mul positive log
  have product : (Float.ofNat n).toModel = Float.Model.pack
      (UnpackedFloat.mul .binary64 n.toUInt64.toFloat.toModel.unpack
        (1.0 : Float).toModel.unpack) := by
    rw [Float.ofNat]
    change (Float.ofScientific n false 0).toModel = _
    rw [Float.ofScientific, dif_pos (by omega)]
    rfl
  have word : n.toUInt64.toNat = n := UInt64.toNat_ofNat_of_lt' (small.trans (by decide))
  have factor : n.toUInt64.toFloat.toModel.unpack =
      .finite .positive (n * 2 ^ (52 - n.log2)) (n.log2 - 52) normal.pos := by
    change (Float.Model.pack (UnpackedFloat.ofNat .binary64 n.toUInt64.toNat)).unpack = _
    rw [word, ofNat_of_small positive log]
    exact unpack_pack normal (by omega) (by omega) normal.pos
  have one : (1.0 : Float).toModel.unpack = .finite .positive (2 ^ 52) (-52) (by norm_num) := by rfl
  have rounded := roundWithAccuracy_mul (s := 52) (e := (n.log2 : ℤ) - 52 + -52)
    (.positive * .positive) normal (by omega) normal.pos
  rw [product, factor, one, UnpackedFloat.mul, rounded]
  exact isNear_pack ⟨_, _, normal.pos, rfl, normal, .inl (by omega)⟩ (small.trans (by norm_num))

private theorem isNear_ofNat_large (large : ¬ n < 2 ^ 53) (bounded : n < 2 ^ 200) :
    IsNear .positive n (Float.ofNat n).toModel.unpack := by
  have positive : n ≠ 0 := by
    rintro rfl
    exact large (by norm_num)
  have whole : (Float.ofNat n).toModel = Float.Model.ofScientific n 0 := by
    rw [Float.ofNat]
    change (Float.ofScientific n false 0).toModel = _
    rw [Float.ofScientific, dif_neg (by omega)]
    rfl
  have log : (n <<< 53 * 10 ^ 0).log2 = 52 + (n.log2 + 1) := by
    rw [Nat.shiftLeft_eq, pow_zero, mul_one, log2_mul_two_pow positive]
    omega
  obtain ⟨m, e, positive', rounded, normal, exponent⟩ :=
    exists_roundWithAccuracy (.positive * .positive) log (e := -53 + 0) (by push_cast; omega)
  have value : UnpackedFloat.ofScientific .binary64 n 0 = .finite .positive m e positive' := by
    have small : ¬ (0 : ℤ) < -((2 : ℤ) ^ 11 + n.log2) := by
      norm_num
    rw [UnpackedFloat.ofScientific, dif_neg positive, if_neg (by decide), if_neg small,
      if_pos le_rfl]
    exact rounded
  rw [whole]
  refine isNear_pack ⟨m, e, positive', value, normal, ?_⟩ bounded
  push_cast at exponent
  omega

private theorem isNear_ofNat (positive : 0 < n) (bounded : n < 2 ^ 200) :
    IsNear .positive n (Float.ofNat n).toModel.unpack := by
  by_cases small : n < 2 ^ 53
  · exact isNear_ofNat_small positive.ne' small
  · exact isNear_ofNat_large small bounded

private theorem isNear_neg (near : IsNear sign n a.toModel.unpack) (bounded : n < 2 ^ 200) :
    IsNear (-sign) n (-a).toModel.unpack := by
  obtain ⟨m, e, positive, value, normal, exponent⟩ := near
  refine isNear_pack ⟨m, e, positive, ?_, normal, exponent⟩ bounded
  rw [value]
  rfl

end Double

/-- The double nearest to a whole number. -/
def floatOfInt (value : ℤ) : Float :=
  floatOfSigned (decide (value < 0)) value.natAbs

namespace Double

open Float.Model.UnpackedFloat

variable {u v : ℤ}

private theorem isNear_floatOfInt (positive : 0 < v) (bounded : v.natAbs < 2 ^ 200) :
    IsNear .positive v.natAbs (floatOfInt v).toModel.unpack := by
  rw [floatOfInt, decide_eq_false (by omega)]
  exact isNear_ofNat (by omega) bounded

/-- The double of a whole number has its sign. -/
theorem exists_place_floatOfInt (bounded : v.natAbs < 2 ^ 200) :
    ∃ q, place? (floatOfInt v).toModel.unpack = some (toLex (v.sign, q)) := by
  rcases lt_trichotomy v 0 with negative | rfl | positive
  · have near : IsNear .negative v.natAbs (floatOfInt v).toModel.unpack := by
      rw [floatOfInt, decide_eq_true negative]
      exact isNear_neg (isNear_ofNat (by omega) bounded) bounded
    obtain ⟨m, e, _, value, -⟩ := near
    rw [value, Int.sign_eq_neg_one_of_neg negative]
    exact ⟨_, rfl⟩
  · exact ⟨toLex (0, 0), rfl⟩
  · obtain ⟨m, e, _, value, -⟩ := isNear_floatOfInt positive bounded
    rw [value, Int.sign_eq_one_of_pos positive]
    exact ⟨_, rfl⟩

/-- A whole number of moderate size is a number as a double. -/
theorem floatOfInt_le_self (bounded : v.natAbs < 2 ^ 200) : floatOfInt v ≤ floatOfInt v := by
  obtain ⟨q, place⟩ := exists_place_floatOfInt bounded
  exact le_iff_place.mpr ⟨_, place, _, place, le_rfl⟩

/-- Doubles of different signs are in the order of the signs. -/
theorem floatOfInt_lt_of_sign (less : u.sign < v.sign) (boundedU : u.natAbs < 2 ^ 200)
    (boundedV : v.natAbs < 2 ^ 200) : floatOfInt u < floatOfInt v := by
  obtain ⟨p, placeU⟩ := exists_place_floatOfInt boundedU
  obtain ⟨q, placeV⟩ := exists_place_floatOfInt boundedV
  exact lt_iff_place.mpr ⟨_, placeU, _, placeV, Prod.Lex.toLex_lt_toLex.mpr (.inl less)⟩

/-- A number with its leading digit further in front has no lesser double. -/
theorem floatOfInt_le_of_log2 (positive : 0 < u) (above : 0 < v)
    (less : u.natAbs.log2 < v.natAbs.log2) (boundedU : u.natAbs < 2 ^ 200)
    (boundedV : v.natAbs < 2 ^ 200) : floatOfInt u ≤ floatOfInt v := by
  obtain ⟨m, e, _, valueU, normalU, exponentU⟩ := isNear_floatOfInt positive boundedU
  obtain ⟨n, f, _, valueV, normalV, exponentV⟩ := isNear_floatOfInt above boundedV
  rw [le_iff_place, valueU, valueV]
  refine ⟨_, rfl, _, rfl, Prod.Lex.toLex_le_toLex.mpr (.inr ⟨rfl, ?_⟩)⟩
  rw [Prod.Lex.toLex_le_toLex]
  -- if the exponents are the same, the lesser mantissa was rounded up to the least there is
  have least := normalV.1
  rcases exponentU with rfl | ⟨rfl, rfl⟩ <;> rcases exponentV with rfl | ⟨rfl, rfl⟩ <;>
    push_cast <;> omega

theorem not_le_of_lt {a b : Float} (less : a < b) : ¬ b ≤ a := by
  intro most
  obtain ⟨p, hp, q, hq, below⟩ := lt_iff_place.mp less
  obtain ⟨q', hq', p', hp', above⟩ := le_iff_place.mp most
  obtain rfl := Option.mem_unique hp hp'
  obtain rfl := Option.mem_unique hq hq'
  exact absurd below above.not_gt

end Double
end XdotViewer
