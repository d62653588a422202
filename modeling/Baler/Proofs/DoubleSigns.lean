import Mathlib
import Baler.Number.Double

/-! The signs of doubles. A double is zero or below, above zero, or no number; adding it to zero leaves it as it is
unless it is a zero; and a whole number above zero has a double above zero, however it is rounded. -/
namespace Baler.Number

open Float.Model Float.Model.UnpackedFloat

/-- Whether a form is that of a number above zero. -/
def isAbove : UnpackedFloat → Bool
  | .infinity .positive => true
  | .finite .positive .. => true
  | _ => false

theorem zero_lt_form (u : UnpackedFloat) : (UnpackedFloat.zero .positive).lt u = isAbove u := by
  rcases u with (_ | _) | _ | _ | ⟨_ | _,_,_,_⟩ <;> rfl

theorem form_le_zero (u : UnpackedFloat) : u.le (.zero .positive) = (!u.isNaN && !isAbove u) := by
  rcases u with (_ | _) | _ | _ | ⟨_ | _,_,_,_⟩ <;> rfl

/-- The form of a double. -/
def form (x : Float) : UnpackedFloat := x.toModel.unpack

@[simp] theorem form_zero : form 0 = .zero .positive := rfl

theorem zero_lt_iff {x : Float} : 0 < x ↔ isAbove (form x) = true := by
  rw [← zero_lt_form,← form_zero]
  exact decide_eq_true_iff

theorem le_zero_iff {x : Float} : x ≤ 0 ↔ x.isNaN = false ∧ isAbove (form x) = false := by
  have compared : x ≤ 0 ↔ (form x).le (form 0) = true := decide_eq_true_iff
  rw [compared,form_zero,form_le_zero,Bool.and_eq_true,Bool.not_eq_true',Bool.not_eq_true']
  rfl

theorem not_isNaN_of_pos {x : Float} (h : 0 < x) : x.isNaN = false := by
  have above := zero_lt_iff.mp h
  change (form x).isNaN = false
  cases hf : form x with
  | notANumber => simp [hf,isAbove] at above
  | _ => rfl

theorem not_le_zero_of_pos {x : Float} (h : 0 < x) : ¬ x ≤ 0 := by
  rw [le_zero_iff,zero_lt_iff.mp h]
  simp

/-- A double that is not zero or below is above zero unless it is no number. -/
theorem pos_iff_of_not_le_zero {x : Float} (h : ¬ x ≤ 0) : 0 < x ↔ x.isNaN = false := by
  refine ⟨not_isNaN_of_pos,fun number => ?_⟩
  rw [le_zero_iff,not_and,Bool.not_eq_false] at h
  exact zero_lt_iff.mpr (h number)

theorem zero_add_of_not_le_zero {x : Float} (h : ¬ x ≤ 0) : 0 + x = x := by
  have sum : UnpackedFloat.add .binary64 (form 0) (form x) = form x := by
    cases hf : form x with
    | zero s => exact absurd (le_zero_iff.mpr ⟨congrArg UnpackedFloat.isNaN hf,congrArg isAbove hf⟩) h
    | _ => rfl
  calc 0 + x = .ofModel (.pack (UnpackedFloat.add .binary64 (form 0) (form x))) := rfl
    _ = .ofModel (.pack (form x)) := by rw [sum]
    _ = x := x.ofBits_toBits

theorem not_le_of_isNaN {x : Float} (h : x.isNaN = true) (y : Float) : ¬ x ≤ y := by
  have compared : x ≤ y ↔ (form x).le (form y) = true := decide_eq_true_iff
  have lost : form x = .notANumber := isNaN_iff.mp h
  rw [compared,lost]
  exact Bool.false_ne_true

/-- A form above zero that a double can have, or one beyond the largest. -/
inductive Large : UnpackedFloat → Prop
  | finite {m : Nat} {e : Int} (pos : 0 < m) (small : m < 2 ^ 53) (low : -1074 ≤ e) :
    Large (.finite .positive m e pos)
  | infinite : Large (.infinity .positive)

theorem mantissa_shiftRight (em : ExtendedMantissa) (n : Nat) : (em >>> n).mantissa = em.mantissa / 2 ^ n := by
  change (n.repeat ExtendedMantissa.shiftRightOne em).mantissa = _
  induction n with
  | zero => simp [Nat.repeat]
  | succ n ih => rw [Nat.repeat,ExtendedMantissa.shiftRightOne,ih,Nat.div_div_eq_div_mul,pow_succ]

theorem le_roundedMantissa (em : ExtendedMantissa) : em.mantissa ≤ em.roundedMantissa := by
  obtain ⟨m,round,sticky⟩ := em
  cases round <;> cases sticky <;> simp [ExtendedMantissa.roundedMantissa,ExtendedMantissa.accuracy,
    Accuracy.roundToNearestEven]

@[simp] theorem mantissa_ofMantissaAndAccuracy (m : Nat) (acc : Accuracy) :
    (ExtendedMantissa.ofMantissaAndAccuracy m acc).mantissa = m := by
  rcases acc with _ | (_ | _ | _) <;> rfl

/-- A shift to the exponent that a mantissa calls for leaves some of its bits, and no more than fit. -/
theorem shiftToTargetExponent_fits {m : Nat} {e : Int} (pos : 0 < m) (low : -1074 ≤ e + m.log2)
    (acc : Accuracy) : let a := shiftToTargetExponent .binary64 m e acc
    0 < a.1.mantissa ∧ a.1.mantissa < 2 ^ 53 ∧ -1074 ≤ a.2 := by
  intro a
  have target : Format.binary64.targetExponent (totalExponent m e) = max (m.log2 + 1 + e - 53) (-1074) := rfl
  obtain ⟨n,hn⟩ : ∃ n, n = (Format.binary64.targetExponent (totalExponent m e) - e).toNat := ⟨_,rfl⟩
  have mantissa : a.1.mantissa = m / 2 ^ n := by
    rw [hn]
    exact (mantissa_shiftRight _ _).trans (by rw [mantissa_ofMantissaAndAccuracy])
  have exponent : a.2 = e + n := by rw [hn]; rfl
  rw [target] at hn
  rw [mantissa,exponent]
  have kept : 2 ^ n ≤ m := (Nat.pow_le_pow_right two_pos (by omega)).trans (Nat.log2_self_le pos.ne')
  have most : m < 2 ^ n * 2 ^ 53 := by
    rw [← pow_add]
    exact Nat.lt_log2_self.trans_le (Nat.pow_le_pow_right two_pos (by omega))
  exact ⟨Nat.div_pos kept (by positivity),Nat.div_lt_of_lt_mul most,by omega⟩

theorem large_roundWithAccuracy {m : Nat} {e : Int} (pos : 0 < m) (low : -1074 ≤ e + m.log2) (acc : Accuracy) :
    Large (roundWithAccuracy .binary64 .positive m e acc) := by
  obtain ⟨kept,-,low⟩ := shiftToTargetExponent_fits pos low acc
  unfold roundWithAccuracy
  generalize shiftToTargetExponent .binary64 m e acc = a at kept low ⊢
  obtain ⟨em,e₁⟩ := a
  have filled : 0 < em.roundedMantissa := kept.trans_le (le_roundedMantissa em)
  obtain ⟨kept,small,low⟩ := shiftToTargetExponent_fits (e := e₁) filled (by simp only at low; omega) .exact
  dsimp only
  rw [dif_neg kept.ne']
  exact .finite _ small low

theorem isAbove_unpack_packComponents {ev : BitVec 11} {mv : BitVec 52} (number : ev ≠ -1#_ ∨ mv = 0#_)
    (nonzero : ev ≠ 0#_ ∨ mv ≠ 0#_) :
    isAbove (unpack .binary64 (packComponents .binary64 .positive ev mv)) = true := by
  have sign : Sign.ofBitVec (Sign.toBitVec .positive) = .positive := rfl
  unfold UnpackedFloat.unpack
  simp only [unpackMantissa_packComponents,unpackExponent_packComponents,unpackSign_packComponents,sign]
  split
  · rename_i last
    rw [if_pos (number.resolve_left (absurd last))]
    rfl
  split
  · rename_i first
    rw [dif_neg (nonzero.resolve_left (absurd first))]
    rfl
  · rfl

/-- A form above zero stays above zero when it becomes a double. -/
theorem Large.isAbove_unpack_pack {u : UnpackedFloat} (h : Large u) :
    isAbove (unpack .binary64 (pack .binary64 u)) = true := by
  cases h with
  | infinite => exact isAbove_unpack_packComponents (.inr rfl) (.inl (by decide))
  | @finite m e pos small low =>
    have bias : e + Format.binary64.exponentBias + Format.binary64.mantissaBitsWithoutImplicit = e + 1075 := by
      change e + 1023 + 52 = _
      omega
    unfold UnpackedFloat.pack
    simp only [bias]
    split
    · exact isAbove_unpack_packComponents (.inr rfl) (.inl (by decide))
    rename_i fits
    split
    · refine isAbove_unpack_packComponents (.inl fun last => ?_) (.inl fun first => ?_)
      · have := congrArg BitVec.toNat last
        simp at this fits
        omega
      · have := congrArg BitVec.toNat first
        simp at this fits
        omega
    · rename_i short
      have less : m < 2 ^ 52 := by
        have := (Nat.log2_lt pos.ne').mpr small
        refine (Nat.log2_lt pos.ne').mp ?_
        change ¬ m.log2 + 1 = 53 at short
        omega
      refine isAbove_unpack_packComponents (.inl (by decide)) (.inr fun empty => ?_)
      have := congrArg BitVec.toNat empty
      simp at this
      omega

theorem low_of_unpack {b : BitVec 64} {s : Sign} {m : Nat} {e : Int} {pos : 0 < m}
    (h : unpack .binary64 b = .finite s m e pos) : -1074 ≤ e := by
  unfold UnpackedFloat.unpack at h
  have bias : (Format.binary64.exponentBias : Int) + Format.binary64.mantissaBitsWithoutImplicit = 1075 := rfl
  simp only [bias] at h
  split at h
  · split at h <;> cases h
  split at h
  · rename_i first
    split at h
    · cases h
    · cases h
      rw [first]
      simp
  · rename_i first
    cases h
    have : (@unpackExponent .binary64 b).toNat ≠ 0 := fun zero => first (BitVec.eq_of_toNat_eq zero)
    omega

theorem mul_positive {m₁ m₂ : Nat} {e₁ e₂ : Int} (h₁ : 0 < m₁) (h₂ : 0 < m₂) :
    UnpackedFloat.mul .binary64 (.finite .positive m₁ e₁ h₁) (.finite .positive m₂ e₂ h₂) =
      roundWithAccuracy .binary64 .positive (m₁ * m₂) (e₁ + e₂) .exact := rfl

/-- A double above zero is above zero in units of one. -/
theorem mul_one_pos {x : Float} (h : 0 < x) : 0 < x * Float.ofBits 0x3FF0000000000000 := by
  rw [zero_lt_iff] at h ⊢
  have product : Large (UnpackedFloat.mul .binary64 (form x) (form (.ofBits 0x3FF0000000000000))) := by
    have one : form (.ofBits 0x3FF0000000000000) = .finite .positive (2 ^ 52) (-52) (by decide) := rfl
    rw [one]
    cases hf : form x with
    | infinity s =>
      cases s with
      | negative => simp [hf,isAbove] at h
      | positive => exact .infinite
    | finite s m e pos =>
      cases s with
      | negative => simp [hf,isAbove] at h
      | positive =>
        have low : -1074 ≤ e := low_of_unpack hf
        have more : 52 ≤ (m * 2 ^ 52).log2 :=
          (Nat.le_log2 (by positivity)).mpr (Nat.le_mul_of_pos_left _ pos)
        rw [mul_positive]
        exact large_roundWithAccuracy (by positivity) (by omega) .exact
    | _ => simp [hf,isAbove] at h
  exact product.isAbove_unpack_pack

theorem large_ofUInt64 {n : UInt64} (h : 0 < n.toNat) : Large (UnpackedFloat.ofUInt64 .binary64 n) := by
  have order : compare (n.toNat : Int) 0 = .gt := Int.compare_eq_gt.mpr (by exact_mod_cast h)
  unfold UnpackedFloat.ofUInt64 UnpackedFloat.ofNat UnpackedFloat.ofInt UnpackedFloat.normalize
  rw [order]
  simp only [Int.toNat_natCast,UnpackedFloat.round,decreaseExponent]
  have filled : 0 < n.toNat <<< (0 - Format.binary64.targetExponent (totalExponent n.toNat 0)).toNat := by
    rw [Nat.shiftLeft_eq]
    positivity
  have target : Format.binary64.targetExponent (totalExponent n.toNat 0) =
      max ((n.toNat.log2 : Int) + 1 + 0 - 53) (-1074) := rfl
  exact large_roundWithAccuracy filled (by rw [target]; omega) .exact

theorem large_ofScientific {n : Nat} (h : 0 < n) : Large (UnpackedFloat.ofScientific .binary64 n 0) := by
  have filled : 0 < n <<< 53 := by
    rw [Nat.shiftLeft_eq]
    positivity
  have shifted : 53 ≤ (n <<< 53).log2 := by
    rw [Nat.shiftLeft_eq]
    exact (Nat.le_log2 (by positivity)).mpr (Nat.le_mul_of_pos_left _ h)
  have bits : Format.binary64.mantissaBits = 53 := rfl
  have range : (0 : Int) < 2 ^ Format.binary64.exponentBits := by positivity
  unfold UnpackedFloat.ofScientific
  rw [dif_neg h.ne',if_neg (by decide),if_neg (by omega),if_pos le_rfl,mul_positive]
  simp only [bits,Int.toNat_zero,pow_zero,mul_one]
  exact large_roundWithAccuracy filled (by omega) .exact

/-- A whole number above zero is a double above zero, or beyond all of them. -/
theorem ofNat_pos {n : Nat} (h : 0 < n) : 0 < Float.ofNat n := by
  change 0 < Float.ofScientific n false 0
  unfold Float.ofScientific
  -- below `2 ^ 53` it is a machine word in units of one, and rounded from there on
  split
  · rename_i small
    have less : n < 2 ^ 64 := small.1.trans (by decide)
    have value : n.toUInt64.toNat = n := Nat.mod_eq_of_lt less
    have word : 0 < n.toUInt64.toFloat := zero_lt_iff.mpr (large_ofUInt64 (by rwa [value])).isAbove_unpack_pack
    exact mul_one_pos word
  · exact zero_lt_iff.mpr (large_ofScientific h).isAbove_unpack_pack

end Baler.Number
