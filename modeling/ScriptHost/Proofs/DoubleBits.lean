import Mathlib
import ScriptHost.Number.Reading

/-! # Bit patterns of doubles

A double is its 64-bit pattern, NaNs made canonical; its fields and magnitude bits are read
off the pattern.
-/

namespace ScriptHost.Number

open Float.Model Float.Model.UnpackedFloat

private theorem sign_toBitVec_ofBitVec : ∀ v : BitVec 1, (Sign.ofBitVec v).toBitVec = v := by
  decide

/-- A pattern is its sign, exponent and fraction put back together. -/
private theorem packComponents_unpacked (b : BitVec Format.binary64.numBits) :
    packComponents Format.binary64 (Sign.ofBitVec (unpackSign b)) (unpackExponent b)
      (unpackMantissa b) = b := by
  simp only [packComponents, sign_toBitVec_ofBitVec]
  apply BitVec.eq_of_toNat_eq
  simp only [unpackMantissa, unpackExponent, unpackSign, BitVec.toNat_cast, BitVec.toNat_append,
    BitVec.extractLsb_toNat, Nat.shiftRight_eq_div_pow]
  have hb := b.isLt
  rw [← Nat.shiftLeft_add_eq_or_of_lt (by omega), ← Nat.shiftLeft_add_eq_or_of_lt (by omega),
    Nat.shiftLeft_eq, Nat.shiftLeft_eq]
  simp only [Format.numBits, Format.binary64] at hb ⊢
  omega

private theorem packComponents_of_unpacked {b : BitVec Format.binary64.numBits} {e : BitVec 11}
    {m : BitVec 52} (he : unpackExponent b = e) (hm : unpackMantissa b = m) :
    packComponents Format.binary64 (Sign.ofBitVec (unpackSign b)) e m = b := by
  rw [← he, ← hm]
  exact packComponents_unpacked b

/-- Packing an unpacked pattern gives it back, unless it is a NaN. -/
private theorem pack_unpack (b : BitVec Format.binary64.numBits)
    (h : unpackExponent b = -1#_ → unpackMantissa b = 0#_) :
    UnpackedFloat.pack Format.binary64 (UnpackedFloat.unpack Format.binary64 b) = b := by
  have hbias : Format.binary64.exponentBias = 1023 := rfl
  have hbits : Format.binary64.mantissaBits = 53 := rfl
  have hM : (unpackMantissa b).toNat < 2 ^ 52 := (unpackMantissa b).isLt
  have hE : (unpackExponent b).toNat < 2 ^ 11 := (unpackExponent b).isLt
  simp only [UnpackedFloat.unpack]
  split
  · rename_i he
    rw [if_pos (h he)]
    exact packComponents_of_unpacked he (h he)
  · rename_i htop
    have htop' : (unpackExponent b).toNat ≠ 2047 := fun h' =>
      htop (BitVec.eq_of_toNat_eq (by simpa using h'))
    split
    · rename_i he
      split
      · rename_i hm
        exact packComponents_of_unpacked he hm
      · rename_i hm
        -- subnormal: the biased exponent is 1 and the mantissa has fewer than 53 bits
        have hE0 : (unpackExponent b).toNat = 0 := by simp [he]
        have hM0 : (unpackMantissa b).toNat ≠ 0 := fun h' => hm (BitVec.eq_of_toNat_eq h')
        have hlog : (unpackMantissa b).toNat.log2 < 52 := (Nat.log2_lt hM0).mpr hM
        simp only [UnpackedFloat.pack, hbias, hbits, hE0]
        rw [if_neg (by omega), if_neg (by omega)]
        exact packComponents_of_unpacked he (by rw [BitVec.ofNat_toNat, BitVec.setWidth_eq])
    · rename_i he
      -- normal: the implicit bit puts the leading bit at 52 and the exponent is kept
      have hE0 : (unpackExponent b).toNat ≠ 0 := fun h' => he (BitVec.eq_of_toNat_eq h')
      have hval : (1#1 ++ unpackMantissa b).toNat = 2 ^ 52 + (unpackMantissa b).toNat := by
        simp only [BitVec.toNat_append]
        rw [← Nat.shiftLeft_add_eq_or_of_lt hM, Nat.shiftLeft_eq]
        simp
      have hlog : (2 ^ 52 + (unpackMantissa b).toNat).log2 = 52 := by
        rw [Nat.log2_eq_iff (by omega)]
        omega
      simp only [UnpackedFloat.pack, hbias, hbits, hval, hlog]
      rw [if_neg (by omega), if_pos trivial]
      refine packComponents_of_unpacked ?_ ?_
      · apply BitVec.eq_of_toNat_eq
        simp only [BitVec.toNat_ofNat]
        omega
      · apply BitVec.eq_of_toNat_eq
        simp only [BitVec.toNat_ofNat]
        omega

/-- The pattern of `Float.ofBits b` is `b`, for every `b` that is not a NaN. -/
theorem toBits_ofBits (b : UInt64) (h : b.toNat / 2 ^ 52 % 2 ^ 11 = 2047 → b.toNat % 2 ^ 52 = 0) :
    (Float.ofBits b).toBits = b := by
  show UInt64.ofBitVec (UnpackedFloat.pack Format.binary64
    (UnpackedFloat.unpack Format.binary64 b.toBitVec)) = b
  rw [pack_unpack]
  intro he
  have he' : b.toNat / 2 ^ 52 % 2 ^ 11 = 2047 := by
    have := congrArg BitVec.toNat he
    simpa [unpackExponent, Nat.shiftRight_eq_div_pow] using this
  apply BitVec.eq_of_toNat_eq
  simpa [unpackMantissa] using h he'

/-! ## Fields -/

theorem toBits_toNat (x : Float) :
    x.toBits.toNat = (if (fields x).negative then 2 ^ 63 else 0) +
      (fields x).exponent * 2 ^ 52 + (fields x).fraction := by
  have hb := x.toBits.toNat_lt
  simp only [fields, Nat.pow_eq]
  by_cases h : 2 ^ 63 ≤ x.toBits.toNat <;> simp only [h, decide_true, decide_false, ↓reduceIte, Bool.false_eq_true] <;> omega

theorem magnitudeBits_eq (x : Float) :
    magnitudeBits x = (fields x).exponent * 2 ^ 52 + (fields x).fraction := by
  have hb := x.toBits.toNat_lt
  simp only [magnitudeBits, fields, Nat.pow_eq]
  omega

/-- The fields of a double that are not a NaN's and are in range are those it is built from. -/
theorem fields_ofFields (f : Fields) (hE : f.exponent < 2047 ∨ f.exponent = 2047 ∧ f.fraction = 0)
    (hF : f.fraction < 2 ^ 52) : fields (ofFields f) = f := by
  obtain ⟨neg, E, F⟩ := f
  dsimp only at hE hF ⊢
  have hb : (if neg then 2 ^ 63 else 0) + E * 2 ^ 52 + F < 2 ^ 64 := by
    split <;> omega
  have hofBits := toBits_ofBits (UInt64.ofNat ((if neg then 2 ^ 63 else 0) + E * 2 ^ 52 + F)) (by
    rw [UInt64.toNat_ofNat_of_lt' hb]
    split <;> omega)
  simp only [ofFields, fields, Nat.pow_eq] at hofBits ⊢
  rw [hofBits, UInt64.toNat_ofNat_of_lt' hb]
  cases neg <;> simp only [Fields.mk.injEq, ↓reduceIte, Bool.false_eq_true, decide_eq_true_eq,
    decide_eq_false_iff_not] at hb ⊢ <;> omega

end ScriptHost.Number
