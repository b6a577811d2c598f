import ScriptHost.Proofs.ShortestDecimal

/-! # Reading a decimal back

`ofDecimal` rounds an exact decimal to the nearest double, ties to even: the double whose
rounding interval holds the decimal.
-/

namespace ScriptHost.Number

/-! ## Whole quotients -/

/-- `roundDiv` with halves to even is within a half of the quotient, and even on a half. -/
theorem roundDiv_even_spec (num den : ℕ) (hden : 0 < den) :
    |(roundDiv num den .even : ℚ) - num / den| ≤ 1 / 2 ∧
      (|(roundDiv num den .even : ℚ) - num / den| = 1 / 2 → roundDiv num den .even % 2 = 0) := by
  have hdenQ : (0 : ℚ) < den := by exact_mod_cast hden
  have hsplit : (num : ℚ) / den = (num / den : ℕ) + ((num % den : ℕ) : ℚ) / den := by
    rw [div_eq_iff hdenQ.ne', add_mul, div_mul_cancel₀ _ hdenQ.ne']
    exact_mod_cast (by rw [mul_comm]; exact (Nat.div_add_mod num den).symm :
      num = num / den * den + num % den)
  -- the remainder against half the divisor decides the rounding
  have hlt : ((num % den : ℕ) : ℚ) / den < 1 / 2 ↔ 2 * (num % den) < den := by
    rw [div_lt_div_iff₀ hdenQ (by norm_num)]
    constructor <;> intro h
    · have : ((2 * (num % den) : ℕ) : ℚ) < den := by push_cast; linarith
      exact_mod_cast this
    · have : ((2 * (num % den) : ℕ) : ℚ) < den := by exact_mod_cast h
      push_cast at this
      linarith
  have hgt : 1 / 2 < ((num % den : ℕ) : ℚ) / den ↔ den < 2 * (num % den) := by
    rw [div_lt_div_iff₀ (by norm_num) hdenQ]
    constructor <;> intro h
    · have : (den : ℚ) < ((2 * (num % den) : ℕ) : ℚ) := by push_cast; linarith
      exact_mod_cast this
    · have : (den : ℚ) < ((2 * (num % den) : ℕ) : ℚ) := by exact_mod_cast h
      push_cast at this
      linarith
  have hrem : ((num % den : ℕ) : ℚ) / den < 1 := by
    rw [div_lt_one hdenQ]
    exact_mod_cast Nat.mod_lt num hden
  have hrem0 : (0 : ℚ) ≤ ((num % den : ℕ) : ℚ) / den := by positivity
  unfold roundDiv
  dsimp only
  rw [hsplit]
  split
  · -- above the half: up
    rename_i h
    have := hgt.mpr h
    push_cast
    refine ⟨by rw [abs_le]; constructor <;> linarith, fun heq => ?_⟩
    exfalso
    rw [abs_of_nonneg (by linarith)] at heq
    linarith
  · split
    · -- below the half: down
      rename_i _ h
      have := hlt.mpr h
      refine ⟨by rw [abs_le]; constructor <;> linarith, fun heq => ?_⟩
      exfalso
      rw [abs_of_nonpos (by linarith)] at heq
      linarith
    · -- on the half: the even neighbour
      rename_i h1 h2
      have hhalf : ((num % den : ℕ) : ℚ) / den = 1 / 2 := by
        rw [div_eq_iff hdenQ.ne']
        have : 2 * (num % den) = den := by omega
        have : ((2 * (num % den) : ℕ) : ℚ) = den := by exact_mod_cast this
        push_cast at this
        linarith
      rw [hhalf]
      split
      · rename_i hev
        refine ⟨by rw [abs_le]; constructor <;> linarith, fun _ => ?_⟩
        simpa using hev
      · rename_i hev
        push_cast
        refine ⟨by rw [abs_le]; constructor <;> linarith, fun _ => ?_⟩
        simp only [beq_iff_eq] at hev
        omega

/-! ## Binary orders -/

/-- `binaryOrder num den` is the `t` with `2^t ≤ num / den < 2^(t+1)`. -/
theorem binaryOrder_spec {num den : ℕ} (hnum : 0 < num) (hden : 0 < den) :
    (2 : ℚ) ^ binaryOrder num den ≤ num / den ∧ (num : ℚ) / den < 2 ^ (binaryOrder num den + 1) := by
  have hdenQ : (0 : ℚ) < den := by exact_mod_cast hden
  -- the leading bits bound the quotient within a factor of two either way
  have hn1 : ((2 ^ num.log2 : ℕ) : ℚ) ≤ num := by exact_mod_cast Nat.log2_self_le hnum.ne'
  have hn2 : (num : ℚ) < ((2 ^ (num.log2 + 1) : ℕ) : ℚ) := by exact_mod_cast Nat.lt_log2_self
  have hd1 : ((2 ^ den.log2 : ℕ) : ℚ) ≤ den := by exact_mod_cast Nat.log2_self_le hden.ne'
  have hd2 : (den : ℚ) < ((2 ^ (den.log2 + 1) : ℕ) : ℚ) := by exact_mod_cast Nat.lt_log2_self
  push_cast at hn1 hn2 hd1 hd2
  set t : ℤ := (num.log2 : ℤ) - (den.log2 : ℤ) with ht
  have hpow : ∀ a b : ℕ, (2 : ℚ) ^ ((a : ℤ) - (b : ℤ)) = 2 ^ a / 2 ^ b := fun a b => by
    rw [zpow_sub₀ two_ne_zero, zpow_natCast, zpow_natCast]
  have hlow : (2 : ℚ) ^ (t - 1) < num / den := by
    rw [zpow_sub_one₀ two_ne_zero, ht, hpow, lt_div_iff₀ hdenQ]
    have h2 : (0 : ℚ) < 2 ^ den.log2 := by positivity
    calc (2 : ℚ) ^ num.log2 / 2 ^ den.log2 * 2⁻¹ * den
        < 2 ^ num.log2 / 2 ^ den.log2 * 2⁻¹ * 2 ^ (den.log2 + 1) := by gcongr
      _ = 2 ^ num.log2 := by rw [pow_succ]; field_simp
      _ ≤ num := hn1
  have hhigh : (num : ℚ) / den < 2 ^ (t + 1) := by
    rw [zpow_add_one₀ two_ne_zero, ht, hpow, div_lt_iff₀ hdenQ]
    calc (num : ℚ) < 2 ^ (num.log2 + 1) := hn2
      _ = 2 ^ num.log2 / 2 ^ den.log2 * 2 * 2 ^ den.log2 := by rw [pow_succ]; field_simp
      _ ≤ 2 ^ num.log2 / 2 ^ den.log2 * 2 * den := by gcongr
  -- the test compares the quotient with `2^t`
  have htest : num * Nat.pow 2 (-t).toNat < den * Nat.pow 2 t.toNat ↔ (num : ℚ) / den < 2 ^ t := by
    rw [zpow_eq_div_toNat two_ne_zero, div_lt_div_iff₀ hdenQ (by positivity), Nat.pow_eq,
      Nat.pow_eq, mul_comm den]
    exact_mod_cast Iff.rfl
  unfold binaryOrder
  dsimp only
  rw [← ht]
  split
  · rename_i h
    refine ⟨hlow.le, ?_⟩
    rw [sub_add_cancel]
    exact htest.mp h
  · rename_i h
    exact ⟨not_lt.mp (fun h' => h (htest.mpr h')), hhigh⟩

/-! ## Packing an exact mantissa -/

/-- The double built from finite fields in range has their sign and their magnitude bits. -/
theorem ofFields_of_finite (f : Fields) (hE : f.exponent < 2047) (hF : f.fraction < 2 ^ 52) :
    isNegative (ofFields f) = f.negative ∧
      magnitudeBits (ofFields f) = f.exponent * 2 ^ 52 + f.fraction := by
  have hf := fields_ofFields f (.inl hE) hF
  exact ⟨by simp only [isNegative, hf], by rw [magnitudeBits_eq, hf]⟩

theorem ofExact_subnormal (negative : Bool) {M : ℕ} (hM : 0 < M) (hM52 : M < 2 ^ 52) :
    isNegative (ofExact negative M (-1074)) = negative ∧
      magnitudeBits (ofExact negative M (-1074)) = M := by
  have hlog : M.log2 < 52 := (Nat.log2_lt hM.ne').mpr hM52
  have hfloor : floorScaled M (-1074 + 1074) = M := by simp [floorScaled]
  simp only [ofExact, if_neg hM.ne', if_pos (show (M.log2 : ℤ) + -1074 < -1022 by omega), hfloor]
  simpa using ofFields_of_finite ⟨negative, 0, M⟩ (by norm_num) hM52

theorem ofExact_normal (negative : Bool) {M : ℕ} {e : ℤ} (hM1 : 2 ^ 52 ≤ M) (hM2 : M < 2 ^ 53)
    (he : -1074 ≤ e) (hE : e < 972) :
    isNegative (ofExact negative M e) = negative ∧
      magnitudeBits (ofExact negative M e) = (e + 1075).toNat * 2 ^ 52 + (M - 2 ^ 52) := by
  have hlog : M.log2 = 52 := (Nat.log2_eq_iff (by omega)).mpr ⟨hM1, hM2⟩
  have hfloor : floorScaled M (52 - ((52 : ℕ) : ℤ)) = M := by simp [floorScaled]
  have hexp : ((52 : ℕ) + e + 1023).toNat = (e + 1075).toNat := by omega
  simp only [ofExact, if_neg (show M ≠ 0 by omega), hlog,
    if_neg (show ¬((52 : ℕ) + e < -1022) by omega), hfloor, hexp, Nat.pow_eq]
  exact ofFields_of_finite ⟨negative, (e + 1075).toNat, M - 2 ^ 52⟩ (by dsimp only; omega)
    (by dsimp only; omega)

/-- A mantissa of `2^53` carries into the next exponent. -/
theorem ofExact_carry (negative : Bool) {e : ℤ} (he : -1074 ≤ e) (hE : e < 971) :
    isNegative (ofExact negative (2 ^ 53) e) = negative ∧
      magnitudeBits (ofExact negative (2 ^ 53) e) = (e + 1076).toNat * 2 ^ 52 := by
  have hlog : (2 ^ 53 : ℕ).log2 = 53 := Nat.log2_two_pow
  have hfloor : floorScaled (2 ^ 53) (52 - ((53 : ℕ) : ℤ)) - Nat.pow 2 52 = 0 := by decide
  have hexp : ((53 : ℕ) + e + 1023).toNat = (e + 1076).toNat := by omega
  simp only [ofExact, if_neg (show (2 ^ 53 : ℕ) ≠ 0 by norm_num), hlog,
    if_neg (show ¬((53 : ℕ) + e < -1022) by omega), hfloor, hexp]
  have h := ofFields_of_finite ⟨negative, (e + 1076).toNat, 0⟩ (by dsimp only; omega)
    (by norm_num)
  rw [Nat.add_zero] at h
  exact h

/-- What the magnitude bits `N` of the double packed from `M · 2^e` satisfy: the value is exact,
an even `M` gives an even `N`, and the units on both sides of `N` are at least `2^e`, except
below a mantissa of `2^52` at the bottom of a normal binade. -/
structure PackedAt (M : ℕ) (e : ℤ) (N : ℕ) : Prop where
  pos : 0 < N
  finite : N < 2047 * 2 ^ 52
  value_eq : valueAt N = M * 2 ^ e
  even : M % 2 = 0 → N % 2 = 0
  above : e ≤ (magnitudeOf N).2
  below : e ≤ (magnitudeOf (N - 1)).2 ∨ M = 2 ^ 52 ∧ -1074 < e

/-- `ofExact` packs a mantissa of at most `2^53` at a scale from which the value needs no
rounding: a normal mantissa of 53 bits (or `2^53`), or any mantissa at the subnormal scale. -/
theorem ofExact_packedAt (negative : Bool) {M : ℕ} {e : ℤ} (hM : 0 < M) (hM53 : M ≤ 2 ^ 53)
    (he : -1074 ≤ e) (hnorm : 2 ^ 52 ≤ M ∨ e = -1074) (hbound : (M.log2 : ℤ) + e < 1024) :
    isNegative (ofExact negative M e) = negative ∧
      PackedAt M e (magnitudeBits (ofExact negative M e)) := by
  rcases (show M < 2 ^ 52 ∨ 2 ^ 52 ≤ M ∧ M < 2 ^ 53 ∨ M = 2 ^ 53 by omega) with h | ⟨h1, h2⟩ | h
  · -- subnormal: the mantissa is the fraction
    obtain rfl : e = -1074 := hnorm.resolve_left (by omega)
    obtain ⟨hs, hN⟩ := ofExact_subnormal negative hM h
    have hm : magnitudeOf M = (M, -1074) := magnitudeOf_of_lt h
    refine ⟨hs, ?_⟩
    rw [hN]
    refine ⟨hM, by omega, by rw [valueAt_eq, hm], id, by rw [hm], .inl ?_⟩
    rw [magnitudeOf_of_lt (by omega)]
  · -- normal: the leading bit is hidden and the scale is kept
    have hlog : M.log2 = 52 := (Nat.log2_eq_iff (by omega)).mpr ⟨h1, h2⟩
    obtain ⟨hs, hN⟩ := ofExact_normal negative h1 h2 he (by omega)
    refine ⟨hs, ?_⟩
    rw [hN]
    set N := (e + 1075).toNat * 2 ^ 52 + (M - 2 ^ 52) with hN_def
    have hm : magnitudeOf N = (M, e) := by
      rw [magnitudeOf_of_le (by omega), Prod.mk.injEq]
      omega
    refine ⟨by omega, by omega, by rw [valueAt_eq, hm], fun _ => by omega, by rw [hm], ?_⟩
    -- below `N` the unit halves only at the bottom of a binade above the first
    rw [magnitudeOf_pred (by omega), hm]
    by_cases hnarrow : narrowAt N = true
    · have h' : N % 2 ^ 52 = 0 ∧ 2 ≤ N / 2 ^ 52 := by simpa [narrowAt] using hnarrow
      exact .inr ⟨by omega, by omega⟩
    · exact .inl (by rw [if_neg hnarrow]; omega)
  · -- a mantissa of `2^53` carries into the next binade
    subst h
    have hlog : (2 ^ 53 : ℕ).log2 = 53 := Nat.log2_two_pow
    obtain ⟨hs, hN⟩ := ofExact_carry negative he (by omega)
    refine ⟨hs, ?_⟩
    rw [hN]
    have hm : magnitudeOf ((e + 1076).toNat * 2 ^ 52) = (2 ^ 52, e + 1) := by
      rw [magnitudeOf_of_le (by omega), Prod.mk.injEq]
      omega
    have hm' : magnitudeOf ((e + 1076).toNat * 2 ^ 52 - 1) = (2 ^ 53 - 1, e) := by
      rw [magnitudeOf_of_le (by omega), Prod.mk.injEq]
      omega
    refine ⟨by omega, by omega, ?_, fun _ => by omega, by rw [hm]; omega, .inl (by rw [hm'])⟩
    rw [valueAt_eq, hm, zpow_add_one₀ two_ne_zero]
    push_cast
    ring

/-! ## Rounding a quotient -/

/-- A value within half a unit `2^e` of the double of magnitude bits `N`, at a half only when `N`
is even, rounds to that double, provided the unit above `N` is at least `2^e` and so is the unit
below, or the value is not below the double. -/
theorem inRounding_of_near {N : ℕ} (hN : 0 < N) {r : ℚ} {e : ℤ}
    (hnear : |r - valueAt N| ≤ 2 ^ e / 2) (htie : |r - valueAt N| = 2 ^ e / 2 → N % 2 = 0)
    (habove : e ≤ (magnitudeOf N).2) (hbelow : e ≤ (magnitudeOf (N - 1)).2 ∨ valueAt N ≤ r) :
    InRounding N r := by
  have hup := valueAt_succ N
  have hdown : valueAt N = valueAt (N - 1) + 2 ^ (magnitudeOf (N - 1)).2 := by
    have := valueAt_succ (N - 1)
    rwa [Nat.sub_add_cancel hN] at this
  have hunit : (2 : ℚ) ^ e ≤ 2 ^ (magnitudeOf N).2 := zpow_le_zpow_right₀ (by norm_num) habove
  obtain ⟨hl, hh⟩ := abs_le.mp hnear
  constructor
  · rcases hbelow with hbelow | hbelow
    · have hunit' : (2 : ℚ) ^ e ≤ 2 ^ (magnitudeOf (N - 1)).2 :=
        zpow_le_zpow_right₀ (by norm_num) hbelow
      have hle : lowEdge N ≤ r := by unfold lowEdge; linarith
      rcases hle.lt_or_eq with hlt | heq
      · exact .inl hlt
      · refine .inr ⟨htie ?_, heq⟩
        unfold lowEdge at heq
        have habs : |r - valueAt N| = valueAt N - r := by
          rw [abs_of_nonpos (by linarith)]
          ring
        linarith
    · exact .inl ((lowEdge_lt_valueAt hN).trans_le hbelow)
  · have hle : r ≤ highEdge N := by unfold highEdge; linarith
    rcases hle.lt_or_eq with hlt | heq
    · exact .inl hlt
    · refine .inr ⟨htie ?_, heq⟩
      unfold highEdge at heq
      have habs : |r - valueAt N| = r - valueAt N := abs_of_nonneg (by linarith)
      linarith

theorem highEdge_zero : highEdge 0 = 2 ^ (-1074 : ℤ) / 2 := by
  simp [highEdge, valueAt, magnitudeOf]

/-- A value that rounds to a nonzero double is above half the least subnormal. -/
theorem InRounding.highEdge_zero_lt {N : ℕ} {r : ℚ} (h : InRounding N r) (hN : 0 < N) :
    highEdge 0 < r := by
  rcases h.1 with h1 | ⟨hev, h1⟩
  · exact (highEdge_le_lowEdge hN).trans_lt h1
  · exact h1 ▸ highEdge_lt_lowEdge (by omega : 0 + 1 < N)

section Quotient

variable {r : ℚ} {t e : ℤ} {M : ℕ}

theorem two_pow_mul_zpow_sub (t : ℤ) : (2 : ℚ) ^ 52 * 2 ^ (t - 52) = 2 ^ t := by
  rw [← zpow_natCast, ← zpow_add₀ two_ne_zero]
  congr 1
  push_cast
  ring

/-- At the scale `ofQuotient` picks, a quotient of binary order `t` is fewer than `2^53` units. -/
theorem units_lt (ht2 : r < 2 ^ (t + 1)) (he : e = max (t - 52) (-1074)) : r / 2 ^ e < 2 ^ 53 := by
  rw [div_lt_iff₀ (zpow_pos two_pos e)]
  calc r < 2 ^ (t + 1) := ht2
    _ ≤ 2 ^ ((53 : ℕ) + e) := zpow_le_zpow_right₀ (by norm_num) (by omega)
    _ = 2 ^ 53 * 2 ^ e := by rw [zpow_add₀ two_ne_zero, zpow_natCast]

/-- Above the subnormal scale, a quotient of binary order `t` is at least `2^52` units. -/
theorem units_ge (ht1 : (2 : ℚ) ^ t ≤ r) (he : e = t - 52) : 2 ^ 52 ≤ r / 2 ^ e := by
  rw [le_div_iff₀ (zpow_pos two_pos e), he, two_pow_mul_zpow_sub]
  exact ht1

/-- Counting `r` in units `2^e` and back: the error of a whole count scales with the unit. -/
theorem abs_sub_units (r : ℚ) (e : ℤ) (M : ℕ) :
    |r - M * 2 ^ e| = 2 ^ e * |(M : ℚ) - r / 2 ^ e| := by
  have h2e : (0 : ℚ) < 2 ^ e := zpow_pos two_pos e
  rw [show r - M * 2 ^ e = 2 ^ e * (r / 2 ^ e - M) by field_simp, abs_mul, abs_of_pos h2e,
    abs_sub_comm]

/-- The whole count `M` nearest to `r` in units `2^e`, at the scale `ofQuotient` picks for a
quotient of binary order `t` above half the least subnormal, is a mantissa that `ofExact` packs
exactly: positive, at most `2^53`, at least `2^52` above the subnormal scale, and when it is the
bottom `2^52` of a normal binade, not above `r`. -/
theorem mantissa_of_units (ht1 : (2 : ℚ) ^ t ≤ r) (ht2 : r < 2 ^ (t + 1))
    (hunder : (2 : ℚ) ^ (-1074 : ℤ) / 2 < r) (he : e = max (t - 52) (-1074))
    (hM : |(M : ℚ) - r / 2 ^ e| ≤ 1 / 2) :
    0 < M ∧ M ≤ 2 ^ 53 ∧ (2 ^ 52 ≤ M ∨ e = -1074) ∧
      (-1074 < e → M = 2 ^ 52 → (M : ℚ) * 2 ^ e ≤ r) := by
  obtain ⟨hMlo, hMhi⟩ := abs_le.mp hM
  have hM53 : M ≤ 2 ^ 53 := by
    have := units_lt ht2 he
    have : ((M : ℕ) : ℚ) < ((2 ^ 53 + 1 : ℕ) : ℚ) := by push_cast; linarith
    exact Nat.lt_succ_iff.mp (by exact_mod_cast this)
  -- a normal scale leaves at least `2^52` units; the subnormal scale at least one
  rcases le_or_gt (-1074) (t - 52) with hnormal | hsub
  · have he' : e = t - 52 := he.trans (max_eq_left hnormal)
    have hx52 := units_ge ht1 he'
    have hM52 : 2 ^ 52 ≤ M := by
      have : ((2 ^ 52 : ℕ) : ℚ) < M + 1 := by push_cast; linarith
      exact Nat.lt_succ_iff.mp (by exact_mod_cast this)
    refine ⟨by omega, hM53, .inl hM52, fun _ hM52' => ?_⟩
    rw [hM52', he', Nat.cast_pow, Nat.cast_ofNat, two_pow_mul_zpow_sub]
    exact ht1
  · have he' : e = -1074 := he.trans (max_eq_right (by omega))
    have hhalf : 1 / 2 < r / 2 ^ e := by
      rw [he', lt_div_iff₀ (zpow_pos two_pos _)]
      linarith
    refine ⟨?_, hM53, .inr he', fun h => absurd he' (by omega)⟩
    have : ((0 : ℕ) : ℚ) < M := by push_cast; linarith
    exact_mod_cast this

/-- Below the overflow threshold, the mantissa `M ≤ 2^53` nearest to `r` in units `2^e` has its
leading bit below `2^1024`: `2^53` units at the top scale would reach the threshold. -/
theorem log2_add_lt_of_units (ht1 : (2 : ℚ) ^ t ≤ r) (hover : r < 2 ^ 1024 - 2 ^ 970)
    (he : e = max (t - 52) (-1074)) (hM : |(M : ℚ) - r / 2 ^ e| ≤ 1 / 2) (hMpos : 0 < M)
    (hM53 : M ≤ 2 ^ 53) : (M.log2 : ℤ) + e < 1024 := by
  have h2e : (0 : ℚ) < 2 ^ e := zpow_pos two_pos e
  have ht : t < 1024 := by
    have : (2 : ℚ) ^ t < 2 ^ (1024 : ℤ) := by
      rw [zpow_ofNat]
      exact ht1.trans_lt (hover.trans (sub_lt_self _ (by positivity)))
    exact (zpow_lt_zpow_iff_right₀ one_lt_two).mp this
  rcases hM53.lt_or_eq with hlt | heq
  · have := (Nat.log2_lt hMpos.ne').mpr hlt
    omega
  · have hlog : M.log2 = 53 := by rw [heq]; exact Nat.log2_two_pow
    by_contra hcon
    have h971 : (2 : ℚ) ^ (971 : ℤ) ≤ 2 ^ e := zpow_le_zpow_right₀ (by norm_num) (by omega)
    rw [zpow_ofNat] at h971
    have hMq : (M : ℚ) = 2 ^ 53 := by rw [heq]; push_cast; ring
    have hlow : ((2 : ℚ) ^ 53 - 1 / 2) * 2 ^ e ≤ r := by
      rw [← hMq, ← le_div_iff₀ h2e]
      linarith [(abs_le.mp hM).2]
    have hthreshold : ((2 : ℚ) ^ 53 - 1 / 2) * 2 ^ 971 = 2 ^ 1024 - 2 ^ 970 := by
      rw [sub_mul, ← pow_add, pow_succ 2 970]
      ring
    have hhigh : ((2 : ℚ) ^ 53 - 1 / 2) * 2 ^ 971 ≤ ((2 : ℚ) ^ 53 - 1 / 2) * 2 ^ e := by gcongr
    rw [hthreshold] at hhigh
    exact absurd (hhigh.trans hlow) (not_le.mpr hover)

end Quotient

/-- `ofQuotient` gives the double, of the asked sign, whose rounding interval holds the positive
quotient `num / den`, whenever that double is finite and not zero. -/
theorem ofQuotient_of_inRounding (negative : Bool) {num den N : ℕ} (hnum : 0 < num)
    (hden : 0 < den) (hN : 0 < N) (hfin : N < 2047 * 2 ^ 52) (hr : InRounding N (num / den)) :
    isNegative (ofQuotient negative num den) = negative ∧
      magnitudeBits (ofQuotient negative num den) = N := by
  obtain ⟨ht1, ht2⟩ := binaryOrder_spec hnum hden
  have hover := hr.lt_overflow hfin
  have hunder := hr.highEdge_zero_lt hN
  rw [highEdge_zero] at hunder
  set r : ℚ := num / den with hr_def
  set t := binaryOrder num den with ht_def
  set e : ℤ := max (t - 52) (-1074) with he_def
  set M := roundDiv (num * Nat.pow 2 (-e).toNat) (den * Nat.pow 2 e.toNat) .even with hM_def
  have h2e : (0 : ℚ) < 2 ^ e := zpow_pos two_pos e
  -- the mantissa is the quotient counted in units of `2^e`, rounded half to even
  have hq : ((num * Nat.pow 2 (-e).toNat : ℕ) : ℚ) / ((den * Nat.pow 2 e.toNat : ℕ) : ℚ) =
      r / 2 ^ e := by
    rw [zpow_eq_div_toNat two_ne_zero, hr_def]
    push_cast [Nat.pow_eq]
    field_simp
  obtain ⟨hnear, htie⟩ := roundDiv_even_spec (num * Nat.pow 2 (-e).toNat)
    (den * Nat.pow 2 e.toNat) (Nat.mul_pos hden (by simp [Nat.pow_eq]))
  rw [hq, ← hM_def] at hnear htie
  obtain ⟨hMpos, hM53, hnorm, hbottom⟩ := mantissa_of_units ht1 ht2 hunder he_def hnear
  have hbound := log2_add_lt_of_units ht1 hover he_def hnear hMpos hM53
  have hpick : ofQuotient negative num den = ofExact negative M e := by
    show (if 1024 ≤ (Nat.log2 M : ℤ) + e then infinity negative else ofExact negative M e) = _
    exact if_neg (by omega)
  rw [hpick]
  obtain ⟨hs, hpack⟩ := ofExact_packedAt negative hMpos hM53 (le_max_right _ _) hnorm hbound
  refine ⟨hs, ?_⟩
  -- the packed double is within half a unit of `r`, so its rounding interval holds `r`
  have hround : InRounding (magnitudeBits (ofExact negative M e)) r := by
    refine @inRounding_of_near _ hpack.pos r e ?_ ?_ ?_ ?_
    · rw [hpack.value_eq, abs_sub_units]
      calc 2 ^ e * |(M : ℚ) - r / 2 ^ e| ≤ 2 ^ e * (1 / 2) := by gcongr
        _ = 2 ^ e / 2 := by ring
    · intro h
      refine hpack.even (htie (mul_left_cancel₀ h2e.ne' ?_))
      rw [← abs_sub_units, ← hpack.value_eq, h]
      ring
    · exact hpack.above
    · exact hpack.below.imp_right fun ⟨hM, he⟩ => hpack.value_eq ▸ hbottom he hM
  exact hround.unique hr

/-! ## Reading a decimal -/

/-- A decimal `s · 10^p` with `s > 0` lies between `10^(k-1)` and `10^k`, for `k` the digit count
of `s` plus `p`. -/
theorem decimal_between {s : ℕ} (hs : 0 < s) (p : ℤ) :
    (10 : ℚ) ^ ((digitCount s : ℤ) + p - 1) ≤ s * 10 ^ p ∧
      (s : ℚ) * 10 ^ p < 10 ^ ((digitCount s : ℤ) + p) := by
  have hlow := pow_digitCount_le hs
  have hhigh := lt_pow_digitCount s
  have hk : (digitCount s : ℤ) + p - 1 = ((digitCount s - 1 : ℕ) : ℤ) + p := by
    have := digitCount_pos s
    omega
  rw [hk, zpow_add₀ (by norm_num), zpow_add₀ (by norm_num), zpow_natCast, zpow_natCast]
  constructor
  · gcongr
    exact_mod_cast hlow
  · gcongr
    exact_mod_cast hhigh

/-- The decimal order of a value that rounds to a finite nonzero double lies within the cut-offs
of `ofDecimal`: below `2^1024 < 10^309` and above `2^-1075 > 10^-324`. -/
theorem InRounding.order_mem {N s : ℕ} {p : ℤ} (hr : InRounding N (s * 10 ^ p)) (hs : 0 < s)
    (hN : 0 < N) (hfin : N < 2047 * 2 ^ 52) :
    -326 ≤ (digitCount s : ℤ) + p ∧ (digitCount s : ℤ) + p ≤ 310 := by
  obtain ⟨hlow, hhigh⟩ := decimal_between hs p
  have hover := hr.lt_overflow hfin
  have hunder := hr.highEdge_zero_lt hN
  rw [highEdge_zero] at hunder
  constructor
  · have h324 : ((2 ^ 1075 : ℕ) : ℚ) < ((10 ^ 324 : ℕ) : ℚ) := by
      exact_mod_cast (by decide +kernel : 2 ^ 1075 < 10 ^ 324)
    push_cast at h324
    have hsmall : (10 : ℚ) ^ (-324 : ℤ) < 2 ^ (-1074 : ℤ) / 2 := by
      rw [zpow_neg, zpow_neg, zpow_ofNat, zpow_ofNat, div_eq_mul_inv, ← mul_inv, ← pow_succ,
        inv_lt_inv₀ (by positivity) (by positivity)]
      exact h324
    have : (10 : ℚ) ^ (-324 : ℤ) < 10 ^ ((digitCount s : ℤ) + p) :=
      hsmall.trans (hunder.trans hhigh)
    have := (zpow_lt_zpow_iff_right₀ (by norm_num : (1 : ℚ) < 10)).mp this
    omega
  · have h309 : ((2 ^ 1024 : ℕ) : ℚ) < ((10 ^ 309 : ℕ) : ℚ) := by
      exact_mod_cast (by decide +kernel : 2 ^ 1024 < 10 ^ 309)
    push_cast at h309
    have : (10 : ℚ) ^ ((digitCount s : ℤ) + p - 1) < 10 ^ (309 : ℤ) := by
      rw [zpow_ofNat]
      exact hlow.trans_lt (hover.trans ((sub_lt_self _ (by positivity)).trans h309))
    have := (zpow_lt_zpow_iff_right₀ (by norm_num : (1 : ℚ) < 10)).mp this
    omega

/-- `ofDecimal` reads a positive decimal `s · 10^p` to the double, of the asked sign, whose
rounding interval holds it, whenever that double is finite and not zero. -/
theorem ofDecimal_of_inRounding (negative : Bool) {s : ℕ} {p : ℤ} {N : ℕ} (hs : 0 < s)
    (hN : 0 < N) (hfin : N < 2047 * 2 ^ 52) (hr : InRounding N (s * 10 ^ p)) :
    isNegative (ofDecimal negative s p) = negative ∧ magnitudeBits (ofDecimal negative s p) = N := by
  obtain ⟨hbottom, htop⟩ := hr.order_mem hs hN hfin
  have hquot : ((s * Nat.pow 10 p.toNat : ℕ) : ℚ) / ((Nat.pow 10 (-p).toNat : ℕ) : ℚ) =
      s * 10 ^ p := by
    rw [zpow_eq_div_toNat (by norm_num)]
    push_cast [Nat.pow_eq]
    ring
  have hpick : ofDecimal negative s p =
      ofQuotient negative (s * Nat.pow 10 p.toNat) (Nat.pow 10 (-p).toNat) := by
    simp only [ofDecimal, if_neg hs.ne', if_neg (not_lt.mpr htop), if_neg (not_lt.mpr hbottom)]
  rw [hpick]
  refine ofQuotient_of_inRounding negative (Nat.mul_pos hs (by simp [Nat.pow_eq]))
    (by simp [Nat.pow_eq]) hN hfin ?_
  rw [hquot]
  exact hr

end ScriptHost.Number
