import Mathlib
import ScriptHost.Proofs.DoubleBits

/-! # Exact values and rounding intervals of doubles

The exact values of the doubles, ordered by their magnitude bits, and the reals that round to
each under round-to-nearest, ties-to-even, which is the rounding of IEEE 754.
-/

namespace ScriptHost.Number

/-! ## Values -/

/-- The mantissa and scale of the non-negative double whose magnitude bits are `N`. -/
def magnitudeOf (N : ℕ) : ℕ × ℤ :=
  if N / 2 ^ 52 = 0 then (N, -1074) else (2 ^ 52 + N % 2 ^ 52, ((N / 2 ^ 52 : ℕ) : ℤ) - 1075)

/-- The value of the non-negative double whose magnitude bits are `N`. Past the largest finite
double the same rule goes on, so `valueAt (2047 * 2 ^ 52)` is `2 ^ 1024`. -/
def valueAt (N : ℕ) : ℚ :=
  (magnitudeOf N).1 * 2 ^ (magnitudeOf N).2

/-- The sign of a double as a factor. -/
def signOf (x : Float) : ℚ :=
  if isNegative x then -1 else 1

/-- The exact value `±m · 2^q` of a finite double. -/
def value (x : Float) : ℚ :=
  signOf x * ((magnitude x).1 * 2 ^ (magnitude x).2)

theorem magnitude_eq (x : Float) : magnitude x = magnitudeOf (magnitudeBits x) := by
  have hE := fields_exponent_lt x
  have hF := fields_fraction_lt x
  simp only [Nat.pow_eq] at hF
  have hdiv : ((fields x).exponent * 2 ^ 52 + (fields x).fraction) / 2 ^ 52 = (fields x).exponent := by
    omega
  have hmod : ((fields x).exponent * 2 ^ 52 + (fields x).fraction) % 2 ^ 52 = (fields x).fraction := by
    omega
  simp only [magnitude, magnitudeOf, magnitudeBits_eq, hdiv, hmod, Nat.pow_eq]
  split_ifs with h0
  · rw [h0, Nat.zero_mul, Nat.zero_add]
  · rfl

theorem value_eq (x : Float) : value x = signOf x * valueAt (magnitudeBits x) := by
  rw [value, magnitude_eq]
  rfl

theorem abs_signOf (x : Float) : |signOf x| = 1 := by
  unfold signOf
  split <;> norm_num

theorem isFinite_iff (x : Float) : isFinite x = true ↔ magnitudeBits x < 2047 * 2 ^ 52 := by
  have hF := fields_fraction_lt x
  simp only [Nat.pow_eq] at hF
  simp only [isFinite, decide_eq_true_eq, magnitudeBits_eq]
  omega

theorem isZero_iff (x : Float) : isZero x = true ↔ magnitudeBits x = 0 := by
  simp only [isZero, Bool.and_eq_true, beq_iff_eq, magnitudeBits_eq]
  omega

theorem magnitudeBits_pos {x : Float} (hx0 : isZero x = false) : 0 < magnitudeBits x := by
  have := (isZero_iff x).not.mp (by simp [hx0])
  omega

theorem mantissa_mod_two (N : ℕ) : (magnitudeOf N).1 % 2 = N % 2 := by
  unfold magnitudeOf
  split <;> omega

/-- Each step of the magnitude bits adds the unit `2^q` of the double below. -/
theorem valueAt_succ (N : ℕ) : valueAt (N + 1) = valueAt N + 2 ^ (magnitudeOf N).2 := by
  have hsplit : N = N / 2 ^ 52 * 2 ^ 52 + N % 2 ^ 52 := by omega
  by_cases hcarry : N % 2 ^ 52 + 1 < 2 ^ 52
  · -- the fraction grows by one inside the binade
    have hdiv : (N + 1) / 2 ^ 52 = N / 2 ^ 52 := by omega
    have hmod : (N + 1) % 2 ^ 52 = N % 2 ^ 52 + 1 := by omega
    unfold valueAt magnitudeOf
    rw [hdiv, hmod]
    split <;> simp only [Nat.cast_add, Nat.cast_one] <;> ring
  · -- the fraction wraps to zero and the exponent field grows by one
    have hdiv : (N + 1) / 2 ^ 52 = N / 2 ^ 52 + 1 := by omega
    have hmod : (N + 1) % 2 ^ 52 = 0 := by omega
    have hfrac : N % 2 ^ 52 = 2 ^ 52 - 1 := by omega
    unfold valueAt magnitudeOf
    rw [hdiv, hmod, if_neg (by omega)]
    split
    · rename_i hE
      have hN : N = 2 ^ 52 - 1 := by omega
      rw [hE, hN]
      push_cast
      ring
    · rename_i hE
      have hexp : ((N / 2 ^ 52 + 1 : ℕ) : ℤ) - 1075 = (((N / 2 ^ 52 : ℕ) : ℤ) - 1075) + 1 := by
        push_cast
        ring
      rw [hexp, zpow_add_one₀ (by norm_num), hfrac]
      push_cast
      ring

theorem valueAt_zero : valueAt 0 = 0 := by
  simp [valueAt, magnitudeOf]

theorem valueAt_strictMono : StrictMono valueAt :=
  strictMono_nat_of_lt_succ fun N => by
    rw [valueAt_succ]
    have := zpow_pos (two_pos : (0 : ℚ) < 2) (magnitudeOf N).2
    linarith

theorem valueAt_nonneg (N : ℕ) : 0 ≤ valueAt N := by
  rw [← valueAt_zero]
  exact valueAt_strictMono.monotone (Nat.zero_le N)

/-- The magnitude of a double is the value of its magnitude bits. -/
theorem abs_value (x : Float) : |value x| = valueAt (magnitudeBits x) := by
  rw [value_eq, abs_mul, abs_signOf, one_mul, abs_of_nonneg (valueAt_nonneg _)]

theorem value_of_not_isNegative {x : Float} (h : isNegative x = false) :
    value x = valueAt (magnitudeBits x) := by
  rw [value_eq, signOf, h, if_neg Bool.false_ne_true, one_mul]

theorem valueAt_pos {N : ℕ} (hN : 0 < N) : 0 < valueAt N := by
  rw [← valueAt_zero]
  exact valueAt_strictMono hN

/-- The largest finite double has the magnitude bits `2047 · 2^52 - 1`. -/
theorem valueAt_top : valueAt (2047 * 2 ^ 52) = 2 ^ 1024 := by
  have h : magnitudeOf (2047 * 2 ^ 52) = (2 ^ 52, ((972 : ℕ) : ℤ)) := by decide
  rw [valueAt, h, zpow_natCast, Nat.cast_pow, Nat.cast_ofNat, ← pow_add]

theorem valueAt_largest : valueAt (2047 * 2 ^ 52 - 1) = 2 ^ 1024 - 2 ^ 971 := by
  have h : magnitudeOf (2047 * 2 ^ 52 - 1) = (2 ^ 53 - 1, ((971 : ℕ) : ℤ)) := by decide
  rw [valueAt, h, zpow_natCast, Nat.cast_sub Nat.one_le_two_pow, Nat.cast_pow, Nat.cast_ofNat,
    Nat.cast_one, sub_mul, ← pow_add, one_mul]

/-! ## Rounding intervals -/

/-- The midpoint to the double below. -/
def lowEdge (N : ℕ) : ℚ :=
  (valueAt (N - 1) + valueAt N) / 2

/-- The midpoint to the double above. -/
def highEdge (N : ℕ) : ℚ :=
  (valueAt N + valueAt (N + 1)) / 2

/-- The reals that round to the double of magnitude bits `N ≥ 1` under round-to-nearest,
ties-to-even: those strictly between the midpoints to its neighbours, and the midpoints
themselves when the mantissa, so `N`, is even. -/
def InRounding (N : ℕ) (r : ℚ) : Prop :=
  (lowEdge N < r ∨ N % 2 = 0 ∧ lowEdge N = r) ∧ (r < highEdge N ∨ N % 2 = 0 ∧ r = highEdge N)

theorem highEdge_le_lowEdge {M N : ℕ} (h : M < N) : highEdge M ≤ lowEdge N := by
  have h1 := valueAt_strictMono.monotone (show M ≤ N - 1 by omega)
  have h2 := valueAt_strictMono.monotone (show M + 1 ≤ N by omega)
  unfold highEdge lowEdge
  linarith

theorem highEdge_lt_lowEdge {M N : ℕ} (h : M + 1 < N) : highEdge M < lowEdge N := by
  have h1 := valueAt_strictMono (show M < N - 1 by omega)
  have h2 := valueAt_strictMono (show M + 1 < N by omega)
  unfold highEdge lowEdge
  linarith

theorem lowEdge_lt_valueAt {N : ℕ} (hN : 0 < N) : lowEdge N < valueAt N := by
  have := valueAt_strictMono (show N - 1 < N by omega)
  unfold lowEdge
  linarith

theorem valueAt_lt_highEdge (N : ℕ) : valueAt N < highEdge N := by
  have := valueAt_strictMono (Nat.lt_succ_self N)
  unfold highEdge
  linarith

theorem half_le_lowEdge (N : ℕ) : valueAt N / 2 ≤ lowEdge N := by
  have := valueAt_nonneg (N - 1)
  unfold lowEdge
  linarith

theorem highEdge_lt_highEdge {N M : ℕ} (h : N < M) : highEdge N < highEdge M := by
  have h1 := valueAt_strictMono h
  have h2 := valueAt_strictMono (show N + 1 < M + 1 by omega)
  unfold highEdge
  linarith

/-- Above the largest finite double, rounding overflows from `2^1024 - 2^970` on. -/
theorem highEdge_largest : highEdge (2047 * 2 ^ 52 - 1) = 2 ^ 1024 - 2 ^ 970 := by
  rw [highEdge, Nat.sub_add_cancel (by norm_num), valueAt_largest, valueAt_top,
    show (2 : ℚ) ^ 971 = 2 ^ 970 * 2 from pow_succ 2 970]
  ring

theorem inRounding_valueAt {N : ℕ} (hN : 0 < N) : InRounding N (valueAt N) :=
  ⟨.inl (lowEdge_lt_valueAt hN), .inl (valueAt_lt_highEdge N)⟩

/-- Rounding intervals lie in the order of their doubles. -/
theorem InRounding.le_of_le {N M : ℕ} {r r' : ℚ} (h : InRounding N r) (h' : InRounding M r')
    (hr : r ≤ r') : N ≤ M := by
  by_contra hle
  have hlt := lt_of_not_ge hle
  have hedge := highEdge_le_lowEdge hlt
  obtain ⟨hlow, -⟩ := h
  obtain ⟨-, hhigh⟩ := h'
  -- `r' ≤ highEdge M ≤ lowEdge N ≤ r ≤ r'`: all are equal and both ends are closed
  rcases hhigh with hhigh | ⟨hM, rfl⟩
  · rcases hlow with hlow | ⟨-, rfl⟩ <;> linarith
  · rcases hlow with hlow | ⟨hN, hlow⟩
    · linarith
    · have hstep : ¬ M + 1 < N := fun h'' => by
        have := highEdge_lt_lowEdge h''
        linarith
      omega

/-- A real rounds to one double at most. -/
theorem InRounding.unique {N M : ℕ} {r : ℚ} (h : InRounding N r) (h' : InRounding M r) :
    N = M :=
  le_antisymm (h.le_of_le h' le_rfl) (h'.le_of_le h le_rfl)

/-- Rounding intervals are convex. -/
theorem InRounding.of_between {N : ℕ} {a b c : ℚ} (ha : InRounding N a) (hb : InRounding N b)
    (hac : a ≤ c) (hcb : c ≤ b) : InRounding N c := by
  constructor
  · rcases ha.1 with ha | ⟨hN, rfl⟩
    · exact .inl (lt_of_lt_of_le ha hac)
    · rcases hac.lt_or_eq with hlt | rfl
      · exact .inl hlt
      · exact .inr ⟨hN, rfl⟩
  · rcases hb.2 with hb | ⟨hN, rfl⟩
    · exact .inl (lt_of_le_of_lt hcb hb)
    · rcases hcb.lt_or_eq with hlt | rfl
      · exact .inl hlt
      · exact .inr ⟨hN, rfl⟩

/-- A value that rounds to a finite double is below the overflow threshold. -/
theorem InRounding.lt_overflow {N : ℕ} {r : ℚ} (h : InRounding N r) (hN : N < 2047 * 2 ^ 52) :
    r < 2 ^ 1024 - 2 ^ 970 := by
  rw [← highEdge_largest]
  rcases (show N < 2047 * 2 ^ 52 - 1 ∨ N = 2047 * 2 ^ 52 - 1 by omega) with hM | rfl
  · have := highEdge_lt_highEdge hM
    rcases h.2 with h2 | ⟨-, h2⟩ <;> linarith
  · rcases h.2 with h2 | ⟨hodd, -⟩
    · exact h2
    · omega

/-! ## Nearest doubles -/

/-- IEEE 754 round-to-nearest, ties-to-even, for a finite result: `r` rounds to `x` when `x`
is finite, `r` is below the overflow threshold `2^1024 - 2^970`, no finite double is nearer to
`r`, and a finite double of another value as near leaves `x` with an even mantissa. -/
def RoundsTo (r : ℚ) (x : Float) : Prop :=
  isFinite x = true ∧ |r| < 2 ^ 1024 - 2 ^ 970 ∧
    ∀ y : Float, isFinite y = true →
      |r - value x| ≤ |r - value y| ∧
        (|r - value x| = |r - value y| → value y ≠ value x → (magnitude x).1 % 2 = 0)

private theorem abs_sub_le_abs_sub_iff {a b r : ℚ} (hab : a < b) :
    |r - a| ≤ |r - b| ↔ r ≤ (a + b) / 2 := by
  rw [← sq_le_sq]
  constructor <;> intro h <;> nlinarith

private theorem abs_sub_le_abs_sub_iff' {a b r : ℚ} (hab : a < b) :
    |r - b| ≤ |r - a| ↔ (a + b) / 2 ≤ r := by
  rw [← sq_le_sq]
  constructor <;> intro h <;> nlinarith

private theorem abs_sub_eq_abs_sub_iff {a b r : ℚ} (hab : a < b) :
    |r - a| = |r - b| ↔ r = (a + b) / 2 := by
  rw [abs_eq_abs]
  constructor
  · rintro (h | h) <;> linarith
  · intro h
    right
    linarith

/-- A real in the rounding interval of `N` is at least as near to `valueAt N` as to the value of
any other double of the same sign, and a tie makes `N` even. -/
theorem InRounding.nearest {N : ℕ} {r : ℚ} (h : InRounding N r) (hN : 0 < N) (M : ℕ) :
    |r - valueAt N| ≤ |r - valueAt M| ∧
      (|r - valueAt N| = |r - valueAt M| → M ≠ N → N % 2 = 0) := by
  rcases lt_trichotomy M N with hMN | rfl | hMN
  · -- below: `r - valueAt M ≥ r - valueAt (N - 1) ≥ |r - valueAt N|`
    have hmono := valueAt_strictMono.monotone (show M ≤ N - 1 by omega)
    have hstep := valueAt_strictMono (show N - 1 < N by omega)
    have hlow : lowEdge N ≤ r := by
      rcases h.1 with h1 | ⟨-, h1⟩ <;> linarith
    have hnear : |r - valueAt N| ≤ r - valueAt (N - 1) := by
      rw [abs_le]
      unfold lowEdge at hlow
      constructor <;> linarith
    have hfar : r - valueAt (N - 1) ≤ |r - valueAt M| := by
      rw [le_abs]
      left
      linarith
    refine ⟨hnear.trans hfar, fun heq _ => ?_⟩
    -- a tie puts `r` on the lower midpoint
    rcases h.1 with h1 | ⟨hN2, -⟩
    · exfalso
      have : |r - valueAt N| < r - valueAt (N - 1) := by
        rw [abs_lt]
        unfold lowEdge at h1
        constructor <;> linarith
      linarith
    · exact hN2
  · exact ⟨le_rfl, fun _ h' => absurd rfl h'⟩
  · -- above: `valueAt M - r ≥ valueAt (N + 1) - r ≥ |r - valueAt N|`
    have hmono := valueAt_strictMono.monotone (show N + 1 ≤ M by omega)
    have hstep := valueAt_strictMono (Nat.lt_succ_self N)
    have hhigh : r ≤ highEdge N := by
      rcases h.2 with h1 | ⟨-, h1⟩ <;> linarith
    have hnear : |r - valueAt N| ≤ valueAt (N + 1) - r := by
      rw [abs_le]
      unfold highEdge at hhigh
      constructor <;> linarith
    have hfar : valueAt (N + 1) - r ≤ |r - valueAt M| := by
      rw [le_abs]
      right
      linarith
    refine ⟨hnear.trans hfar, fun heq _ => ?_⟩
    rcases h.2 with h1 | ⟨hN2, -⟩
    · exfalso
      have : |r - valueAt N| < valueAt (N + 1) - r := by
        rw [abs_lt]
        unfold highEdge at h1
        constructor <;> linarith
      linarith
    · exact hN2

/-- A real in the rounding interval of `N` is nearer to `valueAt N` than to any value `w ≤ 0`,
unless `r` is the lower midpoint of an even `N`. -/
theorem InRounding.nearest_of_nonpos {N : ℕ} {r : ℚ} (h : InRounding N r) (hN : 0 < N) {w : ℚ}
    (hw : w ≤ 0) :
    |r - valueAt N| ≤ |r - w| ∧ (|r - valueAt N| = |r - w| → N % 2 = 0) := by
  have hpos := valueAt_pos hN
  have hhalf := half_le_lowEdge N
  have hlow : lowEdge N ≤ r := by
    rcases h.1 with h1 | ⟨-, h1⟩ <;> linarith
  have hnear : |r - valueAt N| ≤ r := by
    rw [abs_le]
    constructor <;> linarith
  have hfar : r ≤ |r - w| := by
    rw [le_abs]
    left
    linarith
  refine ⟨hnear.trans hfar, fun heq => ?_⟩
  rcases h.1 with h1 | ⟨hN2, -⟩
  · exfalso
    have : |r - valueAt N| < r := by
      rw [abs_lt]
      constructor <;> linarith
    linarith
  · exact hN2

/-- A double of either sign with any finite magnitude bits. -/
theorem exists_double (negative : Bool) {N : ℕ} (hN : N < 2047 * 2 ^ 52) :
    ∃ y : Float, isFinite y = true ∧ isNegative y = negative ∧ magnitudeBits y = N := by
  have hf := fields_ofFields ⟨negative, N / 2 ^ 52, N % 2 ^ 52⟩ (by dsimp only; omega)
    (by dsimp only; omega)
  refine ⟨ofFields ⟨negative, N / 2 ^ 52, N % 2 ^ 52⟩, ?_, ?_, ?_⟩
  · rw [isFinite_iff, magnitudeBits_eq, hf]
    dsimp only
    omega
  · simp only [isNegative, hf]
  · rw [magnitudeBits_eq, hf]
    dsimp only
    omega

/-- For a finite nonzero double `x` and `r > 0`, `±r` (with the sign of `x`) rounds to `x`
exactly when `r` lies in the rounding interval of the magnitude bits of `x`. -/
theorem roundsTo_iff {x : Float} (hx : isFinite x = true) (hx0 : isZero x = false) {r : ℚ}
    (hr : 0 < r) : RoundsTo (signOf x * r) x ↔ InRounding (magnitudeBits x) r := by
  have hN := magnitudeBits_pos hx0
  have hNlt := (isFinite_iff x).mp hx
  have habs : ∀ w : ℚ, |signOf x * r - signOf x * w| = |r - w| := fun w => by
    rw [← mul_sub, abs_mul, abs_signOf, one_mul]
  have hvx := value_eq x
  have hpar : (magnitude x).1 % 2 = magnitudeBits x % 2 := by
    rw [magnitude_eq]
    exact mantissa_mod_two _
  -- the neighbours of `x`, of its sign, as far as they are finite
  have hneighbour : ∀ M, M < 2047 * 2 ^ 52 → ∃ y : Float, isFinite y = true ∧
      value y = signOf x * valueAt M := fun M hM => by
    obtain ⟨y, hyf, hys, hyM⟩ := exists_double (isNegative x) hM
    exact ⟨y, hyf, by rw [value_eq, hyM, signOf, signOf, hys]⟩
  constructor
  · rintro ⟨-, hover, hnear⟩
    constructor
    · obtain ⟨y, hyf, hvy⟩ := hneighbour (magnitudeBits x - 1) (by omega)
      have hlt := valueAt_strictMono (show magnitudeBits x - 1 < magnitudeBits x by omega)
      obtain ⟨hle, htie⟩ := hnear y hyf
      rw [hvx, hvy, habs, habs] at hle htie
      have hlow := (abs_sub_le_abs_sub_iff' hlt).mp hle
      rcases hlow.lt_or_eq with hlow | hlow
      · exact .inl hlow
      · refine .inr ⟨?_, hlow⟩
        rw [← hpar]
        refine htie ((abs_sub_eq_abs_sub_iff hlt).mpr hlow.symm).symm ?_
        intro heq
        have := mul_left_cancel₀ (by unfold signOf; split <;> norm_num) heq
        exact hlt.ne this
    · rcases (show magnitudeBits x + 1 < 2047 * 2 ^ 52 ∨ magnitudeBits x = 2047 * 2 ^ 52 - 1 by
        omega) with hM | hM
      · obtain ⟨y, hyf, hvy⟩ := hneighbour (magnitudeBits x + 1) hM
        have hlt := valueAt_strictMono (Nat.lt_succ_self (magnitudeBits x))
        obtain ⟨hle, htie⟩ := hnear y hyf
        rw [hvx, hvy, habs, habs] at hle htie
        have hhigh := (abs_sub_le_abs_sub_iff hlt).mp hle
        rcases hhigh.lt_or_eq with hhigh | hhigh
        · exact .inl hhigh
        · refine .inr ⟨?_, hhigh⟩
          rw [← hpar]
          refine htie ((abs_sub_eq_abs_sub_iff hlt).mpr hhigh) ?_
          intro heq
          have := mul_left_cancel₀ (by unfold signOf; split <;> norm_num) heq
          exact hlt.ne' this
      · -- the largest double: above it lies the overflow threshold
        left
        rw [hM, highEdge_largest]
        rw [abs_mul, abs_signOf, one_mul, abs_of_pos hr] at hover
        exact hover
  · intro h
    refine ⟨hx, ?_, fun y hy => ?_⟩
    · rw [abs_mul, abs_signOf, one_mul, abs_of_pos hr]
      exact h.lt_overflow hNlt
    · rw [hvx, value_eq y]
      by_cases hsame : isNegative y = isNegative x
      · have hsign : signOf y = signOf x := by rw [signOf, signOf, hsame]
        rw [hsign, habs, habs]
        obtain ⟨h1, h2⟩ := h.nearest hN (magnitudeBits y)
        refine ⟨h1, fun heq hne => ?_⟩
        rw [hpar]
        exact h2 heq fun hMN => hne (by rw [hMN])
      · have hsign : signOf y = -signOf x := by
          unfold signOf
          cases hxs : isNegative x <;> cases hys : isNegative y <;> simp_all
        have hrw : signOf x * r - signOf y * valueAt (magnitudeBits y) =
            signOf x * (r - -valueAt (magnitudeBits y)) := by
          rw [hsign]
          ring
        rw [habs, hrw, abs_mul, abs_signOf, one_mul]
        obtain ⟨h1, h2⟩ := h.nearest_of_nonpos hN
          (show -valueAt (magnitudeBits y) ≤ 0 by linarith [valueAt_nonneg (magnitudeBits y)])
        exact ⟨h1, fun heq _ => hpar ▸ h2 heq⟩

end ScriptHost.Number
