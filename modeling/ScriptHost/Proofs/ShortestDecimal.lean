import ScriptHost.Proofs.DoubleValues

/-! # The shortest decimal of a double

`shortestOf` finds a decimal of the rounding interval with the fewest significant digits, and
the nearest to the value among those.
-/

namespace ScriptHost.Number

/-! ## Exact comparisons -/

theorem zpow_eq_div_toNat {b : ℚ} (hb : b ≠ 0) (p : ℤ) : b ^ p = b ^ p.toNat / b ^ (-p).toNat := by
  conv_lhs => rw [← Int.toNat_sub_toNat_neg p]
  rw [zpow_sub₀ hb, zpow_natCast, zpow_natCast]

private theorem compare_eq_of_iff {A B : ℕ} {X Y : ℚ} (hlt : A < B ↔ X < Y) (heq : A = B ↔ X = Y) :
    compare A B = compare X Y := by
  rcases lt_trichotomy A B with h | h | h
  · rw [compare_lt_iff_lt.mpr h, compare_lt_iff_lt.mpr (hlt.mp h)]
  · rw [compare_eq_iff_eq.mpr h, compare_eq_iff_eq.mpr (heq.mp h)]
  · have hY : Y < X := by
      rcases lt_trichotomy X Y with h' | h' | h'
      · exact absurd (hlt.mpr h') (by omega)
      · exact absurd (heq.mpr h') (by omega)
      · exact h'
    rw [compare_gt_iff_gt.mpr h, compare_gt_iff_gt.mpr hY]

/-- `compareDecBin` compares `a · 10^p` with `b · 2^e`. -/
theorem compareDecBin_eq (a : ℕ) (p : ℤ) (b : ℕ) (e : ℤ) :
    compareDecBin a p b e = compare ((a : ℚ) * 10 ^ p) ((b : ℚ) * 2 ^ e) := by
  -- both sides are the naturals of `compareDecBin` divided by `10^p⁻ · 2^e⁻`
  have hD : (0 : ℚ) < 10 ^ (-p).toNat * 2 ^ (-e).toNat := by positivity
  have hX : (a : ℚ) * 10 ^ p =
      ((a * Nat.pow 10 p.toNat * Nat.pow 2 (-e).toNat : ℕ) : ℚ) / (10 ^ (-p).toNat * 2 ^ (-e).toNat) := by
    rw [zpow_eq_div_toNat (by norm_num)]
    push_cast [Nat.pow_eq]
    field_simp
  have hY : (b : ℚ) * 2 ^ e =
      ((b * Nat.pow 2 e.toNat * Nat.pow 10 (-p).toNat : ℕ) : ℚ) / (10 ^ (-p).toNat * 2 ^ (-e).toNat) := by
    rw [zpow_eq_div_toNat (by norm_num)]
    push_cast [Nat.pow_eq]
    field_simp
  unfold compareDecBin
  rw [hX, hY]
  apply compare_eq_of_iff
  · rw [div_lt_div_iff_of_pos_right hD, Nat.cast_lt]
  · rw [div_left_inj' hD.ne', Nat.cast_inj]

/-! ## Intervals -/

/-- The lower end of an interval, as a rational. -/
def Interval.lowQ (i : Interval) : ℚ := i.low * 2 ^ i.scale

/-- The upper end of an interval, as a rational. -/
def Interval.highQ (i : Interval) : ℚ := i.high * 2 ^ i.scale

theorem Interval.contains_iff (i : Interval) (c : ℕ) (p : ℤ) (hi : i.lowQ < i.highQ) :
    i.contains c p = true ↔
      (i.lowQ < c * 10 ^ p ∨ i.closed = true ∧ i.lowQ = c * 10 ^ p) ∧
        (c * 10 ^ p < i.highQ ∨ i.closed = true ∧ c * 10 ^ p = i.highQ) := by
  unfold Interval.contains
  rw [compareDecBin_eq, compareDecBin_eq]
  unfold Interval.lowQ Interval.highQ at hi ⊢
  generalize ho₁ : compare ((c : ℚ) * 10 ^ p) (i.low * 2 ^ i.scale) = o₁
  generalize ho₂ : compare ((c : ℚ) * 10 ^ p) (i.high * 2 ^ i.scale) = o₂
  -- one case per pair of comparisons with the two ends
  cases o₁ <;> cases o₂ <;>
    simp only [compare_lt_iff_lt, compare_eq_iff_eq, compare_gt_iff_gt] at ho₁ ho₂ <;>
    simp only [Bool.false_eq_true, false_iff, true_iff]
  case gt.lt => exact ⟨.inl ho₁, .inl ho₂⟩
  case eq.lt =>
    constructor
    · intro h
      exact ⟨.inr ⟨h, ho₁.symm⟩, .inl ho₂⟩
    · rintro ⟨h1 | ⟨h, -⟩, -⟩
      · linarith
      · exact h
  case gt.eq =>
    constructor
    · intro h
      exact ⟨.inl ho₁, .inr ⟨h, ho₂⟩⟩
    · rintro ⟨-, h2 | ⟨h, -⟩⟩
      · linarith
      · exact h
  all_goals rintro ⟨h1 | ⟨-, h1⟩, h2 | ⟨-, h2⟩⟩ <;> linarith

/-- Whether the step below the double of magnitude bits `N` is half as wide as the step above:
the smallest mantissa of a binade past the first normal one. -/
def narrowAt (N : ℕ) : Bool :=
  decide (N % 2 ^ 52 = 0 ∧ 2 ≤ N / 2 ^ 52)

theorem magnitudeOf_of_lt {N : ℕ} (h : N < 2 ^ 52) : magnitudeOf N = (N, -1074) := by
  rw [magnitudeOf, if_pos (by omega)]

theorem magnitudeOf_of_le {N : ℕ} (h : 2 ^ 52 ≤ N) :
    magnitudeOf N = (2 ^ 52 + N % 2 ^ 52, ((N / 2 ^ 52 : ℕ) : ℤ) - 1075) := by
  rw [magnitudeOf, if_neg (by omega)]

/-- The scale drops by one below the double of magnitude bits `N` exactly when `N` is narrow. -/
theorem magnitudeOf_pred {N : ℕ} (hN : 0 < N) :
    (magnitudeOf (N - 1)).2 = (magnitudeOf N).2 - (if narrowAt N then 1 else 0) := by
  by_cases hn : narrowAt N = true
  · have h1 : N % 2 ^ 52 = 0 ∧ 2 ≤ N / 2 ^ 52 := by simpa [narrowAt] using hn
    rw [if_pos hn, magnitudeOf_of_le (by omega), magnitudeOf_of_le (by omega)]
    omega
  · have h1 : ¬(N % 2 ^ 52 = 0 ∧ 2 ≤ N / 2 ^ 52) := by simpa [narrowAt] using hn
    rw [if_neg hn, sub_zero]
    by_cases h2 : N ≤ 2 ^ 52
    · rw [magnitudeOf_of_lt (by omega)]
      rcases h2.lt_or_eq with h2 | rfl
      · rw [magnitudeOf_of_lt h2]
      · -- the first normal binade has the scale of the subnormals
        rw [magnitudeOf_of_le le_rfl]
        norm_num
    · rw [magnitudeOf_of_le (by omega), magnitudeOf_of_le (by omega)]
      omega

theorem mantissa_pos {N : ℕ} (hN : 0 < N) : 0 < (magnitudeOf N).1 := by
  unfold magnitudeOf
  split <;> dsimp only <;> omega

theorem valueAt_eq (N : ℕ) : valueAt N = (magnitudeOf N).1 * 2 ^ (magnitudeOf N).2 := rfl

/-- The rounding interval of `N`, as `shortestOf` is handed it. -/
def roundingInterval (N : ℕ) : Interval :=
  Interval.around (magnitudeOf N).1 (magnitudeOf N).2 (narrowAt N)

private theorem two_zpow_sub_one (q : ℤ) : (2 : ℚ) ^ (q - 1) = 2 ^ (q - 2) * 2 := by
  rw [show q - 1 = q - 2 + 1 by ring, zpow_add_one₀ two_ne_zero]

private theorem two_zpow_eq (q : ℤ) : (2 : ℚ) ^ q = 2 ^ (q - 2) * 4 := by
  rw [show (4 : ℚ) = 2 ^ (2 : ℤ) by norm_num, ← zpow_add₀ two_ne_zero, sub_add_cancel]

theorem roundingInterval_lowQ {N : ℕ} (hN : 0 < N) : (roundingInterval N).lowQ = lowEdge N := by
  have hm := mantissa_pos hN
  have hstep := valueAt_succ (N - 1)
  rw [Nat.sub_add_cancel hN, magnitudeOf_pred hN, valueAt_eq N] at hstep
  have h4 := two_zpow_eq (magnitudeOf N).2
  have h2 := two_zpow_sub_one (magnitudeOf N).2
  unfold roundingInterval Interval.around Interval.lowQ lowEdge
  dsimp only
  rw [valueAt_eq N, Nat.cast_sub (by split <;> omega)]
  -- in units of `2^(q-2)`: the step below is two units, or one when it is narrow
  split
  · rename_i hn
    rw [if_pos hn] at hstep
    push_cast
    linear_combination hstep / 2 - (↑(magnitudeOf N).1 : ℚ) * h4 + h2 / 2
  · rename_i hn
    rw [if_neg hn, sub_zero] at hstep
    push_cast
    linear_combination hstep / 2 + (1 / 2 - (↑(magnitudeOf N).1 : ℚ)) * h4

theorem roundingInterval_highQ (N : ℕ) : (roundingInterval N).highQ = highEdge N := by
  have h4 := two_zpow_eq (magnitudeOf N).2
  unfold roundingInterval Interval.around Interval.highQ highEdge
  dsimp only
  rw [valueAt_succ N, valueAt_eq N]
  push_cast
  linear_combination (-(↑(magnitudeOf N).1 : ℚ) - 1 / 2) * h4

theorem roundingInterval_contains_iff {N : ℕ} (hN : 0 < N) (c : ℕ) (p : ℤ) :
    (roundingInterval N).contains c p = true ↔ InRounding N (c * 10 ^ p) := by
  have hclosed : (roundingInterval N).closed = true ↔ N % 2 = 0 := by
    simp only [roundingInterval, Interval.around, beq_iff_eq, mantissa_mod_two]
  have hlt : (roundingInterval N).lowQ < (roundingInterval N).highQ := by
    rw [roundingInterval_lowQ hN, roundingInterval_highQ]
    exact (lowEdge_lt_valueAt hN).trans (valueAt_lt_highEdge N)
  rw [Interval.contains_iff _ _ _ hlt, hclosed, roundingInterval_lowQ hN, roundingInterval_highQ]
  rfl

/-! ## Digits, grids and orders -/

theorem digitCount_eq_length (n : ℕ) : digitCount n = (Nat.toDigits 10 n).length := by
  induction n using Nat.strong_induction_on with
  | _ n ih =>
    rw [digitCount, Nat.toDigits_eq_if (by norm_num)]
    split
    · rfl
    · rw [List.length_append, ih (n / 10) (by omega)]
      rfl

theorem digitCount_pos (n : ℕ) : 0 < digitCount n := by
  rw [digitCount_eq_length]
  exact Nat.length_toDigits_pos

theorem digitCount_le_iff {n k : ℕ} (hk : 0 < k) : digitCount n ≤ k ↔ n < 10 ^ k := by
  rw [digitCount_eq_length]
  exact Nat.length_toDigits_le_iff (by norm_num) hk

theorem lt_pow_digitCount (n : ℕ) : n < 10 ^ digitCount n :=
  (digitCount_le_iff (digitCount_pos n)).mp le_rfl

theorem pow_digitCount_le {n : ℕ} (hn : 0 < n) : 10 ^ (digitCount n - 1) ≤ n := by
  by_cases h1 : digitCount n = 1
  · rw [h1]
    exact hn
  · by_contra hlt
    have hk : 0 < digitCount n - 1 := by
      have := digitCount_pos n
      omega
    have := (digitCount_le_iff hk : digitCount n ≤ digitCount n - 1 ↔ n < 10 ^ (digitCount n - 1)).mpr
      (by omega)
    omega

/-- The digit count is the `k` with `10^(k-1) ≤ n < 10^k`. -/
theorem digitCount_eq_of {n k : ℕ} (hk : 0 < k) (hlow : 10 ^ (k - 1) ≤ n) (hhigh : n < 10 ^ k) :
    digitCount n = k := by
  have hle := (digitCount_le_iff hk).mpr hhigh
  by_contra hne
  have hlt : digitCount n ≤ k - 1 := by omega
  have hk1 : 0 < k - 1 := by have := digitCount_pos n; omega
  have := (digitCount_le_iff hk1).mp hlt
  omega

/-- The value of a decimal. -/
def Decimal.toRat (d : Decimal) : ℚ :=
  d.digits * 10 ^ d.exponent

/-- `floorOnGrid m q g` is the whole number of steps `10^g` below `m · 2^q`. -/
theorem floorOnGrid_spec (m : ℕ) (q g : ℤ) :
    (floorOnGrid m q g : ℚ) * 10 ^ g ≤ m * 2 ^ q ∧
      (m : ℚ) * 2 ^ q < (floorOnGrid m q g + 1) * 10 ^ g := by
  have hg : (0 : ℚ) < 10 ^ g := by positivity
  have hquot : ((m * Nat.pow 2 q.toNat * Nat.pow 10 (-g).toNat : ℕ) : ℚ) /
      ((Nat.pow 2 (-q).toNat * Nat.pow 10 g.toNat : ℕ) : ℚ) = m * 2 ^ q / 10 ^ g := by
    rw [zpow_eq_div_toNat (by norm_num) q, zpow_eq_div_toNat (by norm_num) g]
    push_cast [Nat.pow_eq]
    field_simp
  have hfloor : floorOnGrid m q g = ⌊(m : ℚ) * 2 ^ q / 10 ^ g⌋₊ := by
    rw [← hquot, Nat.floor_div_eq_div]
    rfl
  have hnonneg : (0 : ℚ) ≤ m * 2 ^ q / 10 ^ g := by positivity
  rw [hfloor]
  constructor
  · have := Nat.floor_le hnonneg
    rwa [le_div_iff₀ hg] at this
  · have := Nat.lt_floor_add_one ((m : ℚ) * 2 ^ q / 10 ^ g)
    rwa [div_lt_iff₀ hg] at this

/-- `decimalOrder m q` is the `K` with `10^(K-1) ≤ m · 2^q < 10^K`. -/
theorem decimalOrder_spec {m : ℕ} (hm : 0 < m) (q : ℤ) :
    (10 : ℚ) ^ (decimalOrder m q - 1) ≤ m * 2 ^ q ∧ (m : ℚ) * 2 ^ q < 10 ^ decimalOrder m q := by
  set num := m * Nat.pow 2 q.toNat with hnum
  set den := Nat.pow 2 (-q).toNat with hden
  have hnum0 : 0 < num := Nat.mul_pos hm (Nat.pow_pos (by norm_num))
  have hden0 : 0 < den := Nat.pow_pos (by norm_num)
  have hv : (m : ℚ) * 2 ^ q = (num : ℚ) / den := by
    rw [zpow_eq_div_toNat (by norm_num) q, hnum, hden]
    push_cast [Nat.pow_eq]
    ring
  have hdenQ : (0 : ℚ) < den := by exact_mod_cast hden0
  rw [hv]
  unfold decimalOrder
  simp only [← hnum, ← hden]
  split
  · -- at least one: the order is the digit count of the whole part
    rename_i hle
    set w := num / den with hw
    have hw0 : 0 < w := Nat.div_pos hle hden0
    have hlow := pow_digitCount_le hw0
    have hhigh := lt_pow_digitCount w
    have hk : ((digitCount w : ℤ) - 1) = ((digitCount w - 1 : ℕ) : ℤ) := by
      have := digitCount_pos w
      omega
    rw [hk, zpow_natCast, zpow_natCast]
    constructor
    · rw [le_div_iff₀ hdenQ]
      have : w * den ≤ num := Nat.div_mul_le_self num den
      calc (10 : ℚ) ^ (digitCount w - 1) * den ≤ (w : ℚ) * den := by
            gcongr
            exact_mod_cast hlow
        _ ≤ num := by exact_mod_cast this
    · rw [div_lt_iff₀ hdenQ]
      have : num < (w + 1) * den := by
        rw [hw, mul_comm]
        exact Nat.lt_mul_div_succ num hden0
      calc (num : ℚ) < (w + 1) * den := by exact_mod_cast this
        _ ≤ 10 ^ digitCount w * den := by
            gcongr
            exact_mod_cast hhigh
  · -- below one: the order counts the zeros after the point
    rename_i hlt
    set w := (den - 1) / num with hw
    have hw0 : 0 < w := Nat.div_pos (by omega) hnum0
    have hlow := pow_digitCount_le hw0
    have hhigh := lt_pow_digitCount w
    have ht := digitCount_pos w
    have hk1 : (1 - (digitCount w : ℤ)) - 1 = -((digitCount w : ℕ) : ℤ) := by ring
    have hk2 : (1 - (digitCount w : ℤ)) = -((digitCount w - 1 : ℕ) : ℤ) := by omega
    rw [hk1, hk2, zpow_neg, zpow_neg, zpow_natCast, zpow_natCast]
    constructor
    · rw [inv_eq_one_div, div_le_div_iff₀ (by positivity) hdenQ, one_mul]
      have h1 : den - 1 < (w + 1) * num := by
        rw [hw, mul_comm]
        exact Nat.lt_mul_div_succ (den - 1) hnum0
      have h2 : den ≤ 10 ^ digitCount w * num := by
        have := Nat.mul_le_mul_right num (show w + 1 ≤ 10 ^ digitCount w by omega)
        omega
      rw [mul_comm]
      exact_mod_cast h2
    · rw [inv_eq_one_div, div_lt_div_iff₀ hdenQ (by positivity), one_mul]
      have h1 : w * num ≤ den - 1 := by
        rw [hw]
        exact Nat.div_mul_le_self ..
      have h2 : 10 ^ (digitCount w - 1) * num < den := by
        have := Nat.mul_le_mul_right num hlow
        omega
      rw [mul_comm]
      exact_mod_cast h2

/-! ## One grid -/

section Grid

variable {tie : Tie} {m : ℕ} {q : ℤ} {i : Interval} {g : ℤ} {d : Decimal}

/-- What a pick on the grid `10^g` is: one of the two neighbours of `m · 2^q` there, in the
interval, and at least as near to the value as each neighbour in the interval. -/
structure PickedOn (m : ℕ) (q : ℤ) (i : Interval) (g : ℤ) (d : Decimal) : Prop where
  exponent_eq : d.exponent = g
  neighbour : d.digits = floorOnGrid m q g ∨ d.digits = floorOnGrid m q g + 1
  mem : i.contains d.digits g = true
  nearest : ∀ c : ℕ, (c = floorOnGrid m q g ∨ c = floorOnGrid m q g + 1) →
    i.contains c g = true → |d.toRat - (m : ℚ) * 2 ^ q| ≤ |(c : ℚ) * 10 ^ g - (m : ℚ) * 2 ^ q|

private theorem dist_floor (m : ℕ) (q g : ℤ) :
    |(floorOnGrid m q g : ℚ) * 10 ^ g - m * 2 ^ q| = m * 2 ^ q - floorOnGrid m q g * 10 ^ g := by
  have hlow := (floorOnGrid_spec m q g).1
  rw [abs_sub_comm, abs_of_nonneg (by linarith)]

private theorem dist_ceil (m : ℕ) (q g : ℤ) :
    |((floorOnGrid m q g + 1 : ℕ) : ℚ) * 10 ^ g - m * 2 ^ q| =
      (floorOnGrid m q g + 1) * 10 ^ g - m * 2 ^ q := by
  have hhigh := (floorOnGrid_spec m q g).2
  push_cast
  rw [abs_of_nonneg (by linarith)]

private theorem pickedOn_floor (hl : i.contains (floorOnGrid m q g) g = true)
    (hnear : (m : ℚ) * 2 ^ q - floorOnGrid m q g * 10 ^ g ≤
      (floorOnGrid m q g + 1) * 10 ^ g - m * 2 ^ q) :
    PickedOn m q i g ⟨floorOnGrid m q g, g⟩ := by
  refine ⟨rfl, .inl rfl, hl, fun c hc _ => ?_⟩
  rcases hc with rfl | rfl
  · exact le_rfl
  · show |(floorOnGrid m q g : ℚ) * 10 ^ g - m * 2 ^ q| ≤ _
    rw [dist_floor, dist_ceil]
    exact hnear

private theorem pickedOn_ceil (hh : i.contains (floorOnGrid m q g + 1) g = true)
    (hnear : (floorOnGrid m q g + 1) * 10 ^ g - (m : ℚ) * 2 ^ q ≤
      m * 2 ^ q - floorOnGrid m q g * 10 ^ g) :
    PickedOn m q i g ⟨floorOnGrid m q g + 1, g⟩ := by
  refine ⟨rfl, .inr rfl, hh, fun c hc _ => ?_⟩
  rcases hc with rfl | rfl
  · show |((floorOnGrid m q g + 1 : ℕ) : ℚ) * 10 ^ g - m * 2 ^ q| ≤ _
    rw [dist_floor, dist_ceil]
    exact hnear
  · exact le_rfl

/-- A neighbour that is alone in the interval is the pick. -/
private theorem pickedOn_alone {c : ℕ} (hc : c = floorOnGrid m q g ∨ c = floorOnGrid m q g + 1)
    (hin : i.contains c g = true)
    (hother : ∀ c' : ℕ, (c' = floorOnGrid m q g ∨ c' = floorOnGrid m q g + 1) →
      i.contains c' g = true → c' = c) :
    PickedOn m q i g ⟨c, g⟩ :=
  ⟨rfl, hc, hin, fun c' hc' hin' => by
    rw [hother c' hc' hin']
    exact le_rfl⟩

theorem pickOnGrid_some (h : pickOnGrid tie m q i g = some d) : PickedOn m q i g d := by
  have hv2 : (m : ℚ) * 2 ^ (q + 1) = 2 * (m * 2 ^ q) := by
    rw [zpow_add_one₀ two_ne_zero]
    ring
  unfold pickOnGrid at h
  dsimp only at h
  split at h
  · -- both neighbours lie in the interval: the nearer is kept
    rename_i hboth
    simp only [Bool.and_eq_true] at hboth
    obtain ⟨hl, hh⟩ := hboth
    rw [compareDecBin_eq, hv2] at h
    have hmid : (((2 * floorOnGrid m q g + 1 : ℕ) : ℚ) * 10 ^ g) =
        floorOnGrid m q g * 10 ^ g + (floorOnGrid m q g + 1) * 10 ^ g := by
      push_cast
      ring
    rw [hmid] at h
    split at h
    · rename_i hcmp
      rw [compare_lt_iff_lt] at hcmp
      rw [← Option.some.inj h]
      exact pickedOn_ceil hh (by linarith)
    · rename_i hcmp
      rw [compare_gt_iff_gt] at hcmp
      rw [← Option.some.inj h]
      exact pickedOn_floor hl (by linarith)
    · rename_i hcmp
      rw [compare_eq_iff_eq] at hcmp
      -- a tie: both are as near, whichever the rule keeps
      cases tie
      · rw [← Option.some.inj h]
        exact pickedOn_ceil hh (by linarith)
      · rw [← Option.some.inj h]
        exact pickedOn_floor hl (by linarith)
      · dsimp only at h
        split at h
        · rw [← Option.some.inj h]
          exact pickedOn_floor hl (by linarith)
        · rw [← Option.some.inj h]
          exact pickedOn_ceil hh (by linarith)
  · rename_i hnot
    split at h
    · rename_i hl
      have hh : i.contains (floorOnGrid m q g + 1) g = false := by simpa [hl] using hnot
      rw [← Option.some.inj h]
      refine pickedOn_alone (.inl rfl) hl fun c' hc' hin' => ?_
      rcases hc' with rfl | rfl
      · rfl
      · rw [hh] at hin'
        cases hin'
    · rename_i hl
      split at h
      · rename_i hh
        rw [← Option.some.inj h]
        refine pickedOn_alone (.inr rfl) hh fun c' hc' hin' => ?_
        rcases hc' with rfl | rfl
        · rw [Bool.not_eq_true] at hl
          rw [hl] at hin'
          cases hin'
        · rfl
      · cases h

/-- No pick on a grid means neither neighbour lies in the interval. -/
theorem pickOnGrid_none (h : pickOnGrid tie m q i g = none) :
    i.contains (floorOnGrid m q g) g = false ∧ i.contains (floorOnGrid m q g + 1) g = false := by
  unfold pickOnGrid at h
  dsimp only at h
  split at h
  · split at h <;> (try split at h) <;> cases h
  · split at h
    · cases h
    · split at h
      · cases h
      · rename_i hl hh
        exact ⟨by simpa using hl, by simpa using hh⟩

end Grid

/-! ## Trailing zeros -/

/-- Trimming keeps the value and the sign of the digits, leaves no trailing zero, and does not
add digits. -/
theorem Decimal.trim_spec (d : Decimal) :
    d.trim.toRat = d.toRat ∧ (0 < d.digits → 0 < d.trim.digits ∧ d.trim.digits % 10 ≠ 0) ∧
      d.trim.digits ≤ d.digits := by
  induction h : d.digits using Nat.strong_induction_on generalizing d with
  | _ n ih =>
    rw [Decimal.trim]
    split
    · rename_i hz
      have hlt : d.digits / 10 < n := by omega
      obtain ⟨h1, h2, h3⟩ := ih (d.digits / 10) hlt ⟨d.digits / 10, d.exponent + 1⟩ rfl
      refine ⟨?_, fun _ => h2 (by omega), by omega⟩
      rw [h1]
      unfold Decimal.toRat
      dsimp only
      have hdiv : ((d.digits / 10 : ℕ) : ℚ) = d.digits / 10 := by
        rw [Nat.cast_div (Nat.dvd_of_mod_eq_zero hz.2) (by norm_num)]
        norm_num
      rw [hdiv, zpow_add_one₀ (by norm_num)]
      ring
    · rename_i hz
      refine ⟨rfl, fun hpos => ⟨by omega, fun h0 => hz ⟨by omega, h0⟩⟩, h.le⟩

/-! ## The search -/

theorem findSome?_range_eq_some {β : Type} {f : ℕ → Option β} {n : ℕ} {b : β}
    (h : (List.range n).findSome? f = some b) : ∃ j < n, f j = some b ∧ ∀ i < j, f i = none := by
  induction n with
  | zero => simp at h
  | succ n ih =>
    rw [List.range_succ, List.findSome?_append] at h
    cases hf : (List.range n).findSome? f with
    | some b' =>
      rw [hf, Option.some_or] at h
      obtain ⟨j, hj, hfj, hbefore⟩ := ih (by rw [hf, h])
      exact ⟨j, by omega, hfj, hbefore⟩
    | none =>
      rw [hf, Option.none_or] at h
      rw [List.findSome?_eq_none_iff] at hf
      exact ⟨n, by omega, by simpa using h, fun i hi => hf i (List.mem_range.mpr hi)⟩

/-- `d` is a shortest decimal of the double of magnitude bits `N`: it rounds to that double and
has no trailing zero, no decimal that rounds to it has fewer significant digits, and none with as
many is nearer to it. -/
structure IsShortest (N : ℕ) (d : Decimal) : Prop where
  digits_pos : 0 < d.digits
  digits_mod_ten : d.digits % 10 ≠ 0
  rounds : InRounding N d.toRat
  fewest : ∀ (c : ℕ) (p : ℤ), 0 < c → InRounding N (c * 10 ^ p) → digitCount d.digits ≤ digitCount c
  nearest : ∀ (c : ℕ) (p : ℤ), digitCount c = digitCount d.digits → InRounding N (c * 10 ^ p) →
    |d.toRat - valueAt N| ≤ |(c : ℚ) * 10 ^ p - valueAt N|

theorem InRounding.pos {N : ℕ} {r : ℚ} (h : InRounding N r) (hN : 0 < N) : 0 < r := by
  have h1 := half_le_lowEdge N
  have h2 := valueAt_pos hN
  rcases h.1 with h3 | ⟨-, h3⟩ <;> linarith

theorem mantissa_lt (N : ℕ) : (magnitudeOf N).1 < 2 ^ 53 := by
  unfold magnitudeOf
  split <;> dsimp only <;> omega

section Search

variable {N : ℕ}

/-- The decimal order of the double of magnitude bits `N`. -/
def orderAt (N : ℕ) : ℤ :=
  decimalOrder (magnitudeOf N).1 (magnitudeOf N).2

/-- The grid of the decimals with `j + 1` significant digits at that order. -/
def gridAt (N j : ℕ) : ℤ :=
  orderAt N - ((j + 1 : ℕ) : ℤ)

/-- The lower neighbour of the value on that grid. -/
def floorAt (N j : ℕ) : ℕ :=
  floorOnGrid (magnitudeOf N).1 (magnitudeOf N).2 (gridAt N j)

/-- What the search keeps on that grid. -/
def pickAt (tie : Tie) (N j : ℕ) : Option Decimal :=
  pickOnGrid tie (magnitudeOf N).1 (magnitudeOf N).2 (roundingInterval N) (gridAt N j)

theorem shortestOf_eq_trim (tie : Tie) (N : ℕ) :
    shortestOf tie (magnitudeOf N).1 (magnitudeOf N).2 (narrowAt N) =
      (((List.range 17).findSome? (pickAt tie N)).getD
        ⟨floorOnGrid (magnitudeOf N).1 (magnitudeOf N).2 (orderAt N - 17), orderAt N - 17⟩).trim :=
  rfl

theorem orderAt_spec (hN : 0 < N) :
    (10 : ℚ) ^ (orderAt N - 1) ≤ valueAt N ∧ valueAt N < 10 ^ orderAt N :=
  decimalOrder_spec (mantissa_pos hN) _

theorem floorAt_spec (N j : ℕ) :
    (floorAt N j : ℚ) * 10 ^ gridAt N j ≤ valueAt N ∧
      valueAt N < (floorAt N j + 1) * 10 ^ gridAt N j :=
  floorOnGrid_spec _ _ _

theorem ten_pow_orderAt_sub_one (N j : ℕ) :
    (10 : ℚ) ^ (orderAt N - 1) = ((10 ^ j : ℕ) : ℚ) * 10 ^ gridAt N j := by
  rw [Nat.cast_pow, Nat.cast_ofNat, ← zpow_natCast, ← zpow_add₀ (by norm_num), gridAt]
  congr 1
  push_cast
  ring

theorem ten_pow_orderAt (N j : ℕ) :
    (10 : ℚ) ^ orderAt N = ((10 ^ (j + 1) : ℕ) : ℚ) * 10 ^ gridAt N j := by
  rw [Nat.cast_pow, Nat.cast_ofNat, ← zpow_natCast, ← zpow_add₀ (by norm_num), gridAt]
  congr 1
  ring

/-- A point of the interval on the grid of `j + 1` digits has a neighbour of the value on that
grid in the interval and at least as near. -/
private theorem neighbour_of_grid (hN : 0 < N) {j c'' : ℕ}
    (hin : InRounding N (c'' * 10 ^ gridAt N j)) :
    ∃ c : ℕ, (c = floorAt N j ∨ c = floorAt N j + 1) ∧ InRounding N (c * 10 ^ gridAt N j) ∧
      |(c : ℚ) * 10 ^ gridAt N j - valueAt N| ≤ |(c'' : ℚ) * 10 ^ gridAt N j - valueAt N| := by
  have hv := inRounding_valueAt hN
  obtain ⟨hfl, hfh⟩ := floorAt_spec N j
  have hg : (0 : ℚ) < 10 ^ gridAt N j := by positivity
  by_cases hle : c'' ≤ floorAt N j
  · -- the point lies below: the lower neighbour is between it and the value
    have hcast : (c'' : ℚ) * 10 ^ gridAt N j ≤ floorAt N j * 10 ^ gridAt N j := by
      gcongr
    refine ⟨floorAt N j, .inl rfl, hin.of_between hv hcast hfl, ?_⟩
    rw [abs_sub_comm, abs_of_nonneg (by linarith), abs_sub_comm, abs_of_nonneg (by linarith)]
    linarith
  · -- the point lies above: the upper neighbour is between the value and it
    have hcast : ((floorAt N j + 1 : ℕ) : ℚ) * 10 ^ gridAt N j ≤ c'' * 10 ^ gridAt N j := by
      gcongr
      exact_mod_cast (show floorAt N j + 1 ≤ c'' by omega)
    have hup : valueAt N ≤ ((floorAt N j + 1 : ℕ) : ℚ) * 10 ^ gridAt N j := by
      push_cast
      exact hfh.le
    refine ⟨floorAt N j + 1, .inr rfl, hv.of_between hin hup hcast, ?_⟩
    rw [abs_of_nonneg (by linarith), abs_of_nonneg (by linarith)]
    linarith

/-- A decimal of the interval with at most `j + 1` significant digits puts a neighbour of the
value on the grid of `j + 1` digits in the interval, at least as near as it. -/
theorem exists_neighbour (hN : 0 < N) {j c' : ℕ} {p' : ℤ}
    (hdigits : digitCount c' ≤ j + 1) (hw : InRounding N (c' * 10 ^ p')) :
    ∃ c : ℕ, (c = floorAt N j ∨ c = floorAt N j + 1) ∧ InRounding N (c * 10 ^ gridAt N j) ∧
      |(c : ℚ) * 10 ^ gridAt N j - valueAt N| ≤ |(c' : ℚ) * 10 ^ p' - valueAt N| := by
  have hv := inRounding_valueAt hN
  obtain ⟨hK1, hK⟩ := orderAt_spec hN
  by_cases hbig : (10 : ℚ) ^ (orderAt N - 1) ≤ c' * 10 ^ p'
  · -- at or above the order, the decimal lies on the grid
    have hp : gridAt N j ≤ p' := by
      have hlt : (10 : ℚ) ^ (orderAt N - 1) < 10 ^ ((digitCount c' : ℤ) + p') :=
        calc (10 : ℚ) ^ (orderAt N - 1) ≤ c' * 10 ^ p' := hbig
          _ < ((10 ^ digitCount c' : ℕ) : ℚ) * 10 ^ p' := by
            gcongr
            exact_mod_cast lt_pow_digitCount c'
          _ = 10 ^ ((digitCount c' : ℤ) + p') := by
            rw [zpow_add₀ (by norm_num), zpow_natCast, Nat.cast_pow, Nat.cast_ofNat]
      have := (zpow_lt_zpow_iff_right₀ (by norm_num : (1 : ℚ) < 10)).mp hlt
      unfold gridAt
      omega
    have hw' : (c' : ℚ) * 10 ^ p' =
        ((c' * 10 ^ (p' - gridAt N j).toNat : ℕ) : ℚ) * 10 ^ gridAt N j := by
      push_cast
      rw [mul_assoc, ← zpow_natCast, ← zpow_add₀ (by norm_num)]
      congr 2
      omega
    rw [hw'] at hw ⊢
    exact neighbour_of_grid hN hw
  · -- below the order, `10^(K-1)` lies between the decimal and the value, and is nearer
    have hsmall := lt_of_not_ge hbig
    have hpow : InRounding N ((10 ^ j : ℕ) * 10 ^ gridAt N j) := by
      rw [← ten_pow_orderAt_sub_one]
      exact hw.of_between hv hsmall.le hK1
    obtain ⟨c, hc, hin, hnear⟩ := neighbour_of_grid hN hpow
    refine ⟨c, hc, hin, hnear.trans ?_⟩
    rw [← ten_pow_orderAt_sub_one, abs_sub_comm, abs_of_nonneg (by linarith), abs_sub_comm,
      abs_of_nonneg (by linarith)]
    linarith

/-- The search finds something on the grid of `j + 1` digits once some decimal of the interval has
at most `j + 1` significant digits. -/
theorem pickAt_ne_none (tie : Tie) (hN : 0 < N) {j c' : ℕ} {p' : ℤ}
    (hdigits : digitCount c' ≤ j + 1) (hw : InRounding N (c' * 10 ^ p')) : pickAt tie N j ≠ none := by
  intro hnone
  obtain ⟨c, hc, hin, -⟩ := exists_neighbour hN hdigits hw
  obtain ⟨hfloor, hceil⟩ := pickOnGrid_none hnone
  rw [← roundingInterval_contains_iff hN] at hin
  rcases hc with rfl | rfl
  · exact absurd hin (by rw [floorAt, hfloor]; decide)
  · exact absurd hin (by rw [floorAt, hceil]; decide)

/-- Seventeen digits always suffice: the interval is wider than the grid of seventeen digits. -/
theorem pickAt_sixteen_ne_none (tie : Tie) (hN : 0 < N) : pickAt tie N 16 ≠ none := by
  have hv := inRounding_valueAt hN
  obtain ⟨hK1, -⟩ := orderAt_spec hN
  obtain ⟨hfl, hfh⟩ := floorAt_spec N 16
  have hq : (0 : ℚ) < 2 ^ (magnitudeOf N).2 := by positivity
  have hgrid : (10 : ℚ) ^ gridAt N 16 * 10 ^ 16 ≤ valueAt N := by
    rw [ten_pow_orderAt_sub_one N 16] at hK1
    push_cast at hK1
    linarith
  have hm := mantissa_lt N
  -- the width of the interval exceeds the grid step
  have hwidth : lowEdge N + 10 ^ gridAt N 16 < highEdge N := by
    have hsucc := valueAt_succ N
    have hpred := valueAt_succ (N - 1)
    rw [Nat.sub_add_cancel hN, magnitudeOf_pred hN] at hpred
    unfold lowEdge highEdge
    rw [valueAt_eq N] at hgrid hpred hsucc
    split at hpred
    · -- narrow: the mantissa is `2^52` and the step below is half a unit
      rename_i hn
      have h1 : N % 2 ^ 52 = 0 ∧ 2 ≤ N / 2 ^ 52 := by simpa [narrowAt] using hn
      have hm52 : ((magnitudeOf N).1 : ℚ) = 2 ^ 52 := by
        rw [magnitudeOf_of_le (by omega), h1.1]
        norm_num
      have h2 := two_zpow_sub_one (magnitudeOf N).2
      have h4 := two_zpow_eq (magnitudeOf N).2
      rw [hm52] at hgrid hpred
      nlinarith
    · rw [sub_zero] at hpred
      have hm' : ((magnitudeOf N).1 : ℚ) + 1 ≤ 2 ^ 53 := by exact_mod_cast hm
      nlinarith
  intro hnone
  obtain ⟨hfloor, hceil⟩ := pickOnGrid_none hnone
  by_cases hlow : lowEdge N < floorAt N 16 * 10 ^ gridAt N 16
  · have hin : InRounding N (floorAt N 16 * 10 ^ gridAt N 16) :=
      ⟨.inl hlow, .inl (lt_of_le_of_lt hfl (valueAt_lt_highEdge N))⟩
    rw [← roundingInterval_contains_iff hN] at hin
    exact absurd hin (by rw [floorAt, hfloor]; decide)
  · have hin : InRounding N ((floorAt N 16 + 1 : ℕ) * 10 ^ gridAt N 16) := by
      push_cast
      exact ⟨.inl (lt_of_lt_of_le (lowEdge_lt_valueAt hN) hfh.le), .inl (by linarith)⟩
    rw [← roundingInterval_contains_iff hN] at hin
    exact absurd hin (by rw [floorAt, hceil]; decide)

/-- The search gives a shortest decimal of the double of magnitude bits `N`. -/
theorem shortestOf_isShortest (tie : Tie) (hN : 0 < N) :
    IsShortest N (shortestOf tie (magnitudeOf N).1 (magnitudeOf N).2 (narrowAt N)) := by
  rw [shortestOf_eq_trim]
  cases hfound : (List.range 17).findSome? (pickAt tie N) with
  | none =>
    exfalso
    rw [List.findSome?_eq_none_iff] at hfound
    exact pickAt_sixteen_ne_none tie hN (hfound 16 (by simp))
  | some d₀ =>
    -- the first grid with a pick, and what was picked there
    obtain ⟨j₀, -, hpick, hbefore⟩ := findSome?_range_eq_some hfound
    have hp := pickOnGrid_some hpick
    rw [Option.getD_some]
    obtain ⟨htrim_val, htrim_pos, htrim_le⟩ := Decimal.trim_spec d₀
    have hd₀ : InRounding N d₀.toRat := by
      have := hp.mem
      rw [roundingInterval_contains_iff hN] at this
      rwa [Decimal.toRat, hp.exponent_eq]
    have hd₀pos : 0 < d₀.digits := by
      have := hd₀.pos hN
      unfold Decimal.toRat at this
      by_contra h0
      rw [show d₀.digits = 0 by omega] at this
      simp at this
    obtain ⟨ht0, ht10⟩ := htrim_pos hd₀pos
    -- no decimal of the interval has fewer than `j₀ + 1` digits
    have hmin : ∀ (c : ℕ) (p : ℤ), InRounding N (c * 10 ^ p) → j₀ + 1 ≤ digitCount c := by
      intro c p hin
      by_contra hlt
      exact pickAt_ne_none tie hN (show digitCount c ≤ (digitCount c - 1) + 1 by omega) hin
        (hbefore _ (by have := digitCount_pos c; omega))
    -- the pick has at most `j₀ + 1` digits, and trimming keeps that
    have hle : digitCount d₀.trim.digits ≤ j₀ + 1 := by
      have hflt : floorAt N j₀ < 10 ^ (j₀ + 1) := by
        have h1 := (floorAt_spec N j₀).1
        have h2 := (orderAt_spec hN).2
        rw [ten_pow_orderAt N j₀] at h2
        have hg : (0 : ℚ) < 10 ^ gridAt N j₀ := by positivity
        have : (floorAt N j₀ : ℚ) < ((10 ^ (j₀ + 1) : ℕ) : ℚ) :=
          lt_of_mul_lt_mul_right (lt_of_le_of_lt h1 h2) hg.le
        exact_mod_cast this
      have hd : d₀.digits ≤ 10 ^ (j₀ + 1) := by
        rcases hp.neighbour with h | h <;> rw [h] <;> unfold floorAt at hflt <;> omega
      have hne : d₀.trim.digits ≠ 10 ^ (j₀ + 1) := fun h => ht10 (by rw [h, pow_succ]; simp)
      exact (digitCount_le_iff (by omega)).mpr (by omega)
    have hk : digitCount d₀.trim.digits = j₀ + 1 :=
      le_antisymm hle (hmin _ _ (by rw [← Decimal.toRat, htrim_val]; exact hd₀))
    refine ⟨ht0, ht10, by rw [htrim_val]; exact hd₀, fun c p _ hin => hle.trans (hmin c p hin),
      fun c p hcount hin => ?_⟩
    -- the neighbour on the grid of `j₀ + 1` digits that is at least as near as `c · 10^p`
    obtain ⟨c', hc', hin', hnear⟩ := exists_neighbour hN (show digitCount c ≤ j₀ + 1 by omega) hin
    have hpick_near := hp.nearest c' hc'
      (by rw [roundingInterval_contains_iff hN]; exact hin')
    rw [htrim_val, valueAt_eq]
    exact hpick_near.trans (by rw [← valueAt_eq]; exact hnear)

end Search

/-! ## The shortest decimal of a double -/

/-- At the smallest normal double the interval `shortest` hands over is a quarter step narrower
below than the rounding interval; the decimal found is the same. -/
theorem shortestOf_smallestNormal :
    shortestOf .up (2 ^ 52) (-1074) true = shortestOf .up (2 ^ 52) (-1074) false := by
  decide +kernel

/-- The model's test for the narrow step below agrees with `narrowAt` except at the smallest normal
double. -/
theorem narrow_flag_eq {x : Float} (h : magnitudeBits x ≠ 2 ^ 52) :
    ((fields x).fraction == 0 && (fields x).exponent != 0) = narrowAt (magnitudeBits x) := by
  have hF := fields_fraction_lt x
  simp only [Nat.pow_eq] at hF
  have hb := magnitudeBits_eq x
  unfold narrowAt
  by_cases h1 : (fields x).fraction = 0 ∧ (fields x).exponent ≠ 0
  · have h2 : magnitudeBits x % 2 ^ 52 = 0 ∧ 2 ≤ magnitudeBits x / 2 ^ 52 := by omega
    rw [decide_eq_true h2]
    simp [h1.1, h1.2]
  · have h2 : ¬(magnitudeBits x % 2 ^ 52 = 0 ∧ 2 ≤ magnitudeBits x / 2 ^ 52) := by omega
    rw [decide_eq_false h2]
    simpa [Bool.and_eq_false_iff] using h1

/-- The decimal that the model writes for a finite nonzero double is a shortest one. -/
theorem shortest_isShortest {x : Float} (hx0 : isZero x = false) :
    IsShortest (magnitudeBits x) (shortest .up x) := by
  have hN := magnitudeBits_pos hx0
  have hshort : shortest .up x = shortestOf .up (magnitudeOf (magnitudeBits x)).1
      (magnitudeOf (magnitudeBits x)).2 ((fields x).fraction == 0 && (fields x).exponent != 0) := by
    unfold shortest
    rw [magnitude_eq]
  rw [hshort]
  by_cases h52 : magnitudeBits x = 2 ^ 52
  · -- the smallest normal double
    have hflag : ((fields x).fraction == 0 && (fields x).exponent != 0) = true := by
      have hb := magnitudeBits_eq x
      have hF := fields_fraction_lt x
      simp only [Nat.pow_eq] at hF
      have h1 : (fields x).fraction = 0 := by omega
      have h2 : (fields x).exponent = 1 := by omega
      simp [h1, h2]
    have hmag : magnitudeOf (2 ^ 52) = (2 ^ 52, -1074) := by decide
    have hnarrow : narrowAt (2 ^ 52) = false := by decide
    rw [hflag, h52, hmag]
    dsimp only
    rw [shortestOf_smallestNormal]
    have h := shortestOf_isShortest .up (show 0 < 2 ^ 52 by norm_num)
    simpa only [hmag, hnarrow] using h
  · rw [narrow_flag_eq h52]
    exact shortestOf_isShortest .up hN

end ScriptHost.Number
