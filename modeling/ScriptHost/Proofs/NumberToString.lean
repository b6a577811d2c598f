import ScriptHost.Proofs.TextReading

/-! # Number::toString

`format` writes the digits and layout of Number::toString in radix 10 of ECMAScript (steps 5
to 10, with Note 2).
-/

namespace ScriptHost.Number

/-! ## The specification -/

/-- Steps 6 to 10 of Number::toString in radix 10: the digits of `s` laid out for the decimal
order `n`, so that the text has the value `s × 10^(n-k)`, `k` the number of digits of `s`. -/
def ecmaLayout (n : ℤ) (s : ℕ) : String :=
  let ds := Nat.toDigits 10 s
  let k : ℤ := ds.length
  if k ≤ n ∧ n ≤ 21 then
    String.ofList (ds ++ List.replicate (n - k).toNat '0')
  else if 0 < n ∧ n ≤ 21 then
    String.ofList (ds.take n.toNat ++ '.' :: ds.drop n.toNat)
  else if -6 < n ∧ n ≤ 0 then
    String.ofList ('0' :: '.' :: (List.replicate (-n).toNat '0' ++ ds))
  else
    let mantissa :=
      if k = 1 then String.ofList ds else String.ofList (ds.take 1 ++ '.' :: ds.drop 1)
    mantissa ++ "e" ++ (if 0 < n - 1 then "+" else "-") ++ toString (n - 1).natAbs

/-- The integers `n`, `k` and `s` of step 5 of Number::toString for a finite nonzero double `x`,
whose sign step 3 writes apart: `s` has `k` digits, `±s × 10^(n-k)` rounds to `x`, no decimal of
fewer digits does, and of the decimals of `k` digits that do, `s × 10^(n-k)` is one nearest to
`x` (Note 2); a tie between two nearest is left open. -/
structure ShortestDigits (x : Float) (n : ℤ) (k s : ℕ) : Prop where
  k_pos : 0 < k
  digits_low : 10 ^ (k - 1) ≤ s
  digits_high : s < 10 ^ k
  rounds : RoundsTo (signOf x * (s * 10 ^ (n - k))) x
  fewest : ∀ (n' : ℤ) (k' s' : ℕ), 0 < k' → 10 ^ (k' - 1) ≤ s' → s' < 10 ^ k' →
    RoundsTo (signOf x * (s' * 10 ^ (n' - k'))) x → k ≤ k'
  nearest : ∀ (n' : ℤ) (s' : ℕ), 10 ^ (k - 1) ≤ s' → s' < 10 ^ k →
    RoundsTo (signOf x * (s' * 10 ^ (n' - k))) x →
      |(s : ℚ) * 10 ^ (n - k) - (|value x|)| ≤ |(s' : ℚ) * 10 ^ (n' - k) - (|value x|)|

/-- The texts Number::toString may give for a double in radix 10. -/
inductive NumberToString : Float → String → Prop where
  | nan {x : Float} : isNaN x = true → NumberToString x "NaN"
  | zero {x : Float} : isZero x = true → NumberToString x "0"
  | infinity {x : Float} : isInfinite x = true →
      NumberToString x ((if isNegative x then "-" else "") ++ "Infinity")
  | finite {x : Float} {n : ℤ} {k s : ℕ} : isFinite x = true → isZero x = false →
      ShortestDigits x n k s → NumberToString x ((if isNegative x then "-" else "") ++ ecmaLayout n s)

/-! ## Layout -/

/-- The exponent of steps 9 and 10, for an exponent other than zero, is the signed exponent text. -/
theorem exponentText_eq {e : ℤ} (he : e ≠ 0) :
    (if 0 < e then "+" else "-") ++ toString e.natAbs = exponentText true e := by
  unfold exponentText
  by_cases hpos : 0 < e
  · rw [if_pos hpos, if_neg (by omega), if_pos rfl, show e.toNat = e.natAbs by omega]
  · rw [if_neg hpos, if_pos (by omega)]

/-- The layout of steps 6 to 10, for the order of a decimal, is its positional layout when the
order is in `(-6, 21]` and its layout with a signed exponent otherwise. -/
theorem ecmaLayout_eq (d : Decimal) :
    ecmaLayout ((digitCount d.digits : ℤ) + d.exponent) d.digits =
      if -6 < (digitCount d.digits : ℤ) + d.exponent ∧ (digitCount d.digits : ℤ) + d.exponent ≤ 21
      then d.positional else d.scientific true := by
  have hlen : ((Nat.toDigits 10 d.digits).length : ℤ) = digitCount d.digits := by
    rw [← digitsOf, length_digitsOf]
  have hpos : 0 < (Nat.toDigits 10 d.digits).length :=
    List.length_pos_iff.mpr (digitsOf_ne_nil d.digits)
  unfold ecmaLayout Decimal.positional Decimal.scientific digitsOf
  dsimp only
  rw [← hlen]
  generalize Nat.toDigits 10 d.digits = ds at hpos ⊢
  by_cases hplain : -6 < (ds.length : ℤ) + d.exponent ∧ (ds.length : ℤ) + d.exponent ≤ 21
  · rw [if_pos hplain]
    by_cases hp : 0 ≤ d.exponent
    · -- step 6: the digits and then zeros
      rw [if_pos ⟨by omega, hplain.2⟩, if_pos hp, add_sub_cancel_left]
    · rw [if_neg (by omega), if_neg hp]
      by_cases hpt : 0 < (ds.length : ℤ) + d.exponent
      · -- step 7: a point inside the digits
        rw [if_pos ⟨hpt, hplain.2⟩, if_pos hpt]
      · -- step 8: zeros after the point, then the digits
        rw [if_neg (by omega), if_pos ⟨hplain.1, by omega⟩, if_neg hpt]
        rfl
  · -- steps 9 and 10: the first digit, the others after a point, and the exponent `n - 1`
    rw [if_neg hplain, if_neg (by omega), if_neg (by omega), if_neg (by omega),
      show (ds.length : ℤ) - 1 + d.exponent = ds.length + d.exponent - 1 by ring,
      ← exponentText_eq (by omega)]
    simp only [String.append_assoc]
    obtain ⟨c, rest, rfl⟩ := List.exists_cons_of_ne_nil (List.length_pos_iff.mp hpos)
    cases rest with
    | nil =>
      rw [if_pos (by simp)]
      congr 1
    | cons c' rest =>
      rw [if_neg (by simp; omega)]
      rfl

/-- No letter `e` stands in a positional layout. -/
theorem e_not_mem_positional (d : Decimal) : 'e' ∉ d.positional.toList := by
  have hdig : 'e' ∉ digitsOf d.digits := fun h => absurd (isDigit_of_mem_digitsOf h) (by decide)
  unfold Decimal.positional
  dsimp only
  split_ifs
  · simp [hdig]
  · simp only [String.toList_ofList, List.mem_append, List.mem_cons, not_or]
    exact ⟨fun h => hdig (List.mem_of_mem_take h), by decide,
      fun h => hdig (List.mem_of_mem_drop h)⟩
  · simp [hdig]

theorem e_mem_scientific (d : Decimal) : 'e' ∈ (d.scientific true).toList := by
  unfold Decimal.scientific
  simp

/-! ## Shortest digits -/

/-- A shortest decimal of a finite nonzero double gives the integers of step 5. -/
theorem shortestDigits_of_isShortest {x : Float} (hx : isFinite x = true) (hx0 : isZero x = false)
    {d : Decimal} (hd : IsShortest (magnitudeBits x) d) :
    ShortestDigits x ((digitCount d.digits : ℤ) + d.exponent) (digitCount d.digits) d.digits := by
  have hk : (digitCount d.digits : ℤ) + d.exponent - (digitCount d.digits : ℕ) = d.exponent := by
    ring
  -- a positive decimal rounds to `x` exactly when it lies in the rounding interval of `x`
  have hiff : ∀ (s : ℕ) (q : ℤ), 0 < s →
      (RoundsTo (signOf x * (s * 10 ^ q)) x ↔ InRounding (magnitudeBits x) (s * 10 ^ q)) :=
    fun s q hs => roundsTo_iff hx hx0 (by positivity)
  have hpos : ∀ {k s : ℕ}, 10 ^ (k - 1) ≤ s → 0 < s := fun h =>
    lt_of_lt_of_le (Nat.pow_pos (by norm_num)) h
  refine ⟨digitCount_pos _, pow_digitCount_le hd.digits_pos, lt_pow_digitCount _, ?_, ?_, ?_⟩
  · rw [hk]
    exact (hiff _ _ hd.digits_pos).mpr hd.rounds
  · intro n' k' s' hk' hlow hhigh hr
    have := hd.fewest s' (n' - k') (hpos hlow) ((hiff _ _ (hpos hlow)).mp hr)
    rwa [digitCount_eq_of hk' hlow hhigh] at this
  · intro n' s' hlow hhigh hr
    rw [hk, abs_value]
    exact hd.nearest s' _ (digitCount_eq_of (digitCount_pos _) hlow hhigh)
      ((hiff _ _ (hpos hlow)).mp hr)

/-! ## Where the layout changes -/

theorem magnitudeBits_small : magnitudeBits (1e-6 : Float) = 4517329193108106637 := by
  decide

theorem magnitudeBits_large : magnitudeBits (1e21 : Float) = 4921056587992461136 := by
  decide

/-- A shortest decimal of the double that `10^q` rounds to, when `9 × 10^(q-1)` does not round
to it, has an order above `q`: it has one digit, and one digit below `10^q` would be at most
`9 × 10^(q-1)`. -/
theorem IsShortest.lt_order_of_power {N : ℕ} {d : Decimal} (hd : IsShortest N d) {q : ℤ}
    (hq : InRounding N ((1 : ℕ) * 10 ^ q)) (h9 : ¬InRounding N ((9 : ℕ) * 10 ^ (q - 1))) :
    q < (digitCount d.digits : ℤ) + d.exponent := by
  have hq' : InRounding N (10 ^ q) := by simpa using hq
  by_contra hle
  have hone : digitCount d.digits ≤ 1 := by
    have h1 : digitCount 1 = 1 := digitCount_eq_of one_pos (by norm_num) (by norm_num)
    simpa [h1] using hd.fewest 1 q one_pos hq
  have h9' : d.digits ≤ 9 := by
    have := (digitCount_le_iff one_pos).mp hone
    omega
  have hbelow : d.toRat ≤ (9 : ℕ) * 10 ^ (q - 1) := by
    unfold Decimal.toRat
    have hp : d.exponent ≤ q - 1 := by
      have := digitCount_pos d.digits
      omega
    gcongr
    norm_num
  have hnine : ((9 : ℕ) : ℚ) * 10 ^ (q - 1) ≤ 10 ^ q := by
    rw [zpow_sub_one₀ (by norm_num)]
    have : (0 : ℚ) < 10 ^ q := by positivity
    push_cast
    linarith
  exact h9 (hd.rounds.of_between hq' hbelow hnine)

/-- Against a power `10^q` that rounds to the double `M` while `9 × 10^(q-1)` does not, a
shortest decimal of `N` has an order above `q` exactly when `M ≤ N`. -/
theorem IsShortest.lt_order_iff {N M : ℕ} {d : Decimal} (hd : IsShortest N d) {q : ℤ}
    (hq : InRounding M ((1 : ℕ) * 10 ^ q)) (h9 : ¬InRounding M ((9 : ℕ) * 10 ^ (q - 1))) :
    M ≤ N ↔ q < (digitCount d.digits : ℤ) + d.exponent := by
  obtain ⟨hlow, hhigh⟩ := decimal_between hd.digits_pos d.exponent
  have hq' : InRounding M (10 ^ q) := by simpa using hq
  constructor
  · intro hMN
    rcases hMN.lt_or_eq with hlt | rfl
    · -- the decimals of a higher double lie above `10^q`
      have hge : (10 : ℚ) ^ q ≤ d.toRat := by
        by_contra h
        exact absurd (hd.rounds.le_of_le hq' (le_of_lt (not_le.mp h))) (not_le.mpr hlt)
      exact (zpow_lt_zpow_iff_right₀ (by norm_num)).mp (hge.trans_lt hhigh)
    · exact hd.lt_order_of_power hq h9
  · intro hqn
    by_contra hNM
    -- the decimals of a lower double lie below `10^q`
    have hlt : d.toRat < 10 ^ q := by
      by_contra h
      exact hNM (hq'.le_of_le hd.rounds (not_lt.mp h))
    have := (zpow_lt_zpow_iff_right₀ (by norm_num)).mp (hlow.trans_lt hlt)
    omega

theorem lt_order_iff_small {N : ℕ} {d : Decimal} (hd : IsShortest N d) :
    magnitudeBits (1e-6 : Float) ≤ N ↔ -6 < (digitCount d.digits : ℤ) + d.exponent := by
  refine hd.lt_order_iff ?_ ?_
  · rw [magnitudeBits_small, ← roundingInterval_contains_iff (by norm_num)]
    decide +kernel
  · rw [magnitudeBits_small, ← roundingInterval_contains_iff (by norm_num)]
    decide +kernel

theorem lt_order_iff_large {N : ℕ} {d : Decimal} (hd : IsShortest N d) :
    magnitudeBits (1e21 : Float) ≤ N ↔ 21 < (digitCount d.digits : ℤ) + d.exponent := by
  refine hd.lt_order_iff ?_ ?_
  · rw [magnitudeBits_large, ← roundingInterval_contains_iff (by norm_num)]
    decide +kernel
  · rw [magnitudeBits_large, ← roundingInterval_contains_iff (by norm_num)]
    decide +kernel

/-- The magnitude test of `format` is the order test of Number::toString. -/
theorem plain_iff {N : ℕ} {d : Decimal} (hd : IsShortest N d) :
    (magnitudeBits (1e-6 : Float) ≤ N ∧ N < magnitudeBits (1e21 : Float)) ↔
      (-6 < (digitCount d.digits : ℤ) + d.exponent ∧ (digitCount d.digits : ℤ) + d.exponent ≤ 21) := by
  have h1 := lt_order_iff_small hd
  have h2 := lt_order_iff_large hd
  constructor
  · rintro ⟨ha, hb⟩
    exact ⟨h1.mp ha, not_lt.mp fun h => absurd (h2.mpr h) (not_le.mpr hb)⟩
  · rintro ⟨ha, hb⟩
    exact ⟨h1.mpr ha, not_le.mp fun h => absurd (h2.mp h) (not_lt.mpr hb)⟩

/-! ## The text of every double -/

theorem format_of_isNaN {x : Float} (h : isNaN x = true) : format x = "NaN" := by
  simp [format, NumberFormat.write, NumberFormat.standard, h]

theorem format_of_isInfinite {x : Float} (h : isInfinite x = true) :
    format x = (if isNegative x then "-" else "") ++ "Infinity" := by
  have hnan : isNaN x = false := by
    simp only [isInfinite, Bool.and_eq_true, beq_iff_eq] at h
    simp [isNaN, h.1, h.2]
  simp [format, NumberFormat.write, NumberFormat.standard, h, hnan]

theorem isFinite_of_not {x : Float} (hnan : isNaN x = false) (hinf : isInfinite x = false) :
    isFinite x = true := by
  have hE := fields_exponent_lt x
  simp only [isFinite, decide_eq_true_eq]
  by_contra hge
  have htop : (fields x).exponent = 2047 := by omega
  -- the top exponent holds only the infinities and the NaNs
  by_cases hF : (fields x).fraction = 0
  · simp [isInfinite, htop, hF] at hinf
  · simp [isNaN, htop, hF] at hnan

/-- `format` gives a text that Number::toString gives. -/
theorem format_numberToString (x : Float) : NumberToString x (format x) := by
  cases hnan : isNaN x
  · cases hinf : isInfinite x
    · have hx := isFinite_of_not hnan hinf
      cases hz : isZero x
      · -- a finite nonzero double: the shortest decimal, laid out by its order
        have hd := shortest_isShortest hz
        have hbody : (if magnitudeBits (1e-6 : Float) ≤ magnitudeBits x ∧
            magnitudeBits x < magnitudeBits (1e21 : Float) then (shortest .up x).positional
            else (shortest .up x).scientific true) =
            ecmaLayout ((digitCount (shortest .up x).digits : ℤ) + (shortest .up x).exponent)
              (shortest .up x).digits := by
          rw [ecmaLayout_eq]
          exact if_congr (plain_iff hd) rfl rfl
        rw [format_of_finite hx hz, hbody]
        exact .finite hx hz (shortestDigits_of_isShortest hx hz hd)
      · rw [format_of_isZero hz]
        exact .zero hz
    · rw [format_of_isInfinite hinf]
      exact .infinity hinf
  · rw [format_of_isNaN hnan]
    exact .nan hnan

/-- A finite nonzero double is written without an exponent exactly when its magnitude is at
least `1e-6` and below `1e21`. -/
theorem format_plain_iff {x : Float} (hx : isFinite x = true) (hx0 : isZero x = false) :
    'e' ∉ (format x).toList ↔
      value (1e-6 : Float) ≤ |value x| ∧ |value x| < value (1e21 : Float) := by
  have hsign : 'e' ∉ (if isNegative x then "-" else "").toList := by
    split <;> decide
  rw [value_of_not_isNegative (show isNegative (1e-6 : Float) = false by decide),
    value_of_not_isNegative (show isNegative (1e21 : Float) = false by decide), abs_value,
    valueAt_strictMono.le_iff_le, valueAt_strictMono.lt_iff_lt,
    format_of_finite hx hx0, String.toList_append, List.mem_append, not_or]
  by_cases h : magnitudeBits (1e-6 : Float) ≤ magnitudeBits x ∧
      magnitudeBits x < magnitudeBits (1e21 : Float)
  · rw [if_pos h]
    exact iff_of_true ⟨hsign, e_not_mem_positional _⟩ h
  · rw [if_neg h]
    exact iff_of_false (fun hn => hn.2 (e_mem_scientific _)) h

/-- `format` writes every double as ECMAScript's Number::toString does in radix 10; a finite
nonzero double goes without an exponent exactly from `1e-6` up to below `1e21`; and the text of
every finite double reads back as a double equal to it, a zero of either sign as zero. -/
theorem format_agrees_with_numberToString :
    (∀ x, NumberToString x (format x)) ∧
      (∀ x, isFinite x = true → isZero x = false →
        ('e' ∉ (format x).toList ↔
          value (1e-6 : Float) ≤ |value x| ∧ |value x| < value (1e21 : Float))) ∧
      (∀ x, isFinite x = true → ∃ y, readDouble (format x) = some y ∧ ieeeEq y x = true) :=
  ⟨format_numberToString, fun _ hx hx0 => format_plain_iff hx hx0, fun _ hx => readDouble_format hx⟩

/-- The statement at `1.5`, a finite nonzero double. -/
theorem format_agrees_at_one_and_a_half :
    isFinite (1.5 : Float) = true ∧ isZero (1.5 : Float) = false ∧
      ('e' ∉ (format 1.5).toList ↔
        value (1e-6 : Float) ≤ |value 1.5| ∧ |value 1.5| < value (1e21 : Float)) ∧
      ∃ y, readDouble (format 1.5) = some y ∧ ieeeEq y 1.5 = true :=
  ⟨by decide, by decide, format_agrees_with_numberToString.2.1 1.5 (by decide) (by decide),
    format_agrees_with_numberToString.2.2 1.5 (by decide)⟩

end ScriptHost.Number
