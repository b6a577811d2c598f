import ScriptHost.Proofs.DecimalReading

/-! # Reading written numbers back

`readDouble` reads every text that `format` writes for a finite double back as that double.
-/

namespace ScriptHost.Number

/-! ## Digit strings -/

theorem digitsValue_eq (ds : List Char) : digitsValue ds = Nat.ofDigitChars 10 ds 0 := by
  rw [digitsValue, Nat.ofDigitChars_eq_foldl]
  simp only [Nat.mul_comm]

theorem digitsValue_digitsOf (n : ℕ) : digitsValue (digitsOf n) = n := by
  rw [digitsValue_eq, digitsOf, Nat.ofDigitChars_ten_toDigits]

/-- Zeros after the digits multiply their value by ten each. -/
theorem digitsValue_append_zeros (ds : List Char) (k : ℕ) :
    digitsValue (ds ++ List.replicate k '0') = digitsValue ds * 10 ^ k := by
  rw [digitsValue_eq, digitsValue_eq, Nat.ofDigitChars_append, Nat.ofDigitChars_replicate_zero,
    Nat.mul_comm]

/-- Zeros before the digits leave their value as it is. -/
theorem digitsValue_zeros_append (k : ℕ) (ds : List Char) :
    digitsValue (List.replicate k '0' ++ ds) = digitsValue ds := by
  rw [digitsValue_eq, digitsValue_eq, Nat.ofDigitChars_append, Nat.ofDigitChars_replicate_zero,
    Nat.mul_zero]

theorem isDigit_of_mem_digitsOf {n : ℕ} {c : Char} (h : c ∈ digitsOf n) : c.isDigit = true :=
  Nat.isDigit_of_mem_toDigits (by norm_num) le_rfl h

theorem digitsOf_ne_nil (n : ℕ) : digitsOf n ≠ [] :=
  Nat.toDigits_ne_nil

theorem length_digitsOf (n : ℕ) : (digitsOf n).length = digitCount n :=
  (digitCount_eq_length n).symm

theorem toLower_of_isDigit {c : Char} (h : c.isDigit = true) : c.toLower = c := by
  simp only [Char.isDigit, Bool.and_eq_true, decide_eq_true_eq, ge_iff_le,
    UInt32.le_iff_toNat_le] at h
  rw [Char.toLower, dif_neg]
  simp only [ge_iff_le, UInt32.le_iff_toNat_le, not_and, not_le]
  have h9 : ('9' : Char).val.toNat = 57 := rfl
  have hA : ('A' : Char).val.toNat = 65 := rfl
  omega

/-! ## The parts of a decimal text -/

/-- Digits, then a text that starts with neither a digit nor a point: the digits are the whole
part and the rest is the exponent part. -/
theorem readUnsigned_whole {w tail : List Char} (hw : ∀ c ∈ w, c.isDigit = true) (hne : w ≠ [])
    (htail : ∀ c rest, tail = c :: rest → c.isDigit = false ∧ c ≠ '.') :
    readUnsigned (w ++ tail) = (readExponent tail).map fun e => (digitsValue w, e) := by
  have hwe : w.isEmpty = false := List.isEmpty_eq_false_iff.mpr hne
  unfold readUnsigned
  rw [List.takeWhile_append_of_pos hw, List.dropWhile_append_of_pos hw]
  cases tail with
  | nil => simp [hwe]
  | cons c rest =>
    obtain ⟨hc, hdot⟩ := htail c rest rfl
    rw [List.takeWhile_cons_of_neg (by simp [hc]), List.dropWhile_cons_of_neg (by simp [hc])]
    dsimp only
    split
    · rename_i heq
      exact absurd (List.cons.inj heq).1 hdot
    · simp [hwe]

/-- Digits, a point, digits, then a text that does not start with a digit: the digits on both
sides of the point make the mantissa, scaled down by the digits after the point. -/
theorem readUnsigned_point {w f tail : List Char} (hw : ∀ c ∈ w, c.isDigit = true)
    (hf : ∀ c ∈ f, c.isDigit = true) (hne : w ≠ [])
    (htail : ∀ c rest, tail = c :: rest → c.isDigit = false) :
    readUnsigned (w ++ '.' :: (f ++ tail)) =
      (readExponent tail).map fun e => (digitsValue (w ++ f), e - (f.length : ℤ)) := by
  have hwe : w.isEmpty = false := List.isEmpty_eq_false_iff.mpr hne
  have hdot : '.'.isDigit = false := by decide
  have htake : (f ++ tail).takeWhile Char.isDigit = f := by
    rw [List.takeWhile_append_of_pos hf]
    cases tail with
    | nil => simp
    | cons c rest => rw [List.takeWhile_cons_of_neg (by simp [htail c rest rfl]), List.append_nil]
  have hdrop : (f ++ tail).dropWhile Char.isDigit = tail := by
    rw [List.dropWhile_append_of_pos hf]
    cases tail with
    | nil => simp
    | cons c rest => rw [List.dropWhile_cons_of_neg (by simp [htail c rest rfl])]
  unfold readUnsigned
  rw [List.takeWhile_append_of_pos hw, List.dropWhile_append_of_pos hw,
    List.takeWhile_cons_of_neg (by simp [hdot]), List.dropWhile_cons_of_neg (by simp [hdot])]
  simp only [List.append_nil, htake, hdrop, hwe, Bool.false_and, Bool.false_eq_true, ↓reduceIte]

/-- The exponent part `e` and a signed exponent text reads back as that exponent. -/
theorem readExponent_exponentText (n : ℤ) :
    readExponent ('e' :: (exponentText true n).toList) = some n := by
  have hdigits : ∀ k : ℕ, (Nat.toDigits 10 k).isEmpty = false ∧
      (Nat.toDigits 10 k).all Char.isDigit = true := fun k =>
    ⟨List.isEmpty_eq_false_iff.mpr Nat.toDigits_ne_nil,
      List.all_eq_true.mpr fun c hc => Nat.isDigit_of_mem_toDigits (by norm_num) le_rfl hc⟩
  have hvalue : ∀ k : ℕ, digitsValue (Nat.toDigits 10 k) = k := digitsValue_digitsOf
  unfold exponentText
  split
  · rename_i hneg
    simp only [String.toList_append, Nat.toString_eq_ofList_toDigits, String.toList_ofList]
    simp [readExponent, takeSign, hdigits, hvalue, abs_of_neg hneg]
  · rename_i hpos
    simp only [↓reduceIte, String.toList_append, Nat.toString_eq_ofList_toDigits,
      String.toList_ofList]
    simp [readExponent, takeSign, hdigits, hvalue]
    omega

theorem takeSign_of_isDigit {c : Char} {rest : List Char} (h : c.isDigit = true) :
    takeSign (c :: rest) = (false, c :: rest) := by
  unfold takeSign
  split
  · rename_i heq
    rw [(List.cons.inj heq).1] at h
    exact absurd h (by decide)
  · rename_i heq
    rw [(List.cons.inj heq).1] at h
    exact absurd h (by decide)
  · rfl

/-- A text of an optional minus and a body that starts with a digit reads as the body's decimal,
with the sign of the minus. -/
theorem readDouble_signed (negative : Bool) {c : Char} {rest : List Char} (hc : c.isDigit = true) :
    readDouble ((if negative then "-" else "") ++ String.ofList (c :: rest)) =
      (readUnsigned (c :: rest)).map fun (m, e) => ofDecimal negative m e := by
  have hsign : takeSign ((if negative then "-" else "") ++ String.ofList (c :: rest)).toList =
      (negative, c :: rest) := by
    cases negative
    · simp only [Bool.false_eq_true, ↓reduceIte, String.toList_append, String.toList_ofList]
      exact takeSign_of_isDigit hc
    · simp [takeSign]
  -- a body that starts with a digit spells neither an infinity nor a NaN
  have hlower : ∀ w : String, (∀ d, w.toList.head? = some d → d.isDigit = false) →
      String.ofList ((c :: rest).map Char.toLower) ≠ w := by
    intro w hw heq
    have := hw c (by rw [← heq, String.toList_ofList, List.map_cons, toLower_of_isDigit hc]; rfl)
    rw [hc] at this
    exact Bool.noConfusion this
  unfold readDouble
  rw [hsign]
  dsimp only
  rw [if_neg (not_or.mpr ⟨hlower "inf" (fun d hd => by simp at hd; subst hd; decide),
    hlower "infinity" (fun d hd => by simp at hd; subst hd; decide)⟩),
    if_neg (hlower "nan" (fun d hd => by simp at hd; subst hd; decide))]

/-- Digits alone read as their value. -/
theorem readUnsigned_digits {w : List Char} (hw : ∀ c ∈ w, c.isDigit = true) (hne : w ≠ []) :
    readUnsigned w = some (digitsValue w, 0) := by
  have h := @readUnsigned_whole w [] hw hne (by simp)
  rwa [List.append_nil] at h

/-- Digits, a point and digits read as the value of all the digits, scaled down by those after
the point. -/
theorem readUnsigned_digits_point {w f : List Char} (hw : ∀ c ∈ w, c.isDigit = true)
    (hf : ∀ c ∈ f, c.isDigit = true) (hne : w ≠ []) :
    readUnsigned (w ++ '.' :: f) = some (digitsValue (w ++ f), -(f.length : ℤ)) := by
  have h := @readUnsigned_point w f [] hw hf hne (by simp)
  rw [List.append_nil] at h
  rw [h]
  simp [readExponent]

theorem digitsValue_zero_cons (ds : List Char) : digitsValue ('0' :: ds) = digitsValue ds :=
  digitsValue_zeros_append 1 ds

/-! ## Layouts -/

/-- The text `cs` starts with a digit and reads as a positive decimal of value `r`. -/
structure ReadsAs (cs : List Char) (r : ℚ) : Prop where
  head : ∃ c rest, cs = c :: rest ∧ c.isDigit = true
  reads : ∃ m e, readUnsigned cs = some (m, e) ∧ 0 < m ∧ (m : ℚ) * 10 ^ e = r

section Layout

variable (d : Decimal)

private theorem head_of_digitsOf : ∃ c rest, digitsOf d.digits = c :: rest ∧ c.isDigit = true := by
  obtain ⟨c, rest, hcr⟩ := List.exists_cons_of_ne_nil (digitsOf_ne_nil d.digits)
  exact ⟨c, rest, hcr, isDigit_of_mem_digitsOf (by rw [hcr]; exact List.mem_cons_self)⟩

/-- The positional layout reads back as the decimal it lays out. -/
theorem positional_readsAs (hd : 0 < d.digits) : ReadsAs d.positional.toList d.toRat := by
  obtain ⟨c, rest, hcr, hc⟩ := head_of_digitsOf d
  have hdig : ∀ c ∈ digitsOf d.digits, c.isDigit = true := fun _ => isDigit_of_mem_digitsOf
  have hne := digitsOf_ne_nil d.digits
  have hval := digitsValue_digitsOf d.digits
  unfold Decimal.positional Decimal.toRat
  dsimp only
  split_ifs with hp hpt
  · -- the digits and then zeros
    have hzeros : ∀ c ∈ List.replicate d.exponent.toNat '0', c.isDigit = true := by
      simp only [List.mem_replicate]
      rintro c ⟨-, rfl⟩
      rfl
    rw [String.toList_ofList]
    refine ⟨⟨c, rest ++ _, by rw [hcr]; rfl, hc⟩, d.digits * 10 ^ d.exponent.toNat, 0, ?_,
      by positivity, ?_⟩
    · rw [readUnsigned_digits (fun c hc => (List.mem_append.mp hc).elim (hdig c) (hzeros c))
        (by simp [hne]), digitsValue_append_zeros, hval]
    · push_cast
      rw [mul_one, ← zpow_natCast, Int.toNat_of_nonneg hp]
  · -- a point inside the digits
    set k := ((digitsOf d.digits).length + d.exponent).toNat with hk
    have hk0 : 0 < k := by omega
    have hklt : k < (digitsOf d.digits).length := by omega
    rw [String.toList_ofList]
    refine ⟨⟨c, rest.take (k - 1) ++ '.' :: (digitsOf d.digits).drop k, ?_, hc⟩, d.digits,
      d.exponent, ?_, hd, rfl⟩
    · rw [hcr, List.take_cons hk0]
      rfl
    · rw [readUnsigned_digits_point (fun c hc => hdig c (List.mem_of_mem_take hc))
        (fun c hc => hdig c (List.mem_of_mem_drop hc))
        (List.ne_nil_of_length_pos (by rw [List.length_take]; omega)),
        List.take_append_drop, hval, List.length_drop]
      simp only [Option.some.injEq, Prod.mk.injEq, true_and]
      omega
  · -- zeros after the point, and then the digits
    set z := (-((digitsOf d.digits).length + d.exponent)).toNat with hz
    have hzeros : ∀ c ∈ List.replicate z '0' ++ digitsOf d.digits, c.isDigit = true := by
      intro c hc
      rcases List.mem_append.mp hc with hc | hc
      · rw [(List.mem_replicate.mp hc).2]
        rfl
      · exact hdig c hc
    rw [String.toList_ofList, List.cons_append, List.cons_append,
      show ∀ L : List Char, '0' :: '.' :: L = ['0'] ++ '.' :: L from fun _ => rfl]
    refine ⟨⟨'0', _, rfl, rfl⟩, d.digits, d.exponent, ?_, hd, rfl⟩
    rw [readUnsigned_digits_point (by simp) hzeros (by simp), List.singleton_append,
      digitsValue_zero_cons, digitsValue_zeros_append, hval, List.length_append,
      List.length_replicate]
    simp only [Option.some.injEq, Prod.mk.injEq, true_and]
    omega

/-- The layout with an exponent reads back as the decimal it lays out. -/
theorem scientific_readsAs (hd : 0 < d.digits) : ReadsAs (d.scientific true).toList d.toRat := by
  have hdig : ∀ c ∈ digitsOf d.digits, c.isDigit = true := fun _ => isDigit_of_mem_digitsOf
  have hval := digitsValue_digitsOf d.digits
  -- the exponent part starts with a letter
  have hexp : ∀ (n : ℤ) (c : Char) rest, 'e' :: (exponentText true n).toList = c :: rest →
      c.isDigit = false ∧ c ≠ '.' := by
    intro n c rest h
    rw [← (List.cons.inj h).1]
    decide
  unfold Decimal.scientific Decimal.toRat
  dsimp only
  rcases hds : digitsOf d.digits with _ | ⟨c, _ | ⟨c', rest⟩⟩
  · exact absurd hds (digitsOf_ne_nil _)
  · -- one digit
    have hc : c.isDigit = true := hdig c (by rw [hds]; exact List.mem_cons_self)
    rw [hds] at hval
    have hcs : (String.singleton c ++ "e" ++ exponentText true (([c].length : ℤ) - 1 + d.exponent)).toList =
        [c] ++ 'e' :: (exponentText true (([c].length : ℤ) - 1 + d.exponent)).toList := by
      simp
    rw [hcs]
    refine ⟨⟨c, _, rfl, hc⟩, d.digits, d.exponent, ?_, hd, rfl⟩
    rw [readUnsigned_whole (by simpa using hc) (by simp) (hexp _), readExponent_exponentText, hval]
    simp
  · -- a point after the first digit
    have hc : c.isDigit = true := hdig c (by rw [hds]; exact List.mem_cons_self)
    have hrest : ∀ c ∈ c' :: rest, c.isDigit = true := fun c hc' =>
      hdig c (by rw [hds]; exact List.mem_cons_of_mem _ hc')
    rw [hds] at hval
    set n : ℤ := ((c :: c' :: rest).length : ℤ) - 1 + d.exponent with hn
    have hcs : (String.ofList (c :: '.' :: c' :: rest) ++ "e" ++ exponentText true n).toList =
        [c] ++ '.' :: ((c' :: rest) ++ 'e' :: (exponentText true n).toList) := by
      simp
    rw [hcs]
    refine ⟨⟨c, _, rfl, hc⟩, d.digits, d.exponent, ?_, hd, rfl⟩
    rw [readUnsigned_point (by simpa using hc) hrest (by simp) (fun c rest h => (hexp n c rest h).1),
      readExponent_exponentText, List.singleton_append, hval]
    simp only [Option.map_some, Prod.mk.injEq, Option.some.injEq, true_and, hn, List.length_cons]
    omega

end Layout

/-! ## Round trip -/

theorem isNaN_of_isFinite {x : Float} (hx : isFinite x = true) : isNaN x = false := by
  simp only [isFinite, decide_eq_true_eq] at hx
  simp [isNaN]
  omega

theorem isInfinite_of_isFinite {x : Float} (hx : isFinite x = true) : isInfinite x = false := by
  simp only [isFinite, decide_eq_true_eq] at hx
  simp [isInfinite]
  omega

/-- The text of a finite nonzero double: its sign, then its shortest decimal, laid out
positionally from `1e-6` up to below `1e21` and with an exponent elsewhere. -/
theorem format_of_finite {x : Float} (hx : isFinite x = true) (hx0 : isZero x = false) :
    format x = (if isNegative x then "-" else "") ++
      (if magnitudeBits (1e-6 : Float) ≤ magnitudeBits x ∧
          magnitudeBits x < magnitudeBits (1e21 : Float)
        then (shortest .up x).positional else (shortest .up x).scientific true) := by
  simp only [format, NumberFormat.write, NumberFormat.standard, isNaN_of_isFinite hx,
    isInfinite_of_isFinite hx, hx0, Bool.false_eq_true, ↓reduceIte, Bool.and_eq_true]
  by_cases h : magnitudeBits (1e-6 : Float) ≤ magnitudeBits x ∧
      magnitudeBits x < magnitudeBits (1e21 : Float)
  · rw [if_pos h, if_pos ⟨decide_eq_true h.1, decide_eq_true h.2⟩]
  · rw [if_neg h, if_neg fun h' => h ⟨of_decide_eq_true h'.1, of_decide_eq_true h'.2⟩]

/-- The pattern of a double is its sign bit above its magnitude bits. -/
theorem toBits_toNat_eq (x : Float) :
    x.toBits.toNat = (if isNegative x then 2 ^ 63 else 0) + magnitudeBits x := by
  rw [toBits_toNat, magnitudeBits_eq, isNegative]
  omega

theorem toBits_eq_of_sign {x y : Float} (hs : isNegative x = isNegative y)
    (hm : magnitudeBits x = magnitudeBits y) : x.toBits = y.toBits :=
  UInt64.toNat_inj.mp (by rw [toBits_toNat_eq, toBits_toNat_eq, hs, hm])

/-- The text of a finite nonzero double reads back as a double with its sign and magnitude. -/
theorem readDouble_format_finite {x : Float} (hx : isFinite x = true) (hx0 : isZero x = false) :
    ∃ y, readDouble (format x) = some y ∧ y.toBits = x.toBits := by
  have hN := magnitudeBits_pos hx0
  have hfin := (isFinite_iff x).mp hx
  have hd := shortest_isShortest hx0
  -- either layout reads back as the shortest decimal
  have hbody : ReadsAs (if magnitudeBits (1e-6 : Float) ≤ magnitudeBits x ∧
      magnitudeBits x < magnitudeBits (1e21 : Float) then (shortest .up x).positional
      else (shortest .up x).scientific true).toList (shortest .up x).toRat := by
    split
    · exact positional_readsAs _ hd.digits_pos
    · exact scientific_readsAs _ hd.digits_pos
  rw [format_of_finite hx hx0]
  generalize (if magnitudeBits (1e-6 : Float) ≤ magnitudeBits x ∧
      magnitudeBits x < magnitudeBits (1e21 : Float) then (shortest .up x).positional
      else (shortest .up x).scientific true) = body at hbody ⊢
  obtain ⟨⟨c, rest, hcr, hc⟩, m, e, hread, hm, hval⟩ := hbody
  have hb : body = String.ofList (c :: rest) := by rw [← hcr, String.ofList_toList]
  rw [hb, readDouble_signed _ hc, ← hcr, hread]
  obtain ⟨hs, hmag⟩ := ofDecimal_of_inRounding (isNegative x) hm hN hfin (by rw [hval]; exact hd.rounds)
  exact ⟨_, rfl, toBits_eq_of_sign hs hmag⟩

theorem fields_signedZero (negative : Bool) : fields (signedZero negative) = ⟨negative, 0, 0⟩ :=
  fields_ofFields _ (.inl (by norm_num)) (by norm_num)

theorem isNaN_signedZero (negative : Bool) : isNaN (signedZero negative) = false := by
  simp [isNaN, fields_signedZero]

theorem isZero_signedZero (negative : Bool) : isZero (signedZero negative) = true := by
  simp [isZero, fields_signedZero]

theorem format_of_isZero {x : Float} (hx0 : isZero x = true) : format x = "0" := by
  have h := hx0
  simp only [isZero, Bool.and_eq_true, beq_iff_eq] at h
  simp [format, NumberFormat.write, NumberFormat.standard, isNaN, isInfinite, h, hx0]

theorem readDouble_zero : readDouble "0" = some (signedZero false) := by
  have h : readDouble ((if false = true then "-" else "") ++ String.ofList ['0']) =
      (readUnsigned ['0']).map fun (m, e) => ofDecimal false m e := readDouble_signed false rfl
  rw [show (if false = true then "-" else "") ++ String.ofList ['0'] = "0" by decide,
    show readUnsigned ['0'] = some (0, 0) by decide] at h
  rw [h]
  simp [ofDecimal]

/-- The text of a finite double reads back as a double equal to it under the host's equality;
both zeros are written `0` and read back as `+0`. -/
theorem readDouble_format {x : Float} (hx : isFinite x = true) :
    ∃ y, readDouble (format x) = some y ∧ ieeeEq y x = true := by
  have hnan := isNaN_of_isFinite hx
  cases hz : isZero x
  · obtain ⟨y, hy, hbits⟩ := readDouble_format_finite hx hz
    have hfields : fields y = fields x := by
      unfold fields
      rw [hbits]
    have hnan' : isNaN y = false := by rw [isNaN, hfields]; exact hnan
    exact ⟨y, hy, by simp [ieeeEq, hnan, hnan', hbits]⟩
  · refine ⟨signedZero false, by rw [format_of_isZero hz, readDouble_zero], ?_⟩
    simp [ieeeEq, isNaN_signedZero, isZero_signedZero, hnan, hz]

end ScriptHost.Number
