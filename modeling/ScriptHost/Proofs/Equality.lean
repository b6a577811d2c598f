import ScriptHost.Proofs.Extensions

/-! # Equality of values

The host's `==` and same-value-zero differ on pairs of NaNs only, so `indexOf` and `includes`
agree on every needle that is not a NaN.
-/

namespace ScriptHost

/-! ## Doubles -/

namespace Number

variable {x y z : Float}

/-- Every test on a double reads its bit pattern. -/
theorem fields_congr (h : x.toBits = y.toBits) : fields x = fields y := by
  simp only [fields, h]

theorem isZero_congr (h : x.toBits = y.toBits) : isZero x = isZero y := by
  simp only [isZero, fields_congr h]

theorem ieeeEq_iff : ieeeEq x y = true ↔
    isNaN x = false ∧ isNaN y = false ∧
      (x.toBits = y.toBits ∨ (isZero x = true ∧ isZero y = true)) := by
  simp [ieeeEq, and_assoc]

theorem ieeeEq_comm (x y : Float) : ieeeEq x y = ieeeEq y x := by
  apply Bool.eq_iff_iff.mpr
  rw [ieeeEq_iff, ieeeEq_iff]
  constructor <;> rintro ⟨hx, hy, h⟩ <;> exact ⟨hy, hx, h.imp Eq.symm And.symm⟩

theorem ieeeEq_trans (hxy : ieeeEq x y = true) (hyz : ieeeEq y z = true) : ieeeEq x z = true := by
  rw [ieeeEq_iff] at hxy hyz ⊢
  obtain ⟨hx, -, hxy⟩ := hxy
  obtain ⟨-, hz, hyz⟩ := hyz
  refine ⟨hx, hz, ?_⟩
  rcases hxy with hxy | ⟨hx0, hy0⟩ <;> rcases hyz with hyz | ⟨hy0', hz0⟩
  · exact .inl (hxy.trans hyz)
  · exact .inr ⟨(isZero_congr hxy).trans hy0', hz0⟩
  · exact .inr ⟨hx0, (isZero_congr hyz).symm.trans hy0⟩
  · exact .inr ⟨hx0, hz0⟩

theorem ieeeEq_self (x : Float) : ieeeEq x x = !isNaN x := by
  cases h : isNaN x <;> simp [ieeeEq, h]

theorem sameValueZero_iff :
    sameValueZero x y = true ↔ ieeeEq x y = true ∨ (isNaN x = true ∧ isNaN y = true) := by
  simp [sameValueZero]

end Number

/-! ## Values -/

namespace Value

/-- A NaN number; no other value is NaN. -/
def isNaN : Value → Bool
  | .number x => Number.isNaN x
  | _ => false

/-- A handle to an array, an object or a function. -/
def isHandle : Value → Bool
  | .array _ | .object _ | .function _ => true
  | _ => false

variable {a b c : Value}

theorem hostEq_comm (a b : Value) : a.hostEq b = b.hostEq a := by
  cases a <;> cases b <;> simp [hostEq, Number.ieeeEq_comm, Bool.beq_comm]

theorem hostEq_trans (hab : a.hostEq b = true) (hbc : b.hostEq c = true) : a.hostEq c = true := by
  -- only equal kinds are related, so the chain lies within one kind
  cases a <;> cases b <;> simp only [hostEq, Bool.false_eq_true] at hab <;>
    cases c <;> simp only [hostEq, Bool.false_eq_true] at hbc ⊢
  case number.number.number => exact Number.ieeeEq_trans hab hbc
  all_goals simp_all

theorem hostEq_self (a : Value) : a.hostEq a = !a.isNaN := by
  cases a <;> simp [hostEq, isNaN, Number.ieeeEq_self]

/-- Values related by the host's equality are not NaN. -/
theorem isNaN_of_hostEq (h : a.hostEq b = true) : a.isNaN = false ∧ b.isNaN = false := by
  cases a <;> cases b <;> simp_all [hostEq, isNaN, Number.ieeeEq_iff]

theorem sameValueZero_iff :
    a.sameValueZero b = true ↔ a.hostEq b = true ∨ (a.isNaN = true ∧ b.isNaN = true) := by
  cases a <;> cases b <;> simp [sameValueZero, hostEq, isNaN, Number.sameValueZero_iff]

theorem sameValueZero_of_hostEq (h : a.hostEq b = true) : a.sameValueZero b = true :=
  sameValueZero_iff.mpr (.inl h)

theorem hostEq_of_sameValueZero (h : a.sameValueZero b = true)
    (hnan : ¬ (a.isNaN = true ∧ b.isNaN = true)) : a.hostEq b = true :=
  (sameValueZero_iff.mp h).resolve_right hnan

theorem sameValueZero_self (a : Value) : a.sameValueZero a = true := by
  rw [sameValueZero_iff, hostEq_self]
  cases a.isNaN <;> simp

theorem sameValueZero_comm (a b : Value) : a.sameValueZero b = b.sameValueZero a := by
  apply Bool.eq_iff_iff.mpr
  rw [sameValueZero_iff, sameValueZero_iff, hostEq_comm]
  exact or_congr_right and_comm

theorem sameValueZero_trans (hab : a.sameValueZero b = true) (hbc : b.sameValueZero c = true) :
    a.sameValueZero c = true := by
  rw [sameValueZero_iff] at hab hbc ⊢
  rcases hab with hab | ⟨ha, hb⟩ <;> rcases hbc with hbc | ⟨hb', hc⟩
  · exact .inl (hostEq_trans hab hbc)
  · -- `b` is equal to `a`, so it is not NaN
    rw [(isNaN_of_hostEq hab).2] at hb'
    cases hb'
  · rw [(isNaN_of_hostEq hbc).1] at hb
    cases hb
  · exact .inr ⟨ha, hc⟩

theorem sameValueZero_equivalence : Equivalence fun a b : Value => a.sameValueZero b = true where
  refl := sameValueZero_self
  symm h := (sameValueZero_comm _ _).trans h
  trans := sameValueZero_trans

theorem hostEq_of_tag_ne (h : a.tag ≠ b.tag) : a.hostEq b = false := by
  cases a <;> cases b <;> simp_all [tag, hostEq]

theorem sameValueZero_of_tag_ne (h : a.tag ≠ b.tag) : a.sameValueZero b = false := by
  cases a <;> cases b <;> simp_all [tag, sameValueZero, hostEq]

theorem hostEq_handle (ha : a.isHandle = true) (b : Value) : a.hostEq b = true ↔ a = b := by
  cases a <;> simp only [isHandle, Bool.false_eq_true] at ha <;> cases b <;> simp [hostEq]

theorem sameValueZero_handle (ha : a.isHandle = true) (b : Value) :
    a.sameValueZero b = true ↔ a = b := by
  have hnan : a.isNaN = false := by
    cases a <;> simp_all [isHandle, isNaN]
  rw [sameValueZero_iff, hnan, hostEq_handle ha]
  simp

end Value

/-! ## Searching an array -/

section Search

variable (fuel r : Nat) (x : Value) (m : Machine)

/-- The items of an array handle as a search sees them. -/
abbrev Machine.itemsOf (m : Machine) (r : Nat) : List Value :=
  ((m.store.array? r).getD #[]).toList

theorem runNative_includes_run :
    (runNative (fuel + 1) .arrayIncludes (.array r) [x]).run m =
      (.ok (.bool ((m.itemsOf r).any (·.sameValueZero x))), m) := by
  rw [runNative_run rfl, if_neg (by simp), Run.nativeWork_of_callsBack rfl]
  simp only [Run.runPlain, Run.expectArray, Run.expectReceiver, Value.arrayRef?, Run.run_bind,
    Run.run_pure, Run.items_run, List.headD_cons]

theorem runNative_indexOf_run :
    (runNative (fuel + 1) .arrayIndexOf (.array r) [x]).run m =
      (.ok (match (m.itemsOf r).findIdx? (·.hostEq x) with
        | some i => .ofNat i
        | none => .number (-1)), m) := by
  rw [runNative_run rfl, if_neg (by simp), Run.nativeWork_of_callsBack rfl]
  simp only [Run.runPlain, Run.expectArray, Run.expectReceiver, Value.arrayRef?, Run.run_bind,
    Run.run_pure, Run.items_run, List.headD_cons]
  cases (m.itemsOf r).findIdx? (·.hostEq x) <;> rfl

end Search

/-- On a needle that is not NaN, the two searches test the same items. -/
theorem sameValueZero_eq_hostEq {x : Value} (hx : x.isNaN = false) (y : Value) :
    y.sameValueZero x = y.hostEq x := by
  apply Bool.eq_iff_iff.mpr
  rw [Value.sameValueZero_iff, hx]
  simp

/-- A NaN needle is equal to no item, and the same as exactly the NaN items. -/
theorem hostEq_nan {x : Value} (hx : x.isNaN = true) (y : Value) : y.hostEq x = false := by
  cases h : y.hostEq x
  · rfl
  · rw [(Value.isNaN_of_hostEq h).2] at hx
    cases hx

theorem sameValueZero_nan {x : Value} (hx : x.isNaN = true) (y : Value) :
    y.sameValueZero x = y.isNaN := by
  apply Bool.eq_iff_iff.mpr
  rw [Value.sameValueZero_iff, hostEq_nan hx, hx]
  simp

/-- `indexOf` of a needle that is not NaN: when `includes` finds nothing, `-1`; otherwise the
least index whose item is equal to the needle. -/
theorem indexOf_of_not_nan (fuel r : Nat) {x : Value} (hx : x.isNaN = false) (m : Machine) :
    ((runNative (fuel + 1) .arrayIncludes (.array r) [x]).run m = (.ok (.bool false), m) ∧
      (runNative (fuel + 1) .arrayIndexOf (.array r) [x]).run m = (.ok (.number (-1)), m)) ∨
    (∃ i y, (m.itemsOf r)[i]? = some y ∧ y.hostEq x = true ∧
      (∀ j < i, ∀ z, (m.itemsOf r)[j]? = some z → z.hostEq x = false) ∧
      (runNative (fuel + 1) .arrayIncludes (.array r) [x]).run m = (.ok (.bool true), m) ∧
      (runNative (fuel + 1) .arrayIndexOf (.array r) [x]).run m = (.ok (.ofNat i), m)) := by
  have hsame : (m.itemsOf r).any (·.sameValueZero x) = (m.itemsOf r).any (·.hostEq x) := by
    simp only [sameValueZero_eq_hostEq hx]
  rw [runNative_includes_run, runNative_indexOf_run, hsame]
  cases hfind : (m.itemsOf r).findIdx? (·.hostEq x) with
  | none =>
      -- no item is equal to the needle
      left
      have hnone : (m.itemsOf r).any (·.hostEq x) = false := by
        rw [List.any_eq_false]
        intro y hy
        simpa using List.findIdx?_eq_none_iff.mp hfind y hy
      rw [hnone]
      exact ⟨rfl, rfl⟩
  | some i =>
      right
      obtain ⟨hi, hxi, hbefore⟩ := List.findIdx?_eq_some_iff_getElem.mp hfind
      have hany : (m.itemsOf r).any (·.hostEq x) = true :=
        List.any_eq_true.mpr ⟨_, List.getElem_mem hi, hxi⟩
      refine ⟨i, (m.itemsOf r)[i], List.getElem?_eq_getElem hi, hxi, ?_, by rw [hany], rfl⟩
      intro j hj z hz
      have hjl : j < (m.itemsOf r).length := Nat.lt_trans hj hi
      rw [List.getElem?_eq_getElem hjl, Option.some.injEq] at hz
      rw [← hz]
      simpa using hbefore j hj

/-- `indexOf` of a NaN needle is `-1`, and `includes` finds it exactly in an array that holds a
NaN. -/
theorem indexOf_of_nan (fuel r : Nat) {x : Value} (hx : x.isNaN = true) (m : Machine) :
    (runNative (fuel + 1) .arrayIndexOf (.array r) [x]).run m = (.ok (.number (-1)), m) ∧
      (runNative (fuel + 1) .arrayIncludes (.array r) [x]).run m =
        (.ok (.bool ((m.itemsOf r).any Value.isNaN)), m) := by
  have hnone : (m.itemsOf r).findIdx? (·.hostEq x) = none := by
    rw [List.findIdx?_eq_none_iff]
    intro y _
    simp [hostEq_nan hx y]
  rw [runNative_includes_run, runNative_indexOf_run, hnone]
  refine ⟨rfl, ?_⟩
  simp only [sameValueZero_nan hx]

/-- Same-value-zero is an equivalence; the host's equality is symmetric, transitive, and
reflexive on every value but a NaN. The host's equality implies same-value-zero, and
same-value-zero implies the host's equality unless both values are NaN. A handle is related,
by either, to itself alone, and values of different kinds are never related. Hence on an array,
`indexOf` of a needle that is not NaN is `-1` when `includes` is false, and otherwise the least
index whose item equals the needle; of a NaN it is always `-1`, while `includes` is true exactly
when the array holds a NaN. -/
theorem equalities_relate_as_documented :
    Equivalence (fun a b : Value => a.sameValueZero b = true) ∧
    (∀ a b : Value, a.hostEq b = b.hostEq a) ∧
    (∀ a b c : Value, a.hostEq b = true → b.hostEq c = true → a.hostEq c = true) ∧
    (∀ a : Value, a.hostEq a = true ↔ a.isNaN = false) ∧
    (∀ a b : Value, a.hostEq b = true → a.sameValueZero b = true) ∧
    (∀ a b : Value, a.sameValueZero b = true → ¬ (a.isNaN = true ∧ b.isNaN = true) →
      a.hostEq b = true) ∧
    (∀ a b : Value, a.isHandle = true →
      (a.hostEq b = true ↔ a = b) ∧ (a.sameValueZero b = true ↔ a = b)) ∧
    (∀ a b : Value, a.tag ≠ b.tag → a.hostEq b = false ∧ a.sameValueZero b = false) ∧
    (∀ (fuel r : Nat) (x : Value) (m : Machine), x.isNaN = false →
      ((runNative (fuel + 1) .arrayIncludes (.array r) [x]).run m = (.ok (.bool false), m) ∧
        (runNative (fuel + 1) .arrayIndexOf (.array r) [x]).run m = (.ok (.number (-1)), m)) ∨
      (∃ i y, (m.itemsOf r)[i]? = some y ∧ y.hostEq x = true ∧
        (∀ j < i, ∀ z, (m.itemsOf r)[j]? = some z → z.hostEq x = false) ∧
        (runNative (fuel + 1) .arrayIncludes (.array r) [x]).run m = (.ok (.bool true), m) ∧
        (runNative (fuel + 1) .arrayIndexOf (.array r) [x]).run m = (.ok (.ofNat i), m))) ∧
    (∀ (fuel r : Nat) (x : Value) (m : Machine), x.isNaN = true →
      (runNative (fuel + 1) .arrayIndexOf (.array r) [x]).run m = (.ok (.number (-1)), m) ∧
        (runNative (fuel + 1) .arrayIncludes (.array r) [x]).run m =
          (.ok (.bool ((m.itemsOf r).any Value.isNaN)), m)) := by
  refine ⟨Value.sameValueZero_equivalence, Value.hostEq_comm, fun _ _ _ => Value.hostEq_trans,
    fun a => ?_, fun _ _ => Value.sameValueZero_of_hostEq,
    fun _ _ => Value.hostEq_of_sameValueZero,
    fun _ b ha => ⟨Value.hostEq_handle ha b, Value.sameValueZero_handle ha b⟩,
    fun _ _ h => ⟨Value.hostEq_of_tag_ne h, Value.sameValueZero_of_tag_ne h⟩,
    fun fuel r _ m hx => indexOf_of_not_nan fuel r hx m,
    fun fuel r _ m hx => indexOf_of_nan fuel r hx m⟩
  rw [Value.hostEq_self]
  cases a.isNaN <;> simp

/-- On `[1, 2]`, the needle `2` is found by `includes` and by `indexOf` at index 1, and a NaN
by neither; `0` and `-0` are equal, the handles of two arrays are not, and a number is never
equal to a text. -/
theorem equalities_on_pair :
    ((Value.number 0).hostEq (.number (-0)) = true ∧ (Value.number (-0)).hostEq (.number 0) = true ∧
      (Value.number 0).hostEq (.number 0) = true) ∧
    ((Value.number 0).sameValueZero (.number (-0)) = true ∧
      ¬ ((Value.number 0).isNaN = true ∧ (Value.number (-0)).isNaN = true) ∧
      (Value.number 0).hostEq (.number (-0)) = true) ∧
    ((Value.array 0).isHandle = true ∧ ((Value.array 0).hostEq (.array 1) = true ↔ False)) ∧
    ((Value.number 1).tag ≠ (Value.string "1").tag ∧
      (Value.number 1).sameValueZero (.string "1") = false) ∧
    ((Value.number 2).isNaN = false ∧
      (runNative 1 .arrayIncludes (.array 0) [.number 2]).run Machine.withPair =
        (.ok (.bool true), Machine.withPair) ∧
      (runNative 1 .arrayIndexOf (.array 0) [.number 2]).run Machine.withPair =
        (.ok (.ofNat 1), Machine.withPair)) ∧
    ((Value.number Number.nan).isNaN = true ∧
      (runNative 1 .arrayIndexOf (.array 0) [.number Number.nan]).run Machine.withPair =
        (.ok (.number (-1)), Machine.withPair) ∧
      (runNative 1 .arrayIncludes (.array 0) [.number Number.nan]).run Machine.withPair =
        (.ok (.bool false), Machine.withPair)) := by
  have hitems : Machine.withPair.itemsOf 0 = [.number 1, .number 2] := by
    simp only [Machine.itemsOf, Machine.withPair, Store.array?_allocArray]
    rfl
  refine ⟨?_, ?_, ?_, ?_, ?_, ?_⟩
  · have hzero : (Value.number 0).hostEq (.number (-0)) = true := by decide
    have hzero' : (Value.number (-0)).hostEq (.number 0) = true := by decide
    exact ⟨hzero, hzero', equalities_relate_as_documented.2.2.1 _ _ _ hzero hzero'⟩
  · have hsame : (Value.number 0).sameValueZero (.number (-0)) = true := by decide
    exact ⟨hsame, by decide, equalities_relate_as_documented.2.2.2.2.2.1 _ _ hsame (by decide)⟩
  · exact ⟨rfl, by
      simpa using (equalities_relate_as_documented.2.2.2.2.2.2.1 (.array 0) (.array 1) rfl).1⟩
  · exact ⟨by decide, (equalities_relate_as_documented.2.2.2.2.2.2.2.1 _ _ (by decide)).2⟩
  · have hnan2 : (Value.number 2).isNaN = false := by decide
    refine ⟨hnan2, ?_⟩
    rcases equalities_relate_as_documented.2.2.2.2.2.2.2.2.1 0 0 (.number 2) Machine.withPair
        hnan2 with ⟨hincl, -⟩ | ⟨i, y, hy, hyx, -, hincl, hidx⟩
    · rw [runNative_includes_run, hitems] at hincl
      have hany : [Value.number 1, .number 2].any (·.sameValueZero (.number 2)) = true := by
        decide
      rw [hany] at hincl
      cases hincl
    · -- the search stops at the first item equal to `2`, the second one
      rw [hitems] at hy
      have hi : i = 1 := by
        rcases i with _ | _ | i
        · simp only [List.getElem?_cons_zero, Option.some.injEq] at hy
          subst hy
          exact absurd hyx (by decide)
        · rfl
        · simp at hy
      subst hi
      exact ⟨hincl, hidx⟩
  · have hnan : (Value.number Number.nan).isNaN = true := by decide
    obtain ⟨hidx, hincl⟩ :=
      equalities_relate_as_documented.2.2.2.2.2.2.2.2.2 0 0 _ Machine.withPair hnan
    have hany : (Machine.withPair.itemsOf 0).any Value.isNaN = false := by
      rw [hitems]
      decide
    rw [hany] at hincl
    exact ⟨hnan, hidx, hincl⟩

end ScriptHost
