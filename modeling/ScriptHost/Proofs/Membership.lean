import ScriptHost.Proofs.Equality
import ScriptHost.Proofs.Unfolding

/-! # Membership

`x in h` and `x not in h` on texts, arrays and other operands, and the methods that ask the same
question.
-/

namespace ScriptHost

namespace Run

theorem run_map {α β : Type} (f : α → β) (x : Run α) (m : Machine) :
    (f <$> x).run m =
      match x.run m with
      | (.ok a, m') => (.ok (f a), m')
      | (.error e, m') => (.error e, m') := by
  rw [map_eq_pure_bind, run_bind]
  cases x.run m with
  | mk r m' => cases r <;> rfl

theorem config_run (m : Machine) : config.run m = (.ok m.config, m) := rfl

/-! ## The three cases of membership -/

variable (op : String) (m : Machine)

theorem membership_texts_run (s t : String) :
    (membership op (.string t) (.string s)).run m = (.ok (Text.contains s t), m) := rfl

theorem membership_array_run (x : Value) (r : Nat) :
    (membership op x (.array r)).run m = (.ok ((m.itemsOf r).any (·.sameValueZero x)), m) := by
  cases x <;> rfl

theorem membership_other_run {x h : Value} (hx : ¬ (x.tag = .string ∧ h.tag = .string))
    (hh : h.tag ≠ .array) :
    (membership op x h).run m =
      (match m.config.fallback with
        | .answerFalse => .ok false
        | .error => .error (.unsupportedOperands op x.tag.typeName h.tag.typeName), m) := by
  have hnotArray : ∀ r, h = .array r → False := by
    rintro r rfl
    exact hh rfl
  have hnotTexts : ∀ n s, x = .string n → h = .string s → False := by
    rintro n s rfl rfl
    exact hx ⟨rfl, rfl⟩
  rw [membership.eq_3 op x h hnotArray hnotTexts, run_bind, config_run]
  dsimp only
  cases m.config.fallback <;> rfl

/-- Membership answers the same under every operator name, or is refused under each, naming the
same kinds; the machine is left as it was. -/
theorem membership_run_cases (x h : Value) :
    (∃ b, ∀ op, (membership op x h).run m = (.ok b, m)) ∨
      (∃ l r, ∀ op, (membership op x h).run m = (.error (.unsupportedOperands op l r), m)) := by
  by_cases hh : h.tag = .array
  · cases h <;> simp only [Value.tag, reduceCtorEq] at hh
    exact .inl ⟨_, fun op => membership_array_run op m x _⟩
  by_cases hx : x.tag = .string ∧ h.tag = .string
  · cases x <;> cases h <;> simp only [Value.tag, reduceCtorEq, and_true, and_false] at hx
    exact .inl ⟨_, fun op => membership_texts_run op m _ _⟩
  cases hf : m.config.fallback with
  | answerFalse =>
      refine .inl ⟨false, fun op => ?_⟩
      rw [membership_other_run op m hx hh, hf]
  | error =>
      refine .inr ⟨x.tag.typeName, h.tag.typeName, fun op => ?_⟩
      rw [membership_other_run op m hx hh, hf]

theorem notContains_run (x h : Value) :
    (notContains x h).run m =
      match (membership "not in" x h).run m with
      | (.ok b, m') => (.ok !b, m')
      | (.error e, m') => (.error e, m') := by
  rw [notContains, run_bind]
  cases (membership "not in" x h).run m with
  | mk r m' => cases r <;> rfl

end Run

/-! ## The operator and its negation -/

section Operator

variable (m : Machine)

theorem contains_texts_iff (s t : String) (b : Bool) :
    (Run.contains (.string t) (.string s)).run m = (.ok b, m) ↔
      (b = true ↔ t.toList <:+: s.toList) := by
  rw [Run.contains, Run.membership_texts_run, ← Text.containsChars_iff_infix]
  constructor
  · intro h
    cases h
    exact Iff.rfl
  · intro h
    rw [Bool.eq_iff_iff.mpr h]
    rfl

theorem contains_array_iff (x : Value) (r : Nat) (b : Bool) :
    (Run.contains x (.array r)).run m = (.ok b, m) ↔
      (b = true ↔ ∃ y ∈ m.itemsOf r, y.sameValueZero x = true) := by
  rw [Run.contains, Run.membership_array_run, ← List.any_eq_true]
  constructor
  · intro h
    cases h
    exact Iff.rfl
  · intro h
    rw [Bool.eq_iff_iff.mpr h.symm]

theorem contains_other_run {x h : Value} (hx : ¬ (x.tag = .string ∧ h.tag = .string))
    (hh : h.tag ≠ .array) :
    (Run.contains x h).run m =
      (match m.config.fallback with
        | .answerFalse => .ok false
        | .error => .error (.unsupportedOperands "in" x.tag.typeName h.tag.typeName), m) :=
  Run.membership_other_run "in" m hx hh

theorem notContains_ok_iff (x h : Value) (b : Bool) :
    (Run.notContains x h).run m = (.ok b, m) ↔ (Run.contains x h).run m = (.ok !b, m) := by
  rw [Run.notContains_run, Run.contains]
  rcases Run.membership_run_cases m x h with ⟨c, hc⟩ | ⟨l, r, hc⟩
  · rw [hc, hc]
    constructor
    · intro h
      cases h
      rw [Bool.not_not]
    · intro h
      cases h
      simp only [Bool.not_not]
  · rw [hc, hc]
    constructor
    · intro h
      cases h
    · intro h
      cases h

theorem contains_error_iff (x h : Value) (l r : String) :
    (Run.contains x h).run m = (.error (.unsupportedOperands "in" l r), m) ↔
      (Run.notContains x h).run m = (.error (.unsupportedOperands "not in" l r), m) := by
  rw [Run.notContains_run, Run.contains]
  rcases Run.membership_run_cases m x h with ⟨c, hc⟩ | ⟨l', r', hc⟩
  · rw [hc, hc]
    constructor
    · intro h
      cases h
    · intro h
      cases h
  · rw [hc, hc]
    constructor
    · intro h
      cases h
      rfl
    · intro h
      cases h
      rfl

end Operator

/-! ## The methods that ask the same question -/

/-- The text searches of the host and of the extension set find the display text of their
argument; a text argument is its own display text. -/
theorem runNative_textSearch_run (fuel : Nat) {n : Native}
    (hn : n = .stringIncludes ∨ n = .stringContains) (s t : String) (m : Machine) :
    (runNative (fuel + 1) n (.string s) [.string t]).run m =
      (.ok (.bool (Text.contains s t)), m) := by
  rcases hn with rfl | rfl <;>
  · rw [runNative_run rfl, if_neg (by simp), Run.nativeWork_of_callsBack rfl]
    simp only [Run.runPlain, Run.expectString, Run.expectReceiver, Value.text?, Run.firstText,
      Run.run_bind, Run.run_pure, Run.display_run, List.headD_cons, Store.display_string]

section Methods

variable (fuel : Nat) (m : Machine)

theorem callMethod_includes_array {x : Value} {r : Nat}
    (hl : m.methods.lookup (.builtin .array) "includes" .instanceMethod = none) :
    (callMethod (fuel + 3) (.array r) "includes" [x]).run m =
      (Value.bool <$> Run.contains x (.array r)).run m := by
  rw [callMethod_of_native (Machine.methodCell_of_host rfl hl), runNative_includes_run,
    Run.run_map, Run.contains, Run.membership_array_run]

theorem callMethod_includes_text {s t : String}
    (hl : m.methods.lookup (.builtin .string) "includes" .instanceMethod = none) :
    (callMethod (fuel + 3) (.string s) "includes" [.string t]).run m =
      (Value.bool <$> Run.contains (.string t) (.string s)).run m := by
  rw [callMethod_of_native (Machine.methodCell_of_host rfl hl),
    runNative_textSearch_run fuel (.inl rfl), Run.run_map, Run.contains,
    Run.membership_texts_run]

/-- A machine with the extension set files `contains` on texts as the extension's own method. -/
theorem Machine.Extended.methodCell_contains (hm : m.Extended) (s : String) :
    m.methodCell (.string s) "contains" = .ok (.ofNative .stringContains) := by
  have hl : m.methods.lookup (.builtin .string) "contains" .instanceMethod = some 8 := by
    rw [hm.lookup]
    decide
  exact Machine.methodCell_of_filed (by simp [Value.tag]) hl
    (hm.function?_extension 8 .stringContains rfl)

theorem callMethod_contains_text (hm : m.Extended) (s t : String) :
    (callMethod (fuel + 3) (.string s) "contains" [.string t]).run m =
      (Value.bool <$> Run.contains (.string t) (.string s)).run m := by
  rw [callMethod_of_native (hm.methodCell_contains m s),
    runNative_textSearch_run fuel (.inr rfl), Run.run_map, Run.contains,
    Run.membership_texts_run]

end Methods

/-- `x in h` answers whether the text `x` occurs in the text `h` as a run of characters, and,
when `h` is an array, whether one of its current items is the same value as `x`, whatever `x`
is; on any other operands it answers `false` or is refused naming both kinds, as the
configuration says. It changes nothing. `x not in h` answers the negation wherever `x in h`
answers, and is refused, under its own name, exactly where `x in h` is. On an array `a`,
`x in a` answers as `a.includes(x)` does, and on texts `t in s` as `s.includes(t)` does and, with
the extension set, as `s.contains(t)`, as long as those names still find those methods. -/
theorem membership_agrees_with_methods :
    (∀ (m : Machine) (s t : String) (b : Bool),
      (Run.contains (.string t) (.string s)).run m = (.ok b, m) ↔
        (b = true ↔ t.toList <:+: s.toList)) ∧
    (∀ (m : Machine) (x : Value) (r : Nat) (b : Bool),
      (Run.contains x (.array r)).run m = (.ok b, m) ↔
        (b = true ↔ ∃ y ∈ m.itemsOf r, y.sameValueZero x = true)) ∧
    (∀ (m : Machine) (x h : Value), ¬ (x.tag = .string ∧ h.tag = .string) → h.tag ≠ .array →
      m.config.fallback = .answerFalse → (Run.contains x h).run m = (.ok false, m)) ∧
    (∀ (m : Machine) (x h : Value), ¬ (x.tag = .string ∧ h.tag = .string) → h.tag ≠ .array →
      m.config.fallback = .error →
        (Run.contains x h).run m =
          (.error (.unsupportedOperands "in" x.tag.typeName h.tag.typeName), m)) ∧
    (∀ (m : Machine) (x h : Value) (b : Bool),
      (Run.notContains x h).run m = (.ok b, m) ↔ (Run.contains x h).run m = (.ok !b, m)) ∧
    (∀ (m : Machine) (x h : Value) (l r : String),
      (Run.contains x h).run m = (.error (.unsupportedOperands "in" l r), m) ↔
        (Run.notContains x h).run m = (.error (.unsupportedOperands "not in" l r), m)) ∧
    (∀ (fuel : Nat) (m : Machine) (x : Value) (r : Nat),
      m.methods.lookup (.builtin .array) "includes" .instanceMethod = none →
        (callMethod (fuel + 3) (.array r) "includes" [x]).run m =
          (Value.bool <$> Run.contains x (.array r)).run m) ∧
    (∀ (fuel : Nat) (m : Machine) (s t : String),
      m.methods.lookup (.builtin .string) "includes" .instanceMethod = none →
        (callMethod (fuel + 3) (.string s) "includes" [.string t]).run m =
          (Value.bool <$> Run.contains (.string t) (.string s)).run m) ∧
    (∀ (fuel : Nat) (m : Machine) (s t : String), m.Extended →
      (callMethod (fuel + 3) (.string s) "contains" [.string t]).run m =
        (Value.bool <$> Run.contains (.string t) (.string s)).run m) := by
  refine ⟨contains_texts_iff, contains_array_iff, ?_, ?_, notContains_ok_iff,
    contains_error_iff, fun fuel m _ _ hl => callMethod_includes_array fuel m hl,
    fun fuel m _ _ hl => callMethod_includes_text fuel m hl,
    fun fuel m s t hm => callMethod_contains_text fuel m hm s t⟩
  · intro m x h hx hh hf
    rw [contains_other_run m hx hh, hf]
  · intro m x h hx hh hf
    rw [contains_other_run m hx hh, hf]

/-- `1 in 12` answers `false` when the configuration says so and is refused, naming two
numbers, by default; on `[1, 2]` and on texts the method forms agree with the operator. -/
theorem membership_on_numbers_and_texts :
    ((¬ ((Value.number 1).tag = .string ∧ (Value.number 12).tag = .string) ∧
        (Value.number 12).tag ≠ .array ∧
        (Machine.bare { fallback := .answerFalse }).config.fallback = .answerFalse) ∧
      (Run.contains (.number 1) (.number 12)).run (Machine.bare { fallback := .answerFalse }) =
        (.ok false, Machine.bare { fallback := .answerFalse })) ∧
    ((¬ ((Value.number 1).tag = .string ∧ (Value.number 12).tag = .string) ∧
        (Value.number 12).tag ≠ .array ∧ (Machine.bare Config.default).config.fallback = .error) ∧
      (Run.contains (.number 1) (.number 12)).run (Machine.bare Config.default) =
        (.error (.unsupportedOperands "in" "number" "number"), Machine.bare Config.default)) ∧
    (Machine.withPair.methods.lookup (.builtin .array) "includes" .instanceMethod = none ∧
      (callMethod 3 (.array 0) "includes" [.number 1]).run Machine.withPair =
        (Value.bool <$> Run.contains (.number 1) (.array 0)).run Machine.withPair) ∧
    ((Machine.withExtensions Config.default).methods.lookup (.builtin .string) "includes"
        .instanceMethod = none ∧
      (callMethod 3 (.string "lagoon") "includes" [.string "goo"]).run
          (Machine.withExtensions Config.default) =
        (Value.bool <$> Run.contains (.string "goo") (.string "lagoon")).run
          (Machine.withExtensions Config.default)) ∧
    ((Machine.withExtensions Config.default).Extended ∧
      (callMethod 3 (.string "lagoon") "contains" [.string "goo"]).run
          (Machine.withExtensions Config.default) =
        (Value.bool <$> Run.contains (.string "goo") (.string "lagoon")).run
          (Machine.withExtensions Config.default)) := by
  have hkinds : ¬ ((Value.number 1).tag = .string ∧ (Value.number 12).tag = .string) := by
    simp [Value.tag]
  have hnumber : (Value.number 12).tag ≠ .array := by simp [Value.tag]
  have harray : Machine.withPair.methods.lookup (.builtin .array) "includes" .instanceMethod =
      none := by
    decide
  have htext : (Machine.withExtensions Config.default).methods.lookup (.builtin .string)
      "includes" .instanceMethod = none := by
    decide
  have hext := Machine.withExtensions_extended Config.default
  refine ⟨⟨⟨hkinds, hnumber, rfl⟩, ?_⟩, ⟨⟨hkinds, hnumber, rfl⟩, ?_⟩, ⟨harray, ?_⟩,
    ⟨htext, ?_⟩, ⟨hext, ?_⟩⟩
  · exact membership_agrees_with_methods.2.2.1 _ _ _ hkinds hnumber rfl
  · exact membership_agrees_with_methods.2.2.2.1 _ _ _ hkinds hnumber rfl
  · exact membership_agrees_with_methods.2.2.2.2.2.2.1 0 _ _ _ harray
  · exact membership_agrees_with_methods.2.2.2.2.2.2.2.1 0 _ _ _ htext
  · exact membership_agrees_with_methods.2.2.2.2.2.2.2.2 0 _ _ _ hext

end ScriptHost
