import ScriptHost.Proofs.Callbacks

/-! # Loops over arrays

`for x in target` checks its operands, then calls the visitor on each item the array held when
the loop began, with its index, in order.
-/

namespace ScriptHost

namespace Run

/-- The calls `f x` for the items `x` of a list, in order, each on the machine that the one
before left, their answers dropped: the run ends at the first call that fails, with its fault
and the machine it left, and with `()` once every call has answered. -/
inductive CallsInOrder {α β : Type} (f : α → Run β) :
    List α → Machine → Except Fault Unit × Machine → Prop
  | nil (m : Machine) : CallsInOrder f [] m (.ok (), m)
  | answer {x : α} {xs : List α} {m m₁ : Machine} {b : β} {out : Except Fault Unit × Machine} :
      (f x).run m = (.ok b, m₁) → CallsInOrder f xs m₁ out → CallsInOrder f (x :: xs) m out
  | fault {x : α} {xs : List α} {m m₁ : Machine} {e : Fault} :
      (f x).run m = (.error e, m₁) → CallsInOrder f (x :: xs) m (.error e, m₁)

/-- The calls allow one outcome only. -/
theorem CallsInOrder.unique {α β : Type} {f : α → Run β} {xs : List α} {m : Machine}
    {out out' : Except Fault Unit × Machine} (h : CallsInOrder f xs m out)
    (h' : CallsInOrder f xs m out') : out = out' := by
  induction h with
  | nil => cases h'; rfl
  | answer hx _ ih =>
      cases h' with
      | answer hx' hrest =>
          rw [hx] at hx'
          cases hx'
          exact ih hrest
      | fault hx' =>
          rw [hx] at hx'
          cases hx'
  | fault hx =>
      cases h' with
      | answer hx' _ =>
          rw [hx] at hx'
          cases hx'
      | fault hx' =>
          rw [hx] at hx'
          cases hx'
          rfl

/-- A loop that makes one call per item and drops the answers makes the calls in order. -/
theorem forIn_discard_callsInOrder {α β : Type} (f : α → Run β) (xs : List α) (m : Machine) :
    CallsInOrder f xs m
      ((forIn xs PUnit.unit fun x _ => do
          discard (f x)
          pure (ForInStep.yield PUnit.unit)).run m) := by
  induction xs generalizing m with
  | nil => exact .nil m
  | cons x xs ih =>
      rw [List.forIn_cons, run_bind, run_bind, run_discard]
      cases hx : (f x).run m with
      | mk r m₁ =>
          cases r with
          | error e => exact .fault hx
          | ok b => exact .answer hx (ih m₁)

end Run

/-! ## The checks before the loop -/

section Checks

variable (fuel : Nat) (m : Machine)

theorem forEach_run_of_not_array {target : Value} (ht : ∀ r, target ≠ .array r)
    (visitor : Value) :
    (forEach (fuel + 1) target visitor).run m =
      (.error (.notIterable (m.store.label target)), m) := by
  cases target with
  | array r => exact absurd rfl (ht r)
  | _ => simp only [forEach, Run.run_bind, Run.label_run, Run.run_throw]

theorem forEach_run_of_not_function (r : Nat) {visitor : Value}
    (hv : ∀ f, visitor ≠ .function f) :
    (forEach (fuel + 1) (.array r) visitor).run m =
      (.error (.notCallable (m.store.label visitor)), m) := by
  cases visitor with
  | function f => exact absurd rfl (hv f)
  | _ => simp only [forEach, Run.run_bind, Run.items_run, Run.label_run, Run.run_throw]

end Checks

/-- Past the checks, the loop calls the visitor with each item the array held at the start
and its index. -/
theorem forEach_callsInOrder (fuel r f : Nat) (m : Machine) :
    Run.CallsInOrder (fun p : Value × Nat => callValue fuel (.function f) [p.1, .ofNat p.2])
      ((m.store.array? r).getD #[]).toList.zipIdx m
      ((forEach (fuel + 1) (.array r) (.function f)).run m) := by
  have hloop := Run.forIn_discard_callsInOrder
    (fun p : Value × Nat => callValue fuel (.function f) [p.1, .ofNat p.2])
    ((m.store.array? r).getD #[]).toList.zipIdx m
  simp only [forEach, Run.run_bind, Run.items_run, Run.run_pure]
  cases hrun : (forIn ((m.store.array? r).getD #[]).toList.zipIdx PUnit.unit
      fun (p : Value × Nat) _ => do
        discard (callValue fuel (.function f) [p.1, .ofNat p.2])
        pure (ForInStep.yield PUnit.unit)).run m with
  | mk res m₁ =>
      rw [hrun] at hloop
      cases res <;> exact hloop

/-- The loop ends exactly as the calls in order end. -/
theorem forEach_run_eq_iff (fuel r f : Nat) (m : Machine) (out : Except Fault Unit × Machine) :
    (forEach (fuel + 1) (.array r) (.function f)).run m = out ↔
      Run.CallsInOrder (fun p : Value × Nat => callValue fuel (.function f) [p.1, .ofNat p.2])
        ((m.store.array? r).getD #[]).toList.zipIdx m out := by
  constructor
  · rintro rfl
    exact forEach_callsInOrder fuel r f m
  · intro h
    exact (forEach_callsInOrder fuel r f m).unique h

/-- `for x in target` with a visitor: a target that is not an array fails as not iterable, and
then a visitor that is not a function as not callable, whatever the array holds; both failures
name the value's label and leave the machine as it was. Otherwise the visitor is called with
`(xᵢ, i)` for the items `x₀, …, x_{k-1}` that the array held when the loop began, in order of
index, each call on the machine the one before left and whatever the calls do to the array;
the first call that fails ends the loop with its fault, and the loop answers `()` exactly when
all `k` calls have answered: the loop ends as those calls in order end, and in no other way. -/
theorem forEach_visits_entry_items :
    (∀ (fuel : Nat) (target visitor : Value) (m : Machine), (∀ r, target ≠ .array r) →
      (forEach (fuel + 1) target visitor).run m =
        (.error (.notIterable (m.store.label target)), m)) ∧
    (∀ (fuel r : Nat) (visitor : Value) (m : Machine), (∀ f, visitor ≠ .function f) →
      (forEach (fuel + 1) (.array r) visitor).run m =
        (.error (.notCallable (m.store.label visitor)), m)) ∧
    (∀ (fuel r f : Nat) (m : Machine) (out : Except Fault Unit × Machine),
      (forEach (fuel + 1) (.array r) (.function f)).run m = out ↔
        Run.CallsInOrder (fun p : Value × Nat => callValue fuel (.function f) [p.1, .ofNat p.2])
          ((m.store.array? r).getD #[]).toList.zipIdx m out) :=
  ⟨fun fuel _ visitor m ht => forEach_run_of_not_array fuel m ht visitor,
    fun fuel r _ m hv => forEach_run_of_not_function fuel m r hv,
    forEach_run_eq_iff⟩

/-- Over the text `"abc"` the loop fails as not iterable, and over an empty array with the
number `1` as visitor as not callable. -/
theorem forEach_refuses_text_and_number :
    ((∀ r, Value.string "abc" ≠ .array r) ∧
      (forEach 1 (.string "abc") .null).run (Machine.bare Config.default) =
        (.error (.notIterable "String"), Machine.bare Config.default)) ∧
    ((∀ f, Value.number 1 ≠ .function f) ∧
      (forEach 1 (.array 0) (.number 1)).run (Machine.bare Config.default) =
        (.error (.notCallable "Number"), Machine.bare Config.default)) := by
  have htext : ∀ r, Value.string "abc" ≠ .array r := fun _ h => Value.noConfusion h
  have hnumber : ∀ f, Value.number 1 ≠ .function f := fun _ h => Value.noConfusion h
  exact ⟨⟨htext, forEach_visits_entry_items.1 0 _ .null _ htext⟩,
    ⟨hnumber, forEach_visits_entry_items.2.1 0 0 _ _ hnumber⟩⟩

end ScriptHost
