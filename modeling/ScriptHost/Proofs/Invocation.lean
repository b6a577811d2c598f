import ScriptHost.Eval

/-! # Invoking functions through chains of bound receivers

How one step of `Run` computes on a machine, and the count checks along a chain of bound
receivers.
-/

namespace ScriptHost

/-! ## Steps of `Run` on a machine -/

namespace Run

theorem run_bind {α β : Type} (x : Run α) (f : α → Run β) (m : Machine) :
    (x >>= f).run m =
      match x.run m with
      | (.ok a, m') => (f a).run m'
      | (.error e, m') => (.error e, m') := by
  unfold ExceptT.run
  simp only [bind, ExceptT.bind, ExceptT.mk, StateT.bind, ExceptT.bindCont]
  cases x m with
  | mk result m' => cases result <;> rfl

@[simp] theorem run_pure {α : Type} (a : α) (m : Machine) :
    (pure a : Run α).run m = (.ok a, m) := rfl

@[simp] theorem run_throw {α : Type} (e : Fault) (m : Machine) :
    (throw e : Run α).run m = (.error e, m) := rfl

@[simp] theorem run_get (m : Machine) : (get : Run Machine).run m = (.ok m, m) := rfl

end Run

/-! ## One bound receiver -/

namespace FunctionCell

/-- The least number of arguments a function takes: its declared arity, or zero when it
declares none. -/
def least (f : FunctionCell) : Nat :=
  f.arity.getD 0

@[simp] theorem name_bind (r : Value) (f : FunctionCell) : (f.bind r).name = f.name := rfl

@[simp] theorem least_bind (r : Value) (f : FunctionCell) : (f.bind r).least = f.least - 1 := by
  cases f with
  | mk name arity call => cases arity <;> rfl

/-- A function asked to take fewer arguments than it declares refuses at once, naming
itself and its own count. -/
theorem admit_of_lt {f : FunctionCell} {args : List Value} (h : args.length < f.least) :
    f.admit args = .error (.arity f.name f.least f.least args.length) := by
  cases f with
  | mk name arity call =>
      simp only [least, FunctionCell.arity] at h
      unfold FunctionCell.admit
      simp [least, FunctionCell.arity, FunctionCell.name, h]

/-- The check of a bound function fails exactly when its target would fail with the
receiver in front; then the fault counts one argument fewer on both sides. -/
theorem admit_bind (r : Value) (f : FunctionCell) (args : List Value) :
    FunctionCell.admit (f.bind r) args =
      if args.length + 1 < f.least then
        .error (.arity f.name (f.least - 1) (f.least - 1) args.length)
      else f.admit (r :: args) := by
  cases f with
  | mk name arity call =>
      cases arity with
      | none => simp [bind, FunctionCell.admit, least, FunctionCell.arity]
      | some n =>
          simp only [bind, FunctionCell.admit, least, FunctionCell.arity, FunctionCell.name,
            Option.map_some, Option.getD_some]
          by_cases h : args.length + 1 < n
          · have h' : args.length < n - 1 := by omega
            simp [h, h']
          · have h' : ¬ args.length < n - 1 := by omega
            simp [h, h']

/-! ## Chains of bound receivers -/

/-- The function `f` with the receivers `rs` bound one after another: the first receiver
is bound first, so every call of the chain passes `rs` in their order before its own
arguments. -/
def bindAll (f : FunctionCell) (rs : List Value) : FunctionCell :=
  rs.foldl (fun g r => g.bind r) f

@[simp] theorem bindAll_nil (f : FunctionCell) : f.bindAll [] = f := rfl

theorem bindAll_cons (f : FunctionCell) (r : Value) (rs : List Value) :
    f.bindAll (r :: rs) = (f.bind r).bindAll rs := rfl

theorem bindAll_singleton (f : FunctionCell) (r : Value) : f.bindAll [r] = f.bind r := rfl

/-- The outermost check of a chain of `k` receivers rejects exactly when the target
rejects the flattened arguments, and then reports the target's name with its count
less `k`, never below zero. -/
theorem admit_bindAll (f : FunctionCell) (rs args : List Value) :
    FunctionCell.admit (f.bindAll rs) args =
      if args.length + rs.length < f.least then
        .error (.arity f.name (f.least - rs.length) (f.least - rs.length) args.length)
      else f.admit (rs ++ args) := by
  -- the chain is peeled from its innermost receiver, so the target changes and the
  -- arguments stay those of the outermost call
  induction rs generalizing f with
  | nil =>
      by_cases h : args.length < f.least
      · simp [h, admit_of_lt h]
      · simp [h]
  | cons r rs ih =>
      rw [bindAll_cons, ih, admit_bind]
      simp only [name_bind, least_bind, List.length_cons, List.cons_append, List.length_append]
      by_cases h : args.length + (rs.length + 1) < f.least
      · rw [if_pos (by omega), if_pos h, Nat.sub_sub, Nat.add_comm 1]
      · rw [if_neg (by omega), if_neg h, if_neg (by omega)]

end FunctionCell

/-! ## Invoking a chain -/

theorem invokeCell_congr {fuel : Nat} {f g : FunctionCell} {args args' : List Value}
    (h : f.admit args = g.admit args') :
    invokeCell (fuel + 1) f args = invokeCell (fuel + 1) g args' := by
  simp only [invokeCell, h]

theorem invokeCell_of_admit_error {fuel : Nat} {f : FunctionCell} {args : List Value}
    {e : Fault} (h : f.admit args = .error e) : invokeCell (fuel + 1) f args = throw e := by
  simp only [invokeCell, h]

theorem invokeCell_of_lt {fuel : Nat} {f : FunctionCell} {args : List Value}
    (h : args.length < f.least) :
    invokeCell (fuel + 1) f args = throw (.arity f.name f.least f.least args.length) :=
  invokeCell_of_admit_error (FunctionCell.admit_of_lt h)

/-- Invoking a chain of bound receivers is invoking its target with the receivers in
front, except where the target's own count check fails: the chain then fails first,
with the same name and both counts less the number of receivers. -/
theorem invokeCell_bindAll (fuel : Nat) (f : FunctionCell) (rs args : List Value) :
    invokeCell (fuel + 1) (f.bindAll rs) args =
      if args.length + rs.length < f.least then
        throw (.arity f.name (f.least - rs.length) (f.least - rs.length) args.length)
      else invokeCell (fuel + 1) f (rs ++ args) := by
  by_cases h : args.length + rs.length < f.least
  · rw [if_pos h]
    apply invokeCell_of_admit_error
    rw [FunctionCell.admit_bindAll, if_pos h]
  · rw [if_neg h]
    apply invokeCell_congr
    rw [FunctionCell.admit_bindAll, if_neg h]

theorem invokeCell_bind (fuel : Nat) (f : FunctionCell) (r : Value) (args : List Value) :
    invokeCell (fuel + 1) (f.bind r) args =
      if args.length + 1 < f.least then
        throw (.arity f.name (f.least - 1) (f.least - 1) args.length)
      else invokeCell (fuel + 1) f (r :: args) := by
  rw [← FunctionCell.bindAll_singleton, invokeCell_bindAll]
  rfl

end ScriptHost
