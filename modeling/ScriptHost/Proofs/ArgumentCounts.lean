import ScriptHost.Proofs.Dispatch

/-! # Argument counts of native methods

A native method checks its declared range of argument counts before anything else, then its
receiver; past the check it reads no argument beyond its range, and the only count faults of
its work are those of its callbacks.
-/

namespace ScriptHost

theorem Native.range?_eq_none_iff (n : Native) : n.range? = none ↔ n = .arrayPush := by
  cases n <;> simp [Native.range?]

theorem Native.least_le_most {n : Native} {lo hi : Nat} (h : n.range? = some (lo, hi)) :
    lo ≤ hi := by
  cases n <;> simp only [Native.range?, Option.some.injEq, Prod.mk.injEq, reduceCtorEq] at h <;>
    omega

def Fault.isArity : Fault → Bool
  | .arity .. => true
  | _ => false

namespace Run

/-! ## The count check and the receiver checks -/

theorem run_discard {α : Type} (x : Run α) (m : Machine) :
    (discard x).run m =
      match x.run m with
      | (.ok _, m') => (.ok (), m')
      | (.error e, m') => (.error e, m') := by
  rw [Functor.discard, LawfulFunctor.map_const, Function.comp_apply, map_eq_pure_bind, run_bind]
  rfl

theorem checkCount_run (name : String) (lo hi : Nat) (args : List Value) (m : Machine) :
    (checkCount name lo hi args).run m =
      if args.length < lo ∨ (m.config.strictArity = true ∧ hi < args.length) then
        (.error (.arity name lo hi args.length), m)
      else (.ok (), m) := by
  simp only [checkCount, config, run_bind, run_get, run_pure]
  by_cases h : args.length < lo ∨ (m.config.strictArity = true ∧ hi < args.length)
  · simp [h]
  · simp [h]

theorem expectReceiver_run {α : Type} (view : Value → Option α) (n : Native) (v : Value)
    (m : Machine) :
    (expectReceiver view n v).run m =
      match view v with
      | some a => (.ok a, m)
      | none => (.error (.typeMismatch n.qualified n.receiverExpected (m.store.label v)), m) := by
  simp only [expectReceiver]
  cases view v with
  | some a => rfl
  | none => simp only [run_bind, label_run, run_throw]

theorem expectReceiver_run_of_none {α : Type} {view : Value → Option α} {n : Native} {v : Value}
    (h : view v = none) (m : Machine) :
    (expectReceiver view n v).run m =
      (.error (.typeMismatch n.qualified n.receiverExpected (m.store.label v)), m) := by
  rw [expectReceiver_run, h]

/-! Each view reads nothing off a value of another kind. -/

theorem arrayRef?_of_tag_ne {v : Value} (h : v.tag ≠ .array) : v.arrayRef? = none := by
  cases v <;> simp_all [Value.tag, Value.arrayRef?]

theorem text?_of_tag_ne {v : Value} (h : v.tag ≠ .string) : v.text? = none := by
  cases v <;> simp_all [Value.tag, Value.text?]

theorem number?_of_tag_ne {v : Value} (h : v.tag ≠ .number) : v.number? = none := by
  cases v <;> simp_all [Value.tag, Value.number?]

/-! ## Computations that raise no count fault -/

/-- A computation that fails with no count fault, from any machine. -/
def ArityFree {α : Type} (x : Run α) : Prop :=
  ∀ m e m', x.run m = (.error e, m') → e.isArity = false

theorem ArityFree.of_run {α : Type} {x : Run α} (h : ∀ m, ∃ a m', x.run m = (.ok a, m')) :
    ArityFree x := by
  intro m e m' hx
  obtain ⟨a, m'', h'⟩ := h m
  rw [h'] at hx
  cases hx

theorem ArityFree.pure {α : Type} (a : α) : ArityFree (pure a : Run α) :=
  of_run fun m => ⟨a, m, rfl⟩

theorem ArityFree.throw {α : Type} {e : Fault} (h : e.isArity = false) :
    ArityFree (throw e : Run α) := by
  intro m e' m' hx
  cases hx
  exact h

theorem ArityFree.bind {α β : Type} {x : Run α} {f : α → Run β} (hx : ArityFree x)
    (hf : ∀ a, ArityFree (f a)) : ArityFree (x >>= f) := by
  intro m e m' h
  rw [run_bind] at h
  cases hxm : x.run m with
  | mk r m₁ =>
      rw [hxm] at h
      cases r with
      | ok a => exact hf a m₁ e m' h
      | error e₁ =>
          cases h
          exact hx m _ _ hxm

theorem ArityFree.discard {α : Type} {x : Run α} (hx : ArityFree x) : ArityFree (discard x) := by
  rw [Functor.discard, LawfulFunctor.map_const, Function.comp_apply, map_eq_pure_bind]
  exact hx.bind fun _ => .pure _

/-! The loops through which the methods call back, one lemma each, by induction on the
items. -/

theorem ArityFree.forIn {α β : Type} {xs : List α} {b : β} {f : α → β → Run (ForInStep β)}
    (hf : ∀ x b, ArityFree (f x b)) : ArityFree (forIn xs b f) := by
  induction xs generalizing b with
  | nil => exact .pure b
  | cons x xs ih =>
      rw [List.forIn_cons]
      refine (hf x b).bind fun r => ?_
      cases r with
      | done b' => exact .pure b'
      | yield b' => exact ih

theorem ArityFree.mapM {α β : Type} {xs : List α} {f : α → Run β} (hf : ∀ x, ArityFree (f x)) :
    ArityFree (xs.mapM f) := by
  induction xs with
  | nil => exact .pure []
  | cons x xs ih =>
      rw [List.mapM_cons]
      exact (hf x).bind fun _ => ih.bind fun _ => .pure _

theorem ArityFree.filterAuxM {α : Type} {xs : List α} {p : α → Run Bool}
    (hp : ∀ x, ArityFree (p x)) (acc : List α) : ArityFree (List.filterAuxM p xs acc) := by
  induction xs generalizing acc with
  | nil => exact .pure acc
  | cons x xs ih => exact (hp x).bind fun _ => ih _

theorem ArityFree.filterM {α : Type} {xs : List α} {p : α → Run Bool}
    (hp : ∀ x, ArityFree (p x)) : ArityFree (xs.filterM p) :=
  (ArityFree.filterAuxM hp []).bind fun _ => .pure _

theorem ArityFree.findM? {α : Type} {xs : List α} {p : α → Run Bool}
    (hp : ∀ x, ArityFree (p x)) : ArityFree (xs.findM? p) := by
  induction xs with
  | nil => exact .pure none
  | cons x xs ih =>
      refine (hp x).bind fun b => ?_
      cases b with
      | true => exact .pure _
      | false => exact ih

/-! The steps the methods are made of: checks that fail only with a mismatch, and reads and
writes that never fail. -/

theorem ArityFree.expectReceiver {α : Type} (view : Value → Option α) (n : Native) (v : Value) :
    ArityFree (expectReceiver view n v) := by
  intro m e m' h
  rw [expectReceiver_run] at h
  cases hv : view v <;> rw [hv] at h <;> cases h
  rfl

theorem ArityFree.arrayAt (r : Nat) : ArityFree (arrayAt r) := of_run fun _ => ⟨_, _, rfl⟩

theorem ArityFree.items (r : Nat) : ArityFree (items r) := of_run fun _ => ⟨_, _, rfl⟩

theorem ArityFree.lastItem (r : Nat) : ArityFree (lastItem r) := of_run fun _ => ⟨_, _, rfl⟩

theorem ArityFree.display (v : Value) : ArityFree (display v) := of_run fun _ => ⟨_, _, rfl⟩

theorem ArityFree.newArray (xs : List Value) : ArityFree (newArray xs) :=
  of_run fun _ => ⟨_, _, rfl⟩

theorem ArityFree.modifyStore (f : Store → Store) : ArityFree (modifyStore f) :=
  of_run fun _ => ⟨_, _, rfl⟩

theorem ArityFree.label (v : Value) : ArityFree (label v) :=
  of_run fun m => ⟨_, _, label_run v m⟩

/-- A count check of no arguments against a least of none always passes. -/
theorem ArityFree.checkCount_nil (name : String) (hi : Nat) : ArityFree (checkCount name 0 hi []) :=
  of_run fun m => ⟨(), m, by simp [checkCount_run]⟩

theorem ArityFree.reverseInPlace (n : Native) (recv : Value) : ArityFree (reverseInPlace n recv) :=
  (ArityFree.expectReceiver _ n recv).bind fun _ => (ArityFree.modifyStore _).bind fun _ => .pure _

/-! ## The work of a method once its count is checked -/

theorem runPlain_arityFree (n : Native) (recv : Value) (args : List Value) :
    ArityFree (runPlain n recv args) := by
  have hA := ArityFree.expectReceiver Value.arrayRef? n recv
  have hS := ArityFree.expectReceiver Value.text? n recv
  have hN := ArityFree.expectReceiver Value.number? n recv
  cases n with
  | arrayLength => exact hA.bind fun r => (ArityFree.arrayAt r).bind fun _ => .pure _
  | arrayPush =>
      exact hA.bind fun r => (ArityFree.modifyStore _).bind fun _ =>
        (ArityFree.arrayAt r).bind fun _ => .pure _
  | arrayPop =>
      refine hA.bind fun r => (ArityFree.lastItem r).bind fun last => ?_
      cases last with
      | some v => exact (ArityFree.modifyStore _).bind fun _ => .pure _
      | none => exact .pure _
  | arrayReverse => exact ArityFree.reverseInPlace _ recv
  | arrayIncludes => exact hA.bind fun r => (ArityFree.items r).bind fun _ => .pure _
  | arrayIndexOf =>
      refine hA.bind fun r => (ArityFree.items r).bind fun xs => ?_
      split <;> exact .pure _
  | stringLength => exact hS.bind fun _ => .pure _
  | stringIncludes | stringContains | stringStartsWith | stringEndsWith | stringAppend =>
      exact hS.bind fun _ => (ArityFree.display _).bind fun _ => .pure _
  | stringToUpperCase | stringToUpper | stringToLowerCase | stringToLower | stringTrim =>
      exact hS.bind fun _ => .pure _
  | numberToString | numberIsInteger | numberIsFloat => exact hN.bind fun _ => .pure _
  | arrayIsEmpty | arrayIsNotEmpty =>
      exact hA.bind fun r => (ArityFree.arrayAt r).bind fun _ => .pure _
  | arrayReversed =>
      exact hA.bind fun r => (ArityFree.items r).bind fun _ => (ArityFree.newArray _).bind fun _ =>
        (ArityFree.checkCount_nil _ 0).bind fun _ => ArityFree.reverseInPlace _ _
  | arrayJoin =>
      exact hA.bind fun r => (ArityFree.items r).bind fun _ => (ArityFree.display _).bind fun _ =>
        (ArityFree.mapM fun v => ArityFree.display v).bind fun _ => .pure _
  | stringFinish =>
      refine hS.bind fun _ => (ArityFree.display _).bind fun _ => ?_
      split <;> exact .pure _
  | numberToFixed =>
      refine hN.bind fun _ => ?_
      -- the digits are the one argument a method checks itself, with a mismatch of its own
      rcases args with _ | ⟨d, _⟩
      · exact .pure _
      · cases d with
        | number p => exact .pure _
        | _ => exact (ArityFree.label _).bind fun _ => .throw rfl
  | arrayEach | arrayFirst | arrayFilter | arrayMap | stringTap => exact .pure _

/-- Past its count check, a method raises a count fault only when a callback it calls
does. -/
theorem nativeWork_arityFree {call : Value → List Value → Run Value}
    (hcall : ∀ v xs, ArityFree (call v xs)) (n : Native) (recv : Value) (args : List Value) :
    ArityFree (nativeWork call n recv args) := by
  have hA := ArityFree.expectReceiver Value.arrayRef? n recv
  cases n
  case arrayEach =>
    exact hA.bind fun r => (ArityFree.items r).bind fun _ =>
      (ArityFree.forIn fun x _ => (hcall _ [x]).discard.bind fun _ => .pure _).bind fun _ =>
        .pure _
  case arrayFirst =>
    refine hA.bind fun r => (ArityFree.items r).bind fun _ => ?_
    rcases args with _ | ⟨cb, _⟩
    · exact .pure _
    · exact (ArityFree.findM? fun x => (hcall cb [x]).bind fun _ => .pure _).bind fun _ =>
        .pure _
  case arrayFilter =>
    exact hA.bind fun r => (ArityFree.items r).bind fun _ =>
      (ArityFree.filterM fun x => (hcall _ [x]).bind fun _ => .pure _).bind fun _ =>
        .newArray _
  case arrayMap =>
    exact hA.bind fun r => (ArityFree.items r).bind fun _ =>
      (ArityFree.mapM fun x => hcall _ [x]).bind fun _ => .newArray _
  case stringTap =>
    refine (ArityFree.expectReceiver Value.text? _ recv).discard.bind fun _ => ?_
    rcases args with _ | ⟨cb, _⟩
    · exact (ArityFree.pure ()).bind fun _ => .pure _
    · exact (hcall cb [recv]).discard.bind fun _ => .pure _
  -- every other method calls nothing back
  all_goals
    simp only [nativeWork]
    exact runPlain_arityFree _ recv args

/-- The receiver is checked first: one of the wrong kind fails the work before any callback
or change, whatever the arguments. -/
theorem nativeWork_of_tag_ne (call : Value → List Value → Run Value) {n : Native} {recv : Value}
    (args : List Value) (h : recv.tag ≠ n.receiverTag) (m : Machine) :
    (nativeWork call n recv args).run m =
      (.error (.typeMismatch n.qualified n.receiverExpected (m.store.label recv)), m) := by
  cases n <;> simp only [Native.receiverTag] at h <;>
    simp only [nativeWork, runPlain, reverseInPlace, expectArray, expectString, expectNumber,
      run_bind, run_discard, expectReceiver_run_of_none, arrayRef?_of_tag_ne, text?_of_tag_ne,
      number?_of_tag_ne, h, ne_eq, not_false_eq_true]

theorem nativeWork_toFixed_of_tag_ne (call : Value → List Value → Run Value) (x : Float)
    {d : Value} (rest : List Value) (h : d.tag ≠ .number) (m : Machine) :
    (nativeWork call .numberToFixed (.number x) (d :: rest)).run m =
      (.error (.typeMismatch Native.numberToFixed.qualified "a number" (m.store.label d)), m) := by
  cases d <;> simp_all [nativeWork, runPlain, expectNumber, run_bind, expectReceiver_run,
    Value.number?, label_run, Value.tag]

theorem nativeWork_take (call : Value → List Value → Run Value) {n : Native} {lo hi : Nat}
    (h : n.range? = some (lo, hi)) (recv : Value) (args : List Value) :
    nativeWork call n recv (args.take hi) = nativeWork call n recv args := by
  -- the most is 0 or 1, and a method of most 1 reads only the head of its arguments
  cases n <;> simp only [Native.range?, Option.some.injEq, Prod.mk.injEq, reduceCtorEq] at h <;>
    obtain ⟨rfl, rfl⟩ := h <;> cases args <;> rfl

end Run

/-! ## Native runs -/

/-- The count check comes first; when it passes, the work runs on the machine as it was. -/
theorem runNative_run {n : Native} {lo hi : Nat} (h : n.range? = some (lo, hi)) (fuel : Nat)
    (recv : Value) (args : List Value) (m : Machine) :
    (runNative (fuel + 1) n recv args).run m =
      if args.length < lo ∨ (m.config.strictArity = true ∧ hi < args.length) then
        (.error (.arity n.qualified lo hi args.length), m)
      else (Run.nativeWork (callValue fuel) n recv args).run m := by
  simp only [runNative, h, Run.run_bind, Run.checkCount_run]
  by_cases hc : args.length < lo ∨ (m.config.strictArity = true ∧ hi < args.length)
  · simp only [hc, if_true]
  · simp only [hc, if_false]

example : ((runNative 1 .stringTrim (.string "a") [.null]).run (Machine.bare Config.default)).1 =
    .error (.arity "String.trim" 0 0 1) := by
  rfl

theorem runNative_take_of_lenient {n : Native} {lo hi : Nat} (h : n.range? = some (lo, hi))
    (fuel : Nat) (recv : Value) {args : List Value} {m : Machine}
    (hs : m.config.strictArity = false) (hk : hi < args.length) :
    (runNative (fuel + 1) n recv args).run m =
      (runNative (fuel + 1) n recv (args.take hi)).run m := by
  have hle : lo ≤ hi := Native.least_le_most h
  have hlen : (args.take hi).length = hi := List.length_take_of_le (Nat.le_of_lt hk)
  rw [runNative_run h, runNative_run h, hlen, hs, if_neg (by simp; omega),
    if_neg (by simp; omega), Run.nativeWork_take _ h]

/-! ## Ways into a native run -/

theorem invokeCell_ofNative (fuel : Nat) (n : Native) (recv : Value) (args : List Value) :
    invokeCell (fuel + 2) (FunctionCell.ofNative n) (recv :: args) =
      runNative (fuel + 1) n recv args := by
  have hcheck : FunctionCell.admit (FunctionCell.ofNative n) (recv :: args) =
      .ok (.ofNative n, recv :: args) := by
    unfold FunctionCell.admit
    simp [FunctionCell.ofNative]
  simp only [invokeCell, hcheck]
  rfl

theorem invokeCell_bind_ofNative (fuel : Nat) (n : Native) (recv : Value) (args : List Value) :
    invokeCell (fuel + 2) ((FunctionCell.ofNative n).bind recv) args =
      runNative (fuel + 1) n recv args := by
  have hleast : (FunctionCell.ofNative n).least = 1 := rfl
  rw [invokeCell_bind, hleast, if_neg (by omega), invokeCell_ofNative]

theorem callMethod_of_native {fuel : Nat} {recv : Value} {name : String} {args : List Value}
    {m : Machine} {n : Native} (h : m.methodCell recv name = .ok (.ofNative n)) :
    (callMethod (fuel + 3) recv name args).run m = (runNative (fuel + 1) n recv args).run m := by
  have hleast : (FunctionCell.ofNative n).least = 1 := rfl
  rw [callMethod_of_methodCell h, hleast, if_neg (by omega), invokeCell_ofNative]

theorem invokeCell_typeOf_run (fuel : Nat) (args : List Value) (m : Machine) :
    (invokeCell (fuel + 1) (FunctionCell.ofGlobal .typeOf) args).run m =
      if args.length < 1 ∨ (m.config.strictArity = true ∧ 1 < args.length) then
        (.error (.arity "type" 1 1 args.length), m)
      else (.ok (.string (args.headD .null).tag.typeName), m) := by
  have hcheck : FunctionCell.admit (FunctionCell.ofGlobal .typeOf) args =
      .ok (.ofGlobal .typeOf, args) := by
    unfold FunctionCell.admit
    simp [FunctionCell.ofGlobal]
  simp only [invokeCell, hcheck]
  simp only [FunctionCell.ofGlobal, FunctionCell.call, Run.runGlobal, Run.run_bind,
    Run.checkCount_run]
  by_cases hc : args.length < 1 ∨ (m.config.strictArity = true ∧ 1 < args.length)
  · simp only [hc, if_true]
  · simp only [hc, if_false]
    cases args with
    | nil => simp at hc
    | cons v rest => rfl

theorem invokeCell_closure_run (fuel : Nat) (name : String) (k : Nat) (body : Expr)
    (args : List Value) (m : Machine) :
    (invokeCell (fuel + 1) (.mk name (some k) (.closure body)) args).run m =
      if args.length < k then (.error (.arity name k k args.length), m)
      else (eval fuel args body).run m := by
  by_cases h : args.length < k
  · simp only [h, if_true]
    rw [invokeCell_of_lt (f := .mk name (some k) (.closure body)) h]
    rfl
  · have hcheck : FunctionCell.admit (.mk name (some k) (.closure body)) args =
        .ok (.mk name (some k) (.closure body), args) := by
      unfold FunctionCell.admit
      simp [h]
    simp only [h, if_false, invokeCell, hcheck, FunctionCell.call]

/-! ## The count policy -/

/-- Every native method but `push` declares a range `[lo, hi]`. Called by name, bound, or
unbound with the receiver in front, it runs its count check first: the check fails exactly
when `|a| < lo`, or `|a| > hi` under strict counts, and then the call fails naming the
method, its range and `|a|`, on the machine as it was. Otherwise the method's work runs on
that machine, and it raises a count fault only when a callback it calls does. A receiver of
the wrong kind fails the work next, and the digits of `toFixed` after that, both before any
callback or change. Under lenient counts a surplus changes nothing. The global `type` keeps
the same policy with the range `[1, 1]`; a closure's arity is only a least count, under
both policies. -/
theorem native_counts_checked_first :
    (∀ n : Native, n.range? = none ↔ n = .arrayPush) ∧
    (∀ (fuel : Nat) (n : Native) (recv : Value) (args : List Value),
      invokeCell (fuel + 2) (FunctionCell.ofNative n) (recv :: args) =
          runNative (fuel + 1) n recv args ∧
        invokeCell (fuel + 2) ((FunctionCell.ofNative n).bind recv) args =
          runNative (fuel + 1) n recv args) ∧
    (∀ (fuel : Nat) (n : Native) (recv : Value) (name : String) (args : List Value)
        (m : Machine),
      m.methodCell recv name = .ok (.ofNative n) →
        (callMethod (fuel + 3) recv name args).run m =
          (runNative (fuel + 1) n recv args).run m) ∧
    (∀ (fuel : Nat) (n : Native) (lo hi : Nat) (recv : Value) (args : List Value) (m : Machine),
      n.range? = some (lo, hi) →
        (runNative (fuel + 1) n recv args).run m =
          if args.length < lo ∨ (m.config.strictArity = true ∧ hi < args.length) then
            (.error (.arity n.qualified lo hi args.length), m)
          else (Run.nativeWork (callValue fuel) n recv args).run m) ∧
    (∀ (call : Value → List Value → Run Value) (n : Native) (recv : Value) (args : List Value),
      (∀ v xs, Run.ArityFree (call v xs)) → Run.ArityFree (Run.nativeWork call n recv args)) ∧
    (∀ (call : Value → List Value → Run Value) (n : Native) (recv : Value) (args : List Value)
        (m : Machine),
      recv.tag ≠ n.receiverTag →
        (Run.nativeWork call n recv args).run m =
          (.error (.typeMismatch n.qualified n.receiverExpected (m.store.label recv)), m)) ∧
    (∀ (call : Value → List Value → Run Value) (x : Float) (d : Value) (rest : List Value)
        (m : Machine),
      d.tag ≠ .number →
        (Run.nativeWork call .numberToFixed (.number x) (d :: rest)).run m =
          (.error (.typeMismatch Native.numberToFixed.qualified "a number" (m.store.label d)),
            m)) ∧
    (∀ (fuel : Nat) (n : Native) (lo hi : Nat) (recv : Value) (args : List Value) (m : Machine),
      n.range? = some (lo, hi) → m.config.strictArity = false → hi < args.length →
        (runNative (fuel + 1) n recv args).run m =
          (runNative (fuel + 1) n recv (args.take hi)).run m) ∧
    (∀ (fuel : Nat) (args : List Value) (m : Machine),
      (invokeCell (fuel + 1) (FunctionCell.ofGlobal .typeOf) args).run m =
        if args.length < 1 ∨ (m.config.strictArity = true ∧ 1 < args.length) then
          (.error (.arity "type" 1 1 args.length), m)
        else (.ok (.string (args.headD .null).tag.typeName), m)) ∧
    (∀ (fuel : Nat) (name : String) (k : Nat) (body : Expr) (args : List Value) (m : Machine),
      (invokeCell (fuel + 1) (.mk name (some k) (.closure body)) args).run m =
        if args.length < k then (.error (.arity name k k args.length), m)
        else (eval fuel args body).run m) := by
  refine ⟨Native.range?_eq_none_iff, fun fuel n recv args => ?_, ?_, ?_, ?_, ?_, ?_, ?_,
    invokeCell_typeOf_run, invokeCell_closure_run⟩
  · exact ⟨invokeCell_ofNative fuel n recv args, invokeCell_bind_ofNative fuel n recv args⟩
  · intro fuel n recv name args m h
    exact callMethod_of_native h
  · intro fuel n lo hi recv args m h
    exact runNative_run h fuel recv args m
  · intro call n recv args hcall
    exact Run.nativeWork_arityFree hcall n recv args
  · intro call n recv args m h
    exact Run.nativeWork_of_tag_ne call args h m
  · intro call x d rest m h
    exact Run.nativeWork_toFixed_of_tag_ne call x rest h m
  · intro fuel n lo hi recv args m h hs hk
    exact runNative_take_of_lenient h fuel recv hs hk

/-- Under lenient counts `" a ".trim(null)` is `" a ".trim()`, and `(1).toFixed("2")` fails
on its digits whatever calls back; `" a ".trim()` called by name runs the host method, and
`map` with a call that answers null at once raises no count fault. -/
theorem trim_surplus_and_toFixed_digits :
    (Native.stringTrim.range? = some (0, 0) ∧
      (Machine.bare { Config.default with strictArity := false }).config.strictArity = false ∧
      0 < [Value.null].length ∧
      (runNative 1 .stringTrim (.string " a ") [.null]).run
          (Machine.bare { Config.default with strictArity := false }) =
        (runNative 1 .stringTrim (.string " a ") ([Value.null].take 0)).run
          (Machine.bare { Config.default with strictArity := false })) ∧
    ((Value.string "2").tag ≠ .number ∧
      (Run.nativeWork (fun _ _ => pure .null) .numberToFixed (.number 1) [.string "2"]).run
          (Machine.bare Config.default) =
        (.error (.typeMismatch Native.numberToFixed.qualified "a number"
          ((Machine.bare Config.default).store.label (.string "2"))),
          Machine.bare Config.default)) ∧
    ((Machine.bare Config.default).methodCell (.string " a ") "trim" = .ok (.ofNative .stringTrim) ∧
      (callMethod 3 (.string " a ") "trim" []).run (Machine.bare Config.default) =
        (runNative 1 .stringTrim (.string " a ") []).run (Machine.bare Config.default)) ∧
    ((∀ v xs, Run.ArityFree ((fun _ _ => pure .null : Value → List Value → Run Value) v xs)) ∧
      Run.ArityFree (Run.nativeWork (fun _ _ => pure .null) .arrayMap (.array 0) [.null])) := by
  have hcell : (Machine.bare Config.default).methodCell (.string " a ") "trim" =
      .ok (.ofNative .stringTrim) := rfl
  have hnull : ∀ v xs, Run.ArityFree ((fun _ _ => pure .null : Value → List Value → Run Value) v xs) :=
    fun _ _ => .pure _
  refine ⟨⟨rfl, rfl, by decide, ?_⟩, ⟨by decide, ?_⟩, ⟨hcell, ?_⟩, ⟨hnull, ?_⟩⟩
  · exact native_counts_checked_first.2.2.2.2.2.2.2.1 0 .stringTrim 0 0 (.string " a ") [.null]
      (Machine.bare { Config.default with strictArity := false }) rfl rfl (by decide)
  · exact native_counts_checked_first.2.2.2.2.2.2.1 (fun _ _ => pure .null) 1 (.string "2") []
      (Machine.bare Config.default) (by decide)
  · exact native_counts_checked_first.2.2.1 0 .stringTrim (.string " a ") "trim" []
      (Machine.bare Config.default) hcell
  · exact native_counts_checked_first.2.2.2.2.1 _ .arrayMap (.array 0) [.null] hnull

/-- A callback's own count fault passes through `each`: one argument lies in the range
`[1, 1]` that `each` declares, and the call still fails with a count fault, the
callback's. -/
theorem each_passes_on_callback_count_fault :
    Native.arrayEach.range? = some (1, 1) ∧
      ((eval depthLimit [] (.callMethod "each" (.list [.number 1])
          [.closure "cb" (some 2) .null])).run (Machine.withExtensions Config.default)).1 =
        .error (.arity "cb" 2 2 1) :=
  ⟨rfl, by rfl⟩

end ScriptHost
