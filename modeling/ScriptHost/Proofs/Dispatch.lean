import ScriptHost.Proofs.Invocation

/-! # Where method calls go

An instance call looks at the instance methods of the value's declared type, then of its kind,
then at the host methods; a static call looks at the static methods of its key alone.
-/

namespace ScriptHost

/-! ## The three places -/

namespace Store

/-- The type name a value declares: a named object's, and no other value's. -/
def typeName? (s : Store) : Value → Option String
  | .object r => (s.object? r).bind (·.name)
  | _ => none

/-- How messages name a value: a named object by its type name, any other value by its
kind. -/
def label (s : Store) (v : Value) : String :=
  (s.typeName? v).getD v.tag.label

theorem object?_allocFunction (s : Store) (g : FunctionCell) (r : Nat) :
    (s.allocFunction g).1.object? r = s.object? r := by
  cases s
  rfl

theorem typeName?_allocFunction (s : Store) (g : FunctionCell) (v : Value) :
    (s.allocFunction g).1.typeName? v = s.typeName? v := by
  cases v <;> simp [typeName?, object?_allocFunction]

theorem function?_size (s : Store) : s.function? s.functions.size = none := by
  simp [function?]

end Store

namespace Machine

/-- Where an instance call of `name` on `v` goes: the instance method filed under the
type `v` declares, else the one filed under its kind, else the host method of its kind.
Static methods are not among the places. -/
def methodSource (m : Machine) (v : Value) (name : String) : Option MethodSource :=
  let declared := (m.store.typeName? v).bind fun t =>
    m.methods.lookup (.named t) name .instanceMethod
  let ofKind := m.methods.lookup (.builtin v.tag) name .instanceMethod
  ((declared <|> ofKind).map .registered) <|> (Native.host? v.tag name).map .host

/-- The function an instance call of `name` on `v` invokes, before `v` is bound to it, or
the fault of a call that finds none. -/
def methodCell (m : Machine) (v : Value) (name : String) : Except Fault FunctionCell :=
  match m.methodSource v name with
  | none => .error (.undefinedMethod (m.store.label v) name)
  | some (.registered f) =>
      match m.store.function? f with
      | some c => .ok c
      | none => .error (.notCallable Tag.function.label)
  | some (.host n) => .ok (.ofNative n)

/-- The function a static call of `name` on `key` invokes, or the fault of a call that
finds none; only static methods filed under exactly `key` count. -/
def staticCell (m : Machine) (key : TypeKey) (name : String) : Except Fault FunctionCell :=
  match m.methods.lookup key name .staticMethod with
  | none => .error (.undefinedMethod key.text name)
  | some f =>
      match m.store.function? f with
      | some c => .ok c
      | none => .error (.notCallable Tag.function.label)

theorem methodCell_allocFunction {m : Machine} {v : Value} {name : String}
    {c : FunctionCell} (g : FunctionCell) (h : m.methodCell v name = .ok c) :
    ({ m with store := (m.store.allocFunction g).1 } : Machine).methodCell v name = .ok c := by
  have hsource : ({ m with store := (m.store.allocFunction g).1 } : Machine).methodSource v name =
      m.methodSource v name := by
    simp only [methodSource, Store.typeName?_allocFunction]
  unfold methodCell at h ⊢
  rw [hsource]
  cases hs : m.methodSource v name with
  | none => simp [hs] at h
  | some src =>
      rw [hs] at h
      cases src with
      | registered f =>
          cases hf : m.store.function? f with
          | none => simp [hf] at h
          | some c' =>
              -- the new function sits past every handle that was already live
              have hne : f ≠ m.store.functions.size := by
                rintro rfl
                simp [Store.function?_size] at hf
              simpa [Store.function?_allocFunction, hne, hf] using h
      | host n => exact h

theorem methodCell_fileMethod_static (m : Machine) (key : TypeKey) (name' : String) (f : Nat)
    (v : Value) (name : String) :
    (m.fileMethod key name' .staticMethod f).methodCell v name = m.methodCell v name := by
  simp [methodCell, methodSource, fileMethod, Registry.lookup_register]

theorem staticCell_fileMethod_instance (m : Machine) (key : TypeKey) (name' : String) (f : Nat)
    (key' : TypeKey) (name : String) :
    (m.fileMethod key name' .instanceMethod f).staticCell key' name = m.staticCell key' name := by
  simp [staticCell, fileMethod, Registry.lookup_register]

end Machine

theorem Registry.lookup_register_named_builtin (r : Registry) (s : String) (tag : Tag)
    (name name' : String) (kind kind' : MethodKind) (f : Nat) :
    (r.register (.named s) name kind f).1.lookup (.builtin tag) name' kind' =
        r.lookup (.builtin tag) name' kind' ∧
      (r.register (.builtin tag) name kind f).1.lookup (.named s) name' kind' =
        r.lookup (.named s) name' kind' := by
  simp [Registry.lookup_register]

/-! ## Each step of a call on a machine -/

namespace Run

theorem label_run (v : Value) (m : Machine) :
    (label v).run m = (.ok (m.store.label v), m) := by
  cases v with
  | object r =>
      simp only [label, objectName, store, run_bind, run_get, run_pure]
      cases h : (m.store.object? r).bind (·.name) <;>
        simp [Store.label, Store.typeName?, h, labelOf, Tag.label, Value.tag]
  | _ => rfl

theorem typeKeys_run (v : Value) (m : Machine) :
    (typeKeys v).run m =
      (.ok (match m.store.typeName? v with
        | some t => [.named t, .builtin v.tag]
        | none => [.builtin v.tag]), m) := by
  cases v with
  | object r =>
      simp only [typeKeys, objectName, store, run_bind, run_get, run_pure]
      cases h : (m.store.object? r).bind (·.name) <;>
        simp [Store.typeName?, h, typeKeysOf, Value.tag]
  | _ => rfl

/-- The keys a receiver is looked up under, most specific first, give exactly the three
places in their order. -/
theorem findMethod_run (v : Value) (name : String) (m : Machine) :
    (findMethod v name).run m = (.ok (m.methodSource v name), m) := by
  simp only [findMethod, run_bind, run_get, typeKeys_run, run_pure]
  congr
  simp only [Machine.findMethod, Machine.lookupInstance, Machine.methodSource]
  cases m.store.typeName? v with
  | none =>
      cases h : m.methods.lookup (.builtin v.tag) name .instanceMethod <;> simp [h]
  | some t =>
      cases h₁ : m.methods.lookup (.named t) name .instanceMethod <;>
        cases h₂ : m.methods.lookup (.builtin v.tag) name .instanceMethod <;> simp [h₁, h₂]

theorem function_run (r : Nat) (m : Machine) :
    (function r).run m =
      ((match m.store.function? r with
        | some c => .ok c
        | none => .error (.notCallable Tag.function.label)), m) := by
  simp only [function, store, run_bind, run_get, run_pure]
  cases m.store.function? r <;> rfl

theorem newFunction_run (c : FunctionCell) (m : Machine) :
    (newFunction c).run m =
      (.ok (.function m.store.functions.size),
        { m with store := (m.store.allocFunction c).1 }) := by
  cases m with
  | mk config methods store vars table output sink =>
      cases store
      rfl

theorem boundMethod_run (v : Value) (name : String) (m : Machine) :
    (boundMethod v name).run m = ((m.methodCell v name).map (·.bind v), m) := by
  simp only [boundMethod, run_bind, findMethod_run, Machine.methodCell]
  cases m.methodSource v name with
  | none =>
      simp only [run_bind, label_run, run_throw]
      rfl
  | some src =>
      cases src with
      | registered f =>
          simp only [sourceCell, run_bind, function_run]
          cases m.store.function? f <;> rfl
      | host n => rfl

theorem bindMethod_run (v : Value) (name : String) (m : Machine) :
    (bindMethod v name).run m =
      match m.methodCell v name with
      | .error e => (.error e, m)
      | .ok c => (.ok (.function m.store.functions.size),
          { m with store := (m.store.allocFunction (c.bind v)).1 }) := by
  simp only [bindMethod, run_bind, boundMethod_run]
  cases m.methodCell v name with
  | error e => rfl
  | ok c => exact newFunction_run (c.bind v) m

theorem staticMethod_run (key : TypeKey) (name : String) (m : Machine) :
    (staticMethod key name).run m = (m.staticCell key name, m) := by
  simp only [staticMethod, run_bind, run_get, Machine.lookupStatic, Machine.staticCell]
  cases m.methods.lookup key name .staticMethod with
  | none => rfl
  | some f => simp only [function_run]

end Run

/-! ## Calls -/

/-- A method call invokes the function found with the receiver in front of the
arguments, after the bound function's own count check; a call that finds nothing fails
and leaves the machine as it was. -/
theorem callMethod_run (fuel : Nat) (v : Value) (name : String) (args : List Value)
    (m : Machine) :
    (callMethod (fuel + 2) v name args).run m =
      match m.methodCell v name with
      | .error e => (.error e, m)
      | .ok c =>
          if args.length + 1 < c.least then
            (.error (.arity c.name (c.least - 1) (c.least - 1) args.length), m)
          else (invokeCell (fuel + 1) c (v :: args)).run m := by
  simp only [callMethod, Run.run_bind, Run.boundMethod_run]
  cases m.methodCell v name with
  | error e => rfl
  | ok c =>
      simp only [Except.map, invokeCell_bind]
      split <;> rfl

/-- A static call evaluates its arguments and invokes the static method found on the
machine they leave, with the arguments as they are. -/
theorem eval_callStatic_run (fuel : Nat) (frame : List Value) (name : String) (key : TypeKey)
    (argEs : List Expr) (m : Machine) :
    (eval (fuel + 1) frame (.callStatic name key argEs)).run m =
      match (argEs.mapM (eval fuel frame)).run m with
      | (.error e, m') => (.error e, m')
      | (.ok args, m') =>
          match m'.staticCell key name with
          | .error e => (.error e, m')
          | .ok c => (invokeCell fuel c args).run m' := by
  simp only [eval, Run.run_bind]
  cases (argEs.mapM (eval fuel frame)).run m with
  | mk result m' =>
      cases result with
      | error e => rfl
      | ok args =>
          simp only [Run.staticMethod_run]
          cases m'.staticCell key name <;> rfl

/-- Calling the function value that binding hands out, on the machine the binding left,
is the method call itself. -/
theorem callValue_bindMethod (fuel : Nat) (v : Value) (name : String) (args : List Value)
    (m : Machine) :
    (do let fn ← Run.bindMethod v name; callValue (fuel + 1) fn args).run m =
      match (Run.bindMethod v name).run m with
      | (.error e, m') => (.error e, m')
      | (.ok _, m') => (callMethod (fuel + 1) v name args).run m' := by
  rw [Run.run_bind, Run.bindMethod_run]
  cases hc : m.methodCell v name with
  | error e => rfl
  | ok c =>
      have hcell := Machine.methodCell_allocFunction (c.bind v) hc
      simp only [callValue, callMethod, Run.run_bind, Run.function_run, Run.boundMethod_run,
        hcell, Store.function?_allocFunction, if_pos]
      rfl

/-- Dispatch follows the registry as it stands when a call starts. An instance call
invokes, with the receiver in front of the arguments, the first function found under the
receiver's declared type, its kind, or the host, and fails naming the receiver's label,
changing nothing, when there is none. A static call invokes the static method filed under
exactly its key and name with its arguments unchanged, or fails naming the key as shown.
Static entries never answer an instance call, instance entries never answer a static call,
and a declared type never shares entries with a kind, even one whose label it spells. -/
theorem method_calls_resolve_in_order :
    (∀ (fuel : Nat) (v : Value) (name : String) (args : List Value) (m : Machine),
      (callMethod (fuel + 2) v name args).run m =
        match m.methodCell v name with
        | .error e => (.error e, m)
        | .ok c =>
            if args.length + 1 < c.least then
              (.error (.arity c.name (c.least - 1) (c.least - 1) args.length), m)
            else (invokeCell (fuel + 1) c (v :: args)).run m) ∧
    (∀ (fuel : Nat) (frame : List Value) (name : String) (key : TypeKey) (argEs : List Expr)
        (m : Machine),
      (eval (fuel + 1) frame (.callStatic name key argEs)).run m =
        match (argEs.mapM (eval fuel frame)).run m with
        | (.error e, m') => (.error e, m')
        | (.ok args, m') =>
            match m'.staticCell key name with
            | .error e => (.error e, m')
            | .ok c => (invokeCell fuel c args).run m') ∧
    (∀ (m : Machine) (key : TypeKey) (name' : String) (f : Nat) (v : Value) (name : String),
      (m.fileMethod key name' .staticMethod f).methodCell v name = m.methodCell v name) ∧
    (∀ (m : Machine) (key : TypeKey) (name' : String) (f : Nat) (key' : TypeKey) (name : String),
      (m.fileMethod key name' .instanceMethod f).staticCell key' name = m.staticCell key' name) ∧
    (∀ (r : Registry) (s : String) (tag : Tag) (name name' : String) (kind kind' : MethodKind)
        (f : Nat),
      (r.register (.named s) name kind f).1.lookup (.builtin tag) name' kind' =
          r.lookup (.builtin tag) name' kind' ∧
        (r.register (.builtin tag) name kind f).1.lookup (.named s) name' kind' =
          r.lookup (.named s) name' kind') :=
  ⟨callMethod_run, eval_callStatic_run, Machine.methodCell_fileMethod_static,
    Machine.staticCell_fileMethod_instance, Registry.lookup_register_named_builtin⟩

/-! ## Chains of bound receivers and method calls -/

theorem callMethod_of_methodCell {fuel : Nat} {v : Value} {name : String} {args : List Value}
    {m : Machine} {c : FunctionCell} (h : m.methodCell v name = .ok c) :
    (callMethod (fuel + 2) v name args).run m =
      if args.length + 1 < c.least then
        (.error (.arity c.name (c.least - 1) (c.least - 1) args.length), m)
      else (invokeCell (fuel + 1) c (v :: args)).run m := by
  rw [callMethod_run, h]

/-- Binding receivers `r₁, …, r_k` one after another and invoking the chain with `args` is
invoking the target with `r₁, …, r_k, args`, except where the target's own count check
fails on those: the chain then fails first, with the target's name, the target's count
less `k` (never below zero) and the count of `args` alone. Calling the value that binding
a method hands out is the method call, and the method call is the function found, called
with the receiver in front, up to those counts. -/
theorem bound_chain_flattens :
    (∀ (fuel : Nat) (f : FunctionCell) (rs args : List Value),
      invokeCell (fuel + 1) (f.bindAll rs) args =
        if args.length + rs.length < f.least then
          throw (.arity f.name (f.least - rs.length) (f.least - rs.length) args.length)
        else invokeCell (fuel + 1) f (rs ++ args)) ∧
    (∀ (fuel : Nat) (f : FunctionCell) (rs args : List Value),
      args.length + rs.length < f.least →
        invokeCell (fuel + 1) f (rs ++ args) =
          throw (.arity f.name f.least f.least (rs ++ args).length)) ∧
    (∀ (fuel : Nat) (v : Value) (name : String) (args : List Value) (m : Machine),
      (do let fn ← Run.bindMethod v name; callValue (fuel + 1) fn args).run m =
        match (Run.bindMethod v name).run m with
        | (.error e, m') => (.error e, m')
        | (.ok _, m') => (callMethod (fuel + 1) v name args).run m') ∧
    (∀ (fuel : Nat) (v : Value) (name : String) (args : List Value) (m : Machine)
        (c : FunctionCell),
      m.methodCell v name = .ok c →
        (callMethod (fuel + 2) v name args).run m =
          if args.length + 1 < c.least then
            (.error (.arity c.name (c.least - 1) (c.least - 1) args.length), m)
          else (invokeCell (fuel + 1) c (v :: args)).run m) := by
  refine ⟨invokeCell_bindAll, ?_, callValue_bindMethod,
    fun _ _ _ _ _ _ h => callMethod_of_methodCell h⟩
  intro fuel f rs args h
  apply invokeCell_of_lt
  rw [List.length_append]
  omega

/-- A closure of three arguments with one receiver bound is refused with one argument in
all, and the host `trim` of a text is what a machine without registrations finds. -/
theorem bound_chain_flattens_at_pair_and_trim :
    (([] : List Value).length + [Value.null].length <
        (FunctionCell.mk "pair" (some 3) (.closure .null)).least ∧
      invokeCell 1 (.mk "pair" (some 3) (.closure .null)) [.null] =
        throw (.arity "pair" 3 3 1)) ∧
    ((Machine.bare Config.default).methodCell (.string "hey") "trim" =
        .ok (.ofNative .stringTrim) ∧
      (callMethod 2 (.string "hey") "trim" []).run (Machine.bare Config.default) =
        if ([] : List Value).length + 1 < (FunctionCell.ofNative .stringTrim).least then
          (.error (.arity (FunctionCell.ofNative .stringTrim).name
            ((FunctionCell.ofNative .stringTrim).least - 1)
            ((FunctionCell.ofNative .stringTrim).least - 1) 0), Machine.bare Config.default)
        else (invokeCell 1 (.ofNative .stringTrim) [.string "hey"]).run
          (Machine.bare Config.default)) :=
  ⟨⟨by decide, bound_chain_flattens.2.1 0 (.mk "pair" (some 3) (.closure .null)) [.null] []
      (by decide)⟩,
    ⟨rfl, bound_chain_flattens.2.2.2 0 (.string "hey") "trim" [] (Machine.bare Config.default)
      (.ofNative .stringTrim) rfl⟩⟩

end ScriptHost
