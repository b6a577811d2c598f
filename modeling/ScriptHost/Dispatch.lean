import ScriptHost.Machine

/-!
# Method dispatch

An instance method of a receiver is the first function registered under one of the
receiver's type keys, most specific key first; failing that, the host method of the
receiver's kind with that name. Static methods are only ever found in the registry under
exactly the key asked for, and instance methods never stand in for them.
-/

namespace ScriptHost

inductive MethodSource where
  | registered (f : Nat)
  | host (n : Native)
  deriving DecidableEq, Repr

/-- Checks a call's argument count against the function and then, down a chain of bound
functions, against each target with its receiver put in front; gives the function at the
end of the chain with all the arguments it receives. Each check asks only for a least
count, so a chain fails at its outermost function whenever it fails at all. -/
def FunctionCell.admit : FunctionCell → List Value → Except Fault (FunctionCell × List Value)
  | .mk name arity call, args =>
    if args.length < arity.getD 0 then
      .error (.arity name (arity.getD 0) (arity.getD 0) args.length)
    else
      match call with
      | .bound recv target => target.admit (recv :: args)
      | _ => .ok (.mk name arity call, args)

namespace Machine

def lookupInstance (m : Machine) (keys : List TypeKey) (name : String) : Option Nat :=
  keys.findSome? fun k => m.methods.lookup k name .instanceMethod

def lookupStatic (m : Machine) (key : TypeKey) (name : String) : Option Nat :=
  m.methods.lookup key name .staticMethod

/-- Where an instance method call on a receiver with these keys and this kind goes. -/
def findMethod (m : Machine) (keys : List TypeKey) (tag : Tag) (name : String) :
    Option MethodSource :=
  match m.lookupInstance keys name with
  | some f => some (.registered f)
  | none => (Native.host? tag name).map .host

theorem findMethod_of_lookupInstance {m : Machine} {keys : List TypeKey} {tag : Tag} {name : String}
    {f : Nat} (h : m.lookupInstance keys name = some f) :
    m.findMethod keys tag name = some (.registered f) := by
  simp [findMethod, h]

theorem findMethod_of_lookupInstance_none {m : Machine} {keys : List TypeKey} {tag : Tag}
    {name : String} (h : m.lookupInstance keys name = none) :
    m.findMethod keys tag name = (Native.host? tag name).map .host := by
  simp [findMethod, h]

end Machine

namespace Run

def findMethod (v : Value) (name : String) : Run (Option MethodSource) := do
  return (← get).findMethod (← typeKeys v) v.tag name

/-- The function that a method source stands for: the registered one, or the host
method's own function. -/
def sourceCell : MethodSource → Run FunctionCell
  | .registered f => function f
  | .host n => return FunctionCell.ofNative n

/-- The instance method `name` of `v` with `v` bound as its receiver; when there is no
such method, the undefined-method fault that names the receiver's label. -/
def boundMethod (v : Value) (name : String) : Run FunctionCell := do
  match ← findMethod v name with
  | some src => return (← sourceCell src).bind v
  | none => throw (.undefinedMethod (← label v) name)

def bindMethod (v : Value) (name : String) : Run Value := do
  newFunction (← boundMethod v name)

/-- The static method filed under exactly `key` and `name`, or the undefined-method
fault that names the key as it is shown. -/
def staticMethod (key : TypeKey) (name : String) : Run FunctionCell := do
  match (← get).lookupStatic key name with
  | some f => function f
  | none => throw (.undefinedMethod key.text name)

end Run

end ScriptHost
