import ScriptHost.Value.Shape
import ScriptHost.Registry
import ScriptHost.Config

/-!
# Machines

The state that a program's steps share, and `Run`, the evaluation that changes it and may
fail with a fault, keeping every change made before the failure.
-/

namespace ScriptHost

/-! ## Faults

Why an evaluation fails. Each fault has one message, built by `Fault.message`.
-/

inductive Fault where
  /-- membership on operands it does not support -/
  | unsupportedOperands (op left right : String)
  /-- no method of that name for the receiver or type -/
  | undefinedMethod (typeName method : String)
  | notIterable (label : String)
  | notCallable (label : String)
  /-- too few arguments, or too many where surplus ones are refused -/
  | arity (name : String) (least most received : Nat)
  /-- a receiver or argument of the wrong kind -/
  | typeMismatch (name expected found : String)
  | raised (message : String)
  /-- the output sink refused a line, with its input/output error -/
  | output (error : String)
  /-- the evaluation nested deeper than it may -/
  | exhausted
  deriving DecidableEq, Repr, Inhabited

/-- The argument counts a method expected: one number, or a range `least to most`. -/
def expectedText (least most : Nat) : String :=
  if least = most then toString least else toString least ++ " to " ++ toString most

def Fault.message : Fault → String
  | .unsupportedOperands op left right =>
      "unsupported operand kinds for `" ++ op ++ "`: " ++ left ++ " and " ++ right
  | .undefinedMethod typeName method => "undefined method: " ++ typeName ++ "." ++ method ++ "()"
  | .notIterable label => "unable to iterate over value of type " ++ label
  | .notCallable label => "value of type " ++ label ++ " is not callable"
  | .arity name least most received =>
      name ++ "() expected " ++ expectedText least most ++ " arguments, received " ++
        toString received
  | .typeMismatch name expected found => name ++ "() expected " ++ expected ++ ", found " ++ found
  | .raised message => message
  | .output error => "output sink failed: " ++ error
  | .exhausted => "evaluation nested too deeply"

/-! ## Machines -/

/-- Where printed lines are written: a sink that takes each line, or one whose every write
fails with the given input/output error. -/
inductive LineSink where
  | keeps
  | refuses (error : String)
  deriving DecidableEq, Repr, Inhabited

structure Machine where
  config : Config
  methods : Registry
  store : Store
  vars : OrderedMap String Value
  table : Registry
  output : Array String
  sink : LineSink := .keeps
  deriving Inhabited

/-- Evaluation: it changes the machine and may fail, keeping the changes made so far. -/
abbrev Run := ExceptT Fault (StateM Machine)

namespace Machine

def bare (config : Config) : Machine :=
  { config := config, methods := .empty, store := .empty, vars := .empty, table := .empty,
    output := #[] }

def fileMethod (m : Machine) (key : TypeKey) (name : String) (kind : MethodKind) (f : Nat) :
    Machine :=
  { m with methods := (m.methods.register key name kind f).1 }

/-- Allocates the function of a native method and files it as an instance method of its
kind. -/
def install (m : Machine) (n : Native) : Machine :=
  let (store, f) := m.store.allocFunction (FunctionCell.ofNative n)
  ({ m with store := store }).fileMethod (.builtin n.receiverTag) n.name .instanceMethod f

def withExtensions (config : Config) : Machine :=
  Native.extensionSet.foldl install (bare config)

def describe (m : Machine) : String :=
  "Runtime \x7b config: " ++ m.config.describe ++ ", methods: " ++ toString m.methods.size ++
    " \x7d"

end Machine

namespace Run

def store : Run Store := do
  return (← get).store

/-! The machine is taken apart before a change, as the store is, so that the part being
changed has no other holder and is changed in place. -/

def modifyGetStore {α : Type} (f : Store → α × Store) : Run α :=
  modifyGet fun ⟨config, methods, store, vars, table, output, sink⟩ =>
    let (a, store) := f store
    (a, ⟨config, methods, store, vars, table, output, sink⟩)

def modifyStore (f : Store → Store) : Run Unit :=
  modify fun ⟨config, methods, store, vars, table, output, sink⟩ =>
    ⟨config, methods, f store, vars, table, output, sink⟩

def newArray (items : List Value) : Run Value :=
  modifyGetStore fun s =>
    let (s, r) := s.allocArray items.toArray
    (.array r, s)

def newObject (o : ObjectCell) : Run Value :=
  modifyGetStore fun s =>
    let (s, r) := s.allocObject o
    (.object r, s)

def newFunction (f : FunctionCell) : Run Value :=
  modifyGetStore fun s =>
    let (s, r) := s.allocFunction f
    (.function r, s)

/-- Writes a line to the sink; a sink that refuses it fails the write with its error, and
nothing is written. -/
def writeLine (line : String) : Run Unit := do
  match (← get).sink with
  | .refuses error => throw (.output error)
  | .keeps =>
      modify fun ⟨config, methods, store, vars, table, output, sink⟩ =>
        ⟨config, methods, store, vars, table, output.push line, sink⟩

def display (v : Value) : Run String := do
  return (← store).display v

def objectName (r : Nat) : Run (Option String) := do
  return ((← store).object? r).bind (·.name)

def label (v : Value) : Run String := do
  match v with
  | .object r => return labelOf .object (← objectName r)
  | _ => return v.tag.label

def typeKeys (v : Value) : Run (List TypeKey) := do
  match v with
  | .object r => return typeKeysOf .object (← objectName r)
  | _ => return [.builtin v.tag]

def config : Run Config := do
  return (← get).config

/-- Fails unless the argument count lies in `[least, most]`; surplus arguments are
refused only under strict counts. -/
def checkCount (name : String) (least most : Nat) (args : List Value) : Run Unit := do
  let strict := (← config).strictArity
  if args.length < least || (strict && most < args.length) then
    throw (.arity name least most args.length)

def arrayAt (r : Nat) : Run (Array Value) := do
  return ((← store).array? r).getD #[]

/-- The last item of an array handle. It is read in a call of its own, so that nothing
holds the array any more when a change to the store follows. -/
@[noinline] def lastItem (r : Nat) : Run (Option Value) := do
  return (← arrayAt r).back?

/-- The items of an array handle as a list, which later changes to the array leave as
it is. -/
def items (r : Nat) : Run (List Value) := do
  return (← arrayAt r).toList

def function (r : Nat) : Run FunctionCell := do
  match (← store).function? r with
  | some f => return f
  | none => throw (.notCallable Tag.function.label)

end Run

end ScriptHost
