import ScriptHost.Script.Expr
import ScriptHost.Method.Native
import ScriptHost.Number.Binary
import ScriptHost.OrderedMap

/-!
# Values, functions and objects

A value is a scalar held inline or a handle to an array, an object or a function in the store;
handles share what they point to and compare by identity.
-/

namespace ScriptHost

/-- A value: a scalar, or a handle into the store. -/
inductive Value where
  | null
  | bool (b : Bool)
  | number (x : Float)
  | string (s : String)
  | array (ref : Nat)
  | object (ref : Nat)
  | function (ref : Nat)
  deriving Inhabited

def Value.tag : Value → Tag
  | .null => .null
  | .bool _ => .bool
  | .number _ => .number
  | .string _ => .string
  | .array _ => .array
  | .object _ => .object
  | .function _ => .function

mutual
inductive Callable where
  | native (g : Global)
  /-- a method of the library; its first argument is the receiver -/
  | method (m : Native)
  /-- a script closure; its body is evaluated with the call's arguments -/
  | closure (body : Expr)
  /-- the function `target` with `receiver` put before the arguments -/
  | bound (receiver : Value) (target : FunctionCell)

/-- A function: its name, the least number of arguments it takes when it checks, and
what calling it does. Functions never change once made, so a bound function may hold
its target itself. -/
inductive FunctionCell where
  | mk (name : String) (arity : Option Nat) (call : Callable)
end

instance : Inhabited Callable := ⟨.native .print⟩

instance : Inhabited FunctionCell := ⟨.mk "" none default⟩

def FunctionCell.name : FunctionCell → String
  | .mk n _ _ => n

def FunctionCell.arity : FunctionCell → Option Nat
  | .mk _ a _ => a

def FunctionCell.call : FunctionCell → Callable
  | .mk _ _ c => c

def Callable.kindName : Callable → String
  | .native _ => "native"
  | .method _ => "method"
  | .closure _ => "closure"
  | .bound _ _ => "bound"

def FunctionCell.ofNative (m : Native) : FunctionCell :=
  .mk m.name (some 1) (.method m)

def FunctionCell.ofGlobal (g : Global) : FunctionCell :=
  .mk g.name none (.native g)

/-- The function `f` with `receiver` supplied: the same name, one argument fewer (never below
zero). -/
def FunctionCell.bind (receiver : Value) (f : FunctionCell) : FunctionCell :=
  .mk f.name (f.arity.map (· - 1)) (.bound receiver f)

def FunctionCell.describe (f : FunctionCell) : String :=
  let arity := match f.arity with
    | some n => "Some(" ++ toString n ++ ")"
    | none => "None"
  "LagoonFunction(" ++ f.name ++ ", " ++ f.call.kindName ++ ", arity=" ++ arity ++ ")"

structure ObjectCell where
  name : Option String
  fields : List (String × Value)
  deriving Inhabited

def ObjectCell.get? (o : ObjectCell) (key : String) : Option Value :=
  (o.fields.find? (·.1 = key)).map (·.2)

/-- Writes a field: in place when present, at the end otherwise. -/
def ObjectCell.set (o : ObjectCell) (key : String) (v : Value) : ObjectCell :=
  { o with fields := OrderedMap.insertEntry key v o.fields }

/-- The keys that a value is looked up under for instance methods, most specific first:
a named object's type name, then its kind. -/
def typeKeysOf (tag : Tag) (name : Option String) : List TypeKey :=
  match tag, name with
  | .object, some n => [.named n, .builtin .object]
  | t, _ => [.builtin t]

def labelOf (tag : Tag) (name : Option String) : String :=
  match tag, name with
  | .object, some n => n
  | t, _ => t.label

/-- Truthiness: `null`, `false`, both zeros, NaN and the empty text are false; all
else, empty arrays and objects included, is true. -/
def Value.truthy : Value → Bool
  | .null => false
  | .bool b => b
  | .number x => !(Number.isZero x || Number.isNaN x)
  | .string s => !s.isEmpty
  | .array _ | .object _ | .function _ => true

/-- The host's equality: scalars by value (numbers as doubles compare, so NaN equals
nothing), handles by identity, values of different kinds never. -/
def Value.hostEq : Value → Value → Bool
  | .null, .null => true
  | .bool a, .bool b => a == b
  | .number a, .number b => Number.ieeeEq a b
  | .string a, .string b => a == b
  | .array a, .array b => a == b
  | .object a, .object b => a == b
  | .function a, .function b => a == b
  | _, _ => false

/-- Equality for membership: the host's, except that NaN matches NaN. -/
def Value.sameValueZero : Value → Value → Bool
  | .number a, .number b => Number.sameValueZero a b
  | a, b => a.hostEq b

end ScriptHost
