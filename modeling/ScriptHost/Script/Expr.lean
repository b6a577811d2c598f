import ScriptHost.Value.Kind

/-!
# Script expressions

Programs and callback bodies are expressions of one small language. Evaluation is
strict and left to right, and the first failure ends it. Literals build fresh values;
the other forms read and write variables, build functions, dispatch methods, and reach
every operation of the host library and of a standalone method registry.
-/

namespace ScriptHost

/-- Whether a registration is an instance method or a static one. -/
inductive MethodKind where
  | instanceMethod
  | staticMethod
  deriving DecidableEq, Repr, Inhabited

/-- An expression of the script language. -/
inductive Expr where
  | null
  | bool (b : Bool)
  | number (x : Float)
  | string (s : String)
  /-- a fresh array of the evaluated items -/
  | list (items : List Expr)
  /-- a fresh object, named when `name` is given; fields are set in order -/
  | object (fields : List (String × Expr)) (name : Option String)
  | var (name : String)
  | setVar (name : String) (value : Expr)
  /-- a callback argument, `null` when missing -/
  | arg (index : Nat)
  /-- a fresh array of all callback arguments -/
  | args
  /-- a fresh closure whose body is evaluated with the call's arguments -/
  | closure (name : String) (arity : Option Nat) (body : Expr)
  | global (name : String)
  | bind (receiver : Expr) (name : String)
  | callMethod (name : String) (receiver : Expr) (args : List Expr)
  | callStatic (name : String) (key : TypeKey) (args : List Expr)
  | call (callee : Expr) (args : List Expr)
  | raise (message : String)
  | seq (items : List Expr)
  | cond (test yes no : Expr)
  | not (e : Expr)
  | truthy (e : Expr)
  | eq (a b : Expr)
  | sameValueZero (a b : Expr)
  | lt (a b : Expr)
  | add (a b : Expr)
  | mod (a b : Expr)
  | println (items : List Expr)
  | print (items : List Expr)
  | typeOf (e : Expr)
  | contains (needle hay : Expr)
  | notContains (needle hay : Expr)
  | forEach (target visitor : Expr)
  | register (key : TypeKey) (name callback : Expr) (kind : MethodKind)
  | registered (key : TypeKey) (kind : MethodKind)
  | lookup (receiver : Expr) (name : String)
  | lookupStatic (key : TypeKey) (name : String)
  | resolve (receiver : Expr) (name : String)
  | typeLabel (e : Expr)
  | tag (e : Expr)
  | typeKeys (e : Expr)
  | isNull (e : Expr)
  | asBool (e : Expr)
  | receiverOf (e : Expr)
  | objectEmpty (e : Expr)
  | tableRegister (key : TypeKey) (name : String) (kind : MethodKind) (f : Expr)
  | tableLookup (key : TypeKey) (name : String) (kind : MethodKind)
  | tableNames (key : TypeKey) (kind : MethodKind)
  | tableKeys
  | tableSize
  | tableEmpty
  | tableDescriptor (key : TypeKey)
  | machineDebug
  | debug (e : Expr)
  | show (e : Expr)
  | functionDebug (e : Expr)
  | getField (obj : Expr) (key : String)
  | setField (obj : Expr) (key : String) (value : Expr)
  | fieldCount (obj : Expr)
  | getItem (arr index : Expr)
  | setItem (arr index value : Expr)
  | itemCount (arr : Expr)
  /-- a form that could not be read; evaluating it fails with the message -/
  | malformed (message : String)
  deriving Inhabited

end ScriptHost
