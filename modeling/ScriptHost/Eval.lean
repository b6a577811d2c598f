import ScriptHost.Builtins

/-!
# Evaluation

Expressions, calls and the native methods that call back into scripts are evaluated together,
each step one level deeper than its caller; the depth is bounded by a fuel argument, and
running out of it is the fault `exhausted`.
-/

namespace ScriptHost

/-- How deep evaluation may nest. A script call takes a few levels, so tens of millions of
nested calls fit. -/
def depthLimit : Nat := 100000000

namespace Run

/-- The number that an operand of the arithmetic helpers must be. -/
def expectOperand : Value → Run Float
  | .number x => return x
  | _ => throw (.raised "driver: number expected")

def newTexts (xs : List String) : Run Value :=
  newArray (xs.map .string)

def functionOrNull : Option Nat → Value
  | some f => .function f
  | none => .null

def expectObjectRef : Value → Run Nat
  | .object r => return r
  | _ => throw (.raised "driver: object expected")

def expectArrayRef : Value → Run Nat
  | .array r => return r
  | _ => throw (.raised "driver: array expected")

def expectFunctionRef : Value → Run Nat
  | .function r => return r
  | _ => throw (.raised "driver: function expected")

def objectAt (r : Nat) : Run ObjectCell := do
  return ((← store).object? r).getD ⟨none, []⟩

/-- An index given as a number: its whole part, negative numbers and NaN as zero. -/
def indexOf (x : Float) : Nat :=
  if Number.isNaN x || Number.isNegative x then 0 else Number.wholePart x

/-- A descriptor of the standalone registry as a fresh object. -/
def descriptorObject (d : TypeDescriptor) : Run Value := do
  let inst ← newTexts d.methods.instances.keys
  let stat ← newTexts d.methods.statics.keys
  newObject ⟨none, [("key", .string d.key.describe), ("len", .ofNat d.methods.size),
    ("empty", .bool (d.methods.size == 0)), ("instance", inst), ("static", stat)]⟩

/-- The work of a native method once its argument count has been checked. The methods that
take a callback call it through `call`; the others do not call back at all. -/
def nativeWork (call : Value → List Value → Run Value) (n : Native) (recv : Value)
    (args : List Value) : Run Value := do
  match n with
  | .arrayEach =>
      let xs ← items (← expectArray n recv)
      let cb := args.headD .null
      for x in xs do
        discard <| call cb [x]
      return .null
  | .arrayFirst =>
      let xs ← items (← expectArray n recv)
      match args with
      | cb :: _ =>
          let found ← xs.findM? fun x => do return (← call cb [x]).truthy
          return found.getD .null
      | [] => return xs.headD .null
  | .arrayFilter =>
      let xs ← items (← expectArray n recv)
      let cb := args.headD .null
      let kept ← xs.filterM fun x => do return (← call cb [x]).truthy
      newArray kept
  | .arrayMap =>
      let xs ← items (← expectArray n recv)
      let cb := args.headD .null
      newArray (← xs.mapM fun x => call cb [x])
  | .stringTap =>
      discard <| expectString n recv
      match args with
      | cb :: _ => discard <| call cb [recv]
      | [] => pure ()
      return recv
  | _ => runPlain n recv args

end Run

open Run in
mutual

/-- Evaluates an expression; `frame` holds the arguments of the callback being run. -/
def eval : Nat → List Value → Expr → Run Value
  | 0, _, _ => throw .exhausted
  | fuel + 1, frame, e =>
    match e with
    | .null => return .null
    | .bool b => return .bool b
    | .number x => return .number x
    | .string s => return .string s
    | .list items => do newArray (← items.mapM (eval fuel frame))
    | .object fields name => do
        let mut o : ObjectCell := ⟨name, []⟩
        for (k, ve) in fields do
          let v ← eval fuel frame ve
          o := o.set k v
        newObject o
    | .var name => getVar name
    | .setVar name ve => do
        let v ← eval fuel frame ve
        setVar name v
        return v
    | .arg i => return frame.getD i .null
    | .args => newArray frame
    | .closure name arity body => newFunction (.mk name arity (.closure body))
    | .global name =>
        match Global.ofName? name with
        | some g => newFunction (FunctionCell.ofGlobal g)
        | none => return .null
    | .bind re name => do bindMethod (← eval fuel frame re) name
    | .callMethod name re argEs => do
        let recv ← eval fuel frame re
        let args ← argEs.mapM (eval fuel frame)
        callMethod fuel recv name args
    | .callStatic name key argEs => do
        let args ← argEs.mapM (eval fuel frame)
        invokeCell fuel (← staticMethod key name) args
    | .call ce argEs => do
        let callee ← eval fuel frame ce
        let args ← argEs.mapM (eval fuel frame)
        callValue fuel callee args
    | .raise message => throw (.raised message)
    | .seq items => do
        let vs ← items.mapM (eval fuel frame)
        return vs.getLastD .null
    | .cond test yes no => do
        if (← eval fuel frame test).truthy then eval fuel frame yes else eval fuel frame no
    | .not a => do return .bool !(← eval fuel frame a).truthy
    | .truthy a => do return .bool (← eval fuel frame a).truthy
    | .eq a b => do
        let x ← eval fuel frame a
        let y ← eval fuel frame b
        return .bool (x.hostEq y)
    | .sameValueZero a b => do
        let x ← eval fuel frame a
        let y ← eval fuel frame b
        return .bool (x.sameValueZero y)
    | .lt a b => do
        let x ← expectOperand (← eval fuel frame a)
        let y ← expectOperand (← eval fuel frame b)
        return .bool (decide (x < y))
    | .add a b => do
        let x ← expectOperand (← eval fuel frame a)
        let y ← expectOperand (← eval fuel frame b)
        return .number (x + y)
    | .mod a b => do
        let x ← expectOperand (← eval fuel frame a)
        let y ← expectOperand (← eval fuel frame b)
        return .number (Number.remainder x y)
    | .println items => do runGlobal .println (← items.mapM (eval fuel frame))
    | .print items => do runGlobal .print (← items.mapM (eval fuel frame))
    | .typeOf a => do return .string (← eval fuel frame a).tag.typeName
    | .contains n h => do
        let x ← eval fuel frame n
        let y ← eval fuel frame h
        return .bool (← contains x y)
    | .notContains n h => do
        let x ← eval fuel frame n
        let y ← eval fuel frame h
        return .bool (← notContains x y)
    | .forEach t v => do
        let target ← eval fuel frame t
        let visitor ← eval fuel frame v
        forEach fuel target visitor
        return .null
    | .register key ne ce kind => do
        match ← eval fuel frame ne with
        | .string name =>
            let cb ← eval fuel frame ce
            registerMethod key name cb kind
            return .null
        | _ => throw (.raised "driver: string expected")
    | .registered key kind => do newTexts ((← get).methods.names key kind)
    | .lookup re name => do
        let recv ← eval fuel frame re
        return functionOrNull ((← get).lookupInstance (← typeKeys recv) name)
    | .lookupStatic key name => do return functionOrNull ((← get).lookupStatic key name)
    | .resolve re name => do
        let recv ← eval fuel frame re
        match ← findMethod recv name with
        | some (.registered f) => return .function f
        | some (.host n) => newFunction (FunctionCell.ofNative n)
        | none => return .null
    | .typeLabel a => do return .string (← label (← eval fuel frame a))
    | .tag a => do return .string (← eval fuel frame a).tag.label
    | .typeKeys a => do newTexts ((← typeKeys (← eval fuel frame a)).map TypeKey.describe)
    | .isNull a => do
        match ← eval fuel frame a with
        | .null => return .bool true
        | _ => return .bool false
    | .asBool a => do
        match ← eval fuel frame a with
        | .bool b => return .bool b
        | _ => return .null
    | .receiverOf a => do
        let f ← function (← expectFunctionRef (← eval fuel frame a))
        match f.call with
        | .bound recv _ => return recv
        | _ => return .null
    | .objectEmpty a => do
        let o ← objectAt (← expectObjectRef (← eval fuel frame a))
        return .bool o.fields.isEmpty
    | .tableRegister key name kind fe => do
        let f ← expectFunctionRef (← eval fuel frame fe)
        let m ← get
        let (table, previous) := m.table.register key name kind f
        set { m with table := table }
        return functionOrNull previous
    | .tableLookup key name kind => do return functionOrNull ((← get).table.lookup key name kind)
    | .tableNames key kind => do newTexts ((← get).table.names key kind)
    | .tableKeys => do newTexts ((← get).table.keys.map TypeKey.describe)
    | .tableSize => do return .ofNat (← get).table.size
    | .tableEmpty => do return .bool (← get).table.isEmpty
    | .tableDescriptor key => do
        match (← get).table.descriptor? key with
        | some d => descriptorObject d
        | none => return .null
    | .machineDebug => do return .string (← get).describe
    | .debug a => do
        let v ← eval fuel frame a
        return .string ((← store).debug v)
    | .show a => do return .string (← display (← eval fuel frame a))
    | .functionDebug a => do
        let f ← function (← expectFunctionRef (← eval fuel frame a))
        return .string f.describe
    | .getField oe key => do
        let o ← objectAt (← expectObjectRef (← eval fuel frame oe))
        return (o.get? key).getD .null
    | .setField oe key ve => do
        let r ← expectObjectRef (← eval fuel frame oe)
        let v ← eval fuel frame ve
        let o ← objectAt r
        modifyStore (·.setObject r (o.set key v))
        return (o.get? key).getD .null
    | .fieldCount oe => do
        let o ← objectAt (← expectObjectRef (← eval fuel frame oe))
        return .ofNat o.fields.length
    | .getItem ae ie => do
        let r ← expectArrayRef (← eval fuel frame ae)
        let i ← expectOperand (← eval fuel frame ie)
        return (← arrayAt r).getD (indexOf i) .null
    | .setItem ae ie ve => do
        let r ← expectArrayRef (← eval fuel frame ae)
        let i ← expectOperand (← eval fuel frame ie)
        let v ← eval fuel frame ve
        if indexOf i < (← arrayAt r).size then
          modifyStore (·.updateArray r (·.setIfInBounds (indexOf i) v))
          return .bool true
        else return .bool false
    | .itemCount ae => do
        let r ← expectArrayRef (← eval fuel frame ae)
        return .ofNat (← arrayAt r).size
    | .malformed message => throw (.raised message)

def callValue : Nat → Value → List Value → Run Value
  | 0, _, _ => throw .exhausted
  | fuel + 1, callee, args =>
    match callee with
    | .function r => do invokeCell fuel (← function r) args
    | other => do throw (.notCallable (← label other))

/-- Invokes a function: the argument counts down its chain of bound functions are
checked first, then the function at the end of the chain runs with the receivers in
front of the arguments. -/
def invokeCell : Nat → FunctionCell → List Value → Run Value
  | 0, _, _ => throw .exhausted
  | fuel + 1, f, args => do
    match f.admit args with
    | .error e => throw e
    | .ok (g, full) =>
        match g.call with
        | .native n => runGlobal n full
        | .method n =>
            match full with
            | recv :: rest => runNative fuel n recv rest
            | [] => throw (.arity g.name 1 1 0)
        | .closure body => eval fuel full body
        | .bound _ _ => throw (.notCallable Tag.function.label)

def callMethod : Nat → Value → String → List Value → Run Value
  | 0, _, _, _ => throw .exhausted
  | fuel + 1, recv, name, args => do invokeCell fuel (← boundMethod recv name) args

/-- Calls `visitor` with each item of the array `target` held at the start and its
index. -/
def forEach : Nat → Value → Value → Run Unit
  | 0, _, _ => throw .exhausted
  | fuel + 1, target, visitor => do
    let xs ← match target with
      | .array r => items r
      | other => throw (.notIterable (← label other))
    match visitor with
    | .function _ => pure ()
    | other => throw (.notCallable (← label other))
    for (x, i) in xs.zipIdx do
      discard <| callValue fuel visitor [x, .ofNat i]

/-- Runs a native method on a receiver: the count check, then the method itself. -/
def runNative : Nat → Native → Value → List Value → Run Value
  | 0, _, _, _ => throw .exhausted
  | fuel + 1, n, recv, args => do
    if let some (least, most) := n.range? then
      checkCount n.qualified least most args
    nativeWork (callValue fuel) n recv args

end

end ScriptHost
