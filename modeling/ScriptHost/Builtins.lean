import ScriptHost.Dispatch
import ScriptHost.Number.Reading
import ScriptHost.Text.Case

/-!
# Built-in operations

The operations of the host library that never call back into scripts: the global
functions, membership, method registration, and the native methods whose work is done
on the receiver and its arguments alone. A native method first checks its argument
count, then the kind of its receiver, then the kinds of its arguments.
-/

namespace ScriptHost

def Value.ofNat (n : Nat) : Value :=
  .number (Float.ofNat n)

/-- The decimal places asked for by a number: its whole part, from 0 up to 100; NaN
and negative numbers ask for none. -/
def placesOf (d : Float) : Nat :=
  if Number.isNaN d || Number.isNegative d then 0
  else if Number.isInfinite d then 100
  else min 100 (Number.wholePart d)

/-- The number `x` rounded to `places` decimal places; no places, or a value that is not finite,
round toward zero. -/
def toFixed (x : Float) (places : Nat) : Float :=
  if places = 0 || !Number.isFinite x then Number.trunc x
  else Number.roundToPlaces x places

def Value.arrayRef? : Value → Option Nat
  | .array r => some r
  | _ => none

def Value.text? : Value → Option String
  | .string s => some s
  | _ => none

def Value.number? : Value → Option Float
  | .number x => some x
  | _ => none

namespace Run

def getVar (name : String) : Run Value := do
  return ((← get).vars.get? name).getD .null

def setVar (name : String) (v : Value) : Run Unit :=
  modify fun m => { m with vars := m.vars.insert name v }

/-- Runs a global function. `println` and `print` write one line per argument; `type`
takes exactly one argument and answers its type name. -/
def runGlobal (g : Global) (args : List Value) : Run Value := do
  match g with
  | .println | .print =>
      for v in args do
        writeLine (← display v)
      return .null
  | .typeOf =>
      checkCount "type" 1 1 args
      match args with
      | v :: _ => return .string v.tag.typeName
      | [] => return .null

/-- Membership of `needle` in `hay`: a text in a text, any value in an array (by
same-value-zero); other operands answer false or fail, as the configuration says. -/
def membership (op : String) (needle hay : Value) : Run Bool := do
  match needle, hay with
  | .string n, .string h => return Text.contains h n
  | _, .array r => return (← items r).any (·.sameValueZero needle)
  | _, _ =>
      match (← config).fallback with
      | .answerFalse => return false
      | .error => throw (.unsupportedOperands op needle.tag.typeName hay.tag.typeName)

def contains (needle hay : Value) : Run Bool :=
  membership "in" needle hay

/-- `needle not in hay`: the negation of membership, refused on the same operands under the
operator's own name. -/
def notContains (needle hay : Value) : Run Bool := do
  return !(← membership "not in" needle hay)

/-- Files a function as a method of the dispatch registry; anything else is refused as
not callable. -/
def registerMethod (key : TypeKey) (name : String) (callback : Value) (kind : MethodKind) :
    Run Unit := do
  match callback with
  | .function f => modify fun m => m.fileMethod key name kind f
  | other => throw (.notCallable (← label other))

/-- The receiver as what `view` reads off it, or a mismatch naming the method. -/
def expectReceiver {α : Type} (view : Value → Option α) (n : Native) (v : Value) : Run α := do
  match view v with
  | some a => return a
  | none => throw (.typeMismatch n.qualified n.receiverExpected (← label v))

def expectArray (n : Native) (v : Value) : Run Nat :=
  expectReceiver Value.arrayRef? n v

def expectString (n : Native) (v : Value) : Run String :=
  expectReceiver Value.text? n v

def expectNumber (n : Native) (v : Value) : Run Float :=
  expectReceiver Value.number? n v

def firstText (args : List Value) : Run String :=
  display (args.headD .null)

/-- Reverses the items of the array receiver where they are, and answers the receiver. -/
def reverseInPlace (n : Native) (recv : Value) : Run Value := do
  let r ← expectArray n recv
  modifyStore (·.updateArray r Array.reverse)
  return recv

/-- Runs a native method that calls nothing back, after its count has been checked. -/
def runPlain (n : Native) (recv : Value) (args : List Value) : Run Value := do
  match n with
  | .arrayLength => return .ofNat (← arrayAt (← expectArray n recv)).size
  | .arrayPush =>
      let r ← expectArray n recv
      modifyStore (·.updateArray r (· ++ args.toArray))
      return .ofNat (← arrayAt r).size
  | .arrayPop =>
      let r ← expectArray n recv
      match ← lastItem r with
      | some last =>
          modifyStore (·.updateArray r Array.pop)
          return last
      | none => return .null
  | .arrayReverse => reverseInPlace n recv
  | .arrayIncludes =>
      let xs ← items (← expectArray n recv)
      return .bool (xs.any (·.sameValueZero (args.headD .null)))
  | .arrayIndexOf =>
      let xs ← items (← expectArray n recv)
      match xs.findIdx? (·.hostEq (args.headD .null)) with
      | some i => return .ofNat i
      | none => return .number (-1)
  | .stringLength => return .ofNat (← expectString n recv).length
  | .stringIncludes | .stringContains =>
      let s ← expectString n recv
      return .bool (Text.contains s (← firstText args))
  | .stringToUpperCase | .stringToUpper => return .string (Text.toUpper (← expectString n recv))
  | .stringToLowerCase | .stringToLower => return .string (Text.toLower (← expectString n recv))
  | .stringStartsWith =>
      let s ← expectString n recv
      return .bool (Text.startsWith s (← firstText args))
  | .stringEndsWith =>
      let s ← expectString n recv
      return .bool (Text.endsWith s (← firstText args))
  | .stringTrim => return .string (Text.trim (← expectString n recv))
  | .numberToString => return .string (Number.format (← expectNumber n recv))
  | .arrayIsEmpty => return .bool (← arrayAt (← expectArray n recv)).isEmpty
  | .arrayIsNotEmpty => return .bool !(← arrayAt (← expectArray n recv)).isEmpty
  | .arrayReversed =>
      let copy ← newArray (← items (← expectArray n recv))
      -- the host's `reverse`, called on the copy with no arguments
      checkCount Native.arrayReverse.qualified 0 0 []
      reverseInPlace .arrayReverse copy
  | .arrayJoin =>
      let xs ← items (← expectArray n recv)
      let sep ← firstText args
      let texts ← xs.mapM display
      return .string (sep.intercalate texts)
  | .stringFinish =>
      let s ← expectString n recv
      let suffix ← firstText args
      if Text.endsWith s suffix then return recv else return .string (s ++ suffix)
  | .stringAppend =>
      let s ← expectString n recv
      return .string (s ++ (← firstText args))
  | .numberIsInteger => return .bool (Number.isWhole (← expectNumber n recv))
  | .numberIsFloat =>
      let x ← expectNumber n recv
      return .bool (Number.isFinite x && !Number.isWhole x)
  | .numberToFixed =>
      let x ← expectNumber n recv
      match args with
      | [] => return .number (toFixed x 0)
      | d :: _ =>
          match d with
          | .number p => return .number (toFixed x (placesOf p))
          | other => throw (.typeMismatch n.qualified "a number" (← label other))
  | .arrayEach | .arrayFirst | .arrayFilter | .arrayMap | .stringTap => return .null

end Run

end ScriptHost
