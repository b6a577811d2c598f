import ScriptHost.Value.Kind

/-!
# Native methods and global functions

The methods that the library implements itself. The host methods answer for every
value of their kind whenever no registered method of the same name is found; the
extension set is registered into a new machine's tables, so it can be replaced or left
out. Each method has a qualified name for messages and the range of argument counts it
accepts, the receiver not counted.
-/

namespace ScriptHost

/-- A method implemented by the library. -/
inductive Native where
  | arrayLength
  | arrayPush
  | arrayPop
  | arrayReverse
  | arrayIncludes
  | arrayIndexOf
  | stringLength
  | stringIncludes
  | stringToUpperCase
  | stringToLowerCase
  | stringStartsWith
  | stringEndsWith
  | stringTrim
  | numberToString
  | arrayIsEmpty
  | arrayIsNotEmpty
  | arrayEach
  | arrayFirst
  | arrayReversed
  | arrayJoin
  | arrayFilter
  | arrayMap
  | stringContains
  | stringFinish
  | stringAppend
  | stringTap
  | stringToUpper
  | stringToLower
  | numberIsInteger
  | numberIsFloat
  | numberToFixed
  deriving DecidableEq, Repr, Inhabited

def Native.receiverTag : Native → Tag
  | .arrayLength | .arrayPush | .arrayPop | .arrayReverse | .arrayIncludes | .arrayIndexOf
  | .arrayIsEmpty | .arrayIsNotEmpty | .arrayEach | .arrayFirst | .arrayReversed | .arrayJoin
  | .arrayFilter | .arrayMap => .array
  | .stringLength | .stringIncludes | .stringToUpperCase | .stringToLowerCase
  | .stringStartsWith | .stringEndsWith | .stringTrim | .stringContains | .stringFinish
  | .stringAppend | .stringTap | .stringToUpper | .stringToLower => .string
  | .numberToString | .numberIsInteger | .numberIsFloat | .numberToFixed => .number

def Native.name : Native → String
  | .arrayLength => "length"
  | .arrayPush => "push"
  | .arrayPop => "pop"
  | .arrayReverse => "reverse"
  | .arrayIncludes => "includes"
  | .arrayIndexOf => "indexOf"
  | .stringLength => "length"
  | .stringIncludes => "includes"
  | .stringToUpperCase => "toUpperCase"
  | .stringToLowerCase => "toLowerCase"
  | .stringStartsWith => "startsWith"
  | .stringEndsWith => "endsWith"
  | .stringTrim => "trim"
  | .numberToString => "toString"
  | .arrayIsEmpty => "isEmpty"
  | .arrayIsNotEmpty => "isNotEmpty"
  | .arrayEach => "each"
  | .arrayFirst => "first"
  | .arrayReversed => "reverse"
  | .arrayJoin => "join"
  | .arrayFilter => "filter"
  | .arrayMap => "map"
  | .stringContains => "contains"
  | .stringFinish => "finish"
  | .stringAppend => "append"
  | .stringTap => "tap"
  | .stringToUpper => "toUpper"
  | .stringToLower => "toLower"
  | .numberIsInteger => "isInteger"
  | .numberIsFloat => "isFloat"
  | .numberToFixed => "toFixed"

/-- The name that messages give the method, `Kind.name`. -/
def Native.qualified (m : Native) : String :=
  m.receiverTag.label ++ "." ++ m.name

/-- The argument counts the method accepts, `(least, most)`; `push` takes any number
and checks none. -/
def Native.range? : Native → Option (Nat × Nat)
  | .arrayPush => none
  | .arrayIncludes | .arrayIndexOf | .stringIncludes | .stringStartsWith | .stringEndsWith
  | .arrayEach | .arrayJoin | .arrayFilter | .arrayMap | .stringContains | .stringFinish
  | .stringAppend => some (1, 1)
  | .arrayFirst | .stringTap | .numberToFixed => some (0, 1)
  | _ => some (0, 0)

/-- How a mismatched receiver is described: the host methods ask for "an array
receiver", the number methods of the extension set for "a number". -/
def Native.receiverExpected (m : Native) : String :=
  match m with
  | .numberIsInteger | .numberIsFloat | .numberToFixed => "a number"
  | _ =>
      match m.receiverTag with
      | .array => "an array receiver"
      | .string => "a string receiver"
      | _ => "a number receiver"

/-- The host method of a kind with the given name. -/
def Native.host? : Tag → String → Option Native
  | .array, "length" => some .arrayLength
  | .array, "push" => some .arrayPush
  | .array, "pop" => some .arrayPop
  | .array, "reverse" => some .arrayReverse
  | .array, "includes" => some .arrayIncludes
  | .array, "indexOf" => some .arrayIndexOf
  | .string, "length" => some .stringLength
  | .string, "includes" => some .stringIncludes
  | .string, "toUpperCase" => some .stringToUpperCase
  | .string, "toLowerCase" => some .stringToLowerCase
  | .string, "startsWith" => some .stringStartsWith
  | .string, "endsWith" => some .stringEndsWith
  | .string, "trim" => some .stringTrim
  | .number, "toString" => some .numberToString
  | _, _ => none

/-- The extension set, in the order it is registered. -/
def Native.extensionSet : List Native :=
  [.arrayIsEmpty, .arrayIsNotEmpty, .arrayEach, .arrayFirst, .arrayReversed, .arrayJoin,
   .arrayFilter, .arrayMap,
   .stringContains, .stringStartsWith, .stringEndsWith, .stringFinish, .stringAppend,
   .stringTap, .stringToUpper, .stringToLower,
   .numberIsInteger, .numberIsFloat, .numberToFixed]

inductive Global where
  | println
  | print
  | typeOf
  deriving DecidableEq, Repr, Inhabited

def Global.name : Global → String
  | .println => "println"
  | .print => "print"
  | .typeOf => "type"

def Global.ofName? : String → Option Global
  | "println" => some .println
  | "print" => some .print
  | "type" => some .typeOf
  | _ => none

end ScriptHost
