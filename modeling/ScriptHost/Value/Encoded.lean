import ScriptHost.Value.Shape

/-!
# Encoded values

The form in which answers carry a value. Numbers that are whole, finite, at most `2^53`
in magnitude and not negative zero are integers; every other number is carried as its
display text, negative zero as `-0`. Arrays and objects carry their unfolded contents,
functions their name, and handles already open on the path a cycle mark.
-/

namespace ScriptHost

/-- A value as an answer carries it. -/
inductive Encoded where
  | null
  | bool (b : Bool)
  | int (n : Int)
  | num (text : String)
  | string (s : String)
  | array (items : List Encoded)
  | object (fields : List (String × Encoded)) (name : Option String)
  | function (name : String)
  | cycle (isObject : Bool)
  deriving Inhabited

def Encoded.ofNumber (x : Float) : Encoded :=
  if Number.isZero x && Number.isNegative x then .num "-0"
  else
    match Number.toInt? x with
    | some n => if n.natAbs ≤ Nat.pow 2 53 then .int n else .num (Number.format x)
    | none => .num (Number.format x)

mutual
def Shape.encode : Shape → Encoded
  | .null => .null
  | .bool b => .bool b
  | .number x => Encoded.ofNumber x
  | .string s => .string s
  | .function name => .function name
  | .array items => .array (Shape.encodeItems items)
  | .object name fields => .object (Shape.encodeFields fields) name
  | .cycle isObject => .cycle isObject

def Shape.encodeItems : List Shape → List Encoded
  | [] => []
  | x :: rest => x.encode :: Shape.encodeItems rest

def Shape.encodeFields : List (String × Shape) → List (String × Encoded)
  | [] => []
  | (k, x) :: rest => (k, x.encode) :: Shape.encodeFields rest
end

/-- The encoding of a value, unfolded with nothing open. -/
def Store.encode (s : Store) (v : Value) : Encoded :=
  (s.unfold [] v).encode

end ScriptHost
