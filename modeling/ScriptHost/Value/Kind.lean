/-!
# Kinds of values and type keys

Every value has one of seven kinds. Methods are registered under a type key: a kind, or a type
name that a program declares for its objects; the two sorts of key never coincide.
-/

namespace ScriptHost

inductive Tag where
  | null
  | bool
  | number
  | string
  | array
  | object
  | function
  deriving DecidableEq, Repr, Inhabited

/-- The name of the kind, as programs write it (`Number.zero()`) and as messages show it. -/
def Tag.label : Tag → String
  | .null => "Null"
  | .bool => "Bool"
  | .number => "Number"
  | .string => "String"
  | .array => "Array"
  | .object => "Object"
  | .function => "Function"

/-- The name that the `type` operator reports: arrays and objects are both `object`,
and booleans are `bool`. -/
def Tag.typeName : Tag → String
  | .null => "null"
  | .bool => "bool"
  | .number => "number"
  | .string => "string"
  | .array => "object"
  | .object => "object"
  | .function => "function"

def Tag.all : List Tag :=
  [.null, .bool, .number, .string, .array, .object, .function]

def Tag.ofLabel? (s : String) : Option Tag :=
  Tag.all.find? (·.label == s)

/-- A key under which methods are registered. -/
inductive TypeKey where
  /-- the methods of every value of a kind -/
  | builtin (tag : Tag)
  /-- the methods of objects declared with this type name -/
  | named (name : String)
  deriving DecidableEq, Repr, Inhabited

def TypeKey.text : TypeKey → String
  | .builtin tag => tag.label
  | .named name => name

/-- A key with the sort spelled out, `builtin:Array` or `named:Point`. -/
def TypeKey.describe : TypeKey → String
  | .builtin tag => "builtin:" ++ tag.label
  | .named name => "named:" ++ name

theorem Tag.label_injective {a b : Tag} (h : a.label = b.label) : a = b := by
  cases a <;> cases b <;> simp_all [Tag.label]

theorem Tag.ofLabel?_label (t : Tag) : Tag.ofLabel? t.label = some t := by
  cases t <;> rfl

end ScriptHost
