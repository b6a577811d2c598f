import ScriptHost.OrderedMap
import ScriptHost.Script.Expr

/-!
# Method registries

A registry files functions (by handle) under a type key, a method name and a kind,
instance or static. Each key has a descriptor, made at its first registration, that holds
the key and a method table with one map per kind; keys, and the names under each key and
kind, keep the order of their first registration, and a later registration of the same
triple replaces the function in place.
-/

namespace ScriptHost

/-- The methods registered under one type key. -/
structure MethodTable where
  instances : OrderedMap String Nat
  statics : OrderedMap String Nat
  deriving Inhabited

namespace MethodTable

def empty : MethodTable := ⟨.empty, .empty⟩

def part (t : MethodTable) : MethodKind → OrderedMap String Nat
  | .instanceMethod => t.instances
  | .staticMethod => t.statics

def insert (t : MethodTable) (kind : MethodKind) (name : String) (f : Nat) : MethodTable :=
  match kind with
  | .instanceMethod => { t with instances := t.instances.insert name f }
  | .staticMethod => { t with statics := t.statics.insert name f }

def size (t : MethodTable) : Nat :=
  t.instances.size + t.statics.size

@[simp] theorem part_insert (t : MethodTable) (kind kind' : MethodKind) (name : String) (f : Nat) :
    (t.insert kind name f).part kind' =
      if kind = kind' then (t.part kind').insert name f else t.part kind' := by
  cases kind <;> cases kind' <;> rfl

end MethodTable

structure TypeDescriptor where
  key : TypeKey
  methods : MethodTable
  deriving Inhabited

/-- The descriptor a key gets at its first registration. -/
def TypeDescriptor.new (key : TypeKey) : TypeDescriptor :=
  ⟨key, .empty⟩

/-- Functions filed by type key, method name and kind. -/
structure Registry where
  types : OrderedMap TypeKey TypeDescriptor
  deriving Inhabited

namespace Registry

def empty : Registry := ⟨.empty⟩

/-- The descriptor of a key, if anything was ever registered under it. -/
def descriptor? (r : Registry) (key : TypeKey) : Option TypeDescriptor :=
  r.types.get? key

def lookup (r : Registry) (key : TypeKey) (name : String) (kind : MethodKind) : Option Nat :=
  (r.descriptor? key).bind fun d => (d.methods.part kind).get? name

/-- Files `f`, returning the registry and the function it replaced, if any. -/
def register (r : Registry) (key : TypeKey) (name : String) (kind : MethodKind) (f : Nat) :
    Registry × Option Nat :=
  let d := (r.descriptor? key).getD (.new key)
  (⟨r.types.insert key { d with methods := d.methods.insert kind name f }⟩,
    r.lookup key name kind)

/-- The names filed under a key and kind, in order of first registration. -/
def names (r : Registry) (key : TypeKey) (kind : MethodKind) : List String :=
  match r.descriptor? key with
  | some d => (d.methods.part kind).keys
  | none => []

/-- The keys, in order of first registration. -/
def keys (r : Registry) : List TypeKey :=
  r.types.keys

/-- The number of methods over all keys and both kinds. -/
def size (r : Registry) : Nat :=
  (r.types.values.map (·.methods.size)).foldl (· + ·) 0

def isEmpty (r : Registry) : Bool :=
  r.size == 0

/-- A lookup after a registration finds the registered function for its triple and
what was there before for every other. -/
theorem lookup_register (r : Registry) (key key' : TypeKey) (name name' : String)
    (kind kind' : MethodKind) (f : Nat) :
    (r.register key name kind f).1.lookup key' name' kind' =
      if key = key' ∧ kind = kind' ∧ name = name' then some f
      else r.lookup key' name' kind' := by
  simp only [register, lookup, descriptor?, OrderedMap.get?_insert]
  by_cases hk : key = key'
  · subst hk
    cases r.types.get? key <;> by_cases hkind : kind = kind' <;> by_cases hn : name = name' <;>
      simp [hkind, hn, TypeDescriptor.new, MethodTable.empty, MethodTable.part_insert]
      <;> cases kind' <;> rfl
  · simp [hk]

end Registry

end ScriptHost
