import ScriptHost.Value.Basic

/-!
# The store

Arrays, objects and functions live in the store and are reached by handles. A new one
is allocated at the end of its table, so handles stay valid and distinct; writes change
one entry and leave all others alone. Reading after a write gives the written entry at
its handle and the old entry elsewhere.
-/

namespace ScriptHost

/-- The tables of arrays, objects and functions. -/
structure Store where
  arrays : Array (Array Value)
  objects : Array ObjectCell
  functions : Array FunctionCell
  deriving Inhabited

namespace Store

def empty : Store := ⟨#[], #[], #[]⟩

def array? (s : Store) (r : Nat) : Option (Array Value) := s.arrays[r]?

def object? (s : Store) (r : Nat) : Option ObjectCell := s.objects[r]?

def function? (s : Store) (r : Nat) : Option FunctionCell := s.functions[r]?

/-! Each change takes the store apart before it touches a table, so that a table that
nothing else holds is changed in place rather than copied. -/

/-- Allocates an array; its handle is the next free one. -/
def allocArray : Store → Array Value → Store × Nat
  | ⟨arrays, objects, functions⟩, items =>
      let r := arrays.size
      (⟨arrays.push items, objects, functions⟩, r)

def allocObject : Store → ObjectCell → Store × Nat
  | ⟨arrays, objects, functions⟩, o =>
      let r := objects.size
      (⟨arrays, objects.push o, functions⟩, r)

def allocFunction : Store → FunctionCell → Store × Nat
  | ⟨arrays, objects, functions⟩, f =>
      let r := functions.size
      (⟨arrays, objects, functions.push f⟩, r)

/-- Changes the items of an array by `f`; a handle past the table changes nothing. -/
def updateArray : Store → Nat → (Array Value → Array Value) → Store
  | ⟨arrays, objects, functions⟩, r, f => ⟨arrays.modify r f, objects, functions⟩

def setObject : Store → Nat → ObjectCell → Store
  | ⟨arrays, objects, functions⟩, r, o => ⟨arrays, objects.setIfInBounds r o, functions⟩

@[simp] theorem array?_allocArray (s : Store) (items : Array Value) (r : Nat) :
    (s.allocArray items).1.array? r =
      if r = s.arrays.size then some items else s.array? r := by
  cases s
  simp only [allocArray, array?, Array.getElem?_push]

@[simp] theorem array?_updateArray (s : Store) (r r' : Nat) (f : Array Value → Array Value) :
    (s.updateArray r f).array? r' =
      if r = r' then (s.array? r').map f else s.array? r' := by
  cases s
  simp only [updateArray, array?, Array.getElem?_modify]

@[simp] theorem object?_updateArray (s : Store) (r r' : Nat) (f : Array Value → Array Value) :
    (s.updateArray r f).object? r' = s.object? r' := by
  cases s
  rfl

@[simp] theorem function?_updateArray (s : Store) (r r' : Nat)
    (f : Array Value → Array Value) :
    (s.updateArray r f).function? r' = s.function? r' := by
  cases s
  rfl

@[simp] theorem function?_allocFunction (s : Store) (f : FunctionCell) (r : Nat) :
    (s.allocFunction f).1.function? r =
      if r = s.functions.size then some f else s.function? r := by
  cases s
  simp only [allocFunction, function?, Array.getElem?_push]

end Store

end ScriptHost
