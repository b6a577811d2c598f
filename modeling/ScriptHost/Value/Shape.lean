import ScriptHost.Store
import ScriptHost.Number.Text
import ScriptHost.Text.Printable

/-!
# Shapes and display text

A value's shape is the tree its handles unfold to, given the path of handles open above it;
answers are encoded from it. Display text is written as the library writes it, with the open
handles on a stack that each array or object pushes and pops.
-/

namespace ScriptHost

/-- An array or object handle, as it stands on the path of open handles. -/
inductive Handle where
  | array (ref : Nat)
  | object (ref : Nat)
  deriving DecidableEq, Repr

/-- A value unfolded into a tree. -/
inductive Shape where
  | null
  | bool (b : Bool)
  | number (x : Float)
  | string (s : String)
  | function (name : String)
  | array (items : List Shape)
  | object (name : Option String) (fields : List (String × Shape))
  /-- an array (`isObject = false`) or object already open on the path -/
  | cycle (isObject : Bool)
  deriving Inhabited

namespace Store

/-- Every array and object handle of the store. -/
def handles (s : Store) : List Handle :=
  (List.range s.arrays.size).map .array ++ (List.range s.objects.size).map .object

/-- How many of the store's handles are not on the path. -/
def unopened (s : Store) (path : List Handle) : Nat :=
  (s.handles.filter fun h => !path.contains h).length

theorem length_filter_lt {α : Type} (l : List α) (p q : α → Bool)
    (hqp : ∀ x, q x = true → p x = true) (x : α) (hx : x ∈ l) (hpx : p x = true)
    (hqx : q x = false) :
    (l.filter q).length < (l.filter p).length := by
  induction l with
  | nil => cases hx
  | cons a rest ih =>
      have hle : (rest.filter q).length ≤ (rest.filter p).length := by
        rw [← List.countP_eq_length_filter, ← List.countP_eq_length_filter]
        exact List.countP_mono_left fun y _ hy => hqp y hy
      rcases List.mem_cons.mp hx with h | h
      · subst h
        simp [hpx, hqx]
        omega
      · have := ih h
        by_cases ha : q a = true
        · simp [ha, hqp a ha]
          omega
        · by_cases hpa : p a = true
          · simp [ha, hpa]
            omega
          · simp [ha, hpa]
            omega

/-- Opening a handle of the store that is not yet on the path leaves fewer unopened. -/
theorem unopened_cons_lt (s : Store) (path : List Handle) (h : Handle) (hs : h ∈ s.handles)
    (hn : h ∉ path) : s.unopened (h :: path) < s.unopened path := by
  unfold unopened
  apply length_filter_lt s.handles _ _ _ h hs
  · simpa using hn
  · simp
  · intro y hy
    simp only [List.contains_cons, Bool.not_or, Bool.and_eq_true] at hy
    exact hy.2

theorem array_mem_handles {s : Store} {r : Nat} {items : Array Value}
    (h : s.array? r = some items) :
    Handle.array r ∈ s.handles := by
  have hr : r < s.arrays.size := by
    simp only [array?] at h
    exact (Array.getElem?_eq_some_iff.mp h).1
  simp [handles, hr]

theorem object_mem_handles {s : Store} {r : Nat} {o : ObjectCell} (h : s.object? r = some o) :
    Handle.object r ∈ s.handles := by
  have hr : r < s.objects.size := by
    simp only [object?] at h
    exact (Array.getElem?_eq_some_iff.mp h).1
  simp [handles, hr]

def functionName (s : Store) (r : Nat) : String :=
  match s.function? r with
  | some f => f.name
  | none => ""

set_option linter.unusedVariables false in
/-- Unfolds a value with `path` open: a handle on the path is a cycle mark; any other
array or object unfolds its current contents with itself added to the path. -/
def unfold (s : Store) (path : List Handle) : Value → Shape
  | .null => .null
  | .bool b => .bool b
  | .number x => .number x
  | .string t => .string t
  | .function r => .function (s.functionName r)
  | .array r =>
      if hp : path.contains (.array r) then .cycle false
      else
        match hr : s.array? r with
        | none => .cycle false
        | some items =>
            .array (items.toList.map fun v => s.unfold (.array r :: path) v)
  | .object r =>
      if hp : path.contains (.object r) then .cycle true
      else
        match hr : s.object? r with
        | none => .cycle true
        | some o =>
            .object o.name (o.fields.map fun (k, v) => (k, s.unfold (.object r :: path) v))
termination_by _ => s.unopened path
decreasing_by
  · exact unopened_cons_lt s path _ (array_mem_handles hr) (by simpa using hp)
  · exact unopened_cons_lt s path _ (object_mem_handles hr) (by simpa using hp)

end Store

mutual
/-- The display text of a shape: scalars as themselves, `<name>` for a function, items
between brackets and fields between braces after an object's type name, all separated by
`, `; `[...]` and `{...}` mark cycles. -/
def Shape.text : Shape → String
  | .null => "null"
  | .bool b => if b then "true" else "false"
  | .number x => Number.format x
  | .string s => s
  | .function name => "<" ++ name ++ ">"
  | .array items => "[" ++ Shape.itemsText items ++ "]"
  | .object name fields =>
      (match name with
        | some n => n ++ " "
        | none => "") ++ "\x7b" ++ Shape.fieldsText fields ++ "\x7d"
  | .cycle isObject => if isObject then "\x7b...\x7d" else "[...]"

def Shape.itemsText : List Shape → String
  | [] => ""
  | [x] => x.text
  | x :: rest => x.text ++ ", " ++ Shape.itemsText rest

def Shape.fieldsText : List (String × Shape) → String
  | [] => ""
  | [(k, x)] => k ++ ": " ++ x.text
  | (k, x) :: rest => k ++ ": " ++ x.text ++ ", " ++ Shape.fieldsText rest
end

/-- What writing a value keeps: the text so far and the stack of handles open on the way
down, the innermost first. -/
structure Writing where
  text : String
  opened : List Handle

namespace Writing

def emit (t : String) : StateM Writing Unit :=
  modify fun w => { w with text := w.text ++ t }

def push (h : Handle) : StateM Writing Unit :=
  modify fun w => { w with opened := h :: w.opened }

def pop : StateM Writing Unit :=
  modify fun w => { w with opened := w.opened.tail }

def isOpen (h : Handle) : StateM Writing Bool := do
  return (← get).opened.contains h

/-- Writes each of `xs` with `each`, with `", "` before all but the first. -/
def separated {α : Type} (xs : List α) (each : α → StateM Writing Unit) :
    StateM Writing Unit :=
  for (x, i) in xs.zipIdx do
    if i > 0 then emit ", "
    each x

end Writing

/-- The text of a value that holds no items, as `write_scalar` writes it. -/
def Store.scalarText (s : Store) : Value → String
  | .null => "null"
  | .bool b => if b then "true" else "false"
  | .number x => Number.format x
  | .string t => t
  | .function r => "<" ++ s.functionName r ++ ">"
  | .array _ => "[...]"
  | .object _ => "\x7b...\x7d"

/-- Writes a value as `write_value` does: a handle on the open stack writes its cycle mark; any
other array or object is pushed, writes its current items, or its type name and fields, and is
popped again. Each level takes one unit of `fuel`. -/
def Store.write (s : Store) : Nat → Value → StateM Writing Unit
  | 0, _ => pure ()
  | fuel + 1, v =>
      match v with
      | .array r => do
          if ← Writing.isOpen (.array r) then Writing.emit "[...]"
          else
            match s.array? r with
            | none => Writing.emit "[...]"
            | some items =>
                Writing.push (.array r)
                Writing.emit "["
                Writing.separated items.toList (s.write fuel)
                Writing.emit "]"
                Writing.pop
      | .object r => do
          if ← Writing.isOpen (.object r) then Writing.emit "\x7b...\x7d"
          else
            match s.object? r with
            | none => Writing.emit "\x7b...\x7d"
            | some o =>
                Writing.push (.object r)
                Writing.emit ((o.name.map (· ++ " ")).getD "" ++ "\x7b")
                Writing.separated o.fields fun (k, x) => do
                  Writing.emit (k ++ ": ")
                  s.write fuel x
                Writing.emit "\x7d"
                Writing.pop
      | _ => Writing.emit (s.scalarText v)

/-- The display text of a value: written with nothing open, with more levels than the store
has handles. -/
def Store.display (s : Store) (v : Value) : String :=
  ((s.write (s.arrays.size + s.objects.size + 1) v).run ⟨"", []⟩).2.text

/-- The debug form of a value: its kind and its display text, a text quoted. -/
def Store.debug (s : Store) (v : Value) : String :=
  match v with
  | .string t => "Value(String, " ++ Text.quote t ++ ")"
  | _ => "Value(" ++ v.tag.label ++ ", " ++ s.display v ++ ")"

end ScriptHost
