import ScriptHost.Proofs.Extensions
import Mathlib

/-! # Display text along the open path

Display text is written with the open handles on a stack. It is the rendering that marks only
back edges to an ancestor, and it nests no deeper than the handles a value reaches.
-/

namespace ScriptHost

namespace Store

variable {s : Store}

/-! ## Steps of the unfolding -/

@[simp] theorem unfold_null (path : List Handle) : s.unfold path .null = .null := by
  rw [unfold]

@[simp] theorem unfold_bool (path : List Handle) (b : Bool) : s.unfold path (.bool b) = .bool b := by
  rw [unfold]

@[simp] theorem unfold_number (path : List Handle) (x : Float) :
    s.unfold path (.number x) = .number x := by
  rw [unfold]

@[simp] theorem unfold_string (path : List Handle) (t : String) :
    s.unfold path (.string t) = .string t := by
  rw [unfold]

@[simp] theorem unfold_function (path : List Handle) (r : Nat) :
    s.unfold path (.function r) = .function (s.functionName r) := by
  rw [unfold]

theorem unfold_array_of_mem {path : List Handle} {r : Nat} (hp : Handle.array r ∈ path) :
    s.unfold path (.array r) = .cycle false := by
  rw [unfold]
  simp [hp]

theorem unfold_array {path : List Handle} {r : Nat} {items : Array Value}
    (hp : Handle.array r ∉ path) (hr : s.array? r = some items) :
    s.unfold path (.array r) = .array (items.toList.map (s.unfold (.array r :: path))) := by
  rw [unfold]
  simp only [List.contains_iff_mem, hp, dite_false]
  split <;> simp_all

theorem unfold_array_of_none {path : List Handle} {r : Nat} (hp : Handle.array r ∉ path)
    (hr : s.array? r = none) : s.unfold path (.array r) = .cycle false := by
  rw [unfold]
  simp only [List.contains_iff_mem, hp, dite_false]
  split <;> simp_all

theorem unfold_object_of_mem {path : List Handle} {r : Nat} (hp : Handle.object r ∈ path) :
    s.unfold path (.object r) = .cycle true := by
  rw [unfold]
  simp [hp]

theorem unfold_object {path : List Handle} {r : Nat} {o : ObjectCell}
    (hp : Handle.object r ∉ path) (hr : s.object? r = some o) :
    s.unfold path (.object r) =
      .object o.name (o.fields.map fun kv => (kv.1, s.unfold (.object r :: path) kv.2)) := by
  rw [unfold]
  simp only [List.contains_iff_mem, hp, dite_false]
  split <;> simp_all

theorem unfold_object_of_none {path : List Handle} {r : Nat} (hp : Handle.object r ∉ path)
    (hr : s.object? r = none) : s.unfold path (.object r) = .cycle true := by
  rw [unfold]
  simp only [List.contains_iff_mem, hp, dite_false]
  split <;> simp_all

/-- Induction along the unfolding, with the tests on the path read as membership. -/
theorem unfold_induction {motive : List Handle → Value → Prop}
    (null : ∀ path, motive path .null) (bool : ∀ path b, motive path (.bool b))
    (number : ∀ path x, motive path (.number x)) (string : ∀ path t, motive path (.string t))
    (function : ∀ path r, motive path (.function r))
    (arrayOpen : ∀ path r, Handle.array r ∈ path → motive path (.array r))
    (arrayMissing : ∀ path r, Handle.array r ∉ path → s.array? r = none → motive path (.array r))
    (arrayItems : ∀ path r items, Handle.array r ∉ path → s.array? r = some items →
      (∀ v, motive (.array r :: path) v) → motive path (.array r))
    (objectOpen : ∀ path r, Handle.object r ∈ path → motive path (.object r))
    (objectMissing : ∀ path r, Handle.object r ∉ path → s.object? r = none →
      motive path (.object r))
    (objectFields : ∀ path r o, Handle.object r ∉ path → s.object? r = some o →
      (∀ v, motive (.object r :: path) v) → motive path (.object r))
    (path : List Handle) (v : Value) : motive path v := by
  induction path, v using Store.unfold.induct (s := s) with
  | case1 path => exact null path
  | case2 path b => exact bool path b
  | case3 path x => exact number path x
  | case4 path t => exact string path t
  | case5 path r => exact function path r
  | case6 path r hp => exact arrayOpen path r (List.contains_iff_mem.mp hp)
  | case7 path r hp hr => exact arrayMissing path r (by simpa using hp) hr
  | case8 path r hp items hr ih => exact arrayItems path r items (by simpa using hp) hr ih
  | case9 path r hp => exact objectOpen path r (List.contains_iff_mem.mp hp)
  | case10 path r hp hr => exact objectMissing path r (by simpa using hp) hr
  | case11 path r hp o hr ih => exact objectFields path r o (by simpa using hp) hr ih

/-- The path acts only through which handles are on it. -/
theorem unfold_congr_path {p q : List Handle} (hpq : ∀ h, h ∈ p ↔ h ∈ q) (v : Value) :
    s.unfold p v = s.unfold q v := by
  induction p, v using Store.unfold_induction (s := s) generalizing q with
  | null | bool | number | string | function => simp
  | arrayOpen path r hp =>
      rw [unfold_array_of_mem hp, unfold_array_of_mem ((hpq _).mp hp)]
  | arrayMissing path r hp hr =>
      have hq : Handle.array r ∉ q := fun h => hp ((hpq _).mpr h)
      rw [unfold_array_of_none hp hr, unfold_array_of_none hq hr]
  | arrayItems path r items hp hr ih =>
      have hq : Handle.array r ∉ q := fun h => hp ((hpq _).mpr h)
      rw [unfold_array hp hr, unfold_array hq hr]
      congr 1
      apply List.map_congr_left
      intro v _
      exact ih v fun h => by simp [hpq h]
  | objectOpen path r hp =>
      rw [unfold_object_of_mem hp, unfold_object_of_mem ((hpq _).mp hp)]
  | objectMissing path r hp hr =>
      have hq : Handle.object r ∉ q := fun h => hp ((hpq _).mpr h)
      rw [unfold_object_of_none hp hr, unfold_object_of_none hq hr]
  | objectFields path r o hp hr ih =>
      have hq : Handle.object r ∉ q := fun h => hp ((hpq _).mpr h)
      rw [unfold_object hp hr, unfold_object hq hr]
      congr 1
      apply List.map_congr_left
      intro kv _
      rw [ih kv.2 (q := Handle.object r :: q) fun h => by simp [hpq h]]

end Store

/-! ## Text of items and fields -/

theorem Shape.itemsText_eq (xs : List Shape) :
    Shape.itemsText xs = ", ".intercalate (xs.map Shape.text) := by
  induction xs with
  | nil => simp [Shape.itemsText]
  | cons x rest ih =>
      cases rest with
      | nil => simp [Shape.itemsText]
      | cons y more =>
          rw [List.map_cons, List.map_cons, String.intercalate_cons_cons, ← List.map_cons, ← ih]
          simp only [Shape.itemsText]

theorem Shape.fieldsText_eq (fs : List (String × Shape)) :
    Shape.fieldsText fs = ", ".intercalate (fs.map fun kv => kv.1 ++ ": " ++ kv.2.text) := by
  induction fs with
  | nil => simp [Shape.fieldsText]
  | cons kv rest ih =>
      obtain ⟨k, x⟩ := kv
      cases rest with
      | nil => simp [Shape.fieldsText]
      | cons f more =>
          rw [List.map_cons] at ih
          simp only [Shape.fieldsText, List.map_cons, String.intercalate_cons_cons, ih]

theorem Shape.text_object (name : Option String) (fields : List (String × Shape)) :
    (Shape.object name fields).text =
      (name.map (· ++ " ")).getD "" ++ "\x7b" ++ Shape.fieldsText fields ++ "\x7d" := by
  cases name <;> simp [Shape.text]

/-! ## Writing with the open stack -/

namespace Writing

@[simp] theorem emit_run (u t : String) (o : List Handle) :
    (emit u).run ⟨t, o⟩ = ((), ⟨t ++ u, o⟩) := rfl

@[simp] theorem push_run (h : Handle) (t : String) (o : List Handle) :
    (push h).run ⟨t, o⟩ = ((), ⟨t, h :: o⟩) := rfl

@[simp] theorem pop_run (h : Handle) (t : String) (o : List Handle) :
    pop.run ⟨t, h :: o⟩ = ((), ⟨t, o⟩) := rfl

@[simp] theorem isOpen_run (h : Handle) (t : String) (o : List Handle) :
    (isOpen h).run ⟨t, o⟩ = (o.contains h, ⟨t, o⟩) := rfl

theorem intercalate_cons (a : String) (l : List String) :
    ", ".intercalate (a :: l) = a ++ (if l = [] then "" else ", " ++ ", ".intercalate l) := by
  cases l with
  | nil => simp
  | cons b l => simp [String.intercalate_cons_cons, String.append_assoc]

/-- A step whose run is known: the rest runs from where it ends. -/
theorem run_bind_of {α β : Type} {x : StateM Writing α} {g : α → StateM Writing β}
    {w v : Writing} {a : α} (h : x.run w = (a, v)) : (x >>= g).run w = (g a).run v := by
  rw [StateT.run_bind, h]
  rfl

variable {o : List Handle} {α : Type} {f : α → String}

/-- The loop of `separated` from item `n` on: each item is written after `", "`, but for the
item at index 0. -/
theorem forIn_zipIdx_run {body : α × Nat → PUnit → StateM Writing (ForInStep PUnit)}
    (hbody : ∀ x i t, (body (x, i) PUnit.unit).run ⟨t, o⟩ =
      (.yield PUnit.unit, ⟨t ++ ((if 0 < i then ", " else "") ++ f x), o⟩))
    (xs : List α) (n : Nat) (t : String) :
    (forIn (xs.zipIdx n) PUnit.unit body).run ⟨t, o⟩ =
      ((), ⟨t ++ (if xs = [] then ""
        else (if 0 < n then ", " else "") ++ ", ".intercalate (xs.map f)), o⟩) := by
  induction xs generalizing n t with
  | nil => simp; rfl
  | cons x xs ih =>
      rw [List.zipIdx_cons, List.forIn_cons, run_bind_of (hbody x n t)]
      rw [ih (n + 1), List.map_cons, intercalate_cons]
      simp [String.append_assoc]

/-- When each item's writing appends its text and keeps the stack, `separated` appends the
items' texts between `", "` and keeps the stack. -/
theorem separated_run {each : α → StateM Writing Unit}
    (heach : ∀ x t, (each x).run ⟨t, o⟩ = ((), ⟨t ++ f x, o⟩)) (xs : List α) (t : String) :
    (separated xs each).run ⟨t, o⟩ = ((), ⟨t ++ ", ".intercalate (xs.map f), o⟩) := by
  unfold separated
  rw [run_bind_of (forIn_zipIdx_run ?each xs 0 t)]
  · cases xs <;> simp <;> rfl
  · intro y i u
    by_cases hi : 0 < i
    · simp only [hi, if_true]
      rw [run_bind_of (emit_run ", " u o), run_bind_of (heach y _), String.append_assoc]
      rfl
    · simp only [hi, if_false]
      rw [run_bind_of (heach y u)]
      simp
      rfl

variable {h : Handle} (mark : String) (rest : StateM Writing Unit) (t : String)

/-- A handle on the stack is written as its mark. -/
theorem unlessOpen_run_of_mem (hp : h ∈ o) :
    (do if ← isOpen h then emit mark else rest).run ⟨t, o⟩ = ((), ⟨t ++ mark, o⟩) := by
  rw [run_bind_of (isOpen_run h t o), if_pos (List.contains_iff_mem.mpr hp)]
  rfl

theorem unlessOpen_run_of_not_mem (hp : h ∉ o) :
    (do if ← isOpen h then emit mark else rest).run ⟨t, o⟩ = rest.run ⟨t, o⟩ := by
  rw [run_bind_of (isOpen_run h t o), if_neg (by simpa using hp)]

/-- Writing inside a handle: it is pushed, the body is written between its brackets, and it
is popped, which hands the stack back. -/
theorem within_run {opening closing inner : String} {body : StateM Writing Unit}
    (hbody : ∀ u, body.run ⟨u, h :: o⟩ = ((), ⟨u ++ inner, h :: o⟩)) :
    (do push h; emit opening; body; emit closing; pop).run ⟨t, o⟩ =
      ((), ⟨t ++ (opening ++ inner ++ closing), o⟩) := by
  rw [run_bind_of (push_run h t o), run_bind_of (emit_run _ t _), run_bind_of (hbody _),
    run_bind_of (emit_run _ _ _), pop_run]
  simp only [String.append_assoc]

end Writing

namespace Store

variable {s : Store}

theorem unopened_lt_display (s : Store) (o : List Handle) :
    s.unopened o < s.arrays.size + s.objects.size + 1 := by
  have hlen : s.handles.length = s.arrays.size + s.objects.size := by simp [handles]
  have hle : s.unopened o ≤ s.handles.length := List.length_filter_le _ _
  omega

/-- Writing from the stack `o` appends the text of the unfolding along the path `o` and hands
back the stack as it found it, given more levels than handles off the stack. -/
theorem write_run {o : List Handle} {fuel : Nat} (hfuel : s.unopened o < fuel) (v : Value)
    (t : String) : (s.write fuel v).run ⟨t, o⟩ = ((), ⟨t ++ (s.unfold o v).text, o⟩) := by
  -- an array or object off the stack pushes its handle, so its children are written one level
  -- lower from a stack with one handle fewer off it, and each child hands the stack back
  obtain ⟨k, rfl⟩ : ∃ k, fuel = k + 1 := ⟨fuel - 1, by omega⟩
  induction o, v using Store.unfold_induction (s := s) generalizing k t with
  | null o | bool o _ | number o _ | string o _ | function o _ =>
      simp [Store.write, Store.scalarText, Shape.text, String.append_assoc]
  | arrayOpen o r hp =>
      rw [Store.write.eq_2, Writing.unlessOpen_run_of_mem _ _ t hp, unfold_array_of_mem hp]
      rfl
  | arrayMissing o r hp hr =>
      rw [Store.write.eq_2, Writing.unlessOpen_run_of_not_mem _ _ t hp]
      simp only [hr]
      rw [Writing.emit_run, unfold_array_of_none hp hr]
      rfl
  | arrayItems o r items hp hr ih =>
      have hk : s.unopened (.array r :: o) < k := by
        have := unopened_cons_lt s o _ (array_mem_handles hr) hp
        omega
      obtain ⟨j, rfl⟩ : ∃ j, k = j + 1 := ⟨k - 1, by omega⟩
      rw [Store.write.eq_2, Writing.unlessOpen_run_of_not_mem _ _ t hp]
      simp only [hr]
      rw [Writing.within_run t (Writing.separated_run (fun x u => ih x u j hk) _), unfold_array hp hr]
      simp only [Shape.text, Shape.itemsText_eq, List.map_map, String.append_assoc]
      rfl
  | objectOpen o r hp =>
      rw [Store.write.eq_3, Writing.unlessOpen_run_of_mem _ _ t hp, unfold_object_of_mem hp]
      rfl
  | objectMissing o r hp hr =>
      rw [Store.write.eq_3, Writing.unlessOpen_run_of_not_mem _ _ t hp]
      simp only [hr]
      rw [Writing.emit_run, unfold_object_of_none hp hr]
      rfl
  | objectFields o r ob hp hr ih =>
      have hk : s.unopened (.object r :: o) < k := by
        have := unopened_cons_lt s o _ (object_mem_handles hr) hp
        omega
      obtain ⟨j, rfl⟩ : ∃ j, k = j + 1 := ⟨k - 1, by omega⟩
      -- a field writes its key, then its value one level lower
      have hfield : ∀ (kv : String × Value) (u : String),
          ((fun (p : String × Value) => do
              Writing.emit (p.1 ++ ": ")
              s.write (j + 1) p.2 : String × Value → StateM Writing Unit) kv).run
            ⟨u, .object r :: o⟩ =
          ((), ⟨u ++ (kv.1 ++ ": " ++ (s.unfold (.object r :: o) kv.2).text), .object r :: o⟩) := by
        intro kv u
        rw [Writing.run_bind_of (Writing.emit_run _ u _), ih kv.2 _ j hk, String.append_assoc]
      rw [Store.write.eq_3, Writing.unlessOpen_run_of_not_mem _ _ t hp]
      simp only [hr]
      rw [Writing.within_run t (Writing.separated_run hfield _), unfold_object hp hr]
      simp only [Shape.text_object, Shape.fieldsText_eq, List.map_map, String.append_assoc]
      rfl

theorem display_eq_text (s : Store) (v : Value) : s.display v = (s.unfold [] v).text := by
  simp only [display, s.write_run (s.unopened_lt_display []) v "", String.empty_append]

@[simp] theorem display_string (t : String) : s.display (.string t) = t := by
  simp [display_eq_text, Shape.text]

end Store

/-! ## The rendering that display text is -/

namespace Store

variable {s : Store}

/-- The rendering of values with a set of open handles that display text is specified by.
Scalars are their own text and a function is `<name>`; an array or object whose handle is open
is its cycle mark, and any other lists its current items, or its type name and fields, each
rendered with its handle added to the open ones. -/
structure Renders (s : Store) (R : Finset Handle → Value → String) : Prop where
  null : ∀ P, R P .null = "null"
  bool : ∀ P b, R P (.bool b) = if b then "true" else "false"
  number : ∀ P x, R P (.number x) = Number.format x
  string : ∀ P t, R P (.string t) = t
  function : ∀ P r, R P (.function r) = "<" ++ s.functionName r ++ ">"
  array : ∀ P r items, s.array? r = some items →
    R P (.array r) =
      if Handle.array r ∈ P then "[...]"
      else "[" ++ ", ".intercalate (items.toList.map (R (insert (.array r) P))) ++ "]"
  object : ∀ P r o, s.object? r = some o →
    R P (.object r) =
      if Handle.object r ∈ P then "\x7b...\x7d"
      else (o.name.map (· ++ " ")).getD "" ++ "\x7b" ++
        ", ".intercalate (o.fields.map fun kv => kv.1 ++ ": " ++ R (insert (.object r) P) kv.2) ++
        "\x7d"

/-- A value whose array or object handle is allocated in the store. -/
def Holds (s : Store) : Value → Prop
  | .array r => r < s.arrays.size
  | .object r => r < s.objects.size
  | _ => True

/-- A store whose arrays and objects hold only values whose handles it has allocated, as
every store that programs build is. -/
structure Closed (s : Store) : Prop where
  items : ∀ r items, s.array? r = some items → ∀ v ∈ items.toList, s.Holds v
  fields : ∀ r o, s.object? r = some o → ∀ kv ∈ o.fields, s.Holds kv.2

theorem array?_of_holds {r : Nat} (h : s.Holds (.array r)) : ∃ items, s.array? r = some items := by
  have hr : r < s.arrays.size := h
  exact ⟨s.arrays[r], by simp [array?, hr]⟩

theorem object?_of_holds {r : Nat} (h : s.Holds (.object r)) : ∃ o, s.object? r = some o := by
  have hr : r < s.objects.size := h
  exact ⟨s.objects[r], by simp [object?, hr]⟩

/-- Unfolding with the path's handles open is a rendering. -/
theorem renders_unfold (s : Store) : s.Renders fun P v => (s.unfold P.toList v).text where
  null P := by simp [Shape.text]
  bool P b := by simp [Shape.text]
  number P x := by simp [Shape.text]
  string P t := by simp [Shape.text]
  function P r := by simp [Shape.text]
  array P r items hr := by
    by_cases hp : Handle.array r ∈ P
    · rw [if_pos hp, unfold_array_of_mem (Finset.mem_toList.mpr hp)]
      rfl
    · have hp' : Handle.array r ∉ P.toList := fun h => hp (Finset.mem_toList.mp h)
      rw [if_neg hp, unfold_array hp' hr]
      simp only [Shape.text, Shape.itemsText_eq, List.map_map]
      congr 3
      apply List.map_congr_left
      intro v _
      -- opening the handle on the list or in the set opens the same handles
      simp only [Function.comp_apply]
      rw [unfold_congr_path (q := (insert (Handle.array r) P).toList) fun h => by simp]
  object P r o hr := by
    by_cases hp : Handle.object r ∈ P
    · rw [if_pos hp, unfold_object_of_mem (Finset.mem_toList.mpr hp)]
      rfl
    · have hp' : Handle.object r ∉ P.toList := fun h => hp (Finset.mem_toList.mp h)
      rw [if_neg hp, unfold_object hp' hr]
      simp only [Shape.text_object, Shape.fieldsText_eq, List.map_map]
      congr 3
      apply List.map_congr_left
      intro kv _
      simp only [Function.comp_apply]
      rw [unfold_congr_path (q := (insert (Handle.object r) P).toList) fun h => by simp]

variable {R : Finset Handle → Value → String}

/-- On a closed store every rendering is the text of the unfolding: the equations leave no
choice. -/
theorem Renders.eq_text (hR : s.Renders R) (hs : s.Closed) (path : List Handle) (v : Value)
    (hv : s.Holds v) : R path.toFinset v = (s.unfold path v).text := by
  -- the induction follows the unfolding, and closedness keeps every item and field allocated
  induction path, v using Store.unfold_induction (s := s) with
  | null path => simp [hR.null, Shape.text]
  | bool path b => simp [hR.bool, Shape.text]
  | number path x => simp [hR.number, Shape.text]
  | string path t => simp [hR.string, Shape.text]
  | function path r => simp [hR.function, Shape.text]
  | arrayOpen path r hp =>
      obtain ⟨items, hr⟩ := array?_of_holds hv
      rw [hR.array _ r items hr, if_pos (List.mem_toFinset.mpr hp), unfold_array_of_mem hp]
      rfl
  | arrayMissing path r hp hr =>
      obtain ⟨items, hr'⟩ := array?_of_holds hv
      simp [hr] at hr'
  | arrayItems path r items hp hr ih =>
      rw [hR.array _ r items hr, if_neg (by simpa using hp), unfold_array hp hr]
      simp only [Shape.text, Shape.itemsText_eq, List.map_map]
      congr 3
      apply List.map_congr_left
      intro v hv'
      rw [Function.comp_apply, ← ih v (hs.items r items hr v hv'), List.toFinset_cons]
  | objectOpen path r hp =>
      obtain ⟨o, hr⟩ := object?_of_holds hv
      rw [hR.object _ r o hr, if_pos (List.mem_toFinset.mpr hp), unfold_object_of_mem hp]
      rfl
  | objectMissing path r hp hr =>
      obtain ⟨o, hr'⟩ := object?_of_holds hv
      simp [hr] at hr'
  | objectFields path r o hp hr ih =>
      rw [hR.object _ r o hr, if_neg (by simpa using hp), unfold_object hp hr]
      simp only [Shape.text_object, Shape.fieldsText_eq, List.map_map]
      congr 3
      apply List.map_congr_left
      intro kv hkv
      rw [Function.comp_apply, ← ih kv.2 (hs.fields r o hr kv hkv), List.toFinset_cons]

end Store

/-- The display text of a value is its rendering with nothing open. Some rendering satisfies
the equations of `Store.Renders`, and on a store whose arrays and objects hold only allocated
handles every one of them fixes the writer at every call: writing a value from a stack of open
handles appends its rendering with the stack's handles open and hands the stack back, so the
stack holds the path from the root at each call, and at the root it is empty. -/
theorem display_renders_open_path (s : Store) :
    (∃ R, s.Renders R) ∧
      ∀ R, s.Renders R → s.Closed →
        (∀ v, s.Holds v → s.display v = R ∅ v) ∧
        ∀ (o : List Handle) (fuel : Nat), s.unopened o < fuel → ∀ v t, s.Holds v →
          (s.write fuel v).run ⟨t, o⟩ = ((), ⟨t ++ R o.toFinset v, o⟩) := by
  refine ⟨⟨_, Store.renders_unfold s⟩, fun R hR hs => ⟨?root, ?call⟩⟩
  case root =>
    intro v hv
    rw [Store.display_eq_text, ← hR.eq_text hs [] v hv]
    rfl
  case call =>
    intro o fuel hfuel v t hv
    rw [Store.write_run hfuel, hR.eq_text hs o v hv]

/-- The array `[1, a]` where `a` is the array itself, alone in the store. -/
def Store.selfContaining : Store :=
  (Store.empty.allocArray #[.number 1, .array 0]).1

theorem Store.selfContaining_closed : Store.selfContaining.Closed where
  items r items h v hv := by
    simp only [Store.selfContaining, Store.array?_allocArray] at h
    split at h
    · cases h
      simp only [List.mem_cons, List.not_mem_nil, or_false] at hv
      rcases hv with rfl | rfl
      · trivial
      · show 0 < 1
        omega
    · simp [Store.array?, Store.empty] at h
  fields r o h := by simp [Store.selfContaining, Store.allocArray, Store.empty, Store.object?] at h

/-- The array that contains itself, written from the root and again at its back edge, where
its handle is already on the stack. -/
theorem display_renders_self_containing :
    let R := fun (P : Finset Handle) (v : Value) => (Store.selfContaining.unfold P.toList v).text
    Store.selfContaining.Renders R ∧ Store.selfContaining.Closed ∧
      Store.selfContaining.Holds (.array 0) ∧ Store.selfContaining.unopened [.array 0] < 1 ∧
      Store.selfContaining.display (.array 0) = R ∅ (.array 0) ∧
      (Store.selfContaining.write 1 (.array 0)).run ⟨"[1, ", [.array 0]⟩ =
        ((), ⟨"[1, " ++ R [Handle.array 0].toFinset (.array 0), [.array 0]⟩) := by
  intro R
  have hR : Store.selfContaining.Renders R := Store.renders_unfold _
  have hholds : Store.selfContaining.Holds (.array 0) := by
    show 0 < 1
    omega
  have hfuel : Store.selfContaining.unopened [.array 0] < 1 := by decide
  have h := (display_renders_open_path Store.selfContaining).2 R hR Store.selfContaining_closed
  exact ⟨hR, Store.selfContaining_closed, hholds, hfuel, h.1 _ hholds,
    h.2 [.array 0] 1 hfuel (.array 0) "[1, " hholds⟩

/-- Two items that share one array are both written in full: the array is off the stack at
each of them. -/
example :
    ((Store.empty.allocArray #[.number 1]).1.allocArray #[.array 0, .array 0]).1.display
      (.array 1) = "[[1], [1]]" := by
  decide +kernel

/-! ## Handles reachable from a value -/

/-- The handle of an array or object value. -/
def Value.handle? : Value → Option Handle
  | .array r => some (.array r)
  | .object r => some (.object r)
  | _ => none

/-- An array or object handle as a value. -/
def Handle.value : Handle → Value
  | .array r => .array r
  | .object r => .object r

theorem Handle.handle?_value (h : Handle) : h.value.handle? = some h := by
  cases h <;> rfl

namespace Store

variable {s : Store} {path : List Handle}

/-- What a handle holds now: an array's items, an object's field values. -/
def children (s : Store) : Handle → List Value
  | .array r => ((s.array? r).getD #[]).toList
  | .object r => ((s.object? r).map fun o => o.fields.map (·.2)).getD []

/-- `c` is an item or a field value of the array or object `v`. -/
def Contains (s : Store) (v c : Value) : Prop :=
  ∃ h, v.handle? = some h ∧ c ∈ s.children h

/-- The handle is that of `v` or of a value reached from `v` through items and fields. -/
def Reaches (s : Store) (v : Value) (h : Handle) : Prop :=
  ∃ c, Relation.ReflTransGen s.Contains v c ∧ c.handle? = some h

/-- The handles of the store that are reachable from `v` and not on the path. -/
noncomputable def pending (s : Store) (path : List Handle) (v : Value) : Finset Handle := by
  classical
  exact s.handles.toFinset.filter fun h => s.Reaches v h ∧ h ∉ path

theorem mem_pending {v : Value} {h : Handle} :
    h ∈ s.pending path v ↔ h ∈ s.handles ∧ s.Reaches v h ∧ h ∉ path := by
  classical
  simp only [pending, Finset.mem_filter, List.mem_toFinset]

theorem self_mem_pending {h : Handle} (hh : h ∈ s.handles) (hp : h ∉ path) :
    h ∈ s.pending path h.value :=
  mem_pending.mpr ⟨hh, ⟨h.value, .refl, h.handle?_value⟩, hp⟩

/-- Stepping from a handle off the path into one of its items or fields leaves fewer handles
reachable and off the path: the handle itself goes on the path, and what the child reaches the
parent reaches. -/
theorem pending_child_lt {h : Handle} (hh : h ∈ s.handles) (hp : h ∉ path) {c : Value}
    (hc : c ∈ s.children h) : (s.pending (h :: path) c).card < (s.pending path h.value).card := by
  have hsub : s.pending (h :: path) c ⊆ s.pending path h.value := by
    intro x hx
    obtain ⟨hx, ⟨d, hcd, hd⟩, hxp⟩ := mem_pending.mp hx
    have hstep : s.Contains h.value c := ⟨h, h.handle?_value, hc⟩
    exact mem_pending.mpr ⟨hx, ⟨d, Relation.ReflTransGen.head hstep hcd, hd⟩,
      fun hm => hxp (List.mem_cons_of_mem h hm)⟩
  have hself : h ∈ s.pending path h.value := self_mem_pending hh hp
  have hout : h ∉ s.pending (h :: path) c := fun hm => (mem_pending.mp hm).2.2 List.mem_cons_self
  exact Finset.card_lt_card ((Finset.ssubset_iff_of_subset hsub).mpr ⟨h, hself, hout⟩)

theorem pending_item_lt {r : Nat} {items : Array Value} {v : Value}
    (hp : Handle.array r ∉ path) (hr : s.array? r = some items) (hv : v ∈ items.toList) :
    (s.pending (.array r :: path) v).card < (s.pending path (.array r)).card :=
  pending_child_lt (h := .array r) (array_mem_handles hr) hp (by simp [children, hr, hv])

theorem pending_field_lt {r : Nat} {o : ObjectCell} {kv : String × Value}
    (hp : Handle.object r ∉ path) (hr : s.object? r = some o) (hkv : kv ∈ o.fields) :
    (s.pending (.object r :: path) kv.2).card < (s.pending path (.object r)).card :=
  pending_child_lt (h := .object r) (object_mem_handles hr) hp
    (by simp only [children, hr, Option.map_some, Option.getD_some]; exact List.mem_map_of_mem hkv)

/-- Unfolding an array either stops at a mark or goes on into its current items, each with
fewer handles reachable and off the path. -/
theorem unfold_array_mark_or_descends (s : Store) (path : List Handle) (r : Nat) :
    s.unfold path (.array r) = .cycle false ∨
      ∃ items, s.array? r = some items ∧
        s.unfold path (.array r) = .array (items.toList.map (s.unfold (.array r :: path))) ∧
        ∀ v ∈ items.toList,
          (s.pending (.array r :: path) v).card < (s.pending path (.array r)).card := by
  by_cases hp : Handle.array r ∈ path
  · exact .inl (unfold_array_of_mem hp)
  · cases hr : s.array? r with
    | none => exact .inl (unfold_array_of_none hp hr)
    | some items =>
        exact .inr ⟨items, rfl, unfold_array hp hr, fun v hv => pending_item_lt hp hr hv⟩

theorem unfold_object_mark_or_descends (s : Store) (path : List Handle) (r : Nat) :
    s.unfold path (.object r) = .cycle true ∨
      ∃ o, s.object? r = some o ∧
        s.unfold path (.object r) =
          .object o.name (o.fields.map fun kv => (kv.1, s.unfold (.object r :: path) kv.2)) ∧
        ∀ kv ∈ o.fields,
          (s.pending (.object r :: path) kv.2).card < (s.pending path (.object r)).card := by
  by_cases hp : Handle.object r ∈ path
  · exact .inl (unfold_object_of_mem hp)
  · cases hr : s.object? r with
    | none => exact .inl (unfold_object_of_none hp hr)
    | some o =>
        exact .inr ⟨o, rfl, unfold_object hp hr, fun kv hkv => pending_field_lt hp hr hkv⟩

end Store

/-! ## How deep the unfolding nests -/

mutual
/-- How deep arrays and objects nest in a shape. -/
def Shape.depth : Shape → Nat
  | .array items => Shape.itemsDepth items + 1
  | .object _ fields => Shape.fieldsDepth fields + 1
  | _ => 0

def Shape.itemsDepth : List Shape → Nat
  | [] => 0
  | x :: rest => max x.depth (Shape.itemsDepth rest)

def Shape.fieldsDepth : List (String × Shape) → Nat
  | [] => 0
  | (_, x) :: rest => max x.depth (Shape.fieldsDepth rest)
end

theorem Shape.itemsDepth_le {xs : List Shape} {k : Nat} (h : ∀ x ∈ xs, x.depth ≤ k) :
    Shape.itemsDepth xs ≤ k := by
  induction xs with
  | nil => simp [Shape.itemsDepth]
  | cons x rest ih =>
      simp only [Shape.itemsDepth]
      exact max_le (h x List.mem_cons_self) (ih fun y hy => h y (List.mem_cons_of_mem x hy))

theorem Shape.fieldsDepth_le {fs : List (String × Shape)} {k : Nat}
    (h : ∀ kv ∈ fs, kv.2.depth ≤ k) : Shape.fieldsDepth fs ≤ k := by
  induction fs with
  | nil => simp [Shape.fieldsDepth]
  | cons kv rest ih =>
      obtain ⟨key, x⟩ := kv
      simp only [Shape.fieldsDepth]
      exact max_le (h (key, x) List.mem_cons_self)
        (ih fun y hy => h y (List.mem_cons_of_mem _ hy))

/-- The unfolding nests no deeper than the number of handles reachable and off the path: the
measure drops at every step into an item or a field. -/
theorem Store.depth_unfold_le (s : Store) (path : List Handle) (v : Value) :
    (s.unfold path v).depth ≤ (s.pending path v).card := by
  induction path, v using Store.unfold_induction (s := s) with
  | null | bool | number | string | function => simp [Shape.depth]
  | arrayOpen path r hp => simp [Store.unfold_array_of_mem hp, Shape.depth]
  | arrayMissing path r hp hr => simp [Store.unfold_array_of_none hp hr, Shape.depth]
  | arrayItems path r items hp hr ih =>
      -- each item nests at most one less deep than the array's own count allows
      have hpos : 0 < (s.pending path (.array r)).card :=
        Finset.card_pos.mpr ⟨_, Store.self_mem_pending (h := .array r) (Store.array_mem_handles hr) hp⟩
      have hitems : Shape.itemsDepth (items.toList.map (s.unfold (.array r :: path))) ≤
          (s.pending path (.array r)).card - 1 := by
        apply Shape.itemsDepth_le
        intro x hx
        obtain ⟨v, hv, rfl⟩ := List.mem_map.mp hx
        have hchild := Store.pending_item_lt hp hr hv
        have hdepth := ih v
        omega
      rw [Store.unfold_array hp hr]
      simp only [Shape.depth]
      omega
  | objectOpen path r hp => simp [Store.unfold_object_of_mem hp, Shape.depth]
  | objectMissing path r hp hr => simp [Store.unfold_object_of_none hp hr, Shape.depth]
  | objectFields path r o hp hr ih =>
      have hpos : 0 < (s.pending path (.object r)).card :=
        Finset.card_pos.mpr ⟨_, Store.self_mem_pending (h := .object r) (Store.object_mem_handles hr) hp⟩
      have hfields : Shape.fieldsDepth
          (o.fields.map fun kv => (kv.1, s.unfold (.object r :: path) kv.2)) ≤
            (s.pending path (.object r)).card - 1 := by
        apply Shape.fieldsDepth_le
        intro x hx
        obtain ⟨kv, hkv, rfl⟩ := List.mem_map.mp hx
        have hchild := Store.pending_field_lt hp hr hkv
        have hdepth := ih kv.2
        dsimp only
        omega
      rw [Store.unfold_object hp hr]
      simp only [Shape.depth]
      omega

/-! ## Operations that display values -/

theorem Run.display_run (v : Value) (m : Machine) :
    (display v).run m = (.ok (m.store.display v), m) := rfl

theorem Run.mapM_display_run (xs : List Value) (m : Machine) :
    (xs.mapM display).run m = (.ok (xs.map m.store.display), m) := by
  induction xs with
  | nil => rfl
  | cons v rest ih => simp only [List.mapM_cons, run_bind, display_run, ih, run_pure, List.map_cons]

/-- A sink that keeps lines takes the line; one that refuses fails the write with its error
and leaves the machine as it was. -/
theorem Run.writeLine_run (line : String) (m : Machine) :
    (writeLine line).run m =
      match m.sink with
      | .keeps => (.ok (), { m with output := m.output.push line })
      | .refuses error => (.error (.output error), m) := by
  obtain ⟨config, methods, store, vars, table, output, sink⟩ := m
  cases sink <;> rfl

theorem Run.forIn_println_run_of_keeps (args : List Value) {m : Machine} (hs : m.sink = .keeps) :
    (forIn args PUnit.unit fun v _ => do
        writeLine (← display v)
        pure (ForInStep.yield PUnit.unit)).run m =
      (.ok PUnit.unit, { m with output := m.output ++ (args.map m.store.display).toArray }) := by
  induction args generalizing m with
  | nil => simp
  | cons v rest ih =>
      rw [List.forIn_cons, run_bind, run_bind, display_run]
      simp only [run_bind, writeLine_run, hs, run_pure]
      -- the line written, the sink still takes lines
      rw [ih rfl]
      simp

/-- `println` writes one line per argument, each its display text, and answers null; on a
sink that refuses lines it fails with the sink's error at the first line, with nothing
written, and answers null when there is no line to write. -/
theorem Run.runGlobal_println_run (args : List Value) (m : Machine) :
    (runGlobal .println args).run m =
      match m.sink with
      | .keeps => (.ok .null, { m with output := m.output ++ (args.map m.store.display).toArray })
      | .refuses error => if args = [] then (.ok .null, m) else (.error (.output error), m) := by
  cases hs : m.sink with
  | keeps => simp only [runGlobal, run_bind, forIn_println_run_of_keeps args hs, run_pure, hs]
  | refuses error =>
      cases args with
      | nil => rfl
      | cons v rest =>
          simp only [runGlobal, run_bind, List.forIn_cons, display_run, writeLine_run, hs]
          rfl

theorem runNative_join_run (fuel : Nat) {m : Machine} {r : Nat} {items : Array Value}
    (hr : m.store.array? r = some items) (sep : Value) :
    (runNative (fuel + 1) .arrayJoin (.array r) [sep]).run m =
      (.ok (.string ((m.store.display sep).intercalate (items.toList.map m.store.display))), m) := by
  rw [runNative_run (n := .arrayJoin) rfl, if_neg (by simp), Run.nativeWork_of_callsBack rfl]
  simp only [Run.runPlain, Run.expectArray, Run.run_bind, Run.expectReceiver_run, Value.arrayRef?,
    Run.items_run_of_array? hr, Run.firstText, List.headD_cons, Run.display_run,
    Run.mapM_display_run, Run.run_pure]

theorem runNative_append_run (fuel : Nat) (m : Machine) (t : String) (a : Value) :
    (runNative (fuel + 1) .stringAppend (.string t) [a]).run m =
      (.ok (.string (t ++ m.store.display a)), m) := by
  rw [runNative_run (n := .stringAppend) rfl, if_neg (by simp), Run.nativeWork_of_callsBack rfl]
  simp only [Run.runPlain, Run.expectString, Run.run_bind, Run.expectReceiver_run, Value.text?,
    Run.firstText, List.headD_cons, Run.display_run, Run.run_pure]

/-- Unfolding for display ends on every store, cyclic or not. Each call on an array or object is
its cycle mark or goes on into the current items or fields, each with fewer handles reachable
and off the path, so the unfolding nests no deeper than that count. Hence `join` and `append`
answer on every store, whatever the values they display hold, at every depth left, and so does
`println` on a sink that takes its lines; a sink that refuses them fails it at the first. -/
theorem display_unfolding_terminates :
    (∀ (s : Store) path r, s.unfold path (.array r) = .cycle false ∨
      ∃ items, s.array? r = some items ∧
        s.unfold path (.array r) = .array (items.toList.map (s.unfold (.array r :: path))) ∧
        ∀ v ∈ items.toList,
          (s.pending (.array r :: path) v).card < (s.pending path (.array r)).card) ∧
    (∀ (s : Store) path r, s.unfold path (.object r) = .cycle true ∨
      ∃ o, s.object? r = some o ∧
        s.unfold path (.object r) =
          .object o.name (o.fields.map fun kv => (kv.1, s.unfold (.object r :: path) kv.2)) ∧
        ∀ kv ∈ o.fields,
          (s.pending (.object r :: path) kv.2).card < (s.pending path (.object r)).card) ∧
    (∀ (s : Store) path v, (s.unfold path v).depth ≤ (s.pending path v).card) ∧
    (∀ args (m : Machine), (Run.runGlobal .println args).run m =
      match m.sink with
      | .keeps => (.ok .null, { m with output := m.output ++ (args.map m.store.display).toArray })
      | .refuses error => if args = [] then (.ok .null, m) else (.error (.output error), m)) ∧
    (∀ fuel (m : Machine) r items, m.store.array? r = some items → ∀ sep,
      (runNative (fuel + 1) .arrayJoin (.array r) [sep]).run m =
        (.ok (.string ((m.store.display sep).intercalate (items.toList.map m.store.display))), m)) ∧
    (∀ fuel (m : Machine) t a, (runNative (fuel + 1) .stringAppend (.string t) [a]).run m =
      (.ok (.string (t ++ m.store.display a)), m)) :=
  ⟨Store.unfold_array_mark_or_descends, Store.unfold_object_mark_or_descends,
    Store.depth_unfold_le, Run.runGlobal_println_run,
    fun fuel _ _ _ hr sep => runNative_join_run fuel hr sep, runNative_append_run⟩

/-- Joining the array that contains itself answers, with the least depth left. -/
theorem display_terminates_on_self_containing :
    Store.selfContaining.array? 0 = some #[.number 1, .array 0] ∧
      (runNative 1 .arrayJoin (.array 0) [.string "-"]).run
          { Machine.bare Config.default with store := Store.selfContaining } =
        (.ok (.string ("-".intercalate
            ([Value.number 1, .array 0].map Store.selfContaining.display))),
          { Machine.bare Config.default with store := Store.selfContaining }) := by
  have hr : Store.selfContaining.array? 0 = some #[.number 1, .array 0] := rfl
  have hjoin := display_unfolding_terminates.2.2.2.2.1 0
    { Machine.bare Config.default with store := Store.selfContaining } 0 _ hr (.string "-")
  rw [Store.display_string] at hjoin
  exact ⟨hr, hjoin⟩

end ScriptHost
