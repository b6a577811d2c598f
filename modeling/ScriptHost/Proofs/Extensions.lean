import ScriptHost.Proofs.ArgumentCounts

/-! # The extension set beside the host methods

A machine with the extension set and a bare one agree on every host method but the array
`reverse`, which the extension set answers with a reversed copy.
-/

namespace ScriptHost

/-! ## Steps of the store on a machine -/

namespace Run

theorem modifyStore_run (f : Store → Store) (m : Machine) :
    (modifyStore f).run m = (.ok (), { m with store := f m.store }) := by
  cases m
  rfl

theorem newArray_run (xs : List Value) (m : Machine) :
    (newArray xs).run m =
      (.ok (.array m.store.arrays.size), { m with store := (m.store.allocArray xs.toArray).1 }) := by
  cases m with
  | mk config methods store vars table output sink =>
      cases store
      rfl

theorem items_run (r : Nat) (m : Machine) :
    (items r).run m = (.ok ((m.store.array? r).getD #[]).toList, m) := rfl

theorem items_run_of_array? {r : Nat} {m : Machine} {xs : Array Value}
    (h : m.store.array? r = some xs) : (items r).run m = (.ok xs.toList, m) := by
  rw [items_run, h, Option.getD_some]

end Run

/-! ## Host methods -/

namespace Native

theorem host?_spec {t : Tag} {name : String} {n : Native} (h : Native.host? t name = some n) :
    t = n.receiverTag ∧ name = n.name := by
  unfold Native.host? at h
  split at h <;> cases h <;> exact ⟨rfl, rfl⟩

theorem receiverTag_ne_object (n : Native) : n.receiverTag ≠ .object := by
  cases n <;> simp [receiverTag]

/-- The methods that call back into scripts. -/
def callsBack : Native → Bool
  | .arrayEach | .arrayFirst | .arrayFilter | .arrayMap | .stringTap => true
  | _ => false

theorem callsBack_of_host? {t : Tag} {name : String} {n : Native}
    (h : Native.host? t name = some n) : n.callsBack = false := by
  obtain ⟨rfl, rfl⟩ := host?_spec h
  revert h
  cases n <;> decide

end Native

theorem Run.nativeWork_of_callsBack {n : Native} (h : n.callsBack = false)
    (call : Value → List Value → Run Value) (recv : Value) (args : List Value) :
    Run.nativeWork call n recv args = Run.runPlain n recv args := by
  cases n <;> simp only [Native.callsBack, Bool.true_eq_false] at h <;> rfl

/-! ## Where a call goes on a receiver of no declared type -/

namespace Store

theorem typeName?_of_tag_ne {s : Store} {v : Value} (h : v.tag ≠ .object) :
    s.typeName? v = none := by
  cases v <;> simp_all [typeName?, Value.tag]

end Store

namespace Machine

/-- A receiver that declares no type finds the instance method filed under its kind, else the
host method of its kind. -/
theorem methodCell_of_typeName?_none {m : Machine} {v : Value} (name : String)
    (hv : m.store.typeName? v = none) :
    m.methodCell v name =
      match m.methods.lookup (.builtin v.tag) name .instanceMethod with
      | some f =>
          match m.store.function? f with
          | some c => .ok c
          | none => .error (.notCallable Tag.function.label)
      | none =>
          match Native.host? v.tag name with
          | some n => .ok (.ofNative n)
          | none => .error (.undefinedMethod (m.store.label v) name) := by
  simp only [methodCell, methodSource, hv]
  cases m.methods.lookup (.builtin v.tag) name .instanceMethod with
  | some f => rfl
  | none =>
      cases Native.host? v.tag name <;> rfl

theorem methodCell_of_host {m : Machine} {v : Value} {name : String} {n : Native}
    (h : Native.host? v.tag name = some n)
    (hl : m.methods.lookup (.builtin v.tag) name .instanceMethod = none) :
    m.methodCell v name = .ok (.ofNative n) := by
  have htag : v.tag ≠ .object := by
    rw [(Native.host?_spec h).1]
    exact Native.receiverTag_ne_object n
  rw [methodCell_of_typeName?_none name (Store.typeName?_of_tag_ne htag), hl, h]

theorem methodCell_of_filed {m : Machine} {v : Value} {name : String} {f : Nat}
    {c : FunctionCell} (htag : v.tag ≠ .object)
    (hl : m.methods.lookup (.builtin v.tag) name .instanceMethod = some f)
    (hf : m.store.function? f = some c) :
    m.methodCell v name = .ok c := by
  rw [methodCell_of_typeName?_none name (Store.typeName?_of_tag_ne htag), hl]
  simp only [hf]

/-! ## Machines with the extension set -/

theorem store_install (m : Machine) (n : Native) :
    (m.install n).store = (m.store.allocFunction (.ofNative n)).1 := rfl

theorem functions_size_allocFunction (s : Store) (c : FunctionCell) :
    (s.allocFunction c).1.functions.size = s.functions.size + 1 := by
  cases s
  simp [Store.allocFunction]

/-- Installing methods one after another allocates their functions in order past the end of
the table. -/
theorem function?_foldl_install (L : List Native) (m : Machine) (f : Nat) :
    (L.foldl install m).store.function? f =
      if f < m.store.functions.size then m.store.function? f
      else (L[f - m.store.functions.size]?).map FunctionCell.ofNative := by
  induction L generalizing m with
  | nil =>
      by_cases hf : f < m.store.functions.size
      · simp [hf]
      · simp [hf, Store.function?]
  | cons n L ih =>
      rw [List.foldl_cons, ih, store_install, functions_size_allocFunction]
      by_cases hlt : f < m.store.functions.size
      · have hne : f ≠ m.store.functions.size := Nat.ne_of_lt hlt
        simp [hlt, Nat.lt_succ_of_lt hlt, Store.function?_allocFunction, hne]
      · by_cases heq : f = m.store.functions.size
        · subst heq
          simp [Store.function?_allocFunction]
        · have hgt : m.store.functions.size < f := by omega
          have hidx : f - m.store.functions.size = (f - (m.store.functions.size + 1)) + 1 := by
            omega
          simp [hlt, Nat.not_lt.mpr hgt, hidx]

theorem function?_withExtensions (c : Config) (f : Nat) :
    (withExtensions c).store.function? f = (Native.extensionSet[f]?).map FunctionCell.ofNative := by
  rw [withExtensions, function?_foldl_install]
  simp [bare, Store.empty]

/-- A machine whose registry is the one a new machine gets with the extension set, and whose
store still holds the functions filed there: nothing has been registered since, whatever has
happened to its arrays and objects. -/
structure Extended (m : Machine) : Prop where
  methods_eq : m.methods = (withExtensions m.config).methods
  function?_extension : ∀ f n, Native.extensionSet[f]? = some n →
    m.store.function? f = some (.ofNative n)

theorem withExtensions_extended (c : Config) : (withExtensions c).Extended where
  methods_eq := rfl
  function?_extension f n h := by rw [function?_withExtensions, h, Option.map_some]

variable {m : Machine}

theorem Extended.allocArray (hm : m.Extended) (items : Array Value) :
    ({ m with store := (m.store.allocArray items).1 } : Machine).Extended where
  methods_eq := hm.methods_eq
  function?_extension f n h := by
    have hkeep : (m.store.allocArray items).1.function? f = m.store.function? f := by
      cases m.store
      rfl
    rw [hkeep]
    exact hm.function?_extension f n h

theorem Extended.lookup (hm : m.Extended) (key : TypeKey) (name : String) (kind : MethodKind) :
    m.methods.lookup key name kind =
      (withExtensions Config.default).methods.lookup key name kind := by
  rw [hm.methods_eq]
  rfl

/-- The host methods that the extension set files under their own kind and name are filed as
themselves, the array `reverse` apart. -/
theorem extension_entry_of_host (n : Native) (h : Native.host? n.receiverTag n.name = some n)
    (hn : n ≠ .arrayReverse) :
    ((withExtensions Config.default).methods.lookup (.builtin n.receiverTag) n.name
      .instanceMethod).all (fun f => Native.extensionSet[f]? == some n) = true := by
  revert h hn
  cases n <;> decide

/-- On a host name other than the array `reverse`, a machine with the extension set calls the
host method itself. -/
theorem Extended.methodCell_host (hm : m.Extended) {v : Value} {name : String} {n : Native}
    (h : Native.host? v.tag name = some n) (hn : n ≠ .arrayReverse) :
    m.methodCell v name = .ok (.ofNative n) := by
  obtain ⟨htag, rfl⟩ := Native.host?_spec h
  have hentry := extension_entry_of_host n (htag ▸ h) hn
  rw [← htag, ← hm.lookup] at hentry
  cases hl : m.methods.lookup (.builtin v.tag) n.name .instanceMethod with
  | none => exact methodCell_of_host h hl
  | some f =>
      -- the entry files the host method's own function
      rw [hl] at hentry
      have hf : Native.extensionSet[f]? = some n := by simpa using hentry
      have htag' : v.tag ≠ .object := htag ▸ Native.receiverTag_ne_object n
      exact methodCell_of_filed htag' hl (hm.function?_extension f n hf)

theorem Extended.methodCell_reverse (hm : m.Extended) (r : Nat) :
    m.methodCell (.array r) "reverse" = .ok (.ofNative .arrayReversed) := by
  have hl : m.methods.lookup (.builtin .array) "reverse" .instanceMethod = some 4 := by
    rw [hm.lookup]
    decide
  exact methodCell_of_filed (by simp [Value.tag]) hl (hm.function?_extension 4 .arrayReversed rfl)

theorem methodCell_unregistered_host {v : Value} {name : String} {n : Native}
    (h : Native.host? v.tag name = some n) :
    ({ m with methods := .empty } : Machine).methodCell v name = .ok (.ofNative n) :=
  methodCell_of_host h rfl

end Machine

/-! ## Computations that ignore the registry -/

namespace Run

/-- A computation that neither reads nor changes the method registry: run on a machine whose
registry is replaced, it gives the same result and leaves the same machine, registry aside. -/
def IgnoresMethods {α : Type} (x : Run α) : Prop :=
  ∀ (m : Machine) (reg : Registry),
    x.run { m with methods := reg } = ((x.run m).1, { (x.run m).2 with methods := reg })

theorem IgnoresMethods.pure {α : Type} (a : α) : IgnoresMethods (pure a : Run α) :=
  fun _ _ => rfl

theorem IgnoresMethods.throw {α : Type} (e : Fault) : IgnoresMethods (throw e : Run α) :=
  fun _ _ => rfl

theorem IgnoresMethods.bind {α β : Type} {x : Run α} {f : α → Run β} (hx : IgnoresMethods x)
    (hf : ∀ a, IgnoresMethods (f a)) : IgnoresMethods (x >>= f) := by
  intro m reg
  rw [run_bind, run_bind, hx m reg]
  cases x.run m with
  | mk r m₁ =>
      cases r with
      | ok a => exact hf a m₁ reg
      | error e => rfl

theorem IgnoresMethods.mapM {α β : Type} {xs : List α} {f : α → Run β}
    (hf : ∀ x, IgnoresMethods (f x)) : IgnoresMethods (xs.mapM f) := by
  induction xs with
  | nil => exact .pure []
  | cons x xs ih =>
      rw [List.mapM_cons]
      exact (hf x).bind fun _ => ih.bind fun _ => .pure _

/-! The reads and writes that the methods are made of: the store, the configuration and the
printed lines, never the registry. -/

theorem IgnoresMethods.arrayAt (r : Nat) : IgnoresMethods (arrayAt r) := fun _ _ => rfl

theorem IgnoresMethods.items (r : Nat) : IgnoresMethods (items r) := fun _ _ => rfl

theorem IgnoresMethods.lastItem (r : Nat) : IgnoresMethods (lastItem r) := fun _ _ => rfl

theorem IgnoresMethods.display (v : Value) : IgnoresMethods (display v) := fun _ _ => rfl

theorem IgnoresMethods.modifyStore (f : Store → Store) : IgnoresMethods (modifyStore f) := by
  intro m reg
  rw [modifyStore_run, modifyStore_run]

theorem IgnoresMethods.newArray (xs : List Value) : IgnoresMethods (newArray xs) := by
  intro m reg
  rw [newArray_run, newArray_run]

theorem IgnoresMethods.label (v : Value) : IgnoresMethods (label v) := by
  intro m reg
  rw [label_run, label_run]

theorem IgnoresMethods.checkCount (name : String) (lo hi : Nat) (args : List Value) :
    IgnoresMethods (checkCount name lo hi args) := by
  intro m reg
  rw [checkCount_run, checkCount_run]
  split <;> rfl

theorem IgnoresMethods.expectReceiver {α : Type} (view : Value → Option α) (n : Native)
    (v : Value) : IgnoresMethods (expectReceiver view n v) := by
  intro m reg
  rw [expectReceiver_run, expectReceiver_run]
  cases view v <;> rfl

theorem IgnoresMethods.reverseInPlace (n : Native) (recv : Value) :
    IgnoresMethods (reverseInPlace n recv) :=
  (IgnoresMethods.expectReceiver _ n recv).bind fun _ =>
    (IgnoresMethods.modifyStore _).bind fun _ => .pure _

theorem runPlain_ignoresMethods (n : Native) (recv : Value) (args : List Value) :
    IgnoresMethods (runPlain n recv args) := by
  have hA := IgnoresMethods.expectReceiver Value.arrayRef? n recv
  have hS := IgnoresMethods.expectReceiver Value.text? n recv
  have hN := IgnoresMethods.expectReceiver Value.number? n recv
  cases n with
  | arrayLength => exact hA.bind fun r => (IgnoresMethods.arrayAt r).bind fun _ => .pure _
  | arrayPush =>
      exact hA.bind fun r => (IgnoresMethods.modifyStore _).bind fun _ =>
        (IgnoresMethods.arrayAt r).bind fun _ => .pure _
  | arrayPop =>
      refine hA.bind fun r => (IgnoresMethods.lastItem r).bind fun last => ?_
      cases last with
      | some v => exact (IgnoresMethods.modifyStore _).bind fun _ => .pure _
      | none => exact .pure _
  | arrayReverse => exact IgnoresMethods.reverseInPlace _ recv
  | arrayIncludes => exact hA.bind fun r => (IgnoresMethods.items r).bind fun _ => .pure _
  | arrayIndexOf =>
      refine hA.bind fun r => (IgnoresMethods.items r).bind fun xs => ?_
      split <;> exact .pure _
  | stringLength => exact hS.bind fun _ => .pure _
  | stringIncludes | stringContains | stringStartsWith | stringEndsWith | stringAppend =>
      exact hS.bind fun _ => (IgnoresMethods.display _).bind fun _ => .pure _
  | stringToUpperCase | stringToUpper | stringToLowerCase | stringToLower | stringTrim =>
      exact hS.bind fun _ => .pure _
  | numberToString | numberIsInteger | numberIsFloat => exact hN.bind fun _ => .pure _
  | arrayIsEmpty | arrayIsNotEmpty =>
      exact hA.bind fun r => (IgnoresMethods.arrayAt r).bind fun _ => .pure _
  | arrayReversed =>
      exact hA.bind fun r => (IgnoresMethods.items r).bind fun _ =>
        (IgnoresMethods.newArray _).bind fun _ =>
          (IgnoresMethods.checkCount _ _ _ _).bind fun _ => IgnoresMethods.reverseInPlace _ _
  | arrayJoin =>
      exact hA.bind fun r => (IgnoresMethods.items r).bind fun _ =>
        (IgnoresMethods.display _).bind fun _ =>
          (IgnoresMethods.mapM fun v => IgnoresMethods.display v).bind fun _ => .pure _
  | stringFinish =>
      refine hS.bind fun _ => (IgnoresMethods.display _).bind fun _ => ?_
      split <;> exact .pure _
  | numberToFixed =>
      refine hN.bind fun _ => ?_
      rcases args with _ | ⟨d, _⟩
      · exact .pure _
      · cases d with
        | number p => exact .pure _
        | _ => exact (IgnoresMethods.label _).bind fun _ => .throw _
  | arrayEach | arrayFirst | arrayFilter | arrayMap | stringTap => exact .pure _

end Run

theorem runNative_ignoresMethods {n : Native} (h : n.callsBack = false) (fuel : Nat)
    (recv : Value) (args : List Value) : Run.IgnoresMethods (runNative (fuel + 1) n recv args) := by
  have hwork : Run.IgnoresMethods (Run.nativeWork (callValue fuel) n recv args) := by
    rw [Run.nativeWork_of_callsBack h]
    exact Run.runPlain_ignoresMethods n recv args
  simp only [runNative]
  split
  · exact (Run.IgnoresMethods.checkCount _ _ _ _).bind fun _ => hwork
  · exact hwork

/-! ## The two `reverse` methods -/

theorem Run.reverseInPlace_run (n : Native) (r : Nat) (m : Machine) :
    (Run.reverseInPlace n (.array r)).run m =
      (.ok (.array r), { m with store := m.store.updateArray r Array.reverse }) := by
  simp only [Run.reverseInPlace, Run.expectArray, Run.run_bind, Run.expectReceiver_run,
    Value.arrayRef?, Run.modifyStore_run, Run.run_pure]

/-- A count check of no arguments against a least of none passes. -/
theorem Run.checkCount_nil_run (name : String) (hi : Nat) (m : Machine) :
    (Run.checkCount name 0 hi []).run m = (.ok (), m) := by
  simp [Run.checkCount_run]

/-- Reversing a new array where it stands leaves the store that allocating the reversed
items would. -/
theorem Store.allocArray_updateArray_reverse (s : Store) (xs : Array Value) :
    (s.allocArray xs).1.updateArray s.arrays.size Array.reverse = (s.allocArray xs.reverse).1 := by
  obtain ⟨arrays, objects, functions⟩ := s
  simp only [Store.allocArray, Store.updateArray, Store.mk.injEq, and_true]
  apply Array.ext
  · simp
  · intro i hi _
    simp only [Array.size_modify, Array.size_push] at hi
    by_cases h : i = arrays.size
    · subst h
      simp [Array.getElem_modify]
    · have hlt : i < arrays.size := by omega
      simp [Array.getElem_modify, Array.getElem_push, Ne.symm h, hlt]

theorem runNative_reverse_run (fuel r : Nat) (args : List Value) (m : Machine) :
    (runNative (fuel + 1) .arrayReverse (.array r) args).run m =
      if m.config.strictArity = true ∧ 0 < args.length then
        (.error (.arity "Array.reverse" 0 0 args.length), m)
      else (.ok (.array r), { m with store := m.store.updateArray r Array.reverse }) := by
  rw [runNative_run rfl]
  simp only [Nat.not_lt_zero, false_or]
  split
  · rfl
  · exact Run.reverseInPlace_run _ r m

/-- The extension set's `reverse` copies the items into a new array and reverses the copy
with the host's `reverse`: the copy ends up holding the items reversed. -/
theorem runNative_reversed_run (fuel r : Nat) {items : Array Value} (args : List Value)
    {m : Machine} (h : m.store.array? r = some items) :
    (runNative (fuel + 1) .arrayReversed (.array r) args).run m =
      if m.config.strictArity = true ∧ 0 < args.length then
        (.error (.arity "Array.reverse" 0 0 args.length), m)
      else
        (.ok (.array m.store.arrays.size), { m with store := (m.store.allocArray items.reverse).1 }) := by
  rw [runNative_run rfl]
  simp only [Nat.not_lt_zero, false_or]
  split
  · rfl
  · simp only [Run.nativeWork, Run.runPlain, Run.expectArray, Run.run_bind,
      Run.expectReceiver_run, Value.arrayRef?, Run.items_run_of_array? h, Run.newArray_run,
      Run.checkCount_nil_run, Run.reverseInPlace_run, Array.toArray_toList]
    rw [Store.allocArray_updateArray_reverse]

theorem Store.array?_size (s : Store) : s.array? s.arrays.size = none := by
  simp [Store.array?]

theorem Store.lt_of_array? {s : Store} {r : Nat} {items : Array Value}
    (h : s.array? r = some items) : r < s.arrays.size :=
  (Array.getElem?_eq_some_iff.mp h).1

/-! ## The extension set against the host -/

/-- On a host method other than the array `reverse`, a machine with the extension set and the
same machine with nothing registered give the same result and leave the same machine, registry
aside. -/
theorem callMethod_extended_eq_bare (fuel : Nat) {m : Machine} (hm : m.Extended) {v : Value}
    {name : String} {n : Native} (args : List Value) (h : Native.host? v.tag name = some n)
    (hn : n ≠ .arrayReverse) :
    (callMethod (fuel + 3) v name args).run m =
      (((callMethod (fuel + 3) v name args).run { m with methods := .empty }).1,
        { ((callMethod (fuel + 3) v name args).run { m with methods := .empty }).2 with
          methods := m.methods }) := by
  have hback : m = { ({ m with methods := .empty } : Machine) with methods := m.methods } := by
    cases m
    rfl
  rw [callMethod_of_native (hm.methodCell_host h hn),
    callMethod_of_native (Machine.methodCell_unregistered_host h)]
  have hrun := runNative_ignoresMethods (Native.callsBack_of_host? h) fuel v args
    { m with methods := .empty } m.methods
  rw [← hback] at hrun
  exact hrun

/-- The array `reverse` of the two machines: the same count check, then the extension set's
allocates a new array holding the items reversed and leaves the receiver alone, while the host's
reverses the receiver in place and answers it. -/
theorem callMethod_reverse_extended_and_bare (fuel : Nat) {m : Machine} (hm : m.Extended)
    (r : Nat) {items : Array Value} (args : List Value) (h : m.store.array? r = some items) :
    (callMethod (fuel + 3) (.array r) "reverse" args).run m =
        (if m.config.strictArity = true ∧ 0 < args.length then
          (.error (.arity "Array.reverse" 0 0 args.length), m)
        else
          (.ok (.array m.store.arrays.size),
            { m with store := (m.store.allocArray items.reverse).1 })) ∧
      (callMethod (fuel + 3) (.array r) "reverse" args).run { m with methods := .empty } =
        (if m.config.strictArity = true ∧ 0 < args.length then
          (.error (.arity "Array.reverse" 0 0 args.length), { m with methods := .empty })
        else
          (.ok (.array r),
            { m with methods := .empty, store := m.store.updateArray r Array.reverse })) := by
  constructor
  · rw [callMethod_of_native (hm.methodCell_reverse r), runNative_reversed_run fuel r args h]
  · rw [callMethod_of_native (Machine.methodCell_unregistered_host (n := .arrayReverse) rfl),
      runNative_reverse_run]

/-- The copy that the extension set's `reverse` makes sits at a handle where no array was
before, holds what the host's `reverse` leaves in the receiver, and leaves the receiver's items
as they were. -/
theorem reversed_copy_fresh {s : Store} {r : Nat} {items : Array Value}
    (h : s.array? r = some items) :
    s.array? s.arrays.size = none ∧
      (s.allocArray items.reverse).1.array? s.arrays.size =
        (s.updateArray r Array.reverse).array? r ∧
      (s.allocArray items.reverse).1.array? r = some items := by
  have hne : r ≠ s.arrays.size := Nat.ne_of_lt (Store.lt_of_array? h)
  refine ⟨Store.array?_size s, ?_, ?_⟩
  · simp [h]
  · simp [hne, h]

/-- A machine with the extension set and the same machine with nothing registered agree on
every host method of a receiver's kind but one: the same result, and the same machine after,
registry aside. The exception is the array `reverse`. There both run the same count check; then
the extension set's allocates a new array, at a handle where no array was, holding what the
host's leaves in the receiver, and keeps the receiver's items, while the host's reverses the
receiver in place and answers the receiver itself. -/
theorem extension_set_agrees_with_host :
    (∀ (fuel : Nat) (m : Machine) (v : Value) (name : String) (n : Native) (args : List Value),
      m.Extended → Native.host? v.tag name = some n → ¬ (v.tag = .array ∧ name = "reverse") →
        (callMethod (fuel + 3) v name args).run m =
          (((callMethod (fuel + 3) v name args).run { m with methods := .empty }).1,
            { ((callMethod (fuel + 3) v name args).run { m with methods := .empty }).2 with
              methods := m.methods })) ∧
    (∀ (fuel : Nat) (m : Machine) (r : Nat) (items : Array Value) (args : List Value),
      m.Extended → m.store.array? r = some items →
        ((callMethod (fuel + 3) (.array r) "reverse" args).run m =
            (if m.config.strictArity = true ∧ 0 < args.length then
              (.error (.arity "Array.reverse" 0 0 args.length), m)
            else
              (.ok (.array m.store.arrays.size),
                { m with store := (m.store.allocArray items.reverse).1 })) ∧
          (callMethod (fuel + 3) (.array r) "reverse" args).run { m with methods := .empty } =
            (if m.config.strictArity = true ∧ 0 < args.length then
              (.error (.arity "Array.reverse" 0 0 args.length), { m with methods := .empty })
            else
              (.ok (.array r),
                { m with methods := .empty, store := m.store.updateArray r Array.reverse }))) ∧
        m.store.array? m.store.arrays.size = none ∧
        (m.store.allocArray items.reverse).1.array? m.store.arrays.size =
          (m.store.updateArray r Array.reverse).array? r ∧
        (m.store.allocArray items.reverse).1.array? r = some items) := by
  constructor
  · intro fuel m v name n args hm h hrev
    have hn : n ≠ .arrayReverse := by
      rintro rfl
      exact hrev (Native.host?_spec h)
    exact callMethod_extended_eq_bare fuel hm args h hn
  · intro fuel m r items args hm h
    exact ⟨callMethod_reverse_extended_and_bare fuel hm r args h, reversed_copy_fresh h⟩

/-- A new machine with the extension set that holds the array `[1, 2]` at handle 0. -/
def Machine.withPair : Machine :=
  { Machine.withExtensions Config.default with
    store := ((Machine.withExtensions Config.default).store.allocArray
      #[.number 1, .number 2]).1 }

/-- On a new machine with the extension set, `" a ".trim()` runs as on a bare one, and on
`[1, 2]` the two `reverse` methods part as stated. -/
theorem extension_set_agrees_on_trim_and_pair :
    ((Machine.withExtensions Config.default).Extended ∧
      Native.host? (Value.string " a ").tag "trim" = some .stringTrim ∧
      ¬ ((Value.string " a ").tag = .array ∧ "trim" = "reverse") ∧
      (callMethod 3 (.string " a ") "trim" []).run (Machine.withExtensions Config.default) =
        (((callMethod 3 (.string " a ") "trim" []).run
            { Machine.withExtensions Config.default with methods := .empty }).1,
          { ((callMethod 3 (.string " a ") "trim" []).run
              { Machine.withExtensions Config.default with methods := .empty }).2 with
            methods := (Machine.withExtensions Config.default).methods })) ∧
    (Machine.withPair.Extended ∧
      Machine.withPair.store.array? 0 = some #[.number 1, .number 2] ∧
      ((callMethod 3 (.array 0) "reverse" []).run Machine.withPair =
          (if Machine.withPair.config.strictArity = true ∧ 0 < ([] : List Value).length then
            (.error (.arity "Array.reverse" 0 0 ([] : List Value).length), Machine.withPair)
          else
            (.ok (.array Machine.withPair.store.arrays.size),
              { Machine.withPair with
                store := (Machine.withPair.store.allocArray
                  #[Value.number 1, .number 2].reverse).1 })) ∧
        (callMethod 3 (.array 0) "reverse" []).run { Machine.withPair with methods := .empty } =
          (if Machine.withPair.config.strictArity = true ∧ 0 < ([] : List Value).length then
            (.error (.arity "Array.reverse" 0 0 ([] : List Value).length),
              { Machine.withPair with methods := .empty })
          else
            (.ok (.array 0),
              { Machine.withPair with
                methods := .empty,
                store := Machine.withPair.store.updateArray 0 Array.reverse }))) ∧
      Machine.withPair.store.array? Machine.withPair.store.arrays.size = none ∧
      (Machine.withPair.store.allocArray #[Value.number 1, .number 2].reverse).1.array?
          Machine.withPair.store.arrays.size =
        (Machine.withPair.store.updateArray 0 Array.reverse).array? 0 ∧
      (Machine.withPair.store.allocArray #[Value.number 1, .number 2].reverse).1.array? 0 =
        some #[.number 1, .number 2]) := by
  have hm := Machine.withExtensions_extended Config.default
  have hpair : Machine.withPair.Extended := hm.allocArray #[.number 1, .number 2]
  have hitems : Machine.withPair.store.array? 0 = some #[.number 1, .number 2] := by
    simp only [Machine.withPair, Store.array?_allocArray]
    rfl
  exact ⟨⟨hm, rfl, by decide,
      extension_set_agrees_with_host.1 0 _ (.string " a ") "trim" .stringTrim [] hm rfl
        (by decide)⟩,
    ⟨hpair, hitems,
      extension_set_agrees_with_host.2 0 Machine.withPair 0 #[.number 1, .number 2] [] hpair
        hitems⟩⟩

end ScriptHost
