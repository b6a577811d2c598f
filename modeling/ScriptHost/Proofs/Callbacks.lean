import ScriptHost.Proofs.Extensions

/-! # Methods that call back

`each`, `first`, `filter` and `map` call back on the items their array held when they began,
in order, one argument each, whatever the calls do to the array; `tap` calls back once.
-/

namespace ScriptHost

namespace Run

theorem ext {α : Type} {x y : Run α} (h : ∀ m, x.run m = y.run m) : x = y := by
  apply ExceptT.ext
  funext m
  exact h m

/-- The loop of `each` makes the calls of `mapM` and forgets their answers. -/
theorem forIn_discard_run (f : Value → Run Value) (xs : List Value) (m : Machine) :
    (forIn xs PUnit.unit fun x _ => do
        discard (f x)
        pure (ForInStep.yield PUnit.unit)).run m =
      (discard (xs.mapM f)).run m := by
  induction xs generalizing m with
  | nil => rfl
  | cons x xs ih =>
      rw [List.forIn_cons, List.mapM_cons, run_bind, run_bind, run_discard, run_discard, run_bind]
      cases (f x).run m with
      | mk r m₁ =>
          cases r with
          | error e => rfl
          | ok y =>
              simp only [run_pure]
              rw [ih m₁, run_discard, run_bind]
              cases (xs.mapM f).run m₁ with
              | mk r₂ m₂ => cases r₂ <;> rfl

end Run

/-! ## The methods as loops over the items at entry -/

section Loops

variable (fuel r : Nat) (c : Value)

theorem runNative_map_eq :
    runNative (fuel + 1) .arrayMap (.array r) [c] =
      (do
        let xs ← Run.items r
        Run.newArray (← xs.mapM fun x => callValue fuel c [x])) := by
  apply Run.ext
  intro m
  rw [runNative_run rfl, if_neg (by simp)]
  rfl

theorem runNative_filter_eq :
    runNative (fuel + 1) .arrayFilter (.array r) [c] =
      (do
        let xs ← Run.items r
        Run.newArray (← xs.filterM fun x => do return (← callValue fuel c [x]).truthy)) := by
  apply Run.ext
  intro m
  rw [runNative_run rfl, if_neg (by simp)]
  rfl

theorem runNative_first_eq :
    runNative (fuel + 1) .arrayFirst (.array r) [c] =
      (do
        let xs ← Run.items r
        let found ← xs.findM? fun x => do return (← callValue fuel c [x]).truthy
        return found.getD .null) := by
  apply Run.ext
  intro m
  rw [runNative_run rfl, if_neg (by simp)]
  rfl

theorem runNative_first_nil_eq :
    runNative (fuel + 1) .arrayFirst (.array r) [] =
      (do return (← Run.items r).headD .null) := by
  apply Run.ext
  intro m
  rw [runNative_run rfl, if_neg (by simp)]
  rfl

theorem runNative_each_eq :
    runNative (fuel + 1) .arrayEach (.array r) [c] =
      (do
        let xs ← Run.items r
        discard (xs.mapM fun x => callValue fuel c [x])
        return .null) := by
  apply Run.ext
  intro m
  rw [runNative_run rfl, if_neg (by simp)]
  simp only [Run.nativeWork, Run.expectArray, Run.expectReceiver, Value.arrayRef?, pure_bind,
    List.headD_cons, Run.run_bind, Run.items_run, Run.forIn_discard_run]

theorem runNative_tap_eq (s : String) :
    runNative (fuel + 1) .stringTap (.string s) [c] =
      (do
        discard (callValue fuel c [.string s])
        return .string s) := by
  apply Run.ext
  intro m
  rw [runNative_run rfl, if_neg (by simp)]
  simp only [Run.nativeWork, Run.expectString, Run.expectReceiver, Value.text?, Run.run_bind,
    Run.run_discard, Run.run_pure]

end Loops

/-! ## The calls, item by item -/

namespace Run

variable {α β : Type} {x : Run α} {f : α → Run β} {m m₁ : Machine} {a : α} {e : Fault}

theorem run_bind_of_ok (h : x.run m = (.ok a, m₁)) : (x >>= f).run m = (f a).run m₁ := by
  rw [run_bind, h]

theorem run_bind_of_error (h : x.run m = (.error e, m₁)) : (x >>= f).run m = (.error e, m₁) := by
  rw [run_bind, h]

/-- The calls `f x` on the items of a list in order, each on the machine the one before left,
all answering: `ys` are their answers and `m'` the machine the last call left. -/
inductive Answers (f : α → Run β) : List α → Machine → List β → Machine → Prop
  | nil (m : Machine) : Answers f [] m [] m
  | cons {x : α} {xs : List α} {m m₁ m₂ : Machine} {y : β} {ys : List β} :
      (f x).run m = (.ok y, m₁) → Answers f xs m₁ ys m₂ → Answers f (x :: xs) m (y :: ys) m₂

namespace Answers

variable {xs pre : List α} {x : α} {ys : List β} {m' m₀ : Machine}

theorem mapM_run (h : Answers f xs m ys m') : (xs.mapM f).run m = (.ok ys, m') := by
  induction h with
  | nil => rfl
  | cons hx _ ih =>
      rw [List.mapM_cons, run_bind_of_ok hx, run_bind_of_ok ih]
      rfl

/-- After the calls on a prefix answer, the first call that fails ends the loop with its fault,
on the machine it left. -/
theorem mapM_run_of_fault (h : Answers f pre m ys m₀) (hx : (f x).run m₀ = (.error e, m₁))
    (post : List α) : ((pre ++ x :: post).mapM f).run m = (.error e, m₁) := by
  induction h with
  | nil => rw [List.nil_append, List.mapM_cons, run_bind_of_error hx]
  | cons hz _ ih => rw [List.cons_append, List.mapM_cons, run_bind_of_ok hz, run_bind_of_error (ih hx)]

/-- Every run of the calls, stopped at the first answer that `stop` picks, ends in one of three
ways: every call answers and none is picked; or the calls on a prefix answer, none picked, and
the next call fails; or it answers and is picked. -/
theorem cases_run (f : α → Run β) (stop : β → Bool) (xs : List α) (m : Machine) :
    (∃ ys m', Answers f xs m ys m' ∧ ∀ y ∈ ys, stop y = false) ∨
      ∃ pre x post ys m₀, xs = pre ++ x :: post ∧ Answers f pre m ys m₀ ∧
        (∀ y ∈ ys, stop y = false) ∧
        ((∃ e m₁, (f x).run m₀ = (.error e, m₁)) ∨
          ∃ y m₁, (f x).run m₀ = (.ok y, m₁) ∧ stop y = true) := by
  induction xs generalizing m with
  | nil => exact .inl ⟨[], m, .nil m, by simp⟩
  | cons x xs ih =>
      -- the head call either fails, is picked, or answers and the rest decides
      rcases hx : (f x).run m with ⟨_ | y, m₁⟩
      case error e => exact .inr ⟨[], x, xs, [], m, rfl, .nil m, by simp, .inl ⟨e, m₁, hx⟩⟩
      case ok =>
        cases hs : stop y
        case true => exact .inr ⟨[], x, xs, [], m, rfl, .nil m, by simp, .inr ⟨y, m₁, hx, hs⟩⟩
        case false =>
          rcases ih m₁ with ⟨ys, m', hys, hf⟩ | ⟨pre, z, post, ys, m₀, rfl, hpre, hf, hz⟩
          · exact .inl ⟨y :: ys, m', .cons hx hys, List.forall_mem_cons.mpr ⟨hs, hf⟩⟩
          · exact .inr ⟨x :: pre, z, post, y :: ys, m₀, rfl, .cons hx hpre,
              List.forall_mem_cons.mpr ⟨hs, hf⟩, hz⟩

end Answers

/-! The tests of `filter` and `first` are the truthiness of the calls' answers. -/

namespace Answers

variable {f : α → Run Value} {xs pre : List α} {x : α} {y : Value} {ys : List Value}
  {m' m₀ : Machine}

theorem test_run_of_ok (hx : (f x).run m = (.ok y, m₁)) :
    (do return (← f x).truthy : Run Bool).run m = (.ok y.truthy, m₁) := by
  rw [run_bind_of_ok hx]
  rfl

theorem test_run_of_error (hx : (f x).run m = (.error e, m₁)) :
    (do return (← f x).truthy : Run Bool).run m = (.error e, m₁) :=
  run_bind_of_error hx

/-- The items whose calls answered truthy, in order. -/
theorem filterAuxM_run (h : Answers f xs m ys m') (acc : List α) :
    (List.filterAuxM (fun x => do return (← f x).truthy) xs acc).run m =
      (.ok ((((xs.zip ys).filter fun p => p.2.truthy).map Prod.fst).reverse ++ acc), m') := by
  induction h generalizing acc with
  | nil => rfl
  | @cons z zs _ _ _ y ys hz _ ih =>
      simp only [List.filterAuxM]
      rw [run_bind_of_ok (test_run_of_ok hz), ih]
      cases hy : y.truthy <;> simp [hy]

theorem filterM_run (h : Answers f xs m ys m') :
    (xs.filterM fun x => do return (← f x).truthy).run m =
      (.ok (((xs.zip ys).filter fun p => p.2.truthy).map Prod.fst), m') := by
  simp only [List.filterM]
  rw [run_bind_of_ok (h.filterAuxM_run []), List.append_nil, List.reverse_reverse]
  rfl

theorem filterAuxM_run_of_fault (h : Answers f pre m ys m₀) (hx : (f x).run m₀ = (.error e, m₁))
    (post acc : List α) :
    (List.filterAuxM (fun x => do return (← f x).truthy) (pre ++ x :: post) acc).run m =
      (.error e, m₁) := by
  induction h generalizing acc with
  | nil =>
      simp only [List.nil_append, List.filterAuxM]
      rw [run_bind_of_error (test_run_of_error hx)]
  | cons hz _ ih =>
      simp only [List.cons_append, List.filterAuxM]
      rw [run_bind_of_ok (test_run_of_ok hz), ih hx]

theorem filterM_run_of_fault (h : Answers f pre m ys m₀) (hx : (f x).run m₀ = (.error e, m₁))
    (post : List α) :
    ((pre ++ x :: post).filterM fun x => do return (← f x).truthy).run m = (.error e, m₁) := by
  simp only [List.filterM]
  rw [run_bind_of_error (h.filterAuxM_run_of_fault hx post [])]

/-- A search over items whose calls all answered falsy finds nothing. -/
theorem findM?_run_of_falsy (h : Answers f xs m ys m') (hf : ∀ y ∈ ys, y.truthy = false) :
    (xs.findM? fun x => do return (← f x).truthy).run m = (.ok none, m') := by
  induction h with
  | nil => rfl
  | cons hz _ ih =>
      simp only [List.findM?]
      rw [run_bind_of_ok (test_run_of_ok hz), hf _ List.mem_cons_self]
      exact ih fun y hy => hf y (List.mem_cons_of_mem _ hy)

/-- Past a prefix whose calls answered falsy, a search stops at the first item whose call
answers truthy, and makes no call after it. -/
theorem findM?_run_of_truthy (h : Answers f pre m ys m₀) (hf : ∀ y ∈ ys, y.truthy = false)
    (hx : (f x).run m₀ = (.ok y, m₁)) (hy : y.truthy = true) (post : List α) :
    ((pre ++ x :: post).findM? fun x => do return (← f x).truthy).run m = (.ok (some x), m₁) := by
  induction h with
  | nil =>
      simp only [List.nil_append, List.findM?]
      rw [run_bind_of_ok (test_run_of_ok hx), hy]
      rfl
  | cons hz _ ih =>
      simp only [List.cons_append, List.findM?]
      rw [run_bind_of_ok (test_run_of_ok hz), hf _ List.mem_cons_self]
      exact ih (fun y hy => hf y (List.mem_cons_of_mem _ hy)) hx

theorem findM?_run_of_fault (h : Answers f pre m ys m₀) (hf : ∀ y ∈ ys, y.truthy = false)
    (hx : (f x).run m₀ = (.error e, m₁)) (post : List α) :
    ((pre ++ x :: post).findM? fun x => do return (← f x).truthy).run m = (.error e, m₁) := by
  induction h with
  | nil =>
      simp only [List.nil_append, List.findM?]
      rw [run_bind_of_error (test_run_of_error hx)]
  | cons hz _ ih =>
      simp only [List.cons_append, List.findM?]
      rw [run_bind_of_ok (test_run_of_ok hz), hf _ List.mem_cons_self]
      exact ih (fun y hy => hf y (List.mem_cons_of_mem _ hy)) hx

end Answers

end Run

/-- Calling anything but a function fails at once, naming its label, and changes nothing. -/
theorem callValue_run_of_ne (fuel : Nat) {c : Value} (hc : ∀ f, c ≠ .function f)
    (args : List Value) (m : Machine) :
    (callValue (fuel + 1) c args).run m = (.error (.notCallable (m.store.label c)), m) := by
  cases c with
  | function f => exact absurd rfl (hc f)
  | _ => simp only [callValue, Run.run_bind, Run.label_run, Run.run_throw]

/-! ## How each method ends -/

section Outcomes

variable {fuel r : Nat} {c : Value} {m m' m₀ m₁ : Machine} {ys : List Value}
  {pre post : List Value} {x : Value} {e : Fault}

theorem runNative_map_run
    (h : Run.Answers (fun x => callValue fuel c [x]) ((m.store.array? r).getD #[]).toList m ys m') :
    (runNative (fuel + 1) .arrayMap (.array r) [c]).run m =
      (.ok (.array m'.store.arrays.size), { m' with store := (m'.store.allocArray ys.toArray).1 }) := by
  rw [runNative_map_eq, Run.run_bind_of_ok (Run.items_run r m), Run.run_bind_of_ok h.mapM_run,
    Run.newArray_run]

theorem runNative_filter_run
    (h : Run.Answers (fun x => callValue fuel c [x]) ((m.store.array? r).getD #[]).toList m ys m') :
    (runNative (fuel + 1) .arrayFilter (.array r) [c]).run m =
      (.ok (.array m'.store.arrays.size),
        { m' with store := (m'.store.allocArray
          (((((m.store.array? r).getD #[]).toList.zip ys).filter fun p => p.2.truthy).map
            Prod.fst).toArray).1 }) := by
  rw [runNative_filter_eq, Run.run_bind_of_ok (Run.items_run r m), Run.run_bind_of_ok h.filterM_run,
    Run.newArray_run]

theorem runNative_each_run
    (h : Run.Answers (fun x => callValue fuel c [x]) ((m.store.array? r).getD #[]).toList m ys m') :
    (runNative (fuel + 1) .arrayEach (.array r) [c]).run m = (.ok .null, m') := by
  rw [runNative_each_eq, Run.run_bind_of_ok (Run.items_run r m), Run.run_bind, Run.run_discard,
    h.mapM_run]
  rfl

theorem runNative_first_run_of_falsy
    (h : Run.Answers (fun x => callValue fuel c [x]) ((m.store.array? r).getD #[]).toList m ys m')
    (hf : ∀ y ∈ ys, y.truthy = false) :
    (runNative (fuel + 1) .arrayFirst (.array r) [c]).run m = (.ok .null, m') := by
  rw [runNative_first_eq, Run.run_bind_of_ok (Run.items_run r m),
    Run.run_bind_of_ok (h.findM?_run_of_falsy hf)]
  rfl

theorem runNative_first_run_of_truthy
    (hxs : ((m.store.array? r).getD #[]).toList = pre ++ x :: post)
    (h : Run.Answers (fun x => callValue fuel c [x]) pre m ys m₀) (hf : ∀ y ∈ ys, y.truthy = false)
    {y : Value} (hx : (callValue fuel c [x]).run m₀ = (.ok y, m₁)) (hy : y.truthy = true) :
    (runNative (fuel + 1) .arrayFirst (.array r) [c]).run m = (.ok x, m₁) := by
  rw [runNative_first_eq, Run.run_bind_of_ok (Run.items_run r m), hxs,
    Run.run_bind_of_ok (h.findM?_run_of_truthy hf hx hy post)]
  rfl

/-- Past a prefix whose calls answered (falsy, for `first`), the first call that fails ends
the method with its fault, on the machine it left. -/
theorem runNative_loop_run_of_fault {n : Native}
    (hn : n ∈ [Native.arrayEach, .arrayFirst, .arrayFilter, .arrayMap])
    (hxs : ((m.store.array? r).getD #[]).toList = pre ++ x :: post)
    (h : Run.Answers (fun x => callValue fuel c [x]) pre m ys m₀)
    (hfirst : n = .arrayFirst → ∀ y ∈ ys, y.truthy = false)
    (hx : (callValue fuel c [x]).run m₀ = (.error e, m₁)) :
    (runNative (fuel + 1) n (.array r) [c]).run m = (.error e, m₁) := by
  simp only [List.mem_cons, List.not_mem_nil, or_false] at hn
  rcases hn with rfl | rfl | rfl | rfl
  · rw [runNative_each_eq, Run.run_bind_of_ok (Run.items_run r m), hxs, Run.run_bind,
      Run.run_discard, h.mapM_run_of_fault hx]
  · rw [runNative_first_eq, Run.run_bind_of_ok (Run.items_run r m), hxs,
      Run.run_bind_of_error (h.findM?_run_of_fault (hfirst rfl) hx post)]
  · rw [runNative_filter_eq, Run.run_bind_of_ok (Run.items_run r m), hxs,
      Run.run_bind_of_error (h.filterM_run_of_fault hx post)]
  · rw [runNative_map_eq, Run.run_bind_of_ok (Run.items_run r m), hxs,
      Run.run_bind_of_error (h.mapM_run_of_fault hx post)]

theorem runNative_first_nil_run :
    (runNative (fuel + 1) .arrayFirst (.array r) []).run m =
      (.ok (((m.store.array? r).getD #[]).toList.headD .null), m) := by
  rw [runNative_first_nil_eq, Run.run_bind_of_ok (Run.items_run r m)]
  rfl

theorem runNative_tap_run (t : String)
    (h : Run.Answers (fun x => callValue fuel c [x]) [.string t] m ys m') :
    (runNative (fuel + 1) .stringTap (.string t) [c]).run m = (.ok (.string t), m') := by
  cases h with
  | cons hx hrest =>
      cases hrest
      rw [runNative_tap_eq, Run.run_bind, Run.run_discard, hx]
      rfl

theorem runNative_tap_run_of_fault (t : String)
    (hx : (callValue fuel c [.string t]).run m = (.error e, m₁)) :
    (runNative (fuel + 1) .stringTap (.string t) [c]).run m = (.error e, m₁) := by
  rw [runNative_tap_eq, Run.run_bind, Run.run_discard, hx]

end Outcomes

/-! ## The methods change no array -/

namespace Run

/-- A computation that leaves the items of array `r` as they were, on every machine where `r`
holds an array. -/
def KeepsArray {α : Type} (r : Nat) (x : Run α) : Prop :=
  ∀ (m : Machine) (items : Array Value), m.store.array? r = some items →
    (x.run m).2.store.array? r = some items

namespace KeepsArray

variable {r : Nat} {α β : Type}

theorem pure (a : α) : KeepsArray r (pure a : Run α) := fun _ _ h => h

theorem bind {x : Run α} {f : α → Run β} (hx : KeepsArray r x) (hf : ∀ a, KeepsArray r (f a)) :
    KeepsArray r (x >>= f) := by
  intro m items h
  have h₁ := hx m items h
  rw [run_bind]
  cases hxm : x.run m with
  | mk res m₁ =>
      rw [hxm] at h₁
      cases res with
      | ok a => exact hf a m₁ items h₁
      | error e => exact h₁

theorem discard {x : Run α} (hx : KeepsArray r x) : KeepsArray r (discard x) := by
  rw [Functor.discard, LawfulFunctor.map_const, Function.comp_apply, map_eq_pure_bind]
  exact hx.bind fun _ => .pure _

theorem forIn {xs : List α} {b : β} {f : α → β → Run (ForInStep β)}
    (hf : ∀ x b, KeepsArray r (f x b)) : KeepsArray r (forIn xs b f) := by
  induction xs generalizing b with
  | nil => exact .pure b
  | cons x xs ih =>
      rw [List.forIn_cons]
      refine (hf x b).bind fun step => ?_
      cases step with
      | done b' => exact .pure b'
      | yield b' => exact ih

theorem mapM {xs : List α} {f : α → Run β} (hf : ∀ x, KeepsArray r (f x)) :
    KeepsArray r (xs.mapM f) := by
  induction xs with
  | nil => exact .pure []
  | cons x xs ih =>
      rw [List.mapM_cons]
      exact (hf x).bind fun _ => ih.bind fun _ => .pure _

theorem filterAuxM {xs : List α} {p : α → Run Bool} (hp : ∀ x, KeepsArray r (p x))
    (acc : List α) : KeepsArray r (List.filterAuxM p xs acc) := by
  induction xs generalizing acc with
  | nil => exact .pure acc
  | cons x xs ih => exact (hp x).bind fun _ => ih _

theorem filterM {xs : List α} {p : α → Run Bool} (hp : ∀ x, KeepsArray r (p x)) :
    KeepsArray r (xs.filterM p) :=
  (filterAuxM hp []).bind fun _ => .pure _

theorem findM? {xs : List α} {p : α → Run Bool} (hp : ∀ x, KeepsArray r (p x)) :
    KeepsArray r (xs.findM? p) := by
  induction xs with
  | nil => exact .pure none
  | cons x xs ih =>
      refine (hp x).bind fun b => ?_
      cases b with
      | true => exact .pure _
      | false => exact ih

theorem items (r' : Nat) : KeepsArray r (items r') := fun _ _ h => h

theorem expectReceiver (view : Value → Option α) (n : Native) (v : Value) :
    KeepsArray r (expectReceiver view n v) := by
  intro m items h
  rw [expectReceiver_run]
  cases view v <;> exact h

/-- A new array goes past the end of the table, clear of every array there. -/
theorem newArray (xs : List Value) : KeepsArray r (newArray xs) := by
  intro m items h
  have hne : r ≠ m.store.arrays.size := Nat.ne_of_lt (Store.lt_of_array? h)
  rw [newArray_run]
  simp [hne, h]

end KeepsArray

/-- A method that calls back changes no array itself: it keeps every array that its calls
keep. -/
theorem nativeWork_keepsArray {r : Nat} {call : Value → List Value → Run Value}
    (hcall : ∀ v args, KeepsArray r (call v args)) {n : Native} (hn : n.callsBack = true)
    (recv : Value) (args : List Value) : KeepsArray r (nativeWork call n recv args) := by
  have hA := KeepsArray.expectReceiver (r := r) Value.arrayRef? n recv
  cases n <;> simp only [Native.callsBack, Bool.false_eq_true] at hn
  case arrayEach =>
    exact hA.bind fun r' => (KeepsArray.items r').bind fun _ =>
      (KeepsArray.forIn fun x _ => (hcall _ [x]).discard.bind fun _ => .pure _).bind fun _ =>
        .pure _
  case arrayFirst =>
    refine hA.bind fun r' => (KeepsArray.items r').bind fun _ => ?_
    rcases args with _ | ⟨cb, _⟩
    · exact .pure _
    · exact (KeepsArray.findM? fun x => (hcall cb [x]).bind fun _ => .pure _).bind fun _ =>
        .pure _
  case arrayFilter =>
    exact hA.bind fun r' => (KeepsArray.items r').bind fun _ =>
      (KeepsArray.filterM fun x => (hcall _ [x]).bind fun _ => .pure _).bind fun _ =>
        .newArray _
  case arrayMap =>
    exact hA.bind fun r' => (KeepsArray.items r').bind fun _ =>
      (KeepsArray.mapM fun x => hcall _ [x]).bind fun _ => .newArray _
  case stringTap =>
    refine (KeepsArray.expectReceiver Value.text? _ recv).discard.bind fun _ => ?_
    rcases args with _ | ⟨cb, _⟩
    · exact (KeepsArray.pure ()).bind fun _ => .pure _
    · exact (hcall cb [recv]).discard.bind fun _ => .pure _

end Run

/-! ## The callback methods -/

/-- The methods that call back run as loops over the items their array held when they began,
calling back with one argument, the item, in order of index, each call on the machine the one
before left, and whatever the calls do to the array. When every call answers, `map` answers a
new array of the answers, `filter` a new array of the items whose answers are truthy, `each`
null, and `first` null if no answer is truthy; `first` answers the first item whose call answers
truthy and makes no call after it, and with no callback it answers the first item or null. Past
the calls that answered (falsy, for `first`), the first call that fails ends the method with its
fault on the machine it left; a callback that is not a function fails so at the first item,
naming its label, with nothing changed. `tap` calls once, with the receiver, and answers it.
The calls end in one of these ways on every run, and the methods themselves change no array:
whatever the calls are, an array they keep, the method keeps. -/
theorem callbacks_run_over_entry_items :
    (∀ (fuel r : Nat) (c : Value) (m m' : Machine) (ys : List Value),
      Run.Answers (fun x => callValue fuel c [x]) ((m.store.array? r).getD #[]).toList m ys m' →
        (runNative (fuel + 1) .arrayMap (.array r) [c]).run m =
          (.ok (.array m'.store.arrays.size),
            { m' with store := (m'.store.allocArray ys.toArray).1 })) ∧
    (∀ (fuel r : Nat) (c : Value) (m m' : Machine) (ys : List Value),
      Run.Answers (fun x => callValue fuel c [x]) ((m.store.array? r).getD #[]).toList m ys m' →
        (runNative (fuel + 1) .arrayFilter (.array r) [c]).run m =
          (.ok (.array m'.store.arrays.size),
            { m' with store := (m'.store.allocArray
              (((((m.store.array? r).getD #[]).toList.zip ys).filter fun p => p.2.truthy).map
                Prod.fst).toArray).1 })) ∧
    (∀ (fuel r : Nat) (c : Value) (m m' : Machine) (ys : List Value),
      Run.Answers (fun x => callValue fuel c [x]) ((m.store.array? r).getD #[]).toList m ys m' →
        (runNative (fuel + 1) .arrayEach (.array r) [c]).run m = (.ok .null, m')) ∧
    (∀ (fuel r : Nat) (c : Value) (m m' : Machine) (ys : List Value),
      Run.Answers (fun x => callValue fuel c [x]) ((m.store.array? r).getD #[]).toList m ys m' →
        (∀ y ∈ ys, y.truthy = false) →
          (runNative (fuel + 1) .arrayFirst (.array r) [c]).run m = (.ok .null, m')) ∧
    (∀ (fuel r : Nat) (c : Value) (m m₀ m₁ : Machine) (pre post ys : List Value) (x y : Value),
      ((m.store.array? r).getD #[]).toList = pre ++ x :: post →
        Run.Answers (fun x => callValue fuel c [x]) pre m ys m₀ → (∀ y ∈ ys, y.truthy = false) →
          (callValue fuel c [x]).run m₀ = (.ok y, m₁) → y.truthy = true →
            (runNative (fuel + 1) .arrayFirst (.array r) [c]).run m = (.ok x, m₁)) ∧
    (∀ (fuel r : Nat) (c : Value) (n : Native) (m m₀ m₁ : Machine) (pre post ys : List Value)
        (x : Value) (e : Fault),
      n ∈ [Native.arrayEach, .arrayFirst, .arrayFilter, .arrayMap] →
        ((m.store.array? r).getD #[]).toList = pre ++ x :: post →
          Run.Answers (fun x => callValue fuel c [x]) pre m ys m₀ →
            (n = .arrayFirst → ∀ y ∈ ys, y.truthy = false) →
              (callValue fuel c [x]).run m₀ = (.error e, m₁) →
                (runNative (fuel + 1) n (.array r) [c]).run m = (.error e, m₁)) ∧
    (∀ (fuel : Nat) (c : Value) (args : List Value) (m : Machine),
      (∀ f, c ≠ .function f) →
        (callValue (fuel + 1) c args).run m = (.error (.notCallable (m.store.label c)), m)) ∧
    (∀ (fuel r : Nat) (m : Machine),
      (runNative (fuel + 1) .arrayFirst (.array r) []).run m =
        (.ok (((m.store.array? r).getD #[]).toList.headD .null), m)) ∧
    (∀ (fuel : Nat) (t : String) (c : Value) (m m' : Machine) (ys : List Value),
      Run.Answers (fun x => callValue fuel c [x]) [.string t] m ys m' →
        (runNative (fuel + 1) .stringTap (.string t) [c]).run m = (.ok (.string t), m')) ∧
    (∀ (fuel : Nat) (t : String) (c : Value) (m m₁ : Machine) (e : Fault),
      (callValue fuel c [.string t]).run m = (.error e, m₁) →
        (runNative (fuel + 1) .stringTap (.string t) [c]).run m = (.error e, m₁)) ∧
    (∀ (fuel : Nat) (c : Value) (xs : List Value) (m : Machine) (stop : Value → Bool),
      (∃ ys m', Run.Answers (fun x => callValue fuel c [x]) xs m ys m' ∧
          ∀ y ∈ ys, stop y = false) ∨
        ∃ pre x post ys m₀, xs = pre ++ x :: post ∧
          Run.Answers (fun x => callValue fuel c [x]) pre m ys m₀ ∧ (∀ y ∈ ys, stop y = false) ∧
          ((∃ e m₁, (callValue fuel c [x]).run m₀ = (.error e, m₁)) ∨
            ∃ y m₁, (callValue fuel c [x]).run m₀ = (.ok y, m₁) ∧ stop y = true)) ∧
    (∀ (call : Value → List Value → Run Value) (r : Nat) (n : Native) (recv : Value)
        (args : List Value),
      n.callsBack = true → (∀ v a, Run.KeepsArray r (call v a)) →
        Run.KeepsArray r (Run.nativeWork call n recv args)) := by
  refine ⟨?map, ?filter, ?each, ?falsy, ?truthy, ?fault, ?notCallable, ?firstNil, ?tap,
    ?tapFault, ?cases, ?keeps⟩
  case map => exact fun _ _ _ _ _ _ h => runNative_map_run h
  case filter => exact fun _ _ _ _ _ _ h => runNative_filter_run h
  case each => exact fun _ _ _ _ _ _ h => runNative_each_run h
  case falsy => exact fun _ _ _ _ _ _ h hf => runNative_first_run_of_falsy h hf
  case truthy =>
    exact fun _ _ _ _ _ _ _ _ _ _ _ hxs h hf hx hy => runNative_first_run_of_truthy hxs h hf hx hy
  case fault =>
    exact fun _ _ _ _ _ _ _ _ _ _ _ _ hn hxs h hfirst hx =>
      runNative_loop_run_of_fault hn hxs h hfirst hx
  case notCallable => exact fun fuel _ args m hc => callValue_run_of_ne fuel hc args m
  case firstNil => exact fun _ _ _ => runNative_first_nil_run
  case tap => exact fun _ t _ _ _ _ h => runNative_tap_run t h
  case tapFault => exact fun _ t _ _ _ _ hx => runNative_tap_run_of_fault t hx
  case cases => exact fun fuel c xs m stop => Run.Answers.cases_run _ stop xs m
  case keeps => exact fun _ _ _ recv args hn hcall => Run.nativeWork_keepsArray hcall hn recv args

/-- `Machine.withPair` with two closures, `yes` at function handle 19 and `no` at 20, that
answer `true` and `false` to anything. -/
def Machine.withPairAndTests : Machine :=
  { Machine.withPair with
    store := ((Machine.withPair.store.allocFunction (.mk "yes" none (.closure (.bool true)))).1
      |>.allocFunction (.mk "no" none (.closure (.bool false)))).1 }

/-- On `[1, 2]`: `map`, `filter` and `each` with `yes`, `first` with `yes` and with `no`, and
`tap` with `yes` on `"a"`; `map(null)` and `tap(null)` fail as not callable at once; and a
method whose calls answer null at once keeps the array. -/
theorem callbacks_on_pair :
    let m := Machine.withPairAndTests
    let yes : Value → Run Value := fun x => callValue 3 (.function 19) [x]
    let no : Value → Run Value := fun x => callValue 3 (.function 20) [x]
    ((m.store.array? 0).getD #[]).toList = [] ++ .number 1 :: [.number 2] ∧
    Run.Answers yes [.number 1, .number 2] m [.bool true, .bool true] m ∧
    (runNative 4 .arrayMap (.array 0) [.function 19]).run m =
      (.ok (.array m.store.arrays.size),
        { m with store := (m.store.allocArray #[.bool true, .bool true]).1 }) ∧
    (runNative 4 .arrayFilter (.array 0) [.function 19]).run m =
      (.ok (.array m.store.arrays.size),
        { m with store := (m.store.allocArray #[.number 1, .number 2]).1 }) ∧
    (runNative 4 .arrayEach (.array 0) [.function 19]).run m = (.ok .null, m) ∧
    (runNative 4 .arrayFirst (.array 0) [.function 19]).run m = (.ok (.number 1), m) ∧
    Run.Answers no [.number 1, .number 2] m [.bool false, .bool false] m ∧
    (runNative 4 .arrayFirst (.array 0) [.function 20]).run m = (.ok .null, m) ∧
    (runNative 2 .arrayMap (.array 0) [.null]).run m =
      (.error (.notCallable (m.store.label .null)), m) ∧
    (runNative 4 .stringTap (.string "a") [.function 19]).run m = (.ok (.string "a"), m) ∧
    (runNative 2 .stringTap (.string "a") [.null]).run m =
      (.error (.notCallable (m.store.label .null)), m) ∧
    Run.KeepsArray 0
      (Run.nativeWork (fun _ _ => pure .null) .arrayMap (.array 0) [.function 19]) := by
  intro m yes no
  have hentry : ((m.store.array? 0).getD #[]).toList = [] ++ .number 1 :: [.number 2] := rfl
  have hyes : ∀ x, (yes x).run m = (.ok (.bool true), m) := fun _ => rfl
  have hno : ∀ x, (no x).run m = (.ok (.bool false), m) := fun _ => rfl
  have hnull : ∀ f, Value.null ≠ .function f := fun _ h => Value.noConfusion h
  have hcall := callbacks_run_over_entry_items.2.2.2.2.2.2.1 0 .null
  have ayes : Run.Answers yes [.number 1, .number 2] m [.bool true, .bool true] m :=
    .cons (hyes _) (.cons (hyes _) (.nil m))
  have ano : Run.Answers no [.number 1, .number 2] m [.bool false, .bool false] m :=
    .cons (hno _) (.cons (hno _) (.nil m))
  refine ⟨hentry, ayes, ?_, ?_, ?_, ?_, ano, ?_, ?_, ?_, ?_, ?_⟩
  · exact callbacks_run_over_entry_items.1 3 0 _ m m _ ayes
  · exact callbacks_run_over_entry_items.2.1 3 0 _ m m _ ayes
  · exact callbacks_run_over_entry_items.2.2.1 3 0 _ m m _ ayes
  · exact callbacks_run_over_entry_items.2.2.2.2.1 3 0 _ m m m [] [.number 2] [] _ _ hentry
      (.nil m) (by simp) (hyes _) rfl
  · exact callbacks_run_over_entry_items.2.2.2.1 3 0 _ m m _ ano (by simp [Value.truthy])
  · exact callbacks_run_over_entry_items.2.2.2.2.2.1 1 0 .null .arrayMap m m m [] [.number 2] []
      _ _ (by simp) hentry (.nil m) (by simp) (hcall [.number 1] m hnull)
  · exact callbacks_run_over_entry_items.2.2.2.2.2.2.2.2.1 3 "a" _ m m _
      (.cons (hyes _) (.nil m))
  · exact callbacks_run_over_entry_items.2.2.2.2.2.2.2.2.2.1 1 "a" .null m m _
      (hcall [.string "a"] m hnull)
  · exact callbacks_run_over_entry_items.2.2.2.2.2.2.2.2.2.2.2 _ 0 .arrayMap _ _ rfl
      fun _ _ => .pure _

end ScriptHost
