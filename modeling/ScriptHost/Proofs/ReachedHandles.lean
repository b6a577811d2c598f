import ScriptHost.Proofs.Unfolding
import Mathlib

/-! # Open handles that a value reaches

Only the open handles that a value reaches change its unfolding, so `join` displays an item as
the array's own display does exactly when the item does not reach the array.
-/

namespace ScriptHost

namespace Store

variable {s : Store}

/-! ## Reaching a handle off the path -/

/-- `v` reaches the handle `g` through items and fields without passing a handle of `P`: `g` is
the handle of `v`, or the handle of `v` is off `P` and one of its children reaches `g` so. -/
inductive ReachesOff (s : Store) (P : List Handle) : Value → Handle → Prop
  | self {v : Value} {g : Handle} : v.handle? = some g → ReachesOff s P v g
  | child {v c : Value} {h g : Handle} : v.handle? = some h → h ∉ P → c ∈ s.children h →
      ReachesOff s P c g → ReachesOff s P v g

theorem children_array {r : Nat} {items : Array Value} (hr : s.array? r = some items) :
    s.children (.array r) = items.toList := by
  simp [children, hr]

theorem children_array_of_none {r : Nat} (hr : s.array? r = none) : s.children (.array r) = [] := by
  simp [children, hr]

theorem children_object {r : Nat} {o : ObjectCell} (hr : s.object? r = some o) :
    s.children (.object r) = o.fields.map (·.2) := by
  simp [children, hr]

theorem children_object_of_none {r : Nat} (hr : s.object? r = none) :
    s.children (.object r) = [] := by
  simp [children, hr]

namespace ReachesOff

variable {P Q : List Handle} {v : Value} {g : Handle}

/-- Only arrays and objects reach anything. -/
theorem exists_handle (hv : s.ReachesOff P v g) : ∃ h, v.handle? = some h := by
  cases hv with
  | self h => exact ⟨g, h⟩
  | child h _ _ _ => exact ⟨_, h⟩

/-- Avoiding more handles is harder. -/
theorem mono (hPQ : ∀ h ∈ P, h ∈ Q) (hv : s.ReachesOff Q v g) : s.ReachesOff P v g := by
  induction hv with
  | self h => exact .self h
  | child hv hQ hc _ ih => exact .child hv (fun hP => hQ (hPQ _ hP)) hc ih

theorem reaches (hv : s.ReachesOff P v g) : s.Reaches v g := by
  induction hv with
  | self h => exact ⟨_, .refl, h⟩
  | @child v c h g hv _ hc _ ih =>
      obtain ⟨d, hcd, hd⟩ := ih
      exact ⟨d, .head ⟨h, hv, hc⟩ hcd, hd⟩

/-- A way to `g` off `P` either avoids `h` as well, or passes `h` and goes on from one of
its children, from there on without `h`: cut the way at its last visit to `h`. -/
theorem off_or_child (h : Handle) (hv : s.ReachesOff P v g) :
    s.ReachesOff (h :: P) v g ∨ ∃ c ∈ s.children h, s.ReachesOff (h :: P) c g := by
  induction hv with
  | self hg => exact .inl (.self hg)
  | @child w c h' g hw hP hc _ ih =>
      rcases ih with hoff | hlater
      · by_cases hh : h' = h
        · subst hh
          exact .inr ⟨c, hc, hoff⟩
        · exact .inl (.child hw (by simp [hh, hP]) hc hoff)
      · exact .inr hlater

/-- The first step of a way: it ends at `v`, or it leaves the handle of `v`, which is off `P`,
for one of its children. -/
theorem eq_or_child {x : Handle} (hv : s.ReachesOff P v g) (hvx : v.handle? = some x) :
    x = g ∨ x ∉ P ∧ ∃ c ∈ s.children x, s.ReachesOff P c g := by
  cases hv with
  | self hg =>
      rw [hvx] at hg
      exact .inl (Option.some.inj hg)
  | child hw hP hc hcg =>
      rw [hvx] at hw
      cases hw
      exact .inr ⟨hP, _, hc, hcg⟩

/-- Going into a handle on the way to another: some child of it reaches the other without
coming back. -/
theorem descend {h : Handle} (hv : s.ReachesOff P v g) (hvh : v.handle? = some h)
    (hne : h ≠ g) : ∃ c ∈ s.children h, s.ReachesOff (h :: P) c g := by
  rcases hv.eq_or_child hvh with he | ⟨_, c, hc, hcg⟩
  · exact absurd he hne
  · rcases off_or_child h hcg with hoff | hlater
    · exact ⟨c, hc, hoff⟩
    · exact hlater

/-- A value that does not reach `g` off `P` is not itself `g`. -/
theorem handle_ne_of_not {x : Handle} (hv : ¬ s.ReachesOff P v g) (hvx : v.handle? = some x) :
    x ≠ g :=
  fun he => hv (.self (he ▸ hvx))

/-- A value that does not reach `g` off `P` has children that do not reach it off `P` and the
value's own handle. -/
theorem child_not_of_not {x : Handle} {c : Value} (hv : ¬ s.ReachesOff P v g)
    (hvx : v.handle? = some x) (hx : x ∉ P) (hc : c ∈ s.children x) :
    ¬ s.ReachesOff (x :: P) c g :=
  fun hcg => hv (.child hvx hx hc (hcg.mono fun _ hy => List.mem_cons_of_mem _ hy))

end ReachesOff

theorem reachesOff_nil_iff {v : Value} {g : Handle} : s.ReachesOff [] v g ↔ s.Reaches v g := by
  constructor
  · exact ReachesOff.reaches
  · rintro ⟨c, hvc, hc⟩
    induction hvc using Relation.ReflTransGen.head_induction_on with
    | refl => exact .self hc
    | head hstep _ ih =>
        obtain ⟨h, hv, hch⟩ := hstep
        exact .child hv List.not_mem_nil hch ih

/-! ## The unfolding reads the path only at the handles it reaches -/

theorem unfold_swap (a b : Handle) (p : List Handle) (v : Value) :
    s.unfold (a :: b :: p) v = s.unfold (b :: a :: p) v :=
  unfold_congr_path (fun x => by simp [or_left_comm]) v

/-- Putting a handle on the path that `v` does not reach off the path leaves the unfolding of
`v` as it is. -/
theorem unfold_cons_of_not_reachesOff {h : Handle} {p : List Handle} {v : Value}
    (hv : ¬ s.ReachesOff p v h) : s.unfold (h :: p) v = s.unfold p v := by
  -- the induction follows the unfolding; at each handle off the path the child keeps the
  -- hypothesis, since a child reaching `h` would make its parent reach it
  induction p, v using Store.unfold_induction (s := s) with
  | null | bool | number | string | function => simp
  | arrayOpen p r hp =>
      rw [unfold_array_of_mem hp, unfold_array_of_mem (List.mem_cons_of_mem h hp)]
  | arrayMissing p r hp hr =>
      have hne := ReachesOff.handle_ne_of_not hv rfl
      rw [unfold_array_of_none hp hr, unfold_array_of_none (by simp [hne, hp]) hr]
  | arrayItems p r items hp hr ih =>
      have hne := ReachesOff.handle_ne_of_not hv rfl
      rw [unfold_array hp hr, unfold_array (by simp [hne, hp]) hr]
      congr 1
      apply List.map_congr_left
      intro c hc
      have hc' := ReachesOff.child_not_of_not hv rfl hp (by rw [children_array hr]; exact hc)
      rw [unfold_swap, ih c hc']
  | objectOpen p r hp =>
      rw [unfold_object_of_mem hp, unfold_object_of_mem (List.mem_cons_of_mem h hp)]
  | objectMissing p r hp hr =>
      have hne := ReachesOff.handle_ne_of_not hv rfl
      rw [unfold_object_of_none hp hr, unfold_object_of_none (by simp [hne, hp]) hr]
  | objectFields p r o hp hr ih =>
      have hne := ReachesOff.handle_ne_of_not hv rfl
      rw [unfold_object hp hr, unfold_object (by simp [hne, hp]) hr]
      congr 1
      apply List.map_congr_left
      intro kv hkv
      have hc' := ReachesOff.child_not_of_not hv rfl hp
        (by rw [children_object hr]; exact List.mem_map_of_mem hkv)
      rw [unfold_swap, ih kv.2 hc']

/-- Putting on the path a handle off it that `v` reaches off the path, and that holds items or
fields, changes the unfolding of `v`: where the way first meets the handle, one unfolding has
the handle's items or fields and the other its cycle mark. -/
theorem unfold_cons_ne_of_reachesOff {h : Handle} {p : List Handle} {v : Value} (hp : h ∉ p)
    (hh : s.Holds h.value) (hv : s.ReachesOff p v h) : s.unfold (h :: p) v ≠ s.unfold p v := by
  induction p, v using Store.unfold_induction (s := s) with
  | null | bool | number | string | function =>
      obtain ⟨_, hnone⟩ := hv.exists_handle
      cases hnone
  | arrayOpen p r hr =>
      rcases hv.eq_or_child rfl with rfl | ⟨hP, _⟩
      · exact absurd hr hp
      · exact absurd hr hP
  | arrayMissing p r _ hr =>
      rcases hv.eq_or_child rfl with rfl | ⟨_, c, hc, _⟩
      · obtain ⟨_, hsome⟩ := array?_of_holds hh
        rw [hr] at hsome
        cases hsome
      · rw [children_array_of_none hr] at hc
        cases hc
  | arrayItems p r items hr hitems ih =>
      by_cases he : Handle.array r = h
      · -- the way ends here: one side has the mark, the other the items
        subst he
        rw [unfold_array_of_mem List.mem_cons_self, unfold_array hr hitems]
        exact Shape.noConfusion
      · obtain ⟨c, hc, hch⟩ := hv.descend rfl he
        rw [children_array hitems] at hc
        have hne := ih c (by simp [Ne.symm he, hp]) hch
        rw [unfold_array (by simp [he, hr]) hitems, unfold_array hr hitems]
        intro heq
        have hmap := (List.map_inj_left.mp (Shape.array.inj heq)) c hc
        rw [unfold_swap] at hmap
        exact hne hmap
  | objectOpen p r hr =>
      rcases hv.eq_or_child rfl with rfl | ⟨hP, _⟩
      · exact absurd hr hp
      · exact absurd hr hP
  | objectMissing p r _ hr =>
      rcases hv.eq_or_child rfl with rfl | ⟨_, c, hc, _⟩
      · obtain ⟨_, hsome⟩ := object?_of_holds hh
        rw [hr] at hsome
        cases hsome
      · rw [children_object_of_none hr] at hc
        cases hc
  | objectFields p r o hr hfields ih =>
      by_cases he : Handle.object r = h
      · subst he
        rw [unfold_object_of_mem List.mem_cons_self, unfold_object hr hfields]
        exact Shape.noConfusion
      · obtain ⟨c, hc, hch⟩ := hv.descend rfl he
        rw [children_object hfields] at hc
        obtain ⟨kv, hkv, rfl⟩ := List.mem_map.mp hc
        have hne := ih kv.2 (by simp [Ne.symm he, hp]) hch
        rw [unfold_object (by simp [he, hr]) hfields, unfold_object hr hfields]
        intro heq
        have hmap := (List.map_inj_left.mp (Shape.object.inj heq).2) kv hkv
        simp only [Prod.mk.injEq, true_and] at hmap
        rw [unfold_swap] at hmap
        exact hne hmap

/-- For a handle off the path that holds items or fields, putting it on the path leaves the
unfolding of `v` as it is exactly when `v` does not reach it off the path. -/
theorem unfold_cons_eq_iff {h : Handle} {p : List Handle} {v : Value} (hp : h ∉ p)
    (hh : s.Holds h.value) : s.unfold (h :: p) v = s.unfold p v ↔ ¬ s.ReachesOff p v h :=
  ⟨fun heq hv => unfold_cons_ne_of_reachesOff hp hh hv heq, unfold_cons_of_not_reachesOff⟩

/-- Handles that `v` does not reach can be put on the path, all of them, without changing its
unfolding. -/
theorem unfold_append_of_not_reaches {q : List Handle} (p : List Handle) {v : Value}
    (hq : ∀ h ∈ q, ¬ s.Reaches v h) : s.unfold (q ++ p) v = s.unfold p v := by
  induction q with
  | nil => rfl
  | cons h q ih =>
      have hoff : ¬ s.ReachesOff (q ++ p) v h := fun hv => hq h List.mem_cons_self hv.reaches
      rw [List.cons_append, unfold_cons_of_not_reachesOff hoff,
        ih fun h' hh' => hq h' (List.mem_cons_of_mem h hh')]

/-- What a member of a set closed under items and fields reaches is the handle of a member. -/
theorem reaches_handle_of_closed {S : Value → Prop} (hS : ∀ v c, S v → s.Contains v c → S c)
    {v : Value} {h : Handle} (hv : S v) (hr : s.Reaches v h) :
    ∃ c, S c ∧ c.handle? = some h := by
  obtain ⟨c, hvc, hc⟩ := hr
  have hSc : S c := by
    clear hc
    induction hvc with
    | refl => exact hv
    | tail _ hstep ih => exact hS _ _ ih hstep
  exact ⟨c, hSc, hc⟩

/-! ## An array's display and its items -/

/-- An array displays its items, each unfolded with the array open, between brackets. -/
theorem display_array {r : Nat} {items : Array Value} (hr : s.array? r = some items) :
    s.display (.array r) =
      "[" ++ ", ".intercalate (items.toList.map fun v => (s.unfold [.array r] v).text) ++ "]" := by
  rw [display_eq_text, unfold_array List.not_mem_nil hr]
  simp only [Shape.text, Shape.itemsText_eq, List.map_map]
  rfl

/-- An item unfolds with the array open as with nothing open exactly when it does not reach the
array. -/
theorem unfold_item_eq_iff {r : Nat} {items : Array Value} (hr : s.array? r = some items)
    (v : Value) : s.unfold [.array r] v = s.unfold [] v ↔ ¬ s.Reaches v (.array r) := by
  rw [← reachesOff_nil_iff]
  exact unfold_cons_eq_iff List.not_mem_nil (lt_of_array? hr)

/-- An array that none of its items reaches displays the display texts of its items between
brackets. -/
theorem display_array_of_not_reaches {r : Nat} {items : Array Value}
    (hr : s.array? r = some items) (hitems : ∀ v ∈ items.toList, ¬ s.Reaches v (.array r)) :
    s.display (.array r) = "[" ++ ", ".intercalate (items.toList.map s.display) ++ "]" := by
  rw [display_array hr]
  congr 3
  apply List.map_congr_left
  intro v hv
  have hframe := unfold_append_of_not_reaches [] (q := [.array r]) (by simpa using hitems v hv)
  rw [display_eq_text, ← hframe]
  rfl

end Store

/-! ## Joining the items -/

theorem Machine.Extended.methodCell_join {m : Machine} (hm : m.Extended) (r : Nat) :
    m.methodCell (.array r) "join" = .ok (.ofNative .arrayJoin) := by
  have hl : m.methods.lookup (.builtin .array) "join" .instanceMethod = some 5 := by
    rw [hm.lookup]
    decide
  exact Machine.methodCell_of_filed (by simp [Value.tag]) hl
    (hm.function?_extension 5 .arrayJoin rfl)

/-- `join` answers the display texts of the items the array holds at entry, each unfolded with
nothing open, with the separator's display text between them, and changes nothing; called as a
method on a machine with the extension set, it does the same. The array's own display unfolds
the same items with the array open. Putting handles that a value does not reach on the path
never changes its unfolding, and an item's two unfoldings agree exactly when it does not reach
the array: one that does is unfolded one level further in the join. So an array that none of
its items reaches displays as its join with `", "`, between brackets. -/
theorem join_displays_items_with_nothing_open :
    (∀ fuel (m : Machine) r (items : Array Value) sep, m.store.array? r = some items →
      (runNative (fuel + 1) .arrayJoin (.array r) [sep]).run m =
          (.ok (.string ((m.store.display sep).intercalate
            (items.toList.map fun v => (m.store.unfold [] v).text))), m) ∧
        (m.Extended → (callMethod (fuel + 3) (.array r) "join" [sep]).run m =
          (.ok (.string ((m.store.display sep).intercalate
            (items.toList.map fun v => (m.store.unfold [] v).text))), m))) ∧
    (∀ (s : Store) r (items : Array Value), s.array? r = some items →
      s.display (.array r) =
        "[" ++ ", ".intercalate (items.toList.map fun v => (s.unfold [.array r] v).text) ++ "]") ∧
    (∀ (s : Store) (p q : List Handle) v, (∀ h ∈ q, ¬ s.Reaches v h) →
      s.unfold (q ++ p) v = s.unfold p v) ∧
    (∀ (s : Store) r (items : Array Value), s.array? r = some items → ∀ v,
      s.unfold [.array r] v = s.unfold [] v ↔ ¬ s.Reaches v (.array r)) ∧
    (∀ fuel (m : Machine) r (items : Array Value), m.store.array? r = some items →
      (∀ v ∈ items.toList, ¬ m.store.Reaches v (.array r)) →
        ∃ t, (runNative (fuel + 1) .arrayJoin (.array r) [.string ", "]).run m =
            (.ok (.string t), m) ∧
          m.store.display (.array r) = "[" ++ t ++ "]") := by
  refine ⟨?join, fun s r items hr => Store.display_array hr,
    fun s p q v hq => Store.unfold_append_of_not_reaches p hq,
    fun s r items hr v => Store.unfold_item_eq_iff hr v, ?unreached⟩
  case join =>
    intro fuel m r items sep hr
    have hjoin := runNative_join_run fuel hr sep
    -- each item is displayed, that is unfolded with nothing open
    have htexts : items.toList.map m.store.display =
        items.toList.map fun v => (m.store.unfold [] v).text :=
      List.map_congr_left fun v _ => Store.display_eq_text m.store v
    rw [htexts] at hjoin
    exact ⟨hjoin, fun hm => by rw [callMethod_of_native (hm.methodCell_join r), hjoin]⟩
  case unreached =>
    intro fuel m r items hr hitems
    refine ⟨_, runNative_join_run fuel hr (.string ", "), ?_⟩
    rw [Store.display_string, Store.display_array_of_not_reaches hr hitems]

/-- A new machine with the extension set that holds `a = [1, a]` at handle 0 and `[x, a]` at
handle 1. -/
def Machine.withLoop : Machine :=
  { Machine.withExtensions Config.default with
    store := (((Machine.withExtensions Config.default).store.allocArray
      #[.number 1, .array 0]).1.allocArray #[.string "x", .array 0]).1 }

theorem Machine.withLoop_extended : Machine.withLoop.Extended :=
  ((Machine.withExtensions_extended Config.default).allocArray #[.number 1, .array 0]).allocArray
    #[.string "x", .array 0]

theorem Machine.withLoop_array?_zero :
    Machine.withLoop.store.array? 0 = some #[.number 1, .array 0] := rfl

/-- Neither item of `[x, a]` reaches it: `x`, `1` and `a` hold nothing but one another. -/
theorem Machine.withLoop_items_unreached :
    ∀ v ∈ [Value.string "x", .array 0], ¬ Machine.withLoop.store.Reaches v (.array 1) := by
  let S : Value → Prop := fun c => c = .string "x" ∨ c = .number 1 ∨ c = .array 0
  have hS : ∀ v c, S v → Machine.withLoop.store.Contains v c → S c := by
    rintro v c (rfl | rfl | rfl) ⟨h, hvh, hc⟩
    · cases hvh
    · cases hvh
    · cases hvh
      rw [Store.children_array Machine.withLoop_array?_zero] at hc
      simp only [List.mem_cons, List.not_mem_nil, or_false] at hc
      rcases hc with rfl | rfl
      · exact .inr (.inl rfl)
      · exact .inr (.inr rfl)
  intro v hv hr
  have hSv : S v := by
    simp only [List.mem_cons, List.not_mem_nil, or_false] at hv
    rcases hv with rfl | rfl
    · exact .inl rfl
    · exact .inr (.inr rfl)
  obtain ⟨c, hc, hch⟩ := Store.reaches_handle_of_closed hS hSv hr
  rcases hc with rfl | rfl | rfl <;> simp [Value.handle?] at hch

/-- On `a = [1, a]`, `a.join("-")` answers `1-[1, [...]]`: the item `a` reaches `a` and is
displayed whole, one level deeper than in `a`'s own display `[1, [...]]`. None of the items of
`[x, a]` reaches it, so it displays as its join with `", "` between brackets. -/
theorem join_on_loop :
    Machine.withLoop.Extended ∧
    Machine.withLoop.store.array? 0 = some #[.number 1, .array 0] ∧
    Machine.withLoop.store.array? 1 = some #[.string "x", .array 0] ∧
    (callMethod 3 (.array 0) "join" [.string "-"]).run Machine.withLoop =
      (.ok (.string "1-[1, [...]]"), Machine.withLoop) ∧
    Machine.withLoop.store.display (.array 0) = "[1, [...]]" ∧
    Machine.withLoop.store.Reaches (.array 0) (.array 0) ∧
    Machine.withLoop.store.unfold [.array 0] (.array 0) ≠
      Machine.withLoop.store.unfold [] (.array 0) ∧
    (∀ v ∈ [Value.string "x", .array 0], ¬ Machine.withLoop.store.Reaches v (.array 1)) ∧
    Machine.withLoop.store.unfold ([.array 1] ++ []) (.array 0) =
      Machine.withLoop.store.unfold [] (.array 0) ∧
    (∃ t, (runNative 1 .arrayJoin (.array 1) [.string ", "]).run Machine.withLoop =
        (.ok (.string t), Machine.withLoop) ∧
      Machine.withLoop.store.display (.array 1) = "[" ++ t ++ "]") ∧
    Machine.withLoop.store.display (.array 1) = "[x, [1, [...]]]" := by
  have h0 := Machine.withLoop_array?_zero
  have h1 : Machine.withLoop.store.array? 1 = some #[.string "x", .array 0] := rfl
  have hunreached := Machine.withLoop_items_unreached
  have hself : Machine.withLoop.store.Reaches (.array 0) (.array 0) := ⟨_, .refl, rfl⟩
  have hjoin := (join_displays_items_with_nothing_open.1 0 _ 0 _ (.string "-") h0).2
    Machine.withLoop_extended
  have htext : (Machine.withLoop.store.display (.string "-")).intercalate
      ([Value.number 1, .array 0].map fun v => (Machine.withLoop.store.unfold [] v).text) =
        "1-[1, [...]]" := by
    decide +kernel
  refine ⟨Machine.withLoop_extended, h0, h1, ?_, by decide +kernel, hself, ?_, hunreached, ?_, ?_,
    by decide +kernel⟩
  · rw [hjoin]
    exact congrArg (fun t => (Except.ok (Value.string t), Machine.withLoop)) htext
  · exact fun heq =>
      ((join_displays_items_with_nothing_open.2.2.2.1 _ 0 _ h0 (.array 0)).mp heq) hself
  · exact join_displays_items_with_nothing_open.2.2.1 _ [] [.array 1] (.array 0)
      (by simpa using hunreached (.array 0) (by simp))
  · exact join_displays_items_with_nothing_open.2.2.2.2 0 _ 1 _ h1 (by simpa using hunreached)

end ScriptHost
