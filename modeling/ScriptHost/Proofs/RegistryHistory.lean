import ScriptHost.Proofs.Dispatch
import Mathlib

/-! # Registries and the histories that build them

Each query of a registry has one law for a single registration, and so agrees with a reading of
any history of registrations.
-/

namespace ScriptHost

/-! ## One registration -/

namespace OrderedMap

variable {κ α : Type} [DecidableEq κ]

omit [DecidableEq κ] in
theorem size_eq_length_keys (m : OrderedMap κ α) : m.size = m.keys.length := by
  simp [size, keys]

theorem size_insert (m : OrderedMap κ α) (k : κ) (v : α) :
    (m.insert k v).size = m.size + if k ∈ m.keys then 0 else 1 := by
  rw [size_eq_length_keys, size_eq_length_keys, keys_insert]
  split <;> simp

theorem get?_eq_none_iff (m : OrderedMap κ α) (k : κ) : m.get? k = none ↔ k ∉ m.keys := by
  simp only [get?, keys, Option.map_eq_none_iff, List.find?_eq_none, List.mem_map, not_exists,
    not_and, decide_eq_true_eq]

/-- Writing `v` under `k` trades the weight of the value that was there, if any, for the
weight of `v`. -/
theorem sum_insertEntry (g : α → Nat) (k : κ) (v : α) (l : List (κ × α)) :
    ((insertEntry k v l).map (g ·.2)).sum + ((l.find? (·.1 = k)).map (g ·.2)).getD 0 =
      (l.map (g ·.2)).sum + g v := by
  induction l with
  | nil => simp [insertEntry]
  | cons e rest ih =>
      obtain ⟨a, b⟩ := e
      by_cases hak : a = k
      · subst hak
        simp [insertEntry]
        omega
      · simp [insertEntry, hak]
        omega

end OrderedMap

namespace MethodTable

@[simp] theorem part_empty (kind : MethodKind) : MethodTable.empty.part kind = .empty := by
  cases kind <;> rfl

@[simp] theorem size_empty : MethodTable.empty.size = 0 := rfl

theorem size_insert (t : MethodTable) (kind : MethodKind) (name : String) (f : Nat) :
    (t.insert kind name f).size = t.size + if name ∈ (t.part kind).keys then 0 else 1 := by
  cases kind with
  | instanceMethod =>
      show (t.instances.insert name f).size + t.statics.size = _
      rw [OrderedMap.size_insert]
      by_cases h : name ∈ t.instances.keys <;> simp [size, part, h]
      omega
  | staticMethod =>
      show t.instances.size + (t.statics.insert name f).size = _
      rw [OrderedMap.size_insert]
      by_cases h : name ∈ t.statics.keys <;> simp [size, part, h]
      omega

end MethodTable

@[simp] theorem TypeDescriptor.key_new (key : TypeKey) : (TypeDescriptor.new key).key = key := rfl

@[simp] theorem TypeDescriptor.methods_new (key : TypeKey) :
    (TypeDescriptor.new key).methods = .empty := rfl

namespace Registry

theorem names_eq_keys (r : Registry) (key : TypeKey) (kind : MethodKind) :
    r.names key kind = (((r.descriptor? key).getD (.new key)).methods.part kind).keys := by
  cases h : r.descriptor? key <;> simp [names, h]

theorem lookup_eq_none_iff (r : Registry) (key : TypeKey) (name : String) (kind : MethodKind) :
    r.lookup key name kind = none ↔
      name ∉ (((r.descriptor? key).getD (.new key)).methods.part kind).keys := by
  cases h : r.descriptor? key <;> simp [lookup, h, OrderedMap.get?_eq_none_iff]

theorem descriptor?_register (r : Registry) (key k : TypeKey) (name : String)
    (kind : MethodKind) (f : Nat) :
    (r.register key name kind f).1.descriptor? k =
      if key = k then
        some { (r.descriptor? key).getD (.new key) with
          methods := ((r.descriptor? key).getD (.new key)).methods.insert kind name f }
      else r.descriptor? k := by
  simp [register, descriptor?]

theorem names_register (r : Registry) (key k : TypeKey) (name : String) (kind kd : MethodKind)
    (f : Nat) :
    (r.register key name kind f).1.names k kd =
      if key = k ∧ kind = kd then
        (if name ∈ r.names k kd then r.names k kd else r.names k kd ++ [name])
      else r.names k kd := by
  by_cases hk : key = k
  · subst hk
    by_cases hkd : kind = kd
    · subst hkd
      cases h : r.descriptor? key <;> simp [names, descriptor?_register, h, OrderedMap.keys_insert]
    · cases h : r.descriptor? key <;> simp [names, descriptor?_register, h, hkd]
  · simp [names, descriptor?_register, hk]

theorem keys_register (r : Registry) (key : TypeKey) (name : String) (kind : MethodKind)
    (f : Nat) :
    (r.register key name kind f).1.keys = if key ∈ r.keys then r.keys else r.keys ++ [key] := by
  simp only [register, keys]
  exact OrderedMap.keys_insert _ _ _

theorem size_eq_sum (r : Registry) : r.size = (r.types.entries.map (·.2.methods.size)).sum := by
  simp [size, OrderedMap.values, List.sum_eq_foldl]
  rfl

theorem size_register (r : Registry) (key : TypeKey) (name : String) (kind : MethodKind)
    (f : Nat) :
    (r.register key name kind f).1.size =
      r.size + if r.lookup key name kind = none then 1 else 0 := by
  have hsum := OrderedMap.sum_insertEntry (·.methods.size) key
    { (r.descriptor? key).getD (.new key) with
      methods := ((r.descriptor? key).getD (.new key)).methods.insert kind name f }
    r.types.entries
  dsimp only at hsum
  -- the table that the registration replaces weighs what the key's table weighed
  have hold : ((r.types.entries.find? (·.1 = key)).map (·.2.methods.size)).getD 0 =
      ((r.descriptor? key).getD (.new key)).methods.size := by
    cases h : r.descriptor? key with
    | none =>
        simp only [descriptor?, OrderedMap.get?] at h
        simp [Option.map_eq_none_iff.mp h]
    | some t =>
        simp only [descriptor?, OrderedMap.get?] at h
        obtain ⟨e, he, rfl⟩ := Option.map_eq_some_iff.mp h
        simp [he]
  rw [hold, MethodTable.size_insert] at hsum
  rw [size_eq_sum, size_eq_sum]
  simp only [register, OrderedMap.insert]
  by_cases h : r.lookup key name kind = none
  · rw [if_neg ((lookup_eq_none_iff r key name kind).mp h)] at hsum
    rw [if_pos h]
    omega
  · have hmem : name ∈ (((r.descriptor? key).getD (.new key)).methods.part kind).keys := by
      by_contra hn
      exact h ((lookup_eq_none_iff r key name kind).mpr hn)
    rw [if_pos hmem] at hsum
    rw [if_neg h]
    omega

end Registry

/-! ## Histories -/

/-- One registration: a function filed under a type key, a method name and a kind. -/
structure Registration where
  key : TypeKey
  name : String
  kind : MethodKind
  fn : Nat

/-- Keeping the first of equal items, the list of an item appended is unchanged when the
item is already there and grows by it otherwise. -/
theorem List.eraseDups_append_singleton {α : Type} [BEq α] [LawfulBEq α] (l : List α) (x : α) :
    (l ++ [x]).eraseDups = if x ∈ l then l.eraseDups else l.eraseDups ++ [x] := by
  rw [List.eraseDups_append]
  by_cases h : x ∈ l <;> simp [h, List.removeAll, List.eraseDups_cons]

namespace Registration

def slot (e : Registration) : TypeKey × String × MethodKind :=
  (e.key, e.name, e.kind)

/-- The function of the last registration under a key, name and kind. -/
def lastFiled (log : List Registration) (key : TypeKey) (name : String) (kind : MethodKind) :
    Option Nat :=
  (log.reverse.find? fun e => decide (e.key = key ∧ e.kind = kind ∧ e.name = name)).map (·.fn)

/-- The names registered under a key and kind, each once, in order of first registration. -/
def namesFiled (log : List Registration) (key : TypeKey) (kind : MethodKind) : List String :=
  ((log.filter fun e => decide (e.key = key ∧ e.kind = kind)).map (·.name)).eraseDups

def keysFiled (log : List Registration) : List TypeKey :=
  (log.map (·.key)).eraseDups

/-- The kinds and names registered under a key, each pair once. -/
def entriesFiled (log : List Registration) (key : TypeKey) : List (MethodKind × String) :=
  ((log.filter fun e => decide (e.key = key)).map fun e => (e.kind, e.name)).eraseDups

def slotsFiled (log : List Registration) : List (TypeKey × String × MethodKind) :=
  (log.map (·.slot)).eraseDups

theorem entriesFiled_eq_nil {log : List Registration} {key : TypeKey}
    (h : key ∉ log.map (·.key)) : entriesFiled log key = [] := by
  have hfilter : log.filter (fun e => decide (e.key = key)) = [] :=
    List.filter_eq_nil_iff.mpr fun e he hk => h (List.mem_map.mpr ⟨e, he, of_decide_eq_true hk⟩)
  simp only [entriesFiled, hfilter, List.map_nil, List.eraseDups_nil]

theorem lastFiled_append (log : List Registration) (e : Registration) (key : TypeKey)
    (name : String) (kind : MethodKind) :
    lastFiled (log ++ [e]) key name kind =
      if e.key = key ∧ e.kind = kind ∧ e.name = name then some e.fn
      else lastFiled log key name kind := by
  by_cases h : e.key = key ∧ e.kind = kind ∧ e.name = name <;> simp [lastFiled, h]

theorem lastFiled_eq_none_iff (log : List Registration) (key : TypeKey) (name : String)
    (kind : MethodKind) :
    lastFiled log key name kind = none ↔ (key, name, kind) ∉ log.map (·.slot) := by
  simp only [lastFiled, Option.map_eq_none_iff, List.find?_eq_none, List.mem_reverse,
    decide_eq_true_eq, List.mem_map, slot, Prod.mk.injEq, not_exists, not_and]
  constructor
  · intro h e he hk hn hkind
    exact h e he hk hkind hn
  · intro h e he hk hkind hn
    exact h e he hk hn hkind

theorem mem_namesFiled (log : List Registration) (key : TypeKey) (kind : MethodKind)
    (name : String) :
    name ∈ namesFiled log key kind ↔
      ∃ e ∈ log, e.key = key ∧ e.kind = kind ∧ e.name = name := by
  simp [namesFiled, List.mem_eraseDups, and_assoc]

theorem mem_pairs (log : List Registration) (key : TypeKey) (kind : MethodKind)
    (name : String) :
    (kind, name) ∈ (log.filter fun e => decide (e.key = key)).map (fun e => (e.kind, e.name)) ↔
      ∃ e ∈ log, e.key = key ∧ e.kind = kind ∧ e.name = name := by
  simp [and_assoc]

theorem namesFiled_append (log : List Registration) (e : Registration) (key : TypeKey)
    (kind : MethodKind) :
    namesFiled (log ++ [e]) key kind =
      if e.key = key ∧ e.kind = kind then
        (if e.name ∈ namesFiled log key kind then namesFiled log key kind
          else namesFiled log key kind ++ [e.name])
      else namesFiled log key kind := by
  by_cases h : e.key = key ∧ e.kind = kind
  · simp only [namesFiled, List.filter_append, List.map_append, if_pos h]
    rw [List.filter_cons, if_pos (decide_eq_true h), List.filter_nil, List.map_singleton,
      List.eraseDups_append_singleton]
    simp only [List.mem_eraseDups]
  · simp [namesFiled, h]

theorem keysFiled_append (log : List Registration) (e : Registration) :
    keysFiled (log ++ [e]) =
      if e.key ∈ keysFiled log then keysFiled log else keysFiled log ++ [e.key] := by
  simp only [keysFiled, List.map_append, List.map_singleton, List.eraseDups_append_singleton,
    List.mem_eraseDups]

theorem slotsFiled_length_append (log : List Registration) (e : Registration) :
    (slotsFiled (log ++ [e])).length =
      (slotsFiled log).length + if e.slot ∈ log.map (·.slot) then 0 else 1 := by
  simp only [slotsFiled, List.map_append, List.map_singleton, List.eraseDups_append_singleton]
  split <;> simp

theorem entriesFiled_length_append (log : List Registration) (e : Registration) (key : TypeKey) :
    (entriesFiled (log ++ [e]) key).length =
      (entriesFiled log key).length +
        if e.key = key ∧ e.name ∉ namesFiled log key e.kind then 1 else 0 := by
  by_cases hk : e.key = key
  · have hmem : (e.kind, e.name) ∈ (log.filter fun e' => decide (e'.key = key)).map
          (fun e' => (e'.kind, e'.name)) ↔ e.name ∈ namesFiled log key e.kind := by
      rw [mem_pairs, mem_namesFiled]
    simp only [entriesFiled, List.filter_append, List.map_append]
    rw [List.filter_cons, if_pos (decide_eq_true hk), List.filter_nil, List.map_singleton,
      List.eraseDups_append_singleton]
    simp only [hmem]
    by_cases hn : e.name ∈ namesFiled log key e.kind <;> simp [hk, hn]
  · simp [entriesFiled, hk]

end Registration

/-! ## Replaying a history -/

namespace Registry

open Registration

/-- The registry that a history of registrations builds from the empty one. -/
def replay (log : List Registration) : Registry :=
  log.foldl (fun r e => (r.register e.key e.name e.kind e.fn).1) empty

theorem replay_append (log : List Registration) (e : Registration) :
    replay (log ++ [e]) = ((replay log).register e.key e.name e.kind e.fn).1 := by
  simp [replay, List.foldl_append]

/-! Each statement below is by induction over the history, from its last registration:
the step is the query's law for one registration, and the history's reading takes the same
step. -/

theorem lookup_replay (log : List Registration) (key : TypeKey) (name : String)
    (kind : MethodKind) :
    (replay log).lookup key name kind = lastFiled log key name kind := by
  induction log using List.reverseRecOn with
  | nil => rfl
  | append_singleton log e ih =>
      rw [replay_append, lookup_register, ih, lastFiled_append]

theorem register_replay (log : List Registration) (key : TypeKey) (name : String)
    (kind : MethodKind) (f : Nat) :
    ((replay log).register key name kind f).2 = lastFiled log key name kind :=
  lookup_replay log key name kind

theorem names_replay (log : List Registration) (key : TypeKey) (kind : MethodKind) :
    (replay log).names key kind = namesFiled log key kind := by
  induction log using List.reverseRecOn with
  | nil => rfl
  | append_singleton log e ih =>
      rw [replay_append, names_register, ih, namesFiled_append]

theorem keys_replay (log : List Registration) : (replay log).keys = keysFiled log := by
  induction log using List.reverseRecOn with
  | nil => rfl
  | append_singleton log e ih =>
      rw [replay_append, keys_register, ih, keysFiled_append]

theorem size_replay (log : List Registration) : (replay log).size = (slotsFiled log).length := by
  induction log using List.reverseRecOn with
  | nil => rfl
  | append_singleton log e ih =>
      rw [replay_append, size_register, ih, lookup_replay, slotsFiled_length_append]
      by_cases h : e.slot ∈ log.map (·.slot)
      · have hfiled : lastFiled log e.key e.name e.kind ≠ none :=
          fun hn => (lastFiled_eq_none_iff log e.key e.name e.kind).mp hn h
        simp [h, hfiled]
      · have hfiled : lastFiled log e.key e.name e.kind = none :=
          (lastFiled_eq_none_iff log e.key e.name e.kind).mpr h
        simp [h, hfiled]

theorem descriptor_replay (log : List Registration) (key : TypeKey) :
    ((replay log).descriptor? key).map (fun d => (d.key, d.methods.size)) =
      if key ∈ log.map (·.key) then some (key, (entriesFiled log key).length) else none := by
  induction log using List.reverseRecOn with
  | nil => rfl
  | append_singleton log e ih =>
      rw [replay_append, descriptor?_register, entriesFiled_length_append]
      by_cases hk : e.key = key
      · subst hk
        -- the descriptor before this registration, a new one when the key is new
        have hold : (((replay log).descriptor? e.key).getD (.new e.key)).key = e.key ∧
            (((replay log).descriptor? e.key).getD (.new e.key)).methods.size =
              (entriesFiled log e.key).length := by
          by_cases hm : e.key ∈ log.map (·.key)
          · rw [if_pos hm] at ih
            obtain ⟨d, hd, hsize⟩ := Option.map_eq_some_iff.mp ih
            simp only [Prod.mk.injEq] at hsize
            simp [hd, hsize]
          · rw [if_neg hm] at ih
            have hnone : (replay log).descriptor? e.key = none := Option.map_eq_none_iff.mp ih
            simp [hnone, TypeDescriptor.new, entriesFiled_eq_nil hm]
        have hnames := names_eq_keys (replay log) e.key e.kind
        rw [names_replay] at hnames
        simp only [if_true, Option.map_some, MethodTable.size_insert, hold.1, hold.2, ← hnames]
        by_cases hn : e.name ∈ namesFiled log e.key e.kind <;> simp [hn]
      · have hk' : key ≠ e.key := Ne.symm hk
        simp [hk, hk', ih]

theorem isEmpty_replay (log : List Registration) : (replay log).isEmpty = true ↔ log = [] := by
  have hslots : slotsFiled log = [] ↔ log = [] := by
    cases log with
    | nil => simp [slotsFiled]
    | cons e rest => simp [slotsFiled, List.eraseDups_cons]
  simp [isEmpty, size_replay, hslots]

end Registry

/-- Registering through a machine files a function value and refuses any other value as not
callable, leaving the machine as it was. -/
theorem Run.registerMethod_run (key : TypeKey) (name : String) (v : Value) (kind : MethodKind)
    (m : Machine) :
    (Run.registerMethod key name v kind).run m =
      match v with
      | .function f => (.ok (), m.fileMethod key name kind f)
      | _ => (.error (.notCallable (m.store.label v)), m) := by
  cases v with
  | function f => rfl
  | _ => simp only [Run.registerMethod, Run.run_bind, Run.label_run, Run.run_throw]

open Registration in
/-- A registry built by any history of registrations agrees with the history. The function
under a slot is that of the slot's last registration, and each registration hands back what
stood in its slot just before, nothing exactly when the slot was new. The names under a key
and kind, and the keys, come each once in the order they first arrived. A key has a descriptor
exactly when it was registered under, made for that key and holding one method per distinct
kind and name; the
registry counts its distinct slots and is empty exactly after the empty history. A machine
refuses to register a value that is not a function and changes nothing. -/
theorem registry_agrees_with_history :
    (∀ log : List Registration,
      (∀ key name kind,
        (Registry.replay log).lookup key name kind = lastFiled log key name kind) ∧
      (∀ key name kind f,
        ((Registry.replay log).register key name kind f).2 = lastFiled log key name kind) ∧
      (∀ key name kind,
        lastFiled log key name kind = none ↔ (key, name, kind) ∉ log.map (·.slot)) ∧
      (∀ key kind, (Registry.replay log).names key kind = namesFiled log key kind) ∧
      (Registry.replay log).keys = keysFiled log ∧
      (∀ key, ((Registry.replay log).descriptor? key).map (fun d => (d.key, d.methods.size)) =
        if key ∈ log.map (·.key) then some (key, (entriesFiled log key).length) else none) ∧
      (Registry.replay log).size = (slotsFiled log).length ∧
      ((Registry.replay log).isEmpty = true ↔ log = [])) ∧
    (∀ (key : TypeKey) (name : String) (v : Value) (kind : MethodKind) (m : Machine),
      (Run.registerMethod key name v kind).run m =
        match v with
        | .function f => (.ok (), m.fileMethod key name kind f)
        | _ => (.error (.notCallable (m.store.label v)), m)) :=
  ⟨fun log => ⟨Registry.lookup_replay log, Registry.register_replay log,
      lastFiled_eq_none_iff log, Registry.names_replay log, Registry.keys_replay log,
      Registry.descriptor_replay log, Registry.size_replay log, Registry.isEmpty_replay log⟩,
    Run.registerMethod_run⟩

end ScriptHost
