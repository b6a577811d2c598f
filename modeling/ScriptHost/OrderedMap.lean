/-!
# Maps in order of arrival

A finite map that lists its keys in the order they first arrived. Writing a key that is
present replaces its value in place; a new key goes to the end. Object fields, method
tables and the registry of type keys are maps of this kind, and their answers show the
order.
-/

namespace ScriptHost

/-- A finite map whose keys keep the order of their first arrival. -/
structure OrderedMap (κ α : Type) where
  entries : List (κ × α)
  deriving Inhabited

namespace OrderedMap

variable {κ α : Type} [DecidableEq κ]

def empty : OrderedMap κ α := ⟨[]⟩

/-- Writes `v` under `k` in a list of entries: in place when `k` is present, at the end
otherwise. -/
def insertEntry (k : κ) (v : α) : List (κ × α) → List (κ × α)
  | [] => [(k, v)]
  | (k', v') :: rest => if k' = k then (k, v) :: rest else (k', v') :: insertEntry k v rest

def get? (m : OrderedMap κ α) (k : κ) : Option α :=
  (m.entries.find? (·.1 = k)).map (·.2)

def insert (m : OrderedMap κ α) (k : κ) (v : α) : OrderedMap κ α :=
  ⟨insertEntry k v m.entries⟩

/-- The keys in order of arrival. -/
def keys (m : OrderedMap κ α) : List κ :=
  m.entries.map (·.1)

def values (m : OrderedMap κ α) : List α :=
  m.entries.map (·.2)

def size (m : OrderedMap κ α) : Nat :=
  m.entries.length

theorem find?_insertEntry (k k' : κ) (v : α) (l : List (κ × α)) :
    ((insertEntry k v l).find? (·.1 = k')).map (·.2) =
      if k = k' then some v else (l.find? (·.1 = k')).map (·.2) := by
  induction l with
  | nil => by_cases h : k = k' <;> simp [insertEntry, h]
  | cons e rest ih =>
      obtain ⟨a, b⟩ := e
      by_cases hak : a = k
      · subst hak
        by_cases h : a = k' <;> simp [insertEntry, h]
      · by_cases hak' : a = k'
        · subst hak'
          have hne : ¬ k = a := fun h => hak h.symm
          simp [insertEntry, hak, hne]
        · simp [insertEntry, hak, hak', ih]

/-- Reading a key after a write gives the written value there and the old one elsewhere. -/
@[simp] theorem get?_insert (m : OrderedMap κ α) (k k' : κ) (v : α) :
    (m.insert k v).get? k' = if k = k' then some v else m.get? k' := by
  simp only [get?, insert]
  exact find?_insertEntry k k' v m.entries

theorem keys_insertEntry (k : κ) (v : α) (l : List (κ × α)) :
    (insertEntry k v l).map (·.1) =
      if k ∈ l.map (·.1) then l.map (·.1) else l.map (·.1) ++ [k] := by
  induction l with
  | nil => simp [insertEntry]
  | cons e rest ih =>
      obtain ⟨a, b⟩ := e
      by_cases hak : a = k
      · subst hak
        simp [insertEntry]
      · have hne : ¬ k = a := fun h => hak h.symm
        by_cases hm : k ∈ rest.map (·.1)
        · simp_all [insertEntry]
        · simp_all [insertEntry]

/-- A write keeps the keys in place and adds a new key at the end. -/
theorem keys_insert (m : OrderedMap κ α) (k : κ) (v : α) :
    (m.insert k v).keys = if k ∈ m.keys then m.keys else m.keys ++ [k] := by
  simp only [keys, insert]
  exact keys_insertEntry k v m.entries

@[simp] theorem get?_empty (k : κ) : (empty : OrderedMap κ α).get? k = none := rfl

omit [DecidableEq κ] in
@[simp] theorem keys_empty : (empty : OrderedMap κ α).keys = [] := rfl

end OrderedMap

end ScriptHost
