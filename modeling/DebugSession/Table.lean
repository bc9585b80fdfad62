/-!
Finite maps as lists of entries without a repeated key, in the order in which the keys came.
-/

namespace DebugSession

/-- A finite map. -/
structure Table (κ α : Type) where
  entries : List (κ × α) := []
  deriving Repr

namespace Table

variable {κ α β : Type} [DecidableEq κ]

def empty : Table κ α := ⟨[]⟩

instance : Inhabited (Table κ α) := ⟨empty⟩

def get? (t : Table κ α) (k : κ) : Option α := (t.entries.find? fun e => e.1 = k).map (·.2)

def contains (t : Table κ α) (k : κ) : Bool := t.entries.any fun e => e.1 = k

def keys (t : Table κ α) : List κ := t.entries.map (·.1)

def values (t : Table κ α) : List α := t.entries.map (·.2)

def size (t : Table κ α) : Nat := t.entries.length

/-- Replaces the value of a key in its place, or adds the entry at the end. -/
def insertEntry (k : κ) (a : α) : List (κ × α) → List (κ × α)
  | [] => [(k, a)]
  | (k', a') :: rest => if k' = k then (k, a) :: rest else (k', a') :: insertEntry k a rest

def insert (t : Table κ α) (k : κ) (a : α) : Table κ α := ⟨insertEntry k a t.entries⟩

def erase (t : Table κ α) (k : κ) : Table κ α := ⟨t.entries.filter fun e => e.1 ≠ k⟩

/-- Changes the value of a key that has one. -/
def modify (t : Table κ α) (k : κ) (f : α → α) : Table κ α :=
  ⟨t.entries.map fun e => if e.1 = k then (e.1, f e.2) else e⟩

/-- Keeps the entries that satisfy `p`. -/
def filter (t : Table κ α) (p : κ → α → Bool) : Table κ α := ⟨t.entries.filter fun e => p e.1 e.2⟩

/-- The entries in the order of a measure of their keys. -/
def sortedBy (t : Table κ α) (key : κ → Nat) : List (κ × α) :=
  t.entries.mergeSort fun a b => key a.1 ≤ key b.1

@[simp] theorem get?_empty (k : κ) : (empty : Table κ α).get? k = none := rfl

theorem get?_insert (t : Table κ α) (k k' : κ) (a : α) :
    (t.insert k a).get? k' = if k' = k then some a else t.get? k' := by
  obtain ⟨es⟩ := t
  simp only [insert, get?]
  induction es with
  | nil =>
    by_cases h : k' = k
    · simp [insertEntry, h]
    · simp [insertEntry, h, Ne.symm h]
  | cons e es ih =>
    obtain ⟨k₀, a₀⟩ := e
    simp only [insertEntry]
    by_cases hk : k₀ = k
    · subst hk
      by_cases h : k' = k₀
      · simp [h]
      · simp [h, Ne.symm h]
    · simp only [hk, if_false, List.find?_cons]
      by_cases h : k₀ = k'
      · subst h
        simp [hk]
      · simp only [h, decide_false]
        exact ih

theorem get?_erase (t : Table κ α) (k k' : κ) :
    (t.erase k).get? k' = if k' = k then none else t.get? k' := by
  obtain ⟨es⟩ := t
  simp only [erase, get?]
  induction es with
  | nil => simp
  | cons e es ih =>
    obtain ⟨k₀, a₀⟩ := e
    by_cases hk : k₀ = k
    · subst hk
      by_cases h : k' = k₀
      · subst h
        simp
      · simpa [h, Ne.symm h] using ih
    · simp only [List.filter_cons, hk, ne_eq, not_false_eq_true, decide_true, if_true,
        List.find?_cons]
      by_cases h : k₀ = k'
      · subst h
        simp [hk]
      · simp only [h, decide_false]
        exact ih

theorem contains_eq_isSome (t : Table κ α) (k : κ) : t.contains k = (t.get? k).isSome := by
  obtain ⟨es⟩ := t
  simp only [contains, get?]
  induction es with
  | nil => rfl
  | cons e es ih => by_cases h : e.1 = k <;> simp [h, ih]

end Table
end DebugSession
