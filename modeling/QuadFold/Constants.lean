import QuadFold.Literal

/-! The names known to hold a constant. The entries stay sorted by name, so that two collections
with the same look-ups are equal. -/
namespace QuadFold

namespace Sorted

def get? (name : String) : List (String × Int64) → Option Int64
  | [] => none
  | (key, value) :: rest => if key = name then some value else get? name rest

def insert (name : String) (value : Int64) : List (String × Int64) → List (String × Int64)
  | [] => [(name, value)]
  | (key, old) :: rest =>
    if name < key then (name, value) :: (key, old) :: rest
    else if key = name then (name, value) :: rest
    else (key, old) :: insert name value rest

def erase (name : String) (entries : List (String × Int64)) : List (String × Int64) :=
  entries.filter (·.1 ≠ name)

def IsSorted (entries : List (String × Int64)) : Prop :=
  entries.Pairwise (·.1 < ·.1)

theorem mem_insert {name : String} {value : Int64} {entries : List (String × Int64)}
    {e : String × Int64} (h : e ∈ insert name value entries) : e = (name, value) ∨ e ∈ entries := by
  induction entries with
  | nil => simpa [insert] using h
  | cons head rest ih =>
    simp only [insert] at h
    split at h
    · simpa using h
    split at h
    · rcases List.mem_cons.mp h with h | h <;> simp [h]
    · rcases List.mem_cons.mp h with h | h
      · simp [h]
      · rcases ih h with h | h <;> simp [h]

theorem insert_sorted {name : String} {value : Int64} {entries : List (String × Int64)}
    (sorted : IsSorted entries) : IsSorted (insert name value entries) := by
  induction entries with
  | nil => simp [insert, IsSorted]
  | cons head rest ih =>
    obtain ⟨below, tail⟩ := List.pairwise_cons.mp sorted
    simp only [insert]
    split
    · rename_i less
      refine List.pairwise_cons.mpr ⟨fun e he => ?_, sorted⟩
      rcases List.mem_cons.mp he with he | he
      · exact he ▸ less
      · exact String.lt_trans less (below e he)
    split
    · rename_i same
      exact List.pairwise_cons.mpr ⟨fun e he => same ▸ below e he, tail⟩
    · rename_i notLess different
      refine List.pairwise_cons.mpr ⟨fun e he => ?_, ih tail⟩
      rcases mem_insert he with he | he
      · subst he
        exact Decidable.byContradiction fun notAbove =>
          different (String.le_antisymm (String.not_lt.mp notLess) (String.not_lt.mp notAbove))
      · exact below e he

theorem erase_sorted {name : String} {entries : List (String × Int64)}
    (sorted : IsSorted entries) : IsSorted (erase name entries) :=
  List.Pairwise.filter _ sorted

theorem get?_insert (name other : String) (value : Int64) (entries : List (String × Int64)) :
    get? other (insert name value entries) =
      if name = other then some value else get? other entries := by
  induction entries with
  | nil => simp [insert, get?]
  | cons head rest ih =>
    simp only [insert]
    split
    · simp [get?]
    split
    · rename_i same
      by_cases h : name = other <;> simp [get?, h, same]
    · rename_i different
      by_cases h : head.1 = other
      · have apart : name ≠ other := fun e => different (h.trans e.symm)
        simp [get?, h, apart]
      · simp [get?, h, ih]

theorem get?_erase (name other : String) (entries : List (String × Int64)) :
    get? other (erase name entries) = if name = other then none else get? other entries := by
  induction entries with
  | nil => simp [erase, get?]
  | cons head rest ih =>
    by_cases same : head.1 = name
    · have skipped : erase name (head :: rest) = erase name rest := by simp [erase, same]
      rw [skipped, ih]
      by_cases h : name = other <;> simp [get?, h, same]
    · have kept : erase name (head :: rest) = head :: erase name rest := by simp [erase, same]
      rw [kept]
      by_cases h : head.1 = other
      · have apart : name ≠ other := fun e => same (h.trans e.symm)
        simp [get?, h, apart]
      · simp [get?, h, ih]

end Sorted

/-- The names that are known to hold a constant, each with its value. -/
structure Constants where
  entries : List (String × Int64) := []
  sorted : Sorted.IsSorted entries := by simp [Sorted.IsSorted]

namespace Constants

def empty : Constants := {}

instance : Inhabited Constants := ⟨empty⟩

instance : DecidableEq Constants := fun a b =>
  match a, b with
  | ⟨xs, _⟩, ⟨ys, _⟩ =>
    if h : xs = ys then isTrue (by subst h; rfl) else isFalse (by simpa using h)

def get? (k : Constants) (name : String) : Option Int64 := Sorted.get? name k.entries

def isConstant (k : Constants) (name : String) : Bool := (k.get? name).isSome

def bind (k : Constants) (name : String) (value : Int64) : Constants :=
  ⟨Sorted.insert name value k.entries, Sorted.insert_sorted k.sorted⟩

def forget (k : Constants) (name : String) : Constants :=
  ⟨Sorted.erase name k.entries, Sorted.erase_sorted k.sorted⟩

/-- The literal of a known name; any other text stays. -/
def resolve (k : Constants) (operand : Operand) : Operand :=
  match k.get? operand with
  | some value => Literal.text value
  | none => operand

def size (k : Constants) : Nat := k.entries.length

def isEmpty (k : Constants) : Bool := k.entries.isEmpty

@[simp] theorem get?_empty (name : String) : empty.get? name = none := rfl

theorem get?_bind (k : Constants) (name other : String) (value : Int64) :
    (k.bind name value).get? other = if name = other then some value else k.get? other :=
  Sorted.get?_insert name other value k.entries

theorem get?_forget (k : Constants) (name other : String) :
    (k.forget name).get? other = if name = other then none else k.get? other :=
  Sorted.get?_erase name other k.entries

end Constants

end QuadFold
