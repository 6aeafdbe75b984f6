/-!
# Sorted maps

A finite map kept as the list of its entries in strictly ascending order of key. Each map has one
representation, so two maps are equal exactly when they hold the same entries.
-/

namespace SpecPrompt

/-- Keys in a strict order in which any two different ones can be compared. -/
class KeyOrder (κ : Type) [LT κ] : Prop where
  irrefl (a : κ) : ¬ a < a
  trans {a b c : κ} : a < b → b < c → a < c
  eq_of_not_lt {a b : κ} : ¬ a < b → ¬ b < a → a = b

instance : KeyOrder String where
  irrefl := String.lt_irrefl
  trans := String.lt_trans
  eq_of_not_lt notBelow notAbove :=
    String.le_antisymm (String.not_lt.mp notAbove) (String.not_lt.mp notBelow)

instance : KeyOrder (List String) where
  irrefl := List.lt_irrefl
  trans := List.lt_trans
  eq_of_not_lt notBelow notAbove :=
    List.le_antisymm (List.not_lt.mp notAbove) (List.not_lt.mp notBelow)

/-- Entries in strictly ascending order of key. -/
def Ascending {κ α : Type} [LT κ] (entries : List (κ × α)) : Prop :=
  entries.Pairwise fun a b => a.1 < b.1

/-- A finite map from `κ` to `α`. -/
structure SortedMap (κ α : Type) [LT κ] where
  entries : List (κ × α)
  ascending : Ascending entries

namespace SortedMap

/-! ### Entry lists -/

section Entries

variable {κ α : Type}

/-- The first value that `entries` give `k`. -/
def valueIn [DecidableEq κ] (k : κ) : List (κ × α) → Option α
  | [] => none
  | e :: es => if e.1 = k then some e.2 else valueIn k es

theorem valueIn_filter [DecidableEq κ] (p : κ → Bool) (k : κ) (es : List (κ × α)) :
    valueIn k (es.filter fun e => p e.1) = if p k then valueIn k es else none := by
  induction es with
  | nil => simp [valueIn]
  | cons e es ih =>
    rw [List.filter_cons]
    by_cases same : e.1 = k
    · subst same
      split <;> simp_all [valueIn]
    · split <;> simp_all [valueIn]

/-- `entries` with `k` bound to `v`, in one pass. -/
def insertInto [LT κ] [DecidableLT κ] (k : κ) (v : α) : List (κ × α) → List (κ × α)
  | [] => [(k, v)]
  | e :: es =>
    if k < e.1 then (k, v) :: e :: es
    else if e.1 < k then e :: insertInto k v es
    else (k, v) :: es

theorem mem_insertInto [LT κ] [DecidableLT κ] {k : κ} {v : α} {e : κ × α} {es : List (κ × α)}
    (h : e ∈ insertInto k v es) : e = (k, v) ∨ e ∈ es := by
  induction es with
  | nil => simpa [insertInto] using h
  | cons d ds ih =>
    rw [insertInto] at h
    split at h
    · simpa using h
    · split at h
      · rcases List.mem_cons.mp h with rfl | h
        · simp
        · exact (ih h).imp_right (List.mem_cons_of_mem _)
      · rcases List.mem_cons.mp h with rfl | h
        · simp
        · simp [h]

theorem valueIn_insertInto_self [DecidableEq κ] [LT κ] [DecidableLT κ] (k : κ) (v : α)
    (es : List (κ × α)) : valueIn k (insertInto k v es) = some v := by
  induction es with
  | nil => simp [insertInto, valueIn]
  | cons e es ih =>
    rw [insertInto]
    split
    · simp [valueIn]
    next notBelow =>
      split
      next above =>
        have apart : e.1 ≠ k := fun same => notBelow (same ▸ above)
        simp [valueIn, apart, ih]
      · simp [valueIn]

theorem valueIn_insertInto_of_ne [DecidableEq κ] [LT κ] [DecidableLT κ] [KeyOrder κ]
    {k k' : κ} (different : k' ≠ k) (v : α)
    (es : List (κ × α)) : valueIn k' (insertInto k v es) = valueIn k' es := by
  have apart : k ≠ k' := fun same => different same.symm
  induction es with
  | nil => simp [insertInto, valueIn, apart]
  | cons e es ih =>
    rw [insertInto]
    split
    · simp [valueIn, apart]
    next notBelow =>
      split
      · simp [valueIn, ih]
      next notAbove =>
        have same : e.1 = k := KeyOrder.eq_of_not_lt notAbove notBelow
        simp [valueIn, same, apart]

theorem ascending_insertInto [LT κ] [DecidableLT κ] [KeyOrder κ] (k : κ) (v : α) {es : List (κ × α)}
    (h : Ascending es) : Ascending (insertInto k v es) := by
  induction es with
  | nil => exact List.pairwise_singleton _ _
  | cons d ds ih =>
    have later := (List.pairwise_cons.mp h).1
    have rest : Ascending ds := (List.pairwise_cons.mp h).2
    rw [insertInto]
    split
    next below =>
      refine List.pairwise_cons.mpr ⟨fun e he => ?_, h⟩
      rcases List.mem_cons.mp he with rfl | he
      · exact below
      · exact KeyOrder.trans below (later e he)
    next notBelow =>
      split
      next above =>
        refine List.pairwise_cons.mpr ⟨fun e he => ?_, ih rest⟩
        rcases mem_insertInto he with rfl | he
        · exact above
        · exact later e he
      next notAbove =>
        have same : d.1 = k := KeyOrder.eq_of_not_lt notAbove notBelow
        exact List.pairwise_cons.mpr ⟨fun e he => same ▸ later e he, rest⟩

end Entries

/-! ### Maps -/

variable {κ α : Type} [LT κ]

instance [DecidableEq κ] [DecidableEq α] : DecidableEq (SortedMap κ α) := fun a b =>
  decidable_of_iff (a.entries = b.entries) (by cases a; cases b; simp)

/-- The map without entries. -/
def empty : SortedMap κ α := ⟨[], .nil⟩

instance : EmptyCollection (SortedMap κ α) := ⟨empty⟩

instance : Inhabited (SortedMap κ α) := ⟨empty⟩

/-- The entries in ascending order of key. -/
def toList (m : SortedMap κ α) : List (κ × α) := m.entries

/-- The number of entries. -/
def size (m : SortedMap κ α) : Nat := m.entries.length

/-- Whether the map has no entry. -/
def isEmpty (m : SortedMap κ α) : Bool := m.entries.isEmpty

/-- The value at `k`. -/
def get? [DecidableEq κ] (m : SortedMap κ α) (k : κ) : Option α :=
  valueIn k m.entries

/-- The map of the entries whose key satisfies `p`. -/
def filterKeys (p : κ → Bool) (m : SortedMap κ α) : SortedMap κ α :=
  ⟨m.entries.filter fun e => p e.1, m.ascending.filter _⟩

theorem get?_filterKeys [DecidableEq κ] (p : κ → Bool) (m : SortedMap κ α) (k : κ) :
    (m.filterKeys p).get? k = if p k then m.get? k else none :=
  valueIn_filter p k m.entries

variable [DecidableLT κ] [KeyOrder κ]

/-- The map with `k` bound to `v`, whatever it was bound to before. -/
def insert (m : SortedMap κ α) (k : κ) (v : α) : SortedMap κ α :=
  ⟨insertInto k v m.entries, ascending_insertInto k v m.ascending⟩

@[simp] theorem get?_insert_self [DecidableEq κ] (m : SortedMap κ α) (k : κ) (v : α) :
    (m.insert k v).get? k = some v :=
  valueIn_insertInto_self k v m.entries

theorem get?_insert_of_ne [DecidableEq κ] {k k' : κ} (different : k' ≠ k)
    (m : SortedMap κ α) (v : α) : (m.insert k v).get? k' = m.get? k' :=
  valueIn_insertInto_of_ne different v m.entries

/-- The map with every entry of `es` inserted in turn, so that the last one of a key stays. -/
def insertAll (m : SortedMap κ α) (es : List (κ × α)) : SortedMap κ α :=
  es.foldl (fun m e => m.insert e.1 e.2) m

/-- The map of `es`, in which the last entry of a key counts. -/
def ofList (es : List (κ × α)) : SortedMap κ α :=
  empty.insertAll es

end SortedMap

end SpecPrompt
