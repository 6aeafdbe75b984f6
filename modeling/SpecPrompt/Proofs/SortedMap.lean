import Mathlib.Algebra.GroupWithZero.Nat
import Mathlib.Data.List.Nodup
import SpecPrompt.SortedMap

/-!
# The theory of sorted maps

A sorted map is its lookups: maps that agree on every key are equal. Binding a list of entries one
after another lets the last entry of each key count, and binding the entries of a map gives the map
back.
-/

namespace SpecPrompt.SortedMap

variable {κ α : Type}

/-! ### Entry lists -/

/-- In a list without repeated keys, the entries are the lookups. -/
theorem valueIn_eq_some_iff [DecidableEq κ] {es : List (κ × α)} (distinct : (es.map Prod.fst).Nodup)
    {k : κ} {v : α} : valueIn k es = some v ↔ (k, v) ∈ es := by
  induction es with
  | nil => simp [valueIn]
  | cons e es ih =>
    obtain ⟨k', v'⟩ := e
    simp only [List.map_cons, List.nodup_cons] at distinct
    rw [valueIn]
    split
    -- The key is not bound again further on, so no other value can stand under it.
    next same =>
      have same : k' = k := same
      subst same
      have absent : (k', v) ∉ es := fun member => distinct.1 (List.mem_map_of_mem member)
      simp [absent, eq_comm]
    next apart =>
      have apart : k ≠ k' := fun same => apart same.symm
      simp [ih distinct.2, apart]

theorem valueIn_map [DecidableEq κ] {β : Type} (f : α → β) (k : κ) (es : List (κ × α)) :
    valueIn k (es.map fun e => (e.1, f e.2)) = (valueIn k es).map f := by
  induction es with
  | nil => rfl
  | cons e es ih =>
    rw [List.map_cons, valueIn, valueIn]
    split
    · rfl
    · exact ih

theorem valueIn_append [DecidableEq κ] (k : κ) (es fs : List (κ × α)) :
    valueIn k (es ++ fs) = (valueIn k es).or (valueIn k fs) := by
  induction es with
  | nil => simp [valueIn]
  | cons e es ih =>
    rw [List.cons_append, valueIn, valueIn]
    split
    · rfl
    · exact ih

theorem valueIn_eq_none [DecidableEq κ] {k : κ} {es : List (κ × α)} (h : ∀ e ∈ es, e.1 ≠ k) :
    valueIn k es = none := by
  induction es with
  | nil => rfl
  | cons e es ih =>
    rw [valueIn, if_neg (h e (by simp))]
    exact ih fun f hf => h f (by simp [hf])

/-- The sum of a measure over the entries grows at most by the measure of what is inserted. -/
theorem sum_insertInto_le [LT κ] [DecidableLT κ] (measure : κ × α → Nat) (k : κ) (v : α)
    (es : List (κ × α)) :
    ((insertInto k v es).map measure).sum ≤ measure (k, v) + (es.map measure).sum := by
  induction es with
  | nil => simp [insertInto]
  | cons e es ih =>
    rw [insertInto]
    split
    · simp
    · split
      · simp only [List.map_cons, List.sum_cons]
        omega
      · simp only [List.map_cons, List.sum_cons]
        omega

/-! ### Maps -/

variable [LT κ]

section Order

variable [KeyOrder κ]

theorem nodup_keys (m : SortedMap κ α) : (m.toList.map Prod.fst).Nodup := by
  rw [List.Nodup, List.pairwise_map]
  refine m.ascending.imp fun {a b} below same => ?_
  exact KeyOrder.irrefl a.1 (by rw [same] at below ⊢; exact below)

theorem mem_toList_iff [DecidableEq κ] {m : SortedMap κ α} {k : κ} {v : α} :
    (k, v) ∈ m.toList ↔ m.get? k = some v :=
  (valueIn_eq_some_iff m.nodup_keys).symm

/-- The entries of one kind are the same list in maps that have the same ones. -/
theorem filter_toList_eq {m n : SortedMap κ α} {p : κ × α → Bool}
    (same : ∀ e, p e = true → (e ∈ m.toList ↔ e ∈ n.toList)) :
    m.toList.filter p = n.toList.filter p := by
  have distinct : ∀ m : SortedMap κ α, (m.toList.filter p).Nodup := fun m =>
    (List.Nodup.of_map _ m.nodup_keys).filter p
  -- The entries are the same in some order, and both lists are in order.
  have perm : (m.toList.filter p).Perm (n.toList.filter p) := by
    refine (List.perm_ext_iff_of_nodup (distinct m) (distinct n)).mpr fun e => ?_
    rw [List.mem_filter, List.mem_filter]
    exact and_congr_left (same e)
  refine perm.eq_of_pairwise (fun a b _ _ ab ba => ?_) (m.ascending.filter p) (n.ascending.filter p)
  exact absurd (KeyOrder.trans ab ba) (KeyOrder.irrefl a.1)

/-- Maps that agree on every key are equal. -/
theorem ext_get? [DecidableEq κ] {m n : SortedMap κ α} (h : ∀ k, m.get? k = n.get? k) : m = n := by
  have same : m.toList = n.toList := by
    have all : ∀ m : SortedMap κ α, m.toList.filter (fun _ => true) = m.toList := fun m =>
      List.filter_true _
    rw [← all m, ← all n]
    exact filter_toList_eq fun e _ => by rw [mem_toList_iff, mem_toList_iff, h]
  cases m
  cases n
  cases same
  rfl

end Order

/-! ### Mapped values -/

/-- The map with every value replaced by its image. -/
def mapValues {β : Type} (f : α → β) (m : SortedMap κ α) : SortedMap κ β where
  entries := m.entries.map fun e => (e.1, f e.2)
  ascending := by
    rw [Ascending, List.pairwise_map]
    exact m.ascending

theorem get?_mapValues [DecidableEq κ] {β : Type} (f : α → β) (m : SortedMap κ α) (k : κ) :
    (m.mapValues f).get? k = (m.get? k).map f :=
  valueIn_map f k m.entries

theorem toList_mapValues {β : Type} (f : α → β) (m : SortedMap κ α) :
    (m.mapValues f).toList = m.toList.map fun e => (e.1, f e.2) := rfl

theorem get?_empty [DecidableEq κ] (k : κ) : (empty : SortedMap κ α).get? k = none := rfl

variable [DecidableLT κ] [KeyOrder κ]

theorem get?_insert [DecidableEq κ] (m : SortedMap κ α) (k k' : κ) (v : α) :
    (m.insert k v).get? k' = if k' = k then some v else m.get? k' := by
  split
  next same => rw [same, get?_insert_self]
  next apart => exact get?_insert_of_ne apart m v

theorem insertAll_cons (m : SortedMap κ α) (e : κ × α) (es : List (κ × α)) :
    m.insertAll (e :: es) = (m.insert e.1 e.2).insertAll es := rfl

theorem insertAll_append (m : SortedMap κ α) (es fs : List (κ × α)) :
    m.insertAll (es ++ fs) = (m.insertAll es).insertAll fs :=
  List.foldl_append

/-- After a list of entries is bound, the last one of a key counts. -/
theorem get?_insertAll [DecidableEq κ] (m : SortedMap κ α) (es : List (κ × α)) (k : κ) :
    (m.insertAll es).get? k = (valueIn k es.reverse).or (m.get? k) := by
  induction es generalizing m with
  | nil => rfl
  | cons e es ih =>
    rw [insertAll_cons, ih, get?_insert, List.reverse_cons, valueIn_append]
    simp only [valueIn, eq_comm (a := k)]
    cases valueIn k es.reverse <;> split <;> rfl

theorem get?_ofList [DecidableEq κ] (es : List (κ × α)) (k : κ) :
    (ofList es).get? k = valueIn k es.reverse := by
  rw [ofList, get?_insertAll, get?_empty, Option.or_none]

theorem get?_ofList_eq_none [DecidableEq κ] {es : List (κ × α)} {k : κ} (h : ∀ e ∈ es, e.1 ≠ k) :
    (ofList es).get? k = none := by
  rw [get?_ofList]
  exact valueIn_eq_none fun e he => h e (List.mem_reverse.mp he)

/-- The entry of a key after which the key does not come again is the one that counts. -/
theorem get?_ofList_append_cons [DecidableEq κ] {before after : List (κ × α)} {k : κ} (v : α)
    (h : ∀ e ∈ after, e.1 ≠ k) : (ofList (before ++ (k, v) :: after)).get? k = some v := by
  have behind : valueIn k after.reverse = none :=
    valueIn_eq_none fun e he => h e (List.mem_reverse.mp he)
  rw [get?_ofList, List.reverse_append, List.reverse_cons, valueIn_append, valueIn_append, behind]
  simp [valueIn]

/-- The entries of a map, bound again, give the map back. -/
theorem ofList_toList [DecidableEq κ] (m : SortedMap κ α) : ofList m.toList = m := by
  refine ext_get? fun k => ?_
  rw [get?_ofList]
  ext v
  have distinct : (m.toList.reverse.map Prod.fst).Nodup := by
    rw [List.map_reverse]
    exact List.nodup_reverse.mpr m.nodup_keys
  rw [valueIn_eq_some_iff distinct, List.mem_reverse, mem_toList_iff]

/-- Binding the entries of a map is binding those it was made from. -/
theorem insertAll_toList_ofList [DecidableEq κ] (m : SortedMap κ α) (es : List (κ × α)) :
    m.insertAll (ofList es).toList = m.insertAll es := by
  refine ext_get? fun k => ?_
  rw [get?_insertAll, get?_insertAll, ← get?_ofList, ← get?_ofList, ofList_toList]

/-- A map of some entries and then others is the first ones' map with that of the others put over it. -/
theorem ofList_append [DecidableEq κ] (es fs : List (κ × α)) :
    ofList (es ++ fs) = (ofList es).insertAll (ofList fs).toList := by
  rw [insertAll_toList_ofList, ofList, insertAll_append, ← ofList]

/-- No more is in a map than in the list of entries it was made from. -/
theorem sum_ofList_le (measure : κ × α → Nat) (es : List (κ × α)) :
    ((ofList es).toList.map measure).sum ≤ (es.map measure).sum := by
  have grows : ∀ (m : SortedMap κ α) (es : List (κ × α)),
      ((m.insertAll es).toList.map measure).sum ≤
        (m.toList.map measure).sum + (es.map measure).sum := by
    intro m es
    -- The map grows along the way, so the induction is over every map.
    induction es generalizing m with
    | nil => exact Nat.le_refl _
    | cons e es ih =>
      have added : ((m.insert e.1 e.2).toList.map measure).sum ≤
          measure e + (m.toList.map measure).sum := sum_insertInto_le measure e.1 e.2 m.entries
      have rest := ih (m.insert e.1 e.2)
      rw [insertAll_cons, List.map_cons, List.sum_cons]
      omega
  have := grows empty es
  simpa [empty, toList, ofList] using this

/-- The entries of a map are among those it was made from. -/
theorem mem_of_mem_ofList [DecidableEq κ] {es : List (κ × α)} {e : κ × α}
    (h : e ∈ (ofList es).toList) : e ∈ es := by
  obtain ⟨k, v⟩ := e
  rw [mem_toList_iff, get?_ofList] at h
  have found : ∀ es : List (κ × α), valueIn k es = some v → (k, v) ∈ es := by
    intro es
    induction es with
    | nil => simp [valueIn]
    | cons e es ih =>
      rw [valueIn]
      split
      next same =>
        intro value
        have : e = (k, v) := Prod.ext same (Option.some.inj value)
        simp [this]
      · exact fun value => List.mem_cons_of_mem _ (ih value)
  simpa using found es.reverse h

end SpecPrompt.SortedMap
