/-!
# Finite maps from names

A `FieldMap α` holds at most one value for each name and lists its entries in increasing order
of the names, so two maps with the same entries are equal.

## Main definitions

* `FieldMap.insert` : the map with one more entry, which replaces an entry of the same name.
* `FieldMap.find?` : the value of a name.
* `FieldMap.ofList` : the map of a list of entries; of two entries of one name the later stays.

## Main results

* `FieldMap.find?_insert` : what a map holds after an insertion.
* `FieldMap.ofList_entries` : a map is rebuilt from its entries.
-/

namespace AssessmentItem

/-- A finite map from names to values, in increasing order of the names. -/
structure FieldMap (α : Type) where
  /-- The entries, in strictly increasing order of their names. -/
  entries : List (String × α)
  sorted : entries.Pairwise (fun a b ↦ a.1 < b.1)

namespace FieldMap

variable {α β : Type}

/-! ### Insertion -/

/-- The entries with `(name, value)` among them, put at its place in the order. -/
def insertEntry (name : String) (value : α) : List (String × α) → List (String × α)
  | [] => [(name, value)]
  | (k, v) :: rest =>
    if name < k then (name, value) :: (k, v) :: rest
    else if name = k then (name, value) :: rest
    else (k, v) :: insertEntry name value rest

theorem mem_insertEntry {name : String} {value : α} {l : List (String × α)} {e : String × α}
    (h : e ∈ insertEntry name value l) : e = (name, value) ∨ e ∈ l := by
  induction l with
  | nil => simpa [insertEntry] using h
  | cons head rest ih =>
    obtain ⟨k, v⟩ := head
    simp only [insertEntry] at h
    split at h
    · simpa using h
    · split at h
      · simp only [List.mem_cons] at h ⊢
        grind
      · simp only [List.mem_cons] at h ⊢
        grind

theorem lt_of_not_lt_of_ne {a b : String} (h : ¬a < b) (hne : a ≠ b) : b < a := by
  apply Classical.byContradiction
  intro hba
  exact hne (String.le_antisymm (String.not_lt.1 hba) (String.not_lt.1 h))

theorem sorted_insertEntry {name : String} {value : α} {l : List (String × α)}
    (h : l.Pairwise (fun a b ↦ a.1 < b.1)) :
    (insertEntry name value l).Pairwise (fun a b ↦ a.1 < b.1) := by
  induction l with
  | nil => simp [insertEntry]
  | cons head rest ih =>
    obtain ⟨k, v⟩ := head
    rw [List.pairwise_cons] at h
    simp only [insertEntry]
    split
    · rename_i hlt
      refine List.pairwise_cons.2 ⟨?_, List.pairwise_cons.2 h⟩
      intro e he
      rcases List.mem_cons.1 he with rfl | he
      · exact hlt
      · exact String.lt_trans hlt (h.1 e he)
    · split
      · rename_i heq
        subst heq
        exact List.pairwise_cons.2 h
      · rename_i hlt hne
        refine List.pairwise_cons.2 ⟨?_, ih h.2⟩
        intro e he
        rcases mem_insertEntry he with rfl | he
        · exact lt_of_not_lt_of_ne hlt hne
        · exact h.1 e he

/-- The map without entries. -/
def empty : FieldMap α := ⟨[], .nil⟩

/-- The map `m` with one more entry, which replaces an entry of the same `name`. -/
def insert (m : FieldMap α) (name : String) (value : α) : FieldMap α :=
  ⟨insertEntry name value m.entries, sorted_insertEntry m.sorted⟩

/-- The map of a list of entries; of two entries of one name the later stays, as with `insert`. -/
def ofList (l : List (String × α)) : FieldMap α :=
  l.foldl (fun m e ↦ m.insert e.1 e.2) empty

/-! ### Reading -/

/-- The value that `m` has for `name`. -/
def find? (m : FieldMap α) (name : String) : Option α :=
  (m.entries.find? (fun e ↦ e.1 == name)).map (·.2)

/-- Whether the map has no entries. -/
def isEmpty (m : FieldMap α) : Bool := m.entries.isEmpty

/-- The names, in increasing order. -/
def names (m : FieldMap α) : List String := m.entries.map (·.1)

/-- The values, in the order of their names. -/
def values (m : FieldMap α) : List α := m.entries.map (·.2)

/-- The same names with every value `v` replaced by `f v`. -/
def map (f : α → β) (m : FieldMap α) : FieldMap β where
  entries := m.entries.map fun e ↦ (e.1, f e.2)
  sorted := List.pairwise_map.2 m.sorted

theorem ext {m n : FieldMap α} (h : m.entries = n.entries) : m = n := by
  cases m; cases n; simp_all

/-! ### Small laws -/

theorem find?_insertEntry (l : List (String × α)) (name other : String) (value : α) :
    (insertEntry name value l).find? (fun e ↦ e.1 == other) =
      if name = other then some (name, value) else l.find? (fun e ↦ e.1 == other) := by
  induction l with
  | nil => simp only [insertEntry, List.find?_cons, List.find?_nil]; grind
  | cons head rest ih =>
    obtain ⟨k, v⟩ := head
    simp only [insertEntry]
    grind

/-- After `insert` a map has the new `value` at `name` and what it had before elsewhere. -/
theorem find?_insert (m : FieldMap α) (name other : String) (value : α) :
    (m.insert name value).find? other = if name = other then some value else m.find? other := by
  simp only [find?, insert, find?_insertEntry]
  split <;> rfl

theorem insertEntry_last {l : List (String × α)} {name : String} {value : α}
    (h : ∀ e ∈ l, e.1 < name) : insertEntry name value l = l ++ [(name, value)] := by
  induction l with
  | nil => rfl
  | cons head rest ih =>
    obtain ⟨k, v⟩ := head
    have hk : k < name := h (k, v) (by simp)
    have hlt : ¬name < k := String.lt_asymm hk
    have hne : name ≠ k := by
      rintro rfl
      exact String.lt_irrefl _ hk
    simp only [insertEntry, hlt, hne, if_false, List.cons_append]
    rw [ih fun e he ↦ h e (by simp [he])]

theorem foldl_insert_entries (l : List (String × α)) (m : FieldMap α)
    (h : (m.entries ++ l).Pairwise (fun a b ↦ a.1 < b.1)) :
    (l.foldl (fun m e ↦ m.insert e.1 e.2) m).entries = m.entries ++ l := by
  induction l generalizing m with
  | nil => simp
  | cons e l ih =>
    have hlast : (m.insert e.1 e.2).entries = m.entries ++ [e] :=
      insertEntry_last fun a ha ↦ (List.pairwise_append.1 h).2.2 a ha e (by simp)
    rw [List.foldl_cons, ih, hlast, List.append_assoc, List.singleton_append]
    rw [hlast, List.append_assoc, List.singleton_append]
    exact h

/-- A list in increasing order is the `entries` of its map. -/
theorem entries_ofList {l : List (String × α)} (h : l.Pairwise (fun a b ↦ a.1 < b.1)) :
    (ofList l).entries = l :=
  foldl_insert_entries l empty h

/-- A map is rebuilt from its `entries`. -/
theorem ofList_entries (m : FieldMap α) : ofList m.entries = m := ext (entries_ofList m.sorted)

end FieldMap

end AssessmentItem
