import SyscallMeter.KeyMap

/-! What a map has under a key after entries were put into it: an entry replaces the one with its
key and leaves the others alone. -/
namespace SyscallMeter.KeyMap

variable {α : Type}

theorem find?_insertEntry (key : String) (value : α) (l : List (String × α)) (k : String) :
    (insertEntry key value l).find? (·.1 == k) =
      if key = k then some (key, value) else l.find? (·.1 == k) := by
  induction l with
  | nil =>
    by_cases same : key = k
    · simp [insertEntry, same]
    · simp [insertEntry, same]
  | cons entry rest ih =>
    unfold insertEntry
    split
    · by_cases same : key = k
      · simp [same]
      · simp [same]
    · rename_i notBelow
      split
      · rename_i above
        have other : entry.1 ≠ key := fun same => String.lt_irrefl key (same ▸ above)
        by_cases same : key = k
        · subst same
          simp [ih, other]
        · simp only [List.find?_cons, ih, if_neg same]
      · rename_i notAbove
        have equal : key = entry.1 :=
          String.le_antisymm (String.not_lt.1 notAbove) (String.not_lt.1 notBelow)
        by_cases same : key = k
        · simp [same]
        · have passed : entry.1 ≠ k := equal ▸ same
          simp [same, passed]

@[simp] theorem get?_insert (m : KeyMap α) (key : String) (value : α) (k : String) :
    (m.insert key value).get? k = if key = k then some value else m.get? k := by
  unfold get? insert
  rw [find?_insertEntry]
  split <;> rfl

theorem get?_insertAll_of_not_mem (m : KeyMap α) {pairs : List (String × α)} {k : String}
    (other : k ∉ pairs.map (·.1)) : (m.insertAll pairs).get? k = m.get? k := by
  induction pairs generalizing m with
  | nil => rfl
  | cons pair rest ih =>
    rw [List.map_cons, List.mem_cons, not_or] at other
    have later := ih (m.insert pair.1 pair.2) other.2
    rw [get?_insert, if_neg (Ne.symm other.1)] at later
    exact later

/-- Of pairs with different keys none is lost. -/
theorem get?_insertAll_of_mem (m : KeyMap α) {pairs : List (String × α)}
    (different : (pairs.map (·.1)).Nodup) {k : String} {value : α} (inside : (k, value) ∈ pairs) :
    (m.insertAll pairs).get? k = some value := by
  induction pairs generalizing m with
  | nil => cases inside
  | cons pair rest ih =>
    obtain ⟨other, different⟩ := List.nodup_cons.mp different
    rcases List.mem_cons.mp inside with rfl | inside
    · have kept := get?_insertAll_of_not_mem (m.insert k value) other
      rw [get?_insert, if_pos rfl] at kept
      exact kept
    · exact ih (m.insert pair.1 pair.2) different inside

theorem mem_keys {m : KeyMap α} {k : String} : k ∈ m.keys ↔ ∃ value, m.get? k = some value := by
  unfold keys get?
  simp only [Option.map_eq_some_iff, List.mem_map]
  constructor
  · rintro ⟨entry, inside, rfl⟩
    have found : (m.entries.find? (·.1 == entry.1)).isSome :=
      List.find?_isSome.mpr ⟨entry, inside, beq_self_eq_true _⟩
    obtain ⟨first, found⟩ := Option.isSome_iff_exists.mp found
    exact ⟨first.2, first, found, rfl⟩
  · rintro ⟨_, entry, found, -⟩
    exact ⟨entry, List.mem_of_find?_eq_some found, by simpa using List.find?_some found⟩

theorem mem_keys_insert {m : KeyMap α} {key k : String} {value : α} :
    k ∈ (m.insert key value).keys ↔ k = key ∨ k ∈ m.keys := by
  by_cases same : key = k
  · simp [mem_keys, same]
  · simp [mem_keys, same, Ne.symm same]

theorem mem_keys_insertAll {m : KeyMap α} {pairs : List (String × α)} {k : String} :
    k ∈ (m.insertAll pairs).keys ↔ k ∈ pairs.map (·.1) ∨ k ∈ m.keys := by
  induction pairs generalizing m with
  | nil => simp [insertAll]
  | cons pair rest ih =>
    have later := ih (m := m.insert pair.1 pair.2)
    rw [mem_keys_insert] at later
    rw [List.map_cons, List.mem_cons, or_assoc, or_left_comm]
    exact later

end SyscallMeter.KeyMap
