/-! Maps with texts as keys, kept in the order of the keys. Texts are ordered by code points, which
is also the order of their bytes in UTF-8. -/
namespace SyscallMeter

structure KeyMap (α : Type) where
  entries : List (String × α)
  /-- The keys grow strictly, so each has one entry. -/
  sorted : entries.Pairwise fun a b => a.1 < b.1

namespace KeyMap

variable {α : Type}

def empty : KeyMap α := ⟨[], .nil⟩

/-- Puts an entry into its place in a sorted list, in place of the one with the same key. -/
def insertEntry (key : String) (value : α) : List (String × α) → List (String × α)
  | [] => [(key, value)]
  | entry :: rest =>
    if key < entry.1 then (key, value) :: entry :: rest
    else if entry.1 < key then entry :: insertEntry key value rest
    else (key, value) :: rest

theorem mem_insertEntry {key : String} {value : α} {l : List (String × α)} {e : String × α}
    (h : e ∈ insertEntry key value l) : e = (key, value) ∨ e ∈ l := by
  induction l with
  | nil => simpa [insertEntry] using h
  | cons entry rest ih =>
    unfold insertEntry at h
    split at h
    · simpa using h
    · split at h
      · rcases List.mem_cons.1 h with rfl | h
        · simp
        · exact (ih h).imp_right (List.mem_cons_of_mem _)
      · exact (List.mem_cons.1 h).imp_right (List.mem_cons_of_mem _)

theorem sorted_insertEntry (key : String) (value : α) {l : List (String × α)}
    (h : l.Pairwise fun a b => a.1 < b.1) :
    (insertEntry key value l).Pairwise fun a b => a.1 < b.1 := by
  induction l with
  | nil => simp [insertEntry]
  | cons entry rest ih =>
    have ⟨first, others⟩ := List.pairwise_cons.1 h
    unfold insertEntry
    split
    · rename_i below
      refine List.pairwise_cons.2 ⟨fun e he => ?_, h⟩
      rcases List.mem_cons.1 he with rfl | he
      · exact below
      · exact String.lt_trans below (first e he)
    · split
      · rename_i above
        refine List.pairwise_cons.2 ⟨fun e he => ?_, ih others⟩
        rcases mem_insertEntry he with rfl | he
        · exact above
        · exact first e he
      · rename_i notBelow notAbove
        have same : key = entry.1 :=
          String.le_antisymm (String.not_lt.1 notAbove) (String.not_lt.1 notBelow)
        exact List.pairwise_cons.2 ⟨fun e he => same ▸ first e he, others⟩

def insert (m : KeyMap α) (key : String) (value : α) : KeyMap α :=
  ⟨insertEntry key value m.entries, sorted_insertEntry key value m.sorted⟩

/-- Inserts pairs in order, so that of two pairs with one key the later one stays. -/
def insertAll (m : KeyMap α) (pairs : List (String × α)) : KeyMap α :=
  pairs.foldl (fun m pair => m.insert pair.1 pair.2) m

def ofList (pairs : List (String × α)) : KeyMap α := empty.insertAll pairs

def get? (m : KeyMap α) (key : String) : Option α :=
  (m.entries.find? fun entry => entry.1 == key).map (·.2)

def keys (m : KeyMap α) : List String := m.entries.map (·.1)

end KeyMap

end SyscallMeter
