import SyscallMeter.Text.Search

/-! Texts that are split at a separator. A separator ends one part and begins the next, so that the
parts of a text are those before it and those behind it. Splitting at the first or the last of a
character gives the one pair of parts of which the front, or the back, is without it. -/
namespace SyscallMeter.Text

variable {separator : Char}

theorem splitOn_ne_nil (separator : Char) (s : List Char) : splitOn separator s ≠ [] := by
  cases s with
  | nil => simp [splitOn]
  | cons c rest =>
    unfold splitOn
    split
    · simp
    · split <;> simp

theorem splitOn_append (s rest : List Char) :
    splitOn separator (s ++ separator :: rest) = splitOn separator s ++ splitOn separator rest := by
  induction s with
  | nil => simp [splitOn]
  | cons c s ih =>
    by_cases ends : c = separator
    · simp [splitOn, ends, ih]
    · cases parts : splitOn separator s with
      | nil => exact absurd parts (splitOn_ne_nil separator s)
      | cons first others => simp [splitOn, ends, ih, parts]

theorem splitOn_of_not_mem {s : List Char} (clear : separator ∉ s) : splitOn separator s = [s] := by
  induction s with
  | nil => rfl
  | cons c s ih =>
    simp only [List.mem_cons, not_or] at clear
    simp [splitOn, Ne.symm clear.1, ih clear.2]

/-- Parts that are each ended by the separator are split again, with nothing behind the last. -/
theorem splitOn_ended {parts : List (List Char)} (clear : ∀ part ∈ parts, separator ∉ part) :
    splitOn separator (parts.flatMap fun part => part ++ [separator]) = parts ++ [[]] := by
  induction parts with
  | nil => rfl
  | cons part rest ih =>
    have own := clear part List.mem_cons_self
    have others := ih fun part inside => clear part (List.mem_cons_of_mem _ inside)
    rw [List.flatMap_cons, List.append_assoc, List.singleton_append, splitOn_append,
      splitOn_of_not_mem own, others, List.singleton_append, List.cons_append]

/-- Parts that each follow a separator are split again, behind all that stands before them. -/
theorem splitOn_begun {parts : List (List Char)} (clear : ∀ part ∈ parts, separator ∉ part)
    (s : List Char) : splitOn separator (s ++ parts.flatMap fun part => separator :: part) =
      splitOn separator s ++ parts := by
  induction parts generalizing s with
  | nil => simp
  | cons part rest ih =>
    have own := clear part List.mem_cons_self
    have others := ih (fun part inside => clear part (List.mem_cons_of_mem _ inside))
      (s ++ separator :: part)
    rw [splitOn_append, splitOn_of_not_mem own] at others
    simpa using others

/-! ### One separator -/

theorem splitFirst?_eq_none {s : List Char} : splitFirst? separator s = none ↔ separator ∉ s := by
  induction s with
  | nil => simp [splitFirst?]
  | cons c s ih =>
    by_cases found : c = separator
    · simp [splitFirst?, found]
    · simp [splitFirst?, found, ih, Ne.symm found]

/-- What stands before the first of a character is without it. -/
theorem splitFirst?_eq_some {s before behind : List Char} :
    splitFirst? separator s = some (before, behind) ↔
      s = before ++ separator :: behind ∧ separator ∉ before := by
  induction s generalizing before with
  | nil => simp [splitFirst?]
  | cons c s ih =>
    by_cases found : c = separator
    · rw [splitFirst?, if_pos found]
      constructor
      · rintro ⟨⟩
        exact ⟨by rw [found, List.nil_append], List.not_mem_nil⟩
      · rintro ⟨split, clear⟩
        cases before with
        | nil =>
          obtain ⟨-, rfl⟩ := List.cons.inj split
          rfl
        | cons d before =>
          obtain ⟨rfl, -⟩ := List.cons.inj split
          exact absurd (found ▸ List.mem_cons_self) clear
    · rw [splitFirst?, if_neg found, Option.map_eq_some_iff]
      constructor
      · rintro ⟨⟨front, rest⟩, split, parts⟩
        obtain ⟨rfl, rfl⟩ := Prod.mk.inj parts
        obtain ⟨rfl, clear⟩ := ih.mp split
        exact ⟨rfl, by simp [Ne.symm found, clear]⟩
      · rintro ⟨split, clear⟩
        cases before with
        | nil =>
          obtain ⟨rfl, -⟩ := List.cons.inj split
          exact absurd rfl found
        | cons d before =>
          obtain ⟨rfl, rfl⟩ := List.cons.inj split
          have clear' : separator ∉ before := fun inside => clear (List.mem_cons_of_mem _ inside)
          exact ⟨(before, behind), ih.mpr ⟨rfl, clear'⟩, rfl⟩

theorem splitLast?_eq_none {s : List Char} : splitLast? separator s = none ↔ separator ∉ s := by
  rw [splitLast?, Option.map_eq_none_iff, splitFirst?_eq_none, List.mem_reverse]

/-- What stands behind the last of a character is without it. -/
theorem splitLast?_eq_some {s before behind : List Char} :
    splitLast? separator s = some (before, behind) ↔
      s = before ++ separator :: behind ∧ separator ∉ behind := by
  rw [splitLast?, Option.map_eq_some_iff]
  constructor
  · rintro ⟨⟨front, rest⟩, split, parts⟩
    obtain ⟨rfl, rfl⟩ := Prod.mk.inj parts
    obtain ⟨reversed, clear⟩ := splitFirst?_eq_some.mp split
    refine ⟨?_, by rwa [List.mem_reverse]⟩
    rw [← List.reverse_reverse s, reversed, List.reverse_append, List.reverse_cons,
      List.append_assoc, List.singleton_append]
  · rintro ⟨rfl, clear⟩
    refine ⟨(behind.reverse, before.reverse), splitFirst?_eq_some.mpr ⟨?_, ?_⟩, ?_⟩
    · simp
    · rwa [List.mem_reverse]
    · simp

end SyscallMeter.Text
