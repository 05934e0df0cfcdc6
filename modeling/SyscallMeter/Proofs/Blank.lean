import Mathlib.Data.List.DropRight
import SyscallMeter.Text.Blank

/-! White space at the ends of a text and between its words. Trimming takes away the white space at
both ends and nothing else, so that a trimmed text stays as it is. The words of a text are its first
word and those behind it. -/
namespace SyscallMeter.Text

/-- Nothing but white space. -/
def Blank (s : List Char) : Prop := ∀ c ∈ s, isBlank c

theorem Blank.append {s t : List Char} (hs : Blank s) (ht : Blank t) : Blank (s ++ t) := by
  intro c inside
  exact (List.mem_append.mp inside).elim (hs c) (ht c)

theorem not_blank_iff {s : List Char} : ¬ Blank s ↔ ∃ c ∈ s, isBlank c = false := by
  simp [Blank]

theorem Blank.reverse {s : List Char} (h : Blank s) : Blank s.reverse :=
  fun c inside => h c (List.mem_reverse.mp inside)

/-- White space is dropped up to the first character that is none. -/
theorem dropWhile_isBlank_append {lead rest : List Char} (blank : Blank lead)
    (begins : ∀ c ∈ rest.head?, isBlank c = false) : (lead ++ rest).dropWhile isBlank = rest := by
  rw [List.dropWhile_append_of_pos blank]
  cases rest with
  | nil => rfl
  | cons c rest => simp [begins c rfl]

/-! ### Trimming -/

/-- What is left of a text without the white space at both of its ends. -/
structure Stripped (s bare : List Char) : Prop where
  around : ∃ lead trail, s = lead ++ (bare ++ trail) ∧ Blank lead ∧ Blank trail
  begins : ∀ c ∈ bare.head?, isBlank c = false
  ends : ∀ c ∈ bare.getLast?, isBlank c = false

namespace Stripped

variable {s bare : List Char}

/-- A text that is stripped once has nothing left to strip. -/
theorem again (h : Stripped s bare) : Stripped bare bare :=
  ⟨⟨[], [], by simp, List.forall_mem_nil _, List.forall_mem_nil _⟩, h.begins, h.ends⟩

theorem subset (h : Stripped s bare) : bare ⊆ s := by
  obtain ⟨lead, trail, rfl, -, -⟩ := h.around
  intro c inside
  simp [inside]

theorem eq_nil_iff (h : Stripped s bare) : bare = [] ↔ Blank s := by
  constructor
  · rintro rfl
    obtain ⟨lead, trail, rfl, blank, blank'⟩ := h.around
    exact blank.append blank'
  · intro blank
    cases bare with
    | nil => rfl
    | cons c rest =>
      have solid := h.begins c rfl
      rw [blank c (h.subset List.mem_cons_self)] at solid
      cases solid

theorem blank_iff (h : Stripped s bare) : Blank bare ↔ Blank s :=
  h.again.eq_nil_iff.symm.trans h.eq_nil_iff

end Stripped

theorem stripped_trim (s : List Char) : Stripped s (trim s) := by
  have back : trim s = (s.dropWhile isBlank).rdropWhile isBlank := rfl
  refine ⟨⟨s.takeWhile isBlank, (s.dropWhile isBlank).rtakeWhile isBlank, ?_, ?_, ?_⟩, ?_, ?_⟩
  · rw [back, List.rdropWhile_append_rtakeWhile, List.takeWhile_append_dropWhile]
  · exact fun c inside => List.mem_takeWhile_imp inside
  · exact fun c inside => List.mem_rtakeWhile_imp inside
  · -- The front of what is trimmed at the back is the front of the rest of the text.
    intro c first
    obtain ⟨trail, split⟩ := List.rdropWhile_prefix isBlank (l := s.dropWhile isBlank)
    have front : (s.dropWhile isBlank).head? = some c := by
      rw [← split, List.head?_append, ← back, Option.mem_def.mp first, Option.some_or]
    have solid := List.head?_dropWhile_not isBlank s
    rw [front] at solid
    exact solid
  · intro c last
    rw [back] at last
    have filled : (s.dropWhile isBlank).rdropWhile isBlank ≠ [] := by
      intro nothing
      rw [nothing] at last
      cases last
    have solid := List.rdropWhile_last_not isBlank _ filled
    rw [List.getLast?_eq_some_getLast filled, Option.mem_def, Option.some.injEq] at last
    rw [← last]
    simpa using solid

theorem Stripped.trim_eq {s bare : List Char} (h : Stripped s bare) : trim s = bare := by
  obtain ⟨lead, trail, split, blank, blank'⟩ := h.around
  cases empty : bare with
  | nil =>
    have nothing : s.dropWhile isBlank = [] :=
      List.dropWhile_eq_nil_iff.mpr (h.eq_nil_iff.mp empty)
    rw [trim, nothing]
    rfl
  | cons c rest =>
    have first : ∀ d ∈ (bare ++ trail).head?, isBlank d = false := by
      rw [List.head?_append, empty]
      simpa [empty] using h.begins
    have last : ∀ d ∈ bare.reverse.head?, isBlank d = false := by
      simpa using h.ends
    rw [trim, split, dropWhile_isBlank_append blank first, List.reverse_append,
      dropWhile_isBlank_append blank'.reverse last, List.reverse_reverse, empty]

theorem trim_eq_nil_iff {s : List Char} : trim s = [] ↔ Blank s := (stripped_trim s).eq_nil_iff

/-! ### Words -/

/-- A word stands first in a text, with no more than white space before it, and the rest of the text
does not go on with it. -/
structure FirstWord (text word rest : List Char) : Prop where
  split : ∃ lead, text = lead ++ (word ++ rest) ∧ Blank lead
  filled : word ≠ []
  solid : ∀ c ∈ word, isBlank c = false
  ended : ∀ c ∈ rest.head?, isBlank c

theorem wordsFrom_append {word : List Char} (solid : ∀ c ∈ word, isBlank c = false)
    (read rest : List Char) :
    wordsFrom read (word ++ rest) = wordsFrom (word.reverse ++ read) rest := by
  induction word generalizing read with
  | nil => rfl
  | cons c word ih =>
    have first : isBlank c = false := solid c List.mem_cons_self
    rw [List.cons_append, wordsFrom, first, if_neg Bool.false_ne_true,
      ih (fun d inside => solid d (List.mem_cons_of_mem _ inside))]
    simp

theorem wordsFrom_of_ended {read rest : List Char} (filled : read ≠ [])
    (ended : ∀ c ∈ rest.head?, isBlank c) : wordsFrom read rest = read.reverse :: words rest := by
  cases rest with
  | nil => simp [words, wordsFrom, filled]
  | cons c rest => simp [words, wordsFrom, filled, ended c rfl]

theorem words_append_of_blank {lead : List Char} (blank : Blank lead) (rest : List Char) :
    words (lead ++ rest) = words rest := by
  induction lead with
  | nil => rfl
  | cons c lead ih =>
    have first : isBlank c = true := blank c List.mem_cons_self
    rw [List.cons_append, words, wordsFrom, if_pos first]
    exact ih fun d inside => blank d (List.mem_cons_of_mem _ inside)

theorem words_of_blank {text : List Char} (blank : Blank text) : words text = [] := by
  have all := words_append_of_blank blank []
  rwa [List.append_nil] at all

theorem FirstWord.words_eq {text word rest : List Char} (h : FirstWord text word rest) :
    words text = word :: words rest := by
  obtain ⟨lead, rfl, blank⟩ := h.split
  have filled : word.reverse ++ [] ≠ [] := by simp [h.filled]
  rw [words_append_of_blank blank, words, wordsFrom_append h.solid,
    wordsFrom_of_ended filled h.ended, List.append_nil, List.reverse_reverse]

/-- A text that is not blank has a first word. -/
theorem exists_firstWord {text : List Char} (h : ¬ Blank text) :
    ∃ word rest, FirstWord text word rest := by
  let begun := text.dropWhile isBlank
  have filled : begun ≠ [] := fun nothing => h (List.dropWhile_eq_nil_iff.mp nothing)
  refine ⟨begun.takeWhile (! isBlank ·), begun.dropWhile (! isBlank ·),
    ⟨text.takeWhile isBlank, ?_, fun c => List.mem_takeWhile_imp⟩, ?_, ?_, ?_⟩
  · rw [List.takeWhile_append_dropWhile, List.takeWhile_append_dropWhile]
  · have first := List.head_dropWhile_not isBlank filled
    rw [← List.cons_head_tail filled, List.takeWhile_cons_of_pos (by simpa using first)]
    exact List.cons_ne_nil _ _
  · intro c inside
    simpa using List.mem_takeWhile_imp inside
  · intro c first
    have blank := List.head?_dropWhile_not (! isBlank ·) begun
    rw [Option.mem_def.mp first] at blank
    simpa using blank

theorem exists_firstWord_of_mem_words {text word : List Char} (h : word ∈ words text) :
    ∃ first rest, FirstWord text first rest := by
  refine exists_firstWord fun blank => ?_
  rw [words_of_blank blank] at h
  cases h

theorem words_getElem?_zero {text word : List Char} :
    (words text)[0]? = some word ↔ ∃ rest, FirstWord text word rest := by
  constructor
  · intro found
    obtain ⟨first, rest, h⟩ := exists_firstWord_of_mem_words (List.mem_of_getElem? found)
    rw [h.words_eq, List.getElem?_cons_zero] at found
    exact ⟨rest, Option.some.inj found ▸ h⟩
  · rintro ⟨rest, h⟩
    rw [h.words_eq, List.getElem?_cons_zero]

/-- The words behind the first one are those of the rest of the text. -/
theorem words_getElem?_succ {text word : List Char} {n : Nat} :
    (words text)[n + 1]? = some word ↔
      ∃ first rest, FirstWord text first rest ∧ (words rest)[n]? = some word := by
  constructor
  · intro found
    obtain ⟨first, rest, h⟩ := exists_firstWord_of_mem_words (List.mem_of_getElem? found)
    rw [h.words_eq, List.getElem?_cons_succ] at found
    exact ⟨first, rest, h, found⟩
  · rintro ⟨first, rest, h, found⟩
    rwa [h.words_eq, List.getElem?_cons_succ]

/-- No word has white space in it. -/
theorem not_isBlank_of_mem_words {text word : List Char} (h : word ∈ words text) :
    ∀ c ∈ word, isBlank c = false := by
  obtain ⟨n, found⟩ := List.getElem?_of_mem h
  induction n generalizing text with
  | zero =>
    obtain ⟨rest, first⟩ := words_getElem?_zero.mp found
    exact first.solid
  | succ n ih =>
    obtain ⟨first, rest, -, found⟩ := words_getElem?_succ.mp found
    exact ih (List.mem_of_getElem? found) found

end SyscallMeter.Text
