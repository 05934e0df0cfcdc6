import Mathlib.Data.List.Infix
import SyscallMeter.Text.Search

/-! Where a phrase can stand in a text that is put together from several. Fragments that a phrase
cannot overlap let it stand in the other parts only. -/
namespace SyscallMeter.Text

theorem contains_iff (text part : List Char) : contains text part = true ↔ part <:+: text := by
  induction text with
  | nil => simp [contains]
  | cons c rest ih => simp [contains, ih, List.infix_cons_iff]

/-- A phrase neither stands in a fragment nor around it, nor does it reach into it from a side. -/
structure Apart (part fragment : List Char) : Prop where
  absent : ¬ part <:+: fragment
  outside : ¬ fragment <:+: part
  /-- No end of the phrase begins the fragment. -/
  entry : ∀ s ∈ fragment.inits, s <:+ part → s = []
  /-- No beginning of the phrase ends it. -/
  leave : ∀ s ∈ fragment.tails, s <+: part → s = []

instance (part fragment : List Char) : Decidable (Apart part fragment) :=
  decidable_of_iff
    (¬ part <:+: fragment ∧ ¬ fragment <:+: part ∧
      (∀ s ∈ fragment.inits, s <:+ part → s = []) ∧ ∀ s ∈ fragment.tails, s <+: part → s = [])
    ⟨fun ⟨h₁, h₂, h₃, h₄⟩ => ⟨h₁, h₂, h₃, h₄⟩, fun ⟨h₁, h₂, h₃, h₄⟩ => ⟨h₁, h₂, h₃, h₄⟩⟩

namespace Apart

variable {part fragment : List Char}

/-- A fragment without a character of the phrase is apart from it. -/
theorem of_foreign (hp : part ≠ []) (hf : fragment ≠ []) (h : ∀ c ∈ fragment, c ∉ part) :
    Apart part fragment := by
  have none {s : List Char} (hs : ∀ c ∈ s, c ∈ fragment ∧ c ∈ part) : s = [] :=
    List.eq_nil_iff_forall_not_mem.mpr fun c hc => h c (hs c hc).1 (hs c hc).2
  refine ⟨fun inside => hp (none fun c hc => ⟨inside.mem hc, hc⟩),
    fun around => hf (none fun c hc => ⟨hc, around.mem hc⟩), ?_, ?_⟩
  · intro s hs hp
    exact none fun c hc => ⟨((List.mem_inits s fragment).mp hs).mem hc, hp.mem hc⟩
  · intro s hs hp
    exact none fun c hc => ⟨((List.mem_tails s fragment).mp hs).mem hc, hp.mem hc⟩

/-- Behind the fragment a phrase has to begin anew. -/
theorem infix_left (h : Apart part fragment) (rest : List Char) :
    part <:+: fragment ++ rest ↔ part <:+: rest := by
  constructor
  · intro stands
    obtain inside | behind | ⟨s, t, rfl, hs, ht⟩ := List.infix_append_iff.mp stands
    · exact absurd inside h.absent
    · exact behind
    · obtain rfl := h.leave s ((List.mem_tails s fragment).mpr hs) (List.prefix_append s t)
      exact ht.isInfix
  · exact fun stands => stands.trans (List.suffix_append fragment rest).isInfix

/-- A phrase stands before the fragment or behind it. -/
theorem infix_between (h : Apart part fragment) (text rest : List Char) :
    part <:+: text ++ (fragment ++ rest) ↔ part <:+: text ∨ part <:+: rest := by
  constructor
  · intro stands
    obtain before | behind | ⟨s, t, hst, hs, ht⟩ := List.infix_append_iff.mp stands
    · exact .inl before
    · exact .inr ((h.infix_left rest).mp behind)
    · left
      have ends : t <:+ part := ⟨s, hst.symm⟩
      obtain short | long := List.prefix_or_prefix_of_prefix ht (List.prefix_append fragment rest)
      · obtain rfl := h.entry t ((List.mem_inits t fragment).mpr short) ends
        simpa [hst] using hs.isInfix
      · exact absurd (long.isInfix.trans ends.isInfix) h.outside
  · rintro (before | behind)
    · exact before.trans (List.prefix_append text _).isInfix
    · exact ((h.infix_left rest).mpr behind).trans (List.suffix_append text _).isInfix

end Apart

end SyscallMeter.Text
