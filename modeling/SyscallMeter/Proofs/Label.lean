import SyscallMeter.Proofs.Blank
import SyscallMeter.Proofs.Splitting
import SyscallMeter.Settings

/-! Labels as they are written: a key, a colon and a value, with white space around either. The first
colon divides, so that just the value can hold others. Whatever a label is read from, its key and its
value with a colon between them are read as that label again. -/
namespace SyscallMeter.Label
open Text

variable {text : String} {label : Label}

/-- The first colon of a text divides it into two parts that are not just white space. -/
structure Written (text : String) (before behind : List Char) : Prop where
  split : text.toList = before ++ ':' :: behind
  first : ':' ∉ before
  key : ∃ c ∈ before, isBlank c = false
  value : ∃ c ∈ behind, isBlank c = false

theorem parse?_of_split {before behind : List Char}
    (split : splitFirst? ':' text.toList = some (before, behind)) :
    parse? text = if trim before = [] ∨ trim behind = [] then none
      else some ⟨String.ofList (trim before), String.ofList (trim behind)⟩ := by
  simp [parse?, split]

/-- A label is read of the two parts, without the white space around them. -/
theorem parse?_eq_some : parse? text = some label ↔ ∃ before behind, Written text before behind ∧
    Stripped before label.key.toList ∧ Stripped behind label.value.toList := by
  constructor
  · intro read
    obtain ⟨⟨before, behind⟩, split, -⟩ := Option.bind_eq_some_iff.mp read
    rw [parse?_of_split split] at read
    split_ifs at read with empty
    obtain rfl := Option.some.inj read
    obtain ⟨divided, first⟩ := splitFirst?_eq_some.mp split
    obtain ⟨key, value⟩ := not_or.mp empty
    refine ⟨before, behind, ⟨divided, first, ?_, ?_⟩, ?_, ?_⟩
    · rwa [← not_blank_iff, ← trim_eq_nil_iff]
    · rwa [← not_blank_iff, ← trim_eq_nil_iff]
    · rw [String.toList_ofList]
      exact stripped_trim before
    · rw [String.toList_ofList]
      exact stripped_trim behind
  · rintro ⟨before, behind, written, key, value⟩
    have filled : ¬ (trim before = [] ∨ trim behind = []) := by
      rw [trim_eq_nil_iff, trim_eq_nil_iff, not_or, not_blank_iff, not_blank_iff]
      exact ⟨written.key, written.value⟩
    rw [parse?_of_split (splitFirst?_eq_some.mpr ⟨written.split, written.first⟩), if_neg filled,
      key.trim_eq, value.trim_eq, String.ofList_toList, String.ofList_toList]

theorem parse_eq_ok : parse text = .ok label ↔ parse? text = some label := by
  unfold parse
  cases parse? text <;> simp

theorem parse_eq_error {e : SettingsError} :
    parse text = .error e ↔ e = .invalidLabel text ∧ ¬ ∃ label, parse text = .ok label := by
  simp only [parse_eq_ok]
  unfold parse
  cases parse? text <;> simp [eq_comm]

theorem exists_parse_eq_ok :
    (∃ label, parse text = .ok label) ↔ ∃ before behind, Written text before behind := by
  simp only [parse_eq_ok, parse?_eq_some]
  constructor
  · rintro ⟨label, before, behind, written, -⟩
    exact ⟨before, behind, written⟩
  · rintro ⟨before, behind, written⟩
    refine ⟨⟨String.ofList (trim before), String.ofList (trim behind)⟩, before, behind, written, ?_⟩
    simpa only [String.toList_ofList] using ⟨stripped_trim before, stripped_trim behind⟩

/-- Stripped once more, both parts are as they were, and the same colon divides them. -/
theorem parse_written_again (read : parse text = .ok label) :
    parse (label.key ++ ":" ++ label.value) = .ok label := by
  obtain ⟨before, behind, written, key, value⟩ := parse?_eq_some.mp (parse_eq_ok.mp read)
  have again : Written (label.key ++ ":" ++ label.value) label.key.toList label.value.toList := by
    refine ⟨by simp, fun inside => written.first (key.subset inside), ?_, ?_⟩
    · rw [← not_blank_iff, key.blank_iff, not_blank_iff]
      exact written.key
    · rw [← not_blank_iff, value.blank_iff, not_blank_iff]
      exact written.value
  exact parse_eq_ok.mpr (parse?_eq_some.mpr ⟨_, _, again, key.again, value.again⟩)

/-- Exactly the texts are read in which something besides white space stands before the first colon
and behind it. The one is the key and the other the value, each without the white space around it, so
that neither is empty and no colon is in the key; and what was read can be written and read again.
Any other text is refused, and the error has it as it is. -/
theorem label_grammar (text : String) :
    (∀ label, parse text = .ok label ↔ ∃ before behind, Written text before behind ∧
        Stripped before label.key.toList ∧ Stripped behind label.value.toList) ∧
      ((∃ label, parse text = .ok label) ↔ ∃ before behind, Written text before behind) ∧
      (∀ error, parse text = .error error ↔
        error = .invalidLabel text ∧ ¬ ∃ before behind, Written text before behind) ∧
      ∀ label, parse text = .ok label →
        ':' ∉ label.key.toList ∧ label.key ≠ "" ∧ label.value ≠ "" ∧
        parse (label.key ++ ":" ++ label.value) = .ok label := by
  refine ⟨fun label => ?_, exists_parse_eq_ok, fun error => ?_, fun label read => ?_⟩
  · rw [parse_eq_ok, parse?_eq_some]
  · rw [parse_eq_error, exists_parse_eq_ok]
  · obtain ⟨before, behind, written, key, value⟩ := parse?_eq_some.mp (parse_eq_ok.mp read)
    refine ⟨fun inside => written.first (key.subset inside), ?_, ?_, parse_written_again read⟩
    · rw [Ne, ← String.toList_eq_nil_iff, key.eq_nil_iff, not_blank_iff]
      exact written.key
    · rw [Ne, ← String.toList_eq_nil_iff, value.eq_nil_iff, not_blank_iff]
      exact written.value

/-- White space around both parts and colons in the value. -/
theorem label_grammar_of_address :
    parse "\t url : http://host:8080\u00A0" = .ok ⟨"url", "http://host:8080"⟩ ∧
      parse "url:http://host:8080" = .ok ⟨"url", "http://host:8080"⟩ := by
  have read : parse "\t url : http://host:8080\u00A0" = .ok ⟨"url", "http://host:8080"⟩ := by
    decide
  obtain ⟨-, -, -, again⟩ := label_grammar "\t url : http://host:8080\u00A0"
  exact ⟨read, (again _ read).2.2.2⟩

end SyscallMeter.Label
