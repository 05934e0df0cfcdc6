import SyscallMeter.Proofs.Blank
import SyscallMeter.Proofs.Run.Failures
import SyscallMeter.Proofs.Search

/-! The exit code of a run that is refused. It is told by phrases that are looked for in the
headline of the failure, and a headline cites texts that the user and the processes choose: names,
commands and paths. The phrases in a headline are those of its kind and those of the texts. -/
namespace SyscallMeter

/-- The phrases that exit codes are told by. -/
def phrases : List String := ["permission denied", "requires root", "missing required argument"]

/-- A text as the phrases are looked for in it. -/
def lowered (text : String) : List Char := text.toList.map Char.toLower

/-- Whether a phrase stands in a text. -/
def Mentions (text phrase : String) : Prop := phrase.toList <:+: lowered text

/-- The exit code that the phrases in some texts give. -/
def codeOfTexts (texts : List String) : Nat :=
  let mention := fun (phrase : String) =>
    texts.any fun text => Text.contains (lowered text) phrase.toList
  if mention "permission denied" || mention "requires root" then 77
  else if mention "missing required argument" then 2
  else 1

/-- The texts in a headline that others choose. The release of a kernel does not count, as it is a
word and every phrase has a space. -/
def Failure.citedTexts : Failure → List String
  | lookup (.nobody name) => [name]
  | lookup (.several name found) => name :: found.map Prod.snd
  | preflight (.noObject path) => [path]
  | _ => []

theorem exitCodeOfText_eq {text : String} {texts : List String}
    (same : ∀ phrase ∈ phrases, Mentions text phrase ↔ ∃ cited ∈ texts, Mentions cited phrase) :
    exitCodeOfText text = codeOfTexts texts := by
  have mention (phrase : String) (known : phrase ∈ phrases) :
      Text.contains (text.toList.map Char.toLower) phrase.toList
        = texts.any fun cited => Text.contains (lowered cited) phrase.toList := by
    have h := same phrase known
    simp only [Mentions, ← Text.contains_iff] at h
    rw [Bool.eq_iff_iff, List.any_eq_true]
    exact h
  simp only [exitCodeOfText, codeOfTexts, mention "permission denied" (by decide),
    mention "requires root" (by decide),
    mention "missing required argument" (by decide)]

theorem lowered_append (a b : String) : lowered (a ++ b) = lowered a ++ lowered b := by
  simp [lowered]

/-- A text that no phrase overlaps. -/
def Neutral (text : String) : Prop := ∀ phrase ∈ phrases, Text.Apart phrase.toList (lowered text)

instance (text : String) : Decidable (Neutral text) :=
  inferInstanceAs (Decidable (∀ phrase ∈ phrases, Text.Apart phrase.toList (lowered text)))

/-- The letters from A to Z move to those from a to z, and every other character stays. -/
theorem toLower_cases (c : Char) :
    (c.val ≥ 'A'.val ∧ c.val ≤ 'Z'.val) ∧ c.toLower.val = c.val + 32 ∨ c.toLower = c := by
  by_cases upper : c.val ≥ 'A'.val ∧ c.val ≤ 'Z'.val
  · exact .inl ⟨upper, congrArg Char.val (dif_pos upper)⟩
  · exact .inr (dif_neg upper)

theorem isDigit_of_mem_lowered {n : Nat} {c : Char} (h : c ∈ lowered (toString n)) :
    c.isDigit := by
  obtain ⟨d, hd, rfl⟩ := List.mem_map.mp h
  have digit : d.isDigit :=
    Nat.isDigit_of_mem_toDigits (b := 10) (by decide) (by decide) (Nat.toList_repr ▸ hd)
  obtain ⟨⟨letter, -⟩, -⟩ | same := toLower_cases d
  · grind [Char.isDigit]
  · rwa [same]

theorem neutral_toString (n : Nat) : Neutral (toString n) := by
  intro phrase known
  refine .of_foreign ?_ ?_ fun c hc inside => ?_
  · revert phrase
    decide
  · have filled : (toString n).toList ≠ [] := Nat.toList_repr ▸ Nat.toDigits_ne_nil
    exact fun empty => filled (List.map_eq_nil_iff.mp empty)
  · have letters : (phrases.all fun phrase => phrase.toList.all fun c => !c.isDigit) = true := by
      decide
    simp only [List.all_eq_true, Bool.not_eq_true'] at letters
    have digit := isDigit_of_mem_lowered hc
    exact Bool.false_ne_true ((letters phrase known c inside).symm.trans digit)

theorem toString_string (s : String) : toString s = s := rfl

/-- The general exit code means that no phrase stands in any of the texts. -/
theorem codeOfTexts_eq_one {texts : List String} :
    codeOfTexts texts = 1 ↔ ∀ text ∈ texts, ∀ phrase ∈ phrases, ¬ Mentions text phrase := by
  let mention := fun (phrase : String) =>
    texts.any fun text => Text.contains (lowered text) phrase.toList
  have told (phrase : String) :
      mention phrase = false ↔ ∀ text ∈ texts, ¬ Mentions text phrase := by
    simp only [mention, List.any_eq_false, Text.contains_iff, Mentions]
  have codes : codeOfTexts texts = 1 ↔ ∀ phrase ∈ phrases, mention phrase = false := by
    simp only [codeOfTexts, phrases, List.forall_mem_cons, List.not_mem_nil, false_imp_iff,
      implies_true, and_true]
    change (if mention "permission denied" || mention "requires root" then 77
      else if mention "missing required argument" then 2 else 1) = 1 ↔ _
    cases mention "permission denied" <;> cases mention "requires root" <;>
      cases mention "missing required argument" <;> decide
  rw [codes]
  exact ⟨fun none text cited phrase known => (told phrase).mp (none phrase known) text cited,
    fun none phrase known => (told phrase).mpr fun text cited => none text cited phrase known⟩

section Headlines

variable {phrase : String}

theorem not_mentions_nil (known : phrase ∈ phrases) : ¬ Mentions "" phrase := by
  have filled : ∀ phrase ∈ phrases, phrase.toList ≠ [] := by decide
  intro inside
  exact filled phrase known (List.eq_nil_of_infix_nil inside)

theorem Neutral.not_mentions {fragment : String} (h : Neutral fragment)
    (known : phrase ∈ phrases) : ¬ Mentions fragment phrase := (h phrase known).absent

theorem Neutral.mentions_append {fragment : String} (h : Neutral fragment)
    (known : phrase ∈ phrases) (rest : String) :
    Mentions (fragment ++ rest) phrase ↔ Mentions rest phrase := by
  rw [Mentions, lowered_append, (h phrase known).infix_left, Mentions]

theorem Neutral.mentions_between {fragment : String} (h : Neutral fragment)
    (known : phrase ∈ phrases) (text rest : String) :
    Mentions (text ++ (fragment ++ rest)) phrase ↔ Mentions text phrase ∨ Mentions rest phrase := by
  rw [Mentions, lowered_append, lowered_append, (h phrase known).infix_between, Mentions, Mentions]

theorem Neutral.mentions_before {fragment : String} (h : Neutral fragment)
    (known : phrase ∈ phrases) (text : String) :
    Mentions (text ++ fragment) phrase ↔ Mentions text phrase := by
  have ended := h.mentions_between known text ""
  rwa [String.append_empty, or_iff_left (not_mentions_nil known)] at ended

theorem mentions_nobody (known : phrase ∈ phrases) (name : String) :
    Mentions (LookupError.nobody name).message phrase ↔ Mentions name phrase := by
  have opening : Neutral "No process matching '" := by decide +kernel
  have advice : Neutral "' found.\nCheck running processes with: ps aux | grep " := by
    decide +kernel
  unfold LookupError.message
  simp only [toString_string, String.append_assoc, opening.mentions_append known,
    advice.mentions_between known, or_self]

theorem mentions_lines (known : phrase ∈ phrases) (lines : List String) :
    Mentions ("\n".intercalate lines) phrase ↔ ∃ line ∈ lines, Mentions line phrase := by
  have lineEnd : Neutral "\n" := by decide +kernel
  induction lines with
  | nil => simpa using not_mentions_nil known
  | cons line rest ih =>
    cases rest with
    | nil => simp
    | cons next rest =>
      simp only [String.intercalate_cons_cons, String.append_assoc,
        lineEnd.mentions_between known, ih, List.exists_mem_cons_iff]

theorem mentions_several (known : phrase ∈ phrases) (name : String)
    (found : List (UInt32 × String)) :
    Mentions (LookupError.several name found).message phrase ↔
      Mentions name phrase ∨ ∃ f ∈ found, Mentions f.2 phrase := by
  have opening : Neutral "Multiple processes match '" := by decide +kernel
  have listed : Neutral "':\n" := by decide +kernel
  have advice : Neutral "\n\nSpecify PID explicitly: iotap --pid <PID>" := by decide +kernel
  have indent : Neutral "  " := by decide +kernel
  have before : Neutral " (" := by decide +kernel
  have behind : Neutral ")" := by decide +kernel
  have line (f : UInt32 × String) :
      Mentions ("  " ++ (toString f.1.toNat ++ (" (" ++ (f.2 ++ ")")))) phrase
        ↔ Mentions f.2 phrase := by
    rw [indent.mentions_append known, (neutral_toString _).mentions_append known,
      before.mentions_append known, behind.mentions_before known]
  unfold LookupError.message
  simp only [toString_string, String.append_assoc, opening.mentions_append known,
    listed.mentions_between known, advice.mentions_before known, mentions_lines known,
    List.mem_map, exists_exists_and_eq_and, line]

theorem mentions_noObject (known : phrase ∈ phrases) (path : String) :
    Mentions (PreflightError.noObject path).headline phrase ↔ Mentions path phrase := by
  have opening : Neutral "Probe object not found: " := by decide +kernel
  have advice : Neutral "\n\nBuild it with: cargo xtask build-ebpf\n" := by decide +kernel
  have choice : Neutral "or point --object at a compiled iotap-ebpf binary." := by decide +kernel
  unfold PreflightError.headline
  simp only [toString_string, String.append_assoc, opening.mentions_append known,
    advice.mentions_between known, choice.not_mentions known, or_false]

theorem not_mentions_noProcess (known : phrase ∈ phrases) (pid : UInt32) :
    ¬ Mentions (PreflightError.noProcess pid).headline phrase := by
  have opening : Neutral "Process " := by decide +kernel
  have advice : Neutral " not found.\n\n" := by decide +kernel
  have question : Neutral "Is the process still running? Check with: ps -p " := by decide +kernel
  unfold PreflightError.headline
  simp only [toString_string, String.append_assoc, opening.mentions_append known,
    advice.mentions_append known, question.mentions_append known,
    (neutral_toString _).mentions_append known, (neutral_toString _).not_mentions known,
    not_false_iff]

theorem eq_space_of_toLower {c : Char} (h : c.toLower = ' ') : c = ' ' := by
  obtain ⟨upper, moved⟩ | same := toLower_cases c
  · have sum : c.val + 32 = 32 := moved.symm.trans (congrArg Char.val h)
    have zero : c.val = 0 := by simpa using sum
    exact absurd (zero ▸ upper.1) (by decide)
  · exact same.symm.trans h

/-- Every phrase has a space, which no word has. -/
theorem not_mentions_word (known : phrase ∈ phrases) {word : List Char}
    (h : ∀ c ∈ word, Text.isBlank c = false) : ¬ Mentions (String.ofList word) phrase := by
  have spaced : ∀ phrase ∈ phrases, ' ' ∈ phrase.toList := by decide
  intro inside
  obtain ⟨c, hc, lower⟩ := List.mem_map.mp (inside.mem (spaced phrase known))
  rw [String.toList_ofList] at hc
  have blank := eq_space_of_toLower lower ▸ h c hc
  exact absurd blank (by decide)

theorem not_mentions_kernelTooOld (known : phrase ∈ phrases) (major minor : Nat)
    {release : List Char} (word : ∀ c ∈ release, Text.isBlank c = false) :
    ¬ Mentions (PreflightError.kernelTooOld major minor (String.ofList release)).headline
      phrase := by
  have opening : Neutral "Kernel version " := by decide +kernel
  have dot : Neutral "." := by decide +kernel
  have judged : Neutral " is too old.\n\n" := by decide +kernel
  have required : Neutral "iotap requires Linux " := by decide +kernel
  have newer : Neutral " or newer for eBPF ring buffer " := by decide +kernel
  have current : Neutral "support.\nCurrent kernel: " := by decide +kernel
  unfold PreflightError.headline
  simp only [toString_string, String.append_assoc, opening.mentions_append known,
    dot.mentions_append known, judged.mentions_append known, required.mentions_append known,
    newer.mentions_append known, current.mentions_append known,
    (neutral_toString _).mentions_append known, not_mentions_word known word, not_false_iff]

end Headlines

theorem exitCode_eq_of_headline {f : Failure} (other : ∀ e, f ≠ .settings e)
    (same : ∀ phrase ∈ phrases,
      Mentions f.headline phrase ↔ ∃ cited ∈ f.citedTexts, Mentions cited phrase) :
    f.exitCode = codeOfTexts f.citedTexts := by
  rw [← exitCodeOfText_eq same]
  cases f with
  | settings e => exact absurd rfl (other e)
  | _ => rfl

/-- The documented exit code of a refused run, unless that is the general one: then the phrases in
the cited texts decide. -/
theorem Refusal.exitCode {o : Options} {m : Machine} {f : Failure} {code : Nat}
    (refused : Refusal o m f) (documented : f.documentedCode? = some code) :
    f.exitCode = if code = 1 then codeOfTexts f.citedTexts else code := by
  cases refused with
  | noTarget => cases documented; decide +kernel
  | wrongNumber => cases documented; rfl
  | @nobody name =>
    cases documented
    refine exitCode_eq_of_headline (by simp) fun phrase known => ?_
    exact (mentions_nobody known name).trans (by simp [Failure.citedTexts])
  | several =>
    cases documented
    refine exitCode_eq_of_headline (by simp) fun phrase known => ?_
    exact (mentions_several known _ _).trans (by simp only [Failure.citedTexts, List.mem_cons,
      exists_eq_or_imp, List.mem_map, exists_exists_and_eq_and])
  | notPrivileged => cases documented; decide +kernel
  | @tooOld pid kernel release version target user told third =>
    cases documented
    have word := Text.not_isBlank_of_mem_words (List.mem_of_getElem? third)
    refine exitCode_eq_of_headline (by simp) fun phrase known => ?_
    exact (iff_false_intro (not_mentions_kernelTooOld known _ _ word)).trans
      (by simp [Failure.citedTexts])
  | noObject =>
    cases documented
    refine exitCode_eq_of_headline (by simp) fun phrase known => ?_
    exact (mentions_noObject known o.object).trans (by simp [Failure.citedTexts])
  | @noProcess pid =>
    cases documented
    refine exitCode_eq_of_headline (by simp) fun phrase known => ?_
    exact (iff_false_intro (not_mentions_noProcess known pid)).trans
      (by simp [Failure.citedTexts])
  | wrongSettings => cases documented; rfl

/-- A run ends in a failure with a documented exit code exactly if it is refused. Its exit code is
the documented one unless a text that the headline cites holds one of the phrases. -/
theorem exit_code_of_refusal (o : Options) (course : Course) (w : World) {f : Failure} {code : Nat}
    (documented : f.documentedCode? = some code) :
    ((Run.result (Run.measure o course) w).1 = .error f ↔ Refusal o w.machine f) ∧
    (Refusal o w.machine f →
      (Run.result (Run.measure o course) w).2 = w ∧
      f.exitCode = (if code = 1 then codeOfTexts f.citedTexts else code) ∧
      (f.exitCode = code ↔
        code = 1 → ∀ cited ∈ f.citedTexts, ∀ phrase ∈ phrases, ¬ Mentions cited phrase)) := by
  refine ⟨Run.result_eq_error_iff o course w documented, fun refused => ⟨?_, ?_, ?_⟩⟩
  · rw [Run.result_of_plan_error course refused.plan]
  · exact refused.exitCode documented
  · rw [refused.exitCode documented, ← codeOfTexts_eq_one]
    by_cases general : code = 1 <;> simp [general]

/-- A world without processes, in which nobody answers. -/
def emptyWorld : World where
  machine := ⟨some [], some "Linux version 6.1.0", 0, 1, 4096, ⟨[], []⟩⟩
  kernel := Kernel.Host.fresh .none (.empty 4096 1 Operation.number ProbeStat.number)
  gateway := fun _ => .unreachable
  effects := []
  looks := 0

/-- In an empty world nobody is found, and the run has the general exit code. -/
theorem exit_code_of_unknown_name :
    (Run.result (Run.measure { Options.default with process := some "my-app" } []) emptyWorld).1
      = .error (.lookup (.nobody "my-app")) ∧
    (Failure.lookup (.nobody "my-app")).exitCode = 1 := by
  obtain ⟨fails, code⟩ := exit_code_of_refusal
    { Options.default with process := some "my-app" } [] emptyWorld
    (f := .lookup (.nobody "my-app")) rfl
  have refused := Refusal.nobody (m := emptyWorld.machine)
    (o := { Options.default with process := some "my-app" }) rfl rfl rfl rfl
  refine ⟨fails.mpr refused, ?_⟩
  rw [(code refused).2.1]
  decide +kernel

/-- A name can pass for missing rights. -/
theorem exit_code_of_name_with_phrase :
    (Run.result (Run.measure { Options.default with process := some "requires root" } [])
      emptyWorld).1 = .error (.lookup (.nobody "requires root")) ∧
    (Failure.lookup (.nobody "requires root")).documentedCode? = some 1 ∧
    (Failure.lookup (.nobody "requires root")).exitCode = 77 := by
  refine ⟨?_, rfl, by decide +kernel⟩
  rw [Run.result_of_plan_error [] (Refusal.nobody rfl rfl rfl rfl).plan]

end SyscallMeter
