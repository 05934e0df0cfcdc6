import SyscallMeter.Proofs.Grouping
import SyscallMeter.Proofs.Web.ByteOrder

/-! The keys that metrics cannot be grouped by. The one that is reported is the least of them in the
order of their bytes, in which the labels are kept. -/
namespace SyscallMeter.Gateway

open Web

def IsLetter (c : Char) : Prop := 'A' ≤ c ∧ c ≤ 'Z' ∨ 'a' ≤ c ∧ c ≤ 'z' ∨ c = '_'

def IsDigit (c : Char) : Prop := '0' ≤ c ∧ c ≤ '9'

/-- A letter or an underscore, and behind it letters, underscores and digits. -/
def IsName (key : String) : Prop :=
  ∃ first rest, key.toList = first :: rest ∧ IsLetter first ∧ ∀ c ∈ rest, IsLetter c ∨ IsDigit c

/-- A key that metrics cannot be grouped by. -/
def IsRefused (key : String) : Prop :=
  key = "job" ∨ key = "kind" ∨ "__".toList <+: key.toList ∨ ¬ IsName key

theorem isLetter_iff {c : Char} : (c.isAlpha || c == '_') = true ↔ IsLetter c := by
  have ranges : (c.isAlpha || c == '_') = (decide (c.val ≥ 'A'.val ∧ c.val ≤ 'Z'.val) ||
      (c.val ≥ 'a'.val && c.val ≤ 'z'.val) || c == '_') := rfl
  simp [ranges, IsLetter, Char.le_def, or_assoc]

theorem isNameChar_iff {c : Char} : isNameChar c = true ↔ IsLetter c ∨ IsDigit c := by
  simp [isNameChar, ← isLetter_iff, IsDigit, Char.isAlphanum, Char.isDigit, Char.le_def,
    or_right_comm]

theorem isLabelName_iff {key : String} :
    isLabelName key.toList = true ↔ IsName key ∧ ¬ "__".toList <+: key.toList := by
  unfold IsName
  cases key.toList with
  | nil => simp [isLabelName]
  | cons first rest =>
    have others : (rest.all fun c => c.isAlphanum || c == '_') = true ↔
        ∀ c ∈ rest, IsLetter c ∨ IsDigit c := by
      rw [List.all_eq_true]
      exact forall₂_congr fun _ _ => isNameChar_iff
    have spelled : (∃ c s, first :: rest = c :: s ∧ IsLetter c ∧ ∀ d ∈ s, IsLetter d ∨ IsDigit d) ↔
        IsLetter first ∧ ∀ c ∈ rest, IsLetter c ∨ IsDigit c := by
      simp [and_assoc]
    simp only [isLabelName, Bool.and_eq_true, isLetter_iff, others, spelled, Bool.not_eq_true',
      ← Bool.not_eq_true, List.isPrefixOf_iff_prefix]

theorem isRefused_iff {key : String} :
    (! isLabelName key.toList || isReserved key) = true ↔ IsRefused key := by
  rw [Bool.or_eq_true, Bool.not_eq_true', ← Bool.not_eq_true, isLabelName_iff]
  simp only [isReserved, Bool.or_eq_true, beq_iff_eq, IsRefused]
  grind

/-- What is found first in a sorted map is the least. -/
theorem find?_keys_iff {α : Type} {labels : KeyMap α} {p : String → Bool} {key : String} :
    labels.keys.find? p = some key ↔
      key ∈ labels.keys ∧ p key = true ∧ ∀ other ∈ labels.keys, p other = true → ¬ other < key := by
  have sorted : labels.keys.Pairwise (· < ·) := labels.sorted.map _ fun _ _ less => less
  generalize labels.keys = keys at sorted
  induction keys with
  | nil => simp
  | cons first rest ih =>
    obtain ⟨least, sorted⟩ := List.pairwise_cons.mp sorted
    cases found : p first with
    | true =>
      rw [List.find?_cons_of_pos found, Option.some.injEq]
      constructor
      · rintro rfl
        have itself : p first = true → ¬ first < first := fun _ => String.lt_irrefl _
        refine ⟨List.mem_cons_self, found, List.forall_mem_cons.mpr ⟨itself, ?_⟩⟩
        exact fun other inside _ => String.lt_asymm (least other inside)
      · rintro ⟨inside, -, below⟩
        obtain rfl | later := List.mem_cons.mp inside
        · rfl
        · exact absurd (least key later) (below first List.mem_cons_self found)
    | false =>
      rw [List.find?_cons_of_neg (by simp [found])]
      refine (ih sorted).trans ?_
      grind

theorem invalidLabel_iff {gateway : String} {labels : KeyMap String} {key : String} :
    groupAddress gateway labels = .error (.invalidLabel key) ↔
      (∃ root, Address.parse gateway = .ok root) ∧ key ∈ labels.keys ∧ IsRefused key ∧
        ∀ other ∈ labels.keys, IsRefused other → key.toUTF8.toList ≤ other.toUTF8.toList := by
  have least : (labels.keys.find? fun key => ! isLabelName key.toList || isReserved key) =
      some key ↔ key ∈ labels.keys ∧ IsRefused key ∧
        ∀ other ∈ labels.keys, IsRefused other → key.toUTF8.toList ≤ other.toUTF8.toList := by
    simp only [find?_keys_iff, isRefused_iff, ← List.not_lt, bytes_lt_iff]
  rw [← least, groupAddress]
  cases Address.parse gateway with
  | error reason => simp
  | ok root =>
    cases labels.keys.find? fun key => ! isLabelName key.toList || isReserved key <;> simp

/-- A group is accepted if no key is refused. Its address is that of the gateway with the segments
added. -/
theorem groupAddress_ok_iff {gateway : String} {labels : KeyMap String} {a : Address} :
    groupAddress gateway labels = .ok a ↔
      ∃ root, Address.parse gateway = .ok root ∧ (∀ key ∈ labels.keys, ¬ IsRefused key) ∧
        a = (groupSegments labels).foldl Address.push root.popIfEmpty := by
  have free : (labels.keys.find? fun key => ! isLabelName key.toList || isReserved key) = none ↔
      ∀ key ∈ labels.keys, ¬ IsRefused key := by
    simp only [List.find?_eq_none, isRefused_iff]
  rw [← free, groupAddress]
  cases Address.parse gateway with
  | error reason => simp
  | ok root =>
    cases labels.keys.find? fun key => ! isLabelName key.toList || isReserved key <;>
      simp [eq_comm]

theorem exists_groupAddress_iff {gateway : String} {labels : KeyMap String} :
    (∃ a, groupAddress gateway labels = .ok a) ↔
      (∃ root, Address.parse gateway = .ok root) ∧ ∀ key ∈ labels.keys, ¬ IsRefused key := by
  constructor
  · rintro ⟨a, accepted⟩
    obtain ⟨root, parsed, free, -⟩ := groupAddress_ok_iff.mp accepted
    exact ⟨⟨root, parsed⟩, free⟩
  · rintro ⟨⟨root, parsed⟩, free⟩
    exact ⟨_, groupAddress_ok_iff.mpr ⟨root, parsed, free, rfl⟩⟩

end SyscallMeter.Gateway
