import Mathlib.Tactic.SplitIfs
import SyscallMeter.Proofs.Web.Encoding

/-! Texts are ordered by their characters, and their bytes in UTF-8 have the same order: the bytes
of a greater character are greater where they first differ, and none begin with those of another. -/
namespace SyscallMeter.Web

theorem ofNat_lt_ofNat {m n : Nat} (small : m < 256) (small' : n < 256) :
    UInt8.ofNat m < UInt8.ofNat n ↔ m < n := by
  rw [UInt8.lt_iff_toNat_lt, UInt8.toNat_ofNat_of_lt' small, UInt8.toNat_ofNat_of_lt' small']

theorem ofNat_eq_ofNat {m n : Nat} (small : m < 256) (small' : n < 256) :
    UInt8.ofNat m = UInt8.ofNat n ↔ m = n := by
  rw [← UInt8.toNat_inj, UInt8.toNat_ofNat_of_lt' small, UInt8.toNat_ofNat_of_lt' small']

/-- The bytes of a greater character are greater, whatever stands behind. -/
theorem encodeChar_lt {c d : Char} (below : c < d) (s t : Octets) :
    String.utf8EncodeChar c ++ s < String.utf8EncodeChar d ++ t := by
  have less : c.val.toNat < d.val.toNat := below
  have limit : d.val.toNat < 0x110000 := by
    have := d.valid
    simp only [UInt32.isValidChar, Nat.isValidChar] at this
    omega
  unfold String.utf8EncodeChar
  dsimp only
  generalize c.val.toNat = m at less
  generalize d.val.toNat = n at less limit
  -- Each byte behind the first has six bits of the number.
  have two (k : Nat) : k / 4096 = k / 64 / 64 := by omega
  have three (k : Nat) : k / 262144 = k / 64 / 64 / 64 := by omega
  have byte {a b : Nat} {s t : Octets} (small : a < 256) (small' : b < 256) :
      UInt8.ofNat a :: s < UInt8.ofNat b :: t ↔ a < b ∨ a = b ∧ s < t := by
    rw [List.cons_lt_cons_iff, ofNat_lt_ofNat small small', ofNat_eq_ofNat small small']
  simp only [two, three]
  split_ifs <;> simp (disch := omega) only [List.cons_append, List.nil_append, byte] <;> omega

/-- The bytes of a text grow with its characters. -/
theorem encodeChars_lt {s t : List Char} (below : s < t) :
    s.flatMap String.utf8EncodeChar < t.flatMap String.utf8EncodeChar := by
  induction t generalizing s with
  | nil => exact absurd below (List.not_lt_nil s)
  | cons d t ih =>
    cases s with
    | nil =>
      cases written : String.utf8EncodeChar d with
      | nil => exact absurd written String.utf8EncodeChar_ne_nil
      | cons b bytes =>
        rw [List.flatMap_cons, written]
        exact List.nil_lt_cons b _
    | cons c s =>
      rw [List.flatMap_cons, List.flatMap_cons]
      obtain first | ⟨rfl, others⟩ := List.cons_lt_cons_iff.mp below
      · exact encodeChar_lt first _ _
      · exact List.append_left_lt (ih others)

/-- Texts are ordered as their bytes are. -/
theorem bytes_lt_iff {s t : String} : s.toUTF8.toList < t.toUTF8.toList ↔ s < t := by
  have grows {s t : String} (below : s < t) : s.toUTF8.toList < t.toUTF8.toList := by
    rw [toUTF8_toList, toUTF8_toList]
    exact encodeChars_lt (String.lt_iff.mp below)
  refine ⟨fun bytes => Decidable.byContradiction fun other => ?_, grows⟩
  by_cases above : t < s
  · exact List.lt_asymm bytes (grows above)
  · obtain rfl := String.le_antisymm (String.not_lt.mp above) (String.not_lt.mp other)
    exact List.lt_irrefl _ bytes

end SyscallMeter.Web
