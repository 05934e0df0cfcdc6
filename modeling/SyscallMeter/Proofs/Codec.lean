import SyscallMeter.Proofs.Payload
import SyscallMeter.Proofs.Tally

/-! Records of events over all byte strings: what is read as which event, and what is refused for
which reason. A record is read just if it begins with what the event writes; of the two reasons to
refuse one, its size comes before its tag. -/
namespace SyscallMeter

namespace Operation

theorem ofTag?_eq_some {tag : UInt16} {op : Operation} : ofTag? tag = some op ↔ op.tag = tag := by
  constructor
  · intro found
    unfold ofTag? at found
    have same := List.find?_some found
    exact beq_iff_eq.mp same
  · rintro rfl
    exact ofTag?_tag op

theorem ofTag?_eq_none {tag : UInt16} : ofTag? tag = none ↔ ∀ op : Operation, op.tag ≠ tag := by
  constructor
  · rintro unknown op rfl
    rw [ofTag?_tag] at unknown
    cases unknown
  · intro unknown
    exact List.find?_eq_none.mpr fun op _ same => unknown op (beq_iff_eq.mp same)

end Operation

namespace Octets

/-- Bytes that fill the width come back as they are. -/
theorem ofNat_toNat_of_length {width : Nat} {bytes : Octets} (filled : bytes.length = width) :
    ofNat width (toNat bytes) = bytes := by
  rw [ofNat_toNat width bytes (Nat.le_of_eq filled), filled, Nat.sub_self, List.replicate_zero,
    List.append_nil]

/-- Two bytes write the lower one first. -/
theorem toNat_take_two (bytes : Octets) :
    toNat (bytes.take 2) = (bytes.getD 0 0).toNat + 256 * (bytes.getD 1 0).toNat := by
  have second : (bytes.drop 1).getD 0 0 = bytes.getD 1 0 := by
    rw [List.getD_eq_getElem?_getD, List.getD_eq_getElem?_getD, List.getElem?_drop]
  rw [toNat_take_succ, toNat_take_succ, List.take_zero, toNat, Nat.mul_zero, Nat.add_zero, second]

end Octets

namespace Event

/-- The tag that a record begins with. -/
def tagOf (bytes : Octets) : UInt16 := UInt16.ofNat (Octets.toNat (bytes.take 2))

/-- The length behind the tag. -/
def lengthOf (bytes : Octets) : UInt32 := UInt32.ofNat (Octets.toNat ((bytes.drop 2).take 4))

theorem toNat_tagOf (bytes : Octets) : (tagOf bytes).toNat = Octets.toNat (bytes.take 2) :=
  UInt16.toNat_ofNat_of_lt' (Octets.toNat_lt 2 _ (List.length_take_le 2 bytes))

theorem toNat_lengthOf (bytes : Octets) :
    (lengthOf bytes).toNat = Octets.toNat ((bytes.drop 2).take 4) :=
  UInt32.toNat_ofNat_of_lt' (Octets.toNat_lt 4 _ (List.length_take_le 4 _))

theorem tagOf_eq_iff (bytes : Octets) (tag : UInt16) :
    tagOf bytes = tag ↔ tag.toNat = (bytes.getD 0 0).toNat + 256 * (bytes.getD 1 0).toNat := by
  rw [← Octets.toNat_take_two, ← toNat_tagOf, UInt16.toNat_inj]
  exact eq_comm

theorem decode_of_short {bytes : Octets} (short : bytes.length < 6) :
    decode bytes = .error (.truncated bytes.length) := if_pos short

theorem decode_of_long {bytes : Octets} (long : 6 ≤ bytes.length) :
    decode bytes = match Operation.ofTag? (tagOf bytes) with
      | none => .error (.unknownTag (tagOf bytes))
      | some op => .ok ⟨op, lengthOf bytes⟩ := if_neg (Nat.not_lt.mpr long)

/-- A record of an event is its tag and its length, read from the first bytes. -/
theorem encode_eq_take {bytes : Octets} (long : 6 ≤ bytes.length) {op : Operation}
    (own : op.tag = tagOf bytes) : encode ⟨op, lengthOf bytes⟩ = bytes.take 6 := by
  have tag : (bytes.take 2).length = 2 := List.length_take_of_le (by omega)
  have length : ((bytes.drop 2).take 4).length = 4 :=
    List.length_take_of_le (by rw [List.length_drop]; omega)
  rw [encode, own, toNat_tagOf, toNat_lengthOf, Octets.ofNat_toNat_of_length tag,
    Octets.ofNat_toNat_of_length length, ← List.take_add]

theorem decode_eq_ok {bytes : Octets} {e : Event} :
    decode bytes = .ok e ↔ 6 ≤ bytes.length ∧ bytes.take 6 = e.encode := by
  constructor
  · intro decoded
    obtain short | long := Nat.lt_or_ge bytes.length 6
    · rw [decode_of_short short] at decoded
      cases decoded
    · rw [decode_of_long long] at decoded
      cases found : Operation.ofTag? (tagOf bytes) with
      | none =>
        rw [found] at decoded
        cases decoded
      | some op =>
        rw [found] at decoded
        obtain rfl := Except.ok.inj decoded
        exact ⟨long, (encode_eq_take long (Operation.ofTag?_eq_some.mp found)).symm⟩
  · rintro ⟨-, front⟩
    rw [← List.take_append_drop 6 bytes, front]
    exact decode_encode_append e _

/-- What decoding makes of any bytes. It gives an event just if the bytes begin with the record of
that event; bytes that are too few are refused for that, and all others just if their tag, the lower
byte first, belongs to no operation. -/
theorem decode_exact (bytes : Octets) :
    (∀ e, decode bytes = .ok e ↔ 6 ≤ bytes.length ∧ bytes.take 6 = e.encode) ∧
      (∀ size, decode bytes = .error (.truncated size) ↔
        bytes.length < 6 ∧ size = bytes.length) ∧
      ∀ tag, decode bytes = .error (.unknownTag tag) ↔ 6 ≤ bytes.length ∧
        tag.toNat = (bytes.getD 0 0).toNat + 256 * (bytes.getD 1 0).toNat ∧
          ∀ op : Operation, op.tag ≠ tag := by
  refine ⟨fun e => decode_eq_ok, fun size => ?_, fun tag => ?_⟩
  · obtain short | long := Nat.lt_or_ge bytes.length 6
    · rw [decode_of_short short, Except.error.injEq, DecodeError.truncated.injEq, eq_comm]
      exact (and_iff_right short).symm
    · rw [decode_of_long long]
      cases Operation.ofTag? (tagOf bytes) <;> simp [Nat.not_lt.mpr long]
  · rw [← tagOf_eq_iff]
    obtain short | long := Nat.lt_or_ge bytes.length 6
    · rw [decode_of_short short]
      simp [Nat.not_le.mpr short]
    · rw [decode_of_long long, and_iff_right long]
      cases found : Operation.ofTag? (tagOf bytes) with
      | none =>
        have unknown := Operation.ofTag?_eq_none.mp found
        rw [Except.error.injEq, DecodeError.unknownTag.injEq]
        constructor
        · rintro rfl
          exact ⟨rfl, unknown⟩
        · exact And.left
      | some op =>
        have own := Operation.ofTag?_eq_some.mp found
        constructor
        · intro refused
          cases refused
        · rintro ⟨rfl, unknown⟩
          exact absurd own (unknown op)

end Event

end SyscallMeter
