import SyscallMeter.Web.Base64
import SyscallMeter.Web.Percent

/-! Both encodings of texts in addresses can be undone. Percent-encoding gives back the bytes of the
text, and these tell the text; base 64 gives back any bytes. -/
namespace SyscallMeter.Web

/-- Texts with the same bytes are the same. -/
theorem utf8_injective {s t : List Char}
    (same : s.flatMap String.utf8EncodeChar = t.flatMap String.utf8EncodeChar) : s = t := by
  apply String.ofList_injective
  apply String.toByteArray_inj.mp
  exact List.toByteArray_inj.mpr same

theorem toList_loop (bytes : ByteArray) (i : Nat) (before : Octets) :
    ByteArray.toList.loop bytes i before = before.reverse ++ bytes.data.toList.drop i := by
  fun_induction ByteArray.toList.loop bytes i before with
  | case1 i before inside ih =>
    have inside : i < bytes.data.size := inside
    have first : bytes.data[i]! = bytes.data[i] := getElem!_pos bytes.data i inside
    have inside : i < bytes.data.toList.length := inside
    rw [ih, List.drop_eq_getElem_cons inside]
    simp [ByteArray.get!, first]
  | case2 i before outside =>
    have outside : bytes.data.toList.length ≤ i := Nat.le_of_not_lt outside
    rw [List.drop_eq_nil_of_le outside, List.append_nil]

/-- The bytes of a text are those of its characters. -/
theorem toUTF8_toList (s : String) :
    s.toUTF8.toList = s.toList.flatMap String.utf8EncodeChar := by
  have bytes : s.toUTF8.toList = s.toByteArray.data.toList := by
    rw [ByteArray.toList, toList_loop]
    rfl
  have written : s.toByteArray = s.toList.utf8Encode := by
    conv => lhs; rw [← String.ofList_toList (s := s)]
    rfl
  rw [bytes, written, List.utf8Encode, List.toList_data_toByteArray]

theorem decodeUtf8?_toUTF8 (s : String) : decodeUtf8? s.toUTF8.toList = some s.toList := by
  have bytes : (⟨s.toUTF8.toList.toArray⟩ : ByteArray) = s.toByteArray := by
    rw [ByteArray.toList, toList_loop]
    simp
  rw [decodeUtf8?, bytes, String.fromUTF8?, dif_pos s.isValidUTF8]
  rfl

/-! ### Percent-encoding -/

theorem hexValue?_upperHexDigit {n : Nat} (small : n < 16) :
    Text.hexValue? (upperHexDigit n) = some n := by
  have digits : ∀ n : Fin 16, Text.hexValue? (upperHexDigit n) = some n.val := by decide
  exact digits ⟨n, small⟩

/-- An escaped byte is read back, whatever stands behind it. -/
theorem percentDecode_escapeByte (b : UInt8) (rest : List Char) :
    percentDecode (escapeByte b ++ rest) = b :: percentDecode rest := by
  have bound := b.toNat_lt
  have high : Text.hexValue? (upperHexDigit (b.toNat / 16)) = some (b.toNat / 16) :=
    hexValue?_upperHexDigit (by omega)
  have low : Text.hexValue? (upperHexDigit (b.toNat % 16)) = some (b.toNat % 16) :=
    hexValue?_upperHexDigit (Nat.mod_lt _ (by decide))
  simp only [escapeByte, List.cons_append, List.nil_append, percentDecode, high, low]
  rw [Nat.div_add_mod, UInt8.ofNat_toNat]

theorem percentDecode_escapeBytes (bytes : Octets) (rest : List Char) :
    percentDecode (bytes.flatMap escapeByte ++ rest) = bytes ++ percentDecode rest := by
  induction bytes with
  | nil => rfl
  | cons b bytes ih =>
    rw [List.flatMap_cons, List.append_assoc, percentDecode_escapeByte, ih, List.cons_append]

theorem percentDecode_cons {c : Char} (h : c ≠ '%') (rest : List Char) :
    percentDecode (c :: rest) = String.utf8EncodeChar c ++ percentDecode rest := by
  rw [percentDecode]
  exact fun _ _ _ percent => absurd percent h

/-- Decoding gives back the bytes of a text, if percent signs are escaped too. -/
theorem percentDecode_percentEncode {escaped : Char → Bool} (percent : escaped '%' = true)
    (s : List Char) :
    percentDecode (percentEncode escaped s) = s.flatMap String.utf8EncodeChar := by
  induction s with
  | nil => rfl
  | cons c rest ih =>
    have split : percentEncode escaped (c :: rest) =
        (if c.toNat ≥ 0x80 ∨ escaped c then (String.utf8EncodeChar c).flatMap escapeByte else [c]) ++
          percentEncode escaped rest := rfl
    rw [split, List.flatMap_cons, ← ih]
    split
    · exact percentDecode_escapeBytes _ _
    · rename_i kept
      have ne : c ≠ '%' := by
        rintro rfl
        exact kept (.inr percent)
      exact percentDecode_cons ne _

theorem percentDecode_segment (s : List Char) :
    percentDecode (percentEncode escapedInSegment s) = s.flatMap String.utf8EncodeChar :=
  percentDecode_percentEncode (by decide) s

theorem segment_injective {s t : List Char}
    (same : percentEncode escapedInSegment s = percentEncode escapedInSegment t) : s = t := by
  apply utf8_injective
  rw [← percentDecode_segment, ← percentDecode_segment, same]

theorem percentEncode_append (escaped : Char → Bool) (s t : List Char) :
    percentEncode escaped (s ++ t) = percentEncode escaped s ++ percentEncode escaped t :=
  List.flatMap_append

/-- A text without anything to escape is written as it is. -/
theorem percentEncode_eq_self {escaped : Char → Bool} {s : List Char}
    (clear : ∀ c ∈ s, c.toNat < 0x80 ∧ escaped c = false) : percentEncode escaped s = s := by
  induction s with
  | nil => rfl
  | cons c rest ih =>
    obtain ⟨ascii, free⟩ := clear c List.mem_cons_self
    have others := ih fun d inside => clear d (List.mem_cons_of_mem c inside)
    unfold percentEncode at others ⊢
    rw [List.flatMap_cons, others, if_neg (by simp [free, Nat.not_le.mpr ascii]),
      List.singleton_append]

/-- What stands in an encoded text is left of the text, or part of an escape. -/
theorem mem_percentEncode {escaped : Char → Bool} {s : List Char} {c : Char}
    (inside : c ∈ percentEncode escaped s) :
    escaped c = false ∨ c = '%' ∨ ∃ n < 16, c = upperHexDigit n := by
  obtain ⟨d, -, written⟩ := List.mem_flatMap.mp inside
  split at written
  · obtain ⟨b, -, part⟩ := List.mem_flatMap.mp written
    have bound := b.toNat_lt
    simp only [escapeByte, List.mem_cons, List.not_mem_nil, or_false] at part
    obtain rfl | rfl | rfl := part
    · exact .inr (.inl rfl)
    · exact .inr (.inr ⟨_, by omega, rfl⟩)
    · exact .inr (.inr ⟨_, Nat.mod_lt _ (by decide), rfl⟩)
  · rename_i kept
    obtain rfl := List.mem_singleton.mp written
    exact .inl (Bool.eq_false_iff.mpr fun e => kept (.inr e))

theorem slash_not_mem_segment (s : List Char) : '/' ∉ percentEncode escapedInSegment s := by
  intro inside
  have digits : ∀ n : Fin 16, '/' ≠ upperHexDigit n := by decide
  obtain free | percent | ⟨n, small, digit⟩ := mem_percentEncode inside
  · exact absurd free (by decide)
  · exact absurd percent (by decide)
  · exact digits ⟨n, small⟩ digit

/-! ### Base 64 -/

/-- The number of a digit. -/
def base64Value? (c : Char) : Option Nat :=
  if 'A' ≤ c ∧ c ≤ 'Z' then some (c.toNat - 65)
  else if 'a' ≤ c ∧ c ≤ 'z' then some (c.toNat - 71)
  else if '0' ≤ c ∧ c ≤ '9' then some (c.toNat + 4)
  else if c = '-' then some 62
  else if c = '_' then some 63
  else none

/-- The bytes that a text in base 64 stands for, if it is one. -/
def base64Bytes? : List Char → Option Octets
  | [] => some []
  | a :: b :: c :: d :: rest =>
    match base64Value? a, base64Value? b, base64Value? c, base64Value? d with
    | some x, some y, some z, some w =>
      (base64Bytes? rest).map fun bytes =>
        UInt8.ofNat (4 * x + y / 16) :: UInt8.ofNat (y % 16 * 16 + z / 4) ::
          UInt8.ofNat (z % 4 * 64 + w) :: bytes
    | some x, some y, some z, none =>
      if d :: rest = ['='] then
        some [UInt8.ofNat (4 * x + y / 16), UInt8.ofNat (y % 16 * 16 + z / 4)]
      else none
    | some x, some y, none, none =>
      if c :: d :: rest = ['=', '='] then some [UInt8.ofNat (4 * x + y / 16)] else none
    | _, _, _, _ => none
  | _ => none

theorem base64Value?_base64Digit {n : Nat} (small : n < 64) :
    base64Value? (base64Digit n) = some n := by
  have digits : ∀ n : Fin 64, base64Value? (base64Digit n) = some n.val := by decide
  exact digits ⟨n, small⟩

theorem base64Value?_filling : base64Value? '=' = none := by decide

/-- Any bytes are read back from base 64. -/
theorem base64Bytes?_base64 (bytes : Octets) : base64Bytes? (base64 bytes) = some bytes := by
  have byte {n : Nat} {a : UInt8} (same : n = a.toNat) : UInt8.ofNat n = a := by
    rw [same, UInt8.ofNat_toNat]
  fun_induction base64 bytes with
  | case1 => rfl
  | case2 a =>
    have := a.toNat_lt
    have first : a.toNat / 4 < 64 := by omega
    have second : a.toNat % 4 * 16 < 64 := by omega
    simp only [base64Bytes?, base64Value?_base64Digit first, base64Value?_base64Digit second,
      base64Value?_filling, if_true]
    rw [byte (a := a) (by omega)]
  | case3 a b =>
    have := a.toNat_lt
    have := b.toNat_lt
    have first : a.toNat / 4 < 64 := by omega
    have second : a.toNat % 4 * 16 + b.toNat / 16 < 64 := by omega
    have third : b.toNat % 16 * 4 < 64 := by omega
    simp only [base64Bytes?, base64Value?_base64Digit first, base64Value?_base64Digit second,
      base64Value?_base64Digit third, base64Value?_filling, if_true]
    rw [byte (a := a) (by omega), byte (a := b) (by omega)]
  | case4 a b c rest ih =>
    have := a.toNat_lt
    have := b.toNat_lt
    have := c.toNat_lt
    have first : a.toNat / 4 < 64 := by omega
    have second : a.toNat % 4 * 16 + b.toNat / 16 < 64 := by omega
    have third : b.toNat % 16 * 4 + c.toNat / 64 < 64 := by omega
    have fourth : c.toNat % 64 < 64 := by omega
    simp only [base64Bytes?, base64Value?_base64Digit first, base64Value?_base64Digit second,
      base64Value?_base64Digit third, base64Value?_base64Digit fourth, ih, Option.map_some]
    rw [byte (a := a) (by omega), byte (a := b) (by omega), byte (a := c) (by omega)]

/-- What stands in base 64 is a digit or fills up. -/
theorem mem_base64 {bytes : Octets} {c : Char} (inside : c ∈ base64 bytes) :
    c = '=' ∨ ∃ n < 64, c = base64Digit n := by
  fun_induction base64 bytes with
  | case1 => cases inside
  | case2 a =>
    have := a.toNat_lt
    simp only [List.mem_cons, List.not_mem_nil, or_false] at inside
    obtain rfl | rfl | rfl | rfl := inside
    · exact .inr ⟨_, by omega, rfl⟩
    · exact .inr ⟨_, by omega, rfl⟩
    · exact .inl rfl
    · exact .inl rfl
  | case3 a b =>
    have := a.toNat_lt
    have := b.toNat_lt
    simp only [List.mem_cons, List.not_mem_nil, or_false] at inside
    obtain rfl | rfl | rfl | rfl := inside
    · exact .inr ⟨_, by omega, rfl⟩
    · exact .inr ⟨_, by omega, rfl⟩
    · exact .inr ⟨_, by omega, rfl⟩
    · exact .inl rfl
  | case4 a b c rest ih =>
    have := a.toNat_lt
    have := b.toNat_lt
    have := c.toNat_lt
    simp only [List.mem_cons] at inside
    obtain rfl | rfl | rfl | rfl | later := inside
    · exact .inr ⟨_, by omega, rfl⟩
    · exact .inr ⟨_, by omega, rfl⟩
    · exact .inr ⟨_, by omega, rfl⟩
    · exact .inr ⟨_, by omega, rfl⟩
    · exact ih later

/-- Base 64 has no signs that a segment escapes. -/
theorem percentEncode_base64 (bytes : Octets) :
    percentEncode escapedInSegment (base64 bytes) = base64 bytes := by
  have digits : ∀ n : Fin 64, (base64Digit n).toNat < 0x80 ∧
      escapedInSegment (base64Digit n) = false := by
    decide +kernel
  refine percentEncode_eq_self fun c inside => ?_
  obtain rfl | ⟨n, small, rfl⟩ := mem_base64 inside
  · decide
  · exact digits ⟨n, small⟩

theorem base64_injective {s t : Octets} (same : base64 s = base64 t) : s = t := by
  have back := congrArg base64Bytes? same
  rw [base64Bytes?_base64, base64Bytes?_base64] at back
  exact Option.some.inj back

end SyscallMeter.Web
