import SyscallMeter.Json.Reader
import SyscallMeter.Json.Writer

/-! What a reader takes from the front of a text, and strings: whatever characters a string has, it
is read back from between its quotes. -/
namespace SyscallMeter.Json

variable {α β : Type}

/-- Where a value in a written text ends: at a comma or at the end of its line. -/
def Delimited (rest : List Char) : Prop := ∃ c more, rest = c :: more ∧ (c = ',' ∨ c = '\n')

/-- The reader takes a value from behind blanks, and leaves what follows it. -/
def Reads (x : Reading α) (text : List Char) (a : α) : Prop :=
  ∀ blanks rest, (∀ c ∈ blanks, isSpace c) → Delimited rest →
    x.run (blanks ++ (text ++ rest)) = .ok (a, rest)

theorem Reads.run {x : Reading α} {text rest : List Char} {a : α} (h : Reads x text a)
    (hr : Delimited rest) : x.run (text ++ rest) = .ok (a, rest) := h [] rest (by simp) hr

theorem run_bind_of_ok {x : Reading α} {text rest : List Char} {a : α}
    (h : x.run text = .ok (a, rest)) (next : α → Reading β) :
    (x >>= next).run text = (next a).run rest := by
  rw [StateT.run_bind, h]
  rfl

theorem run_get_bind (next : List Char → Reading β) (text : List Char) :
    (get >>= next).run text = (next text).run text := rfl

theorem run_advance_bind (next : Unit → Reading β) (c : Char) (text : List Char) :
    (advance >>= next).run (c :: text) = (next ()).run text := rfl

theorem Reads.bind {x : Reading α} {next : α → Reading β} {text : List Char} {a : α} {b : β}
    (hx : Reads x text a) (hnext : ∀ rest, (next a).run rest = .ok (b, rest)) :
    Reads (x >>= next) text b := by
  intro blanks rest hb hr
  rw [run_bind_of_ok (hx blanks rest hb hr), hnext]

theorem Reads.map {x : Reading α} {text : List Char} {a : α} (h : Reads x text a) (f : α → β) :
    Reads (f <$> x) text (f a) := by
  rw [map_eq_pure_bind]
  exact h.bind fun rest => rfl

theorem run_peek {blanks : List Char} (hb : ∀ c ∈ blanks, isSpace c) {c : Char}
    (hc : isSpace c = false) (rest : List Char) :
    peek.run (blanks ++ c :: rest) = .ok (some c, c :: rest) := by
  have front : (blanks ++ c :: rest).dropWhile isSpace = c :: rest := by
    rw [List.dropWhile_append_of_pos hb, List.dropWhile_cons_of_neg (by simp [hc])]
  show Except.ok (((blanks ++ c :: rest).dropWhile isSpace).head?, _) = _
  rw [front]
  rfl

theorem run_peek_here {c : Char} (hc : isSpace c = false) (rest : List Char) :
    peek.run (c :: rest) = .ok (some c, c :: rest) :=
  run_peek (List.forall_mem_nil _) hc rest

/-! ### Strings -/

theorem hexValue?_hexDigit : ∀ n < 16, Text.hexValue? (Text.hexDigit n) = some n := by decide

/-- A control character is read back from its number. -/
theorem unescape_control {c : Char} (control : c.toNat < 0x20) (rest : List Char) :
    unescape ('u' :: '0' :: '0' :: Text.hexDigit (c.toNat / 16)
      :: Text.hexDigit (c.toNat % 16) :: rest) = .ok (c, rest) := by
  have zero : Text.hexValue? '0' = some 0 := by decide
  have digits : ['0', '0', Text.hexDigit (c.toNat / 16), Text.hexDigit (c.toNat % 16)].mapM
      Text.hexValue? = some [0, 0, c.toNat / 16, c.toNat % 16] := by
    simp only [List.mapM_cons, List.mapM_nil, zero, hexValue?_hexDigit (c.toNat / 16) (by omega),
      hexValue?_hexDigit (c.toNat % 16) (by omega)]
    rfl
  have escaped : hexEscape ('0' :: '0' :: Text.hexDigit (c.toNat / 16)
      :: Text.hexDigit (c.toNat % 16) :: rest) = .ok (c.toNat, rest) := by
    have number : 16 * (c.toNat / 16) + c.toNat % 16 = c.toNat := by omega
    simp only [hexEscape, digits, List.foldl_cons, List.foldl_nil, Nat.mul_zero, Nat.zero_add,
      number]
  have first : isTrailingSurrogate c.toNat = false := by
    simp only [isTrailingSurrogate, Bool.and_eq_false_iff, decide_eq_false_iff_not]
    omega
  have second : isLeadingSurrogate c.toNat = false := by
    simp only [isLeadingSurrogate, Bool.and_eq_false_iff, decide_eq_false_iff_not]
    omega
  show (hexEscape _ >>= _) = _
  rw [escaped]
  simp only [bind, Except.bind, first, second, Bool.false_eq_true, if_false, Char.ofNat_toNat]

theorem stringFrom_escape (c : Char) (fuel : Nat) (rest : List Char) :
    stringFrom unescape (fuel + 1) (escape c ++ rest) = (do
      let (more, rest) ← stringFrom unescape fuel rest
      .ok (c :: more, rest)) := by
  unfold escape
  split
  · rfl
  · rfl
  · rfl
  · rfl
  · rfl
  · rfl
  · rfl
  · rename_i quote backslash _ _ _ _ _
    split
    · rename_i control
      have read := unescape_control control rest
      show (unescape ('u' :: '0' :: '0' :: Text.hexDigit (c.toNat / 16)
        :: Text.hexDigit (c.toNat % 16) :: rest) >>= _) = _
      rw [read]
      rfl
    · rename_i printed
      rw [List.singleton_append, stringFrom, if_neg quote, if_neg backslash, if_neg printed]

/-- The characters of a string are read back, up to the closing quote. -/
theorem stringFrom_flatMap_escape (s : List Char) {fuel : Nat} (enough : s.length < fuel)
    (rest : List Char) :
    stringFrom unescape fuel (s.flatMap escape ++ '"' :: rest) = .ok (s, rest) := by
  induction s generalizing fuel with
  | nil =>
    obtain ⟨fuel, rfl⟩ := Nat.exists_eq_succ_of_ne_zero (Nat.ne_of_gt enough)
    rfl
  | cons c more ih =>
    obtain ⟨fuel, rfl⟩ := Nat.exists_eq_succ_of_ne_zero (Nat.ne_of_gt (Nat.zero_lt_of_lt enough))
    rw [List.flatMap_cons, List.append_assoc, stringFrom_escape,
      ih (Nat.lt_of_succ_lt_succ enough)]
    rfl

theorem length_le_flatMap_escape (s : List Char) : s.length ≤ (s.flatMap escape).length := by
  induction s with
  | nil => exact Nat.le_refl 0
  | cons c more ih =>
    have written : 0 < (escape c).length := by
      unfold escape
      split <;> first | exact Nat.zero_lt_succ _ | (split <;> exact Nat.zero_lt_succ _)
    rw [List.flatMap_cons, List.length_append, List.length_cons]
    omega

theorem run_stringWith (unescape : List Char → Except ReadError (Char × List Char))
    {text rest : List Char} {s : List Char}
    (read : stringFrom unescape (text.length + 1) text = .ok (s, rest)) :
    (stringWith unescape).run ('"' :: text) = .ok (String.ofList s, rest) := by
  unfold stringWith
  rw [run_advance_bind, run_get_bind, read]
  rfl

theorem run_string (s : String) (rest : List Char) :
    string.run (quote s ++ rest) = .ok (s, rest) := by
  have front : quote s ++ rest = '"' :: (s.toList.flatMap escape ++ '"' :: rest) := by
    simp [quote]
  have enough : s.toList.length < (s.toList.flatMap escape ++ '"' :: rest).length + 1 := by
    have longer := length_le_flatMap_escape s.toList
    rw [List.length_append]
    omega
  rw [front, string, run_stringWith unescape (stringFrom_flatMap_escape s.toList enough rest),
    String.ofList_toList]

theorem isSpace_quote : isSpace '"' = false := by decide

theorem reads_expectString (s : String) : Reads expectString (quote s) s := by
  intro blanks rest hb _
  have front : quote s ++ rest = '"' :: (s.toList.flatMap escape ++ ['"'] ++ rest) := rfl
  rw [expectString, front, run_bind_of_ok (run_peek hb isSpace_quote _), ← front]
  exact run_string s rest

end SyscallMeter.Json
