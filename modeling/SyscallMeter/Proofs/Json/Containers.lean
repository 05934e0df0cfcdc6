import SyscallMeter.Proofs.Json.Strings

/-! Arrays and objects over several lines are read back item by item. -/
namespace SyscallMeter.Json
open Written

variable {α σ : Type}

/-- The texts of further items, each behind a comma. -/
def moreLines (level : Nat) : List (List Char) → List Char
  | [] => []
  | texts => ',' :: lines level texts

theorem moreLines_cons (level : Nat) (text : List Char) (texts : List (List Char)) :
    moreLines level (text :: texts) = ',' :: lines level (text :: texts) := rfl

theorem lines_cons (level : Nat) (text : List Char) (texts : List (List Char)) :
    lines level (text :: texts) = newline level ++ (text ++ moreLines level texts) := by
  cases texts with
  | nil => simp [lines, moreLines]
  | cons next more => simp [lines, moreLines]

theorem isSpace_of_mem_newline {level : Nat} {c : Char} (h : c ∈ newline level) : isSpace c := by
  obtain rfl | space := List.mem_cons.mp h
  · rfl
  · rw [List.eq_of_mem_replicate space]
    rfl

theorem delimited_newline (level : Nat) (rest : List Char) : Delimited (newline level ++ rest) :=
  ⟨'\n', _, rfl, .inr rfl⟩

theorem delimited_moreLines (level : Nat) (texts : List (List Char)) {rest : List Char}
    (hr : Delimited rest) : Delimited (moreLines level texts ++ rest) := by
  cases texts with
  | nil => exact hr
  | cons text more => exact ⟨',', _, rfl, .inl rfl⟩

theorem length_le_lines (level : Nat) (texts : List (List Char)) :
    texts.length ≤ (lines level texts).length := by
  induction texts with
  | nil => exact Nat.le_refl 0
  | cons text more ih =>
    rw [lines_cons]
    cases more with
    | nil => simp [newline, moreLines]
    | cons next more =>
      simp only [List.length_append, moreLines, List.length_cons, newline] at ih ⊢
      omega

/-! ### Arrays -/

/-- A value begins with a character of its own. -/
def Opens (text : List Char) : Prop :=
  ∃ c more, text = c :: more ∧ isSpace c = false ∧ c ≠ ']'

variable {element : Reading α}

theorem run_peek_comma (rest : List Char) : peek.run (',' :: rest) = .ok (some ',', ',' :: rest) :=
  run_peek_here (by decide) rest

theorem run_peek_newline {c : Char} (hc : isSpace c = false) (level : Nat) (rest : List Char) :
    peek.run (newline level ++ c :: rest) = .ok (some c, c :: rest) :=
  run_peek (fun _ => isSpace_of_mem_newline) hc rest

theorem run_elementsFrom_close {text rest : List Char} (fuel : Nat) (first : Bool)
    (peeked : peek.run text = .ok (some ']', ']' :: rest)) :
    (elementsFrom element (fuel + 1) first).run text = .ok ([], rest) := by
  rw [elementsFrom, run_bind_of_ok peeked]
  rfl

theorem run_elementsFrom_first {text text' : List Char} {c : Char} (fuel : Nat)
    (peeked : peek.run text = .ok (some c, text')) (inside : c ≠ ']') :
    (elementsFrom element (fuel + 1) true).run text = (do
      let a ← element
      return a :: (← elementsFrom element fuel false)).run text' := by
  rw [elementsFrom, run_bind_of_ok peeked]
  split
  · rename_i none
    cases none
  · rename_i close
    exact absurd (Option.some.inj close) inside
  · rfl

theorem run_elementsFrom_next {text text' : List Char} {c : Char} (fuel : Nat)
    (peeked : peek.run text = .ok (some c, text')) (inside : c ≠ ']') :
    (elementsFrom element (fuel + 1) false).run (',' :: text) = (do
      let a ← element
      return a :: (← elementsFrom element fuel false)).run text' := by
  rw [elementsFrom, run_bind_of_ok (run_peek_comma text)]
  show (advance >>= fun _ => peek >>= _).run (',' :: text) = _
  rw [run_advance_bind, run_bind_of_ok peeked]
  split
  · rename_i none
    cases none
  · rename_i close
    exact absurd (Option.some.inj close) inside
  · rfl

/-- The elements behind the first one. -/
theorem run_elementsFrom {items : List (List Char × α)}
    (each : ∀ item ∈ items, Reads element item.1 item.2 ∧ Opens item.1) (level level' : Nat)
    {fuel : Nat} (enough : items.length < fuel) (rest : List Char) :
    (elementsFrom element fuel false).run
        (moreLines level (items.map (·.1)) ++ (newline level' ++ ']' :: rest)) =
      .ok (items.map (·.2), rest) := by
  induction items generalizing fuel with
  | nil =>
    obtain ⟨fuel, rfl⟩ := Nat.exists_eq_succ_of_ne_zero (Nat.ne_of_gt enough)
    exact run_elementsFrom_close fuel false (run_peek_newline (by decide) level' rest)
  | cons item more ih =>
    obtain ⟨fuel, rfl⟩ := Nat.exists_eq_succ_of_ne_zero (Nat.ne_of_gt (Nat.zero_lt_of_lt enough))
    obtain ⟨read, c, text, front, solid, inside⟩ := each item List.mem_cons_self
    have later := ih (fun item h => each item (List.mem_cons_of_mem _ h))
      (Nat.lt_of_succ_lt_succ enough)
    have closing := delimited_moreLines level (more.map (·.1))
      (delimited_newline level' (']' :: rest))
    have first := read.run closing
    simp only [List.map_cons, moreLines_cons, lines_cons, List.cons_append, List.append_assoc,
      front] at first ⊢
    rw [run_elementsFrom_next fuel (run_peek_newline solid level _) inside, run_bind_of_ok first,
      run_bind_of_ok later]
    rfl

/-- The text of an array, each of its elements on a line of its own. -/
def arrayText (level : Nat) (texts : List (List Char)) : List Char :=
  if texts.isEmpty then ['[', ']']
  else '[' :: (lines (level + 1) texts ++ (newline level ++ [']']))

theorem array_eq (items : List Written) (level : Nat) :
    array items level = arrayText level (items.map fun item => item (level + 1)) := by
  cases items <;> simp [array, arrayText]

theorem reads_expectArray {items : List (List Char × α)}
    (each : ∀ item ∈ items, Reads element item.1 item.2 ∧ Opens item.1) (level : Nat) :
    Reads (expectArray element) (arrayText level (items.map (·.1))) (items.map (·.2)) := by
  intro blanks rest hb hr
  have opened (text : List Char) :
      (expectArray element).run (blanks ++ '[' :: text) = (elements element).run text := by
    unfold expectArray
    rw [run_bind_of_ok (run_peek hb (by decide) text)]
    rfl
  cases items with
  | nil =>
    rw [List.map_nil, arrayText, List.isEmpty_nil, if_pos rfl]
    have close : peek.run (']' :: rest) = .ok (some ']', ']' :: rest) :=
      run_peek_here (by decide) rest
    show (expectArray element).run (blanks ++ '[' :: ']' :: rest) = _
    rw [opened, elements, run_get_bind]
    exact run_elementsFrom_close _ true close
  | cons item more =>
    obtain ⟨read, c, text, front, solid, inside⟩ := each item List.mem_cons_self
    have closing := delimited_moreLines (level + 1) (more.map (·.1))
      (delimited_newline level (']' :: rest))
    have first := read.run closing
    have few : more.length < (lines (level + 1) ((item :: more).map (·.1)) ++
        (newline level ++ ']' :: rest)).length := by
      have long := length_le_lines (level + 1) ((item :: more).map (·.1))
      simp only [List.length_map, List.length_cons, List.length_append] at long ⊢
      omega
    have later := run_elementsFrom (fun item h => each item (List.mem_cons_of_mem _ h))
      (level + 1) level few rest
    have unfolded : arrayText level ((item :: more).map (·.1)) ++ rest = '[' ::
        (lines (level + 1) ((item :: more).map (·.1)) ++ (newline level ++ ']' :: rest)) := by
      simp [arrayText]
    rw [unfolded, opened, elements, run_get_bind]
    generalize (lines (level + 1) ((item :: more).map (·.1)) ++
      (newline level ++ ']' :: rest)).length = fuel at later ⊢
    simp only [List.map_cons, lines_cons, List.cons_append, List.append_assoc, front] at first ⊢
    rw [run_elementsFrom_first fuel (run_peek_newline solid (level + 1) _) inside,
      run_bind_of_ok first, run_bind_of_ok later]
    rfl

/-! ### Objects -/

variable {member : String → σ → Reading σ}

/-- The reader takes the value of a member, from behind its key on. -/
def Takes (x : Reading σ) (text : List Char) (s : σ) : Prop :=
  ∀ rest, Delimited rest → x.run (':' :: ' ' :: (text ++ rest)) = .ok (s, rest)

theorem Reads.takes {x : Reading α} {text : List Char} {a : α} (h : Reads x text a) (f : α → σ) :
    Takes (do
      colon
      return f (← x)) text (f a) := by
  intro rest hr
  have passed : colon.run (':' :: ' ' :: (text ++ rest)) = .ok ((), ' ' :: (text ++ rest)) := rfl
  have read : x.run (' ' :: (text ++ rest)) = .ok (a, rest) := h [' '] rest (by simp [isSpace]) hr
  rw [run_bind_of_ok passed, run_bind_of_ok read]
  rfl

/-- From one state to another, the members are taken one after the other. -/
inductive Accepts (member : String → σ → Reading σ) :
    σ → List (String × List Char) → σ → Prop
  | nil (s : σ) : Accepts member s [] s
  | cons {s s' s'' : σ} {key : String} {text : List Char} {more : List (String × List Char)}
      (first : Takes (member key s) text s') (later : Accepts member s' more s'') :
      Accepts member s ((key, text) :: more) s''

theorem Accepts.append {s s' s'' : σ} {ms ms' : List (String × List Char)}
    (h : Accepts member s ms s') (h' : Accepts member s' ms' s'') :
    Accepts member s (ms ++ ms') s'' := by
  induction h with
  | nil s => exact h'
  | cons first later ih => exact .cons first (ih h')

/-- The text of one member. -/
def memberText (m : String × List Char) : List Char := quote m.1 ++ ':' :: ' ' :: m.2

/-- The text of an object, each of its members on a line of its own. -/
def objectText (level : Nat) (members : List (String × List Char)) : List Char :=
  if members.isEmpty then ['\x7b', '\x7d']
  else '\x7b' :: (lines (level + 1) (members.map memberText) ++ (newline level ++ ['\x7d']))

theorem object_eq (members : List (String × Written)) (level : Nat) :
    object members level = objectText level (members.map fun m => (m.1, m.2 (level + 1))) := by
  cases members with
  | nil => rfl
  | cons m more =>
    simp [object, objectText, Written.member, memberText, Function.comp_def]

theorem run_peek_objectText {blanks : List Char} (hb : ∀ c ∈ blanks, isSpace c) (level : Nat)
    (members : List (String × List Char)) (rest : List Char) :
    peek.run (blanks ++ (objectText level members ++ rest)) =
      .ok (some '\x7b', objectText level members ++ rest) := by
  unfold objectText
  split <;> exact run_peek hb (by decide) _

theorem run_membersFrom_close {text rest : List Char} (fuel : Nat) (first : Bool) (s : σ)
    (peeked : peek.run text = .ok (some '\x7d', '\x7d' :: rest)) :
    (membersFrom string member (fuel + 1) first s).run text = .ok (s, rest) := by
  rw [membersFrom, run_bind_of_ok peeked]
  rfl

theorem run_membersFrom_first {text text' : List Char} (fuel : Nat) (s : σ)
    (peeked : peek.run text = .ok (some '"', '"' :: text')) :
    (membersFrom string member (fuel + 1) true s).run text = (do
      let k ← string
      membersFrom string member fuel false (← member k s)).run ('"' :: text') := by
  have again : peek.run ('"' :: text') = .ok (some '"', '"' :: text') :=
    run_peek_here (by decide) text'
  rw [membersFrom, run_bind_of_ok peeked]
  show (peek >>= _).run _ = _
  rw [run_bind_of_ok again]
  rfl

theorem run_membersFrom_next {text text' : List Char} (fuel : Nat) (s : σ)
    (peeked : peek.run text = .ok (some '"', '"' :: text')) :
    (membersFrom string member (fuel + 1) false s).run (',' :: text) = (do
      let k ← string
      membersFrom string member fuel false (← member k s)).run ('"' :: text') := by
  rw [membersFrom, run_bind_of_ok (run_peek_comma text)]
  show (advance >>= fun _ => peek >>= _).run (',' :: text) = _
  rw [run_advance_bind, run_bind_of_ok peeked]
  rfl

/-- The members behind the first one. -/
theorem run_membersFrom {s final : σ} {ms : List (String × List Char)}
    (accepted : Accepts member s ms final) (level level' : Nat) {fuel : Nat}
    (enough : ms.length < fuel) (rest : List Char) :
    (membersFrom string member fuel false s).run
        (moreLines level (ms.map memberText) ++ (newline level' ++ '\x7d' :: rest)) =
      .ok (final, rest) := by
  induction accepted generalizing fuel with
  | nil s =>
    obtain ⟨fuel, rfl⟩ := Nat.exists_eq_succ_of_ne_zero (Nat.ne_of_gt enough)
    exact run_membersFrom_close fuel false s (run_peek_newline (by decide) level' rest)
  | @cons s s' s'' key text more first later ih =>
    obtain ⟨fuel, rfl⟩ := Nat.exists_eq_succ_of_ne_zero (Nat.ne_of_gt (Nat.zero_lt_of_lt enough))
    have closing := delimited_moreLines level (more.map memberText)
      (delimited_newline level' ('\x7d' :: rest))
    have taken := first _ closing
    have others := ih (Nat.lt_of_succ_lt_succ enough)
    have named := run_string key (':' :: ' ' :: (text ++ (moreLines level (more.map memberText) ++
      (newline level' ++ '\x7d' :: rest))))
    simp only [List.map_cons, moreLines_cons, lines_cons, memberText, quote, List.cons_append,
      List.append_assoc] at named ⊢
    rw [run_membersFrom_next fuel s (run_peek_newline isSpace_quote level _),
      run_bind_of_ok named, run_bind_of_ok taken]
    exact others

theorem reads_expectObject {initial final : σ} {ms : List (String × List Char)}
    (accepted : Accepts member initial ms final) (level : Nat) :
    Reads (expectObject member initial) (objectText level ms) final := by
  intro blanks rest hb hr
  have opened (text : List Char) : (expectObject member initial).run (blanks ++ '\x7b' :: text) =
      (members string member initial).run text := by
    unfold expectObject
    rw [run_bind_of_ok (run_peek hb (by decide) text)]
    rfl
  cases accepted with
  | nil =>
    have close : peek.run ('\x7d' :: rest) = .ok (some '\x7d', '\x7d' :: rest) :=
      run_peek_here (by decide) rest
    show (expectObject member initial).run (blanks ++ '\x7b' :: '\x7d' :: rest) = _
    rw [opened, members, run_get_bind]
    exact run_membersFrom_close _ true initial close
  | @cons _ s' _ key text more first later =>
    have closing := delimited_moreLines (level + 1) (more.map memberText)
      (delimited_newline level ('\x7d' :: rest))
    have taken := first _ closing
    have few : more.length < (lines (level + 1) (((key, text) :: more).map memberText) ++
        (newline level ++ '\x7d' :: rest)).length := by
      have long := length_le_lines (level + 1) (((key, text) :: more).map memberText)
      simp only [List.length_map, List.length_cons, List.length_append] at long ⊢
      omega
    have others := run_membersFrom later (level + 1) level few rest
    have named := run_string key (':' :: ' ' :: (text ++
      (moreLines (level + 1) (more.map memberText) ++ (newline level ++ '\x7d' :: rest))))
    have unfolded : objectText level ((key, text) :: more) ++ rest = '\x7b' ::
        (lines (level + 1) (((key, text) :: more).map memberText) ++
          (newline level ++ '\x7d' :: rest)) := by
      simp [objectText]
    rw [unfolded, opened, members, run_get_bind]
    generalize (lines (level + 1) (((key, text) :: more).map memberText) ++
      (newline level ++ '\x7d' :: rest)).length = fuel at others ⊢
    simp only [List.map_cons, lines_cons, memberText, quote, List.cons_append,
      List.append_assoc] at named ⊢
    rw [run_membersFrom_first fuel initial (run_peek_newline isSpace_quote (level + 1) _),
      run_bind_of_ok named, run_bind_of_ok taken]
    exact others

end SyscallMeter.Json
