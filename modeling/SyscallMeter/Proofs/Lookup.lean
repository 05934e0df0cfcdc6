import Mathlib.Data.List.Pairwise
import Mathlib.Data.List.Sort
import SyscallMeter.Lookup
import SyscallMeter.Proofs.Number.Numeral
import SyscallMeter.Proofs.Search
import SyscallMeter.Proofs.Splitting

/-! Finding a process by its name. A process chooses its own name, so the command in a status line
may hold parentheses and all else that stands around it there; it is still found. What is found in
the directory of processes depends on its entries alone and not on their order: the one process that
answers to the name, or an error that lists them by their numbers. -/
namespace SyscallMeter.Lookup
open Text

/-! ### The command in a status line -/

theorem command?_of_split {stat before rest upTo behind : List Char}
    (first : splitFirst? '(' stat = some (before, rest))
    (last : splitLast? ')' stat = some (upTo, behind)) :
    command? stat =
      if before.length < upTo.length then some (upTo.drop (before.length + 1)) else none := by
  simp only [command?, first, last, Option.bind_eq_bind, Option.bind_some]

theorem command?_eq_some {stat command : List Char} :
    command? stat = some command ↔
      ∃ before behind, stat = before ++ '(' :: (command ++ ')' :: behind) ∧
        '(' ∉ before ∧ ')' ∉ behind := by
  constructor
  · intro found
    obtain ⟨⟨before, rest⟩, first, found'⟩ := Option.bind_eq_some_iff.mp found
    obtain ⟨⟨upTo, behind⟩, last, -⟩ := Option.bind_eq_some_iff.mp found'
    rw [command?_of_split first last] at found
    obtain ⟨opening, clear⟩ := splitFirst?_eq_some.mp first
    obtain ⟨closing, clear'⟩ := splitLast?_eq_some.mp last
    split at found
    · rename_i inside
      obtain rfl := Option.some.inj found
      -- The text up to the closing one begins with the text up to the opening one.
      rcases List.append_eq_append_iff.mp (opening.symm.trans closing) with
        ⟨middle, rfl, from_opening⟩ | ⟨more, rfl, -⟩
      · cases middle with
        | nil => simp at inside
        | cons c command =>
          obtain ⟨rfl, -⟩ := List.cons.inj from_opening
          refine ⟨before, behind, ?_, clear, clear'⟩
          simp [closing]
      · simp only [List.length_append] at inside
        omega
    · cases found
  · rintro ⟨before, behind, split, clear, clear'⟩
    have first : splitFirst? '(' stat = some (before, command ++ ')' :: behind) :=
      splitFirst?_eq_some.mpr ⟨split, clear⟩
    have last : splitLast? ')' stat = some (before ++ '(' :: command, behind) :=
      splitLast?_eq_some.mpr ⟨by simp [split], clear'⟩
    rw [command?_of_split first last]
    simp

theorem command?_eq_none {stat : List Char} :
    command? stat = none ↔ ¬ ∃ i j : Nat, i < j ∧ stat[i]? = some '(' ∧ stat[j]? = some ')' := by
  constructor
  · rintro missing ⟨i, j, order, opening, closing⟩
    have hasOpening : ¬ splitFirst? '(' stat = none := fun none =>
      splitFirst?_eq_none.mp none (List.mem_of_getElem? opening)
    have hasClosing : ¬ splitLast? ')' stat = none := fun none =>
      splitLast?_eq_none.mp none (List.mem_of_getElem? closing)
    obtain ⟨⟨before, rest⟩, first⟩ := Option.ne_none_iff_exists'.mp hasOpening
    obtain ⟨⟨upTo, behind⟩, last⟩ := Option.ne_none_iff_exists'.mp hasClosing
    obtain ⟨split, clear⟩ := splitFirst?_eq_some.mp first
    obtain ⟨split', clear'⟩ := splitLast?_eq_some.mp last
    have from_first : before.length ≤ i := by
      refine Nat.not_lt.mp fun early => ?_
      rw [split, List.getElem?_append_left early] at opening
      exact clear (List.mem_of_getElem? opening)
    have to_last : j ≤ upTo.length := by
      refine Nat.not_lt.mp fun late => ?_
      have behind_last : j - upTo.length = j - upTo.length - 1 + 1 := by omega
      rw [split', List.getElem?_append_right (by omega), behind_last,
        List.getElem?_cons_succ] at closing
      exact clear' (List.mem_of_getElem? closing)
    rw [command?_of_split first last, if_pos (by omega)] at missing
    cases missing
  · intro apart
    cases found : command? stat with
    | none => rfl
    | some command =>
      obtain ⟨before, behind, rfl, -⟩ := command?_eq_some.mp found
      refine absurd ⟨before.length, before.length + 1 + command.length, by omega, ?_, ?_⟩ apart
      · simp
      · rw [List.getElem?_append_right (by omega)]
        simp [Nat.add_assoc, Nat.add_comm 1]

/-- The command in a status line is what stands between the first opening and the last closing
parenthesis, whatever it is, and there is one unless no opening parenthesis comes before a closing
one. -/
theorem command_between_parentheses (stat : List Char) :
    (∀ command, command? stat = some command ↔
        ∃ before behind, stat = before ++ '(' :: (command ++ ')' :: behind) ∧
          '(' ∉ before ∧ ')' ∉ behind) ∧
      (command? stat = none ↔
        ¬ ∃ i j : Nat, i < j ∧ stat[i]? = some '(' ∧ stat[j]? = some ')') :=
  ⟨fun _ => command?_eq_some, command?_eq_none⟩

example : command? "7 (a) (b\n) S 1".toList = some "a) (b\n".toList := by decide

/-! ### The processes that answer to a name -/

/-- The part of a name behind its last slash. -/
def LastPart (name part : List Char) : Prop :=
  '/' ∉ part ∧ (name = part ∨ ∃ before, name = before ++ '/' :: part)

theorem lastPart_iff {name part : List Char} :
    LastPart name part ↔ ((splitOn '/' name).getLast?).getD name = part := by
  have last (before : List Char) {part : List Char} (clear : '/' ∉ part) :
      (splitOn '/' (before ++ '/' :: part)).getLast? = some part := by
    rw [splitOn_append, splitOn_of_not_mem clear, List.getLast?_append]
    rfl
  constructor
  · rintro ⟨clear, rfl | ⟨before, rfl⟩⟩
    · rw [splitOn_of_not_mem clear]
      rfl
    · rw [last before clear]
      rfl
  · rintro rfl
    cases split : splitLast? '/' name with
    | none =>
      have clear := splitLast?_eq_none.mp split
      rw [splitOn_of_not_mem clear]
      exact ⟨clear, .inl rfl⟩
    | some parts =>
      obtain ⟨rfl, clear⟩ := splitLast?_eq_some.mp split
      rw [last parts.1 clear]
      exact ⟨clear, .inr ⟨parts.1, rfl⟩⟩

theorem answersTo_iff {command file wanted : List Char} :
    answersTo command file wanted = true ↔
      ∃ part, LastPart wanted part ∧ part ≠ [] ∧ (part <:+: command ∨ part <:+: file) := by
  simp only [lastPart_iff, exists_eq_left']
  simp [answersTo, contains_iff]

end Lookup

/-- The number that the name of a directory stands for. -/
def ProcessEntry.number? (e : ProcessEntry) : Option UInt32 :=
  (Numeral.natural? UInt32.size e.name.toList).map UInt32.ofNat

/-- The directory of a process tells its command and the file name of its executable. -/
def ProcessEntry.Tells (e : ProcessEntry) (command file : List Char) : Prop :=
  ∃ exe stat, e.exe = some exe ∧ e.stat = some stat ∧
    Lookup.fileName? exe.toList = some file ∧ Lookup.command? stat.toList = some command

namespace Lookup

/-- A process other than the run itself answers to a name: its directory tells its command and its
file name, and one of them holds the last part of the name. -/
def Answers (entries : List ProcessEntry) (own : UInt32) (wanted : String) (pid : UInt32)
    (command : String) : Prop :=
  pid ≠ own ∧ ∃ e ∈ entries, e.name = toString pid.toNat ∧ ∃ file, e.Tells command.toList file ∧
    ∃ part, LastPart wanted.toList part ∧ part ≠ [] ∧ (part <:+: command.toList ∨ part <:+: file)

/-- What one entry of the directory adds to the processes found. -/
def matched? (m : Machine) (wanted : String) (e : ProcessEntry) : Option (UInt32 × String) := do
  let pid := UInt32.ofNat (← Numeral.natural? UInt32.size e.name.toList)
  if pid = m.ownPid then none
  let (command, file) ← names? m pid
  if answersTo command file wanted.toList then some (pid, String.ofList command) else none

theorem matching_eq (m : Machine) (entries : List ProcessEntry) (wanted : String) :
    matching m entries wanted = entries.filterMap (matched? m wanted) := rfl

theorem matched?_eq_some {m : Machine} {wanted : String} {e : ProcessEntry} {pid : UInt32}
    {command : String} :
    matched? m wanted e = some (pid, command) ↔
      e.number? = some pid ∧ pid ≠ m.ownPid ∧ ∃ file, names? m pid = some (command.toList, file) ∧
        answersTo command.toList file wanted.toList = true := by
  unfold matched? ProcessEntry.number?
  simp only [Option.bind_eq_bind, Option.bind_eq_some_iff, Option.map_eq_some_iff]
  constructor
  · rintro ⟨n, named, found⟩
    split at found
    · cases found
    · rename_i other
      obtain ⟨⟨found', file⟩, names, found⟩ := Option.bind_eq_some_iff.mp found
      split at found
      · rename_i answers
        cases found
        rw [String.toList_ofList]
        exact ⟨⟨n, named, rfl⟩, other, file, names, answers⟩
      · cases found
  · rintro ⟨⟨n, named, rfl⟩, other, file, names, answers⟩
    refine ⟨n, named, ?_⟩
    rw [if_neg other, names]
    simp [answers]

theorem names?_eq_some {m : Machine} {pid : UInt32} {command file : List Char} :
    names? m pid = some (command, file) ↔ ∃ e, m.entry? pid = some e ∧ e.Tells command file := by
  unfold names? ProcessEntry.Tells
  simp only [Option.bind_eq_bind, Option.bind_eq_some_iff]
  constructor
  · rintro ⟨e, found, exe, leads, file', named, stat, tells, command', between, same⟩
    cases same
    exact ⟨e, found, exe, stat, leads, tells, named, between⟩
  · rintro ⟨e, found, exe, stat, leads, tells, named, between⟩
    exact ⟨e, found, exe, leads, file, named, stat, tells, command, between, rfl⟩

theorem number?_of_name {e : ProcessEntry} {pid : UInt32} (named : e.name = toString pid.toNat) :
    e.number? = some pid := by
  rw [ProcessEntry.number?, named, Numeral.natural?_toString pid.toNat_lt, Option.map_some,
    UInt32.ofNat_toNat]

/-- Directories of one number are one. -/
theorem eq_of_number? {entries : List ProcessEntry}
    (different : (entries.filterMap ProcessEntry.number?).Nodup) {e e' : ProcessEntry}
    (mem : e ∈ entries) (mem' : e' ∈ entries) {pid : UInt32} (number : e.number? = some pid)
    (number' : e'.number? = some pid) : e = e' := by
  have apart := List.pairwise_filterMap.mp different
  have symmetric : Std.Symm fun e e' : ProcessEntry =>
      ∀ n, e.number? = some n → ∀ n', e'.number? = some n' → n ≠ n' :=
    ⟨fun _ _ h n hn n' hn' => Ne.symm (h n' hn' n hn)⟩
  by_contra other
  exact apart.forall mem mem' other pid number pid number' rfl

variable {m : Machine} {entries : List ProcessEntry}

theorem entry?_eq_some (there : m.processes = some entries)
    (different : (entries.filterMap ProcessEntry.number?).Nodup) {pid : UInt32}
    {e : ProcessEntry} :
    m.entry? pid = some e ↔ e ∈ entries ∧ e.name = toString pid.toNat := by
  rw [Machine.entry?, there, Option.bind_some]
  constructor
  · intro found
    exact ⟨List.mem_of_find?_eq_some found, by simpa using List.find?_some found⟩
  · rintro ⟨mem, named⟩
    have some_entry : (entries.find? fun e => e.name == toString pid.toNat).isSome :=
      List.find?_isSome.mpr ⟨e, mem, by simp [named]⟩
    obtain ⟨first, found⟩ := Option.isSome_iff_exists.mp some_entry
    have named' : first.name = toString pid.toNat := by simpa using List.find?_some found
    have same := eq_of_number? different (List.mem_of_find?_eq_some found) mem
      (number?_of_name named') (number?_of_name named)
    rw [found, same]

theorem mem_matching (there : m.processes = some entries)
    (different : (entries.filterMap ProcessEntry.number?).Nodup) {wanted : String} {pid : UInt32}
    {command : String} :
    (pid, command) ∈ matching m entries wanted ↔
      Answers entries m.ownPid wanted pid command := by
  have told (file : List Char) : names? m pid = some (command.toList, file) ↔
      ∃ e ∈ entries, e.name = toString pid.toNat ∧ e.Tells command.toList file := by
    simp only [names?_eq_some, entry?_eq_some there different, and_assoc]
  simp only [matching_eq, List.mem_filterMap, matched?_eq_some, told, answersTo_iff]
  constructor
  · rintro ⟨_, -, -, other, file, ⟨e, mem, named, tells⟩, part⟩
    exact ⟨other, e, mem, named, file, tells, part⟩
  · rintro ⟨other, e, mem, named, file, tells, part⟩
    exact ⟨e, mem, number?_of_name named, other, file, ⟨e, mem, named, tells⟩, part⟩

/-- No process is found twice. -/
theorem pairwise_matching (different : (entries.filterMap ProcessEntry.number?).Nodup)
    (wanted : String) : (matching m entries wanted).Pairwise fun a b => a.1 ≠ b.1 := by
  rw [matching_eq, List.pairwise_filterMap]
  refine (List.pairwise_filterMap.mp different).imp fun apart a found b found' => ?_
  exact apart a.1 (matched?_eq_some.mp found).1 b.1 (matched?_eq_some.mp found').1

theorem single_eq_ok {name : String} {found : List (UInt32 × String)} {pid : UInt32} :
    single name found = .ok pid ↔ ∃ command, found = [(pid, command)] := by
  match found with
  | [] => simp [single]
  | [(pid', command)] => simp [single]
  | _ :: _ :: _ => simp [single]

theorem single_eq_error {name : String} {found : List (UInt32 × String)} {error : LookupError} :
    single name found = .error error ↔ found = [] ∧ error = .nobody name ∨
      2 ≤ found.length ∧ error = .several name (found.mergeSort before) := by
  match found with
  | [] => simp [single, eq_comm]
  | [_] => simp [single]
  | _ :: _ :: _ => simp [single, eq_comm]

theorem before_iff {a b : UInt32 × String} :
    before a b = true ↔ a.1 < b.1 ∨ a.1 = b.1 ∧ a.2 ≤ b.2 := by simp [before]

theorem pairwise_mergeSort_before {found : List (UInt32 × String)}
    (apart : found.Pairwise fun a b => a.1 ≠ b.1) :
    (found.mergeSort before).Pairwise fun a b => a.1 < b.1 := by
  have trans (a b c : UInt32 × String) : before a b = true → before b c = true →
      before a c = true := by
    simp only [before_iff]
    rintro (below | ⟨same, le⟩) (below' | ⟨same', le'⟩)
    · exact .inl (UInt32.lt_trans below below')
    · exact .inl (same' ▸ below)
    · exact .inl (same ▸ below')
    · exact .inr ⟨same.trans same', String.le_trans le le'⟩
  have total (a b : UInt32 × String) : (before a b || before b a) = true := by
    rw [Bool.or_eq_true, before_iff, before_iff]
    by_cases same : a.1 = b.1
    · exact (String.le_total a.2 b.2).imp (fun le => .inr ⟨same, le⟩) fun le => .inr ⟨same.symm, le⟩
    · exact (UInt32.lt_or_lt_of_ne same).imp .inl .inl
  have sorted := List.pairwise_mergeSort trans total found
  have apart' := (List.mergeSort_perm found before).symm.pairwise apart Ne.symm
  refine (sorted.and apart').imp fun h => ?_
  obtain ⟨ordered, other⟩ := h
  exact (before_iff.mp ordered).resolve_right fun tie => other tie.1

/-- There is one list of processes by their numbers. -/
theorem eq_of_sorted {found found' : List (UInt32 × String)}
    (sorted : found.Pairwise fun a b => a.1 < b.1)
    (sorted' : found'.Pairwise fun a b => a.1 < b.1)
    (same : ∀ pid command, (pid, command) ∈ found ↔ (pid, command) ∈ found') : found = found' := by
  have antisymmetric : Std.Antisymm fun a b : UInt32 × String => a.1 < b.1 :=
    ⟨fun a b h h' => absurd (UInt32.lt_trans h h') (UInt32.lt_irrefl a.1)⟩
  have irreflexive : Std.Irrefl fun a b : UInt32 × String => a.1 < b.1 :=
    ⟨fun a => UInt32.lt_irrefl a.1⟩
  exact sorted.eq_of_mem_iff sorted' fun a => same a.1 a.2

theorem find_of_processes (there : m.processes = some entries) (name : String) :
    find m name = single name (matching m entries name) := by
  rw [find, there]

theorem find_eq_ok (there : m.processes = some entries)
    (different : (entries.filterMap ProcessEntry.number?).Nodup) {name : String} {pid : UInt32} :
    find m name = .ok pid ↔
      (∃ command, Answers entries m.ownPid name pid command) ∧
        ∀ other command, Answers entries m.ownPid name other command → other = pid := by
  have apart := pairwise_matching (m := m) different name
  simp only [find_of_processes there, single_eq_ok, ← mem_matching there different]
  generalize matching m entries name = found at apart
  constructor
  · rintro ⟨command, rfl⟩
    simp
  · rintro ⟨⟨command, mem⟩, only⟩
    refine ⟨command, ?_⟩
    match found with
    | [] => cases mem
    | [one] => rw [List.mem_singleton.mp mem]
    | (a, c) :: (b, d) :: _ =>
      have first := only a c (by simp)
      have second := only b d (by simp)
      have other := (List.pairwise_cons.mp apart).1 (b, d) (by simp)
      exact absurd (first.trans second.symm) other

theorem find_eq_error (there : m.processes = some entries)
    (different : (entries.filterMap ProcessEntry.number?).Nodup) {name : String}
    {error : LookupError} :
    find m name = .error error ↔
      ((∀ pid command, ¬ Answers entries m.ownPid name pid command) ∧ error = .nobody name) ∨
        ∃ found, error = .several name found ∧ 2 ≤ found.length ∧
          found.Pairwise (fun a b => a.1 < b.1) ∧
          ∀ pid command, (pid, command) ∈ found ↔ Answers entries m.ownPid name pid command := by
  have sorted := pairwise_mergeSort_before (pairwise_matching (m := m) different name)
  simp only [find_of_processes there, single_eq_error, ← mem_matching there different]
  generalize matching m entries name = found at sorted
  refine or_congr (and_congr_left' ?_) ?_
  · rw [List.eq_nil_iff_forall_not_mem, Prod.forall]
  · constructor
    · rintro ⟨many, rfl⟩
      exact ⟨_, rfl, by rwa [List.length_mergeSort], sorted, fun _ _ => List.mem_mergeSort⟩
    · rintro ⟨listed, rfl, many, sorted', members⟩
      have same : listed = found.mergeSort before := eq_of_sorted sorted' sorted fun pid command => by
        rw [members, List.mem_mergeSort]
      subst same
      exact ⟨by rwa [List.length_mergeSort] at many, rfl⟩

theorem answers_of_perm {entries' : List ProcessEntry} (order : entries'.Perm entries)
    {own pid : UInt32} {wanted command : String} :
    Answers entries' own wanted pid command ↔ Answers entries own wanted pid command := by
  simp only [Answers, order.mem_iff]

/-- Looking for a name finds the one process that answers to it, and never the run itself. If none
or several answer, the error says so and lists them by their numbers. The order of the directory
does not matter. -/
theorem finds_the_only_one (there : m.processes = some entries)
    (different : (entries.filterMap ProcessEntry.number?).Nodup) (name : String) :
    (∀ pid, find m name = .ok pid ↔
        (∃ command, Answers entries m.ownPid name pid command) ∧
          ∀ other command, Answers entries m.ownPid name other command → other = pid) ∧
      (∀ error, find m name = .error error ↔
        ((∀ pid command, ¬ Answers entries m.ownPid name pid command) ∧ error = .nobody name) ∨
          ∃ found, error = .several name found ∧ 2 ≤ found.length ∧
            found.Pairwise (fun a b => a.1 < b.1) ∧
            ∀ pid command, (pid, command) ∈ found ↔
              Answers entries m.ownPid name pid command) ∧
      find m name ≠ .ok m.ownPid ∧
      ∀ entries', entries'.Perm entries →
        find { m with processes := some entries' } name = find m name := by
  refine ⟨fun pid => find_eq_ok there different, fun error => find_eq_error there different, ?_, ?_⟩
  · intro own
    obtain ⟨⟨command, other, -⟩, -⟩ := (find_eq_ok there different).mp own
    exact other rfl
  · intro entries' order
    have different' : (entries'.filterMap ProcessEntry.number?).Nodup :=
      (order.filterMap _).nodup_iff.mpr different
    set m' : Machine := { m with processes := some entries' }
    have there' : m'.processes = some entries' := rfl
    cases result : find m name with
    | ok pid =>
      rw [find_eq_ok there different] at result
      rw [find_eq_ok there' different']
      simpa only [answers_of_perm order] using result
    | error error =>
      rw [find_eq_error there different] at result
      rw [find_eq_error there' different']
      simpa only [answers_of_perm order] using result

/-- A process that answers by its file name only, beside a kernel thread of that name and one whose
name holds parentheses. -/
theorem finds_the_only_server :
    let entries : List ProcessEntry := [
      ⟨"91", some "91 (worker) S 1", some "/opt/srv"⟩,
      ⟨"2", some "2 (srv) S 0", none⟩,
      ⟨"version", none, none⟩,
      ⟨"40", some "40 (a) (sh) S 1", some "/bin/bash"⟩]
    let m : Machine := ⟨some entries, none, 0, 7, 4096, ⟨[], []⟩⟩
    (entries.filterMap ProcessEntry.number?).Nodup ∧
      (∀ other command, Answers entries 7 "/bin/srv" other command → other = 91) ∧
      find { m with processes := some entries.reverse } "/bin/srv" = .ok 91 := by
  intro entries m
  have different : (entries.filterMap ProcessEntry.number?).Nodup := by decide +kernel
  have found : find m "/bin/srv" = .ok 91 := by rfl
  obtain ⟨only, -, -, ordered⟩ := finds_the_only_one (m := m) rfl different "/bin/srv"
  refine ⟨different, ((only 91).mp found).2, ?_⟩
  rw [ordered _ (List.reverse_perm entries), found]

end Lookup

end SyscallMeter
