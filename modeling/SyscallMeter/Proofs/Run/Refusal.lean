import Mathlib.Logic.Basic
import SyscallMeter.Proofs.Run.Result

/-! The runs that are refused before they do anything: for each kind of failure whose exit code is
documented, what must hold of the options and the machine for a run to end in it. -/
namespace SyscallMeter

/-- The exit code that is documented for a kind of failure: 2 for wrong usage, 77 for missing
rights, and 1 for what is wrong with the target, the probe object or the kernel. -/
def Failure.documentedCode? : Failure → Option Nat
  | noTarget => some 2
  | settings _ => some 2
  | preflight .notPrivileged => some 77
  | preflight (.kernelTooOld ..) => some 1
  | preflight (.noObject _) => some 1
  | preflight (.noProcess _) => some 1
  | lookup (.nobody _) => some 1
  | lookup (.several ..) => some 1
  | _ => none

/-- The causes in the order in which they are looked for: each holds only where the ones before it
do not. -/
inductive Refusal (o : Options) (m : Machine) : Failure → Prop
  | noTarget (unnamed : o.process = none) (unnumbered : o.pid = none) : Refusal o m .noTarget
  | wrongNumber {n : Int} (unnamed : o.process = none) (number : o.pid = some n) (wrong : n ≤ 0) :
      Refusal o m (.settings (.invalidPid n))
  | nobody {name : String} {entries : List ProcessEntry} (named : o.process = some name)
      (unnumbered : o.pid = none) (there : m.processes = some entries)
      (none : Lookup.matching m entries name = []) : Refusal o m (.lookup (.nobody name))
  | several {name : String} {entries : List ProcessEntry} (named : o.process = some name)
      (unnumbered : o.pid = none) (there : m.processes = some entries)
      (more : 1 < (Lookup.matching m entries name).length) :
      Refusal o m
        (.lookup (.several name ((Lookup.matching m entries name).mergeSort Lookup.before)))
  | notPrivileged {pid : UInt32} (target : o.target m = .ok pid) (user : m.user ≠ 0) :
      Refusal o m (.preflight .notPrivileged)
  | tooOld {pid : UInt32} {kernel : String} {release : List Char} {version : Nat × Nat}
      (target : o.target m = .ok pid) (user : m.user = 0) (told : m.kernelVersion = some kernel)
      (third : (Text.words kernel.toList)[2]? = some release)
      (read : Preflight.parseRelease? release = some version)
      (old : Preflight.isOlder version oldestKernel) :
      Refusal o m (.preflight (.kernelTooOld version.1 version.2 (String.ofList release)))
  | noObject {pid : UInt32} (target : o.target m = .ok pid) (user : m.user = 0)
      (kernel : Preflight.checkKernel m = .ok ()) (missing : m.files.isFile o.object = false) :
      Refusal o m (.preflight (.noObject o.object))
  | noProcess {pid : UInt32} (target : o.target m = .ok pid) (user : m.user = 0)
      (kernel : Preflight.checkKernel m = .ok ()) (object : m.files.isFile o.object)
      (gone : m.exists_ pid = false) : Refusal o m (.preflight (.noProcess pid))
  | wrongSettings {pid : UInt32} {e : SettingsError} (target : o.target m = .ok pid)
      (checked : Preflight.check m o.object pid = .ok ())
      (wrong : o.settings pid m.pageSize = .error e) : Refusal o m (.settings e)

theorem except_bind_eq_error {ε α β : Type} {x : Except ε α} {next : α → Except ε β} {e : ε} :
    (x >>= next) = .error e ↔ x = .error e ∨ ∃ a, x = .ok a ∧ next a = .error e := by
  cases x <;> simp [bind, Except.bind]

theorem except_mapError_error {ε ε' α : Type} (f : ε → ε') (e : ε) :
    (.error e : Except ε α).mapError f = .error (f e) := rfl

theorem except_mapError_ok {ε ε' α : Type} (f : ε → ε') (a : α) :
    (.ok a : Except ε α).mapError f = .ok a := rfl

theorem except_mapError_eq_error {ε ε' α : Type} {x : Except ε α} {f : ε → ε'} {e : ε'} :
    x.mapError f = .error e ↔ ∃ e', x = .error e' ∧ f e' = e := by
  cases x <;> simp [except_mapError_error, except_mapError_ok]

theorem except_mapError_eq_ok {ε ε' α : Type} {x : Except ε α} {f : ε → ε'} {a : α} :
    x.mapError f = .ok a ↔ x = .ok a := by
  cases x <;> simp [except_mapError_error, except_mapError_ok]

/-- Why a run may not begin, in the order in which the reasons are looked for. -/
inductive Barred (o : Options) (m : Machine) : Failure → Prop
  | target {f : Failure} (unresolved : o.target m = .error f) : Barred o m f
  | preflight {pid : UInt32} {e : PreflightError} (target : o.target m = .ok pid)
      (failed : Preflight.check m o.object pid = .error e) : Barred o m (.preflight e)
  | settings {pid : UInt32} {e : SettingsError} (target : o.target m = .ok pid)
      (checked : Preflight.check m o.object pid = .ok ())
      (wrong : o.settings pid m.pageSize = .error e) : Barred o m (.settings e)
  | gateway {pid : UInt32} {s : Settings} {gateway : String} {e : GatewayError}
      (target : o.target m = .ok pid) (checked : Preflight.check m o.object pid = .ok ())
      (settings : o.settings pid m.pageSize = .ok s) (given : o.gateway = some gateway)
      (refused : Gateway.groupAddress gateway s.reportLabels = .error e) :
      Barred o m (.gateway e)

/-- A run cannot begin exactly if it is barred. -/
theorem barred_iff {o : Options} {m : Machine} {f : Failure} :
    Barred o m f ↔ o.plan m = .error f := by
  constructor
  · intro barred
    cases barred with
    | target unresolved => simp [Options.plan, unresolved, bind, Except.bind]
    | preflight target failed =>
      simp [Options.plan, target, failed, bind, Except.bind, except_mapError_error]
    | settings target checked wrong =>
      simp [Options.plan, target, checked, wrong, bind, Except.bind, except_mapError_error,
        except_mapError_ok]
    | gateway target checked settings given refused =>
      simp [Options.plan, target, checked, settings, given, refused, bind, Except.bind,
        except_mapError_error, except_mapError_ok, Functor.map, Except.map]
  · intro failed
    unfold Options.plan at failed
    obtain unresolved | ⟨pid, target, failed⟩ := except_bind_eq_error.mp failed
    · exact .target unresolved
    obtain refused | ⟨⟨⟩, checked, failed⟩ := except_bind_eq_error.mp failed
    · obtain ⟨e, cause, rfl⟩ := except_mapError_eq_error.mp refused
      exact .preflight target cause
    have checked := except_mapError_eq_ok.mp checked
    obtain refused | ⟨s, settings, failed⟩ := except_bind_eq_error.mp failed
    · obtain ⟨e, cause, rfl⟩ := except_mapError_eq_error.mp refused
      exact .settings target checked cause
    have settings := except_mapError_eq_ok.mp settings
    obtain refused | ⟨group, -, ended⟩ := except_bind_eq_error.mp failed
    · cases given : o.gateway with
      | none =>
        rw [given] at refused
        cases refused
      | some gateway =>
        rw [given, Option.mapM_some] at refused
        obtain refused | ⟨address, -, ended⟩ := except_bind_eq_error.mp refused
        · obtain ⟨e, cause, rfl⟩ := except_mapError_eq_error.mp refused
          exact .gateway target checked settings given cause
        · cases ended
    · cases ended

namespace Preflight

variable {m : Machine} {object : String} {pid : UInt32}

theorem checkUser_eq_ok : checkUser m = .ok () ↔ m.user = 0 := by simp [checkUser]

theorem checkUser_eq_error {e : PreflightError} :
    checkUser m = .error e ↔ m.user ≠ 0 ∧ e = .notPrivileged := by
  by_cases root : m.user = 0 <;> simp [checkUser, root, eq_comm]

theorem checkObject_eq_ok : checkObject m object = .ok () ↔ m.files.isFile object := by
  simp [checkObject]

theorem checkObject_eq_error {e : PreflightError} :
    checkObject m object = .error e ↔ m.files.isFile object = false ∧ e = .noObject object := by
  cases file : m.files.isFile object <;> simp [checkObject, file, eq_comm]

theorem checkProcess_eq_error {e : PreflightError} :
    checkProcess m pid = .error e ↔ m.exists_ pid = false ∧ e = .noProcess pid := by
  cases there : m.exists_ pid <;> simp [checkProcess, there, eq_comm]

/-- A release that is not the third word of the version is not read. -/
theorem checkKernel_of_told {kernel : String} (told : m.kernelVersion = some kernel) :
    checkKernel m = match (Text.words kernel.toList)[2]? with
      | none => .ok ()
      | some release => match parseRelease? release with
        | none => .ok ()
        | some version =>
          if isOlder version oldestKernel then
            .error (.kernelTooOld version.1 version.2 (String.ofList release))
          else .ok () := by
  have unread : parseRelease? "unknown".toList = none := by decide
  cases third : (Text.words kernel.toList)[2]? with
  | none => simp only [checkKernel, told, third, Option.getD_none, unread]
  | some release =>
    simp only [checkKernel, told, third, Option.getD_some]
    cases parseRelease? release <;> rfl

/-- What the kernel is refused for, unless it does not tell its version. -/
theorem checkKernel_eq_error {e : PreflightError} (other : e ≠ .noKernelVersion) :
    checkKernel m = .error e ↔ ∃ kernel release version, m.kernelVersion = some kernel ∧
      (Text.words kernel.toList)[2]? = some release ∧ parseRelease? release = some version ∧
      isOlder version oldestKernel ∧
      e = .kernelTooOld version.1 version.2 (String.ofList release) := by
  constructor
  · intro failed
    cases told : m.kernelVersion with
    | none =>
      simp only [checkKernel, told, Except.error.injEq] at failed
      exact absurd failed.symm other
    | some kernel =>
      rw [checkKernel_of_told told] at failed
      split at failed
      · cases failed
      · rename_i release third
        split at failed
        · cases failed
        · rename_i version read
          split at failed
          · rename_i old
            cases failed
            exact ⟨kernel, release, version, rfl, third, read, old, rfl⟩
          · cases failed
  · rintro ⟨kernel, release, version, told, third, read, old, rfl⟩
    simp only [checkKernel_of_told told, third, read, old, if_true]

end Preflight

namespace Refusal

variable {o : Options} {m : Machine} {f : Failure} {code : Nat}

theorem of_target (documented : f.documentedCode? = some code) (failed : o.target m = .error f) :
    Refusal o m f := by
  unfold Options.target at failed
  split at failed
  · cases failed
    cases documented
  · rename_i name named unnumbered
    obtain ⟨e, unfound, rfl⟩ := except_mapError_eq_error.mp failed
    unfold Lookup.find at unfound
    split at unfound
    · cases unfound
      cases documented
    · rename_i entries there
      unfold Lookup.single at unfound
      split at unfound
      · rename_i nobody
        cases unfound
        exact .nobody named unnumbered there nobody
      · cases unfound
      · rename_i anybody one
        cases unfound
        refine .several named unnumbered there ?_
        rcases found : Lookup.matching m entries name with _ | ⟨first, _ | ⟨second, rest⟩⟩
        · exact absurd found anybody
        · exact absurd found (one first.1 first.2)
        · simp
  · rename_i n unnamed number
    unfold Pid.ofInt at failed
    split at failed
    · cases failed
    · rename_i wrong
      cases failed
      exact .wrongNumber unnamed number (Int.not_lt.mp wrong)
  · rename_i unnamed unnumbered
    cases failed
    exact .noTarget unnamed unnumbered

theorem of_check {pid : UInt32} {e : PreflightError} (target : o.target m = .ok pid)
    (documented : (Failure.preflight e).documentedCode? = some code)
    (failed : Preflight.check m o.object pid = .error e) : Refusal o m (.preflight e) := by
  unfold Preflight.check at failed
  obtain refused | ⟨⟨⟩, user, failed⟩ := except_bind_eq_error.mp failed
  · obtain ⟨user, rfl⟩ := Preflight.checkUser_eq_error.mp refused
    exact .notPrivileged target user
  have root := Preflight.checkUser_eq_ok.mp user
  obtain refused | ⟨⟨⟩, kernel, failed⟩ := except_bind_eq_error.mp failed
  · have told : e ≠ .noKernelVersion := by
      rintro rfl
      cases documented
    obtain ⟨kernel, release, version, tells, third, read, old, rfl⟩ :=
      (Preflight.checkKernel_eq_error told).mp refused
    exact .tooOld target root tells third read old
  obtain refused | ⟨⟨⟩, object, failed⟩ := except_bind_eq_error.mp failed
  · obtain ⟨missing, rfl⟩ := Preflight.checkObject_eq_error.mp refused
    exact .noObject target root kernel missing
  obtain ⟨gone, rfl⟩ := Preflight.checkProcess_eq_error.mp failed
  exact .noProcess target root kernel (Preflight.checkObject_eq_ok.mp object) gone

/-- A run that cannot begin is refused. -/
theorem of_plan (documented : f.documentedCode? = some code) (failed : o.plan m = .error f) :
    Refusal o m f := by
  cases barred_iff.mpr failed with
  | target unresolved => exact of_target documented unresolved
  | preflight target cause => exact of_check target documented cause
  | settings target checked wrong => exact .wrongSettings target checked wrong
  | gateway => cases documented

/-- A refused run cannot begin. -/
theorem plan (refused : Refusal o m f) : o.plan m = .error f := by
  have of_target (h : o.target m = .error f) : o.plan m = .error f := barred_iff.mp (.target h)
  have of_check {pid : UInt32} {e : PreflightError} (target : o.target m = .ok pid)
      (h : Preflight.check m o.object pid = .error e) : o.plan m = .error (.preflight e) :=
    barred_iff.mp (.preflight target h)
  cases refused with
  | noTarget unnamed unnumbered =>
    exact of_target (by simp only [Options.target, unnamed, unnumbered])
  | wrongNumber unnamed number wrong =>
    refine of_target ?_
    simp only [Options.target, unnamed, number, Pid.ofInt, if_neg (Int.not_lt.mpr wrong)]
    rfl
  | nobody named unnumbered there nobody =>
    refine of_target ?_
    simp only [Options.target, named, unnumbered, Lookup.find, there, nobody, Lookup.single]
    rfl
  | @several name entries named unnumbered there more =>
    refine of_target ?_
    simp only [Options.target, named, unnumbered, Lookup.find, there]
    rcases found : Lookup.matching m entries name with _ | ⟨first, _ | ⟨second, rest⟩⟩
    · simp [found] at more
    · simp [found] at more
    · rfl
  | notPrivileged target user =>
    refine of_check target ?_
    simp only [Preflight.check, Preflight.checkUser_eq_error.mpr ⟨user, rfl⟩]
    rfl
  | tooOld target user told third read old =>
    refine of_check target ?_
    have kernel := (Preflight.checkKernel_eq_error (by simp)).mpr
      ⟨_, _, _, told, third, read, old, rfl⟩
    simp only [Preflight.check, Preflight.checkUser_eq_ok.mpr user, kernel]
    rfl
  | noObject target user kernel missing =>
    refine of_check target ?_
    simp only [Preflight.check, Preflight.checkUser_eq_ok.mpr user, kernel,
      Preflight.checkObject_eq_error.mpr ⟨missing, rfl⟩]
    rfl
  | noProcess target user kernel object gone =>
    refine of_check target ?_
    simp only [Preflight.check, Preflight.checkUser_eq_ok.mpr user, kernel,
      Preflight.checkObject_eq_ok.mpr object, Preflight.checkProcess_eq_error.mpr ⟨gone, rfl⟩]
    rfl
  | wrongSettings target checked wrong => exact barred_iff.mp (.settings target checked wrong)

end Refusal
end SyscallMeter
