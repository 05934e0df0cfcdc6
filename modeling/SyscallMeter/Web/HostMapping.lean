import SyscallMeter.Text.Composition
import SyscallMeter.Web.HostMapping.Table

/-! How characters count in host names: letters as their small ones, variants of a character as that
character, and some not at all. -/
namespace SyscallMeter.Web

/-- What a character of a host name stands for, if it may stand there. -/
def mapHostChar? (c : Char) : Option (List Char) :=
  if refusedInHosts.contains c then none
  else if ignoredInHosts.contains c then some []
  else match hostVariants.get? c with
    | some meant => some meant
    | none =>
      match hostLetters.find? c with
      | some run =>
        let place := c.toNat - run.first
        let (step, target) := run.value
        if place % step = 0 then some [Char.ofNat (target + place / step * step)] else some [c]
      | none => some [c]

/-- A host name in the form that is compared. -/
def mapHost? (name : List Char) : Option (List Char) := do
  let mapped ← name.mapM mapHostChar?
  return Text.composed mapped.flatten

end SyscallMeter.Web
