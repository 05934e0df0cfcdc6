import SyscallMeter.Octets
import SyscallMeter.Operation

/-! Where events go. Room for an event is reserved before anything is read of the caller; the
window that this gives is written once and then committed, or discarded. -/
namespace SyscallMeter

/-- A destination with states `σ` and open windows `ω`. -/
structure Transport (σ ω : Type) where
  /-- Room for one event, unless the transport is saturated. Never waits. -/
  reserve? : Operation → σ → Option (ω × σ)
  write : ω → Octets → σ → ω × σ
  commit : ω → σ → σ
  discard : ω → σ → σ

/-- The transport that is always saturated. -/
def Transport.refusing : Transport Unit Empty where
  reserve? _ _ := none
  write w _ _ := nomatch w
  commit w _ := nomatch w
  discard w _ := nomatch w

end SyscallMeter
