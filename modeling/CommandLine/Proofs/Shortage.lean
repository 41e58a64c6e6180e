import CommandLine.Proofs.Fallible
import CommandLine.Fault

/-!
# Shortages

A shortage is a fault for want of something that has to be supplied from outside: a converter or an
interceptor. `Supplied` computations have no shortage; a computation in steps is supplied when its
steps are.
-/

namespace CommandLine

/-- The fault is for want of a converter or an interceptor. -/
def Fault.isShortage : Fault → Bool
  | conversion (.noConverter ..) | unresolvedInterceptor .. => true
  | _ => false

/-- The computation does not fail for a shortage. -/
def Supplied {α : Type} (x : Except Fault α) : Prop :=
  ∀ fault, x = .error fault → fault.isShortage = false

namespace Supplied

variable {α β : Type}

theorem ok (a : α) : Supplied (.ok a) := Except.FailsOnly.ok a

theorem error {fault : Fault} (h : fault.isShortage = false) :
    Supplied (.error fault : Except Fault α) := Except.FailsOnly.error h

theorem map {x : Except Fault α} (hx : Supplied x) (f : α → β) : Supplied (x.map f) :=
  Except.FailsOnly.map hx f

end Supplied

end CommandLine
