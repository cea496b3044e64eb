/-! Failures that come from outside. -/

set_option autoImplicit false

namespace Netboot

structure Failure where
  kind : String
  text : String
  system : Bool
  deriving DecidableEq, Repr

inductive Ending where
  | returned
  | cancelled
  | failed (failure : Failure)
  deriving DecidableEq, Repr

def Ending.failure? : Ending → Option Failure
  | .failed failure => some failure
  | _ => none

end Netboot
