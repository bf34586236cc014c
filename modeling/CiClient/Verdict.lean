import CiClient.Failure

/-!
# Outcomes of writes

A write that the server refuses is no error: its outcome says so and carries the failure. A
`Verdict` is a plain yes or no, a `Ticket` a number that the server hands out.
-/

set_option autoImplicit false

namespace CiClient

/-- Whether a write was carried out, and what was recorded against it. -/
structure Verdict where
  value : Bool
  failures : List Failure
  deriving DecidableEq

namespace Verdict

/-- The write was carried out. -/
def accepted : Verdict := ⟨true, []⟩

/-- The write was not carried out, for this reason. -/
def refused (failure : Failure) : Verdict := ⟨false, [failure]⟩

/-- No answer yet, and nothing recorded. -/
def unset : Verdict := ⟨false, []⟩

end Verdict

/-- A number that the server handed out, or why there is none. -/
structure Ticket where
  value : Option Int64
  failures : List Failure
  deriving DecidableEq

namespace Ticket

/-- The number that was handed out. -/
def of (value : Int64) : Ticket := ⟨some value, []⟩

/-- No number was handed out, for this reason. -/
def refused (failure : Failure) : Ticket := ⟨none, [failure]⟩

/-- No answer yet, and nothing recorded. -/
def unset : Ticket := ⟨none, []⟩

end Ticket
end CiClient
