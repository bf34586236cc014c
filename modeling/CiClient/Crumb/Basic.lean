import CiClient.Failure

/-!
# Crumbs

A server may protect itself against forged requests by a crumb: a token that it issues and that
every write has to carry. The crumb belongs to a session, which a cookie names. A `CrumbDecision`
says whether writes need a crumb: not when the server has no issuer of crumbs, which it shows by not
finding it.
-/

set_option autoImplicit false

namespace CiClient

/-- A token for writes with its session, or why there is none. -/
structure Crumb where
  value : Option String
  session : Option String
  failures : List Failure
  deriving DecidableEq

namespace Crumb

/-- A crumb that was issued. -/
def of (value : String) (session : Option String) : Crumb := ⟨some value, session, []⟩

/-- A crumb that could not be had, with the reason. -/
def failed (failure : Failure) : Crumb := ⟨none, none, [failure]⟩

end Crumb

/-- A crumb, and whether writes need one. -/
structure CrumbDecision where
  crumb : Crumb
  required : Bool
  deriving DecidableEq

namespace CrumbDecision

/-- A crumb is needed unless the first failure is that there is no issuer. -/
def ofCrumb (crumb : Crumb) : CrumbDecision where
  crumb := crumb
  required :=
    match crumb.failures with
    | failure :: _ => !failure.isNotFound
    | [] => true

end CrumbDecision
end CiClient
