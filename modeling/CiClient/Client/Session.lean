import CiClient.Client.Call

/-!
# Sessions

A client makes calls one after the other. What it remembers between them is the decision on crumbs
alone, and only writes make or use it. `Client.run` plays a list of calls against a network.
-/

set_option autoImplicit false

namespace CiClient

open Http (Dialogue Exchange Network)

namespace Client

/-- Make a call. Ends with the result and with the decision on crumbs that holds from now on. -/
def perform (c : Client) (slot : Option CrumbDecision) :
    (call : Call) → Dialogue (Except ClientError call.Result × Option CrumbDecision)
  | .read call => do
    let response ← c.read call.method (call.path c.credential.identity)
    return (call.outcome response, slot)
  | .write call => do
    let (response, slot) ← c.write slot call.path call.body
    return (call.outcome response, slot)
  | .crumb => do
    let crumb ← c.fetchCrumb
    return (.ok crumb, slot)

/-- A call that was made, with its result, the exchanges it took, and the decision on crumbs after
it. -/
structure Step where
  call : Call
  result : Except ClientError call.Result
  exchanges : List Exchange
  decision : Option CrumbDecision

/-- Make calls one after the other, after some exchanges and perhaps with a decision on crumbs. -/
def runFrom (c : Client) (network : Network) :
    List Exchange → Option CrumbDecision → List Call → List Step
  | _, _, [] => []
  | history, slot, call :: calls =>
    let ((result, slot), after) := (c.perform slot call).run network history
    ⟨call, result, after.drop history.length, slot⟩ :: c.runFrom network after slot calls

/-- Make calls one after the other with a new client. -/
def run (c : Client) (network : Network) (calls : List Call) : List Step :=
  c.runFrom network [] none calls

end Client
end CiClient
