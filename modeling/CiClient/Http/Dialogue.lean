import CiClient.Http.Message

/-!
# Dialogues with a server

A dialogue is a plan that sends requests one after the other and may look at each reply before it
goes on. It is a tree and no run: `Dialogue.run` plays it against a network, whose server may answer
depending on all that was exchanged before. A request that the network does not carry leaves no
trace; all others are recorded in order.
-/

set_option autoImplicit false

namespace CiClient.Http

/-- A plan that sends requests and ends with a value. -/
inductive Dialogue (α : Type) where
  | done (value : α)
  /-- Send a request; a missing reply is a failure of the transport. -/
  | send (request : Request) (next : Option Reply → Dialogue α)
  /-- Wait for some milliseconds. -/
  | pause (delay : Nat) (next : Dialogue α)

namespace Dialogue

variable {α β : Type}

/-- Go on after the end of a dialogue. -/
def bind : Dialogue α → (α → Dialogue β) → Dialogue β
  | done value, f => f value
  | send request next, f => send request fun reply => (next reply).bind f
  | pause delay next, f => pause delay (next.bind f)

/-- One dialogue may go on with another that depends on its result. -/
instance : Monad Dialogue where
  pure := done
  bind := bind

/-- Wait for some milliseconds and end. -/
def wait (delay : Nat) : Dialogue Unit := pause delay (done ())

/-- Send a request and end with its reply as it arrives. -/
def exchange (request : Request) : Dialogue (Option Reply) :=
  send request.signed fun reply => done (reply.map (Reply.arrived request.method))

end Dialogue

/-- A request that was sent and what was answered. -/
structure Exchange where
  request : Request
  reply : Option Reply
  deriving DecidableEq

/-- What lies between a client and its server: which addresses can be reached, and what is answered
there. -/
structure Network where
  reaches : Uri.Url → Bool
  answer : List Exchange → Request → Option Reply

namespace Network

/-- The network of a server that gives one reply after the other, whatever it is asked, and in the
end finds nothing any more. It does not speak the secured scheme. -/
def scripted (replies : List (Option Reply)) : Network where
  reaches url := !url.secure
  answer history _ := (replies[history.length]?).getD (some (.bare .notFound))

/-- A network that carries nothing. -/
def severed (network : Network) : Network := { network with reaches := fun _ => false }

end Network

/-- Play a dialogue against a network after some exchanges. The result is the value at the end and
all exchanges so far. -/
def Dialogue.run {α : Type} (network : Network) :
    List Exchange → Dialogue α → α × List Exchange
  | history, .done value => (value, history)
  | history, .pause _ next => next.run network history
  | history, .send request next =>
    if network.reaches request.url then
      let reply := network.answer history request
      (next reply).run network (history ++ [⟨request, reply⟩])
    else (next none).run network history

end CiClient.Http
