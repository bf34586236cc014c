import CiClient.Http.Dialogue

/-!
# What a dialogue tries to send

The exchanges of a run leave out every request that the network does not carry. `attempts` holds all
requests in order, each with what came back, so it can tell one try from many even when none of
them arrives. `run_snd_eq` ties it to the run: the exchanges are the attempts that were carried.

Dialogues are continued by `bind`; `run_bind` and `attempts_bind` say that the second part is played
with the result of the first, after the exchanges of the first.
-/

set_option autoImplicit false

namespace CiClient.Http

namespace Network

/-- What comes back of a request after some exchanges. -/
def reply (network : Network) (history : List Exchange) (request : Request) : Option Reply :=
  if network.reaches request.url then network.answer history request else none

/-- The exchanges after one more request; a request that is not carried leaves no trace. -/
def record (network : Network) (history : List Exchange) (request : Request) : List Exchange :=
  if network.reaches request.url then history ++ [⟨request, network.answer history request⟩]
  else history

end Network

namespace Dialogue

variable {α β : Type} (network : Network) (history : List Exchange)

/-- All requests that a dialogue sends when it is played, carried or not, each with what came
back. -/
def attempts : List Exchange → Dialogue α → List Exchange
  | _, .done _ => []
  | history, .pause _ next => attempts history next
  | history, .send request next =>
    ⟨request, network.reply history request⟩ ::
      attempts (network.record history request) (next (network.reply history request))

/-- A dialogue that is over tries to send nothing. -/
@[simp] theorem attempts_done (a : α) : (done a).attempts network history = [] := rfl

/-- A mere result tries to send nothing. -/
@[simp] theorem attempts_pure (a : α) :
    (pure a : Dialogue α).attempts network history = [] := rfl

/-- A pause tries to send nothing. -/
@[simp] theorem attempts_pause (delay : Nat) (next : Dialogue α) :
    (pause delay next).attempts network history = next.attempts network history := rfl

/-- A request is tried first, and then what follows on its reply. -/
@[simp] theorem attempts_send (request : Request) (next : Option Reply → Dialogue α) :
    (send request next).attempts network history =
      ⟨request, network.reply history request⟩ ::
        (next (network.reply history request)).attempts network
          (network.record history request) := rfl

/-- A dialogue that is over ends with its result. -/
@[simp] theorem run_done (a : α) : (done a).run network history = (a, history) := by
  rw [run]

/-- A mere result leaves the history alone. -/
@[simp] theorem run_pure (a : α) : (pure a : Dialogue α).run network history = (a, history) :=
  run_done network history a

/-- A pause leaves the history alone. -/
@[simp] theorem run_pause (delay : Nat) (next : Dialogue α) :
    (pause delay next).run network history = next.run network history := by
  rw [run]

/-- A request is answered and recorded, and its reply decides how it goes on. -/
@[simp] theorem run_send (request : Request) (next : Option Reply → Dialogue α) :
    (send request next).run network history =
      (next (network.reply history request)).run network (network.record history request) := by
  rw [run]
  simp only [Network.reply, Network.record]
  split <;> rfl

/-- The second part of a dialogue is played after the first, with its result. -/
@[simp] theorem run_bind (d : Dialogue α) (f : α → Dialogue β) :
    (d >>= f).run network history =
      (f (d.run network history).1).run network (d.run network history).2 := by
  change (d.bind f).run network history = _
  induction d generalizing history with
  | done a => simp [Dialogue.bind]
  | send request next ih => simp [Dialogue.bind, ih]
  | pause delay next ih => simp [Dialogue.bind, ih]

/-- The attempts of the first part come before those of the second. -/
@[simp] theorem attempts_bind (d : Dialogue α) (f : α → Dialogue β) :
    (d >>= f).attempts network history =
      d.attempts network history ++
        (f (d.run network history).1).attempts network (d.run network history).2 := by
  change (d.bind f).attempts network history = _
  induction d generalizing history with
  | done a => simp [Dialogue.bind]
  | send request next ih => simp [Dialogue.bind, ih]
  | pause delay next ih => simp [Dialogue.bind, ih]

/-- The exchanges of a run are those before it and the attempts that were carried. -/
theorem run_snd_eq (d : Dialogue α) :
    (d.run network history).2 =
      history ++ (d.attempts network history).filter (network.reaches ·.request.url) := by
  induction d generalizing history with
  | done a => simp
  | pause delay next ih => simp [ih]
  | send request next ih =>
    rw [run_send, ih, attempts_send]
    by_cases h : network.reaches request.url = true
    · simp [Network.record, Network.reply, h]
    · simp [Network.record, h]

end Dialogue
end CiClient.Http
