import Mathlib.Data.List.Induction
import CiClient.Client.Session
import CiClient.Proofs.DialogueAttempts

/-!
# What has happened after some calls

A run is a list of steps. What a later call can depend on is all in them: the exchanges so far and
the decision that the last step reports. `run_append_singleton` says so, and it is the step from
which facts about whole runs are proved: a run with one more call is the run without it and then
that call, made after these exchanges and with this decision.

`attemptsOf` holds the requests that a call tries to send when it is made after others, and
`resultOf` what it ends with. `exists_of_mem_run` says that the steps of a run hold nothing else.
-/

set_option autoImplicit false

namespace CiClient.Client

open Http (Exchange Network)

/-- The exchanges of some steps, in order. -/
def exchangesOf (steps : List Step) : List Exchange := steps.flatMap Step.exchanges

/-- The decision on crumbs that the last step reports; before the first step, another one. -/
def lastDecision (slot : Option CrumbDecision) (steps : List Step) : Option CrumbDecision :=
  match steps.getLast? with
  | some step => step.decision
  | none => slot

/-- The exchanges of a new client with its server when it has made some calls. -/
def historyAfter (c : Client) (network : Network) (calls : List Call) : List Exchange :=
  exchangesOf (c.run network calls)

/-- The decision on crumbs that a new client holds when it has made some calls. -/
def decisionAfter (c : Client) (network : Network) (calls : List Call) : Option CrumbDecision :=
  lastDecision none (c.run network calls)

/-- The requests that a call tries to send after other calls. -/
def attemptsOf (c : Client) (network : Network) (before : List Call) (call : Call) :
    List Exchange :=
  (c.perform (c.decisionAfter network before) call).attempts network
    (c.historyAfter network before)

/-- The result of a call that is made after other calls. -/
def resultOf (c : Client) (network : Network) (before : List Call) (call : Call) :
    Except ClientError call.Result :=
  ((c.perform (c.decisionAfter network before) call).run network
    (c.historyAfter network before)).1.1

/-- The step that a call makes after some exchanges and with a decision. -/
def stepFrom (c : Client) (network : Network) (history : List Exchange)
    (slot : Option CrumbDecision) (call : Call) : Step where
  call := call
  result := ((c.perform slot call).run network history).1.1
  exchanges :=
    ((c.perform slot call).attempts network history).filter (network.reaches ·.request.url)
  decision := ((c.perform slot call).run network history).1.2

/-- Without steps there are no exchanges. -/
@[simp] theorem exchangesOf_nil : exchangesOf [] = [] := rfl

/-- The exchanges of the first step come first. -/
@[simp] theorem exchangesOf_cons (step : Step) (steps : List Step) :
    exchangesOf (step :: steps) = step.exchanges ++ exchangesOf steps := rfl

/-- Without steps the decision is the one from before. -/
@[simp] theorem lastDecision_nil (slot : Option CrumbDecision) : lastDecision slot [] = slot := rfl

/-- After a step the decision from before no longer counts. -/
@[simp] theorem lastDecision_cons (slot : Option CrumbDecision) (step : Step)
    (steps : List Step) :
    lastDecision slot (step :: steps) = lastDecision step.decision steps := by
  cases steps with
  | nil => rfl
  | cons next steps => simp [lastDecision, List.getLast?_cons]

section

variable (c : Client) (network : Network)

/-- A run makes the first step, and the rest of it starts where that step ends. -/
theorem runFrom_cons (history : List Exchange) (slot : Option CrumbDecision) (call : Call)
    (calls : List Call) :
    c.runFrom network history slot (call :: calls) =
      c.stepFrom network history slot call ::
        c.runFrom network (history ++ (c.stepFrom network history slot call).exchanges)
          (c.stepFrom network history slot call).decision calls := by
  simp only [runFrom, stepFrom, ← Http.Dialogue.run_snd_eq]
  congr 2
  rw [Http.Dialogue.run_snd_eq, List.drop_left]

/-- The steps of further calls are those of a run that begins where the first ones end. -/
theorem runFrom_append (history : List Exchange) (slot : Option CrumbDecision)
    (before after : List Call) :
    c.runFrom network history slot (before ++ after) =
      c.runFrom network history slot before ++
        c.runFrom network (history ++ exchangesOf (c.runFrom network history slot before))
          (lastDecision slot (c.runFrom network history slot before)) after := by
  induction before generalizing history slot with
  | nil => simp [runFrom]
  | cons call before ih =>
    rw [List.cons_append, runFrom_cons, runFrom_cons, ih]
    simp

/-- A run with one more call is the run without it and the step of that call. -/
theorem run_append_singleton (before : List Call) (call : Call) :
    c.run network (before ++ [call]) =
      c.run network before ++
        [c.stepFrom network (c.historyAfter network before) (c.decisionAfter network before)
          call] := by
  rw [run, runFrom_append, runFrom_cons]
  simp [run, runFrom, historyAfter, decisionAfter]

/-- A new client has no decision. -/
@[simp] theorem decisionAfter_nil : c.decisionAfter network [] = none := rfl

/-- A new client has exchanged nothing. -/
@[simp] theorem historyAfter_nil : c.historyAfter network [] = [] := rfl

/-- The decision after one more call is the one that this call ends with. -/
theorem decisionAfter_append_singleton (before : List Call) (call : Call) :
    c.decisionAfter network (before ++ [call]) =
      ((c.perform (c.decisionAfter network before) call).run network
        (c.historyAfter network before)).1.2 := by
  rw [decisionAfter, run_append_singleton, lastDecision, List.getLast?_concat]
  rfl

/-- Every step of a run is made by one of its calls. It has the result of that call after the calls
before it, the attempts of the call that were carried, and the decision after the call. -/
theorem exists_of_mem_run {calls : List Call} {step : Step} (h : step ∈ c.run network calls) :
    ∃ before call after, calls = before ++ call :: after ∧
      step = ⟨call, c.resultOf network before call,
        (c.attemptsOf network before call).filter (network.reaches ·.request.url),
        c.decisionAfter network (before ++ [call])⟩ := by
  induction calls using List.reverseRecOn with
  | nil => cases h
  | append_singleton calls last ih =>
    rw [run_append_singleton, List.mem_append, List.mem_singleton] at h
    rcases h with h | rfl
    · obtain ⟨before, call, after, rfl, hstep⟩ := ih h
      exact ⟨before, call, after ++ [last], by simp, hstep⟩
    · refine ⟨calls, last, [], rfl, ?_⟩
      rw [decisionAfter_append_singleton]
      rfl

end

end CiClient.Client
