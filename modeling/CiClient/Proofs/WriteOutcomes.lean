import CiClient.Client.Call

/-!
# Three readings of one write

Writes report a verdict, a plain yes or no, or a place in the queue. All three read the same ending:
the server accepted the write, it was refused with a failure on record, or an error was raised. So
they stop at the same errors, and otherwise they agree on whether the write was accepted and on what
speaks against it.
-/

set_option autoImplicit false

namespace CiClient

open Http (Response Status)

/-- The place in the queue that a response names, or the failure that it names none. -/
theorem Ticket.ofHeaders_cases (headers : Http.Headers) :
    (∃ number, ofHeaders headers = .of number) ∨ ofHeaders headers = .refused noItem := by
  unfold ofHeaders
  split
  · exact .inl ⟨_, rfl⟩
  · exact .inr rfl

namespace WriteCall

/-- How a write ended. -/
inductive Ending where
  | accepted (response : Response)
  | refused (failure : Failure)
  | raised (e : ClientError)

/-- The ending of a write: one that got no response is refused. -/
def endingOf : Except ClientError Response → Ending
  | .ok response =>
    if response.status.isAccepted then .accepted response
    else .refused (.ofStatus response.status response.textOrEmpty)
  | .error (.network reason) => .refused (.transport reason)
  | .error e => .raised e

namespace Ending

/-- The ending as a verdict. -/
def verdict : Ending → Except ClientError Verdict
  | accepted _ => .ok .accepted
  | refused failure => .ok (.refused failure)
  | raised e => .error e

/-- The ending as a plain yes or no. -/
def success : Ending → Except ClientError Bool
  | accepted _ => .ok true
  | refused _ => .ok false
  | raised e => .error e

/-- The ending as a place in the queue. -/
def ticket : Ending → Except ClientError Ticket
  | accepted response => .ok (.ofHeaders response.headers)
  | refused failure => .ok (.refused failure)
  | raised e => .error e

variable {ending : Ending} {e : ClientError}

/-- There is no verdict exactly when an error was raised. -/
theorem verdict_eq_error_iff : ending.verdict = .error e ↔ ending = .raised e := by
  cases ending <;> simp [verdict]

/-- There is no plain answer exactly when an error was raised. -/
theorem success_eq_error_iff : ending.success = .error e ↔ ending = .raised e := by
  cases ending <;> simp [success]

/-- There is no ticket exactly when an error was raised. -/
theorem ticket_eq_error_iff : ending.ticket = .error e ↔ ending = .raised e := by
  cases ending <;> simp [ticket]

/-- A verdict tells the plain answer, and a no comes with the one failure that the ticket has. -/
theorem of_verdict_eq_ok {v : Verdict} (h : ending.verdict = .ok v) :
    ending.success = .ok v.value ∧ (v.value = true ↔ v.failures = []) ∧
      (v.value = false → ∃ failure, v.failures = [failure] ∧
        ending.ticket = .ok ⟨none, [failure]⟩) := by
  cases ending with
  | accepted response =>
    cases h
    exact ⟨rfl, iff_of_true rfl rfl, nofun⟩
  | refused failure =>
    cases h
    exact ⟨rfl, iff_of_false nofun nofun, fun _ => ⟨failure, rfl, rfl⟩⟩
  | raised e => cases h

/-- A ticket has a number, after an accepted write only, or one failure. -/
theorem of_ticket_eq_ok {t : Ticket} (h : ending.ticket = .ok t) :
    (∃ number, t = ⟨some number, []⟩ ∧ ending.verdict = .ok .accepted) ∨
      ∃ failure, t = ⟨none, [failure]⟩ := by
  cases ending with
  | accepted response =>
    cases h
    rcases Ticket.ofHeaders_cases response.headers with ⟨number, hnumber⟩ | hnone
    · exact .inl ⟨number, hnumber, rfl⟩
    · exact .inr ⟨_, hnone⟩
  | refused failure =>
    cases h
    exact .inr ⟨failure, rfl⟩
  | raised e => cases h

end Ending

/-! ## Each reading reads the ending -/

/-- The verdict is that of the ending. -/
theorem verdictOf_eq (r : Except ClientError Response) : verdictOf r = (endingOf r).verdict := by
  cases r with
  | ok response =>
    by_cases h : response.status.isAccepted = true
    · simp [verdictOf, Response.verdict, endingOf, Ending.verdict, h]
    · simp [verdictOf, Response.verdict, endingOf, Ending.verdict, h]
  | error e => cases e <;> rfl

/-- So is the plain answer. -/
theorem successOf_eq (r : Except ClientError Response) : successOf r = (endingOf r).success := by
  cases r with
  | ok response =>
    by_cases h : response.status.isAccepted = true
    · simp [successOf, Response.succeeded, endingOf, Ending.success, h]
    · simp [successOf, Response.succeeded, endingOf, Ending.success, h]
  | error e => cases e <;> rfl

/-- So is the ticket. -/
theorem ticketOf_eq (r : Except ClientError Response) : ticketOf r = (endingOf r).ticket := by
  cases r with
  | ok response =>
    by_cases h : response.status.isAccepted = true
    · simp [ticketOf, endingOf, Ending.ticket, h]
    · simp [ticketOf, endingOf, Ending.ticket, h]
  | error e => cases e <;> rfl

/-- Only an error that is not one of the network is raised. -/
theorem endingOf_eq_raised_iff {r : Except ClientError Response} {e : ClientError} :
    endingOf r = .raised e ↔ r = .error e ∧ ∀ reason, e ≠ .network reason := by
  cases r with
  | ok response =>
    by_cases h : response.status.isAccepted = true
    · simp [endingOf, h]
    · simp [endingOf, h]
  | error cause =>
    cases cause with
    | network reason =>
      refine iff_of_false nofun ?_
      rintro ⟨⟨⟩, hne⟩
      exact hne reason rfl
    | _ =>
      constructor
      · rintro ⟨⟩
        exact ⟨rfl, nofun⟩
      · rintro ⟨⟨⟩, -⟩
        rfl

/-- The readings of a write raise the same errors. On every other ending the plain answer is that of
the verdict, which has one failure on record exactly when it is a no; then the ticket carries that
failure too. A ticket has a number, which only an accepted write has, or a single failure. Taking an
item off the queue succeeds besides when the item is not found. -/
theorem readings_agree (r : Except ClientError Response) :
    (∀ e, verdictOf r = .error e ↔ r = .error e ∧ ∀ reason, e ≠ .network reason) ∧
    (∀ e, successOf r = .error e ↔ r = .error e ∧ ∀ reason, e ≠ .network reason) ∧
    (∀ e, ticketOf r = .error e ↔ r = .error e ∧ ∀ reason, e ≠ .network reason) ∧
    (∀ verdict, verdictOf r = .ok verdict →
      successOf r = .ok verdict.value ∧ (verdict.value = true ↔ verdict.failures = []) ∧
      (verdict.value = false → ∃ failure, verdict.failures = [failure] ∧
        ticketOf r = .ok ⟨none, [failure]⟩)) ∧
    (∀ ticket, ticketOf r = .ok ticket →
      (∃ number, ticket = ⟨some number, []⟩ ∧ verdictOf r = .ok .accepted) ∨
      ∃ failure, ticket = ⟨none, [failure]⟩) ∧
    (∀ response, r = .ok response → response.status.code = 404 →
      cancelVerdictOf r = .ok .accepted) ∧
    ((∀ response, r = .ok response → response.status.code ≠ 404) →
      cancelVerdictOf r = verdictOf r) := by
  simp only [verdictOf_eq, successOf_eq, ticketOf_eq, ← endingOf_eq_raised_iff]
  refine ⟨?_, ?_, ?_, ?_, ?_, ?_, ?_⟩
  · intro e
    exact Ending.verdict_eq_error_iff
  · intro e
    exact Ending.success_eq_error_iff
  · intro e
    exact Ending.ticket_eq_error_iff
  · intro verdict h
    exact Ending.of_verdict_eq_ok h
  · intro ticket h
    exact Ending.of_ticket_eq_ok h
  · rintro response rfl hcode
    have hmissing : response.status = .notFound := congrArg Status.mk hcode
    exact if_pos hmissing
  · intro hcode
    rw [← verdictOf_eq]
    cases r with
    | ok response =>
      have hfound : response.status ≠ .notFound := by
        intro heq
        exact hcode response rfl (congrArg Status.code heq)
      exact if_neg hfound
    | error e => rfl

/-- A server that finds a build under way; it names an item of the queue nonetheless. -/
def conflicting : Response :=
  ⟨⟨⟨409⟩, .ofList [("location", "/queue/item/5/")], some (Bytes.utf8 "busy")⟩,
    ⟨false, "", none, .domain "ci", none, [], none, none⟩⟩

/-- All three readings tell of the conflict, and none of the item. -/
theorem conflicting_readings_agree :
    verdictOf (.ok conflicting) = .ok (.refused (.of .conflict "HTTP 409 Conflict: busy")) ∧
      successOf (.ok conflicting) = .ok false ∧
      ticketOf (.ok conflicting) = .ok (.refused (.of .conflict "HTTP 409 Conflict: busy")) := by
  have hverdict : verdictOf (.ok conflicting) =
      .ok (.refused (.of .conflict "HTTP 409 Conflict: busy")) := by
    have hfailure : conflicting.verdict = .refused (.of .conflict "HTTP 409 Conflict: busy") := by
      decide
    exact congrArg Except.ok hfailure
  obtain ⟨-, -, -, hagree, -, -, -⟩ := readings_agree (.ok conflicting)
  obtain ⟨hsuccess, -, hticket⟩ := hagree _ hverdict
  obtain ⟨failure, hfailure, hticket⟩ := hticket rfl
  cases hfailure
  exact ⟨hverdict, hsuccess, hticket⟩

end WriteCall
end CiClient
