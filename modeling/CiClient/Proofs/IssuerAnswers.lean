import CiClient.Proofs.ClientAttempts
import CiClient.Proofs.ResolvedDecision

/-!
# What the answer of the issuer decides

Asking the issuer of crumbs comes to a response or to nothing. Its text grants a crumb, its status
waives crumbs altogether, and everything else withholds one: the three kinds of decisions.
`fetchCrumb_cases` says once what a fetch may come to, and `follows_firstDecision` that the kind of
the decision is the one that the answer calls for.

The words for a crumb that is missing for no recorded reason are never used, as every failure of a
fetch is recorded with a message of its own.
-/

set_option autoImplicit false

namespace CiClient

open Http (Dialogue Exchange Headers Network Reply Request Status)

/-! ## Answers -/

/-- What asking the issuer came to. Nothing, if no request could be made, no response arrived, or
the content of a response broke off. -/
inductive IssuerAnswer where
  | nothing
  | response (status : Status) (headers : Headers) (body : String)
  deriving DecidableEq

namespace IssuerAnswer

/-- What a reply, or none, amounts to; content that broke off amounts to nothing. -/
def ofReply : Option Reply → IssuerAnswer
  | some ⟨status, headers, some bytes⟩ => response status headers (Bytes.ofUtf8Lossy bytes)
  | _ => nothing

/-- A response was accepted, and its trimmed text holds a value after the first colon. -/
def Issues (a : IssuerAnswer) (value : String) : Prop :=
  ∃ status headers body field rest, a = response status headers body ∧
    200 ≤ status.code ∧ status.code < 400 ∧
    Text.trimChars body.toList = field ++ ':' :: rest ∧ ':' ∉ field ∧
    (∃ ch ∈ rest, Text.isBlank ch = false) ∧ value = Text.trim (String.ofList rest)

/-- There is no issuer. -/
def IsNotFound (a : IssuerAnswer) : Prop :=
  ∃ status headers body, a = response status headers body ∧ status.code = 404

/-- Nothing issues no crumb. -/
theorem not_issues_nothing (value : String) : ¬ nothing.Issues value := by
  rintro ⟨_, _, _, _, _, ⟨⟩, -⟩

/-- Nothing does not say that there is no issuer. -/
theorem not_isNotFound_nothing : ¬ nothing.IsNotFound := by
  rintro ⟨_, _, _, ⟨⟩, -⟩

variable {a : IssuerAnswer} {value other : String}

/-- An answer that issues a crumb does not say that there is no issuer. -/
theorem Issues.not_isNotFound (h : a.Issues value) : ¬ a.IsNotFound := by
  obtain ⟨status, headers, body, field, rest, rfl, hlow, hhigh, -⟩ := h
  rintro ⟨_, _, _, ⟨⟩, hcode⟩
  omega

/-- An answer issues one crumb at most. -/
theorem Issues.value_unique (h : a.Issues value) (hother : a.Issues other) : value = other := by
  obtain ⟨status, headers, body, field, rest, rfl, -, -, htext, hfield, -, rfl⟩ := h
  obtain ⟨_, _, _, field', rest', ⟨⟩, -, -, htext', hfield', -, rfl⟩ := hother
  have hsplit := Text.splitOnce_append rest hfield
  rw [← htext, htext', Text.splitOnce_append rest' hfield'] at hsplit
  cases hsplit
  rfl

/-- A crumb that is issued is not empty. -/
theorem Issues.ne_empty (h : a.Issues value) : value ≠ "" := by
  obtain ⟨status, headers, body, field, rest, -, -, -, -, -, hrest, rfl⟩ := h
  rw [Text.trim, ne_eq, String.ofList_eq_empty_iff, String.toList_ofList]
  exact Text.trimChars_ne_nil_iff.mpr hrest

end IssuerAnswer

/-! ## Decisions -/

namespace CrumbDecision

/-- Writes carry a crumb. -/
structure Grants (d : CrumbDecision) (value : String) : Prop where
  value : d.crumb.value = some value
  failures : d.crumb.failures = []
  required : d.required = true

/-- Writes go without a crumb. -/
structure Waives (d : CrumbDecision) : Prop where
  value : d.crumb.value = none
  session : d.crumb.session = none
  failure : ∃ failure, d.crumb.failures = [failure] ∧ failure.kind = .notFound
  required : d.required = false

/-- Writes would have to carry a crumb, and there is none. -/
structure Withholds (d : CrumbDecision) : Prop where
  value : d.crumb.value = none
  session : d.crumb.session = none
  failure : ∃ failure, d.crumb.failures = [failure] ∧ failure.kind ≠ .notFound
  required : d.required = true

section

variable {d : CrumbDecision} {value other : String}

/-- A decision grants one crumb at most. -/
theorem Grants.value_unique (h : d.Grants value) (hother : d.Grants other) : value = other :=
  Option.some.inj (h.value.symm.trans hother.value)

/-- A decision that grants a crumb does not waive it. -/
theorem Grants.not_waives (h : d.Grants value) : ¬ d.Waives := by
  intro hwaives
  cases h.value.symm.trans hwaives.value

/-- A decision that grants a crumb does not withhold it. -/
theorem Grants.not_withholds (h : d.Grants value) : ¬ d.Withholds := by
  intro hwithholds
  cases h.value.symm.trans hwithholds.value

/-- A decision that waives crumbs does not withhold them. -/
theorem Waives.not_withholds (h : d.Waives) : ¬ d.Withholds := by
  intro hwithholds
  cases h.required.symm.trans hwithholds.required

end

/-- A crumb that was issued is granted. -/
theorem grants_ofCrumb_of (value : String) (session : Option String) :
    (ofCrumb (.of value session)).Grants value :=
  ⟨rfl, rfl, rfl⟩

/-- Crumbs are waived if the issuer was not found. -/
theorem waives_ofCrumb_failed {failure : Failure} (h : failure.kind = .notFound) :
    (ofCrumb (.failed failure)).Waives :=
  ⟨rfl, rfl, ⟨failure, rfl, h⟩, by simp [ofCrumb, Crumb.failed, Failure.isNotFound, h]⟩

/-- Crumbs are withheld after any other failure. -/
theorem withholds_ofCrumb_failed {failure : Failure} (h : failure.kind ≠ .notFound) :
    (ofCrumb (.failed failure)).Withholds :=
  ⟨rfl, rfl, ⟨failure, rfl, h⟩, by simp [ofCrumb, Crumb.failed, Failure.isNotFound, h]⟩

end CrumbDecision

/-- The status 404 alone says that something was not found. -/
theorem FailureKind.ofStatus_eq_notFound_iff {status : Status} :
    ofStatus status = .notFound ↔ status.code = 404 := by
  unfold ofStatus
  split
  · exact iff_of_true rfl ‹_›
  · exact iff_of_false nofun (by omega)
  · exact iff_of_false nofun (by omega)
  · exact iff_of_false nofun (by omega)
  · rename_i h404 _ _ _
    refine iff_of_false ?_ h404
    split <;> exact nofun

/-! ## The crumb in a response -/

namespace Crumb

/-- The crumb is what follows the first colon of the trimmed text, trimmed again and not blank. -/
theorem valueOf?_eq_some_iff {body value : String} :
    valueOf? body = some value ↔
      ∃ field rest, Text.trimChars body.toList = field ++ ':' :: rest ∧ ':' ∉ field ∧
        (∃ ch ∈ rest, Text.isBlank ch = false) ∧ value = Text.trim (String.ofList rest) := by
  simp only [valueOf?, Option.bind_eq_some_iff, Prod.exists, Text.nonBlank?_eq_some_iff,
    String.toList_ofList]
  constructor
  · rintro ⟨field, rest, hsplit, hrest, hvalue⟩
    obtain ⟨htext, hfield⟩ := Text.splitOnce_eq_some hsplit
    exact ⟨field, rest, htext, hfield, hrest, hvalue⟩
  · rintro ⟨field, rest, htext, hfield, hrest, hvalue⟩
    rw [htext]
    exact ⟨field, rest, Text.splitOnce_append rest hfield, hrest, hvalue⟩

/-- White space around the field and around the value does not matter. -/
theorem valueOf?_padded {front field value back : String}
    (hfront : ∀ ch ∈ front.toList, Text.isBlank ch = true) (hfield : ':' ∉ field.toList)
    (hvalue : ∃ ch ∈ value.toList, Text.isBlank ch = false)
    (hback : ∀ ch ∈ back.toList, Text.isBlank ch = true) :
    valueOf? (front ++ (field ++ ":" ++ value) ++ back) = some (Text.trim value) := by
  have htext : (front ++ (field ++ ":" ++ value) ++ back).toList =
      (front.toList ++ field.toList) ++ ':' :: (value.toList ++ back.toList) := by
    simp [String.toList_append]
  have hsplit : Text.trimChars (front ++ (field ++ ":" ++ value) ++ back).toList =
      (front.toList ++ field.toList).dropWhile Text.isBlank ++
        ':' :: Text.dropEndWhile Text.isBlank value.toList := by
    rw [htext, Text.trimChars_append_cons (by decide), Text.dropEndWhile_append_of_forall hback]
  refine valueOf?_eq_some_iff.mpr ⟨_, _, hsplit, ?_, ?_, ?_⟩
  · intro hmem
    rcases List.mem_append.mp ((List.dropWhile_sublist _).subset hmem) with h | h
    · exact absurd (hfront ':' h) (by decide)
    · exact hfield h
  · rw [← Text.trimChars_ne_nil_iff, Text.trimChars_dropEndWhile]
    exact Text.trimChars_ne_nil_iff.mpr hvalue
  · rw [Text.trim, Text.trim, String.toList_ofList, Text.trimChars_dropEndWhile]

/-- The words for a crumb that is missing for no recorded reason. -/
def noReason : String := Filter.missingReason ⟨none, none, []⟩

/-- No failure of a response has the words for a crumb that is missing for no reason. -/
theorem message_ne_noReason_ofResponse {status : Status} {headers : Headers} {body : String} :
    ∀ failure ∈ (ofResponse status headers body).failures, failure.message ≠ noReason := by
  intro failure hfailure
  unfold ofResponse at hfailure
  split at hfailure
  · split at hfailure
    · cases hfailure
    · cases List.mem_singleton.mp hfailure
      exact Text.append_ne_of_head?_ne (by decide) (by decide) _
  · cases List.mem_singleton.mp hfailure
    show Failure.statusMessage status body ≠ noReason
    unfold Failure.statusMessage
    dsimp only
    split
    · exact Text.append_ne_of_head?_ne (by decide) (by decide) _
    · rw [String.append_assoc, String.append_assoc]
      exact Text.append_ne_of_head?_ne (by decide) (by decide) _

end Crumb

/-- No error of the client has the words for a crumb that is missing for no reason. -/
theorem ClientError.message_ne_noReason (e : ClientError) : e.message ≠ Crumb.noReason := by
  unfold message
  split <;> exact Text.append_ne_of_head?_ne (by decide) (by decide) _

/-! ## Decisions that follow answers -/

/-- A response issues the crumb in its text if its status is accepted. -/
theorem IssuerAnswer.issues_response_iff {status : Status} {headers : Headers}
    {body value : String} :
    (IssuerAnswer.response status headers body).Issues value ↔
      status.isAccepted = true ∧ Crumb.valueOf? body = some value := by
  rw [Status.isAccepted_iff, Crumb.valueOf?_eq_some_iff]
  constructor
  · rintro ⟨_, _, _, field, rest, ⟨⟩, hlow, hhigh, hvalue⟩
    exact ⟨⟨hlow, hhigh⟩, field, rest, hvalue⟩
  · rintro ⟨⟨hlow, hhigh⟩, field, rest, hvalue⟩
    exact ⟨status, headers, body, field, rest, rfl, hlow, hhigh, hvalue⟩

/-- A decision of the kind that an answer calls for. -/
inductive CrumbDecision.Follows (d : CrumbDecision) (a : IssuerAnswer) : Prop where
  | granted {value : String} (hanswer : a.Issues value) (hd : d.Grants value)
  | waived (hanswer : a.IsNotFound) (hd : d.Waives)
  | withheld (hissues : ∀ value, ¬ a.Issues value) (hfound : ¬ a.IsNotFound) (hd : d.Withholds)

namespace CrumbDecision

/-- The decision that a response leads to follows it. -/
theorem follows_ofResponse (status : Status) (headers : Headers) (body : String) :
    (ofCrumb (.ofResponse status headers body)).Follows (.response status headers body) := by
  unfold Crumb.ofResponse
  split
  · rename_i haccepted
    have hcode := (Status.isAccepted_iff _).mp haccepted
    cases hvalue : Crumb.valueOf? body with
    | some value =>
      exact .granted (IssuerAnswer.issues_response_iff.mpr ⟨haccepted, hvalue⟩)
        (grants_ofCrumb_of _ _)
    | none =>
      refine .withheld ?_ ?_ (withholds_ofCrumb_failed nofun)
      · intro value hissues
        have := (IssuerAnswer.issues_response_iff.mp hissues).2
        simp [hvalue] at this
      · rintro ⟨_, _, _, ⟨⟩, hfound⟩
        omega
  · rename_i hrefused
    have hissues : ∀ value, ¬ (IssuerAnswer.response status headers body).Issues value :=
      fun value h => hrefused (IssuerAnswer.issues_response_iff.mp h).1
    by_cases hcode : status.code = 404
    · exact .waived ⟨_, _, _, rfl, hcode⟩
        (waives_ofCrumb_failed (FailureKind.ofStatus_eq_notFound_iff.mpr hcode))
    · refine .withheld hissues ?_
        (withholds_ofCrumb_failed (mt FailureKind.ofStatus_eq_notFound_iff.mp hcode))
      rintro ⟨_, _, _, ⟨⟩, hfound⟩
      exact hcode hfound

variable {d : CrumbDecision} {a : IssuerAnswer}

/-- A decision that follows an answer grants exactly the crumb that the answer issues. -/
theorem Follows.grants_iff (h : d.Follows a) (value : String) :
    d.Grants value ↔ a.Issues value := by
  cases h with
  | granted hanswer hd =>
    constructor
    · intro hgrants
      rwa [hgrants.value_unique hd]
    · intro hissues
      rwa [hissues.value_unique hanswer]
  | waived hanswer hd =>
    exact iff_of_false (fun h => h.not_waives hd) (fun h => h.not_isNotFound hanswer)
  | withheld hissues hfound hd =>
    exact iff_of_false (fun h => h.not_withholds hd) (hissues value)

/-- A decision that follows an answer waives crumbs exactly when there is no issuer. -/
theorem Follows.waives_iff (h : d.Follows a) : d.Waives ↔ a.IsNotFound := by
  cases h with
  | granted hanswer hd => exact iff_of_false hd.not_waives hanswer.not_isNotFound
  | waived hanswer hd => exact iff_of_true hd hanswer
  | withheld hissues hfound hd => exact iff_of_false (fun h => h.not_withholds hd) hfound

/-- A decision that follows an answer withholds crumbs in all other cases. -/
theorem Follows.withholds_iff (h : d.Follows a) :
    d.Withholds ↔ (∀ value, ¬ a.Issues value) ∧ ¬ a.IsNotFound := by
  cases h with
  | granted hanswer hd => exact iff_of_false hd.not_withholds fun h => h.1 _ hanswer
  | waived hanswer hd => exact iff_of_false hd.not_withholds fun h => h.2 hanswer
  | withheld hissues hfound hd => exact iff_of_true hd ⟨hissues, hfound⟩

end CrumbDecision

/-! ## Asking the issuer -/

namespace Client

/-- What asking the issuer comes to after some exchanges. -/
def issuerAnswer (c : Client) (network : Network) (history : List Exchange) : IssuerAnswer :=
  .ofReply (((c.fetchCrumb.attempts network history).head?.bind Exchange.reply).map
    (Reply.arrived .get))

/-- The decision that a client without one makes after some exchanges. -/
def firstDecision (c : Client) (network : Network) (history : List Exchange) : CrumbDecision :=
  ((c.resolve none).run network history).1

/-- What a failure to reach the issuer may not look like. -/
def IsUnanswered (failure : Failure) : Prop :=
  failure.kind ≠ .notFound ∧ failure.message ≠ Crumb.noReason

/-- An error of the client counts as no answer. -/
theorem isUnanswered_of_message (e : ClientError) : IsUnanswered (.of .other e.message) :=
  ⟨nofun, e.message_ne_noReason⟩

/-- A response that could not be read counts as no answer. -/
theorem isUnanswered_transport (reason : String) :
    IsUnanswered (.transport ("Failed to read crumb response: " ++ reason)) :=
  ⟨nofun, Text.append_ne_of_head?_ne (by decide) (by decide) _⟩

/-- A request that could not be sent counts as no answer. -/
theorem isUnanswered_within (address reason : String) :
    IsUnanswered ((Failure.transport ("Failed to fetch crumb: " ++ reason)).within address) := by
  refine ⟨nofun, ?_⟩
  exact Text.append_ne_of_head?_ne (by decide) (by decide) reason

/-- A crumb is a failure for want of an answer, or what its response makes of it. -/
theorem crumbOf_cases (address : String) (url : Uri.Url) (reply : Option Reply) :
    (∃ failure, IsUnanswered failure ∧ IssuerAnswer.ofReply reply = .nothing ∧
      crumbOf address url reply = .failed failure) ∨
    ∃ status headers body, IssuerAnswer.ofReply reply = .response status headers body ∧
      crumbOf address url reply = .ofResponse status headers body := by
  cases reply with
  | none => exact Or.inl ⟨_, isUnanswered_within address _, rfl, rfl⟩
  | some reply =>
    obtain ⟨status, headers, content⟩ := reply
    cases content with
    | none => exact Or.inl ⟨_, isUnanswered_transport _, rfl, rfl⟩
    | some bytes => exact Or.inr ⟨status, headers, _, rfl, rfl⟩

/-- A fetch comes to nothing and a failure, or to a response and the crumb in it. -/
theorem fetchCrumb_cases (c : Client) (network : Network) (history : List Exchange) :
    (∃ failure, IsUnanswered failure ∧ c.issuerAnswer network history = .nothing ∧
      (c.fetchCrumb.run network history).1 = .failed failure) ∨
    ∃ status headers body, c.issuerAnswer network history = .response status headers body ∧
      (c.fetchCrumb.run network history).1 = .ofResponse status headers body := by
  rw [issuerAnswer, fetchCrumb]
  cases Uri.Url.parse? (c.address crumbPath) with
  | none => exact Or.inl ⟨.transport "builder error", ⟨by decide, by decide⟩, rfl, rfl⟩
  | some url =>
    dsimp only
    cases hrequest : Filter.authorize c.credential (Request.ofUrl .get url) with
    | error e => exact Or.inl ⟨_, isUnanswered_of_message e, rfl, rfl⟩
    | ok request =>
      by_cases hsend : request.url.isSendable = true
      · have hmethod : request.method = .get := by
          have hok := (Filter.assigns_authorize c.credential).eq_ok_of_eq_ok hrequest
            (Request.ofUrl .get url)
          rw [hrequest] at hok
          rw [Except.ok.inj hok, Request.withHeaders_eq]
          exact Request.method_ofUrl _ _
        simp only [hsend, if_true, Dialogue.attempts_bind, Dialogue.run_bind, Dialogue.exchange,
          Dialogue.attempts_send, Dialogue.run_send, Dialogue.attempts_done, Dialogue.run_done,
          Dialogue.run_pure, List.cons_append, List.head?_cons, Option.bind_some, hmethod]
        exact crumbOf_cases _ _ _
      · simp only [hsend]
        exact Or.inl ⟨_, isUnanswered_within _ _, rfl, rfl⟩

/-- The first decision of a client follows the answer of the issuer. -/
theorem follows_firstDecision (c : Client) (network : Network) (history : List Exchange) :
    (c.firstDecision network history).Follows (c.issuerAnswer network history) := by
  rw [firstDecision, resolve, Dialogue.run_bind, Dialogue.run_pure]
  rcases c.fetchCrumb_cases network history with
    ⟨failure, hfailure, hanswer, hcrumb⟩ | ⟨status, headers, body, hanswer, hcrumb⟩
  · rw [hanswer, hcrumb]
    exact .withheld IssuerAnswer.not_issues_nothing IssuerAnswer.not_isNotFound_nothing
      (CrumbDecision.withholds_ofCrumb_failed hfailure.1)
  · rw [hanswer, hcrumb]
    exact CrumbDecision.follows_ofResponse status headers body

/-- The first decision holds the crumb that was fetched. -/
theorem crumb_firstDecision (c : Client) (network : Network) (history : List Exchange) :
    (c.firstDecision network history).crumb = (c.fetchCrumb.run network history).1 := by
  rw [firstDecision, resolve, Dialogue.run_bind, Dialogue.run_pure]
  rfl

/-- A crumb is only missing for a recorded reason, in words of its own. -/
theorem message_ne_noReason_of_mem (c : Client) (network : Network) (history : List Exchange) :
    ∀ failure ∈ (c.firstDecision network history).crumb.failures,
      failure.message ≠ Crumb.noReason := by
  rw [crumb_firstDecision]
  rcases c.fetchCrumb_cases network history with
    ⟨failure, hfailure, -, hcrumb⟩ | ⟨status, headers, body, -, hcrumb⟩
  · rw [hcrumb]
    intro other hother
    cases List.mem_singleton.mp hother
    exact hfailure.2
  · rw [hcrumb]
    exact Crumb.message_ne_noReason_ofResponse

/-- No write is refused with the words for a crumb that is missing for no reason. -/
theorem withCrumb_ne_noReason (c : Client) (network : Network) (history : List Exchange)
    (r : Request) :
    Filter.withCrumb (c.firstDecision network history) r ≠
      .error (.crumbUnresolved Crumb.noReason) := by
  have hmessage := c.message_ne_noReason_of_mem network history
  have hfetched : (c.firstDecision network history).crumb.IsFetched := by
    rw [crumb_firstDecision]
    exact (c.isAnswer_fetchCrumb network history).isFetched
  generalize c.firstDecision network history = d at hmessage hfetched
  cases hadmits : d.admits with
  | true =>
    rw [Filter.withCrumb_of_admits hfetched hadmits]
    exact nofun
  | false =>
    rw [Filter.withCrumb_of_not_admits hadmits]
    have hrefusal := CrumbDecision.refusal_of_isFetched hfetched
    cases hvalue : d.crumb.value with
    | some value =>
      simp only [hvalue] at hrefusal
      simp [hrefusal]
    | none =>
      simp only [hvalue] at hrefusal
      obtain ⟨failure, hfailures, hrefusal⟩ := hrefusal
      rw [hrefusal]
      intro h
      injection h with h
      injection h with h
      exact hmessage failure (by simp [hfailures]) h

/-- Every outcome of asking the issuer gives a decision of exactly one kind. Crumbs are waived only
when there is no issuer, a session only comes with a crumb, a crumb is never missing for no recorded
reason, and white space around the field and the crumb does not matter. -/
theorem decision_of_answer (c : Client) (network : Network) (history : List Exchange) :
    let d := c.firstDecision network history
    let answer := c.issuerAnswer network history
    (∀ value, d.Grants value ↔ answer.Issues value) ∧
    (∀ value, answer.Issues value → value ≠ "") ∧
    (d.Waives ↔ answer.IsNotFound) ∧
    (d.Withholds ↔ (∀ value, ¬ answer.Issues value) ∧ ¬ answer.IsNotFound) ∧
    (∀ value, answer.Issues value → ¬ answer.IsNotFound) ∧
    (d.required = false → answer.IsNotFound) ∧
    (∀ cookie, d.crumb.session = some cookie → ∃ value, d.Grants value) ∧
    (∀ r, Filter.withCrumb d r ≠
      .error (.crumbUnresolved "crumb issuer returned no value")) ∧
    ∀ status headers front field value back,
      answer = .response status headers (front ++ (field ++ ":" ++ value) ++ back) →
      200 ≤ status.code → status.code < 400 →
      (∀ ch ∈ front.toList, Text.isBlank ch = true) →
      (∀ ch ∈ back.toList, Text.isBlank ch = true) →
      ':' ∉ field.toList → (∃ ch ∈ value.toList, Text.isBlank ch = false) →
      d.Grants (Text.trim value) := by
  intro d answer
  have hfollows : d.Follows answer := c.follows_firstDecision network history
  refine ⟨hfollows.grants_iff, fun value h => h.ne_empty, hfollows.waives_iff,
    hfollows.withholds_iff, fun value h => h.not_isNotFound, ?_, ?_,
    c.withCrumb_ne_noReason network history, ?_⟩
  · intro hrequired
    cases hfollows with
    | granted hanswer hd => cases hrequired.symm.trans hd.required
    | waived hanswer hd => exact hanswer
    | withheld hissues hfound hd => cases hrequired.symm.trans hd.required
  · intro cookie hcookie
    cases hfollows with
    | @granted value hanswer hd => exact ⟨value, hd⟩
    | waived hanswer hd => simp [hd.session] at hcookie
    | withheld hissues hfound hd => simp [hd.session] at hcookie
  · intro status headers front field value back hanswer hlow hhigh hfront hback hfield hvalue
    rw [hfollows.grants_iff, hanswer, IssuerAnswer.issues_response_iff, Status.isAccepted_iff]
    exact ⟨⟨hlow, hhigh⟩, Crumb.valueOf?_padded hfront hfield hvalue hback⟩

/-- A padded crumb with a colon in it, no issuer, and no connection. -/
theorem decision_of_answer_of_scripts :
    let c : Client := ⟨"http://h", .anonymous, .standard⟩
    let issuer : Network := .scripted [some ⟨⟨200⟩, .empty,
      some (Bytes.utf8 "\n Jenkins-Crumb: a:b \t")⟩]
    (c.firstDecision issuer []).Grants "a:b" ∧
      (c.firstDecision (.scripted []) []).Waives ∧
      (c.firstDecision issuer.severed []).Withholds := by
  intro c issuer
  refine ⟨?_, ?_, ?_⟩
  · obtain ⟨-, -, -, -, -, -, -, -, hpadded⟩ := c.decision_of_answer issuer []
    have hfront : ∀ ch ∈ "\n ".toList, Text.isBlank ch = true := List.all_eq_true.mp (by decide)
    have hback : ∀ ch ∈ " \t".toList, Text.isBlank ch = true := List.all_eq_true.mp (by decide)
    exact hpadded ⟨200⟩ .empty "\n " "Jenkins-Crumb" " a:b" " \t" (by decide) (by decide)
      (by decide) hfront hback (by decide) ⟨'a', by decide, by decide⟩
  · obtain ⟨-, -, hwaives, -⟩ := c.decision_of_answer (.scripted []) []
    exact hwaives.mpr ⟨⟨404⟩, .empty, "", by decide, rfl⟩
  · obtain ⟨-, -, -, hwithholds, -⟩ := c.decision_of_answer issuer.severed []
    have hanswer : c.issuerAnswer issuer.severed [] = .nothing := by decide
    rw [hwithholds, hanswer]
    exact ⟨IssuerAnswer.not_issues_nothing, IssuerAnswer.not_isNotFound_nothing⟩

end Client
end CiClient
