import CiClient.Client.Transfer
import CiClient.Proofs.ErrorSteps
import CiClient.Proofs.FilterFields
import CiClient.Proofs.SessionCookies

/-!
# Which decisions let writes through

A decision admits writes when it holds a crumb that may be sent, or when it holds none and none is
needed. Then `withCrumb` sets the two fields of the crumb and its session and nothing else. With any
other decision it ends in one error that depends on the decision alone, `refusal`.

A crumb that was asked for is a single failure, or a value of which the session is that of some
header fields: no third kind is ever held. So a missing crumb comes with exactly one failure and
without a session. That a session may be sent is not checked but known: it is a part of a field that
was readable.
-/

set_option autoImplicit false

namespace CiClient

open Http (Headers Request Response)

/-! ## Fetched crumbs -/

/-- What is known of a crumb that a server issued or failed to issue. -/
structure Crumb.IsFetched (crumb : Crumb) : Prop where
  isLegal_session : ∀ cookie, crumb.session = some cookie → Headers.isLegal cookie = true
  failure_of_missing : crumb.value = none → ∃ failure, crumb.failures = [failure]

namespace Crumb

/-- A failure is known to be one and has no session. -/
theorem isFetched_failed (failure : Failure) : (failed failure).IsFetched where
  isLegal_session := by simp [failed]
  failure_of_missing := fun _ => ⟨failure, rfl⟩

/-- A part of a cookie that may be read may be sent. -/
theorem isLegal_of_sessionOf {headers : Headers} {session : String}
    (h : sessionOf headers = some session) : Headers.isLegal session = true := by
  obtain ⟨-, cookie, -, part, -, -, ⟨hreadable, -⟩, hpart, rfl⟩ := sessionOf_eq_some_iff.mp h
  refine Headers.isLegal_of_subset (Headers.isLegal_of_isReadable hreadable) ?_
  intro ch hch
  rw [String.toList_ofList] at hch
  have hfront := Text.mem_of_mem_trimChars hch
  rw [isFront_iff.mp hpart] at hfront
  exact Text.mem_of_mem_trimChars ((List.takeWhile_sublist _).subset hfront)

/-- A crumb that was asked for: a failure, or a value with the session of some header fields. -/
inductive IsAnswer : Crumb → Prop where
  | failed (failure : Failure) : IsAnswer (failed failure)
  | issued (value : String) (headers : Headers) : IsAnswer (of value (sessionOf headers))

/-- What is made of a response is a crumb that was asked for. -/
theorem isAnswer_ofResponse (status : Http.Status) (headers : Headers) (body : String) :
    (ofResponse status headers body).IsAnswer := by
  unfold ofResponse
  split
  · cases valueOf? body with
    | some value => exact .issued value headers
    | none => exact .failed _
  · exact .failed _

variable {crumb : Crumb}

/-- Without a crumb there is no session. -/
theorem IsAnswer.session_eq_none (h : crumb.IsAnswer) (hvalue : crumb.value = none) :
    crumb.session = none := by
  cases h with
  | failed failure => rfl
  | issued value headers => cases hvalue

/-- Of a crumb that was asked for, it is known what a fetched crumb is known for. -/
theorem IsAnswer.isFetched (h : crumb.IsAnswer) : crumb.IsFetched := by
  cases h with
  | failed failure => exact isFetched_failed failure
  | issued value headers =>
    constructor
    · intro cookie hcookie
      exact isLegal_of_sessionOf hcookie
    · intro hvalue
      cases hvalue

end Crumb

/-- What is made of a reply, or of none, is a crumb that was asked for. -/
theorem Client.isAnswer_crumbOf (address : String) (url : Uri.Url) (reply : Option Http.Reply) :
    (crumbOf address url reply).IsAnswer := by
  cases reply with
  | none => exact .failed _
  | some reply =>
    rw [crumbOf]
    split
    · exact Crumb.isAnswer_ofResponse _ _ _
    · exact .failed _

/-! ## Admission -/

namespace CrumbDecision

/-- Whether a decision lets writes through. -/
def admits (d : CrumbDecision) : Bool :=
  match d.crumb.value with
  | some value => Headers.isLegal value
  | none => !d.required

/-- The error of all writes under a decision that does not. -/
def refusal (d : CrumbDecision) : ClientError :=
  match d.crumb.value with
  | some _ =>
    .misconfigured "Invalid Jenkins-Crumb header value: failed to parse header value"
  | none => .crumbUnresolved (Filter.missingReason d.crumb)

/-- The refusal tells why the crumb is missing, or that it may not be sent. -/
theorem refusal_of_isFetched {d : CrumbDecision} (h : d.crumb.IsFetched) :
    match d.crumb.value with
    | none => ∃ failure, d.crumb.failures = [failure] ∧
        d.refusal = .crumbUnresolved failure.message
    | some _ => d.refusal = .misconfigured
        "Invalid Jenkins-Crumb header value: failed to parse header value" := by
  unfold refusal
  cases hvalue : d.crumb.value with
  | none =>
    obtain ⟨failure, hfailure⟩ := h.failure_of_missing hvalue
    refine ⟨failure, hfailure, ?_⟩
    simp only [Filter.missingReason, hfailure]
  | some value => rfl

end CrumbDecision

namespace Filter

/-- The crumb and its session are added to the header fields, and all else stays. -/
theorem eq_of_withCrumb {d : CrumbDecision} {r r' : Request} (h : withCrumb d r = .ok r') :
    r' = { r with headers := r'.headers } := by
  have hok := (assigns_withCrumb d).eq_ok_of_eq_ok h r
  rw [h] at hok
  rw [Except.ok.inj hok]
  exact Request.withHeaders_eq r _

/-- A request with the crumb of a decision and its session. -/
def crumbed (d : CrumbDecision) (r : Request) : Request :=
  match d.crumb.value, d.crumb.session with
  | some value, some cookie => (r.withHeader "jenkins-crumb" value).withHeader "cookie" cookie
  | some value, none => r.withHeader "jenkins-crumb" value
  | none, _ => r

variable {d : CrumbDecision}

/-- A decision that admits writes has its crumb and its session added. -/
theorem withCrumb_of_admits (hfetched : d.crumb.IsFetched) (h : d.admits = true) (r : Request) :
    withCrumb d r = .ok (crumbed d r) := by
  unfold CrumbDecision.admits at h
  rw [withCrumb, crumbed]
  cases hvalue : d.crumb.value with
  | none =>
    rw [hvalue] at h
    simpa using h
  | some value =>
    rw [hvalue] at h
    cases hsession : d.crumb.session with
    | none => simp [setField, h, withSession, Except.bind]
    | some cookie =>
      simp [setField, h, withSession, Except.bind, hfetched.isLegal_session cookie hsession]

/-- Any other decision refuses every request alike. -/
theorem withCrumb_of_not_admits (h : d.admits = false) (r : Request) :
    withCrumb d r = .error d.refusal := by
  unfold CrumbDecision.admits at h
  rw [withCrumb, CrumbDecision.refusal]
  cases hvalue : d.crumb.value with
  | none =>
    rw [hvalue] at h
    simpa using h
  | some value =>
    rw [hvalue] at h
    simp only [setField, h]
    rfl

/-- Adding a crumb to a request sets the fields of the decision. -/
theorem crumbed_eq_withHeaders (d : CrumbDecision) (r : Request) :
    crumbed d r = r.withHeaders (crumbFields d) := by
  unfold crumbed crumbFields
  cases d.crumb.value with
  | none => rfl
  | some value => cases d.crumb.session <;> rfl

/-- Adding a crumb leaves the method and the address of a request alone. -/
theorem method_url_crumbed (d : CrumbDecision) (r : Request) :
    (crumbed d r).method = r.method ∧ (crumbed d r).url = r.url := by
  rw [crumbed_eq_withHeaders, Request.withHeaders_eq]
  exact ⟨rfl, rfl⟩

end Filter
end CiClient
