import CiClient.Proofs.ClientAttempts
import CiClient.Proofs.FilterFields
import CiClient.Proofs.ResolvedDecision

/-!
# What authentication does to a request

`protect` assigns the fields of a credential and a decision, since each of its steps assigns its
own. Hence it is idempotent and absorbs `authorize` on either side, and two requests are
authenticated alike as far as fields are set at all. A field that is not set is not removed either:
an anonymous client sends the authorization that the request came with.
-/

set_option autoImplicit false

namespace CiClient

open Http (Dialogue Headers Method Network Request)
open Uri (Url)

/-- Two requests that agree in everything but the fields of some names. -/
structure Http.Request.AgreeOff (names : List String) (r₁ r₂ : Request) : Prop where
  method : r₁.method = r₂.method
  url : r₁.url = r₂.url
  body : r₁.body = r₂.body
  others : ∀ name, Headers.lower name ∉ names → r₁.headers.getAll name = r₂.headers.getAll name

/-- Setting fields of some names changes nothing in the others. -/
theorem Http.Request.agreeOff_withHeaders {names : List String} (r : Request)
    (fields : List (String × String)) (h : ∀ field ∈ fields, Headers.lower field.1 ∈ names) :
    Request.AgreeOff names r (r.withHeaders fields) where
  method := by rw [withHeaders_eq]
  url := by rw [withHeaders_eq]
  body := by rw [withHeaders_eq]
  others := by
    intro name hname
    rw [getAll_withHeaders_of_ne]
    intro field hfield heq
    exact hname (heq ▸ h field hfield)

namespace Filter

/-- The fields in which a request is authenticated. -/
def authenticationNames : List String := ["authorization", "jenkins-crumb", "cookie"]

/-- All fields that authentication sets. -/
def fieldsOf (c : Credential) (d : CrumbDecision) : List (String × String) :=
  authorizationFields c ++ crumbFields d

/-- Authentication sets the fields of the credential and of the decision, or fails on all requests
alike. -/
theorem assigns_protect (c : Credential) (d : CrumbDecision) :
    Assigns (protect c d) (fieldsOf c d) :=
  (assigns_authorize c).bind (assigns_withCrumb d)

/-! ## The value of each field -/

/-- What authentication gives a field, whatever the request holds. -/
def given? (c : Credential) (d : CrumbDecision) (name : String) : Option String :=
  match name with
  | "authorization" => c.authorization?
  | "jenkins-crumb" => d.crumb.value
  | "cookie" => d.crumb.value.bind fun _ => d.crumb.session
  | _ => none

section

variable {c : Credential} {d : CrumbDecision} {name value : String}

/-- Only the three fields of authentication are ever given a value. -/
theorem mem_authenticationNames_of_given? (h : given? c d name = some value) :
    name ∈ authenticationNames := by
  unfold given? at h
  split at h
  · decide
  · decide
  · decide
  · cases h

/-- The names of these fields are in lower case. -/
theorem lower_of_mem_authenticationNames (h : name ∈ authenticationNames) :
    Headers.lower name = name := by
  have key : ∀ name ∈ authenticationNames, Headers.lower name = name := by decide
  exact key name h

/-- The fields that authentication sets are those that are given a value, with this value. -/
theorem mem_fieldsOf_iff : (name, value) ∈ fieldsOf c d ↔ given? c d name = some value := by
  rw [fieldsOf, List.mem_append, mem_authorizationFields_iff, mem_crumbFields_iff]
  unfold given?
  split <;> simp_all

end

/-- No field is set twice. -/
theorem haveDistinctNames_fieldsOf (c : Credential) (d : CrumbDecision) :
    Request.HaveDistinctNames (fieldsOf c d) := by
  unfold fieldsOf authorizationFields crumbFields sessionFields
  cases c.authorization? <;> cases d.crumb.value <;> cases d.crumb.session <;>
    simp [Request.HaveDistinctNames] <;> decide

/-- A request and what authentication makes of it: only header fields differ, each one that is given
a value has this value alone, and each other one has the values that it had. -/
structure Protects (c : Credential) (d : CrumbDecision) (r r' : Request) : Prop where
  method : r'.method = r.method
  url : r'.url = r.url
  body : r'.body = r.body
  given : ∀ name value, given? c d (Headers.lower name) = some value →
    r'.headers.getAll name = [value]
  kept : ∀ name, given? c d (Headers.lower name) = none →
    r'.headers.getAll name = r.headers.getAll name

/-- Setting the fields of authentication is authenticating the request. -/
theorem protects_withHeaders (c : Credential) (d : CrumbDecision) (r : Request) :
    Protects c d r (r.withHeaders (fieldsOf c d)) where
  method := by rw [Request.withHeaders_eq]
  url := by rw [Request.withHeaders_eq]
  body := by rw [Request.withHeaders_eq]
  given := by
    intro name value hgiven
    have hlower := lower_of_mem_authenticationNames (mem_authenticationNames_of_given? hgiven)
    have hvalue := Request.getAll_withHeaders_of_mem r (haveDistinctNames_fieldsOf c d)
      (mem_fieldsOf_iff.mpr hgiven)
    rwa [Headers.getAll, hlower] at hvalue
  kept := by
    intro name hnone
    apply Request.getAll_withHeaders_of_ne
    intro field hfield heq
    have hgiven : given? c d field.1 = some field.2 := mem_fieldsOf_iff.mp hfield
    rw [heq, lower_of_mem_authenticationNames (mem_authenticationNames_of_given? hgiven),
      hgiven] at hnone
    cases hnone

variable {c : Credential} {d : CrumbDecision} {r r' r₁ r₂ : Request}

/-- What `protect` passes on is the authenticated request. -/
theorem protects_of_protect (h : protect c d r = .ok r') : Protects c d r r' := by
  have hok := (assigns_protect c d).eq_ok_of_eq_ok h r
  rw [h] at hok
  cases hok
  exact protects_withHeaders c d r

/-- A field that is given a value is the same in any two authenticated requests. -/
theorem Protects.getAll_eq_iff {r₁' r₂' : Request} (h₁ : Protects c d r₁ r₁')
    (h₂ : Protects c d r₂ r₂') (name : String) :
    r₁'.headers.getAll name = r₂'.headers.getAll name ↔
      (given? c d (Headers.lower name) = none →
        r₁.headers.getAll name = r₂.headers.getAll name) := by
  cases hgiven : given? c d (Headers.lower name) with
  | some value => simp [h₁.given name value hgiven, h₂.given name value hgiven]
  | none => simp [h₁.kept name hgiven, h₂.kept name hgiven]

/-! ## Two requests -/

/-- Authentication never takes over a value of a field that it sets. Of two requests that agree in
all but the three fields of authentication, either both are refused with one error, or both are
passed on. Then what they hold in each field that the credential or the decision gives a value is
this value and nothing else; a field that is given none is as it was. So the two agree in a field as
soon as it is given a value, or they agreed in it before. -/
theorem protect_sets_same_values (c : Credential) (d : CrumbDecision)
    (h : Request.AgreeOff authenticationNames r₁ r₂) :
    (∃ e, protect c d r₁ = .error e ∧ protect c d r₂ = .error e) ∨
    ∃ r₁' r₂', protect c d r₁ = .ok r₁' ∧ protect c d r₂ = .ok r₂' ∧
      Protects c d r₁ r₁' ∧ Protects c d r₂ r₂' ∧
      Request.AgreeOff authenticationNames r₁' r₂' ∧
      ∀ name, r₁'.headers.getAll name = r₂'.headers.getAll name ↔
        (given? c d (Headers.lower name) = none →
          r₁.headers.getAll name = r₂.headers.getAll name) := by
  rcases assigns_protect c d with ⟨e, herror⟩ | hok
  · exact Or.inl ⟨e, herror r₁, herror r₂⟩
  · right
    have h₁ := protects_withHeaders c d r₁
    have h₂ := protects_withHeaders c d r₂
    refine ⟨_, _, hok r₁, hok r₂, h₁, h₂, ?_, h₁.getAll_eq_iff h₂⟩
    constructor
    · rw [h₁.method, h₂.method, h.method]
    · rw [h₁.url, h₂.url, h.url]
    · rw [h₁.body, h₂.body, h.body]
    · intro name hname
      exact (h₁.getAll_eq_iff h₂ name).mpr fun _ => h.others name hname

/-- Two requests of a client with a token, one of them with fields of an earlier decision: what is
sent is the same. -/
theorem protect_sets_same_values_of_stale :
    ∃ (c : Credential) (d : CrumbDecision) (r₁ r₂ r₁' r₂' : Request), d.IsResolved ∧
      r₁.headers.getAll "cookie" ≠ r₂.headers.getAll "cookie" ∧
      protect c d r₁ = .ok r₁' ∧ protect c d r₂ = .ok r₂' ∧
      r₁'.headers.getAll "cookie" = ["JSESSIONID=x"] ∧
      r₂'.headers.getAll "cookie" = ["JSESSIONID=x"] := by
  have hagree : Request.AgreeOff authenticationNames
      ⟨.post, ⟨false, "", none, .domain "h", none, ["quietDown"], none, none⟩,
        ⟨[("cookie", "JSESSIONID=a"), ("accept", "*/*"), ("cookie", "JSESSIONID=b")]⟩, ""⟩
      ⟨.post, ⟨false, "", none, .domain "h", none, ["quietDown"], none, none⟩,
        ⟨[("accept", "*/*")]⟩, ""⟩ := by
    refine ⟨rfl, rfl, rfl, ?_⟩
    intro name hname
    have hne : "cookie" ≠ Headers.lower name := by
      rintro heq
      exact hname (heq ▸ by decide)
    simp [Headers.getAll, List.filter_cons, hne]
  rcases protect_sets_same_values ⟨.apiToken, ⟨"u", "dTp0"⟩⟩
      ⟨⟨some "abc", some "JSESSIONID=x", []⟩, true⟩ hagree with
    ⟨e, herror, -⟩ | ⟨r₁', r₂', h₁, h₂, hprotects₁, hprotects₂, -⟩
  · cases herror
  · refine ⟨_, _, _, _, r₁', r₂', CrumbDecision.isResolved_issued, by decide, h₁, h₂, ?_, ?_⟩
    · exact hprotects₁.given "cookie" "JSESSIONID=x" (by decide)
    · exact hprotects₂.given "cookie" "JSESSIONID=x" (by decide)

/-- Two requests differ in the fields of authentication alone, and authentication leaves a field of
one of them that the other does not have. -/
def KeepsApart (c : Credential) (d : CrumbDecision) (name : String) (r₁ r₂ : Request) : Prop :=
  Request.AgreeOff authenticationNames r₁ r₂ ∧
    ∃ r₁' r₂', protect c d r₁ = .ok r₁' ∧ protect c d r₂ = .ok r₂' ∧
      r₁'.headers.getAll name = [] ∧ r₂'.headers.getAll name ≠ []

/-- What is not set is not removed either. An anonymous client leaves the authorization that comes
of a name in the address of its server. Without a crumb the crumb that a request holds stays, and
with a crumb that has no session its cookie stays. -/
theorem unset_fields_survive :
    ∃ missing issued : CrumbDecision, missing.IsResolved ∧ issued.IsResolved ∧
      KeepsApart .anonymous missing "authorization"
        (.ofUrl .post ⟨false, "", none, .domain "h", none, ["quietDown"], none, none⟩)
        (.ofUrl .post ⟨false, "stale", none, .domain "h", none, ["quietDown"], none, none⟩) ∧
      KeepsApart .anonymous missing "jenkins-crumb"
        ⟨.post, ⟨false, "", none, .domain "h", none, ["quietDown"], none, none⟩, .empty, ""⟩
        ⟨.post, ⟨false, "", none, .domain "h", none, ["quietDown"], none, none⟩,
          ⟨[("jenkins-crumb", "old")]⟩, ""⟩ ∧
      KeepsApart ⟨.apiToken, ⟨"u", "dTp0"⟩⟩ issued "cookie"
        ⟨.post, ⟨false, "", none, .domain "h", none, ["quietDown"], none, none⟩, .empty, ""⟩
        ⟨.post, ⟨false, "", none, .domain "h", none, ["quietDown"], none, none⟩,
          ⟨[("cookie", "JSESSIONID=old")]⟩, ""⟩ := by
  have hmissing : ∃ d : CrumbDecision, d.IsResolved ∧ d.crumb.value = none ∧ d.required = false :=
    ⟨_, ⟨⟨"http://h", .anonymous, .standard⟩, .scripted [], [], rfl⟩, by decide, by decide⟩
  have hissued : CrumbDecision.IsResolved ⟨⟨some "abc", none, []⟩, true⟩ :=
    ⟨⟨"http://h", .anonymous, .standard⟩,
      .scripted [some ⟨⟨200⟩, .empty, some (Bytes.utf8 "Jenkins-Crumb:abc")⟩], [], by decide⟩
  obtain ⟨missing, hresolved, hvalue, hrequired⟩ := hmissing
  have hprotect : ∀ r, protect .anonymous missing r = .ok r := by
    intro r
    show withCrumb missing r = .ok r
    simp [withCrumb, hvalue, hrequired]
  refine ⟨missing, _, hresolved, hissued, ?_, ?_, ?_⟩
  · refine ⟨⟨by decide, by decide, by decide, ?_⟩, _, _, hprotect _, hprotect _, by decide,
      by decide⟩
    intro name hname
    have hne : Headers.lower name ≠ "authorization" := by
      intro heq
      exact hname (heq ▸ by decide)
    rw [Request.getAll_ofUrl_of_ne _ _ hne, Request.getAll_ofUrl_of_ne _ _ hne]
  · refine ⟨?_, _, _, hprotect _, hprotect _, by decide, by decide⟩
    exact Request.agreeOff_withHeaders _ [("jenkins-crumb", "old")] (by decide)
  · refine ⟨?_, _, _, rfl, rfl, by decide, by decide⟩
    exact Request.agreeOff_withHeaders _ [("cookie", "JSESSIONID=old")] (by decide)

/-! ## Filters again -/

section

variable (h : protect c d r = .ok r')

include h

/-- A decision that let one request through lets every request through. -/
theorem protect_eq_ok (other : Request) :
    protect c d other = .ok (other.withHeaders (fieldsOf c d)) :=
  (assigns_protect c d).eq_ok_of_eq_ok h other

/-- A credential that authenticated one request authorizes every request. -/
theorem authorize_eq_ok_of_protect (other : Request) :
    authorize c other = .ok (other.withHeaders (authorizationFields c)) := by
  obtain ⟨authorized, hauthorized, -⟩ := bind_eq_ok_iff.mp h
  exact (assigns_authorize c).eq_ok_of_eq_ok hauthorized other

/-- An authenticated request that is authenticated again stays as it is. -/
theorem protect_protect : protect c d r' = .ok r' := by
  have hr' : r.withHeaders (fieldsOf c d) = r' := by
    have hok := protect_eq_ok h r
    rw [h] at hok
    exact (Except.ok.inj hok).symm
  rw [protect_eq_ok h, ← hr',
    Request.withHeaders_withHeaders r (haveDistinctNames_fieldsOf c d) (List.Subset.refl _)]

/-- An authenticated request that is authorized again stays as it is. -/
theorem authorize_protect : authorize c r' = .ok r' := by
  have hgiven := (protects_of_protect h).given
  rw [authorize_eq_ok_of_protect h, Request.withHeaders_eq_self]
  intro field hfield
  have hmem : field ∈ fieldsOf c d := List.mem_append_left _ hfield
  have hvalue := mem_fieldsOf_iff.mp hmem
  apply hgiven
  rwa [lower_of_mem_authenticationNames (mem_authenticationNames_of_given? hvalue)]

/-- Authorizing a request beforehand does not change what authentication makes of it. -/
theorem protect_authorize : (authorize c r).bind (protect c d) = .ok r' := by
  have hdistinct : Request.HaveDistinctNames (authorizationFields c) :=
    (List.pairwise_append.mp (haveDistinctNames_fieldsOf c d)).1
  calc (authorize c r).bind (protect c d)
      = protect c d (r.withHeaders (authorizationFields c)) := by
        rw [authorize_eq_ok_of_protect h]
        rfl
    _ = .ok (((r.withHeaders (authorizationFields c)).withHeaders
          (authorizationFields c)).withHeaders (crumbFields d)) := by
        rw [protect_eq_ok h, fieldsOf, Request.withHeaders_append]
    _ = .ok (r.withHeaders (fieldsOf c d)) := by
        rw [Request.withHeaders_withHeaders r hdistinct (List.Subset.refl _), fieldsOf,
          Request.withHeaders_append]
    _ = .ok r' := by rw [← protect_eq_ok h r, h]

end

/-- What was authenticated may be authenticated again, in whole or in part, and nothing changes. It
makes no difference either whether a request had its authorization before. Each field that is set is
there exactly once, however often the request held it; the method, the address, the body and all
other fields are those of the request. -/
theorem protect_idempotent (hd : d.IsResolved) (h : protect c d r = .ok r') :
    protect c d r' = .ok r' ∧ authorize c r' = .ok r' ∧
    (authorize c r).bind (protect c d) = .ok r' ∧
    (c.isAnonymous = false → r'.headers.getAll "authorization" = ["Basic " ++ c.encoded]) ∧
    (∀ value, d.crumb.value = some value → r'.headers.getAll "jenkins-crumb" = [value]) ∧
    (∀ cookie, d.crumb.session = some cookie → r'.headers.getAll "cookie" = [cookie]) ∧
    r'.method = r.method ∧ r'.url = r.url ∧ r'.body = r.body ∧
    ∀ name, given? c d (Headers.lower name) = none →
      r'.headers.getAll name = r.headers.getAll name := by
  have hprotects := protects_of_protect h
  have hauthorization : Headers.lower "authorization" = "authorization" := by decide
  have hcrumb : Headers.lower "jenkins-crumb" = "jenkins-crumb" := by decide
  have hcookie : Headers.lower "cookie" = "cookie" := by decide
  refine ⟨protect_protect h, authorize_protect h, protect_authorize h, ?_, ?_, ?_,
    hprotects.method, hprotects.url, hprotects.body, hprotects.kept⟩
  · intro hanonymous
    apply hprotects.given
    rw [hauthorization]
    show c.authorization? = some ("Basic " ++ c.encoded)
    rw [Credential.authorization?_eq, hanonymous]
    rfl
  · intro value hvalue
    apply hprotects.given
    rw [hcrumb]
    exact hvalue
  · intro cookie hsession
    apply hprotects.given
    rw [hcookie]
    show (d.crumb.value.bind fun _ => d.crumb.session) = some cookie
    -- a resolved decision has a session only beside a value
    cases hvalue : d.crumb.value with
    | none =>
      rw [hd.isAnswer.session_eq_none hvalue] at hsession
      cases hsession
    | some value => exact hsession

/-- A request that held two authorizations and a foreign session has one of each when it is
authenticated, and keeps them when it is authenticated again. -/
theorem protect_idempotent_of_repeated :
    ∃ (c : Credential) (d : CrumbDecision) (r r' : Request), d.IsResolved ∧
      r.headers.getAll "authorization" = ["Basic a", "Basic b"] ∧ protect c d r = .ok r' ∧
      protect c d r' = .ok r' ∧ r'.headers.getAll "authorization" = ["Basic dTp0"] ∧
      r'.headers.getAll "cookie" = ["JSESSIONID=x"] ∧
      r'.headers.getAll "accept" = ["*/*", "text/html"] := by
  obtain ⟨r', hr'⟩ : ∃ r', protect ⟨.apiToken, ⟨"u", "dTp0"⟩⟩
      ⟨⟨some "abc", some "JSESSIONID=x", []⟩, true⟩
      ⟨.post, ⟨false, "", none, .domain "h", none, ["quietDown"], none, none⟩,
        ⟨[("authorization", "Basic a"), ("accept", "*/*"), ("authorization", "Basic b"),
          ("cookie", "JSESSIONID=b"), ("accept", "text/html")]⟩, ""⟩ = .ok r' := ⟨_, rfl⟩
  obtain ⟨hagain, -, -, hauthorization, -, hsession, -, -, -, hkept⟩ :=
    protect_idempotent CrumbDecision.isResolved_issued hr'
  refine ⟨_, _, _, r', CrumbDecision.isResolved_issued, by decide, hr', hagain,
    hauthorization rfl, hsession _ rfl, ?_⟩
  rw [hkept "accept" (by decide)]
  decide

end Filter

/-! ## Writes -/

/-- A write settles the decision on crumbs, and what it then sends is its request as `protect` makes
it. -/
theorem Client.write_eq_protect {c : Client} (hc : c.credential.login.IsIssued) {path : String}
    {url : Url} (hurl : Url.parse? (c.address path) = some url) (slot : Option CrumbDecision)
    (body : Client.Body) :
    c.write slot path body = do
      let d ← c.resolve slot
      match Filter.protect c.credential d (body.attach (Request.ofUrl .post url)) with
      | .ok request => return (← Client.exchange request, some d)
      | .error e => return (.error e, some d) := by
  rw [Client.write_eq hc hurl]
  refine congrArg (c.resolve slot >>= ·) (funext fun d => ?_)
  have hprotect : Filter.protect c.credential d (body.attach (Request.ofUrl .post url)) =
      Filter.withCrumb d (c.plainWrite body url) := by
    rw [Filter.protect, Filter.authorize_eq_ok hc]
    rfl
  rw [hprotect, Client.sendProtected]
  cases Filter.withCrumb d (c.plainWrite body url) with
  | ok request => rfl
  | error e => rfl

end CiClient
