import CiClient.Client.Session
import CiClient.Proofs.BuiltClient
import CiClient.Proofs.DialogueAttempts

/-!
# What reads, writes and the fetch of a crumb try to send

One lemma for each dialogue of a client says which requests it tries to send. A read only sends its
plain request, which has no field but the authorization; the fetch of a crumb sends the plain
request to the issuer once. A write first settles the decision on crumbs, and then sends at most one
request, which is a write.

All of this is stated for a client whose login is issued. Otherwise the authorization could be
refused, and then nothing would be sent at all.
-/

set_option autoImplicit false

namespace CiClient

open Http (Dialogue Exchange Headers Method Network Request Response)

namespace Http.Request

/-! ## Requests to an address -/

/-- A new request has the method that it is made with. -/
@[simp] theorem method_ofUrl (method : Method) (url : Uri.Url) :
    (ofUrl method url).method = method := by
  unfold ofUrl
  split <;> rfl

/-- The name and the password of an address become the authorization, and no other field is set. -/
theorem getAll_ofUrl_of_ne (method : Method) (url : Uri.Url) {name : String}
    (hne : Headers.lower name ≠ "authorization") :
    (ofUrl method url).headers.getAll name = [] := by
  have hname : Headers.lower "authorization" = "authorization" := by decide
  unfold ofUrl
  split
  · rfl
  · simp [Headers.getAll, Headers.ofList, hname, Ne.symm hne]

end Http.Request

namespace Client

/-- The request of a read to an address. -/
def plainRequest (c : Client) (method : Method) (url : Uri.Url) : Request :=
  Filter.authorized c.credential (Request.ofUrl method url)

/-- The request of a write to an address, before the crumb is added. -/
def plainWrite (c : Client) (body : Body) (url : Uri.Url) : Request :=
  Filter.authorized c.credential (body.attach (Request.ofUrl .post url))

/-- No request can be made to a text that is no address. -/
def unreadableAddress : ClientError := .misconfigured "builder error"

/-- A body leaves the method of a request alone. -/
@[simp] theorem method_attach (body : Body) (r : Request) : (body.attach r).method = r.method := by
  cases body <;> rfl

/-- A body leaves the address of a request alone. -/
@[simp] theorem url_attach (body : Body) (r : Request) : (body.attach r).url = r.url := by
  cases body <;> rfl

/-- The plain request has the method and the address that it is made of. -/
theorem method_url_plainRequest (c : Client) (method : Method) (url : Uri.Url) :
    (c.plainRequest method url).method = method ∧
      (c.plainRequest method url).url = (Request.ofUrl method url).url := by
  rw [plainRequest, Filter.method_authorized, Filter.url_authorized, Request.method_ofUrl]
  exact ⟨rfl, rfl⟩

/-- A write without a crumb has the method of writes and the address that it is made of. -/
theorem method_url_plainWrite (c : Client) (body : Body) (url : Uri.Url) :
    (c.plainWrite body url).method = .post ∧
      (c.plainWrite body url).url = (Request.ofUrl .post url).url := by
  rw [plainWrite, Filter.method_authorized, Filter.url_authorized, method_attach, url_attach,
    Request.method_ofUrl]
  exact ⟨rfl, rfl⟩

/-- The request of a read holds the authorization, and no crumb or session. -/
theorem getAll_signed_plainRequest (c : Client) (method : Method) (url : Uri.Url) {name : String}
    (hauth : Headers.lower name ≠ "authorization") (hagent : Headers.lower name ≠ "user-agent") :
    (c.plainRequest method url).signed.headers.getAll name = [] := by
  have hauth' : Headers.lower "authorization" = "authorization" := by decide
  have hagent' : Headers.lower "user-agent" = "user-agent" := by decide
  rw [Request.signed, Request.withHeader, Headers.getAll_insert_of_ne _ (by rwa [hagent']),
    plainRequest, Filter.getAll_authorized_of_ne _ _ (by rwa [hauth']),
    Request.getAll_ofUrl_of_ne _ _ hauth]

section

variable (network : Network) (history : List Exchange)

/-- A request is tried once, if one can be made to its address. -/
theorem attempts_exchange (request : Request) :
    (exchange request).attempts network history =
      if request.url.isSendable then [⟨request.signed, network.reply history request.signed⟩]
      else [] := by
  unfold exchange
  split
  · simp only [Dialogue.attempts_bind, Dialogue.exchange, Dialogue.attempts_send,
      Dialogue.attempts_done, Dialogue.run_send, Dialogue.run_done, List.cons_append,
      List.nil_append]
    split <;> rfl
  · rfl

end

/-! ## Reads -/

variable {c : Client}

/-- One attempt at a read is an exchange of its plain request, if the address can be read. -/
theorem readOnce_eq (hc : c.credential.login.IsIssued) (method : Method) (path : String) :
    c.readOnce method path =
      match Uri.Url.parse? (c.address path) with
      | some url => exchange (c.plainRequest method url)
      | none => .done (.error unreadableAddress) := by
  rw [readOnce, Request.build]
  cases Uri.Url.parse? (c.address path) with
  | none => rfl
  | some url => simp [Except.bind, Filter.authorize_eq_ok hc, plainRequest]

/-- Whatever one run of an operation tries to send, its repetitions under a policy try too. -/
theorem exists_of_mem_attempts_retryFrom {α : Type} (p : RetryPolicy)
    (operation : Dialogue (Except ClientError α)) (network : Network) {e : Exchange} :
    ∀ (more delay : Nat) (history : List Exchange),
      e ∈ (p.retryFrom Dialogue.wait operation more delay).attempts network history →
        ∃ history, e ∈ operation.attempts network history := by
  intro more
  induction more with
  | zero =>
    intro delay history h
    exact ⟨history, h⟩
  | succ more ih =>
    intro delay history h
    rw [RetryPolicy.retryFrom, Dialogue.attempts_bind, List.mem_append] at h
    rcases h with h | h
    · exact ⟨history, h⟩
    · split at h
      · cases h
      · split at h
        · rw [Dialogue.attempts_bind, List.mem_append] at h
          rcases h with h | h
          · cases h
          · exact ih _ _ h
        · cases h

/-- A read tries to send nothing but its plain request. -/
theorem exists_of_mem_attempts_read (hc : c.credential.login.IsIssued) {method : Method}
    {path : String} {network : Network} {history : List Exchange} {e : Exchange}
    (h : e ∈ (c.read method path).attempts network history) :
    ∃ url, Uri.Url.parse? (c.address path) = some url ∧
      e.request = (c.plainRequest method url).signed := by
  obtain ⟨history, h⟩ := exists_of_mem_attempts_retryFrom c.policy _ network _ _ _ h
  rw [readOnce_eq hc] at h
  cases hurl : Uri.Url.parse? (c.address path) with
  | none =>
    rw [hurl] at h
    cases h
  | some url =>
    rw [hurl] at h
    simp only [attempts_exchange] at h
    split at h
    · rw [List.mem_singleton] at h
      exact ⟨url, rfl, by rw [h]⟩
    · cases h

/-! ## The crumb -/

/-- The address of the request to the issuer. -/
def issuerUrl (url : Uri.Url) : Uri.Url := (Request.ofUrl .get url).url

/-- The crumb is fetched by the plain request to the issuer, if one can be made. -/
theorem fetchCrumb_eq (hc : c.credential.login.IsIssued) :
    c.fetchCrumb =
      match Uri.Url.parse? (c.address crumbPath) with
      | none => .done (.failed (.transport "builder error"))
      | some url =>
        if (issuerUrl url).isSendable then do
          let reply ← Dialogue.exchange (c.plainRequest .get url)
          return crumbOf (c.address crumbPath) (issuerUrl url) reply
        else .done (unfetched (c.address crumbPath) (Request.unsendable (issuerUrl url))) := by
  rw [fetchCrumb]
  cases Uri.Url.parse? (c.address crumbPath) with
  | none => rfl
  | some url =>
    simp only [Filter.authorize_eq_ok hc, Filter.url_authorized]
    rfl

section

variable (network : Network) (history : List Exchange) {url : Uri.Url}

/-- The fetch of a crumb tries once, and the crumb is made of what comes back. -/
theorem fetchCrumb_of_isSendable (hc : c.credential.login.IsIssued)
    (hurl : Uri.Url.parse? (c.address crumbPath) = some url)
    (hsend : (issuerUrl url).isSendable = true) :
    c.fetchCrumb.attempts network history =
        [⟨(c.plainRequest .get url).signed,
          network.reply history (c.plainRequest .get url).signed⟩] ∧
      (c.fetchCrumb.run network history).1 =
        crumbOf (c.address crumbPath) (issuerUrl url)
          ((network.reply history (c.plainRequest .get url).signed).map
            (Http.Reply.arrived .get)) := by
  rw [fetchCrumb_eq hc, hurl]
  simp only [hsend, if_true, Dialogue.attempts_bind, Dialogue.run_bind, Dialogue.exchange,
    Dialogue.attempts_send, Dialogue.run_send, Dialogue.attempts_done, Dialogue.run_done,
    Dialogue.attempts_pure, Dialogue.run_pure, List.append_nil, true_and]
  rw [plainRequest, Filter.method_authorized, Request.method_ofUrl]

/-- Where no request can be made to the issuer, the crumb is a failure at once. -/
theorem fetchCrumb_of_not_isSendable (hc : c.credential.login.IsIssued)
    (hurl : Uri.Url.parse? (c.address crumbPath) = some url)
    (hsend : (issuerUrl url).isSendable = false) :
    c.fetchCrumb =
      .done (unfetched (c.address crumbPath) (Request.unsendable (issuerUrl url))) := by
  rw [fetchCrumb_eq hc, hurl]
  simp [hsend]

/-- All that the fetch of a crumb tries to send is the plain request to the issuer. -/
theorem exists_of_mem_attempts_fetchCrumb (hc : c.credential.login.IsIssued) {e : Exchange}
    (h : e ∈ c.fetchCrumb.attempts network history) :
    ∃ url, Uri.Url.parse? (c.address crumbPath) = some url ∧
      e.request = (c.plainRequest .get url).signed := by
  cases hurl : Uri.Url.parse? (c.address crumbPath) with
  | none =>
    rw [fetchCrumb_eq hc, hurl] at h
    cases h
  | some url =>
    refine ⟨url, rfl, ?_⟩
    cases hsend : (issuerUrl url).isSendable with
    | false =>
      rw [fetchCrumb_of_not_isSendable hc hurl hsend] at h
      cases h
    | true =>
      rw [(fetchCrumb_of_isSendable network history hc hurl hsend).1, List.mem_singleton] at h
      rw [h]

end

/-! ## Writes -/

/-- A write with the crumb of a decision, sent if the crumb can be added. -/
def sendProtected (d : CrumbDecision) (r : Request) : Dialogue (Except ClientError Response) :=
  match Filter.withCrumb d r with
  | .ok r => exchange r
  | .error e => .done (.error e)

/-- A write to an address that cannot be read is over at once and leaves the decision alone. -/
theorem write_of_parse?_eq_none {path : String} (hurl : Uri.Url.parse? (c.address path) = none)
    (slot : Option CrumbDecision) (body : Body) :
    c.write slot path body = .done (.error unreadableAddress, slot) := by
  rw [write, writeRequest, Request.build, hurl]
  rfl

/-- A write settles the decision on crumbs, is sent with it, and keeps it. -/
theorem write_eq {path : String} {url : Uri.Url} (hc : c.credential.login.IsIssued)
    (hurl : Uri.Url.parse? (c.address path) = some url) (slot : Option CrumbDecision)
    (body : Body) :
    c.write slot path body = do
      let d ← c.resolve slot
      let response ← sendProtected d (c.plainWrite body url)
      return (response, some d) := by
  have hrequest : c.writeRequest path body = .ok (c.plainWrite body url) := by
    rw [writeRequest, Request.build, hurl]
    exact Filter.authorize_eq_ok hc _
  rw [write, hrequest]
  refine congrArg (c.resolve slot >>= ·) (funext fun d => ?_)
  cases hcrumb : Filter.withCrumb d (c.plainWrite body url) with
  | ok r =>
    simp only [sendProtected, hcrumb]
  | error e =>
    simp only [sendProtected, hcrumb]
    rfl

section

variable {path : String} {url : Uri.Url} (network : Network) (history : List Exchange)

/-- A write ends with what comes of its request under the settled decision, which is kept. -/
theorem run_write (hc : c.credential.login.IsIssued)
    (hurl : Uri.Url.parse? (c.address path) = some url) (slot : Option CrumbDecision)
    (body : Body) :
    ((c.write slot path body).run network history).1 =
      (((sendProtected ((c.resolve slot).run network history).1 (c.plainWrite body url)).run
        network ((c.resolve slot).run network history).2).1,
      some ((c.resolve slot).run network history).1) := by
  simp [write_eq hc hurl]

/-- What a write tries to send: what settles the decision, and the write with its crumb. -/
theorem attempts_write (hc : c.credential.login.IsIssued)
    (hurl : Uri.Url.parse? (c.address path) = some url) (slot : Option CrumbDecision)
    (body : Body) :
    (c.write slot path body).attempts network history =
      (c.resolve slot).attempts network history ++
        (sendProtected ((c.resolve slot).run network history).1 (c.plainWrite body url)).attempts
          network ((c.resolve slot).run network history).2 := by
  simp [write_eq hc hurl]

end

end Client
end CiClient
