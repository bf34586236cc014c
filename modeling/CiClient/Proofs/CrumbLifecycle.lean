import CiClient.Proofs.AddressParts
import CiClient.Proofs.ClientAttempts
import CiClient.Proofs.CrumbAdmission
import CiClient.Proofs.SessionHistory

/-!
# When the decision on crumbs is made

A client starts without a decision on crumbs. The first write whose address can be read makes one,
and from then on it stays: whatever is called, and whatever the server answers. The decision is made
of one request to the issuer, which is tried before the write itself and only once.

Each kind of call is looked at by itself first: what it does to the decision, and what it tries to
send. `decisionAfter_eq_none_iff` is the induction over the calls of a run.
-/

set_option autoImplicit false

namespace CiClient

open Http (Dialogue Exchange Method Network Request)
open Uri (Url)

namespace Client

variable {c : Client} (network : Network) (history : List Exchange)

/-- A write whose address can be read. The others end before anything is done. -/
def IsAddressed (c : Client) (call : WriteCall) : Prop :=
  ∃ url, Url.parse? (c.address call.path) = some url

/-! ## One call -/

/-- A read leaves the decision alone. -/
theorem decision_perform_read (slot : Option CrumbDecision) (call : ReadCall) :
    ((c.perform slot (.read call)).run network history).1.2 = slot := by
  simp [perform]

/-- Asking for a crumb leaves the decision alone. -/
theorem decision_perform_crumb (slot : Option CrumbDecision) :
    ((c.perform slot .crumb).run network history).1.2 = slot := by
  simp [perform]

/-- The decision after a write is the one that the write ends with. -/
theorem decision_perform_write (slot : Option CrumbDecision) (call : WriteCall) :
    ((c.perform slot (.write call)).run network history).1.2 =
      ((c.write slot call.path call.body).run network history).1.2 := by
  simp [perform]

/-- A read tries to send what one reading of its path does. -/
theorem attempts_perform_read (slot : Option CrumbDecision) (call : ReadCall) :
    (c.perform slot (.read call)).attempts network history =
      (c.read call.method (call.path c.credential.identity)).attempts network history := by
  simp [perform]

/-- Asking for a crumb tries to send what its fetch does. -/
theorem attempts_perform_crumb (slot : Option CrumbDecision) :
    (c.perform slot .crumb).attempts network history = c.fetchCrumb.attempts network history := by
  simp [perform]

/-- A write tries to send what one writing of its body to its path does. -/
theorem attempts_perform_write (slot : Option CrumbDecision) (call : WriteCall) :
    (c.perform slot (.write call)).attempts network history =
      (c.write slot call.path call.body).attempts network history := by
  simp [perform]

/-- What is sent with a crumb or without differs in header fields only. -/
theorem request_of_mem_attempts_sendProtected {d : CrumbDecision} {r : Request} {e : Exchange}
    (h : e ∈ (sendProtected d r).attempts network history) :
    e.request = { r with headers := e.request.headers } := by
  unfold sendProtected at h
  split at h
  · rename_i r' hr
    rw [attempts_exchange] at h
    split at h
    · rw [List.mem_singleton] at h
      rw [h, Request.signed, Request.withHeader, Filter.eq_of_withCrumb hr]
    · cases h
  · cases h

/-- A write is a write and goes to its address, with a crumb or without. -/
theorem method_url_of_mem_attempts_sendProtected {d : CrumbDecision} {body : Body} {url : Url}
    {e : Exchange} (h : e ∈ (sendProtected d (c.plainWrite body url)).attempts network history) :
    e.request.method = .post ∧ e.request.url = (Request.ofUrl .post url).url := by
  rw [request_of_mem_attempts_sendProtected network history h]
  exact c.method_url_plainWrite body url

/-- The plain request holds neither a crumb nor a session. -/
theorem getAll_crumb_plainRequest (c : Client) (method : Method) (url : Url) :
    (c.plainRequest method url).signed.headers.getAll "jenkins-crumb" = [] ∧
      (c.plainRequest method url).signed.headers.getAll "cookie" = [] :=
  ⟨getAll_signed_plainRequest c method url (by decide) (by decide),
    getAll_signed_plainRequest c method url (by decide) (by decide)⟩

/-- Calls that are no writes never try to send a write. -/
theorem method_of_mem_attempts_perform (hc : c.credential.login.IsIssued)
    (slot : Option CrumbDecision) {call : Call} (hcall : ∀ w, call ≠ .write w) {e : Exchange}
    (h : e ∈ (c.perform slot call).attempts network history) : e.request.method ≠ .post := by
  have hplain : ∀ (method : Method) (url : Url),
      (c.plainRequest method url).signed.method = method :=
    fun method url => (c.method_url_plainRequest method url).1
  cases call with
  | read call =>
    rw [attempts_perform_read] at h
    obtain ⟨url, -, he⟩ := exists_of_mem_attempts_read hc h
    rw [he, hplain]
    cases call <;> simp [ReadCall.method]
  | write call => exact absurd rfl (hcall call)
  | crumb =>
    rw [attempts_perform_crumb] at h
    obtain ⟨url, -, he⟩ := exists_of_mem_attempts_fetchCrumb network history hc h
    rw [he, hplain]
    simp

/-- Settling the decision never tries to send a write. -/
theorem method_of_mem_attempts_resolve (hc : c.credential.login.IsIssued)
    (slot : Option CrumbDecision) {e : Exchange}
    (h : e ∈ (c.resolve slot).attempts network history) : e.request.method ≠ .post := by
  cases slot with
  | some d => cases h
  | none =>
    have hcrumb : e ∈ (c.perform none .crumb).attempts network history := by
      rw [resolve, Dialogue.attempts_bind] at h
      rw [attempts_perform_crumb]
      simpa using h
    exact method_of_mem_attempts_perform network history hc none (by simp) hcrumb

/-- Once there is a decision, all that a write tries to send is a write. -/
theorem method_of_mem_attempts_write (hc : c.credential.login.IsIssued) {d : CrumbDecision}
    {path : String} {body : Body} {e : Exchange}
    (h : e ∈ (c.write (some d) path body).attempts network history) :
    e.request.method = .post := by
  cases hurl : Url.parse? (c.address path) with
  | none =>
    rw [write_of_parse?_eq_none hurl] at h
    cases h
  | some url =>
    rw [attempts_write network history hc hurl, resolve, Dialogue.attempts_done,
      List.nil_append] at h
    exact (method_url_of_mem_attempts_sendProtected network _ h).1

/-! ## The decision that an addressed write makes -/

/-- The exchange that fetches the crumb: one plain request, with what comes back of it. -/
def issuerExchange (c : Client) (network : Network) (history : List Exchange) (issuer : Url) :
    Exchange :=
  ⟨(c.plainRequest .get issuer).signed,
    network.reply history (c.plainRequest .get issuer).signed⟩

/-- The decision that comes of that exchange. -/
def decisionOf (c : Client) (issuer : Url) (exchange : Exchange) : CrumbDecision :=
  .ofCrumb (crumbOf (c.address crumbPath) (issuerUrl issuer)
    (exchange.reply.map (Http.Reply.arrived .get)))

/-- The decision where no request can be made to the issuer. -/
def decisionUnsendable (c : Client) (issuer : Url) : CrumbDecision :=
  .ofCrumb (unfetched (c.address crumbPath) (Request.unsendable (issuerUrl issuer)))

/-- A first write keeps the decision that comes of fetching a crumb. -/
theorem decision_write_none (hc : c.credential.login.IsIssued) {path : String} {url : Url}
    (hurl : Url.parse? (c.address path) = some url) (body : Body) :
    ((c.write none path body).run network history).1.2 =
      some (.ofCrumb (c.fetchCrumb.run network history).1) := by
  rw [run_write network history hc hurl, resolve]
  simp

section

variable {path : String} {url issuer : Url}

/-- Where the issuer can be asked, a first write asks it and then sends nothing but writes. -/
theorem attempts_write_of_isSendable (hc : c.credential.login.IsIssued)
    (hurl : Url.parse? (c.address path) = some url)
    (hissuer : Url.parse? (c.address crumbPath) = some issuer)
    (hsend : (issuerUrl issuer).isSendable = true) (body : Body) :
    ∃ writes, (c.write none path body).attempts network history =
        c.issuerExchange network history issuer :: writes ∧
      ∀ e ∈ writes, e.request.method = .post := by
  have hfetch := (fetchCrumb_of_isSendable network history hc hissuer hsend).1
  rw [attempts_write network history hc hurl, resolve, Dialogue.attempts_bind, hfetch]
  refine ⟨_, rfl, ?_⟩
  intro e he
  exact (method_url_of_mem_attempts_sendProtected network _ he).1

/-- A crumb that could not be asked for lets no request through. -/
theorem withCrumb_unfetched (address reason : String) (r : Request) :
    ∃ e, Filter.withCrumb (.ofCrumb (unfetched address reason)) r = .error e :=
  ⟨_, rfl⟩

/-- Where no request can be made to the issuer, a first write sends nothing at all. -/
theorem attempts_write_of_not_isSendable (hc : c.credential.login.IsIssued)
    (hurl : Url.parse? (c.address path) = some url)
    (hissuer : Url.parse? (c.address crumbPath) = some issuer)
    (hsend : (issuerUrl issuer).isSendable = false) (body : Body) :
    (c.write none path body).attempts network history = [] := by
  obtain ⟨e, he⟩ := withCrumb_unfetched (c.address crumbPath)
    (Request.unsendable (issuerUrl issuer)) (c.plainWrite body url)
  rw [attempts_write network history hc hurl, resolve,
    fetchCrumb_of_not_isSendable hc hissuer hsend]
  simp [sendProtected, he]

end

/-- Whatever is called, a request that is no write carries neither a crumb nor a session. -/
theorem getAll_of_mem_attempts_perform (hc : c.credential.login.IsIssued)
    (slot : Option CrumbDecision) (call : Call) {e : Exchange}
    (h : e ∈ (c.perform slot call).attempts network history) (hmethod : e.request.method ≠ .post) :
    e.request.headers.getAll "jenkins-crumb" = [] ∧ e.request.headers.getAll "cookie" = [] := by
  have hfetch : e ∈ c.fetchCrumb.attempts network history →
      e.request.headers.getAll "jenkins-crumb" = [] ∧
        e.request.headers.getAll "cookie" = [] := by
    intro h
    obtain ⟨url, -, he⟩ := exists_of_mem_attempts_fetchCrumb network history hc h
    rw [he]
    exact getAll_crumb_plainRequest c .get url
  cases call with
  | read call =>
    rw [attempts_perform_read] at h
    obtain ⟨url, -, he⟩ := exists_of_mem_attempts_read hc h
    rw [he]
    exact getAll_crumb_plainRequest c call.method url
  | crumb =>
    rw [attempts_perform_crumb] at h
    exact hfetch h
  | write w =>
    rw [attempts_perform_write] at h
    cases slot with
    | some d => exact absurd (method_of_mem_attempts_write network history hc h) hmethod
    | none =>
      cases hurl : Url.parse? (c.address w.path) with
      | none =>
        rw [write_of_parse?_eq_none hurl] at h
        cases h
      | some url =>
        -- first the fetch of the crumb, then the write itself
        rw [attempts_write network history hc hurl, List.mem_append] at h
        rcases h with h | h
        · apply hfetch
          rw [resolve, Dialogue.attempts_bind] at h
          simpa using h
        · exact absurd (method_url_of_mem_attempts_sendProtected network _ h).1 hmethod

/-! ## A whole run -/

section

variable (before : List Call)

/-- A call that is no write leaves the decision alone. -/
theorem decisionAfter_append_of_ne_write {call : Call} (hcall : ∀ w, call ≠ .write w) :
    c.decisionAfter network (before ++ [call]) = c.decisionAfter network before := by
  rw [decisionAfter_append_singleton]
  cases call with
  | read call => exact decision_perform_read network _ _ call
  | write call => exact absurd rfl (hcall call)
  | crumb => exact decision_perform_crumb network _ _

/-- A write without an address leaves the decision alone. -/
theorem decisionAfter_append_of_not_isAddressed {w : WriteCall} (hw : ¬c.IsAddressed w) :
    c.decisionAfter network (before ++ [.write w]) = c.decisionAfter network before := by
  have hurl : Url.parse? (c.address w.path) = none := by
    cases h : Url.parse? (c.address w.path) with
    | none => rfl
    | some url => exact absurd ⟨url, h⟩ hw
  rw [decisionAfter_append_singleton, decision_perform_write, write_of_parse?_eq_none hurl,
    Dialogue.run_done]

/-- So a call changes the decision only if it is a write with an address. -/
theorem decisionAfter_append_of_forall_not {call : Call}
    (hcall : ¬∃ w, call = .write w ∧ c.IsAddressed w) :
    c.decisionAfter network (before ++ [call]) = c.decisionAfter network before := by
  cases call with
  | read call => exact decisionAfter_append_of_ne_write network before (by simp)
  | crumb => exact decisionAfter_append_of_ne_write network before (by simp)
  | write w =>
    refine decisionAfter_append_of_not_isAddressed network before ?_
    exact fun hw => hcall ⟨w, rfl, hw⟩

variable {before}

/-- Once there is a decision, no call changes it. -/
theorem decisionAfter_append_of_eq_some (hc : c.credential.login.IsIssued) {d : CrumbDecision}
    (hd : c.decisionAfter network before = some d) (call : Call) :
    c.decisionAfter network (before ++ [call]) = some d := by
  by_cases hcall : ∃ w, call = .write w ∧ c.IsAddressed w
  · obtain ⟨w, rfl, url, hurl⟩ := hcall
    rw [decisionAfter_append_singleton, decision_perform_write, hd,
      run_write network _ hc hurl, resolve, Dialogue.run_done]
  · rw [decisionAfter_append_of_forall_not network before hcall, hd]

/-- The first write whose address can be read makes the decision. -/
theorem decisionAfter_append_of_eq_none (hc : c.credential.login.IsIssued) {w : WriteCall}
    {url : Url} (hurl : Url.parse? (c.address w.path) = some url)
    (hd : c.decisionAfter network before = none) :
    c.decisionAfter network (before ++ [.write w]) =
      some (.ofCrumb (c.fetchCrumb.run network (c.historyAfter network before)).1) := by
  rw [decisionAfter_append_singleton, decision_perform_write, hd,
    decision_write_none network _ hc hurl]

variable (before)

/-- There is no decision exactly as long as no write has had an address. -/
theorem decisionAfter_eq_none_iff (hc : c.credential.login.IsIssued) :
    c.decisionAfter network before = none ↔ ∀ w, Call.write w ∈ before → ¬c.IsAddressed w := by
  induction before using List.reverseRecOn with
  | nil => simp
  | append_singleton before call ih =>
    have hmem : (∀ w, Call.write w ∈ before ++ [call] → ¬c.IsAddressed w) ↔
        (∀ w, Call.write w ∈ before → ¬c.IsAddressed w) ∧
          ∀ w, call = .write w → ¬c.IsAddressed w := by
      simp only [List.mem_append, List.mem_singleton, or_imp, forall_and, eq_comm]
    rw [hmem, ← ih]
    -- an old decision stays; a new one comes of an addressed write and of nothing else
    cases hd : c.decisionAfter network before with
    | some d =>
      rw [decisionAfter_append_of_eq_some network hc hd]
      simp
    | none =>
      by_cases hcall : ∃ w, call = .write w ∧ c.IsAddressed w
      · obtain ⟨w, rfl, hw⟩ := hcall
        obtain ⟨url, hurl⟩ := hw
        rw [decisionAfter_append_of_eq_none network hc hurl hd]
        simp only [reduceCtorEq, true_and, false_iff, not_forall]
        exact ⟨w, rfl, not_not_intro ⟨url, hurl⟩⟩
      · rw [decisionAfter_append_of_forall_not network before hcall, hd]
        simp only [true_and, true_iff]
        exact fun w hw haddressed => hcall ⟨w, hw, haddressed⟩

/-! ## The first write and all others -/

/-- A write with an address, made without a decision, first asks the issuer once and decides by what
comes back; where the issuer cannot be asked it sends nothing and decides by that. -/
theorem first_write (hc : c.IsBuilt) {w : WriteCall} (hw : c.IsAddressed w)
    (hd : c.decisionAfter network before = none) :
    ∃ issuer, Url.parse? (c.address crumbPath) = some issuer ∧
      if (issuerUrl issuer).isSendable then
        (∃ writes, c.attemptsOf network before (.write w) =
            c.issuerExchange network (c.historyAfter network before) issuer :: writes ∧
          ∀ e ∈ writes, e.request.method = .post) ∧
        c.decisionAfter network (before ++ [.write w]) =
          some (c.decisionOf issuer
            (c.issuerExchange network (c.historyAfter network before) issuer))
      else
        c.attemptsOf network before (.write w) = [] ∧
        c.decisionAfter network (before ++ [.write w]) = some (c.decisionUnsendable issuer) := by
  obtain ⟨url, hurl⟩ := hw
  -- the issuer shares the server with the write, so it has an address too
  obtain ⟨issuer, hissuer⟩ :=
    exists_parse?_crumbPath hc.isWebAddress (WriteCall.isServerPath_path w) hurl
  refine ⟨issuer, hissuer, ?_⟩
  have hdecision := decisionAfter_append_of_eq_none network hc.isIssued hurl hd
  rw [attemptsOf, attempts_perform_write, hd]
  cases hsend : (issuerUrl issuer).isSendable with
  | true =>
    rw [(fetchCrumb_of_isSendable network _ hc.isIssued hissuer hsend).2] at hdecision
    exact ⟨attempts_write_of_isSendable network _ hc.isIssued hurl hissuer hsend w.body, hdecision⟩
  | false =>
    rw [fetchCrumb_of_not_isSendable hc.isIssued hissuer hsend] at hdecision
    exact ⟨attempts_write_of_not_isSendable network _ hc.isIssued hurl hissuer hsend w.body,
      hdecision⟩

/-- The life of the decision on crumbs, over every run against every server. There is none until a
write has an address. That write asks the issuer once before it sends anything else, and the
decision is made of what comes back, if anything does; an issuer that no request can be made to is
not asked, and the decision is made of that. A decision never changes, and with it no write asks
again. All other calls leave the decision alone, send no writes, and carry neither a crumb nor a
session; nor does the request to the issuer. -/
theorem crumb_decided_once (hc : c.IsBuilt) (call : Call) :
    (c.decisionAfter network before = none ↔
      ∀ w, Call.write w ∈ before → ¬c.IsAddressed w) ∧
    (∀ w, call = .write w → c.IsAddressed w → c.decisionAfter network before = none →
      ∃ issuer, Url.parse? (c.address crumbPath) = some issuer ∧
        if (issuerUrl issuer).isSendable then
          (∃ writes, c.attemptsOf network before call =
              c.issuerExchange network (c.historyAfter network before) issuer :: writes ∧
            ∀ e ∈ writes, e.request.method = .post) ∧
          c.decisionAfter network (before ++ [call]) =
            some (c.decisionOf issuer
              (c.issuerExchange network (c.historyAfter network before) issuer))
        else
          c.attemptsOf network before call = [] ∧
          c.decisionAfter network (before ++ [call]) = some (c.decisionUnsendable issuer)) ∧
    (∀ d, c.decisionAfter network before = some d →
      c.decisionAfter network (before ++ [call]) = some d ∧
      ∀ w, call = .write w →
        ∀ e ∈ c.attemptsOf network before call, e.request.method = .post) ∧
    ((∀ w, call ≠ .write w) →
      c.decisionAfter network (before ++ [call]) = c.decisionAfter network before ∧
      ∀ e ∈ c.attemptsOf network before call, e.request.method ≠ .post) ∧
    ∀ e ∈ c.attemptsOf network before call, e.request.method ≠ .post →
      e.request.headers.getAll "jenkins-crumb" = [] ∧
        e.request.headers.getAll "cookie" = [] := by
  refine ⟨decisionAfter_eq_none_iff network before hc.isIssued, ?_, ?_, ?_, ?_⟩
  · rintro w rfl hw hd
    exact first_write network before hc hw hd
  · intro d hd
    refine ⟨decisionAfter_append_of_eq_some network hc.isIssued hd call, ?_⟩
    rintro w rfl e he
    rw [attemptsOf, attempts_perform_write, hd] at he
    exact method_of_mem_attempts_write network _ hc.isIssued he
  · intro hcall
    refine ⟨decisionAfter_append_of_ne_write network before hcall, ?_⟩
    intro e he
    exact method_of_mem_attempts_perform network _ hc.isIssued _ hcall he
  · intro e he hmethod
    exact getAll_of_mem_attempts_perform network _ hc.isIssued _ call he hmethod

end

/-- A server that finds nothing: there is no decision before the first write, which asks the issuer
first. -/
theorem crumb_decided_once_of_quietDown :
    ∃ c : Client, c.IsBuilt ∧
      c.decisionAfter (.scripted []) [.read .queue, .crumb] = none ∧
      ∃ issuer writes,
        c.attemptsOf (.scripted []) [.read .queue, .crumb] (.write .quietDown) =
          c.issuerExchange (.scripted []) (c.historyAfter (.scripted []) [.read .queue, .crumb])
            issuer :: writes := by
  have hbuilt : (⟨"http://h", .anonymous, .standard⟩ : Client).IsBuilt :=
    ⟨{ Setup.standard with endpoint := some "http://h" }, rfl, by simp [Setup.standard]⟩
  obtain ⟨hnone, hfirst, -⟩ :=
    crumb_decided_once (.scripted []) [.read .queue, .crumb] hbuilt (.write .quietDown)
  have hbefore := hnone.mpr (by simp)
  obtain ⟨issuer, hissuer, hwrite⟩ := hfirst .quietDown rfl
    (Option.isSome_iff_exists.mp (by decide)) hbefore
  have hsend : ∀ issuer, Url.parse? ("http://h" ++ crumbPath) = some issuer →
      (issuerUrl issuer).isSendable = true := by
    have key : (Url.parse? ("http://h" ++ crumbPath)).all
        (fun issuer => (issuerUrl issuer).isSendable) = true := by decide
    intro issuer h
    rwa [h] at key
  rw [if_pos (hsend issuer hissuer)] at hwrite
  obtain ⟨⟨writes, hwrites, -⟩, -⟩ := hwrite
  exact ⟨_, hbuilt, hbefore, issuer, writes, hwrites⟩

/-- A quotation mark in the name of the host can be read but not sent. The first write to such a
server makes the decision, and no request to the issuer is even tried. -/
theorem decided_without_asking :
    ∃ c : Client, c.IsBuilt ∧ c.IsAddressed .quietDown ∧
      c.decisionAfter (.scripted []) [] = none ∧
      c.attemptsOf (.scripted []) [] (.write .quietDown) = [] ∧
      c.decisionAfter (.scripted []) [.write .quietDown] ≠ none :=
  ⟨⟨"http://a\"b", .anonymous, .standard⟩,
    ⟨{ Setup.standard with endpoint := some "http://a\"b" }, rfl, by simp [Setup.standard]⟩,
    Option.isSome_iff_exists.mp (by decide), rfl, by decide, by decide⟩

end Client
end CiClient
