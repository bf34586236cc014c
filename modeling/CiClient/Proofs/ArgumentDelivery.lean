import CiClient.Proofs.AddressQueries
import CiClient.Proofs.CallParameters
import CiClient.Proofs.WritesSent

/-!
# Requests that deliver their arguments

The request of a call is that for its place with the parameters in the query, and the form of a
write is its body. `Conveys` collects what the server learns of it: the parameters and the fields as
they were given, no fragment, and for all else the address of the place, in which none of these
texts occurs.

`arguments_arrive` is about every call at any point of any run. It also says that the request is
tried, if it can be sent and, for a write, the decision on crumbs lets it through.
-/

set_option autoImplicit false

namespace CiClient

open Bytes (Form.parse)
open Http (Dialogue Exchange Method Network Request)
open Uri (Url)

/-- A write that the server is meant to read fields from sends them as a form. -/
theorem WriteCall.body_of_fields? {call : WriteCall} {fields : List (String × String)}
    (h : call.fields? = some fields) : call.body = .form fields := by
  cases call with
  | describeJob job description =>
    cases h
    rfl
  | startBuildWith job parameters =>
    cases h
    rfl
  | grantToken name =>
    cases h
    rfl
  | revokeToken uuid =>
    cases h
    rfl
  | _ => cases h

namespace Client

variable {c : Client}

/-! ## Addresses and bodies -/

/-- What is sent of a body. -/
def Body.text : Body → String
  | .empty => ""
  | .form pairs => Bytes.Form.encode pairs
  | .markup text => text

/-- The address of a call is that of its place with its parameters in the query. -/
theorem parse?_address_path (hweb : isWebAddress c.endpoint = true)
    (hquery : '?' ∉ c.endpoint.toList) (hfragment : '#' ∉ c.endpoint.toList) (call : Call)
    (identity : String) :
    Url.parse? (c.address (call.path identity)) =
      (Url.parse? (c.address (call.place identity))).map
        (·.withQuery (queryText? call.parameters)) := by
  have hpath := call.isServerPath_place identity
  have hplain := call.isQueryFree_place identity
  rw [call.path_eq, withParameters]
  cases htext : queryText? call.parameters with
  | some query =>
    exact parse?_address_append_query hquery hfragment hweb hpath hplain
      (isPathText_queryText? htext)
  | none =>
    cases hbare : Url.parse? (c.address (call.place identity)) with
    | none => rfl
    | some bare =>
      obtain ⟨hnone, -⟩ :=
        query_fragment_of_parse?_address hquery hfragment hweb hpath hplain hbare
      rw [Option.map_some, Url.withQuery, ← hnone]

section

variable {network : Network} {before : List Call} {call : Call} {e : Exchange}

/-- What a write sends is the text of its body. -/
theorem text_of_mem_attemptsOf (hc : c.credential.login.IsIssued) {w : WriteCall}
    (he : e ∈ c.attemptsOf network before (.write w)) (hmethod : e.request.method = .post) :
    e.request.body = w.body.text := by
  obtain ⟨url, -, heq⟩ := exists_plainWrite_of_mem_attemptsOf hc he hmethod
  have hempty : (Request.ofUrl .post url).body = "" := by
    unfold Request.ofUrl
    split <;> rfl
  rw [heq, plainWrite, Filter.authorized_eq_withHeaders, Request.withHeaders_eq]
  cases w.body with
  | empty => exact hempty
  | form pairs => rfl
  | markup text => rfl

/-- What a write with form fields tries to send has the form of these fields as its body. -/
theorem body_of_mem_attemptsOf (hc : c.credential.login.IsIssued) {w : WriteCall}
    {fields : List (String × String)} (hfields : w.fields? = some fields)
    (he : e ∈ c.attemptsOf network before (.write w)) (hmethod : e.request.method = .post) :
    e.request.body = Bytes.Form.encode fields := by
  rw [text_of_mem_attemptsOf hc he hmethod, w.body_of_fields? hfields]
  rfl

end

/-! ## What is tried -/

/-- Whether a call may be sent: a write needs a decision that admits it. -/
def LetsThrough (c : Client) (network : Network) (before : List Call) : Call → Prop
  | .write w => ∃ d, c.decisionAfter network (before ++ [.write w]) = some d ∧ d.admits = true
  | _ => True

/-- What the first run of an operation tries to send, its repetitions try too. -/
theorem mem_attempts_retry {α : Type} (p : RetryPolicy)
    {operation : Dialogue (Except ClientError α)} {network : Network} {history : List Exchange}
    {e : Exchange} (h : e ∈ operation.attempts network history) :
    e ∈ (p.retry Dialogue.wait operation).attempts network history := by
  rw [RetryPolicy.retry]
  cases p.attempts - 1 with
  | zero => exact h
  | succ more =>
    rw [RetryPolicy.retryFrom, Dialogue.attempts_bind, List.mem_append]
    exact Or.inl h

/-- A request to an address that one can be sent to is tried. -/
theorem exists_mem_attempts_exchange (network : Network) (history : List Exchange) {r : Request}
    (hsend : r.url.isSendable = true) :
    ∃ e ∈ (exchange r).attempts network history, e.request.method = r.method := by
  rw [attempts_exchange, if_pos hsend]
  exact ⟨_, List.mem_singleton_self _, rfl⟩

section

variable {network : Network} {before : List Call} {call : Call} {url : Url}

/-- A call that may be sent is tried, if its request can be made. -/
theorem exists_mem_attemptsOf (hc : c.credential.login.IsIssued)
    (hurl : Url.parse? (c.address (call.path c.credential.identity)) = some url)
    (hsend : (Request.ofUrl call.method url).url.isSendable = true)
    (hthrough : c.LetsThrough network before call) :
    ∃ e ∈ c.attemptsOf network before call, e.request.method = call.method := by
  cases call with
  | read call =>
    obtain ⟨hmethod, haddress⟩ := c.method_url_plainRequest call.method url
    have honce : c.readOnce call.method (call.path c.credential.identity) =
        exchange (c.plainRequest call.method url) := by
      have hread : Url.parse? (c.address (call.path c.credential.identity)) = some url := hurl
      rw [readOnce_eq hc, hread]
    have hplain : (c.plainRequest call.method url).url.isSendable = true := by
      rw [haddress]
      exact hsend
    obtain ⟨e, he, hsame⟩ :=
      exists_mem_attempts_exchange network (c.historyAfter network before) hplain
    rw [attemptsOf, attempts_perform_read]
    rw [← honce] at he
    exact ⟨e, mem_attempts_retry c.policy he, hsame.trans hmethod⟩
  | crumb =>
    rw [attemptsOf, attempts_perform_crumb, (fetchCrumb_of_isSendable network _ hc hurl hsend).1]
    exact ⟨_, List.mem_singleton_self _, (c.method_url_plainRequest .get url).1⟩
  | write w =>
    obtain ⟨d, hd, hadmits⟩ := hthrough
    have hfetched := isFetched_of_decisionAfter network hc hd
    obtain ⟨hmethod, haddress⟩ := Filter.method_url_crumbed d (c.plainWrite w.body url)
    obtain ⟨hpost, hplace⟩ := c.method_url_plainWrite w.body url
    have hcrumbed : (Filter.crumbed d (c.plainWrite w.body url)).url.isSendable = true := by
      rw [haddress, hplace]
      exact hsend
    have hprotected : sendProtected d (c.plainWrite w.body url) =
        exchange (Filter.crumbed d (c.plainWrite w.body url)) := by
      rw [sendProtected, Filter.withCrumb_of_admits hfetched hadmits]
    obtain ⟨e, he, hsame⟩ :=
      exists_mem_attempts_exchange network (c.historyOfWrite network before) hcrumbed
    have hmem : e ∈ c.writesOf network before (.write w) := by
      rw [writesOf_eq network hc hurl hd, hprotected]
      exact he
    exact ⟨e, (List.mem_filter.mp hmem).1, hsame.trans (hmethod.trans hpost)⟩

end

/-! ## What the server learns -/

/-- What a request says of the arguments of its call. -/
structure Conveys (c : Client) (call : Call) (r : Request) : Prop where
  parameters : Form.parse (r.url.query.getD "") = call.parameters
  fields : ∀ fields, call.fields? = some fields → Form.parse r.body = fields
  fragment : r.url.fragment = none
  place : ∃ bare, Url.parse? (c.address (call.place c.credential.identity)) = some bare ∧
    bare.query = none ∧ r.url.withQuery none = (Request.ofUrl call.method bare).url

/-- The texts that a call is made with arrive as they were given. Whatever the call, the network and
the calls before it, and for every endpoint without a query and a fragment: each request of the call
has the parameters of the call in its query and its fields in its form, in their order and with
repeated and empty names and values, and goes to the place of the call otherwise. Such a request is
tried whenever it can be sent and the decision on crumbs lets the call through. -/
theorem arguments_arrive (hc : c.IsBuilt) (hquery : '?' ∉ c.endpoint.toList)
    (hfragment : '#' ∉ c.endpoint.toList) (network : Network) (before : List Call) (call : Call) :
    (∀ e ∈ c.attemptsOf network before call, e.request.method = call.method →
      c.Conveys call e.request) ∧
    ∀ bare, Url.parse? (c.address (call.place c.credential.identity)) = some bare →
      (Request.ofUrl call.method
        (bare.withQuery (queryText? call.parameters))).url.isSendable = true →
      c.LetsThrough network before call →
      ∃ e ∈ c.attemptsOf network before call, e.request.method = call.method := by
  have hpath := parse?_address_path hc.isWebAddress hquery hfragment call c.credential.identity
  constructor
  · intro e he hmethod
    obtain ⟨url, hurl, heq⟩ := exists_address_of_mem_attemptsOf hc.isIssued he hmethod
    rw [hpath] at hurl
    obtain ⟨bare, hbare, rfl⟩ := Option.map_eq_some_iff.mp hurl
    obtain ⟨hnone, hfree⟩ := query_fragment_of_parse?_address hquery hfragment hc.isWebAddress
      (call.isServerPath_place _) (call.isQueryFree_place _) hbare
    obtain ⟨hbareQuery, hbareFragment⟩ := Request.query_fragment_ofUrl call.method bare
    rw [Request.url_ofUrl_withQuery] at heq
    refine ⟨?_, ?_, ?_, bare, hbare, hnone, ?_⟩
    · rw [heq]
      exact parse_queryText? call.parameters
    · intro fields hfields
      cases call with
      | read call => cases hfields
      | crumb => cases hfields
      | write w =>
        rw [body_of_mem_attemptsOf hc.isIssued hfields he hmethod]
        exact Bytes.Form.parse_encode fields
    · rw [heq]
      exact hbareFragment.trans hfree
    · rw [heq]
      have hsame := hbareQuery.trans hnone
      rw [Url.withQuery, Url.withQuery, ← hsame]
  · intro bare hbare hsend hthrough
    refine exists_mem_attemptsOf hc.isIssued ?_ hsend hthrough
    rw [hpath, hbare, Option.map_some]

/-- Texts full of separators: the name of a new job, and parameters of a build with a repeated and
an empty name. -/
theorem arguments_arrive_of_separators :
    ∃ (c : Client) (created started : Exchange), c.IsBuilt ∧
      created ∈ c.attemptsOf (.scripted []) []
        (.write (.createJob (some "team") "a&b=c+d%20 #é" "<p/>")) ∧
      Form.parse (created.request.url.query.getD "") = [("name", "a&b=c+d%20 #é")] ∧
      started ∈ c.attemptsOf (.scripted []) []
        (.write (.startBuildWith ⟨none, "b"⟩ [("x", "1&y=2"), ("x", ""), ("", "+ %2B")])) ∧
      Form.parse started.request.body = [("x", "1&y=2"), ("x", ""), ("", "+ %2B")] := by
  have hbuilt : (⟨"http://h/ci", .anonymous, .standard⟩ : Client).IsBuilt :=
    ⟨{ Setup.standard with endpoint := some "http://h/ci" }, rfl, by simp [Setup.standard]⟩
  have harrive := arguments_arrive hbuilt (by decide) (by decide) (.scripted []) []
  -- the server finds no issuer, so both writes are let through
  obtain ⟨created, hcreated, hpost⟩ :=
    (harrive (.write (.createJob (some "team") "a&b=c+d%20 #é" "<p/>"))).2 _ rfl
      (by decide +kernel) ⟨_, rfl, by decide +kernel⟩
  obtain ⟨started, hstarted, hpost'⟩ :=
    (harrive (.write (.startBuildWith ⟨none, "b"⟩
      [("x", "1&y=2"), ("x", ""), ("", "+ %2B")]))).2 _ rfl
      (by decide +kernel) ⟨_, rfl, by decide +kernel⟩
  exact ⟨_, created, started, hbuilt, hcreated, ((harrive _).1 created hcreated hpost).parameters,
    hstarted, ((harrive _).1 started hstarted hpost').fields _ rfl⟩

end Client
end CiClient
