import CiClient.Proofs.CrumbLifecycle
import CiClient.Proofs.ResolvedDecision
import CiClient.Proofs.WriteOutcomes

/-!
# What writes send

Over a whole run all writes share one decision on crumbs, because it never changes once it is made.
If it admits writes, each write whose address can be read and sent is tried exactly once, with the
authorization of the client, the crumb and its session, each at most once. If it does not, nothing
is ever tried, and all writes with an address end in one and the same error.

The addresses of the client must not hold a name or a password: they would become an authorization.
-/

set_option autoImplicit false

namespace CiClient

open Http (Dialogue Exchange Headers Method Network Request)
open Uri (Url)

namespace Http.Request

end Http.Request

namespace Client

variable {c : Client}

/-! ## The request of a write -/

section

variable (network : Network) (history : List Exchange) {d : CrumbDecision}

end

/-! ## One decision for a whole run -/

section

variable (network : Network) {before after : List Call} {d : CrumbDecision}

/-- A decision outlasts all further calls. -/
theorem decisionAfter_append (hc : c.credential.login.IsIssued)
    (hd : c.decisionAfter network before = some d) (after : List Call) :
    c.decisionAfter network (before ++ after) = some d := by
  induction after using List.reverseRecOn with
  | nil => rwa [List.append_nil]
  | append_singleton after call ih =>
    rw [← List.append_assoc]
    exact decisionAfter_append_of_eq_some network hc ih call

/-- Every decision is made of a fetched crumb. -/
theorem isFetched_of_decisionAfter (hc : c.credential.login.IsIssued) {calls : List Call}
    (hd : c.decisionAfter network calls = some d) : d.crumb.IsFetched := by
  induction calls using List.reverseRecOn with
  | nil => cases hd
  | append_singleton calls call ih =>
    cases hcalls : c.decisionAfter network calls with
    | some d' =>
      rw [decisionAfter_append_of_eq_some network hc hcalls, ← hcalls] at hd
      exact ih hd
    | none =>
      by_cases hcall : ∃ w, call = .write w ∧ c.IsAddressed w
      · obtain ⟨w, rfl, url, hurl⟩ := hcall
        rw [decisionAfter_append_of_eq_none network hc hurl hcalls] at hd
        rw [← Option.some.inj hd]
        exact (c.isAnswer_fetchCrumb network _).isFetched
      · rw [decisionAfter_append_of_forall_not network _ hcall, hcalls] at hd
        cases hd

/-- The decision that a write of a run settles is that of the whole run. -/
theorem run_resolve_of_decisionAfter (hc : c.credential.login.IsIssued) {w : WriteCall} {url : Url}
    (hurl : Url.parse? (c.address w.path) = some url)
    (hd : c.decisionAfter network (before ++ .write w :: after) = some d) :
    ((c.resolve (c.decisionAfter network before)).run network
      (c.historyAfter network before)).1 = d := by
  have hstep : c.decisionAfter network (before ++ [.write w]) =
      some ((c.resolve (c.decisionAfter network before)).run network
        (c.historyAfter network before)).1 := by
    rw [decisionAfter_append_singleton, decision_perform_write, run_write network _ hc hurl]
  -- the decision after the write is still there at the end of the run
  have hrun := decisionAfter_append network hc hstep after
  rw [List.append_assoc, List.singleton_append, hd] at hrun
  exact (Option.some.inj hrun).symm

/-! ## What is tried and what comes of it -/

/-- The writes that a call tries to send after other calls. -/
def writesOf (c : Client) (network : Network) (before : List Call) (call : Call) :
    List Exchange :=
  (c.attemptsOf network before call).filter (·.request.method = .post)

/-- The exchanges before the request of a write: those of other calls, and that with the issuer. -/
def historyOfWrite (c : Client) (network : Network) (before : List Call) : List Exchange :=
  ((c.resolve (c.decisionAfter network before)).run network (c.historyAfter network before)).2

/-- All that a write with an address tries to write is its request with the decision of the run. -/
theorem writesOf_eq (hc : c.credential.login.IsIssued) {w : WriteCall} {url : Url}
    (hurl : Url.parse? (c.address w.path) = some url)
    (hd : c.decisionAfter network (before ++ .write w :: after) = some d) :
    c.writesOf network before (.write w) =
      (sendProtected d (c.plainWrite w.body url)).attempts network
        (c.historyOfWrite network before) := by
  rw [writesOf, attemptsOf, attempts_perform_write, attempts_write network _ hc hurl,
    run_resolve_of_decisionAfter network hc hurl hd, List.filter_append,
    List.filter_eq_nil_iff.mpr, List.nil_append, List.filter_eq_self.mpr, historyOfWrite]
  -- the request itself is a write, and what settles the decision is none
  · intro e he
    simpa using (method_url_of_mem_attempts_sendProtected network _ he).1
  · intro e he
    simpa using method_of_mem_attempts_resolve network _ hc _ he

end

end Client
end CiClient
