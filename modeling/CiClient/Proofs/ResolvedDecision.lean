import CiClient.Proofs.CrumbAdmission
import CiClient.Proofs.DialogueAttempts

/-!
# Where decisions on crumbs come from

A decision on crumbs is resolved by asking the issuer once. However the fetch ends, it gives one of
the two kinds of crumbs that `Crumb.IsAnswer` tells apart, so this is the crumb of every resolved
decision.
-/

set_option autoImplicit false

namespace CiClient

open Http (Exchange Headers Network)

/-! ## Fetches -/

/-- A fetch that asks ends with the crumb of an answer, and any other one with a failure. -/
theorem Client.isAnswer_fetchCrumb (c : Client) (network : Network) (history : List Exchange) :
    (c.fetchCrumb.run network history).1.IsAnswer := by
  rw [fetchCrumb]
  split
  · rw [Http.Dialogue.run_done]
    exact .failed _
  · split
    · rw [Http.Dialogue.run_done]
      exact .failed _
    · split
      · rw [Http.Dialogue.run_bind, Http.Dialogue.run_pure]
        exact isAnswer_crumbOf _ _ _
      · rw [Http.Dialogue.run_done]
        exact .failed _

/-! ## Decisions -/

namespace CrumbDecision

/-- A decision that a client without one makes against some server, after whatever was exchanged. -/
def IsResolved (d : CrumbDecision) : Prop :=
  ∃ (c : Client) (network : Network) (history : List Exchange),
    ((c.resolve none).run network history).1 = d

variable {d : CrumbDecision}

/-- A resolved decision is made of the crumb that the fetch ended with. -/
theorem IsResolved.exists_isAnswer (h : d.IsResolved) :
    ∃ crumb : Crumb, crumb.IsAnswer ∧ d = .ofCrumb crumb := by
  obtain ⟨c, network, history, rfl⟩ := h
  refine ⟨(c.fetchCrumb.run network history).1, c.isAnswer_fetchCrumb network history, ?_⟩
  rw [Client.resolve, Http.Dialogue.run_bind, Http.Dialogue.run_pure]

/-- The crumb of a resolved decision is one of the two kinds. -/
theorem IsResolved.isAnswer (h : d.IsResolved) : d.crumb.IsAnswer := by
  obtain ⟨crumb, hcrumb, rfl⟩ := h.exists_isAnswer
  exact hcrumb

/-- A server that issues a crumb within a session, its cookie with attributes. -/
theorem isResolved_issued :
    IsResolved ⟨⟨some "abc", some "JSESSIONID=x", []⟩, true⟩ :=
  ⟨⟨"http://h", .anonymous, .standard⟩,
    .scripted [some ⟨⟨200⟩, .ofList [("Set-Cookie", "JSESSIONID=x; Path=/")],
      some (Bytes.utf8 "Jenkins-Crumb:abc")⟩], [], by decide⟩

end CrumbDecision
end CiClient
