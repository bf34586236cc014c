import CiClient.Filter
import CiClient.Proofs.HeaderFields

/-!
# The fields that filters set

The filters of a client never look at a request. Each of them `Assigns` some fields: it either
refuses all requests with one and the same error, or it sets these fields on all of them. That is
kept when two filters are applied one after the other.

What follows is about setting fields alone. Each name that is set has one value afterwards, every
other name keeps its values, and setting a field a second time changes nothing.
-/

set_option autoImplicit false

namespace CiClient

open Http (Headers Request)

/-! ## Setting several fields -/

namespace Http.Request

/-- Set several header fields, one after the other. -/
def withHeaders (r : Request) (fields : List (String × String)) : Request :=
  fields.foldl (fun r field => r.withHeader field.1 field.2) r

/-- No two fields have the same name. -/
def HaveDistinctNames (fields : List (String × String)) : Prop :=
  fields.Pairwise fun field other => Headers.lower field.1 ≠ Headers.lower other.1

/-- Setting no fields leaves a request as it is. -/
@[simp] theorem withHeaders_nil (r : Request) : r.withHeaders [] = r := rfl

/-- Fields are set one after the other. -/
@[simp] theorem withHeaders_cons (r : Request) (field : String × String)
    (fields : List (String × String)) :
    r.withHeaders (field :: fields) = (r.withHeader field.1 field.2).withHeaders fields := rfl

/-- Setting two lists of fields is setting the one and then the other. -/
theorem withHeaders_append (r : Request) (fields others : List (String × String)) :
    r.withHeaders (fields ++ others) = (r.withHeaders fields).withHeaders others :=
  List.foldl_append

/-- Only the header fields are touched. -/
theorem withHeaders_eq (r : Request) (fields : List (String × String)) :
    r.withHeaders fields = { r with headers := (r.withHeaders fields).headers } := by
  induction fields generalizing r with
  | nil => rfl
  | cons field fields ih =>
    rw [withHeaders_cons, ih]
    rfl

/-- Setting fields leaves those of other names alone. -/
theorem getAll_withHeaders_of_ne (r : Request) {name : String} {fields : List (String × String)}
    (h : ∀ field ∈ fields, Headers.lower name ≠ Headers.lower field.1) :
    (r.withHeaders fields).headers.getAll name = r.headers.getAll name := by
  induction fields generalizing r with
  | nil => rfl
  | cons field fields ih =>
    have hfield := h field List.mem_cons_self
    have hfields := fun other hother => h other (List.mem_cons_of_mem field hother)
    rw [withHeaders_cons, ih _ hfields]
    exact Headers.getAll_insert_of_ne _ hfield _

/-- A field that is set has its value and no other, if no field is set twice. -/
theorem getAll_withHeaders_of_mem (r : Request) {field : String × String}
    {fields : List (String × String)} (hdistinct : HaveDistinctNames fields)
    (h : field ∈ fields) : (r.withHeaders fields).headers.getAll field.1 = [field.2] := by
  induction fields generalizing r with
  | nil => cases h
  | cons first fields ih =>
    obtain ⟨hfirst, hfields⟩ := List.pairwise_cons.mp hdistinct
    rw [withHeaders_cons]
    rcases List.mem_cons.mp h with rfl | h
    · -- the later fields have other names
      rw [getAll_withHeaders_of_ne _ hfirst]
      exact Headers.getAll_insert_self _ _ _
    · exact ih _ hfields h

/-- Setting fields to the values that they have already changes nothing. -/
theorem withHeaders_eq_self {r : Request} {fields : List (String × String)}
    (h : ∀ field ∈ fields, r.headers.getAll field.1 = [field.2]) : r.withHeaders fields = r := by
  induction fields with
  | nil => rfl
  | cons field fields ih =>
    have hfield : r.withHeader field.1 field.2 = r := by
      rw [withHeader, Headers.insert_eq_self (h field List.mem_cons_self)]
    rw [withHeaders_cons, hfield]
    exact ih fun other hother => h other (List.mem_cons_of_mem field hother)

/-- Fields that were just set may be set again without any change. -/
theorem withHeaders_withHeaders (r : Request) {fields others : List (String × String)}
    (hdistinct : HaveDistinctNames fields) (hsub : others ⊆ fields) :
    (r.withHeaders fields).withHeaders others = r.withHeaders fields :=
  withHeaders_eq_self fun _ hother => getAll_withHeaders_of_mem r hdistinct (hsub hother)

end Http.Request

/-! ## Filters -/

namespace Filter

/-- The field that the authorization of a client sets. -/
def authorizationFields (c : Credential) : List (String × String) :=
  match c.authorization? with
  | some value => [("authorization", value)]
  | none => []

/-- The field that a session sets, if there is a session. -/
def sessionFields (session : Option String) : List (String × String) :=
  match session with
  | some cookie => [("cookie", cookie)]
  | none => []

/-- The fields that a crumb and its session set; a session without a crumb sets none. -/
def crumbFields (d : CrumbDecision) : List (String × String) :=
  match d.crumb.value with
  | some value => ("jenkins-crumb", value) :: sessionFields d.crumb.session
  | none => []

/-- The one field of a credential is its authorization. -/
theorem mem_authorizationFields_iff {c : Credential} {name value : String} :
    (name, value) ∈ authorizationFields c ↔
      name = "authorization" ∧ c.authorization? = some value := by
  unfold authorizationFields
  cases c.authorization? <;> simp [eq_comm]

/-- The fields of a decision are the crumb and, beside a crumb, the session. -/
theorem mem_crumbFields_iff {d : CrumbDecision} {name value : String} :
    (name, value) ∈ crumbFields d ↔
      name = "jenkins-crumb" ∧ d.crumb.value = some value ∨
        name = "cookie" ∧ (d.crumb.value.bind fun _ => d.crumb.session) = some value := by
  unfold crumbFields sessionFields
  cases d.crumb.value with
  | none => simp
  | some crumb => cases d.crumb.session <;> simp [eq_comm]

/-- A filter that looks at no request: it refuses them all with one error, or it sets the same
fields on all of them. -/
def Assigns (filter : Request → Except ClientError Request) (fields : List (String × String)) :
    Prop :=
  (∃ e, ∀ r, filter r = .error e) ∨ ∀ r, filter r = .ok (r.withHeaders fields)

/-- The filter that passes everything on sets no field. -/
theorem assigns_ok : Assigns .ok [] := Or.inr fun _ => rfl

/-- Setting a field fails for its value or sets it, whatever the request is. -/
theorem assigns_setField (name what value : String) :
    Assigns (setField name what value) [(name, value)] := by
  by_cases hlegal : Headers.isLegal value = true
  · right
    intro r
    rw [setField, if_pos hlegal]
    rfl
  · left
    exact ⟨_, fun r => if_neg hlegal⟩

section

variable {filter next : Request → Except ClientError Request}
  {fields others : List (String × String)}

/-- Two filters, one after the other, set the fields of both. -/
theorem Assigns.bind (hfilter : Assigns filter fields) (hnext : Assigns next others) :
    Assigns (fun r => (filter r).bind next) (fields ++ others) := by
  rcases hfilter with ⟨e, hfilter⟩ | hfilter
  · left
    refine ⟨e, fun r => ?_⟩
    show (filter r).bind next = .error e
    rw [hfilter]
    rfl
  rcases hnext with ⟨e, hnext⟩ | hnext
  · left
    refine ⟨e, fun r => ?_⟩
    show (filter r).bind next = .error e
    rw [hfilter]
    exact hnext _
  · right
    intro r
    show (filter r).bind next = .ok (r.withHeaders (fields ++ others))
    rw [hfilter, Request.withHeaders_append]
    exact hnext _

/-- What a filter gives is known once it is known that it gives something. -/
theorem Assigns.eq_ok_of_eq_ok (h : Assigns filter fields) {r r' : Request} (hr : filter r = .ok r')
    (other : Request) : filter other = .ok (other.withHeaders fields) := by
  rcases h with ⟨e, hfilter⟩ | hfilter
  · rw [hfilter] at hr
    cases hr
  · exact hfilter other

end

/-- Authorizing sets the fields of the credential. -/
theorem assigns_authorize (c : Credential) : Assigns (authorize c) (authorizationFields c) := by
  unfold authorize authorizationFields
  cases c.authorization? with
  | some value => exact assigns_setField _ _ _
  | none => exact assigns_ok

/-- Adding a session sets the field of the session. -/
theorem assigns_withSession (session : Option String) :
    Assigns (withSession session) (sessionFields session) := by
  cases session with
  | some cookie => exact assigns_setField _ _ _
  | none => exact assigns_ok

/-- Adding a crumb sets the fields of the decision. -/
theorem assigns_withCrumb (d : CrumbDecision) : Assigns (withCrumb d) (crumbFields d) := by
  unfold withCrumb crumbFields
  cases d.crumb.value with
  | some value => exact (assigns_setField _ _ _).bind (assigns_withSession _)
  | none =>
    by_cases hrequired : d.required = true
    · left
      exact ⟨_, fun r => if_pos hrequired⟩
    · right
      exact fun r => if_neg hrequired

end Filter
end CiClient
