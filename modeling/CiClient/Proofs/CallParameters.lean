import CiClient.Proofs.AddressQueries
import CiClient.Proofs.FormText
import CiClient.Proofs.JobScope
import CiClient.Proofs.WritesSent

/-!
# How the arguments of a call arrive

Some arguments of a call are texts that the server reads out of the query or out of a form: the name
of a new job, a description, the parameters of a build. `parameters` and `fields?` are what the
server is meant to read, and `place` is what is left of the path without them.

A call asks for its place and, if it has parameters, for a query behind it in which every name and
value is percent-encoded. So the parameters are read back as they are, and no text leaves its value:
it can neither end the query nor change what is asked for. `arguments_arrive` says so for all
requests of all calls.
-/

set_option autoImplicit false

namespace CiClient

open Bytes (Form.parse Form.pairText Percent.encode Percent.encodeChar Percent.isUnreserved)
open Http (Exchange Method Network Request)
open Uri (Url)

/-! ## What a call says -/

namespace ReadCall

/-- What the server is meant to read out of the query. -/
def parameters : ReadCall → List (String × String)
  | console _ _ start => [("start", Text.ofInt64 start)]
  | plugins depth tree =>
    (depth.map fun n => ("depth", Nat.repr n.toNat)).toList ++
      (tree.map fun t => ("tree", t)).toList
  | _ => []

/-- The path without a query. -/
def place (identity : String) : ReadCall → String
  | console job number _ => job.path ++ "/" ++ Text.ofInt64 number ++ "/logText/progressiveText"
  | plugins _ _ => "/pluginManager/api/json"
  | call => call.path identity

end ReadCall

namespace WriteCall

/-- The parameters of a write, in the order in which they are written. -/
def parameters : WriteCall → List (String × String)
  | createJob _ name _ => [("name", name)]
  | renameJob _ name => [("newName", name)]
  | cancelItem number => [("id", Text.ofInt64 number)]
  | _ => []

/-- The path of a write without its parameters. -/
def place : WriteCall → String
  | createJob folder _ _ => JobPath.ofFolder folder ++ "/createItem"
  | renameJob job _ => job.path ++ "/doRename"
  | cancelItem _ => "/queue/cancelItem"
  | call => call.path

/-- What the server is meant to read out of a form, if one is sent. -/
def fields? : WriteCall → Option (List (String × String))
  | describeJob _ description => some [("description", description)]
  | startBuildWith _ parameters => some parameters
  | grantToken name => some [("newTokenName", name)]
  | revokeToken uuid => some [("tokenUuid", uuid)]
  | _ => none

end WriteCall

namespace Call

/-- The parameters of a call, in the order in which they are written. -/
def parameters : Call → List (String × String)
  | read call => call.parameters
  | write call => call.parameters
  | crumb => [("xpath", Client.crumbQuery)]

/-- The path of a call without its parameters. -/
def place (identity : String) : Call → String
  | read call => call.place identity
  | write call => call.place
  | crumb => "/crumbIssuer/api/xml"

/-- The form fields that a call sends, if it sends a form. -/
def fields? : Call → Option (List (String × String))
  | write call => call.fields?
  | _ => none

end Call

/-! ## Places -/

/-- A text that no query begins in. -/
def IsQueryFree (text : String) : Prop := '?' ∉ text.toList

/-- Whether a text holds no question mark can be decided. -/
instance (text : String) : Decidable (IsQueryFree text) := inferInstanceAs (Decidable (¬ _))

/-- Two texts without a question mark have none together. -/
theorem IsQueryFree.append {a b : String} (ha : IsQueryFree a) (hb : IsQueryFree b) :
    IsQueryFree (a ++ b) := by
  rw [IsQueryFree, String.toList_append, List.mem_append, not_or]
  exact ⟨ha, hb⟩

/-- No encoded text holds a question mark. -/
theorem isQueryFree_encode (s : String) : IsQueryFree (Percent.encode s) := by
  intro hmem
  rw [Percent.encode, String.toList_ofList] at hmem
  exact absurd (Bytes.Percent.of_mem_encodeWith hmem) (by decide)

/-- No number is written with a question mark. -/
theorem isQueryFree_ofInt64 (n : Int64) : IsQueryFree (Text.ofInt64 n) :=
  fun hmem => absurd (Text.isUnreserved_of_mem_ofInt64 hmem) (by decide)

/-- The path of folders and jobs holds no question mark. -/
theorem JobPath.isQueryFree_encode (path : String) : IsQueryFree (JobPath.encode path) := by
  intro hmem
  rw [JobPath.encode, String.toList_ofList, List.mem_flatMap] at hmem
  obtain ⟨name, -, hmem⟩ := hmem
  rw [JobPath.part, List.mem_append] at hmem
  rcases hmem with hmem | hmem
  · exact absurd hmem (by decide)
  · exact absurd (Bytes.Percent.of_mem_encodeWith hmem) (by decide)

/-- The path of a folder holds no question mark. -/
theorem JobPath.isQueryFree_ofFolder (folder : Option String) :
    IsQueryFree (JobPath.ofFolder folder) := by
  cases folder with
  | none => exact List.not_mem_nil
  | some folder => exact isQueryFree_encode folder

/-- The path of a job holds no question mark. -/
theorem JobRef.isQueryFree_path (job : JobRef) : IsQueryFree job.path :=
  (JobPath.isQueryFree_ofFolder job.folder).append (JobPath.isQueryFree_encode job.job)

/-- The path of a build holds no question mark. -/
theorem JobRef.isQueryFree_number (job : JobRef) (number : Int64) :
    IsQueryFree (job.path ++ "/" ++ Text.ofInt64 number) :=
  (job.isQueryFree_path.append (by decide)).append (isQueryFree_ofInt64 number)

/-- The path of a read without its parameters holds no question mark. -/
theorem ReadCall.isQueryFree_place (identity : String) (call : ReadCall) :
    IsQueryFree (call.place identity) := by
  cases call with
  | jobList folder => exact (JobPath.isQueryFree_ofFolder folder).append (by decide)
  | jobInfo job => exact job.isQueryFree_path.append (by decide)
  | build job number => exact (job.isQueryFree_number number).append (by decide)
  | jobConfig job => exact job.isQueryFree_path.append (by decide)
  | jobDescription job => exact job.isQueryFree_path.append (by decide)
  | lastBuildNumber job => exact job.isQueryFree_path.append (by decide)
  | lastBuildTimestamp job => exact job.isQueryFree_path.append (by decide)
  | console job number start => exact (job.isQueryFree_number number).append (by decide)
  | queue =>
    change IsQueryFree "/queue/api/json"
    decide
  | queueItem number =>
    exact (IsQueryFree.append (by decide) (isQueryFree_ofInt64 number)).append (by decide)
  | plugins depth tree =>
    change IsQueryFree "/pluginManager/api/json"
    decide
  | user =>
    exact (IsQueryFree.append (by decide) (isQueryFree_encode identity)).append (by decide)
  | load =>
    change IsQueryFree "/overallLoad/api/json"
    decide
  | serverInfo =>
    change IsQueryFree "/"
    decide

/-- The path of a write without its parameters holds no question mark. -/
theorem WriteCall.isQueryFree_place (call : WriteCall) : IsQueryFree call.place := by
  have hbuild : ∀ (job : JobRef) (number : Int64) {verb : String}, IsQueryFree verb →
      IsQueryFree (buildPath job number verb) :=
    fun job number _ hverb => ((job.isQueryFree_number number).append (by decide)).append hverb
  cases call with
  | createJob folder name markup =>
    exact (JobPath.isQueryFree_ofFolder folder).append (by decide)
  | updateJob job markup => exact job.isQueryFree_path.append (by decide)
  | describeJob job description => exact job.isQueryFree_path.append (by decide)
  | deleteJob job => exact job.isQueryFree_path.append (by decide)
  | enableJob job => exact job.isQueryFree_path.append (by decide)
  | disableJob job => exact job.isQueryFree_path.append (by decide)
  | renameJob job name => exact job.isQueryFree_path.append (by decide)
  | startBuild job => exact job.isQueryFree_path.append (by decide)
  | startBuildWith job parameters => exact job.isQueryFree_path.append (by decide)
  | stopBuild job number => exact hbuild job number (by decide)
  | terminateBuild job number => exact hbuild job number (by decide)
  | killBuild job number => exact hbuild job number (by decide)
  | cancelItem number =>
    change IsQueryFree "/queue/cancelItem"
    decide
  | installPlugin plugin =>
    change IsQueryFree "/pluginManager/installNecessaryPlugins"
    decide
  | quietDown =>
    change IsQueryFree "/quietDown"
    decide
  | cancelQuietDown =>
    change IsQueryFree "/cancelQuietDown"
    decide
  | grantToken name =>
    change IsQueryFree (tokenPath ++ "/generateNewToken")
    decide
  | revokeToken uuid =>
    change IsQueryFree (tokenPath ++ "/revoke")
    decide

/-- The path of a call without its parameters holds no question mark. -/
theorem Call.isQueryFree_place (call : Call) (identity : String) :
    IsQueryFree (call.place identity) := by
  cases call with
  | read call => exact call.isQueryFree_place identity
  | write call => exact call.isQueryFree_place
  | crumb =>
    change IsQueryFree "/crumbIssuer/api/xml"
    decide

/-! ## Queries -/

/-- A parameter as a query holds it. -/
def parameterText (pair : String × String) : String :=
  Percent.encode pair.1 ++ "=" ++ Percent.encode pair.2

/-- The query with some parameters, if there are any. -/
def queryText? : List (String × String) → Option String
  | [] => none
  | pairs => some (String.intercalate "&" (pairs.map parameterText))

/-- One parameter or more make a query. -/
theorem queryText?_cons (pair : String × String) (pairs : List (String × String)) :
    queryText? (pair :: pairs) =
      some (String.intercalate "&" ((pair :: pairs).map parameterText)) := rfl

/-- A parameter is written like a pair of a form whose characters are percent-encoded. -/
theorem toList_parameterText (pair : String × String) :
    (parameterText pair).toList =
      Form.pairText (Percent.encodeChar Percent.isUnreserved) pair := by
  simp [parameterText, Percent.encode, Bytes.Percent.encodeWith, Form.pairText]

/-- A parameter is written with characters of a path on the server. -/
theorem isPathText_parameterText (pair : String × String) : IsPathText (parameterText pair) :=
  ((isPathText_encode pair.1).append (by decide)).append (isPathText_encode pair.2)

/-- A query is written with characters of a path on the server. -/
theorem isPathText_queryText? {pairs : List (String × String)} {query : String}
    (h : queryText? pairs = some query) : IsPathText query := by
  cases pairs with
  | nil => cases h
  | cons pair pairs =>
    cases h
    apply isPathText_intercalate (by decide)
    intro text htext
    obtain ⟨other, -, rfl⟩ := List.mem_map.mp htext
    exact isPathText_parameterText other

/-- The parameters of a query are read back in their order. -/
theorem parse_queryText? (pairs : List (String × String)) :
    Form.parse ((queryText? pairs).getD "") = pairs := by
  cases pairs with
  | nil => rfl
  | cons pair pairs =>
    have htext : String.intercalate "&" ((pair :: pairs).map parameterText) =
        String.ofList (['&'].intercalate ((pair :: pairs).map
          (Form.pairText (Percent.encodeChar Percent.isUnreserved)))) := by
      refine String.toList_injective (Eq.trans ?_ String.toList_ofList.symm)
      rw [String.toList_intercalate, List.map_map]
      exact congrArg ['&'].intercalate
        (List.map_congr_left fun other _ => toList_parameterText other)
    rw [queryText?_cons, Option.getD_some, htext]
    exact Bytes.Form.isCharWriter_unreserved.parse_intercalate _

/-- A path with the query of some parameters. -/
def withParameters (path : String) (pairs : List (String × String)) : String :=
  match queryText? pairs with
  | none => path
  | some query => path ++ "?" ++ query

/-- Parameters are added at the end of a path, whatever stands in front of it. -/
theorem withParameters_append (front path : String) (pairs : List (String × String)) :
    withParameters (front ++ path) pairs = front ++ withParameters path pairs := by
  unfold withParameters
  cases queryText? pairs with
  | none => rfl
  | some query => simp only [String.append_assoc]

/-- A single parameter stands behind a mark with its name. -/
theorem withParameters_singleton {path name value mark text : String}
    (hmark : path ++ "?" ++ Percent.encode name ++ "=" = mark)
    (htext : Percent.encode value = text) :
    withParameters path [(name, value)] = mark ++ text := by
  rw [← hmark, ← htext]
  simp [withParameters, queryText?, parameterText, String.append_assoc]

namespace Bytes.Percent

/-- A text of unreserved characters is its own encoding. -/
theorem encode_eq_self {s : String} (h : ∀ c ∈ s.toList, isUnreserved c = true) :
    encode s = s := by
  rw [encode, encodeWith_eq_self h, String.ofList_toList]

/-- A number is its own encoding. -/
theorem encode_ofInt64 (n : Int64) : encode (Text.ofInt64 n) = Text.ofInt64 n :=
  encode_eq_self fun _ => Text.isUnreserved_of_mem_ofInt64

/-- A natural number is its own encoding. -/
theorem encode_repr (n : Nat) : encode (Nat.repr n) = Nat.repr n :=
  encode_eq_self fun _ hc => isUnreserved_of_isDigit (Text.isDigit_of_mem_repr hc)

end Bytes.Percent

/-- The query of a plugin listing is made of its parameters. -/
theorem pluginQuery_eq (depth : Option UInt32) (tree : Option String) :
    ReadCall.pluginQuery depth tree =
      (ReadCall.parameters (.plugins depth tree)).map parameterText := by
  have hdepth : ∀ n : UInt32,
      "depth=" ++ Nat.repr n.toNat = parameterText ("depth", Nat.repr n.toNat) := by
    intro n
    have hname : Percent.encode "depth" ++ "=" = "depth=" := by decide
    rw [parameterText, Bytes.Percent.encode_repr, hname]
  have htree : ∀ t : String, "tree=" ++ Percent.encode t = parameterText ("tree", t) := by
    intro t
    have hname : Percent.encode "tree" ++ "=" = "tree=" := by decide
    rw [parameterText, hname]
  simp only [ReadCall.pluginQuery, hdepth, htree]
  cases depth <;> cases tree <;> rfl

/-- A read asks for its place, with its parameters in the query. -/
theorem ReadCall.path_eq (identity : String) (call : ReadCall) :
    call.path identity = withParameters (call.place identity) call.parameters := by
  cases call with
  | console job number start =>
    have hquery : withParameters "/logText/progressiveText" [("start", Text.ofInt64 start)] =
        "/logText/progressiveText?start=" ++ Text.ofInt64 start :=
      withParameters_singleton (by decide) (Bytes.Percent.encode_ofInt64 start)
    change _ = withParameters (job.path ++ "/" ++ Text.ofInt64 number ++ _) [_]
    rw [withParameters_append, hquery, ← String.append_assoc]
    rfl
  | plugins depth tree =>
    change withQuery _ (pluginQuery depth tree) = _
    rw [pluginQuery_eq]
    cases depth <;> cases tree <;> rfl
  | _ => rfl

/-- The path of a write is its place with its parameters behind it. -/
theorem WriteCall.path_eq (call : WriteCall) :
    call.path = withParameters call.place call.parameters := by
  cases call with
  | createJob folder name markup =>
    have hquery : withParameters "/createItem" [("name", name)] =
        "/createItem?name=" ++ Percent.encode name :=
      withParameters_singleton (by decide) rfl
    change _ = withParameters (JobPath.ofFolder folder ++ _) [_]
    rw [withParameters_append, hquery, ← String.append_assoc]
    rfl
  | renameJob job name =>
    have hquery : withParameters "/doRename" [("newName", name)] =
        "/doRename?newName=" ++ Percent.encode name :=
      withParameters_singleton (by decide) rfl
    change _ = withParameters (job.path ++ _) [_]
    rw [withParameters_append, hquery, ← String.append_assoc]
    rfl
  | cancelItem number =>
    have hmark : "/queue/cancelItem" ++ "?" ++ Percent.encode "id" ++ "=" =
        "/queue/cancelItem?id=" := by decide
    exact (withParameters_singleton hmark (Bytes.Percent.encode_ofInt64 number)).symm
  | _ => rfl

namespace Call

variable (call : Call) (identity : String)

/-- Every call asks for its place, with its parameters in the query. -/
theorem path_eq :
    call.path identity = withParameters (call.place identity) call.parameters := by
  cases call with
  | read call => exact call.path_eq identity
  | write call => exact call.path_eq
  | crumb =>
    have hmark : "/crumbIssuer/api/xml" ++ "?" ++ Percent.encode "xpath" ++ "=" =
        "/crumbIssuer/api/xml?xpath=" := by decide
    exact (withParameters_singleton hmark rfl).symm

/-- The place of every call is a path on the server. -/
theorem isServerPath_place : IsServerPath (call.place identity) := by
  by_cases hnone : call.parameters = []
  · have hpath := call.isServerPath_path identity
    rw [path_eq, hnone] at hpath
    exact hpath
  -- only a few calls have parameters
  cases call with
  | read call =>
    cases call with
    | console job number start => exact isServerPath_job_number job number (by decide)
    | plugins depth tree =>
      change IsServerPath "/pluginManager/api/json"
      exact ⟨by decide, by decide⟩
    | _ => exact absurd rfl hnone
  | write call =>
    cases call with
    | createJob folder name markup =>
      exact isServerPath_ofFolder_append folder ⟨by decide, by decide⟩
    | renameJob job name => exact isServerPath_job_append job ⟨by decide, by decide⟩
    | cancelItem number =>
      change IsServerPath "/queue/cancelItem"
      exact ⟨by decide, by decide⟩
    | _ => exact absurd rfl hnone
  | crumb =>
    change IsServerPath "/crumbIssuer/api/xml"
    exact ⟨by decide, by decide⟩

end Call
end CiClient
