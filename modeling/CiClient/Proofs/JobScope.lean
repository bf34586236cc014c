import CiClient.Proofs.CrumbLifecycle
import CiClient.Proofs.DotSegments

/-!
# Requests that are about a job

A call about a job asks for a path below the job: the names of its folder and its own names, each
behind `job`, and then what is asked of it. The request stays there only if every name is a segment
that the path keeps. A name of one dot is skipped and a name of two dots takes back the segment
before it, so a call with such a name is about something else, and so is one for a job without a
name. `job_requests_stay_iff` says that nothing else can go wrong.
-/

set_option autoImplicit false

namespace CiClient

open Bytes.Percent (encodeWith isUnreserved)
open Http (Dialogue Exchange Method Network Request)
open Uri (Url)

/-! ## Scopes -/

/-- A text of unreserved characters that is not just dots. -/
def IsPlainName (name : String) : Prop :=
  name.toList.all isUnreserved = true ∧ Url.isDotSegment name.toList = false

/-- Whether a text is a plain name can be decided. -/
instance (name : String) : Decidable (IsPlainName name) :=
  inferInstanceAs (Decidable (_ = _ ∧ _ = _))

/-- A number is a plain name. -/
theorem isPlainName_ofInt64 (n : Int64) : IsPlainName (Text.ofInt64 n) := by
  constructor
  · rw [List.all_eq_true]
    exact fun c hc => Text.isUnreserved_of_mem_ofInt64 hc
  · cases hn : (Text.ofInt64 n).toList with
    | nil => rfl
    | cons c cs =>
      -- neither a dot nor a percent sign is in front
      have hdigit : c.isDigit = true ∨ c = '-' :=
        Text.of_mem_ofInt64 (by rw [hn]; exact List.mem_cons_self)
      have hdot : c ≠ '.' := by
        rintro rfl
        exact absurd hdigit (by decide)
      have hpercent : c ≠ '%' := by
        rintro rfl
        exact absurd hdigit (by decide)
      unfold Url.isDotSegment Url.isSingleDot Url.isDoubleDot
      rw [Url.dropDot?_cons_of_ne cs hdot hpercent]
      rfl

/-- The segments of something that can be asked of a job. -/
def IsSuffix (suffix : List String) : Prop := suffix ≠ [] ∧ ∀ name ∈ suffix, IsPlainName name

/-- Whether segments can be asked of a job can be decided. -/
instance (suffix : List String) : Decidable (IsSuffix suffix) :=
  inferInstanceAs (Decidable (_ ∧ ∀ name ∈ suffix, IsPlainName name))

/-- A job, and below it the segments of what is asked for. -/
structure JobScope where
  job : JobRef
  suffix : List String
  isSuffix : IsSuffix suffix

/-- All names of a job: those of its folder, and its own. -/
def JobRef.names (r : JobRef) : List (List Char) :=
  (r.folder.map JobPath.names).getD [] ++ JobPath.names r.job

namespace JobScope

/-- One build of a job, and what is asked of it. -/
def ofBuild (job : JobRef) (number : Int64) (suffix : List String)
    (h : IsSuffix suffix) : JobScope where
  job := job
  suffix := Text.ofInt64 number :: suffix
  isSuffix := ⟨List.cons_ne_nil _ _, List.forall_mem_cons.mpr ⟨isPlainName_ofInt64 number, h.2⟩⟩

/-- The segments below the endpoint. -/
def segments (s : JobScope) : List (List Char) :=
  s.job.names.flatMap (fun name => ["job".toList, encodeWith isUnreserved name]) ++
    s.suffix.map String.toList

/-- The path below the endpoint. -/
def path (s : JobScope) : List String := s.segments.map String.ofList

end JobScope

/-- What a read asks of a job, if it is about one. -/
def ReadCall.jobScope? : ReadCall → Option JobScope
  | jobInfo job => some ⟨job, ["api", "json"], by decide⟩
  | build job number => some (.ofBuild job number ["api", "json"] (by decide))
  | jobConfig job => some ⟨job, ["config.xml"], by decide⟩
  | jobDescription job => some ⟨job, ["description"], by decide⟩
  | lastBuildNumber job => some ⟨job, ["lastBuild", "buildNumber"], by decide⟩
  | lastBuildTimestamp job => some ⟨job, ["lastBuild", "buildTimestamp"], by decide⟩
  | console job number _ => some (.ofBuild job number ["logText", "progressiveText"] (by decide))
  | _ => none

/-- The scope of a write, if it is about a job. -/
def WriteCall.jobScope? : WriteCall → Option JobScope
  | updateJob job _ => some ⟨job, ["config.xml"], by decide⟩
  | describeJob job _ => some ⟨job, ["description"], by decide⟩
  | deleteJob job => some ⟨job, ["doDelete"], by decide⟩
  | enableJob job => some ⟨job, ["enable"], by decide⟩
  | disableJob job => some ⟨job, ["disable"], by decide⟩
  | renameJob job _ => some ⟨job, ["doRename"], by decide⟩
  | startBuild job => some ⟨job, ["build"], by decide⟩
  | startBuildWith job _ => some ⟨job, ["buildWithParameters"], by decide⟩
  | stopBuild job number => some (.ofBuild job number ["stop"] (by decide))
  | terminateBuild job number => some (.ofBuild job number ["term"] (by decide))
  | killBuild job number => some (.ofBuild job number ["kill"] (by decide))
  | _ => none

namespace Call

/-- The scope of a call, if it is about a job. -/
def jobScope? : Call → Option JobScope
  | read call => call.jobScope?
  | write call => call.jobScope?
  | crumb => none

/-- What the requests of a call ask for, but not the one for a crumb before a write. -/
def method : Call → Method
  | read call => call.method
  | write _ => .post
  | crumb => .get

/-- The path that a call asks for, with its query. -/
def path (identity : String) : Call → String
  | read call => call.path identity
  | write call => call.path
  | crumb => Client.crumbPath

end Call

/-! ## Paths of scopes -/

/-- The path of folders and jobs holds a pair of segments for each name. -/
theorem JobPath.toList_encode (path : String) :
    (JobPath.encode path).toList =
      Url.joined ((JobPath.names path).flatMap fun name =>
        ["job".toList, encodeWith isUnreserved name]) := by
  rw [JobPath.encode, String.toList_ofList]
  induction JobPath.names path with
  | nil => rfl
  | cons name names ih =>
    rw [List.flatMap_cons, List.flatMap_cons, Url.joined_append, ih, JobPath.part_eq]
    simp

/-- The path of a job holds a pair of segments for each of its names. -/
theorem JobRef.toList_path (r : JobRef) :
    r.path.toList =
      Url.joined (r.names.flatMap fun name => ["job".toList, encodeWith isUnreserved name]) := by
  obtain ⟨folder, job⟩ := r
  rw [JobRef.path, JobRef.names, String.toList_append, JobPath.toList_encode,
    List.flatMap_append, Url.joined_append]
  cases folder with
  | none => rfl
  | some folder =>
    change (JobPath.encode folder).toList ++ _ = _
    rw [JobPath.toList_encode]
    rfl

/-- What is asked of a job stands behind its path. -/
theorem JobRef.toList_path_append (job : JobRef) {rest : String} {suffix : List String}
    (h : IsSuffix suffix) {query : List Char}
    (hrest : rest.toList = Url.joined (suffix.map String.toList) ++ query) :
    (job.path ++ rest).toList = Url.joined (JobScope.segments ⟨job, suffix, h⟩) ++ query := by
  rw [String.toList_append, JobRef.toList_path, hrest, JobScope.segments, Url.joined_append,
    List.append_assoc]

/-- What follows the path of a build is the rest of the segments of its scope, and perhaps a
query. -/
theorem JobRef.toList_path_number (job : JobRef) (number : Int64) {rest : String}
    {suffix : List String} (h : IsSuffix suffix) {query : List Char}
    (hrest : rest.toList = Url.joined (suffix.map String.toList) ++ query) :
    (job.path ++ "/" ++ Text.ofInt64 number ++ rest).toList =
      Url.joined (JobScope.ofBuild job number suffix h).segments ++ query := by
  rw [String.append_assoc, String.append_assoc]
  refine job.toList_path_append _ ?_
  have hslash : "/".toList = ['/'] := by decide
  rw [String.toList_append, String.toList_append, hrest, hslash, List.map_cons,
    Url.joined_cons]
  simp

/-- A read about a job asks for the path of its scope, perhaps with a query. -/
theorem ReadCall.exists_query {call : ReadCall} {scope : JobScope}
    (h : call.jobScope? = some scope) (identity : String) :
    ∃ query, (call.path identity).toList = Url.joined scope.segments ++ query ∧
      (query = [] ∨ query.head? = some '?') := by
  cases call with
  | jobInfo job =>
    cases h
    exact ⟨[], job.toList_path_append _ (by decide), Or.inl rfl⟩
  | build job number =>
    cases h
    exact ⟨[], job.toList_path_number number _ (by decide), Or.inl rfl⟩
  | jobConfig job =>
    cases h
    exact ⟨[], job.toList_path_append _ (by decide), Or.inl rfl⟩
  | jobDescription job =>
    cases h
    exact ⟨[], job.toList_path_append _ (by decide), Or.inl rfl⟩
  | lastBuildNumber job =>
    cases h
    exact ⟨[], job.toList_path_append _ (by decide), Or.inl rfl⟩
  | lastBuildTimestamp job =>
    cases h
    exact ⟨[], job.toList_path_append _ (by decide), Or.inl rfl⟩
  | console job number start =>
    cases h
    have hrest : ("/logText/progressiveText?start=" ++ Text.ofInt64 start).toList =
        Url.joined (["logText", "progressiveText"].map String.toList) ++
          ("?start=".toList ++ (Text.ofInt64 start).toList) := by
      rw [String.toList_append]
      rfl
    refine ⟨"?start=".toList ++ (Text.ofInt64 start).toList, ?_, Or.inr rfl⟩
    change (job.path ++ "/" ++ Text.ofInt64 number ++ "/logText/progressiveText?start=" ++
      Text.ofInt64 start).toList = _
    rw [String.append_assoc]
    exact job.toList_path_number number _ hrest
  | jobList folder => cases h
  | queue => cases h
  | queueItem number => cases h
  | plugins depth tree => cases h
  | user => cases h
  | load => cases h
  | serverInfo => cases h

/-- A write about a job asks for the path of its scope, perhaps with a query. -/
theorem WriteCall.exists_query {call : WriteCall} {scope : JobScope}
    (h : call.jobScope? = some scope) :
    ∃ query, call.path.toList = Url.joined scope.segments ++ query ∧
      (query = [] ∨ query.head? = some '?') := by
  have hbuild : ∀ (job : JobRef) (number : Int64) {verb : String} (h : IsSuffix [verb]),
      (buildPath job number verb).toList =
        Url.joined (JobScope.ofBuild job number [verb] h).segments ++ [] := by
    intro job number verb h
    have hverb : ("/" ++ verb).toList = Url.joined ([verb].map String.toList) ++ [] := by
      rw [String.toList_append]
      simp
    change (job.path ++ "/" ++ Text.ofInt64 number ++ "/" ++ verb).toList = _
    rw [String.append_assoc]
    exact job.toList_path_number number h hverb
  cases call with
  | updateJob job markup =>
    cases h
    exact ⟨[], job.toList_path_append _ (by decide), Or.inl rfl⟩
  | describeJob job description =>
    cases h
    exact ⟨[], job.toList_path_append _ (by decide), Or.inl rfl⟩
  | deleteJob job =>
    cases h
    exact ⟨[], job.toList_path_append _ (by decide), Or.inl rfl⟩
  | enableJob job =>
    cases h
    exact ⟨[], job.toList_path_append _ (by decide), Or.inl rfl⟩
  | disableJob job =>
    cases h
    exact ⟨[], job.toList_path_append _ (by decide), Or.inl rfl⟩
  | renameJob job name =>
    cases h
    have hrest : ("/doRename?newName=" ++ Bytes.Percent.encode name).toList =
        Url.joined (["doRename"].map String.toList) ++
          ("?newName=".toList ++ (Bytes.Percent.encode name).toList) := by
      rw [String.toList_append]
      rfl
    refine ⟨"?newName=".toList ++ (Bytes.Percent.encode name).toList, ?_, Or.inr rfl⟩
    change (job.path ++ "/doRename?newName=" ++ Bytes.Percent.encode name).toList = _
    rw [String.append_assoc]
    exact job.toList_path_append _ hrest
  | startBuild job =>
    cases h
    exact ⟨[], job.toList_path_append _ (by decide), Or.inl rfl⟩
  | startBuildWith job parameters =>
    cases h
    exact ⟨[], job.toList_path_append _ (by decide), Or.inl rfl⟩
  | stopBuild job number =>
    cases h
    exact ⟨[], hbuild job number _, Or.inl rfl⟩
  | terminateBuild job number =>
    cases h
    exact ⟨[], hbuild job number _, Or.inl rfl⟩
  | killBuild job number =>
    cases h
    exact ⟨[], hbuild job number _, Or.inl rfl⟩
  | createJob folder name markup => cases h
  | cancelItem number => cases h
  | installPlugin plugin => cases h
  | quietDown => cases h
  | cancelQuietDown => cases h
  | grantToken name => cases h
  | revokeToken uuid => cases h

/-- A call about a job asks for the path of its scope, perhaps with a query. -/
theorem Call.exists_query {call : Call} {scope : JobScope} (h : call.jobScope? = some scope)
    (identity : String) :
    ∃ query, (call.path identity).toList = Url.joined scope.segments ++ query ∧
      (query = [] ∨ query.head? = some '?') := by
  cases call with
  | read call => exact ReadCall.exists_query h identity
  | write call => exact WriteCall.exists_query h
  | crumb => cases h

/-- The path of every call is a path on the server. -/
theorem Call.isServerPath_path (call : Call) (identity : String) :
    IsServerPath (call.path identity) := by
  cases call with
  | read call => exact call.isServerPath_path identity
  | write call => exact call.isServerPath_path
  | crumb => exact isServerPath_crumbPath

/-! ## Segments of scopes -/

/-- The characters of encoded names are kept in a path and end neither a segment nor the path. -/
theorem of_isUnreserved_or {c : Char} (h : isUnreserved c = true ∨ c = '%') :
    Url.keptInPath c = true ∧ Url.isSlash c = false ∧ Url.endsPath c = false := by
  rcases h with h | rfl
  · exact forall_of_ascii
      (P := fun c => isUnreserved c = true →
        Url.keptInPath c = true ∧ Url.isSlash c = false ∧ Url.endsPath c = false)
      (by decide) (Bytes.Percent.isUnreserved_lt h) h
  · decide

namespace JobScope

variable (s : JobScope)

/-- The segments of a scope are marks, encoded names, and those of what is asked for. -/
theorem mem_segments {segment : List Char} :
    segment ∈ s.segments ↔
      (∃ name ∈ s.job.names, segment = "job".toList ∨ segment = encodeWith isUnreserved name) ∨
        ∃ text ∈ s.suffix, text.toList = segment := by
  simp [segments]

/-- A scope has a segment at least. -/
theorem segments_ne_nil : s.segments ≠ [] := by
  have hsuffix := s.isSuffix.1
  simp [segments, hsuffix]

/-- The segments of a scope are unreserved characters and escapes. -/
theorem isUnreserved_or_of_mem_segments {segment : List Char} (h : segment ∈ s.segments) :
    ∀ c ∈ segment, isUnreserved c = true ∨ c = '%' := by
  intro c hc
  rcases s.mem_segments.mp h with ⟨name, -, rfl | rfl⟩ | ⟨text, htext, rfl⟩
  · have key : "job".toList.all isUnreserved = true := by decide
    exact Or.inl (List.all_eq_true.mp key c hc)
  · exact Bytes.Percent.of_mem_encodeWith hc
  · exact Or.inl (List.all_eq_true.mp (s.isSuffix.2 text htext).1 c hc)

/-- The only segments of dots are names of dots. -/
theorem isDotSegment_of_mem_segments {segment : List Char} (h : segment ∈ s.segments)
    (hdot : Url.isDotSegment segment = true) :
    (segment = ['.'] ∨ segment = ['.', '.']) ∧
      ∃ name ∈ s.job.names, name = ['.'] ∨ name = ['.', '.'] := by
  rcases s.mem_segments.mp h with ⟨name, hname, rfl | rfl⟩ | ⟨text, htext, rfl⟩
  · exact absurd hdot (by decide)
  · have hdots := (Url.isDotSegment_encode_iff name).mp hdot
    refine ⟨?_, name, hname, hdots⟩
    rcases hdots with rfl | rfl
    · exact Or.inl (by decide)
    · exact Or.inr (by decide)
  · rw [(s.isSuffix.2 text htext).2] at hdot
    cases hdot

/-- A scope has no segment of dots exactly when no name consists of them. -/
theorem forall_not_isDotSegment_iff :
    (∀ segment ∈ s.segments, Url.isDotSegment segment = false) ↔
      ∀ name ∈ s.job.names, name ≠ ['.'] ∧ name ≠ ['.', '.'] := by
  constructor
  · intro h name hname
    have hmem : encodeWith isUnreserved name ∈ s.segments :=
      s.mem_segments.mpr (Or.inl ⟨name, hname, Or.inr rfl⟩)
    have hdot := h _ hmem
    rw [← Bool.not_eq_true, Url.isDotSegment_encode_iff, not_or] at hdot
    exact hdot
  · intro h segment hsegment
    by_contra hdot
    rw [Bool.not_eq_false] at hdot
    obtain ⟨-, name, hname, hdots⟩ := s.isDotSegment_of_mem_segments hsegment hdot
    rcases hdots with hone | htwo
    · exact (h name hname).1 hone
    · exact (h name hname).2 htwo

end JobScope

/-! ## Requested addresses -/

namespace Client

variable {c : Client} {network : Network} {before : List Call} {call : Call} {e : Exchange}

/-- Making a request of an address leaves its path alone. -/
theorem path_ofUrl (method : Method) (url : Url) :
    (Request.ofUrl method url).url.path = url.path := by
  unfold Request.ofUrl
  split <;> rfl

/-- What a write tries to send, apart from the request for a crumb before it, is the plain request
with other header fields. -/
theorem exists_plainWrite_of_mem_attemptsOf (hc : c.credential.login.IsIssued) {w : WriteCall}
    (he : e ∈ c.attemptsOf network before (.write w)) (hmethod : e.request.method = .post) :
    ∃ url, Url.parse? (c.address w.path) = some url ∧
      e.request = { c.plainWrite w.body url with headers := e.request.headers } := by
  rw [attemptsOf, attempts_perform_write] at he
  cases hurl : Url.parse? (c.address w.path) with
  | none =>
    rw [write_of_parse?_eq_none hurl] at he
    cases he
  | some url =>
    refine ⟨url, rfl, ?_⟩
    rw [attempts_write network _ hc hurl, List.mem_append] at he
    rcases he with he | he
    · exact absurd hmethod (method_of_mem_attempts_resolve network _ hc _ he)
    · exact request_of_mem_attempts_sendProtected network _ he

/-- What a call tries to send, apart from the request for a crumb before a write, goes to the
address of the path of the call. -/
theorem exists_address_of_mem_attemptsOf (hc : c.credential.login.IsIssued)
    (he : e ∈ c.attemptsOf network before call) (hmethod : e.request.method = call.method) :
    ∃ url, Url.parse? (c.address (call.path c.credential.identity)) = some url ∧
      e.request.url = (Request.ofUrl call.method url).url := by
  have hplain : ∀ (method : Method) (url : Url),
      (c.plainRequest method url).signed.url = (Request.ofUrl method url).url :=
    fun method url => (c.method_url_plainRequest method url).2
  cases call with
  | read call =>
    rw [attemptsOf, attempts_perform_read] at he
    obtain ⟨url, hurl, heq⟩ := exists_of_mem_attempts_read hc he
    exact ⟨url, hurl, by rw [heq, hplain]; rfl⟩
  | crumb =>
    rw [attemptsOf, attempts_perform_crumb] at he
    obtain ⟨url, hurl, heq⟩ := exists_of_mem_attempts_fetchCrumb network _ hc he
    exact ⟨url, hurl, by rw [heq, hplain]; rfl⟩
  | write w =>
    obtain ⟨url, hurl, heq⟩ := exists_plainWrite_of_mem_attemptsOf hc he hmethod
    refine ⟨url, hurl, ?_⟩
    rw [heq]
    exact (c.method_url_plainWrite w.body url).2

/-- What a call tries to send asks for the path of its address. -/
theorem exists_url_of_mem_attemptsOf (hc : c.credential.login.IsIssued)
    (he : e ∈ c.attemptsOf network before call) (hmethod : e.request.method = call.method) :
    ∃ url, Url.parse? (c.address (call.path c.credential.identity)) = some url ∧
      e.request.url.path = url.path := by
  obtain ⟨url, hurl, heq⟩ := exists_address_of_mem_attemptsOf hc he hmethod
  exact ⟨url, hurl, by rw [heq, path_ofUrl]⟩

/-- The path of an address is resolved from the endpoint and the segments behind it. -/
theorem path_withTail (u : Url) {tail : List Char} {segments : List (List Char)}
    {query : List Char} (htail : ∀ ch ∈ tail, Url.endsPath ch = false)
    (hhead : ∀ ch ∈ tail.head?, Url.isSlash ch = true) (hne : segments ≠ [])
    (hsegments : ∀ segment ∈ segments, ∀ ch ∈ segment, isUnreserved ch = true ∨ ch = '%')
    (hquery : query = [] ∨ query.head? = some '?') :
    (Url.withTail u (tail ++ (Url.joined segments ++ query))).path =
      Url.resolveFrom (Url.base tail) segments := by
  have hpath : ∀ ch ∈ tail ++ Url.joined segments, (!Url.endsPath ch) = true := by
    intro ch hch
    rw [List.mem_append, Url.joined, List.mem_flatMap] at hch
    rcases hch with hch | ⟨segment, hsegment, hch⟩
    · rw [htail ch hch]
      rfl
    · rcases List.mem_cons.mp hch with rfl | hch
      · rfl
      · rw [(of_isUnreserved_or (hsegments segment hsegment ch hch)).2.2]
        rfl
  have hend : query.takeWhile (!Url.endsPath ·) = [] := by
    cases query with
    | nil => rfl
    | cons ch rest =>
      rcases hquery with hquery | hquery
      · cases hquery
      · rw [Option.some.inj hquery]
        rfl
  change Url.resolve (List.takeWhile _ _) = _
  rw [← List.append_assoc, List.takeWhile_append_of_pos hpath, hend, List.append_nil]
  refine Url.resolve_append_joined hhead ?_ hne
  intro segment hsegment ch hch
  exact (of_isUnreserved_or (hsegments segment hsegment ch hch)).2.1

/-- What stands behind the server stands in the endpoint. -/
theorem mem_endpoint_of_mem_tail {ch : Char} (h : ch ∈ c.tail) : ch ∈ c.endpoint.toList := by
  have hplace : ch ∈ c.place := (List.dropWhile_sublist _).subset h
  have hkept := (List.dropWhile_sublist _).subset hplace
  exact List.mem_of_mem_drop (List.mem_filter.mp hkept).1

section

variable (hquery : '?' ∉ c.endpoint.toList) (hfragment : '#' ∉ c.endpoint.toList)

include hquery hfragment

/-- Without a query and a fragment, what is behind the server is a path. -/
theorem endsPath_of_mem_tail : ∀ ch ∈ c.tail, Url.endsPath ch = false := by
  intro ch hch
  exact endsPath_of_mem_endpoint hquery hfragment ch (mem_endpoint_of_mem_tail hch)

/-- What stands behind the server begins with a slash. -/
theorem isSlash_of_head?_tail : ∀ ch ∈ c.tail.head?, Url.isSlash ch = true := by
  intro ch hch
  have hends : Url.endsAuthority ch = true := by
    have hdrop := List.head?_dropWhile_not (!Url.endsAuthority ·) c.place
    rw [show (c.place.dropWhile (!Url.endsAuthority ·)).head? = some ch from hch] at hdrop
    simpa using hdrop
  have hpath := endsPath_of_mem_tail hquery hfragment ch (List.mem_of_mem_head? hch)
  rw [Url.endsPath, Bool.or_eq_false_iff] at hpath
  rw [Url.endsAuthority, hpath.1, hpath.2] at hends
  simpa using hends

/-- The address of a path below the endpoint goes on from the path of the endpoint. -/
theorem exists_root_path (hweb : isWebAddress c.endpoint = true) {path : String}
    (hpath : IsServerPath path) {url : Url} (hurl : Url.parse? (c.address path) = some url)
    {segments : List (List Char)} {query : List Char}
    (htext : path.toList = Url.joined segments ++ query) (hne : segments ≠ [])
    (hsegments : ∀ segment ∈ segments, ∀ ch ∈ segment, isUnreserved ch = true ∨ ch = '%')
    (hend : query = [] ∨ query.head? = some '?') :
    c.root? = none ∨ ∃ root, c.root? = some root ∧ Url.IsPlainPath root.path.dropLast ∧
      url.path = Url.resolveFrom root.path.dropLast segments := by
  have htail := endsPath_of_mem_tail hquery hfragment
  have hhead := isSlash_of_head?_tail hquery hfragment
  rw [parse?_address hweb hpath] at hurl
  rw [root?, parse?_address hweb isServerPath_root]
  by_cases hplace : c.place = []
  · left
    rw [if_pos hplace]
    cases c.isSecure <;> decide
  · right
    rw [if_neg hplace] at hurl ⊢
    obtain ⟨server, hserver, rfl⟩ := Option.map_eq_some_iff.mp hurl
    have hslash : "/".toList = Url.joined [[]] ++ [] := by decide
    have hroot : (server.withTail (c.tail ++ "/".toList)).path = Url.base c.tail ++ [""] := by
      rw [hslash, path_withTail server htail hhead (List.cons_ne_nil [] []) (by simp) (Or.inl rfl)]
      exact Url.finish_eq_append (by decide)
    refine ⟨_, by rw [hserver]; rfl, ?_, ?_⟩
    · rw [hroot, List.dropLast_concat]
      exact Url.isPlainPath_base c.tail
    · rw [hroot, List.dropLast_concat, htext]
      exact path_withTail server htail hhead hne hsegments hend

end

/-! ## Staying on the job -/

/-- Whether a path is that of a scope below the endpoint: the path of the endpoint, a pair of
segments for each name of the folder, then one for each of at least one name of the job, and then
what is asked for. -/
def IsJobPath (c : Client) (scope : JobScope) (path : List String) : Prop :=
  ∃ root, c.root? = some root ∧ JobPath.names scope.job.job ≠ [] ∧
    path = root.path.dropLast ++ scope.path

/-- A request about a job stays on the job that is named exactly when the job has a name, none of
the names of the job and its folder is one or two dots, and the endpoint by itself is an address.
This holds for all calls about a job, at any point of any run, and for all endpoints without a query
and a fragment. -/
theorem job_requests_stay_iff (hc : c.IsBuilt) (hquery : '?' ∉ c.endpoint.toList)
    (hfragment : '#' ∉ c.endpoint.toList) {scope : JobScope}
    (hscope : call.jobScope? = some scope) (he : e ∈ c.attemptsOf network before call)
    (hmethod : e.request.method = call.method) :
    c.IsJobPath scope e.request.url.path ↔
      c.root?.isSome = true ∧ JobPath.names scope.job.job ≠ [] ∧
        ∀ name ∈ scope.job.names, name ≠ ['.'] ∧ name ≠ ['.', '.'] := by
  obtain ⟨url, hurl, heq⟩ := exists_url_of_mem_attemptsOf hc.isIssued he hmethod
  obtain ⟨query, htext, hend⟩ := Call.exists_query hscope c.credential.identity
  have hroot := exists_root_path hquery hfragment hc.isWebAddress
    (call.isServerPath_path c.credential.identity) hurl htext scope.segments_ne_nil
    (fun _ => scope.isUnreserved_or_of_mem_segments) hend
  rw [IsJobPath, heq]
  -- without an address of its own the endpoint has no path to stay below
  rcases hroot with hnone | ⟨root, hsome, hplain, hpath⟩
  · simp [hnone]
  · have hkept : ∀ segment ∈ scope.segments, ∀ ch ∈ segment, Url.keptInPath ch = true :=
      fun segment hsegment ch hch =>
        (of_isUnreserved_or (scope.isUnreserved_or_of_mem_segments hsegment ch hch)).1
    have hresolve := Url.resolveFrom_eq_append_iff hplain hkept
      (fun _ hsegment hdot => (scope.isDotSegment_of_mem_segments hsegment hdot).1)
    rw [← hpath, scope.forall_not_isDotSegment_iff] at hresolve
    simp only [hsome, Option.some.injEq, exists_eq_left', Option.isSome_some, true_and]
    rw [← hresolve]
    rfl

/-- A job with a space in its name, in a folder below an endpoint with a path: what deletes it stays
on it. -/
theorem job_requests_stay_iff_of_folder :
    ∃ (c : Client) (scope : JobScope) (e : Exchange), c.IsBuilt ∧
      scope.path = ["job", "team", "job", "a%20b", "doDelete"] ∧
      e ∈ c.attemptsOf (.scripted []) [] (.write (.deleteJob ⟨some "team", "a b"⟩)) ∧
      e.request.method = .post ∧ c.IsJobPath scope e.request.url.path := by
  have hbuilt : (⟨"http://h/ci", .anonymous, .standard⟩ : Client).IsBuilt :=
    ⟨{ Setup.standard with endpoint := some "http://h/ci" }, rfl, by simp [Setup.standard]⟩
  obtain ⟨e, he⟩ : ∃ e, ((⟨"http://h/ci", .anonymous, .standard⟩ : Client).attemptsOf
      (.scripted []) [] (.write (.deleteJob ⟨some "team", "a b"⟩)))[1]? = some e :=
    Option.isSome_iff_exists.mp (by decide +kernel)
  have hmethod : e.request.method = .post := by
    have key : ((⟨"http://h/ci", .anonymous, .standard⟩ : Client).attemptsOf
        (.scripted []) [] (.write (.deleteJob ⟨some "team", "a b"⟩)))[1]?.all
          (fun e => e.request.method = .post) = true := by decide +kernel
    rw [he] at key
    simpa using key
  have hmem := List.mem_of_getElem? he
  exact ⟨_, ⟨⟨some "team", "a b"⟩, ["doDelete"], by decide⟩, e, hbuilt, by decide, hmem, hmethod,
    (job_requests_stay_iff hbuilt (by decide) (by decide) rfl hmem hmethod).mpr
      ⟨by decide, by decide, by decide⟩⟩

/-- A job of two dots in a folder, and a job without a name there: what should delete the job asks
for the deletion of the folder. -/
theorem delete_addresses_folder :
    ∃ c : Client, c.IsBuilt ∧ '?' ∉ c.endpoint.toList ∧ '#' ∉ c.endpoint.toList ∧
      (c.attemptsOf (.scripted []) [] (.write (.deleteJob ⟨some "team", ".."⟩))).map
          (fun e => (e.request.method, e.request.url.path)) =
        [(.get, ["crumbIssuer", "api", "xml"]), (.post, ["job", "team", "doDelete"])] ∧
      (c.attemptsOf (.scripted []) [] (.write (.deleteJob ⟨some "team", ""⟩))).map
          (fun e => (e.request.method, e.request.url.path)) =
        [(.get, ["crumbIssuer", "api", "xml"]), (.post, ["job", "team", "doDelete"])] :=
  ⟨⟨"http://h", .anonymous, .standard⟩,
    ⟨{ Setup.standard with endpoint := some "http://h" }, rfl, by simp [Setup.standard]⟩,
    by decide, by decide, by decide, by decide⟩

end Client
end CiClient
