import CiClient.Proofs.JobScope
import CiClient.Proofs.SetupSources

/-!
# Endpoints that stay as they are

A client takes the white space off both ends of its endpoint, and then the slashes off the end.
White space that stood before these slashes now ends the endpoint, and it stays there. An endpoint
is settled when it has neither white space at an end nor a slash at its end: exactly then a client
that is built with it again keeps it, and the endpoint of a client is settled unless white space was
hidden by slashes.

Settled or not, the endpoint of a client names a web address and has no slash at its end. All paths
begin with one slash, so this slash alone stands between the endpoint and the path of a request.
-/

set_option autoImplicit false

namespace CiClient

open Http (Dialogue Exchange Method Network Request)
open Uri (Url)

namespace Client

/-! ## Settled endpoints -/

/-- An endpoint without white space at its ends and without a slash at its end. -/
structure IsSettled (endpoint : String) : Prop where
  head : ∀ ch ∈ endpoint.toList.head?, Text.isBlank ch = false
  last : ∀ ch ∈ endpoint.toList.getLast?, Text.isBlank ch = false
  slash : endpoint.toList.getLast? ≠ some '/'

/-- Behind the slashes at the end of a trimmed endpoint there is white space. -/
def HidesBlank (endpoint : String) : Prop :=
  ∃ front blank slashes, Text.trimChars endpoint.toList = front ++ blank :: '/' :: slashes ∧
    Text.isBlank blank = true ∧ ∀ ch ∈ slashes, ch = '/'

/-- The endpoint of a client is the given one without white space around it and then without slashes
at its end. -/
theorem toList_trimEndpoint (endpoint : String) :
    (trimEndpoint endpoint).toList =
      Text.dropEndWhile (· == '/') (Text.trimChars endpoint.toList) := by
  rw [trimEndpoint, String.toList_ofList]

/-- The endpoint of a client does not end with a slash. -/
theorem getLast?_trimEndpoint_ne_slash (endpoint : String) :
    (trimEndpoint endpoint).toList.getLast? ≠ some '/' := by
  rw [toList_trimEndpoint]
  intro h
  obtain ⟨-, -, -, hkept, -⟩ := Text.getLast?_dropEndWhile_eq_some_iff.mp h
  exact absurd hkept (by decide)

/-- The settled endpoints are those that a client keeps. -/
theorem trimEndpoint_eq_self_iff {endpoint : String} :
    trimEndpoint endpoint = endpoint ↔ IsSettled endpoint := by
  constructor
  · intro h
    have htext : Text.dropEndWhile (· == '/') (Text.trimChars endpoint.toList) =
        endpoint.toList := by
      rw [← toList_trimEndpoint, h]
    -- neither step can have taken anything away
    have htrim : Text.trimChars endpoint.toList = endpoint.toList := by
      have hfront : endpoint.toList <+: Text.trimChars endpoint.toList := by
        conv => lhs; rw [← htext]
        exact List.rdropWhile_prefix _ _
      have hinside : (Text.trimChars endpoint.toList).Sublist endpoint.toList :=
        (List.rdropWhile_prefix _ _).sublist.trans (List.dropWhile_sublist _)
      exact hinside.antisymm hfront.sublist
    obtain ⟨hhead, hlast⟩ := Text.trimChars_eq_self_iff.mp htrim
    have hslash := getLast?_trimEndpoint_ne_slash endpoint
    rw [h] at hslash
    exact ⟨hhead, hlast, hslash⟩
  · rintro ⟨hhead, hlast, hslash⟩
    have hkept : ∀ ch ∈ endpoint.toList.getLast?, (ch == '/') = false := by
      intro ch hch
      rw [beq_eq_false_iff_ne]
      rintro rfl
      exact hslash hch
    rw [← String.toList_inj, toList_trimEndpoint,
      Text.trimChars_eq_self_iff.mpr ⟨hhead, hlast⟩, Text.dropEndWhile_eq_self hkept]

/-- White space ends the endpoint of a client exactly when slashes hid it. -/
theorem last_trimEndpoint_iff {endpoint : String} :
    (∀ ch ∈ (trimEndpoint endpoint).toList.getLast?, Text.isBlank ch = false) ↔
      ¬HidesBlank endpoint := by
  rw [toList_trimEndpoint]
  constructor
  · rintro h ⟨front, blank, slashes, htext, hblank, hslashes⟩
    have hkept : (blank == '/') = false := by
      rw [beq_eq_false_iff_ne]
      rintro rfl
      revert hblank
      decide
    have hlast := h blank (Text.getLast?_dropEndWhile_eq_some_iff.mpr
      ⟨front, '/' :: slashes, htext, hkept, by simpa using hslashes⟩)
    rw [hblank] at hlast
    cases hlast
  · intro hfree ch hch
    obtain ⟨front, back, htext, -, hback⟩ := Text.getLast?_dropEndWhile_eq_some_iff.mp hch
    cases back with
    | nil =>
      -- nothing was taken off the end of a trimmed text
      have hlast : (Text.trimChars endpoint.toList).getLast? = some ch := by
        rw [htext, List.getLast?_concat]
      obtain ⟨-, -, -, hkept, -⟩ := Text.getLast?_dropEndWhile_eq_some_iff.mp hlast
      exact hkept
    | cons slash slashes =>
      simp only [beq_iff_eq, List.forall_mem_cons] at hback
      obtain ⟨rfl, hslashes⟩ := hback
      rw [← Bool.not_eq_true]
      intro hblank
      exact hfree ⟨front, ch, slashes, htext, hblank, hslashes⟩

/-- A web address begins with one of the two schemes of the web. -/
theorem isWebAddress_iff {address : String} :
    isWebAddress address = true ↔
      "http://".toList <+: address.toList ∨ "https://".toList <+: address.toList := by
  rw [isWebAddress, Bool.or_eq_true, List.isPrefixOf_iff_prefix, List.isPrefixOf_iff_prefix]

/-- A web address begins with the name of its scheme. -/
theorem head?_of_isWebAddress {address : String} (h : isWebAddress address = true) :
    address.toList.head? = some 'h' := by
  rcases isWebAddress_iff.mp h with ⟨rest, hrest⟩ | ⟨rest, hrest⟩
  · rw [← hrest]
    rfl
  · rw [← hrest]
    rfl

/-- The endpoint of a client is settled unless white space was hidden by slashes. -/
theorem isSettled_trimEndpoint_iff {endpoint : String}
    (h : isWebAddress (trimEndpoint endpoint) = true) :
    IsSettled (trimEndpoint endpoint) ↔ ¬HidesBlank endpoint := by
  constructor
  · intro hsettled
    exact last_trimEndpoint_iff.mp hsettled.last
  · intro hfree
    refine ⟨?_, last_trimEndpoint_iff.mpr hfree, getLast?_trimEndpoint_ne_slash endpoint⟩
    intro ch hch
    rw [head?_of_isWebAddress h] at hch
    cases hch
    decide

/-! ## Building again -/

/-- What is said about a new client, with the endpoint of a client that was built before. -/
def Setup.withEndpointOf (s : Setup) (c : Client) : Setup := { s with endpoint := some c.endpoint }

/-- A client that is built with the endpoint of one that was built has this endpoint if it is
settled. -/
theorem build_withEndpointOf_iff {s : Setup} {c : Client} (h : s.build = .ok c) :
    (s.withEndpointOf c).build = .ok c ↔ IsSettled c.endpoint := by
  obtain ⟨hendpoint, hcredential, hpolicy⟩ := Setup.build_eq_ok_iff.mp h
  obtain ⟨hweb, htrim⟩ := normalEndpoint_eq_ok_iff.mp hendpoint
  rw [← htrim] at hweb
  have hagain : (s.withEndpointOf c).build = .ok c ↔
      normalEndpoint c.endpoint = .ok c.endpoint ∧ s.chosenCredential = .ok c.credential ∧
        c.policy = s.policy := Setup.build_eq_ok_iff
  rw [hagain, ← trimEndpoint_eq_self_iff, normalEndpoint_eq_ok_iff]
  constructor
  · rintro ⟨⟨-, hsame⟩, -, -⟩
    exact hsame.symm
  · intro hsame
    exact ⟨⟨by rwa [hsame], hsame.symm⟩, hcredential, hpolicy⟩

end Client

/-! ## Paths with one slash in front -/

/-- A path that begins with a slash, but not with two. -/
def BeginsOnce (path : String) : Prop := ∃ rest, path.toList = '/' :: rest ∧ rest.head? ≠ some '/'

/-- Whether a path begins with a slash and a character that is none. -/
def isNamed (path : String) : Bool :=
  match path.toList with
  | '/' :: ch :: _ => ch != '/'
  | _ => false

/-- A named path begins with a slash and a character that is none. -/
theorem isNamed_iff {path : String} :
    isNamed path = true ↔ ∃ ch rest, path.toList = '/' :: ch :: rest ∧ ch ≠ '/' := by
  unfold isNamed
  constructor
  · intro h
    split at h
    · rename_i ch rest htext
      exact ⟨ch, rest, htext, by simpa using h⟩
    · cases h
  · rintro ⟨ch, rest, htext, hne⟩
    rw [htext]
    simpa using hne

/-- A named path begins with one slash only. -/
theorem BeginsOnce.of_isNamed {path : String} (h : isNamed path = true) : BeginsOnce path := by
  obtain ⟨ch, rest, htext, hne⟩ := isNamed_iff.mp h
  exact ⟨ch :: rest, htext, by simpa using hne⟩

/-- A named path stays named, whatever follows. -/
theorem isNamed_append {a : String} (h : isNamed a = true) (b : String) :
    isNamed (a ++ b) = true := by
  obtain ⟨ch, rest, htext, hne⟩ := isNamed_iff.mp h
  exact isNamed_iff.mpr ⟨ch, rest ++ b.toList, by rw [String.toList_append, htext]; rfl, hne⟩

/-- The path of folders and jobs before a path leaves it one slash in front. -/
theorem isNamed_encode_append (path : String) {rest : String} (h : isNamed rest = true) :
    isNamed (JobPath.encode path ++ rest) = true := by
  unfold JobPath.encode
  cases JobPath.names path with
  | nil => exact h
  | cons name names =>
    refine isNamed_append ?_ rest
    rw [isNamed, String.toList_ofList, List.flatMap_cons, JobPath.part_eq]
    rfl

/-- The path of a folder before a path leaves it one slash in front. -/
theorem isNamed_ofFolder_append (folder : Option String) {rest : String}
    (h : isNamed rest = true) : isNamed (JobPath.ofFolder folder ++ rest) = true := by
  cases folder with
  | none => rwa [JobPath.ofFolder, String.empty_append]
  | some folder => exact isNamed_encode_append folder h

/-- The path of a job before a path leaves it one slash in front. -/
theorem isNamed_job_append (job : JobRef) {rest : String} (h : isNamed rest = true) :
    isNamed (job.path ++ rest) = true := by
  rw [JobRef.path, String.append_assoc]
  exact isNamed_ofFolder_append job.folder (isNamed_encode_append job.job h)

/-- No number begins with a slash. -/
theorem isNamed_number (number : Int64) : isNamed ("/" ++ Text.ofInt64 number) = true := by
  have hne : (Text.ofInt64 number).toList ≠ [] := by
    unfold Text.ofInt64
    split
    · simp [String.toList_append]
    · rw [Nat.toList_repr]
      exact Nat.toDigits_ne_nil
  obtain ⟨ch, rest, htext⟩ := List.exists_cons_of_ne_nil hne
  have hch : Bytes.Percent.isUnreserved ch = true :=
    Text.isUnreserved_of_mem_ofInt64 (by rw [htext]; exact List.mem_cons_self)
  refine isNamed_iff.mpr ⟨ch, rest, by rw [String.toList_append, htext]; rfl, ?_⟩
  rintro rfl
  exact absurd hch (by decide)

/-- The path of a build begins with one slash only, whatever is asked of it. -/
theorem isNamed_job_number (job : JobRef) (number : Int64) (rest : String) :
    isNamed (job.path ++ "/" ++ Text.ofInt64 number ++ rest) = true := by
  have hbuild := isNamed_job_append job (isNamed_number number)
  rw [← String.append_assoc] at hbuild
  exact isNamed_append hbuild rest

/-- The path of every read begins with one slash only. -/
theorem ReadCall.beginsOnce_path (identity : String) (call : ReadCall) :
    BeginsOnce (call.path identity) := by
  cases call with
  | serverInfo =>
    change BeginsOnce "/"
    exact ⟨[], rfl, by simp⟩
  | jobList folder => exact .of_isNamed (isNamed_ofFolder_append folder (by decide))
  | jobInfo job | jobConfig job | jobDescription job | lastBuildNumber job
  | lastBuildTimestamp job => exact .of_isNamed (isNamed_job_append job (by decide))
  | build job number => exact .of_isNamed (isNamed_job_number job number _)
  | console job number start =>
    exact .of_isNamed (isNamed_append (isNamed_job_number job number _) _)
  | queueItem number => exact .of_isNamed (isNamed_append (isNamed_append (by decide) _) _)
  | user => exact .of_isNamed (isNamed_append (isNamed_append (by decide) _) _)
  | plugins depth tree =>
    change BeginsOnce (withQuery _ (pluginQuery depth tree))
    cases pluginQuery depth tree with
    | nil => exact .of_isNamed (by decide)
    | cons first others => exact .of_isNamed (isNamed_append (isNamed_append (by decide) _) _)
  | queue =>
    change BeginsOnce "/queue/api/json"
    exact .of_isNamed (by decide)
  | load =>
    change BeginsOnce "/overallLoad/api/json"
    exact .of_isNamed (by decide)

/-- The path of every write begins with one slash only. -/
theorem WriteCall.beginsOnce_path (call : WriteCall) : BeginsOnce call.path := by
  have hbuild : ∀ job number verb, BeginsOnce (buildPath job number verb) :=
    fun job number verb => .of_isNamed (isNamed_append (isNamed_job_number job number "/") verb)
  cases call with
  | createJob folder name markup =>
    change BeginsOnce (JobPath.ofFolder folder ++ "/createItem?name=" ++ _)
    rw [String.append_assoc]
    exact .of_isNamed (isNamed_ofFolder_append folder (isNamed_append (by decide) _))
  | renameJob job name => exact .of_isNamed (isNamed_append (isNamed_job_append job (by decide)) _)
  | updateJob job _ | describeJob job _ | startBuildWith job _ =>
    exact .of_isNamed (isNamed_job_append job (by decide))
  | deleteJob job | enableJob job | disableJob job | startBuild job =>
    exact .of_isNamed (isNamed_job_append job (by decide))
  | stopBuild job number => exact hbuild job number "stop"
  | terminateBuild job number => exact hbuild job number "term"
  | killBuild job number => exact hbuild job number "kill"
  | cancelItem number => exact .of_isNamed (isNamed_append (by decide) _)
  | installPlugin _ =>
    change BeginsOnce "/pluginManager/installNecessaryPlugins"
    exact .of_isNamed (by decide)
  | quietDown =>
    change BeginsOnce "/quietDown"
    exact .of_isNamed (by decide)
  | cancelQuietDown =>
    change BeginsOnce "/cancelQuietDown"
    exact .of_isNamed (by decide)
  | grantToken _ | revokeToken _ => exact .of_isNamed (isNamed_append (by decide) _)

/-- The path of the issuer begins with one slash only. -/
theorem beginsOnce_crumbPath : BeginsOnce Client.crumbPath :=
  .of_isNamed (isNamed_append (by decide) _)

/-- The path of every call begins with one slash only. -/
theorem Call.beginsOnce_path (identity : String) (call : Call) :
    BeginsOnce (call.path identity) := by
  cases call with
  | read call => exact call.beginsOnce_path identity
  | write call => exact call.beginsOnce_path
  | crumb => exact beginsOnce_crumbPath

/-! ## What is requested -/

namespace Client

variable {c : Client} {network : Network} {before : List Call} {call : Call} {e : Exchange}

/-- A request goes to the address of a path, but for the user that the address may name. -/
def Asks (c : Client) (path : String) (r : Request) : Prop :=
  ∃ url, Url.parse? (c.endpoint ++ path) = some url ∧ r.url = (Request.ofUrl r.method url).url

/-- A plain request goes to the address it is made of. -/
theorem asks_plainRequest {path : String} {url : Url} (method : Method)
    (hurl : Url.parse? (c.address path) = some url) :
    c.Asks path (c.plainRequest method url).signed := by
  obtain ⟨hmethod, hrequested⟩ := c.method_url_plainRequest method url
  refine ⟨url, hurl, ?_⟩
  change (c.plainRequest method url).url =
    (Request.ofUrl (c.plainRequest method url).method url).url
  rw [hmethod, hrequested]

/-- All that settles the decision on crumbs is the request to the issuer. -/
theorem asks_of_mem_attempts_resolve (hc : c.credential.login.IsIssued)
    (slot : Option CrumbDecision) {history : List Exchange}
    (he : e ∈ (c.resolve slot).attempts network history) : c.Asks crumbPath e.request := by
  cases slot with
  | some d => cases he
  | none =>
    rw [resolve, Dialogue.attempts_bind, List.mem_append] at he
    rcases he with he | he
    · obtain ⟨url, hurl, heq⟩ := exists_of_mem_attempts_fetchCrumb network _ hc he
      rw [heq]
      exact asks_plainRequest .get hurl
    · cases he

/-- A call asks for its own path, and a write perhaps for a crumb before. -/
theorem asks_of_mem_attemptsOf (hc : c.credential.login.IsIssued)
    (he : e ∈ c.attemptsOf network before call) :
    c.Asks (call.path c.credential.identity) e.request ∨ c.Asks crumbPath e.request := by
  cases call with
  | read call =>
    rw [attemptsOf, attempts_perform_read] at he
    obtain ⟨url, hurl, heq⟩ := exists_of_mem_attempts_read hc he
    rw [heq]
    exact Or.inl (asks_plainRequest call.method hurl)
  | crumb =>
    rw [attemptsOf, attempts_perform_crumb] at he
    obtain ⟨url, hurl, heq⟩ := exists_of_mem_attempts_fetchCrumb network _ hc he
    rw [heq]
    exact Or.inl (asks_plainRequest .get hurl)
  | write w =>
    rw [attemptsOf, attempts_perform_write] at he
    cases hurl : Url.parse? (c.address w.path) with
    | none =>
      rw [write_of_parse?_eq_none hurl] at he
      cases he
    | some url =>
      rw [attempts_write network _ hc hurl, List.mem_append] at he
      rcases he with he | he
      · exact Or.inr (asks_of_mem_attempts_resolve hc _ he)
      · obtain ⟨hmethod, hrequested⟩ := method_url_of_mem_attempts_sendProtected network _ he
        exact Or.inl ⟨url, hurl, by rw [hmethod, hrequested]⟩

/-- The endpoint of a built client names a scheme of the web, has no white space in front and no
slash at its end. It is free of white space at its end, and is kept when a client is built with it
again, exactly when the endpoint that was said had no white space behind slashes at its end.
Whatever is requested is the endpoint and a path behind it that begins with one slash. -/
theorem endpoint_settled_iff {s : Setup} (h : s.build = .ok c)
    (hgiven : ∀ credential, s.credential = some credential → credential.login.IsIssued) :
    ("http://".toList <+: c.endpoint.toList ∨ "https://".toList <+: c.endpoint.toList) ∧
    (∀ ch ∈ c.endpoint.toList.head?, Text.isBlank ch = false) ∧
    c.endpoint.toList.getLast? ≠ some '/' ∧
    ((∀ ch ∈ c.endpoint.toList.getLast?, Text.isBlank ch = false) ↔
      ¬HidesBlank (s.endpoint.getD Settings.defaultEndpoint)) ∧
    ((s.withEndpointOf c).build = .ok c ↔
      ¬HidesBlank (s.endpoint.getD Settings.defaultEndpoint)) ∧
    ∀ (network : Network) (before : List Call) (call : Call),
      ∀ e ∈ c.attemptsOf network before call, ∃ path, BeginsOnce path ∧
        (path = call.path c.credential.identity ∨ path = crumbPath) ∧ c.Asks path e.request := by
  have hissued : c.credential.login.IsIssued := IsBuilt.isIssued ⟨s, h, hgiven⟩
  have hendpoint := (Setup.build_eq_ok_iff.mp h).1
  have hagain := build_withEndpointOf_iff h
  generalize s.endpoint.getD Settings.defaultEndpoint = said at hendpoint ⊢
  obtain ⟨hweb, htrim⟩ := normalEndpoint_eq_ok_iff.mp hendpoint
  have hsettled := isSettled_trimEndpoint_iff hweb
  have hlast := @last_trimEndpoint_iff said
  have hslash := getLast?_trimEndpoint_ne_slash said
  rw [← htrim] at hweb hsettled hlast hslash
  refine ⟨isWebAddress_iff.mp hweb, ?_, hslash, hlast, hagain.trans hsettled, ?_⟩
  · intro ch hch
    rw [head?_of_isWebAddress hweb] at hch
    cases hch
    decide
  · intro network before call e he
    rcases asks_of_mem_attemptsOf hissued he with hasks | hasks
    · exact ⟨_, call.beginsOnce_path _, Or.inl rfl, hasks⟩
    · exact ⟨_, beginsOnce_crumbPath, Or.inr rfl, hasks⟩

/-- An endpoint with white space outside of its slashes is kept, and one with white space behind a
slash at its end is not. -/
theorem endpoint_settled_iff_of_blanks :
    (∃ c : Client, (Setup.given "\thttp://h/ci// " none none).build = .ok c ∧
      c.endpoint = "http://h/ci" ∧ ¬HidesBlank "\thttp://h/ci// " ∧
      ((Setup.given "\thttp://h/ci// " none none).withEndpointOf c).build = .ok c ∧
      ∀ e ∈ c.attemptsOf (.scripted []) [] (.write .quietDown), ∃ path, BeginsOnce path ∧
        (path = "/quietDown" ∨ path = crumbPath) ∧ c.Asks path e.request) ∧
    ∃ c : Client, (Setup.given "http://h /" none none).build = .ok c ∧
      c.endpoint = "http://h " ∧ HidesBlank "http://h /" ∧
      ((Setup.given "http://h /" none none).withEndpointOf c).build ≠ .ok c := by
  constructor
  · have hbuild : (Setup.given "\thttp://h/ci// " none none).build =
        .ok ⟨"http://h/ci", .anonymous, .standard⟩ := by
      decide
    obtain ⟨-, -, -, -, hkept, hasked⟩ :=
      endpoint_settled_iff hbuild (by simp [Setup.given, Setup.standard])
    have hagain : ((Setup.given "\thttp://h/ci// " none none).withEndpointOf
        ⟨"http://h/ci", .anonymous, .standard⟩).build =
          .ok ⟨"http://h/ci", .anonymous, .standard⟩ := by
      decide
    exact ⟨_, hbuild, rfl, hkept.mp hagain, hagain, hasked (.scripted []) [] (.write .quietDown)⟩
  · have hbuild : (Setup.given "http://h /" none none).build =
        .ok ⟨"http://h ", .anonymous, .standard⟩ := by
      decide
    obtain ⟨-, -, -, -, hkept, -⟩ :=
      endpoint_settled_iff hbuild (by simp [Setup.given, Setup.standard])
    have hhidden : HidesBlank "http://h /" :=
      ⟨"http://h".toList, ' ', [], by decide, by decide, by simp⟩
    exact ⟨_, hbuild, rfl, hhidden, fun hagain => hkept.mp hagain hhidden⟩

/-- White space behind the slash at the end becomes the end of the endpoint. A client that is built
with it has another endpoint, and behind the slashes of the scheme it cannot be built. -/
theorem endpoint_changes_again :
    (Setup.given "http://h /" none none).build = .ok ⟨"http://h ", .anonymous, .standard⟩ ∧
    (Setup.given "http://h " none none).build = .ok ⟨"http://h", .anonymous, .standard⟩ ∧
    (Setup.given "http:// /" none none).build = .ok ⟨"http:// ", .anonymous, .standard⟩ ∧
    (Setup.given "http:// " none none).build =
      .error (.misconfigured "Endpoint must be an http(s) URL: http:") := by
  decide

end Client
end CiClient
