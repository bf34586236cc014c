import CiClient.Client.Call
import CiClient.Proofs.AsciiChars

/-!
# Paths on the server

Every path that a call asks for begins with a slash and is written with unreserved characters,
escapes and the separators of paths and queries, whatever names, numbers and parameters the call is
made with. So a path on the server never holds white space, a line break, a backslash, an at sign or
a number sign, and none of its characters is lost or escaped again when the address is read.
-/

set_option autoImplicit false

namespace CiClient

/-! ## Characters of paths -/

/-- The characters that paths on the server are written with. -/
def isPathChar (c : Char) : Bool :=
  Bytes.Percent.isUnreserved c || ['%', '/', '?', '=', '&'].contains c

/-- Paths are written in ASCII. -/
theorem isPathChar_lt {c : Char} (h : isPathChar c = true) : c.toNat < 128 := by
  rw [isPathChar, Bool.or_eq_true] at h
  rcases h with h | h
  · exact Bytes.Percent.isUnreserved_lt h
  · have key : ['%', '/', '?', '=', '&'].all (·.toNat < 128) = true := by decide
    exact of_decide_eq_true (List.all_eq_true.mp key c (by simpa using h))

/-- A fact about the characters of paths is checked on the ASCII characters. -/
theorem forall_of_isPathChar {P : Char → Prop}
    (h : ∀ n < 128, isPathChar (Char.ofNat n) = true → P (Char.ofNat n)) {c : Char}
    (hc : isPathChar c = true) : P c :=
  forall_of_ascii (P := fun c => isPathChar c = true → P c) h (isPathChar_lt hc) hc

/-! ## Texts of such characters -/

/-- A text that is written with characters of paths. -/
def IsPathText (text : String) : Prop := ∀ c ∈ text.toList, isPathChar c = true

/-- Whether a text is written with characters of paths is checked one by one. -/
instance (text : String) : Decidable (IsPathText text) :=
  decidable_of_iff (text.toList.all isPathChar = true) List.all_eq_true

/-- Two such texts can be joined. -/
theorem IsPathText.append {a b : String} (ha : IsPathText a) (hb : IsPathText b) :
    IsPathText (a ++ b) := by
  intro c hc
  rw [String.toList_append, List.mem_append] at hc
  rcases hc with hc | hc
  · exact ha c hc
  · exact hb c hc

/-- The unreserved characters are characters of paths. -/
theorem isPathChar_of_isUnreserved {c : Char} (h : Bytes.Percent.isUnreserved c = true) :
    isPathChar c = true := by
  unfold isPathChar
  rw [h, Bool.true_or]

/-- Encoding leaves unreserved characters and escapes. -/
theorem isPathChar_of_mem_encodeWith {cs : List Char} {c : Char}
    (h : c ∈ Bytes.Percent.encodeWith Bytes.Percent.isUnreserved cs) : isPathChar c = true := by
  rcases Bytes.Percent.of_mem_encodeWith h with h | rfl
  · exact isPathChar_of_isUnreserved h
  · decide

/-- An encoded text is written with characters of paths, whatever the text is. -/
theorem isPathText_encode (s : String) : IsPathText (Bytes.Percent.encode s) := by
  intro c hc
  unfold Bytes.Percent.encode at hc
  rw [String.toList_ofList] at hc
  exact isPathChar_of_mem_encodeWith hc

/-- So is a signed number. -/
theorem isPathText_ofInt64 (n : Int64) : IsPathText (Text.ofInt64 n) :=
  fun _ hc => isPathChar_of_isUnreserved (Text.isUnreserved_of_mem_ofInt64 hc)

/-- So is a natural number. -/
theorem isPathText_repr (n : Nat) : IsPathText (Nat.repr n) :=
  fun _ hc => isPathChar_of_isUnreserved
    (Bytes.Percent.isUnreserved_of_isDigit (Text.isDigit_of_mem_repr hc))

/-- Texts of path characters stay such when they are joined by one. -/
theorem isPathText_intercalate {sep : String} (hsep : IsPathText sep) {texts : List String}
    (h : ∀ text ∈ texts, IsPathText text) : IsPathText (String.intercalate sep texts) := by
  induction texts with
  | nil => simp [IsPathText]
  | cons text texts ih =>
    have htext : IsPathText text := h text List.mem_cons_self
    have htexts := ih fun other hother => h other (List.mem_cons_of_mem text hother)
    cases texts with
    | nil => simpa using htext
    | cons next texts =>
      rw [String.intercalate_cons_cons]
      exact (htext.append hsep).append htexts

/-! ## Paths -/

/-- A text of path characters that begins with a slash. -/
structure IsServerPath (path : String) : Prop where
  head : path.toList.head? = some '/'
  chars : IsPathText path

/-- A path on the server can be continued. -/
theorem IsServerPath.append {a b : String} (ha : IsServerPath a) (hb : IsPathText b) :
    IsServerPath (a ++ b) where
  head := by rw [String.toList_append, List.head?_append, ha.head]; rfl
  chars := ha.chars.append hb

/-- The part of a name is a mark and the encoded name. -/
theorem JobPath.part_eq (name : List Char) :
    JobPath.part name =
      ['/', 'j', 'o', 'b', '/'] ++
        Bytes.Percent.encodeWith Bytes.Percent.isUnreserved name := rfl

/-- The path of folders and jobs is empty or a path on the server. -/
theorem JobPath.encode_cases (path : String) :
    JobPath.encode path = "" ∨ IsServerPath (JobPath.encode path) := by
  unfold JobPath.encode
  cases hnames : JobPath.names path with
  | nil => exact Or.inl rfl
  | cons name names =>
    refine Or.inr ⟨?_, ?_⟩
    · rw [String.toList_ofList, List.flatMap_cons, JobPath.part_eq]
      rfl
    · intro c hc
      rw [String.toList_ofList, List.mem_flatMap] at hc
      obtain ⟨other, -, hc⟩ := hc
      rw [JobPath.part_eq, List.mem_append] at hc
      rcases hc with hc | hc
      · have key : ['/', 'j', 'o', 'b', '/'].all isPathChar = true := by decide
        exact List.all_eq_true.mp key c hc
      · exact isPathChar_of_mem_encodeWith hc

/-- What follows the path of folders and jobs makes it a path on the server. -/
theorem isServerPath_encode_append (path : String) {rest : String} (hrest : IsServerPath rest) :
    IsServerPath (JobPath.encode path ++ rest) := by
  rcases JobPath.encode_cases path with h | h
  · rwa [h, String.empty_append]
  · exact h.append hrest.chars

/-- A folder in front, if there is one, makes no difference. -/
theorem isServerPath_ofFolder_append (folder : Option String) {rest : String}
    (hrest : IsServerPath rest) : IsServerPath (JobPath.ofFolder folder ++ rest) := by
  cases folder with
  | none => rwa [JobPath.ofFolder, String.empty_append]
  | some folder => exact isServerPath_encode_append folder hrest

/-- The path of a job can be continued to a path on the server. -/
theorem isServerPath_job_append (job : JobRef) {rest : String} (hrest : IsServerPath rest) :
    IsServerPath (job.path ++ rest) := by
  rw [JobRef.path, String.append_assoc]
  exact isServerPath_ofFolder_append job.folder (isServerPath_encode_append job.job hrest)

/-- A number behind a slash is a path on the server. -/
theorem isServerPath_number (number : Int64) : IsServerPath ("/" ++ Text.ofInt64 number) :=
  IsServerPath.append ⟨by decide, by decide⟩ (isPathText_ofInt64 number)

/-- A build of a job has a path on the server. -/
theorem isServerPath_job_number (job : JobRef) (number : Int64) {rest : String}
    (hrest : IsPathText rest) : IsServerPath (job.path ++ "/" ++ Text.ofInt64 number ++ rest) := by
  have hbuild := isServerPath_job_append job (isServerPath_number number)
  rw [← String.append_assoc] at hbuild
  exact hbuild.append hrest

/-- The parameters of the plugins are written with characters of paths. -/
theorem isPathText_pluginQuery (depth : Option UInt32) (tree : Option String) :
    ∀ text ∈ ReadCall.pluginQuery depth tree, IsPathText text := by
  intro text htext
  rw [ReadCall.pluginQuery, List.mem_append, Option.mem_toList, Option.mem_toList,
    Option.map_eq_some_iff, Option.map_eq_some_iff] at htext
  rcases htext with ⟨n, -, rfl⟩ | ⟨t, -, rfl⟩
  · exact IsPathText.append (by decide) (isPathText_repr _)
  · exact IsPathText.append (by decide) (isPathText_encode t)

/-- With such parameters a path remains one on the server. -/
theorem isServerPath_withQuery {path : String} (h : IsServerPath path) {parameters : List String}
    (hparameters : ∀ text ∈ parameters, IsPathText text) :
    IsServerPath (ReadCall.withQuery path parameters) := by
  cases parameters with
  | nil => exact h
  | cons first others =>
    exact (h.append (by decide)).append (isPathText_intercalate (by decide) hparameters)

/-- The path of every read is a path on the server, whoever asks. -/
theorem ReadCall.isServerPath_path (identity : String) (call : ReadCall) :
    IsServerPath (call.path identity) := by
  cases call with
  | jobList folder => exact isServerPath_ofFolder_append folder ⟨by decide, by decide⟩
  | jobInfo job => exact isServerPath_job_append job ⟨by decide, by decide⟩
  | build job number => exact isServerPath_job_number job number (by decide)
  | jobConfig job => exact isServerPath_job_append job ⟨by decide, by decide⟩
  | jobDescription job => exact isServerPath_job_append job ⟨by decide, by decide⟩
  | lastBuildNumber job => exact isServerPath_job_append job ⟨by decide, by decide⟩
  | lastBuildTimestamp job => exact isServerPath_job_append job ⟨by decide, by decide⟩
  | console job number start =>
    exact (isServerPath_job_number job number (by decide)).append (isPathText_ofInt64 start)
  | queue =>
    change IsServerPath "/queue/api/json"
    exact ⟨by decide, by decide⟩
  | queueItem number =>
    exact (IsServerPath.append ⟨by decide, by decide⟩ (isPathText_ofInt64 number)).append
      (by decide)
  | plugins depth tree =>
    exact isServerPath_withQuery ⟨by decide, by decide⟩ (isPathText_pluginQuery depth tree)
  | user =>
    exact (IsServerPath.append ⟨by decide, by decide⟩ (isPathText_encode identity)).append
      (by decide)
  | load =>
    change IsServerPath "/overallLoad/api/json"
    exact ⟨by decide, by decide⟩
  | serverInfo =>
    change IsServerPath "/"
    exact ⟨by decide, by decide⟩

/-- The path of tokens is one on the server. -/
theorem WriteCall.isServerPath_tokenPath : IsServerPath WriteCall.tokenPath :=
  ⟨by decide, by decide⟩

/-- The path of every write is a path on the server. -/
theorem WriteCall.isServerPath_path (call : WriteCall) : IsServerPath call.path := by
  cases call with
  | createJob folder name markup =>
    have hitem : IsServerPath "/createItem?name=" := ⟨by decide, by decide⟩
    change IsServerPath (JobPath.ofFolder folder ++ "/createItem?name=" ++ _)
    rw [String.append_assoc]
    exact isServerPath_ofFolder_append folder (hitem.append (isPathText_encode name))
  | updateJob job markup => exact isServerPath_job_append job ⟨by decide, by decide⟩
  | describeJob job description => exact isServerPath_job_append job ⟨by decide, by decide⟩
  | deleteJob job => exact isServerPath_job_append job ⟨by decide, by decide⟩
  | enableJob job => exact isServerPath_job_append job ⟨by decide, by decide⟩
  | disableJob job => exact isServerPath_job_append job ⟨by decide, by decide⟩
  | renameJob job name =>
    exact (isServerPath_job_append job ⟨by decide, by decide⟩).append (isPathText_encode name)
  | startBuild job => exact isServerPath_job_append job ⟨by decide, by decide⟩
  | startBuildWith job parameters => exact isServerPath_job_append job ⟨by decide, by decide⟩
  | stopBuild job number =>
    exact (isServerPath_job_number job number (by decide)).append (by decide)
  | terminateBuild job number =>
    exact (isServerPath_job_number job number (by decide)).append (by decide)
  | killBuild job number =>
    exact (isServerPath_job_number job number (by decide)).append (by decide)
  | cancelItem number =>
    exact IsServerPath.append ⟨by decide, by decide⟩ (isPathText_ofInt64 number)
  | installPlugin plugin =>
    change IsServerPath "/pluginManager/installNecessaryPlugins"
    exact ⟨by decide, by decide⟩
  | quietDown =>
    change IsServerPath "/quietDown"
    exact ⟨by decide, by decide⟩
  | cancelQuietDown =>
    change IsServerPath "/cancelQuietDown"
    exact ⟨by decide, by decide⟩
  | grantToken name => exact isServerPath_tokenPath.append (by decide)
  | revokeToken uuid => exact isServerPath_tokenPath.append (by decide)

/-- The path of the issuer is one on the server. -/
theorem isServerPath_crumbPath : IsServerPath Client.crumbPath :=
  IsServerPath.append ⟨by decide, by decide⟩ (isPathText_encode _)

end CiClient
