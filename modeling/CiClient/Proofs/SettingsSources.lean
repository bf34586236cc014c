import CiClient.Client.Basic
import CiClient.Proofs.ReferenceText
import CiClient.Proofs.TextPieces
import CiClient.Settings.Loading

/-!
# Settings from variables and from a table

The same endpoint and logins may be given in three variables or in a TOML table. The two ways clean
them at different stages: of variables the endpoint is trimmed at once, of a table only when a
client is made of the settings. Trimming twice is trimming once, so this makes no difference to the
client.

A blank endpoint is where they part. As a variable it counts as not set. In a table it is an
endpoint, and no client can be made of it.
-/

set_option autoImplicit false

namespace CiClient

/-! ## Endpoints -/

namespace Client

/-- The address of an endpoint is found without the white space around it. -/
theorem normalEndpoint_trim (endpoint : String) :
    normalEndpoint (Text.trim endpoint) = normalEndpoint endpoint := by
  have htrim : trimEndpoint (Text.trim endpoint) = trimEndpoint endpoint := by
    rw [trimEndpoint, Text.toList_trim, Text.trimChars_trimChars, trimEndpoint]
  rw [normalEndpoint, htrim, normalEndpoint]

/-- A blank endpoint has no address, and the error shows nothing of it. -/
theorem normalEndpoint_of_isAllBlank {endpoint : String} (h : Text.isAllBlank endpoint = true) :
    normalEndpoint endpoint = .error (.misconfigured "Endpoint must be an http(s) URL: ") := by
  have hempty : trimEndpoint endpoint = "" := by
    rw [trimEndpoint, List.isEmpty_iff.mp h]
    rfl
  rw [normalEndpoint, hempty]
  rfl

/-- Building a client looks at the endpoint first, and then at the credential. -/
theorem Setup.build_eq (s : Setup) :
    s.build = (normalEndpoint (s.endpoint.getD Settings.defaultEndpoint)).bind fun endpoint =>
      s.chosenCredential.map fun credential => ⟨endpoint, credential, s.policy⟩ := by
  rw [build]
  cases normalEndpoint (s.endpoint.getD Settings.defaultEndpoint) with
  | error e => rfl
  | ok endpoint =>
    cases s.chosenCredential with
    | error e => rfl
    | ok credential => rfl

/-- Of settings a client takes the credential and the endpoint, in this order. -/
theorem ofSettings_eq (s : Settings) :
    ofSettings s = s.credential.bind fun credential =>
      (normalEndpoint s.endpoint).map fun endpoint => ⟨endpoint, credential, .standard⟩ := by
  have hbuild : ∀ credential : Credential,
      { Setup.standard with endpoint := some s.endpoint, credential := some credential }.build =
        (normalEndpoint s.endpoint).map fun endpoint => ⟨endpoint, credential, .standard⟩ := by
    intro credential
    rw [Setup.build_eq, Option.getD_some]
    cases normalEndpoint s.endpoint with
    | error e => rfl
    | ok endpoint => rfl
  rw [ofSettings]
  exact congrArg s.credential.bind (funext hbuild)

end Client

/-! ## Sources -/

namespace Settings

/-- The environment in which only the given settings are set. -/
def environmentOf (endpoint credentials apiToken : Option String) : Environment := fun name =>
  if name = endpointVariable then endpoint
  else if name = credentialsVariable then credentials
  else if name = apiTokenVariable then apiToken
  else none

/-- The entry of a setting in a table, if it is given. -/
def entryOf (key : String) (value : Option String) : List (String × Toml) :=
  value.toList.map fun s => (key, .text s)

/-- The table that holds exactly the given settings. Its keys ascend, as those of all tables do. -/
def tableOf (endpoint credentials apiToken : Option String) : Toml :=
  .table (entryOf "api_token" apiToken ++ entryOf "credentials" credentials ++
    entryOf "endpoint" endpoint)

variable (endpoint credentials apiToken : Option String)

/-- From variables, all three settings are read trimmed, or not at all when blank. -/
theorem ofEnvironment_environmentOf :
    ofEnvironment (environmentOf endpoint credentials apiToken) =
      ⟨(endpoint.bind Text.nonBlank?).getD defaultEndpoint, credentials.bind Text.nonBlank?,
        apiToken.bind Text.nonBlank?, defaultTimeout⟩ := by
  rfl

/-- From a table, the endpoint is read as it stands. -/
theorem ofToml_tableOf :
    ofToml (tableOf endpoint credentials apiToken) =
      .ok ⟨endpoint.getD defaultEndpoint, credentials.bind Text.nonBlank?,
        apiToken.bind Text.nonBlank?, defaultTimeout⟩ := by
  cases endpoint <;> cases credentials <;> cases apiToken <;> rfl

/-- A table without references is kept by expansion. -/
theorem expand_tableOf (env : Environment)
    (h : ∀ s, endpoint = some s ∨ credentials = some s ∨ apiToken = some s →
      ¬HoldsReference s.toList) :
    (tableOf endpoint credentials apiToken).expand env =
      .ok (tableOf endpoint credentials apiToken) := by
  rw [tableOf, Toml.expand, Toml.expandEntries_eq_self env]
  · rfl
  · intro entry hentry
    simp only [entryOf, List.mem_append, List.mem_map, Option.mem_toList] at hentry
    have htext : ∃ s, entry.2 = .text s ∧ ¬HoldsReference s.toList := by
      rcases hentry with (⟨s, hs, rfl⟩ | ⟨s, hs, rfl⟩) | ⟨s, hs, rfl⟩
      · exact ⟨s, rfl, h s (Or.inr (Or.inr hs))⟩
      · exact ⟨s, rfl, h s (Or.inr (Or.inl hs))⟩
      · exact ⟨s, rfl, h s (Or.inl hs)⟩
    obtain ⟨s, hs, hplain⟩ := htext
    rw [hs, Toml.expand, expand_eq_self env hplain]
    rfl

/-! ## Clients of either source -/

/-- A document that is kept by expansion is read as its table is. -/
theorem ofDocument_eq_ok {env : Environment} {document : String} {toml : Toml} {s : Settings}
    (hdocument : Toml.ofText? document = some toml) (hexpand : toml.expand env = .ok toml)
    (htoml : ofToml toml = .ok s) : ofDocument env document = .ok s := by
  simp only [ofDocument, hdocument, hexpand, htoml]

/-- With a blank endpoint there is no client, and an error of the credential comes first. -/
theorem ofSettings_of_isAllBlank {s : Settings} (h : Text.isAllBlank s.endpoint = true) :
    (∃ e, s.credential = .error e ∧ Client.ofSettings s = .error e) ∨
      (∃ credential, s.credential = .ok credential) ∧
        Client.ofSettings s = .error (.misconfigured "Endpoint must be an http(s) URL: ") := by
  rw [Client.ofSettings_eq, Client.normalEndpoint_of_isAllBlank h]
  cases s.credential with
  | error e => exact Or.inl ⟨e, rfl, rfl⟩
  | ok credential => exact Or.inr ⟨⟨credential, rfl⟩, rfl⟩

/-- An endpoint that is trimmed as a variable names the same server as it does untrimmed. -/
theorem normalEndpoint_variable {endpoint : Option String}
    (h : ∀ s, endpoint = some s → Text.isAllBlank s = false) :
    Client.normalEndpoint (endpoint.getD defaultEndpoint) =
      Client.normalEndpoint ((endpoint.bind Text.nonBlank?).getD defaultEndpoint) := by
  cases endpoint with
  | none => rfl
  | some s =>
    have hs : Text.isAllBlank s = false := h s rfl
    rw [Option.bind_some, Text.nonBlank?, if_neg (by simp [hs])]
    exact (Client.normalEndpoint_trim s).symm

/-- The same endpoint, login and token, given as variables or in a table, none of them with a
reference in it. A document of that table can always be loaded. Either way the logins are trimmed
and the blank ones dropped, the timeout is the same, and so is the credential or the error in its
place. Unless the endpoint is given and blank, so is the client or the error in its place. A blank
endpoint is not set as a variable; in a table it leaves no client, and the error is that of the
credential, if there is one, and else names the endpoint. -/
theorem variables_and_table_agree
    (hplain : ∀ s, endpoint = some s ∨ credentials = some s ∨ apiToken = some s →
      ¬HoldsReference s.toList) :
    ∃ read loaded : Settings,
      read = ofEnvironment (environmentOf endpoint credentials apiToken) ∧
      (∀ env, (tableOf endpoint credentials apiToken).expand env =
        .ok (tableOf endpoint credentials apiToken)) ∧
      ofToml (tableOf endpoint credentials apiToken) = .ok loaded ∧
      (∀ env document, Toml.ofText? document = some (tableOf endpoint credentials apiToken) →
        ofDocument env document = .ok loaded) ∧
      read.credentials = credentials.bind Text.nonBlank? ∧
      loaded.credentials = credentials.bind Text.nonBlank? ∧
      read.apiToken = apiToken.bind Text.nonBlank? ∧
      loaded.apiToken = apiToken.bind Text.nonBlank? ∧
      read.timeout = loaded.timeout ∧ read.credential = loaded.credential ∧
      ((∀ s, endpoint = some s → Text.isAllBlank s = false) →
        Client.ofSettings read = Client.ofSettings loaded) ∧
      ∀ s, endpoint = some s → Text.isAllBlank s = true →
        read.endpoint = defaultEndpoint ∧
        ((∃ e, loaded.credential = .error e ∧ Client.ofSettings loaded = .error e) ∨
          (∃ credential, loaded.credential = .ok credential) ∧
            Client.ofSettings loaded =
              .error (.misconfigured "Endpoint must be an http(s) URL: ")) := by
  have hread := ofEnvironment_environmentOf endpoint credentials apiToken
  have htoml := ofToml_tableOf endpoint credentials apiToken
  have hexpand := fun env => expand_tableOf endpoint credentials apiToken env hplain
  refine ⟨_, _, rfl, hexpand, htoml, ?_, ?_, rfl, ?_, rfl, ?_, ?_, ?_, ?_⟩
  · intro env document hdocument
    exact ofDocument_eq_ok hdocument (hexpand env) htoml
  · rw [hread]
  · rw [hread]
  · rw [hread]
  · rw [hread]
    rfl
  · intro hblank
    rw [hread, Client.ofSettings_eq, Client.ofSettings_eq]
    dsimp only
    rw [normalEndpoint_variable hblank]
    rfl
  · rintro s rfl hblank
    constructor
    · rw [hread, Option.bind_some, Text.nonBlank?, if_pos hblank]
      rfl
    · exact ofSettings_of_isAllBlank hblank

/-- An endpoint with white space around it, a login, and a blank token: a document with them and an
environment with them lead to the same client. -/
theorem variables_and_table_agree_of_padded :
    ∃ loaded : Settings,
      ofDocument (fun _ => none)
        "endpoint = ' http://h/ '\ncredentials = ' u:p'\napi_token = ' '\n" = .ok loaded ∧
      loaded.credentials = some "u:p" ∧ loaded.apiToken = none ∧
      Client.ofSettings
        (ofEnvironment (environmentOf (some " http://h/ ") (some " u:p") (some " "))) =
          Client.ofSettings loaded := by
  have hplain : ∀ s, some " http://h/ " = some s ∨ some " u:p" = some s ∨ some " " = some s →
      ¬HoldsReference s.toList := by
    rintro s hs ⟨before, after, r, -, htext⟩
    -- a reference begins with a dollar sign
    have hdollar : '$' ∈ s.toList := by
      rw [htext, Reference.written]
      simp
    rcases hs with hs | hs | hs <;> cases hs <;> revert hdollar <;> decide
  have hdocument : Toml.ofText?
      "endpoint = ' http://h/ '\ncredentials = ' u:p'\napi_token = ' '\n" =
        some (tableOf (some " http://h/ ") (some " u:p") (some " ")) := by
    decide +kernel
  obtain ⟨read, loaded, rfl, -, -, hloaded, -, hcredentials, -, htoken, -, -, hclient, -⟩ :=
    variables_and_table_agree (some " http://h/ ") (some " u:p") (some " ") hplain
  refine ⟨loaded, hloaded _ _ hdocument, ?_, ?_, ?_⟩
  · rw [hcredentials]
    decide
  · rw [htoken]
    decide
  · apply hclient
    rintro s ⟨⟩
    decide

end Settings
end CiClient
