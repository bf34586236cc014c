import Mathlib.Data.List.TakeWhile
import CiClient.Proofs.BuiltClient
import CiClient.Proofs.ServerPath
import CiClient.Proofs.TextPieces

/-!
# Where the addresses of a client lead

The address of a path on the server is the endpoint and then the path, read as one text. All that
decides about the server stands in the endpoint, so all addresses of a client share their scheme,
name, password, host and port, and either all of them can be read or none: `parse?_address`.

There is one exception, and it is why the statements have two cases. An endpoint may hold nothing
but slashes behind its scheme. Then the first name of the path is taken for the host.
-/

set_option autoImplicit false

namespace CiClient

open Uri (Url)

namespace Uri.Url

/-! ## Reading in two parts -/

/-- What an authority says about an address; the path is still missing. -/
def server? (secure : Bool) (authority : List Char) : Option Url := do
  let (user, server) := match Text.splitLast '@' authority with
    | some (user, server) => (user, server)
    | none => ([], authority)
  let (username, password) := userInfo user
  let (hostText, portText) := splitPort false server
  let host ← Host.parse? hostText
  let port ← port? secure portText
  some { secure, username, password, host, port, path := [], query := none, fragment := none }

/-- An address with the path, the query and the fragment of a text. -/
def withTail (u : Url) (tail : List Char) : Url :=
  { u with
    path := resolve (tail.takeWhile (!endsPath ·))
    query := (queryAndFragment (tail.dropWhile (!endsPath ·))).1
    fragment := (queryAndFragment (tail.dropWhile (!endsPath ·))).2 }

/-- The address that the text behind the scheme and its slashes denotes. -/
def ofPlace? (secure : Bool) (text : List Char) : Option Url :=
  (server? secure (text.takeWhile (!endsAuthority ·))).map
    (withTail · (text.dropWhile (!endsAuthority ·)))

/-- An address is read by its scheme, then by its authority, then by what follows. -/
theorem parse?_eq (s : String) :
    parse? s = (Text.splitOnce ':' (clean s.toList)).bind fun (scheme, rest) =>
      (scheme? scheme).bind fun secure => ofPlace? secure (rest.dropWhile isSlash) := by
  unfold parse?
  cases Text.splitOnce ':' (clean s.toList) with
  | none => rfl
  | some parts =>
    obtain ⟨scheme, rest⟩ := parts
    cases hscheme : scheme? scheme with
    | none => simp [hscheme]
    | some secure =>
      simp only [hscheme, Option.bind_eq_bind, Option.bind_some, ofPlace?, server?]
      cases Host.parse? (splitPort false _).1 with
      | none => rfl
      | some host =>
        simp only [Option.bind_some]
        cases port? secure _ with
        | none => rfl
        | some port => rfl

/-- A text that begins with a slash does not belong to the authority before it. -/
theorem ofPlace?_append {secure : Bool} {text path : List Char} (h : path.head? = some '/') :
    ofPlace? secure (text ++ path) =
      (server? secure (text.takeWhile (!endsAuthority ·))).map
        (withTail · (text.dropWhile (!endsAuthority ·) ++ path)) := by
  obtain ⟨rest, rfl⟩ : ∃ rest, path = '/' :: rest := by
    cases path with
    | nil => cases h
    | cons c rest => exact ⟨rest, by rw [Option.some.inj h]⟩
  have hend : (!endsAuthority '/') = false := rfl
  have htext := List.takeWhile_append_dropWhile (p := (!endsAuthority ·)) (l := text)
  rw [ofPlace?, List.takeWhile_append, List.dropWhile_append]
  cases hdrop : text.dropWhile (!endsAuthority ·) with
  | nil =>
    rw [hdrop, List.append_nil] at htext
    simp [htext, hend]
  | cons d ds =>
    have hlength : (text.takeWhile (!endsAuthority ·)).length ≠ text.length := by
      have hsum := congrArg List.length htext
      rw [List.length_append, hdrop, List.length_cons] at hsum
      omega
    rw [if_neg hlength]
    rfl

/-! ## Texts that end in a path on the server -/

/-- Nothing is dropped from a text whose ends are no white space, but tabs and line breaks. -/
theorem clean_eq_filter {cs : List Char} (hhead : ∀ c ∈ cs.head?, isControlOrSpace c = false)
    (hlast : ∀ c ∈ cs.getLast?, isControlOrSpace c = false) :
    clean cs = cs.filter (!isTabOrBreak ·) := by
  have hdrop : ∀ {ds : List Char}, (∀ c ∈ ds.head?, isControlOrSpace c = false) →
      ds.dropWhile isControlOrSpace = ds := by
    intro ds hds
    cases ds with
    | nil => rfl
    | cons d ds => rw [List.dropWhile_cons, hds d rfl]; rfl
  rw [clean, hdrop hhead, Text.dropEndWhile, hdrop (by rwa [List.head?_reverse]),
    List.reverse_reverse]

/-- Nothing that a path of the server holds is cleaned away from an address or divides it from a
user. -/
theorem of_isPathChar {c : Char} (h : isPathChar c = true) :
    isControlOrSpace c = false ∧ isTabOrBreak c = false ∧ c ≠ '@' := by
  exact forall_of_isPathChar
    (P := fun c => isControlOrSpace c = false ∧ isTabOrBreak c = false ∧ c ≠ '@') (by decide) h

end Uri.Url

/-! ## Addresses of a client -/

namespace Client

open Uri.Url

variable {c : Client} {path : String}

/-- Whether the endpoint names the secure scheme. -/
def isSecure (c : Client) : Bool := "https://".toList.isPrefixOf c.endpoint.toList

/-- The name of the scheme of the endpoint. -/
def schemeName (c : Client) : List Char := if c.isSecure then "https".toList else "http".toList

/-- The endpoint behind its scheme as it is read, without the slashes that come first. -/
def place (c : Client) : List Char :=
  ((c.endpoint.toList.drop (c.schemeName.length + 3)).filter (!isTabOrBreak ·)).dropWhile isSlash

/-- What the endpoint says of the server. -/
def authority (c : Client) : List Char := c.place.takeWhile (!endsAuthority ·)

/-- What the endpoint says behind the server; its path. -/
def tail (c : Client) : List Char := c.place.dropWhile (!endsAuthority ·)

/-- The address of the server itself, if the endpoint has one. -/
def root? (c : Client) : Option Url := parse? (c.address "/")

/-- The endpoint of a built client begins with a scheme of the web. -/
theorem IsBuilt.isWebAddress (h : c.IsBuilt) : isWebAddress c.endpoint = true := by
  obtain ⟨s, hbuild, -⟩ := h
  have hendpoint := (Setup.build_eq_ok_iff.mp hbuild).1
  simp only [normalEndpoint] at hendpoint
  by_cases hweb :
      Client.isWebAddress (trimEndpoint (s.endpoint.getD Settings.defaultEndpoint)) = true
  · rw [if_pos hweb, Except.ok.injEq] at hendpoint
    rwa [← hendpoint]
  · rw [if_neg hweb] at hendpoint
    simp only [reduceCtorEq] at hendpoint

/-- A web address is the name of its scheme, a colon, two slashes, and a rest. -/
theorem toList_endpoint (h : isWebAddress c.endpoint = true) :
    c.endpoint.toList =
      c.schemeName ++ ':' :: '/' :: '/' :: c.endpoint.toList.drop (c.schemeName.length + 3) := by
  rw [Client.isWebAddress, Bool.or_eq_true] at h
  unfold schemeName
  cases hsecure : c.isSecure with
  | true =>
    obtain ⟨rest, hrest⟩ := List.isPrefixOf_iff_prefix.mp hsecure
    rw [← hrest]
    rfl
  | false =>
    rcases h with h | h
    · obtain ⟨rest, hrest⟩ := List.isPrefixOf_iff_prefix.mp h
      rw [← hrest]
      rfl
    · rw [isSecure, h] at hsecure
      cases hsecure

/-- What is left of an address after cleaning: only the endpoint loses something. -/
theorem clean_address (h : isWebAddress c.endpoint = true) (hpath : IsServerPath path) :
    clean (c.address path).toList =
      c.schemeName ++ ':' :: '/' :: '/' ::
        ((c.endpoint.toList.drop (c.schemeName.length + 3)).filter (!isTabOrBreak ·) ++
          path.toList) := by
  have hkept : path.toList.filter (!isTabOrBreak ·) = path.toList := by
    rw [List.filter_eq_self]
    intro ch hch
    simp [(of_isPathChar (hpath.chars ch hch)).2.1]
  have hscheme : c.schemeName.filter (!isTabOrBreak ·) = c.schemeName := by
    unfold schemeName
    split <;> rfl
  have hlast : ∀ ch ∈ (c.endpoint.toList ++ path.toList).getLast?,
      isControlOrSpace ch = false := by
    intro ch hch
    cases hend : path.toList.getLast? with
    | none =>
      have hhead := hpath.head
      rw [List.getLast?_eq_none_iff.mp hend] at hhead
      cases hhead
    | some last =>
      rw [List.getLast?_append, hend, Option.some_or] at hch
      rw [← Option.some.inj hch]
      exact (of_isPathChar (hpath.chars last (List.mem_of_getLast? hend))).1
  have hhead : ∀ ch ∈ (c.endpoint.toList ++ path.toList).head?, isControlOrSpace ch = false := by
    intro ch hch
    rw [toList_endpoint h, schemeName] at hch
    split at hch <;> cases hch <;> rfl
  rw [address, String.toList_append, clean_eq_filter hhead hlast, List.filter_append, hkept,
    toList_endpoint h, List.filter_append, hscheme]
  simp [isTabOrBreak]

/-- Behind the scheme and its slashes stands the rest of the endpoint, and then the path. -/
theorem parse?_address_eq_ofPlace? (h : isWebAddress c.endpoint = true)
    (hpath : IsServerPath path) :
    parse? (c.address path) =
      ofPlace? c.isSecure (((c.endpoint.toList.drop (c.schemeName.length + 3)).filter
        (!isTabOrBreak ·) ++ path.toList).dropWhile isSlash) := by
  have hcolon : ':' ∉ c.schemeName := by
    unfold schemeName
    split <;> decide
  have hscheme : scheme? c.schemeName = some c.isSecure := by
    unfold schemeName
    cases c.isSecure <;> rfl
  rw [parse?_eq, clean_address h hpath, Text.splitOnce_append _ hcolon, Option.bind_some]
  change (scheme? c.schemeName).bind _ = _
  rw [hscheme]
  rfl

/-- The addresses of a client differ behind their authority only. Where the endpoint names no
server, the path is read instead. -/
theorem parse?_address (h : isWebAddress c.endpoint = true) (hpath : IsServerPath path) :
    parse? (c.address path) =
      if c.place = [] then ofPlace? c.isSecure (path.toList.dropWhile isSlash)
      else (server? c.isSecure c.authority).map (withTail · (c.tail ++ path.toList)) := by
  rw [parse?_address_eq_ofPlace? h hpath, List.dropWhile_append]
  change ofPlace? c.isSecure (if c.place.isEmpty = true then _ else c.place ++ path.toList) = _
  by_cases hplace : c.place = []
  · simp [hplace]
  · rw [if_neg hplace, if_neg (by simpa using hplace), ofPlace?_append hpath.head]
    rfl

/-- An endpoint without a query and a fragment keeps its address in the path. -/
theorem endsPath_of_mem_endpoint (hquery : '?' ∉ c.endpoint.toList)
    (hfragment : '#' ∉ c.endpoint.toList) : ∀ ch ∈ c.endpoint.toList, endsPath ch = false := by
  intro ch hch
  rw [endsPath, Bool.or_eq_false_iff, beq_eq_false_iff_ne, beq_eq_false_iff_ne]
  constructor
  · rintro rfl
    exact hquery hch
  · rintro rfl
    exact hfragment hch

/-! ## What the addresses of a client share -/

/-- The root is a path on the server. -/
theorem isServerPath_root : IsServerPath "/" := ⟨by decide, by decide⟩

/-- The issuer has an address if anything on the server has. -/
theorem exists_parse?_crumbPath (h : isWebAddress c.endpoint = true) (hpath : IsServerPath path)
    {url : Url} (hurl : parse? (c.address path) = some url) :
    ∃ issuer, parse? (c.address crumbPath) = some issuer := by
  rw [parse?_address h hpath] at hurl
  rw [parse?_address h isServerPath_crumbPath]
  split at hurl
  · rename_i hplace
    rw [if_pos hplace]
    -- the name of the issuer would be taken for the host, and is a good one
    have hissuer : ∀ secure,
        (ofPlace? secure (crumbPath.toList.dropWhile isSlash)).isSome = true := by decide
    exact Option.isSome_iff_exists.mp (hissuer c.isSecure)
  · rename_i hplace
    obtain ⟨server, hserver, -⟩ := Option.map_eq_some_iff.mp hurl
    rw [if_neg hplace, hserver]
    exact ⟨_, rfl⟩

end Client
end CiClient
