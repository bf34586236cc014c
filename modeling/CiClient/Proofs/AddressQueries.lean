import CiClient.Proofs.AddressParts
import CiClient.Proofs.ClientAttempts

/-!
# Queries of addresses

Behind an endpoint without a query and a fragment, a path ends where its own query begins. That
query is read as it is written: the characters of paths on the server are all kept in a query, and
none of them begins a fragment. So an address with a query is the address without it and that query,
and it can be read exactly if the other one can: `parse?_address_append_query`.
-/

set_option autoImplicit false

namespace CiClient

open Http (Method Request)
open Uri (Url)

namespace Uri.Url

/-- An address with another query. -/
def withQuery (u : Url) (query : Option String) : Url := { u with query := query }

section

variable {tail query : List Char} (htail : ∀ ch ∈ tail, endsPath ch = false)

include htail

/-- A text without a character that ends the path belongs to the path as a whole. -/
theorem dropWhile_not_endsPath : tail.dropWhile (!endsPath ·) = [] := by
  rw [List.dropWhile_eq_nil_iff]
  intro ch hch
  rw [htail ch hch]
  rfl

/-- A text that does not end the path brings neither a query nor a fragment. -/
theorem query_fragment_withTail (u : Url) :
    (u.withTail tail).query = none ∧ (u.withTail tail).fragment = none := by
  unfold withTail
  rw [dropWhile_not_endsPath htail]
  exact ⟨rfl, rfl⟩

/-- A query of kept characters is read as it is, and the path stays the same. -/
theorem withTail_append_query (hquery : ∀ ch ∈ query, keptInQuery ch = true) (u : Url) :
    u.withTail (tail ++ '?' :: query) =
      (u.withTail tail).withQuery (some (String.ofList query)) := by
  have hend : (!endsPath '?') = false := rfl
  have hsharp : '#' ∉ query := fun hmem => absurd (hquery _ hmem) (by decide)
  have hrest : (tail ++ '?' :: query).dropWhile (!endsPath ·) = '?' :: query := by
    rw [Text.dropWhile_append_cons hend, dropWhile_not_endsPath htail, List.nil_append]
  have hsplit : queryAndFragment ('?' :: query) = (some (String.ofList query), none) := by
    simp only [queryAndFragment, Text.splitOnce_eq_none_iff.mpr hsharp,
      Bytes.Percent.encodeWith_eq_self hquery]
  unfold withTail
  rw [hrest, hsplit, Text.takeWhile_append_cons hend, dropWhile_not_endsPath htail]
  rfl

end

section

variable {secure : Bool} {text query : List Char} (htext : ∀ ch ∈ text, endsPath ch = false)

include htext

/-- A query of kept characters behind a place is read as it is, and the rest as without it. -/
theorem ofPlace?_append_query (hquery : ∀ ch ∈ query, keptInQuery ch = true) :
    ofPlace? secure (text ++ '?' :: query) =
      (ofPlace? secure text).map (·.withQuery (some (String.ofList query))) := by
  have hend : (!endsAuthority '?') = false := rfl
  have htail : ∀ ch ∈ text.dropWhile (!endsAuthority ·), endsPath ch = false :=
    fun ch hch => htext ch ((List.dropWhile_sublist _).subset hch)
  rw [ofPlace?, Text.takeWhile_append_cons hend, Text.dropWhile_append_cons hend, ofPlace?,
    Option.map_map]
  exact congrArg (Option.map · _) (funext (withTail_append_query htail hquery))

/-- An address that is read from a place without the characters that end a path has no query and no
fragment. -/
theorem query_fragment_of_ofPlace? {url : Url} (h : ofPlace? secure text = some url) :
    url.query = none ∧ url.fragment = none := by
  obtain ⟨server, -, rfl⟩ := Option.map_eq_some_iff.mp h
  exact query_fragment_withTail
    (fun ch hch => htext ch ((List.dropWhile_sublist _).subset hch)) server

end

/-- A query keeps every character of a path on the server. -/
theorem keptInQuery_of_isPathChar {ch : Char} (h : isPathChar ch = true) :
    keptInQuery ch = true :=
  forall_of_isPathChar (P := fun ch => keptInQuery ch = true) (by decide) h

end Uri.Url

/-! ## Addresses of a client -/

namespace Client

open Uri.Url

section

variable {c : Client} {path : String} (hquery : '?' ∉ c.endpoint.toList)
  (hfragment : '#' ∉ c.endpoint.toList) (hweb : isWebAddress c.endpoint = true)
  (hpath : IsServerPath path) (hplain : '?' ∉ path.toList)

include hquery hfragment hpath hplain

/-- Behind the scheme nothing ends the path. -/
theorem endsPath_of_mem_address :
    ∀ ch ∈ ((c.endpoint.toList.drop (c.schemeName.length + 3)).filter (!isTabOrBreak ·) ++
      path.toList).dropWhile isSlash, endsPath ch = false := by
  intro ch hch
  have hmem := (List.dropWhile_sublist _).subset hch
  rw [List.mem_append] at hmem
  rcases hmem with hmem | hmem
  · exact endsPath_of_mem_endpoint hquery hfragment ch
      (List.mem_of_mem_drop (List.mem_filter.mp hmem).1)
  · have hsharp : ch ≠ '#' :=
      forall_of_isPathChar (P := fun ch => ch ≠ '#') (by decide) (hpath.chars ch hmem)
    rw [endsPath, Bool.or_eq_false_iff, beq_eq_false_iff_ne, beq_eq_false_iff_ne]
    refine ⟨?_, hsharp⟩
    rintro rfl
    exact hplain hmem

include hweb

/-- The address of a path without a question mark has no query and no fragment. -/
theorem query_fragment_of_parse?_address {url : Url} (h : parse? (c.address path) = some url) :
    url.query = none ∧ url.fragment = none := by
  rw [parse?_address_eq_ofPlace? hweb hpath] at h
  exact query_fragment_of_ofPlace?
    (endsPath_of_mem_address hquery hfragment hpath hplain) h

/-- A query behind a path adds itself to the address and nothing else. -/
theorem parse?_address_append_query {query : String} (htext : IsPathText query) :
    parse? (c.address (path ++ "?" ++ query)) =
      (parse? (c.address path)).map (·.withQuery (some query)) := by
  have hserver : IsServerPath (path ++ "?" ++ query) := (hpath.append (by decide)).append htext
  have hkept : ∀ ch ∈ query.toList, keptInQuery ch = true :=
    fun ch hch => keptInQuery_of_isPathChar (htext ch hch)
  have hmark : (path ++ "?" ++ query).toList = path.toList ++ '?' :: query.toList := by
    simp [String.toList_append]
  rw [parse?_address_eq_ofPlace? hweb hserver, parse?_address_eq_ofPlace? hweb hpath, hmark,
    ← List.append_assoc, Text.dropWhile_append_cons rfl,
    ofPlace?_append_query (endsPath_of_mem_address hquery hfragment hpath hplain) hkept,
    String.ofList_toList]

end
end Client

/-! ## Requests to them -/

namespace Http.Request

/-- Making a request of an address leaves the query alone. -/
theorem url_ofUrl_withQuery (method : Method) (url : Url) (query : Option String) :
    (ofUrl method (url.withQuery query)).url = (ofUrl method url).url.withQuery query := by
  have huser : userInfo? (url.withQuery query) = userInfo? url := rfl
  unfold ofUrl
  rw [huser]
  split <;> rfl

/-- The address of a request has the query and the fragment of the address it was made of. -/
theorem query_fragment_ofUrl (method : Method) (url : Url) :
    (ofUrl method url).url.query = url.query ∧ (ofUrl method url).url.fragment = url.fragment := by
  unfold ofUrl
  split <;> exact ⟨rfl, rfl⟩

end Http.Request
end CiClient
