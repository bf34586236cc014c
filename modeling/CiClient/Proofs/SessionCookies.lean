import Mathlib.Logic.Relation
import CiClient.Crumb.Issued
import CiClient.Proofs.TextPieces

/-!
# The cookie of the session

Responses may set any number of cookies. The session is named by the first one that is readable and
begins like the name of a session; what stands before its attributes is sent back later. Cookies
that name no session may come anywhere, and so may fields of other names, and any cookie may come
after the first session: `Inserts` is one such field more, and no number of them changes the
session.
-/

set_option autoImplicit false

namespace CiClient.Crumb

open Http (Headers)

/-! ## Cookies that name a session -/

/-- A readable cookie that begins like the name of a session, but for white space in front. -/
def NamesSession (cookie : String) : Prop :=
  Headers.isReadable cookie = true ∧ sessionName <+: Text.trimChars cookie.toList

/-- Reading decides whether a cookie names a session. -/
instance (cookie : String) : Decidable (NamesSession cookie) := inferInstanceAs (Decidable (_ ∧ _))

/-- The text of a session is the trimmed cookie that names it. -/
theorem sessionText?_eq_some_iff {cookie : String} {text : List Char} :
    sessionText? cookie = some text ↔
      NamesSession cookie ∧ text = Text.trimChars cookie.toList := by
  rw [sessionText?, Option.ite_none_right_eq_some, Bool.and_eq_true, List.isPrefixOf_iff_prefix,
    Option.some.injEq]
  exact and_congr_right fun _ => eq_comm

/-- A cookie that names no session has no such text. -/
theorem sessionText?_eq_none_iff {cookie : String} :
    sessionText? cookie = none ↔ ¬NamesSession cookie := by
  rw [Option.eq_none_iff_forall_ne_some]
  constructor
  · intro h hnames
    exact h _ (sessionText?_eq_some_iff.mpr ⟨hnames, rfl⟩)
  · intro h text htext
    exact h (sessionText?_eq_some_iff.mp htext).1

/-- The part of a cookie in front of its attributes. -/
def IsFront (part cookie : List Char) : Prop :=
  ';' ∉ part ∧ (cookie = part ∨ ∃ attributes, cookie = part ++ ';' :: attributes)

/-- The front of a cookie is what comes before its first semicolon. -/
theorem isFront_iff {part cookie : List Char} :
    IsFront part cookie ↔ part = cookie.takeWhile (· != ';') := by
  constructor
  · rintro ⟨hpart, hcookie⟩
    have hself : part.takeWhile (· != ';') = part := by
      rw [List.takeWhile_eq_self_iff]
      intro ch hch
      rw [bne_iff_ne]
      rintro rfl
      exact hpart hch
    rcases hcookie with rfl | ⟨attributes, rfl⟩
    · exact hself.symm
    · rw [Text.takeWhile_append_cons (by decide), hself]
  · rintro rfl
    refine ⟨fun hmem => absurd (List.mem_takeWhile_imp hmem) (by decide), ?_⟩
    have hsplit : cookie.takeWhile (· != ';') ++ cookie.dropWhile (· != ';') = cookie :=
      List.takeWhile_append_dropWhile
    have hstop := List.head?_dropWhile_not (· != ';') cookie
    cases hback : cookie.dropWhile (· != ';') with
    | nil =>
      rw [hback, List.append_nil] at hsplit
      exact Or.inl hsplit.symm
    | cons ch attributes =>
      rw [hback] at hsplit hstop
      obtain rfl : ch = ';' := by simpa using hstop
      exact Or.inr ⟨attributes, hsplit.symm⟩

/-- The session that the first of some cookies names: its text in front of its attributes. -/
def IsFirstSession (cookies : List String) (session : String) : Prop :=
  ∃ before cookie after part, cookies = before ++ cookie :: after ∧
    (∀ other ∈ before, ¬NamesSession other) ∧ NamesSession cookie ∧
    IsFront part (Text.trimChars cookie.toList) ∧ session = String.ofList (Text.trimChars part)

/-! ## The session of a header list -/

variable {headers : Headers} {session : String}

/-- The session is the one that the first of the cookies names. -/
theorem sessionOf_eq_some_iff :
    sessionOf headers = some session ↔ IsFirstSession (headers.getAll "set-cookie") session := by
  rw [sessionOf, Option.map_eq_some_iff]
  constructor
  · rintro ⟨text, hfirst, rfl⟩
    obtain ⟨before, cookie, after, hcookies, htext, hbefore⟩ :=
      List.findSome?_eq_some_iff.mp hfirst
    obtain ⟨hnames, rfl⟩ := sessionText?_eq_some_iff.mp htext
    exact ⟨before, cookie, after, _, hcookies,
      fun other hother => sessionText?_eq_none_iff.mp (hbefore other hother), hnames,
      isFront_iff.mpr rfl, rfl⟩
  · rintro ⟨before, cookie, after, part, hcookies, hbefore, hnames, hpart, rfl⟩
    refine ⟨Text.trimChars cookie.toList, List.findSome?_eq_some_iff.mpr
      ⟨before, cookie, after, hcookies, sessionText?_eq_some_iff.mpr ⟨hnames, rfl⟩,
        fun other hother => sessionText?_eq_none_iff.mpr (hbefore other hother)⟩, ?_⟩
    rw [withoutAttributes, isFront_iff.mp hpart]

/-- There is a session exactly when some cookie names one. -/
theorem isSome_sessionOf_iff :
    (sessionOf headers).isSome = true ↔
      ∃ cookie ∈ headers.getAll "set-cookie", NamesSession cookie := by
  rw [sessionOf, Option.isSome_map, List.findSome?_isSome_iff]
  refine exists_congr fun cookie => and_congr_right fun _ => ?_
  rw [Option.isSome_iff_ne_none, ne_eq, sessionText?_eq_none_iff, not_not]

/-- Trimming leaves the name of a session in front. -/
theorem prefix_trimChars {text : List Char} (h : sessionName <+: text) :
    sessionName <+: Text.trimChars text := by
  obtain ⟨rest, rfl⟩ := h
  have htrim := Text.trimChars_append_cons (by decide : Text.isBlank 'D' = false)
    "JSESSIONI".toList rest
  exact ⟨Text.dropEndWhile Text.isBlank rest, htrim.symm⟩

/-- A session begins like one, has no attributes, and is trimmed. -/
theorem form_of_isFirstSession {cookies : List String} (h : IsFirstSession cookies session) :
    sessionName <+: session.toList ∧ ';' ∉ session.toList ∧ Text.trim session = session := by
  obtain ⟨-, cookie, -, part, -, -, ⟨-, hname⟩, ⟨hpart, hcookie⟩, rfl⟩ := h
  have hfront : sessionName <+: part := by
    rcases hcookie with hcookie | ⟨attributes, hcookie⟩
    · rwa [hcookie] at hname
    · rw [hcookie] at hname
      exact Text.prefix_of_prefix_append_cons (by decide) hname
  rw [Text.trim, String.toList_ofList, Text.trimChars_trimChars]
  exact ⟨prefix_trimChars hfront, fun hmem => hpart (Text.mem_of_mem_trimChars hmem), rfl⟩

/-! ## More fields -/

/-- A field that sets a cookie which names a session. -/
def IsSessionField (field : String × String) : Prop :=
  field.1 = "set-cookie" ∧ NamesSession field.2

/-- Reading decides whether a field sets the session. -/
instance (field : String × String) : Decidable (IsSessionField field) :=
  inferInstanceAs (Decidable (_ ∧ _))

/-- One field more, which sets no cookie that names a session, or stands behind one that does. -/
inductive Inserts : Headers → Headers → Prop where
  | idle (before after : List (String × String)) (field : String × String)
      (h : ¬IsSessionField field) : Inserts ⟨before ++ after⟩ ⟨before ++ field :: after⟩
  | late (before after : List (String × String)) (field : String × String)
      (h : ∃ first ∈ before, IsSessionField first) :
      Inserts ⟨before ++ after⟩ ⟨before ++ field :: after⟩

/-- There is a session exactly when some field sets one. -/
theorem isSome_sessionOf_fields_iff {fields : List (String × String)} :
    (sessionOf ⟨fields⟩).isSome = true ↔ ∃ field ∈ fields, IsSessionField field := by
  rw [isSome_sessionOf_iff]
  simp only [Headers.getAll, List.mem_map, List.mem_filter, beq_iff_eq]
  constructor
  · rintro ⟨-, ⟨field, ⟨hfield, hname⟩, rfl⟩, hnames⟩
    exact ⟨field, hfield, hname, hnames⟩
  · rintro ⟨field, hfield, hname, hnames⟩
    exact ⟨field.2, ⟨field, ⟨hfield, hname⟩, rfl⟩, hnames⟩

/-- The session of the fields in front wins. -/
theorem sessionOf_append (front back : List (String × String)) :
    sessionOf ⟨front ++ back⟩ = (sessionOf ⟨front⟩).or (sessionOf ⟨back⟩) := by
  simp only [sessionOf, Headers.getAll, List.filter_append, List.map_append,
    List.findSome?_append, Option.map_or]

/-- One field more of this kind does not change the session. -/
theorem sessionOf_of_inserts {more : Headers} (h : Inserts headers more) :
    sessionOf more = sessionOf headers := by
  cases h with
  | idle before after field hidle =>
    have hnone : sessionOf ⟨[field]⟩ = none := by
      rw [← Option.not_isSome_iff_eq_none, isSome_sessionOf_fields_iff]
      simpa using hidle
    rw [sessionOf_append before, ← List.singleton_append, sessionOf_append [field], hnone,
      Option.none_or, sessionOf_append]
  | late before after field hfirst =>
    obtain ⟨session, hsession⟩ :=
      Option.isSome_iff_exists.mp (isSome_sessionOf_fields_iff.mpr hfirst)
    rw [sessionOf_append, sessionOf_append, hsession, Option.some_or, Option.some_or]

/-- A header list names a session exactly when it sets a cookie that names one. The session is that
of the first such cookie: it begins like one, is trimmed and has no attributes. However many fields
are inserted that set no such cookie, or come after the first one that does, it stays the same. -/
theorem sessionOf_first (headers : Headers) :
    ((sessionOf headers).isSome = true ↔
      ∃ cookie ∈ headers.getAll "set-cookie", NamesSession cookie) ∧
    (∀ session, sessionOf headers = some session ↔
      IsFirstSession (headers.getAll "set-cookie") session) ∧
    (∀ session, sessionOf headers = some session →
      sessionName <+: session.toList ∧ ';' ∉ session.toList ∧ Text.trim session = session) ∧
    ∀ more, Relation.ReflTransGen Inserts headers more → sessionOf more = sessionOf headers := by
  refine ⟨isSome_sessionOf_iff, fun session => sessionOf_eq_some_iff,
    fun session h => form_of_isFirstSession (sessionOf_eq_some_iff.mp h), ?_⟩
  intro more hmore
  induction hmore with
  | refl => rfl
  | tail _ hinsert ih => rw [sessionOf_of_inserts hinsert, ih]

/-- A session stays, with an unreadable cookie and another field before it and a cookie of a session
after it. -/
theorem sessionOf_first_of_inserted :
    sessionOf ⟨[("set-cookie", "JSESSIONID=\u00e9"), ("x-session", "JSESSIONID=1"),
      ("set-cookie", " JSESSIONID.n=7 ; Path=/"), ("set-cookie", "JSESSIONID=8")]⟩ =
        some "JSESSIONID.n=7" ∧
    Text.trim "JSESSIONID.n=7" = "JSESSIONID.n=7" := by
  obtain ⟨-, -, hform, hkept⟩ :=
    sessionOf_first ⟨[("set-cookie", " JSESSIONID.n=7 ; Path=/")]⟩
  have hsession : sessionOf ⟨[("set-cookie", " JSESSIONID.n=7 ; Path=/")]⟩ =
      some "JSESSIONID.n=7" := by
    decide
  have hinserts : Relation.ReflTransGen Inserts ⟨[("set-cookie", " JSESSIONID.n=7 ; Path=/")]⟩
      ⟨[("set-cookie", "JSESSIONID=\u00e9"), ("x-session", "JSESSIONID=1"),
        ("set-cookie", " JSESSIONID.n=7 ; Path=/"), ("set-cookie", "JSESSIONID=8")]⟩ := by
    have hlate := Inserts.late [("set-cookie", " JSESSIONID.n=7 ; Path=/")] []
      ("set-cookie", "JSESSIONID=8") (by decide)
    exact .tail (.tail (.single hlate) (.idle [] _ _ (by decide))) (.idle [] _ _ (by decide))
  exact ⟨(hkept _ hinserts).trans hsession, (hform _ hsession).2.2⟩

end CiClient.Crumb
