import Mathlib.Data.List.Infix
import Mathlib.Logic.ExistsUnique
import CiClient.Proofs.ErrorSteps
import CiClient.Proofs.ReferenceText

/-!
# The pieces of a text with references

A text with references is taken apart into `Pieces`: the references, and the plain text before,
between and after them. No reference may begin within plain text. That fixes the pieces, since
wherever two ways of taking a text apart would part, one of them had a reference begin within its
plain text: `Pieces.IsLeftmost.unique`.

`expand` is then a matter of the pieces alone. It puts the values in the place of the references and
keeps the rest, or ends with the first reference that has no value.
-/

set_option autoImplicit false

namespace CiClient.Settings

/-! ## Pieces -/

/-- References with the plain text before each of them, and the plain text after the last one. -/
inductive Pieces where
  | last (plain : List Char)
  | before (plain : List Char) (r : Reference) (rest : Pieces)

/-- No reference begins within a plain text, which another text follows. It might reach into that.
-/
def IsPlainBefore (plain following : List Char) : Prop :=
  ∀ back, back <:+ plain → back ≠ [] → ¬BeginsWithReference (back ++ following)

namespace Pieces

/-- Put a text in the place of each reference. -/
def fill (f : Reference → List Char) : Pieces → List Char
  | last plain => plain
  | before plain r rest => plain ++ (f r ++ rest.fill f)

/-- The text that was taken apart. -/
def text (p : Pieces) : List Char := p.fill Reference.written

/-- The references, from left to right. -/
def references : Pieces → List Reference
  | last _ => []
  | before _ r rest => r :: rest.references

/-- The references can be written, and no reference of the whole text begins within plain text. -/
def IsLeftmost : Pieces → Prop
  | last plain => IsPlainBefore plain []
  | before plain r rest =>
    r.IsWritable ∧ IsPlainBefore plain (r.written ++ rest.text) ∧ rest.IsLeftmost

/-- Add a character in front. -/
def push (c : Char) : Pieces → Pieces
  | last plain => last (c :: plain)
  | before plain r rest => before (c :: plain) r rest

end Pieces

/-! ## Plain text -/

/-- An empty plain text has no place for a reference. -/
theorem isPlainBefore_nil (following : List Char) : IsPlainBefore [] following := by
  intro back hback hne
  exact absurd (List.suffix_nil.mp hback) hne

/-- A plain text is plain at its first character and behind it. -/
theorem isPlainBefore_cons_iff {c : Char} {plain following : List Char} :
    IsPlainBefore (c :: plain) following ↔
      ¬BeginsWithReference (c :: (plain ++ following)) ∧ IsPlainBefore plain following := by
  constructor
  · intro h
    refine ⟨h _ List.suffix_rfl (List.cons_ne_nil c plain), ?_⟩
    intro back hback
    exact h back (hback.trans (List.suffix_cons c plain))
  · rintro ⟨hwhole, hplain⟩ back hback hne
    rcases List.suffix_cons_iff.mp hback with rfl | hback
    · exact hwhole
    · exact hplain back hback hne

/-- A plain text ends where the first reference begins. -/
theorem IsPlainBefore.prefix_of_append {plain following other left : List Char}
    (h : IsPlainBefore plain following) (hleft : BeginsWithReference left)
    (heq : plain ++ following = other ++ left) : plain <+: other := by
  rcases List.append_eq_append_iff.mp heq with ⟨between, rfl, -⟩ | ⟨back, rfl, rfl⟩
  · exact List.prefix_append plain between
  · cases back with
    | nil => simp
    | cons c back =>
      exact absurd hleft (h _ (List.suffix_append other _) (List.cons_ne_nil c back))

/-! ## Taking a text apart -/

namespace Pieces

variable {p q : Pieces}

/-- There is one way to take a text apart. -/
theorem IsLeftmost.unique (hp : p.IsLeftmost) (hq : q.IsLeftmost) (h : p.text = q.text) :
    p = q := by
  induction p generalizing q with
  | last plain =>
    cases q with
    | last other => exact congrArg last h
    | before other r rest =>
      -- the reference of the one would begin within the plain text of the other
      have hplain : plain = other ++ (r.written ++ rest.text) := h
      have hbegins : BeginsWithReference (r.written ++ rest.text) := ⟨r, _, hq.1, rfl⟩
      have hne : r.written ++ rest.text ≠ [] := List.cons_ne_nil _ _
      rw [← List.append_nil (r.written ++ rest.text)] at hbegins
      exact absurd hbegins (hp _ (hplain ▸ List.suffix_append other _) hne)
  | before plain r rest ih =>
    obtain ⟨hr, hplain, hrest⟩ := hp
    have hbegins : BeginsWithReference (r.written ++ rest.text) := ⟨r, _, hr, rfl⟩
    cases q with
    | last other =>
      have hother : plain ++ (r.written ++ rest.text) = other := h
      have hne : r.written ++ rest.text ≠ [] := List.cons_ne_nil _ _
      rw [← List.append_nil (r.written ++ rest.text)] at hbegins
      exact absurd hbegins (hq _ (hother ▸ List.suffix_append plain _) hne)
    | before other t others =>
      obtain ⟨ht, hother, hothers⟩ := hq
      have hbegins' : BeginsWithReference (t.written ++ others.text) := ⟨t, _, ht, rfl⟩
      have htext : plain ++ (r.written ++ rest.text) = other ++ (t.written ++ others.text) := h
      have hle : plain <+: other := hplain.prefix_of_append hbegins' htext
      have hge : other <+: plain := hother.prefix_of_append hbegins htext.symm
      obtain rfl : plain = other := hle.eq_of_length_le hge.length_le
      -- what is read at the front of a text is one reference
      have hread := Reference.read?_written hr rest.text
      rw [List.append_cancel_left htext, Reference.read?_written ht] at hread
      obtain ⟨rfl, hafter⟩ := Prod.mk.inj (Option.some.inj hread)
      rw [ih hrest hothers hafter.symm]

/-- A character that is added in front comes first in the text. -/
theorem text_push (c : Char) (p : Pieces) : (p.push c).text = c :: p.text := by
  cases p <;> rfl

/-- A character with which no reference begins can be added in front. -/
theorem IsLeftmost.push {c : Char} (hp : p.IsLeftmost)
    (hc : ¬BeginsWithReference (c :: p.text)) : (p.push c).IsLeftmost := by
  cases p with
  | last plain =>
    refine isPlainBefore_cons_iff.mpr ⟨?_, hp⟩
    rw [List.append_nil]
    exact hc
  | before plain r rest =>
    obtain ⟨hr, hplain, hrest⟩ := hp
    exact ⟨hr, isPlainBefore_cons_iff.mpr ⟨hc, hplain⟩, hrest⟩

/-- Every text can be taken apart. -/
theorem exists_isLeftmost (cs : List Char) : ∃ p : Pieces, p.text = cs ∧ p.IsLeftmost := by
  induction hlength : cs.length using Nat.strong_induction_on generalizing cs with
  | _ n ih =>
    by_cases hbegins : BeginsWithReference cs
    · obtain ⟨r, after, hr, rfl⟩ := hbegins
      have hshorter : after.length < n :=
        hlength ▸ Reference.length_read?_lt (Reference.read?_written hr after)
      obtain ⟨p, rfl, hp⟩ := ih _ hshorter after rfl
      exact ⟨before [] r p, rfl, hr, isPlainBefore_nil _, hp⟩
    · cases cs with
      | nil => exact ⟨last [], rfl, isPlainBefore_nil _⟩
      | cons c cs =>
        obtain ⟨p, rfl, hp⟩ := ih cs.length (by simp [← hlength]) cs rfl
        exact ⟨p.push c, text_push c p, hp.push hbegins⟩

end Pieces

/-! ## Values -/

/-- The value of a reference: that of its variable, even an empty one, and without one the value
that stands in, as it is written. -/
inductive Reference.HasValue (env : Environment) (r : Reference) : List Char → Prop where
  | ofVariable {value : String} (hset : env r.name = some value) : HasValue env r value.toList
  | ofFallback {value : List Char} (hunset : env r.name = none)
      (hfallback : r.fallback = some value) : HasValue env r value

variable {env : Environment}

/-- The value that is looked up is the one that the reference has. -/
theorem Reference.value?_eq_some_iff {r : Reference} {value : List Char} :
    r.value? env = some value ↔ r.HasValue env value := by
  unfold value?
  constructor
  · intro h
    split at h
    · rename_i s hs
      cases h
      exact .ofVariable hs
    · exact .ofFallback ‹_› h
  · intro h
    cases h with
    | ofVariable hset => rw [hset]
    | ofFallback hunset hfallback =>
      rw [hunset]
      exact hfallback

/-- A reference has no value when its variable is not set and it has no fallback. -/
theorem Reference.value?_eq_none_iff {r : Reference} :
    r.value? env = none ↔ env r.name = none ∧ r.fallback = none := by
  unfold value?
  cases env r.name with
  | none => simp
  | some value => simp

/-- Either all references of a list have a value, or there is a first one that has none. -/
theorem Reference.values_or_first_missing (env : Environment) (references : List Reference) :
    (∃ values : Reference → List Char, ∀ r ∈ references, r.HasValue env (values r)) ∨
      ∃ earlier r later, references = earlier ++ r :: later ∧
        (∀ other ∈ earlier, ∃ value, other.HasValue env value) ∧
        env r.name = none ∧ r.fallback = none := by
  have hvalue : ∀ r : Reference, r.value? env ≠ none →
      r.HasValue env ((r.value? env).getD []) := by
    intro r hr
    apply Reference.value?_eq_some_iff.mp
    cases h : r.value? env with
    | none => exact absurd h hr
    | some value => rfl
  cases hfind : references.find? fun r => (r.value? env).isNone with
  | none =>
    refine Or.inl ⟨fun r => (r.value? env).getD [], ?_⟩
    intro r hr
    exact hvalue r (by simpa using List.find?_eq_none.mp hfind r hr)
  | some r =>
    obtain ⟨hnone, earlier, later, hreferences, hearlier⟩ :=
      List.find?_eq_some_iff_append.mp hfind
    obtain ⟨hunset, hfallback⟩ :=
      Reference.value?_eq_none_iff.mp (Option.isNone_iff_eq_none.mp hnone)
    refine Or.inr ⟨earlier, r, later, hreferences, ?_, hunset, hfallback⟩
    intro other hother
    have hsome : (other.value? env).isSome = true := by simpa using hearlier other hother
    exact ⟨_, hvalue other (Option.isSome_iff_ne_none.mp hsome)⟩

/-! ## Expansion of the pieces -/

/-- Plain text is kept. -/
theorem expandChars_plain_append {plain following : List Char}
    (h : IsPlainBefore plain following) :
    expandChars env (plain ++ following) = (expandChars env following).map (plain ++ ·) := by
  induction plain with
  | nil =>
    show expandChars env following = (expandChars env following).map id
    cases expandChars env following <;> rfl
  | cons c plain ih =>
    obtain ⟨hc, hplain⟩ := isPlainBefore_cons_iff.mp h
    rw [List.cons_append, expandChars_cons env hc, ih hplain]
    cases expandChars env following <;> rfl

namespace Pieces

variable {p : Pieces}

/-- A plain text is kept. -/
theorem expandChars_text_of_last {plain : List Char} (hp : (last plain).IsLeftmost) :
    expandChars env (last plain).text = .ok plain := by
  have hplain : expandChars env (plain ++ []) = _ := expandChars_plain_append hp
  rw [List.append_nil, expandChars] at hplain
  rw [text, fill, hplain]
  simp [Except.map]

/-- The plain text before a reference is kept, whatever comes of the reference and what follows. -/
theorem expandChars_text_of_before {plain : List Char} {r : Reference} {rest : Pieces}
    (hp : (before plain r rest).IsLeftmost) :
    expandChars env (before plain r rest).text =
      match r.value? env with
      | some value => (expandChars env rest.text).map fun cs => plain ++ (value ++ cs)
      | none => .error r.name := by
  obtain ⟨hr, hplain, -⟩ := hp
  have htext : (before plain r rest).text = plain ++ (r.written ++ rest.text) := rfl
  rw [htext, expandChars_plain_append hplain, expandChars_written_append env hr]
  cases r.value? env with
  | none => rfl
  | some value => cases expandChars env rest.text <;> rfl

/-- If all references have a value, the values are put in their places. -/
theorem expandChars_text_eq_ok (hp : p.IsLeftmost) {values : Reference → List Char}
    (h : ∀ r ∈ p.references, r.HasValue env (values r)) :
    expandChars env p.text = .ok (p.fill values) := by
  induction p with
  | last plain => exact expandChars_text_of_last hp
  | before plain r rest ih =>
    have hr : r.value? env = some (values r) :=
      Reference.value?_eq_some_iff.mpr (h r List.mem_cons_self)
    have hrest := ih hp.2.2 fun other hother => h other (List.mem_cons_of_mem r hother)
    rw [expandChars_text_of_before hp, hr, hrest]
    rfl

/-- The first reference without a value ends the expansion. -/
theorem expandChars_text_eq_error (hp : p.IsLeftmost) {earlier later : List Reference}
    {r : Reference} (hreferences : p.references = earlier ++ r :: later)
    (hearlier : ∀ other ∈ earlier, ∃ value, other.HasValue env value)
    (hunset : env r.name = none) (hfallback : r.fallback = none) :
    expandChars env p.text = .error r.name := by
  induction p generalizing earlier with
  | last plain => simp [references] at hreferences
  | before plain t rest ih =>
    rw [expandChars_text_of_before hp]
    cases earlier with
    | nil =>
      cases hreferences
      rw [Reference.value?_eq_none_iff.mpr ⟨hunset, hfallback⟩]
    | cons other earlier =>
      obtain ⟨rfl, hrest⟩ := List.cons.inj hreferences
      obtain ⟨value, hvalue⟩ := hearlier t List.mem_cons_self
      have hrest := ih hp.2.2 hrest fun other hother =>
        hearlier other (List.mem_cons_of_mem t hother)
      rw [Reference.value?_eq_some_iff.mpr hvalue, hrest]
      rfl

/-- By induction on the pieces: where every reference has a value, these are put in their places. -/
theorem expandChars_text_eq_ok_iff (hp : p.IsLeftmost) {cs : List Char} :
    expandChars env p.text = .ok cs ↔
      ∃ values : Reference → List Char,
        (∀ r ∈ p.references, r.HasValue env (values r)) ∧ cs = p.fill values := by
  constructor
  · intro h
    rcases Reference.values_or_first_missing env p.references with
      ⟨values, hvalues⟩ | ⟨earlier, r, later, hreferences, hearlier, hunset, hfallback⟩
    · rw [expandChars_text_eq_ok hp hvalues] at h
      exact ⟨values, hvalues, (Except.ok.inj h).symm⟩
    · rw [expandChars_text_eq_error hp hreferences hearlier hunset hfallback] at h
      cases h
  · rintro ⟨values, hvalues, rfl⟩
    exact expandChars_text_eq_ok hp hvalues

/-- By induction on the pieces: the error has the name of the first reference without a value. -/
theorem expandChars_text_eq_error_iff (hp : p.IsLeftmost) {name : String} :
    expandChars env p.text = .error name ↔
      ∃ earlier r later, p.references = earlier ++ r :: later ∧
        (∀ other ∈ earlier, ∃ value, other.HasValue env value) ∧
        env r.name = none ∧ r.fallback = none ∧ name = r.name := by
  constructor
  · intro h
    rcases Reference.values_or_first_missing env p.references with
      ⟨values, hvalues⟩ | ⟨earlier, r, later, hreferences, hearlier, hunset, hfallback⟩
    · rw [expandChars_text_eq_ok hp hvalues] at h
      cases h
    · rw [expandChars_text_eq_error hp hreferences hearlier hunset hfallback] at h
      exact ⟨earlier, r, later, hreferences, hearlier, hunset, hfallback,
        (Except.error.inj h).symm⟩
  · rintro ⟨earlier, r, later, hreferences, hearlier, hunset, hfallback, rfl⟩
    exact expandChars_text_eq_error hp hreferences hearlier hunset hfallback

end Pieces

/-- A text is taken apart in one way into plain text and references such that no reference begins
within plain text. If all the references have a value, `expand` puts the values in their places,
keeps the plain text as it is, and looks at nothing again. Otherwise it ends with the name of the
first one from the left that has none. A text in which no reference is written stays as it is. -/
theorem expand_replaces_leftmost (env : Environment) (s : String) :
    (∃! p : Pieces, p.text = s.toList ∧ p.IsLeftmost) ∧
    (∀ p : Pieces, p.text = s.toList → p.IsLeftmost →
      (∀ out, expand env s = .ok out ↔
        ∃ values : Reference → List Char,
          (∀ r ∈ p.references, r.HasValue env (values r)) ∧ out.toList = p.fill values) ∧
      (∀ name, expand env s = .error name ↔
        ∃ earlier r later, p.references = earlier ++ r :: later ∧
          (∀ other ∈ earlier, ∃ value, other.HasValue env value) ∧
          env r.name = none ∧ r.fallback = none ∧ name = r.name)) ∧
    (¬HoldsReference s.toList → expand env s = .ok s) := by
  refine ⟨?_, ?_, expand_eq_self env⟩
  · obtain ⟨p, htext, hp⟩ := Pieces.exists_isLeftmost s.toList
    refine ⟨p, ⟨htext, hp⟩, ?_⟩
    rintro q ⟨hqtext, hq⟩
    exact hq.unique hp (hqtext.trans htext.symm)
  · intro p htext hp
    rw [expand, ← htext]
    constructor
    · intro out
      rw [← Pieces.expandChars_text_eq_ok_iff hp, map_eq_ok_iff]
      constructor
      · rintro ⟨cs, hcs, rfl⟩
        rw [String.toList_ofList, hcs]
      · intro h
        exact ⟨_, h, String.ofList_toList⟩
    · intro name
      rw [map_eq_error_iff, Pieces.expandChars_text_eq_error_iff hp]

/-- An opener before a reference, a value that looks like a reference, and a fallback with an opener
in it. -/
theorem expand_replaces_leftmost_of_nested :
    expand (fun name => if name = "A" then some "$\x7bB\x7d" else none)
      "$$\x7bA\x7d$\x7bB:-$\x7b\x7d\x7d" = .ok "$$\x7bB\x7d$\x7b\x7d" := by
  let p : Pieces := .before ['$'] ⟨"A", none⟩ (.before [] ⟨"B", some ['$', '{']⟩ (.last ['}']))
  have hp : p.IsLeftmost := by
    have hA := Reference.eq_written_of_read?
      (show Reference.read? "$\x7bA\x7d".toList = some _ by rfl)
    have hB := Reference.eq_written_of_read?
      (show Reference.read? "$\x7bB:-$\x7b\x7d".toList = some _ by rfl)
    refine ⟨hA.1, isPlainBefore_cons_iff.mpr ⟨by decide, isPlainBefore_nil _⟩, hB.1,
      isPlainBefore_nil _, isPlainBefore_cons_iff.mpr ⟨by decide, isPlainBefore_nil _⟩⟩
  obtain ⟨-, hpieces, -⟩ :=
    expand_replaces_leftmost (fun name => if name = "A" then some "$\x7bB\x7d" else none)
      "$$\x7bA\x7d$\x7bB:-$\x7b\x7d\x7d"
  obtain ⟨hout, -⟩ := hpieces p (by decide) hp
  let values : Reference → List Char := fun r =>
    if r.name = "A" then "$\x7bB\x7d".toList else ['$', '{']
  refine (hout _).mpr ⟨values, ?_, by decide⟩
  intro r hr
  simp only [p, Pieces.references, List.mem_cons, List.not_mem_nil, or_false] at hr
  rcases hr with rfl | rfl
  · exact .ofVariable rfl
  · exact .ofFallback rfl rfl

end CiClient.Settings
