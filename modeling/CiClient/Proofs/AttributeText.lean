import CiClient.Proofs.ArgumentDelivery

/-!
# Attribute values are read back

A text becomes an attribute value by four replacements, one after the other over the whole text.
Each of them sees what the earlier ones wrote, and only the first, that of the ampersand, replaces a
character that others write. So the four together treat every character by itself:
`escapeAttributeChars_eq`.

What is written holds neither a quote nor an angle bracket, and an ampersand only where an entity
begins. Expanding the entities once gives the text back, also when there are entities in it. The
request that installs a plugin therefore has one attribute, and it ends at the quote that is meant
to end it.
-/

set_option autoImplicit false

namespace CiClient

namespace Text

/-! ## Entities -/

/-- The characters that no attribute value holds, each with the entity in its place. -/
def entities : List (Char × List Char) :=
  [('&', "&amp;".toList), ('"', "&quot;".toList), ('<', "&lt;".toList), ('>', "&gt;".toList)]

/-- A character as it stands in an attribute value. -/
def entity (c : Char) : List Char := (entities.lookup c).getD [c]

/-- A character either has an entity or stands for itself, and then it is none of the four. -/
theorem entity_cases (c : Char) :
    (c, entity c) ∈ entities ∨ entity c = [c] ∧ c ≠ '&' ∧ c ≠ '"' ∧ c ≠ '<' ∧ c ≠ '>' := by
  unfold entity
  cases hlookup : entities.lookup c with
  | some text =>
    obtain ⟨before, after, heq, -⟩ := List.lookup_eq_some_iff.mp hlookup
    left
    rw [heq]
    exact List.mem_append_right before List.mem_cons_self
  | none =>
    right
    simpa [entities] using hlookup

/-! ## Replacements -/

/-- Replacing a character in a text that is put together replaces it in each part. -/
theorem replaceChar_flatMap (c : Char) (replacement : List Char) (f : Char → List Char)
    (cs : List Char) :
    replaceChar c replacement (cs.flatMap f) =
      cs.flatMap fun d => replaceChar c replacement (f d) :=
  List.flatMap_assoc

/-- The four replacements write the entity of every character. -/
theorem escapeAttributeChars_eq (cs : List Char) :
    escapeAttributeChars cs = cs.flatMap entity := by
  have hchar : ∀ d, escapeAttributeChars [d] = entity d := by
    intro d
    rcases entity_cases d with hmem | ⟨hself, hand, hquote, hless, hgreater⟩
    · have key : ∀ pair ∈ entities, escapeAttributeChars [pair.1] = pair.2 := by decide
      exact key _ hmem
    · rw [hself]
      simp [escapeAttributeChars, replaceChar, hand, hquote, hless, hgreater]
  have hsingle : cs = cs.flatMap fun d => [d] := (List.flatMap_singleton' cs).symm
  conv => lhs; rw [hsingle, escapeAttributeChars]
  simp only [replaceChar_flatMap]
  exact List.flatMap_congr fun d _ => hchar d

/-- An attribute value holds the entity of each character in turn. -/
theorem toList_escapeAttribute (s : String) :
    (escapeAttribute s).toList = s.toList.flatMap entity := by
  rw [escapeAttribute, String.toList_ofList, escapeAttributeChars_eq]

/-! ## What an attribute value holds -/

/-- No character is written with a quote or an angle bracket. -/
theorem of_mem_entity {c d : Char} (h : d ∈ entity c) : d ≠ '"' ∧ d ≠ '<' ∧ d ≠ '>' := by
  rcases entity_cases c with hmem | ⟨hself, -, hquote, hless, hgreater⟩
  · have key : ∀ pair ∈ entities, ∀ d ∈ pair.2, d ≠ '"' ∧ d ≠ '<' ∧ d ≠ '>' := by
      simp [entities]
    exact key _ hmem d h
  · rw [hself, List.mem_singleton] at h
    rw [h]
    exact ⟨hquote, hless, hgreater⟩

/-- An attribute value holds no quote and no angle bracket. -/
theorem of_mem_escapeAttribute {s : String} {d : Char} (h : d ∈ (escapeAttribute s).toList) :
    d ≠ '"' ∧ d ≠ '<' ∧ d ≠ '>' := by
  rw [toList_escapeAttribute] at h
  obtain ⟨c, -, hd⟩ := List.mem_flatMap.mp h
  exact of_mem_entity hd

/-- What stands for a character holds an ampersand only as the first character of an entity. -/
theorem entity_eq_append {c : Char} {front back : List Char}
    (h : entity c = front ++ '&' :: back) : front = [] ∧ (c, entity c) ∈ entities := by
  rcases entity_cases c with hmem | ⟨hself, hand, -⟩
  · refine ⟨?_, hmem⟩
    have key : ∀ pair ∈ entities, '&' ∉ pair.2.tail := by decide
    have htail := key _ hmem
    dsimp only at htail
    cases front with
    | nil => rfl
    | cons d front =>
      rw [h] at htail
      simp at htail
  · have hmem : '&' ∈ entity c := by
      rw [h]
      exact List.mem_append_right front List.mem_cons_self
    rw [hself, List.mem_singleton] at hmem
    exact absurd hmem.symm hand

/-- Every ampersand begins an entity. -/
theorem exists_entity_of_flatMap {cs front back : List Char}
    (h : cs.flatMap entity = front ++ '&' :: back) :
    ∃ pair ∈ entities, pair.2 <+: '&' :: back := by
  induction cs generalizing front with
  | nil =>
    rw [List.flatMap_nil] at h
    exact absurd h.symm (List.append_ne_nil_of_right_ne_nil front (List.cons_ne_nil '&' back))
  | cons c cs ih =>
    rw [List.flatMap_cons, List.append_eq_append_iff] at h
    rcases h with ⟨rest, -, hrest⟩ | ⟨rest, hentity, hrest⟩
    · exact ih hrest
    · cases rest with
      | nil => exact @ih [] hrest.symm
      | cons d rest =>
        -- the ampersand is in what stands for `c`, and so it is its first character
        obtain ⟨rfl, rfl⟩ := List.cons.inj hrest
        obtain ⟨rfl, hmem⟩ := entity_eq_append hentity
        refine ⟨_, hmem, cs.flatMap entity, ?_⟩
        rw [hentity]
        rfl

/-! ## Expansion -/

/-- Only an ampersand begins an entity, so every other character stays. -/
theorem expandEntities_cons_of_ne {c : Char} (h : c ≠ '&') (rest : List Char) :
    expandEntities (c :: rest) = c :: expandEntities rest := by
  rw [expandEntities]
  all_goals
    rintro other rfl
    exact absurd rfl h

/-- The entity of a character stands for it, whatever follows. -/
theorem expandEntities_entity (c : Char) (rest : List Char) :
    expandEntities (entity c ++ rest) = c :: expandEntities rest := by
  rcases entity_cases c with hmem | ⟨hself, hand, -⟩
  · have key : ∀ pair ∈ entities,
        expandEntities (pair.2 ++ rest) = pair.1 :: expandEntities rest := by
      simp [entities, expandEntities]
    exact key _ hmem
  · rw [hself]
    exact expandEntities_cons_of_ne hand rest

/-- Expanding the entities of an attribute value gives the text back. -/
theorem expandEntities_escapeAttribute (s : String) :
    expandEntities (escapeAttribute s).toList = s.toList := by
  rw [toList_escapeAttribute]
  induction s.toList with
  | nil => rfl
  | cons c cs ih => rw [List.flatMap_cons, expandEntities_entity, ih]

/-- Different texts have different attribute values. -/
theorem escapeAttribute_eq_iff {s other : String} :
    escapeAttribute s = escapeAttribute other ↔ s = other := by
  constructor
  · intro h
    rw [← String.toList_inj, ← expandEntities_escapeAttribute s, h,
      expandEntities_escapeAttribute]
  · exact congrArg escapeAttribute

/-! ## Markup with one attribute -/

/-- The text between the first two quotes of a markup text with its entities expanded, and what
stands before and behind these quotes. -/
def readAttribute? (markup : String) : Option (String × String × String) :=
  (splitOnce '"' markup.toList).bind fun (front, rest) =>
    (splitOnce '"' rest).map fun (value, back) =>
      (String.ofList front, String.ofList (expandEntities value), String.ofList back)

/-- A value between quotes is read back, whatever stands before and behind them. -/
theorem readAttribute?_append {front : String} (hfront : '"' ∉ front.toList) (s back : String) :
    readAttribute? (front ++ "\"" ++ escapeAttribute s ++ "\"" ++ back) = some (front, s, back) := by
  have htext : (front ++ "\"" ++ escapeAttribute s ++ "\"" ++ back).toList =
      front.toList ++ '"' :: ((escapeAttribute s).toList ++ '"' :: back.toList) := by
    simp [String.toList_append]
  have hvalue : '"' ∉ (escapeAttribute s).toList := fun hmem => (of_mem_escapeAttribute hmem).1 rfl
  rw [readAttribute?, htext, splitOnce_append _ hfront, Option.bind_some]
  dsimp only
  rw [splitOnce_append _ hvalue, Option.map_some, expandEntities_escapeAttribute]
  simp only [String.ofList_toList]

end Text

open Http (Exchange Network)
open Text (readAttribute?)

/-- The markup that asks for a plugin has one attribute, and it is the name of the plugin. -/
theorem WriteCall.readAttribute?_installMarkup (plugin : String) :
    readAttribute? (installMarkup plugin) =
      some ("<jenkins><install plugin=", plugin, "/></jenkins>") := by
  have hquote : '"' ∉ "<jenkins><install plugin=".toList := by decide
  have htext : installMarkup plugin = "<jenkins><install plugin=" ++ "\"" ++
      Text.escapeAttribute plugin ++ ("\"" ++ "/></jenkins>") := rfl
  rw [htext, ← String.append_assoc]
  exact Text.readAttribute?_append hquote plugin _

namespace Client

/-- Every plugin is named in an attribute by its text with the entity of each character in place of
the character, and no two are named alike. The attribute value holds no quote and no angle bracket,
an ampersand in it begins one of the four entities, and expanding the entities once gives the name
back. So in the markup that asks for the plugin, and in every write of any run that asks for it, the
attribute ends at the quote that the markup closes it with, and its value is the name. -/
theorem attribute_names_plugin (plugin : String) :
    (Text.escapeAttribute plugin).toList = plugin.toList.flatMap Text.entity ∧
    (∀ d ∈ (Text.escapeAttribute plugin).toList, d ≠ '"' ∧ d ≠ '<' ∧ d ≠ '>') ∧
    (∀ front back, (Text.escapeAttribute plugin).toList = front ++ '&' :: back →
      ∃ pair ∈ Text.entities, pair.2 <+: '&' :: back) ∧
    Text.expandEntities (Text.escapeAttribute plugin).toList = plugin.toList ∧
    (∀ other, Text.escapeAttribute plugin = Text.escapeAttribute other ↔ plugin = other) ∧
    (WriteCall.installPlugin plugin).body = .markup (WriteCall.installMarkup plugin) ∧
    readAttribute? (WriteCall.installMarkup plugin) =
      some ("<jenkins><install plugin=", plugin, "/></jenkins>") ∧
    ∀ (c : Client) (network : Network) (before : List Call) (e : Exchange), c.IsBuilt →
      e ∈ c.attemptsOf network before (.write (.installPlugin plugin)) → e.request.method = .post →
      readAttribute? e.request.body =
        some ("<jenkins><install plugin=", plugin, "/></jenkins>") := by
  have hmarkup := WriteCall.readAttribute?_installMarkup plugin
  refine ⟨Text.toList_escapeAttribute plugin, fun d => Text.of_mem_escapeAttribute, ?_,
    Text.expandEntities_escapeAttribute plugin, fun other => Text.escapeAttribute_eq_iff, rfl,
    hmarkup, ?_⟩
  · intro front back h
    rw [Text.toList_escapeAttribute] at h
    exact Text.exists_entity_of_flatMap h
  · intro c network before e hc he hmethod
    rw [text_of_mem_attemptsOf hc.isIssued he hmethod]
    exact hmarkup

/-- A plugin whose name ends the attribute if it is not escaped, and holds an entity: the request
that asks for it names this plugin. -/
theorem attribute_names_plugin_of_quote :
    ∃ (c : Client) (e : Exchange), c.IsBuilt ∧
      e ∈ c.attemptsOf (.scripted []) [] (.write (.installPlugin "git&quot;\"/><x y=\"")) ∧
      e.request.method = .post ∧ readAttribute? e.request.body =
        some ("<jenkins><install plugin=", "git&quot;\"/><x y=\"", "/></jenkins>") := by
  have hbuilt : (⟨"http://h/ci", .anonymous, .standard⟩ : Client).IsBuilt :=
    ⟨{ Setup.standard with endpoint := some "http://h/ci" }, rfl, by simp [Setup.standard]⟩
  have htried : ∃ e ∈ (⟨"http://h/ci", .anonymous, .standard⟩ : Client).attemptsOf (.scripted []) []
      (.write (.installPlugin "git&quot;\"/><x y=\"")), e.request.method = .post :=
    exists_mem_attemptsOf hbuilt.isIssued rfl (by decide +kernel) ⟨_, rfl, by decide +kernel⟩
  obtain ⟨e, he, hpost⟩ := htried
  obtain ⟨-, -, -, -, -, -, -, hrequest⟩ := attribute_names_plugin "git&quot;\"/><x y=\""
  exact ⟨_, e, hbuilt, he, hpost, hrequest _ _ _ e hbuilt he hpost⟩

end Client
end CiClient
