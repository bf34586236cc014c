import Mathlib.Data.List.Forall2
import CiClient.Proofs.DocumentOrder
import CiClient.Proofs.ErrorSteps
import CiClient.Proofs.ReferencePieces
import CiClient.Settings.Loading

/-!
# Expanding a document

The references of a document are replaced in each text by itself, wherever in the document it
stands. So nothing that a variable holds can add, remove or retype a part: what an expanded document
holds at a place is the counterpart of what was there before.

One text that cannot be expanded leaves nothing. The error is that of the first such text, in the
order of the places, and it comes before any complaint about the settings. The first text is found
by induction over ascending values: the children before the one that fails do not fail, and these
are exactly the ones that precede it.
-/

set_option autoImplicit false

namespace CiClient

open Settings (Environment)

/-! ## Single texts -/

namespace Settings

variable {env : Environment} {name : String}

/-- The variable that an expansion misses is not set. -/
theorem env_eq_none_of_expandChars {cs : List Char} (h : expandChars env cs = .error name) :
    env name = none := by
  fun_induction expandChars env cs with
  | case1 => cases h
  | case2 c rest r after hread hlength value hvalue ih => exact ih (map_eq_error_iff.mp h)
  | case3 c rest r after hread hlength hvalue =>
    cases h
    exact (Reference.value?_eq_none_iff.mp hvalue).1
  | case4 c rest hread ih => exact ih (map_eq_error_iff.mp h)

/-- The error names a variable that is not set. -/
theorem env_eq_none_of_expand {s : String} (h : expand env s = .error name) : env name = none :=
  env_eq_none_of_expandChars (map_eq_error_iff.mp h)

end Settings

namespace Toml

variable {env : Environment} {v expanded : Toml} {name : String}

/-! ## Children -/

/-- Items are expanded one by one, and all of them can be. -/
theorem expandItems_eq_ok_iff {items out : List Toml} :
    expandItems env items = .ok out ↔
      List.Forall₂ (fun v expanded => v.expand env = .ok expanded) items out := by
  induction items generalizing out with
  | nil => simp [expandItems, eq_comm]
  | cons item items ih =>
    simp only [expandItems, do_bind_eq_ok_iff, List.forall₂_cons_left_iff, ih, Except.ok.injEq]
    constructor
    · rintro ⟨first, hfirst, rest, hrest, rfl⟩
      exact ⟨first, rest, hfirst, hrest, rfl⟩
    · rintro ⟨first, rest, hfirst, hrest, rfl⟩
      exact ⟨first, hfirst, rest, hrest, rfl⟩

/-- Items fail with the error of the first one that fails. -/
theorem expandItems_eq_error_iff {items : List Toml} :
    expandItems env items = .error name ↔
      ∃ before item after, items = before ++ item :: after ∧
        (∀ v ∈ before, ∃ expanded, v.expand env = .ok expanded) ∧
        item.expand env = .error name := by
  induction items with
  | nil => simp [expandItems]
  | cons item items ih =>
    have hcons : expandItems env (item :: items) = .error name ↔
        item.expand env = .error name ∨
          (∃ first, item.expand env = .ok first) ∧ expandItems env items = .error name := by
      rw [expandItems]
      cases item.expand env <;> cases expandItems env items <;> simp [bind, Except.bind]
    rw [hcons, ih]
    constructor
    · rintro (hitem | ⟨hitem, before, other, after, rfl, hbefore, hother⟩)
      · exact ⟨[], item, items, rfl, by simp, hitem⟩
      · refine ⟨item :: before, other, after, rfl, ?_, hother⟩
        exact List.forall_mem_cons.mpr ⟨hitem, hbefore⟩
    · rintro ⟨_ | ⟨first, before⟩, other, after, hsplit, hbefore, hother⟩
      · cases hsplit
        exact Or.inl hother
      · cases hsplit
        obtain ⟨hitem, hbefore⟩ := List.forall_mem_cons.mp hbefore
        exact Or.inr ⟨hitem, before, other, after, rfl, hbefore, hother⟩

/-- Entries keep their keys, and their values are expanded like items. -/
theorem expandEntries_eq (entries : List (String × Toml)) :
    expandEntries env entries =
      (expandItems env (entries.map Prod.snd)).map ((entries.map Prod.fst).zip ·) := by
  induction entries with
  | nil => rfl
  | cons entry entries ih =>
    simp only [expandEntries, List.map_cons, expandItems, ih]
    cases entry.2.expand env with
    | error e => rfl
    | ok value => cases expandItems env (entries.map Prod.snd) <;> rfl

/-- Put other values in the place of the children. -/
def withChildren : Toml → List Toml → Toml
  | .array _, items => .array items
  | .table entries, values => .table ((entries.map Prod.fst).zip values)
  | v, _ => v

/-- A value with other children has these under the old steps. -/
theorem children_withChildren {values : List Toml} (h : values.length = v.children.length) :
    (v.withChildren values).children = (v.children.map Prod.fst).zip values := by
  cases v with
  | array items =>
    simp only [children, List.length_mapIdx] at h
    apply List.ext_getElem
    · simp [withChildren, children, h]
    · simp [withChildren, children]
  | table entries =>
    apply List.ext_getElem
    · simp [withChildren, children]
    · simp [withChildren, children]
  | _ => rfl

/-- A text is expanded as a whole; of any other value the children are. -/
theorem expand_eq_withChildren (hv : ∀ s, v ≠ .text s) :
    v.expand env = (expandItems env (v.children.map Prod.snd)).map v.withChildren := by
  cases v with
  | text s => exact absurd rfl (hv s)
  | array items =>
    have hitems : (array items).children.map Prod.snd = items := by
      apply List.ext_getElem <;> simp [children]
    rw [hitems, expand]
    rfl
  | table entries =>
    have hentries : (table entries).children.map Prod.snd = entries.map Prod.snd := by
      simp [children]
    rw [hentries, expand, expandEntries_eq]
    cases expandItems env (entries.map Prod.snd) <;> rfl
  | _ => rfl

/-- The children of an expanded value are the expanded children, each under its own step. -/
theorem forall₂_children_of_expand (hv : ∀ s, v ≠ .text s) (h : v.expand env = .ok expanded) :
    List.Forall₂ (fun a b => a.1 = b.1 ∧ a.2.expand env = .ok b.2) v.children
      expanded.children := by
  rw [expand_eq_withChildren hv, map_eq_ok_iff] at h
  obtain ⟨values, hvalues, rfl⟩ := h
  rw [expandItems_eq_ok_iff, List.forall₂_map_left_iff] at hvalues
  rw [children_withChildren hvalues.length_eq.symm]
  generalize v.children = children at hvalues
  induction hvalues with
  | nil => exact .nil
  | cons hfirst hrest ih => exact .cons ⟨rfl, hfirst⟩ ih

/-- The children of an expanded value are the expanded children, each in its place. -/
theorem child?_of_expand (hv : ∀ s, v ≠ .text s) (h : v.expand env = .ok expanded)
    (step : Step) :
    Option.Rel (fun a b => a.expand env = .ok b) (v.child? step) (expanded.child? step) := by
  have hchildren := forall₂_children_of_expand hv h
  rw [child?, child?]
  generalize v.children = children at hchildren
  generalize expanded.children = others at hchildren
  induction hchildren with
  | nil => exact .none
  | cons hfirst hrest ih =>
    rw [List.find?_cons, List.find?_cons, hfirst.1]
    split
    · exact .some hfirst.2
    · exact ih

/-- A value fails with the error of its first child that fails. -/
theorem expand_eq_error_iff_children (hv : ∀ s, v ≠ .text s) :
    v.expand env = .error name ↔
      ∃ before step child after, v.children = before ++ (step, child) :: after ∧
        (∀ other ∈ before, ∃ expanded, other.2.expand env = .ok expanded) ∧
        child.expand env = .error name := by
  rw [expand_eq_withChildren hv, map_eq_error_iff, expandItems_eq_error_iff]
  constructor
  · rintro ⟨_, _, _, hsplit, hbefore, hchild⟩
    obtain ⟨before, rest, hchildren, rfl, hrest⟩ := List.map_eq_append_iff.mp hsplit
    obtain ⟨⟨step, child⟩, after, rfl, rfl, rfl⟩ := List.map_eq_cons_iff.mp hrest
    refine ⟨before, step, child, after, hchildren, ?_, hchild⟩
    intro other hother
    exact hbefore other.2 (List.mem_map_of_mem hother)
  · rintro ⟨before, step, child, after, hchildren, hbefore, hchild⟩
    refine ⟨before.map Prod.snd, child, after.map Prod.snd, ?_, ?_, hchild⟩
    · rw [hchildren, List.map_append, List.map_cons]
    · exact List.forall_mem_map.mpr hbefore

/-! ## Places -/

/-- What takes the place of a part: of a text what it expands to, of an array one of the same
length, of a table one of the same keys, and of anything else the part itself. -/
inductive Counterpart (env : Environment) : Toml → Toml → Prop where
  | text {s t : String} (h : Settings.expand env s = .ok t) : Counterpart env (.text s) (.text t)
  | integer (n : Int64) : Counterpart env (.integer n) (.integer n)
  | double (d : Double) : Counterpart env (.double d) (.double d)
  | boolean (b : Bool) : Counterpart env (.boolean b) (.boolean b)
  | moment (s : String) : Counterpart env (.moment s) (.moment s)
  | array {items others : List Toml} (h : items.length = others.length) :
      Counterpart env (.array items) (.array others)
  | table {entries others : List (String × Toml)}
      (h : entries.map Prod.fst = others.map Prod.fst) :
      Counterpart env (.table entries) (.table others)

/-- What a value is expanded to is its counterpart. -/
theorem counterpart_of_expand (h : v.expand env = .ok expanded) : Counterpart env v expanded := by
  cases v with
  | text s =>
    obtain ⟨t, ht, rfl⟩ := map_eq_ok_iff.mp h
    exact .text ht
  | array items =>
    obtain ⟨others, hothers, rfl⟩ := map_eq_ok_iff.mp h
    exact .array (expandItems_eq_ok_iff.mp hothers).length_eq
  | table entries =>
    obtain ⟨others, hothers, rfl⟩ := map_eq_ok_iff.mp h
    rw [expandEntries_eq, map_eq_ok_iff] at hothers
    obtain ⟨values, hvalues, rfl⟩ := hothers
    have hlength := (expandItems_eq_ok_iff.mp hvalues).length_eq
    refine .table (List.map_fst_zip ?_).symm
    simpa using hlength.le
  | integer n => cases h; exact .integer n
  | double d => cases h; exact .double d
  | boolean b => cases h; exact .boolean b
  | moment s => cases h; exact .moment s

/-- The counterpart of a text is the expanded text. -/
theorem exists_text_of_rel {s : String} {part : Option Toml}
    (h : Option.Rel (Counterpart env) (some (.text s)) part) :
    ∃ t, Settings.expand env s = .ok t ∧ part = some (.text t) := by
  cases h with
  | some hpart =>
    cases hpart with
    | text ht => exact ⟨_, ht, rfl⟩

/-- An expanded value holds the counterparts of what was there, at the same places. -/
theorem at?_of_expand (h : v.expand env = .ok expanded) (place : Place) :
    Option.Rel (Counterpart env) (v.at? place) (expanded.at? place) := by
  induction place generalizing v expanded with
  | nil => exact .some (counterpart_of_expand h)
  | cons step place ih =>
    rw [at?_cons, at?_cons]
    by_cases hv : ∃ s, v = .text s
    · obtain ⟨s, rfl⟩ := hv
      obtain ⟨t, ht, rfl⟩ := map_eq_ok_iff.mp h
      exact .none
    · have hchild := child?_of_expand (not_exists.mp hv) h step
      generalize v.child? step = child at hchild
      generalize expanded.child? step = other at hchild
      cases hchild with
      | none => exact .none
      | some hother => exact ih hother

/-- All texts within a value can be expanded. -/
def AllExpand (env : Environment) (v : Toml) : Prop :=
  ∀ place s, v.at? place = some (.text s) → ∃ t, Settings.expand env s = .ok t

/-- If a value can be expanded, so can all texts within it. -/
theorem allExpand_of_expand (h : v.expand env = .ok expanded) : v.AllExpand env := by
  intro place s hs
  have hplace := at?_of_expand h place
  rw [hs] at hplace
  obtain ⟨t, ht, -⟩ := exists_text_of_rel hplace
  exact ⟨t, ht⟩

/-- The first text within a value that cannot be expanded, with the name of the variable that it
lacks. -/
structure FirstFailure (env : Environment) (v : Toml) (place : Place) (name : String) : Prop where
  fails : ∃ s, v.at? place = some (.text s) ∧ Settings.expand env s = .error name
  first : ∀ other s, other.Precedes place → v.at? other = some (.text s) →
    ∃ t, Settings.expand env s = .ok t

/-- If a value cannot be expanded, some text within it is the first that cannot. -/
theorem exists_firstFailure (hv : v.Ascends) (h : v.expand env = .error name) :
    ∃ place, v.FirstFailure env place name := by
  induction hv with
  | @intro v hsteps hchildren ih =>
    by_cases htext : ∃ s, v = .text s
    · obtain ⟨s, rfl⟩ := htext
      refine ⟨[], ⟨s, rfl, map_eq_error_iff.mp h⟩, ?_⟩
      rintro other s ⟨⟩
    · have hv : v.Ascends := .intro hsteps hchildren
      obtain ⟨before, step, child, after, hsplit, hbefore, hchild⟩ :=
        (expand_eq_error_iff_children (not_exists.mp htext)).mp h
      have hmem : (step, child) ∈ v.children := by simp [hsplit]
      have hstep : v.child? step = some child := hv.child?_eq_some_iff.mpr hmem
      obtain ⟨place, hfails, hfirst⟩ := ih _ hmem hchild
      refine ⟨step :: place, ?_, ?_⟩
      · simpa [hstep] using hfails
      · intro other s hprecedes hs
        cases hprecedes with
        | nil => exact absurd ⟨s, Option.some.inj hs⟩ htext
        | cons hprecedes =>
          rw [at?_cons, hstep] at hs
          exact hfirst _ s hprecedes hs
        | rel hprecedes =>
          obtain ⟨sibling, hsibling, hs⟩ := Option.bind_eq_some_iff.mp hs
          have hearlier := (hv.mem_before_iff hsplit (hv.child?_eq_some_iff.mp hsibling)).mpr
            hprecedes
          obtain ⟨expanded, hexpanded⟩ := hbefore _ hearlier
          exact allExpand_of_expand hexpanded _ s hs

/-- A value can be expanded exactly when all texts within it can. -/
theorem expand_eq_ok_iff (hv : v.Ascends) :
    (∃ expanded, v.expand env = .ok expanded) ↔ v.AllExpand env := by
  constructor
  · rintro ⟨expanded, h⟩
    exact allExpand_of_expand h
  · intro hall
    cases h : v.expand env with
    | ok expanded => exact ⟨expanded, rfl⟩
    | error name =>
      obtain ⟨place, ⟨s, hs, herror⟩, -⟩ := exists_firstFailure hv h
      obtain ⟨t, ht⟩ := hall place s hs
      rw [herror] at ht
      cases ht

/-- A value lacks the variable that the first text that cannot be expanded lacks. -/
theorem expand_of_firstFailure (hv : v.Ascends) {place : Place}
    (h : v.FirstFailure env place name) : v.expand env = .error name := by
  induction hv generalizing place with
  | @intro v hsteps hchildren ih =>
    have hv : v.Ascends := .intro hsteps hchildren
    obtain ⟨⟨s, hs, herror⟩, hfirst⟩ := h
    cases place with
    | nil =>
      cases hs
      exact map_eq_error_iff.mpr herror
    | cons step place =>
      obtain ⟨child, hstep, hs⟩ := Option.bind_eq_some_iff.mp hs
      have hmem := hv.child?_eq_some_iff.mp hstep
      have htext : ∀ t, v ≠ .text t := by
        rintro t rfl
        cases hmem
      obtain ⟨before, after, hsplit⟩ := List.append_of_mem hmem
      refine (expand_eq_error_iff_children htext).mpr
        ⟨before, step, child, after, hsplit, ?_, ih _ hmem ⟨⟨s, hs, herror⟩, ?_⟩⟩
      · intro sibling hsibling
        have hsiblingMem : sibling ∈ v.children := by simp [hsplit, hsibling]
        rw [expand_eq_ok_iff (hchildren sibling hsiblingMem)]
        intro other t ht
        refine hfirst (sibling.1 :: other) t (.rel ?_) ?_
        · exact (hv.mem_before_iff hsplit hsiblingMem).mp hsibling
        · rwa [at?_cons, hv.child?_eq_some_iff.mpr hsiblingMem]
      · intro other t hprecedes ht
        refine hfirst (step :: other) t (.cons hprecedes) ?_
        rwa [at?_cons, hstep]

/-- A value fails with the error of its first text that fails. -/
theorem expand_eq_error_iff (hv : v.Ascends) :
    v.expand env = .error name ↔ ∃ place, v.FirstFailure env place name := by
  constructor
  · exact exists_firstFailure hv
  · rintro ⟨place, h⟩
    exact expand_of_firstFailure hv h

/-- A variable that is missing is not set. -/
theorem env_eq_none_of_expand (hv : v.Ascends) (h : v.expand env = .error name) :
    env name = none := by
  obtain ⟨place, ⟨s, -, hs⟩, -⟩ := exists_firstFailure hv h
  exact Settings.env_eq_none_of_expand hs

end Toml

/-! ## Settings of a document -/

namespace Settings

variable {env : Environment} {document name : String} {toml : Toml}

/-- Reading a text of the settings never misses a variable. -/
theorem textOf_ne_missingVariable (key : String) (value : Toml) :
    textOf key value ≠ .error (.missingVariable name) := by
  unfold textOf
  split <;> exact nofun

/-- Reading a number of the settings never misses a variable. -/
theorem naturalOf_ne_missingVariable (key : String) (value : Toml) :
    naturalOf key value ≠ .error (.missingVariable name) := by
  unfold naturalOf
  split
  · split <;> exact nofun
  · exact nofun

/-- Reading one setting never misses a variable. -/
theorem withEntry_ne_missingVariable (s : Settings) (key : String) (value : Toml) :
    s.withEntry key value ≠ .error (.missingVariable name) := by
  intro h
  unfold withEntry at h
  split at h
  · exact textOf_ne_missingVariable _ _ (map_eq_error_iff.mp h)
  · exact textOf_ne_missingVariable _ _ (map_eq_error_iff.mp h)
  · exact textOf_ne_missingVariable _ _ (map_eq_error_iff.mp h)
  · exact naturalOf_ne_missingVariable _ _ (map_eq_error_iff.mp h)
  · cases h

/-- Reading several settings never misses a variable. -/
theorem withEntries_ne_missingVariable (s : Settings) (entries : List (String × Toml)) :
    s.withEntries entries ≠ .error (.missingVariable name) := by
  induction entries generalizing s with
  | nil => exact nofun
  | cons entry entries ih =>
    rw [withEntries]
    cases hentry : s.withEntry entry.1 entry.2 with
    | error e =>
      intro h
      cases h
      exact withEntry_ne_missingVariable s _ _ hentry
    | ok next => exact ih next

/-- Whatever is wrong with the values of a table, it is not that a variable is missing. -/
theorem ofToml_ne_missingVariable (toml : Toml) :
    ofToml toml ≠ .error (.missingVariable name) := by
  unfold ofToml
  split
  · exact fun h => withEntries_ne_missingVariable _ _ (map_eq_error_iff.mp h)
  · exact nofun

/-- The settings of a document are those of its expanded value. -/
theorem ofDocument_of_expand {expanded : Toml} (hdocument : Toml.ofText? document = some toml)
    (h : toml.expand env = .ok expanded) : ofDocument env document = ofToml expanded := by
  simp only [ofDocument, hdocument, h]

/-- Loading a document misses a variable exactly when expanding its value does. -/
theorem ofDocument_eq_missingVariable_iff (hdocument : Toml.ofText? document = some toml) :
    ofDocument env document = .error (.missingVariable name) ↔ toml.expand env = .error name := by
  simp only [ofDocument, hdocument]
  cases toml.expand env with
  | error other => simp
  | ok expanded => simp [ofToml_ne_missingVariable]

/-- Expanding keeps every part of a value in its place. It succeeds when all texts within the value
can be expanded; then the value has the same parts in the same places, each text replaced by what it
alone expands to. Otherwise the error is the variable that is missing in the first text that fails,
by ascending keys and by position. Only a document that could be expanded is looked at for its
settings; for any other this is the error, whatever the keys and kinds of its values. -/
theorem expansion_keeps_places (env : Environment) :
    (∀ toml : Toml, toml.Ascends →
      ((∃ expanded, toml.expand env = .ok expanded) ↔ toml.AllExpand env) ∧
      (∀ expanded, toml.expand env = .ok expanded →
        ∀ place, Option.Rel (Toml.Counterpart env) (toml.at? place) (expanded.at? place)) ∧
      (∀ name, toml.expand env = .error name ↔ ∃ place, toml.FirstFailure env place name) ∧
      ∀ name, toml.expand env = .error name → env name = none) ∧
    ∀ document toml, Toml.ofText? document = some toml →
      toml.Ascends ∧
      (∀ expanded, toml.expand env = .ok expanded →
        ofDocument env document = ofToml expanded) ∧
      ∀ name, ofDocument env document = .error (.missingVariable name) ↔
        ∃ place, toml.FirstFailure env place name := by
  constructor
  · intro toml hascends
    exact ⟨Toml.expand_eq_ok_iff hascends, fun expanded h => Toml.at?_of_expand h,
      fun name => Toml.expand_eq_error_iff hascends,
      fun name => Toml.env_eq_none_of_expand hascends⟩
  · intro document toml hdocument
    have hascends := Toml.ascends_of_ofText? hdocument
    refine ⟨hascends, fun expanded h => ofDocument_of_expand hdocument h, ?_⟩
    intro name
    rw [ofDocument_eq_missingVariable_iff hdocument, Toml.expand_eq_error_iff hascends]

/-- Of two variables that are not set the one within `notes` is missed first, though it stands
behind the other in the document, no setting has its key, and a setting is of another kind. A value
that looks like a part of a document stays one text. -/
theorem expansion_keeps_places_of_notes :
    ∃ toml,
      Toml.ofText? "zone = '$\x7bB\x7d'\nendpoint = 1\nnotes = [1, [\x7ba = '$\x7bA\x7d'\x7d]]\n" =
        some toml ∧
      ofDocument (fun _ => none)
        "zone = '$\x7bB\x7d'\nendpoint = 1\nnotes = [1, [\x7ba = '$\x7bA\x7d'\x7d]]\n" =
          .error (.missingVariable "A") ∧
      ∃ expanded, toml.expand (fun _ => some "'\x7d], x = ['$\x7bB\x7d") = .ok expanded ∧
        expanded.at? [.key "notes", .item 1, .item 0, .key "a"] =
          some (.text "'\x7d], x = ['$\x7bB\x7d") := by
  let toml : Toml := .table [
    ("endpoint", .integer 1),
    ("notes", .array [.integer 1, .array [.table [("a", .text "$\x7bA\x7d")]]]),
    ("zone", .text "$\x7bB\x7d")]
  have hdocument : Toml.ofText?
      "zone = '$\x7bB\x7d'\nendpoint = 1\nnotes = [1, [\x7ba = '$\x7bA\x7d'\x7d]]\n" =
        some toml := by
    decide +kernel
  refine ⟨toml, hdocument, ?_, ?_⟩
  · obtain ⟨hvalues, hdocuments⟩ := expansion_keeps_places fun _ => none
    obtain ⟨hascends, -, hmissing⟩ := hdocuments _ toml hdocument
    obtain ⟨-, -, hfirst, -⟩ := hvalues toml hascends
    exact (hmissing "A").mpr ((hfirst "A").mp (by decide +kernel))
  · obtain ⟨hvalues, hdocuments⟩ :=
      expansion_keeps_places fun _ => some "'\x7d], x = ['$\x7bB\x7d"
    obtain ⟨hascends, -⟩ := hdocuments _ toml hdocument
    obtain ⟨-, hplaces, -, hunset⟩ := hvalues toml hascends
    cases hexpand : toml.expand fun _ => some "'\x7d], x = ['$\x7bB\x7d" with
    | error name => cases hunset name hexpand
    | ok expanded =>
      refine ⟨expanded, rfl, ?_⟩
      have hplace := hplaces expanded hexpand [.key "notes", .item 1, .item 0, .key "a"]
      have htext : toml.at? [.key "notes", .item 1, .item 0, .key "a"] =
          some (.text "$\x7bA\x7d") := rfl
      rw [htext] at hplace
      obtain ⟨t, ht, hpart⟩ := Toml.exists_text_of_rel hplace
      have hvalue : expand (fun _ => some "'\x7d], x = ['$\x7bB\x7d") "$\x7bA\x7d" =
          .ok "'\x7d], x = ['$\x7bB\x7d" := by
        decide +kernel
      cases hvalue.symm.trans ht
      exact hpart

end Settings
end CiClient
