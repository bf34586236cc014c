import CiClient.Proofs.TomlPlaces
import CiClient.Toml.Document

/-!
# The order of keys in parsed documents

The keys of all tables in a parsed document ascend, in whatever order the document defines them. The
tables are built of `Node`s, so the order is an invariant of these first: `assign` and `define` keep
it, as each of them only puts members into tables, and `toToml` carries it over to values. The
readers of values and of statements hand over nothing that is out of order.
-/

set_option autoImplicit false

namespace CiClient.Toml

/-! ## Tables under construction -/

namespace Node

/-- The keys of all tables within a part of a document ascend. -/
inductive Ascends : Node → Prop where
  | value {v : Toml} (h : v.Ascends) : Ascends (.value v)
  | table {origin : Origin} {entries : List (String × Node)} (hsorted : Members.Sorted entries)
      (hentries : ∀ entry ∈ entries, Ascends entry.2) : Ascends (.table origin entries)
  | rows {earlier : List (List (String × Node))} {last : List (String × Node)}
      (hsorted : ∀ row ∈ last :: earlier, Members.Sorted row)
      (hrows : ∀ row ∈ last :: earlier, ∀ entry ∈ row, Ascends entry.2) :
      Ascends (.rows earlier last)

/-- The same of the entries of a table. -/
structure EntriesAscend (entries : List (String × Node)) : Prop where
  sorted : Members.Sorted entries
  ascends : ∀ entry ∈ entries, entry.2.Ascends

/-- A table without entries ascends. -/
theorem entriesAscend_nil : EntriesAscend [] where
  sorted := List.Pairwise.nil
  ascends := by simp

/-- A table ascends when its entries do. -/
theorem ascends_table_iff {origin : Origin} {entries : List (String × Node)} :
    (table origin entries).Ascends ↔ EntriesAscend entries := by
  constructor
  · rintro ⟨⟩
    constructor <;> assumption
  · rintro ⟨hsorted, hentries⟩
    exact .table hsorted hentries

/-- An array of tables ascends when the entries of every table do. -/
theorem ascends_rows_iff {earlier : List (List (String × Node))} {last : List (String × Node)} :
    (rows earlier last).Ascends ↔
      EntriesAscend last ∧ ∀ row ∈ earlier, EntriesAscend row := by
  rw [← List.forall_mem_cons]
  constructor
  · rintro ⟨⟩ row hrow
    rename_i hsorted hrows
    exact ⟨hsorted row hrow, hrows row hrow⟩
  · intro h
    exact .rows (fun row hrow => (h row hrow).sorted) (fun row hrow => (h row hrow).ascends)

variable {entries out : List (String × Node)} {node : Node} {key : String}

/-- Putting an entry that ascends keeps the table ascending. -/
theorem EntriesAscend.put (h : EntriesAscend entries) (hnode : node.Ascends) :
    EntriesAscend (Members.put key node entries) where
  sorted := Members.sorted_put h.sorted
  ascends := by
    intro entry hentry
    rcases Members.mem_put hentry with rfl | hentry
    · exact hnode
    · exact h.ascends entry hentry

/-- Every entry of a table that ascends does so itself. -/
theorem EntriesAscend.of_get? (h : EntriesAscend entries)
    (hget : Members.get? entries key = some node) : node.Ascends := by
  rw [Members.get?, Option.map_eq_some_iff] at hget
  obtain ⟨entry, hentry, rfl⟩ := hget
  exact h.ascends entry (List.mem_of_find?_eq_some hentry)

/-- A value is put into a table that exists or is made for it; either way the order is kept. -/
theorem EntriesAscend.of_assign {growing : Bool} {path : List String} {v : Toml}
    (h : EntriesAscend entries) (hv : v.Ascends)
    (hassign : assign growing path v entries = some out) : EntriesAscend out := by
  fun_induction assign growing path v entries generalizing out with
  | case1 => cases hassign
  | case2 growing key v entries hfree =>
    cases hassign
    exact h.put (.value hv)
  | case3 => cases hassign
  | case4 growing key path v entries hpath hget ih =>
    obtain ⟨sub, hsub, rfl⟩ := Option.map_eq_some_iff.mp hassign
    exact h.put (ascends_table_iff.mpr (ih entriesAscend_nil hv hsub))
  | case5 => cases hassign
  | case6 growing key path v entries hpath origin sub hget horigin ih =>
    obtain ⟨other, hother, rfl⟩ := Option.map_eq_some_iff.mp hassign
    have hsub := ascends_table_iff.mp (h.of_get? hget)
    exact h.put (ascends_table_iff.mpr (ih hsub hv hother))
  | case7 growing key path v entries hpath earlier last hget ih =>
    obtain ⟨other, hother, rfl⟩ := Option.map_eq_some_iff.mp hassign
    obtain ⟨hlast, hearlier⟩ := ascends_rows_iff.mp (h.of_get? hget)
    exact h.put (ascends_rows_iff.mpr ⟨ih hlast hv hother, hearlier⟩)
  | case8 => cases hassign

/-- Assigning values that ascend keeps the table ascending. -/
theorem EntriesAscend.of_assignAll {values : List (List String × Toml)}
    (h : EntriesAscend entries) (hvalues : ∀ value ∈ values, value.2.Ascends)
    (hassign : assignAll values entries = some out) : EntriesAscend out := by
  induction values generalizing entries with
  | nil =>
    cases hassign
    exact h
  | cons value values ih =>
    obtain ⟨hvalue, hvalues⟩ := List.forall_mem_cons.mp hvalues
    obtain ⟨next, hnext, hassign⟩ := Option.bind_eq_some_iff.mp hassign
    exact ih (h.of_assign hvalue hnext) hvalues hassign

/-- Defining a section with values that ascend keeps the table ascending. -/
theorem EntriesAscend.of_define {repeated : Bool} {values : List (List String × Toml)}
    {path : List String} (h : EntriesAscend entries)
    (hvalues : ∀ value ∈ values, value.2.Ascends)
    (hdefine : define repeated values path entries = some out) : EntriesAscend out := by
  fun_induction define repeated values path entries generalizing out with
  | case1 => cases hdefine
  | case2 key entries hget hrepeated =>
    obtain ⟨row, hrow, rfl⟩ := Option.map_eq_some_iff.mp hdefine
    have hrow := entriesAscend_nil.of_assignAll hvalues hrow
    exact h.put (ascends_rows_iff.mpr ⟨hrow, by simp⟩)
  | case3 key entries earlier last hget hrepeated =>
    obtain ⟨row, hrow, rfl⟩ := Option.map_eq_some_iff.mp hdefine
    have hrow := entriesAscend_nil.of_assignAll hvalues hrow
    obtain ⟨hlast, hearlier⟩ := ascends_rows_iff.mp (h.of_get? hget)
    refine h.put (ascends_rows_iff.mpr ⟨hrow, List.forall_mem_append.mpr ⟨hearlier, ?_⟩⟩)
    exact List.forall_mem_singleton.mpr hlast
  | case4 key entries hget hrepeated =>
    obtain ⟨sub, hsub, rfl⟩ := Option.map_eq_some_iff.mp hdefine
    exact h.put (ascends_table_iff.mpr (entriesAscend_nil.of_assignAll hvalues hsub))
  | case5 key entries sub hget hrepeated =>
    obtain ⟨other, hother, rfl⟩ := Option.map_eq_some_iff.mp hdefine
    have hsub := ascends_table_iff.mp (h.of_get? hget)
    exact h.put (ascends_table_iff.mpr (hsub.of_assignAll hvalues hother))
  | case6 => cases hdefine
  | case7 key path entries hpath hget ih =>
    obtain ⟨sub, hsub, rfl⟩ := Option.map_eq_some_iff.mp hdefine
    exact h.put (ascends_table_iff.mpr (ih entriesAscend_nil hsub))
  | case8 key path entries hpath origin sub hget ih =>
    obtain ⟨other, hother, rfl⟩ := Option.map_eq_some_iff.mp hdefine
    have hsub := ascends_table_iff.mp (h.of_get? hget)
    exact h.put (ascends_table_iff.mpr (ih hsub hother))
  | case9 key path entries hpath earlier last hget ih =>
    obtain ⟨other, hother, rfl⟩ := Option.map_eq_some_iff.mp hdefine
    obtain ⟨hlast, hearlier⟩ := ascends_rows_iff.mp (h.of_get? hget)
    exact h.put (ascends_rows_iff.mpr ⟨ih hlast hother, hearlier⟩)
  | case10 => cases hdefine

/-! ## Finished tables -/

/-- The entries of a finished table are the finished entries. -/
theorem entriesToToml_eq_map (entries : List (String × Node)) :
    entriesToToml entries = entries.map fun (key, node) => (key, node.toToml) := by
  induction entries with
  | nil => rfl
  | cons entry entries ih => rw [entriesToToml, ih, List.map_cons]

/-- The rows of a finished array are the finished tables. -/
theorem rowsToToml_eq_map (rows : List (List (String × Node))) :
    rowsToToml rows = rows.map fun row => .table (entriesToToml row) := by
  induction rows with
  | nil => rfl
  | cons row rows ih => rw [rowsToToml, ih, List.map_cons]

/-- A finished table ascends when its keys and its finished entries do. -/
theorem ascends_entriesToToml (hsorted : Members.Sorted entries)
    (hentries : ∀ entry ∈ entries, entry.2.toToml.Ascends) :
    (Toml.table (entriesToToml entries)).Ascends := by
  rw [Toml.ascends_table_iff, entriesToToml_eq_map]
  refine ⟨List.pairwise_map.mpr hsorted, ?_⟩
  intro entry hentry
  obtain ⟨source, hsource, rfl⟩ := List.mem_map.mp hentry
  exact hentries source hsource

/-- The value of a part that ascends does so too. -/
theorem Ascends.toToml (h : node.Ascends) : node.toToml.Ascends := by
  induction h with
  | value hv => rwa [Node.toToml]
  | table hsorted hentries ih =>
    rw [Node.toToml]
    exact ascends_entriesToToml hsorted ih
  | @rows earlier last hsorted hrows ih =>
    rw [Node.toToml, rowsToToml_eq_map, Toml.ascends_array_iff]
    have hrow : ∀ row ∈ last :: earlier, (Toml.table (entriesToToml row)).Ascends :=
      fun row hrow => ascends_entriesToToml (hsorted row hrow) (ih row hrow)
    obtain ⟨hlast, hearlier⟩ := List.forall_mem_cons.mp hrow
    rw [List.forall_mem_append, List.forall_mem_map]
    exact ⟨hearlier, List.forall_mem_singleton.mpr hlast⟩

/-- The value of a table that ascends does so too. -/
theorem EntriesAscend.toToml (h : EntriesAscend entries) :
    (Toml.table (entriesToToml entries)).Ascends :=
  ascends_entriesToToml h.sorted fun entry hentry => (h.ascends entry hentry).toToml

end Node

/-! ## Values -/

/-- An integer has no children. -/
theorem children_of_integerOf? {n : Int} {v : Toml} (h : integerOf? n = some v) :
    v.children = [] := by
  rw [integerOf?, Option.ite_none_right_eq_some] at h
  obtain ⟨-, ⟨⟩⟩ := h
  rfl

/-- What is read as an integer has no children. -/
theorem children_of_integer? {word : List Char} {v : Toml} (h : integer? word = some v) :
    v.children = [] := by
  unfold integer? at h
  split at h
  all_goals
    obtain ⟨n, -, hn⟩ := Option.bind_eq_some_iff.mp h
    exact children_of_integerOf? hn

/-- What is read as a double has no children. -/
theorem children_of_double? {word : List Char} {v : Toml} (h : double? word = some v) :
    v.children = [] := by
  unfold double? at h
  dsimp only at h
  split at h
  · cases h
    rfl
  · split at h
    · cases h
      rfl
    · split at h
      · cases h
      · simp only [Option.bind_eq_bind, Option.bind_eq_some_iff, Option.map_eq_some_iff] at h
        obtain ⟨whole, -, fraction, -, exponent, -, d, -, rfl⟩ := h
        rfl

/-- A bare word is not divided any further. -/
theorem children_of_scalar? {word : List Char} {v : Toml} (h : scalar? word = some v) :
    v.children = [] := by
  unfold scalar? at h
  split at h
  · cases h
    rfl
  · split at h
    · cases h
      rfl
    · split at h
      · rename_i value hinteger
        cases h
        exact children_of_integer? hinteger
      · split at h
        · cases h
          rfl
        · exact children_of_double? h

/-- What the readers of a value, of items and of entries read with some fuel ascends. -/
structure ReadsAscend (fuel : Nat) : Prop where
  value : ∀ {depth : Nat} {cs rest : List Char} {v : Toml},
    readValue fuel depth cs = some (v, rest) → v.Ascends
  items : ∀ {depth : Nat} {cs rest : List Char} {items : List Toml},
    readItems fuel depth cs = some (items, rest) → ∀ item ∈ items, item.Ascends
  entries : ∀ {depth : Nat} {cs rest : List Char} {values : List (List String × Toml)},
    readEntries fuel depth cs = some (values, rest) → ∀ value ∈ values, value.2.Ascends

section

variable {fuel depth : Nat} {cs rest : List Char}

/-- With one more unit of fuel the values that are read still ascend. -/
theorem ReadsAscend.value_succ (ih : ReadsAscend fuel) {v : Toml}
    (h : readValue (fuel + 1) depth cs = some (v, rest)) : v.Ascends := by
  unfold readValue at h
  split at h
  · obtain ⟨read, -, hread⟩ := Option.map_eq_some_iff.mp h
    cases hread
    exact ascends_of_children_eq_nil rfl
  · split at h
    · rw [Option.ite_none_left_eq_some] at h
      obtain ⟨⟨items, left⟩, hitems, ⟨⟩⟩ := Option.map_eq_some_iff.mp h.2
      exact ascends_array_iff.mpr (ih.items hitems)
    · simp only [Option.ite_none_left_eq_some, Option.bind_eq_bind, Option.bind_eq_some_iff] at h
      obtain ⟨-, ⟨values, left⟩, hvalues, entries, hentries, ⟨⟩⟩ := h
      exact (Node.entriesAscend_nil.of_assignAll (ih.entries hvalues) hentries).toToml
    · obtain ⟨value, hvalue, ⟨⟩⟩ := Option.map_eq_some_iff.mp h
      exact ascends_of_children_eq_nil (children_of_scalar? hvalue)

/-- With one more unit of fuel the items that are read still ascend. -/
theorem ReadsAscend.items_succ (ih : ReadsAscend fuel) {items : List Toml}
    (h : readItems (fuel + 1) depth cs = some (items, rest)) :
    ∀ item ∈ items, item.Ascends := by
  rw [readItems] at h
  simp only [Option.bind_eq_bind, Option.bind_eq_some_iff] at h
  obtain ⟨start, -, h⟩ := h
  split at h
  · cases h
    simp
  · simp only [Option.bind_eq_some_iff] at h
    obtain ⟨⟨item, left⟩, hitem, next, -, h⟩ := h
    split at h
    · cases h
      exact List.forall_mem_singleton.mpr (ih.value hitem)
    · obtain ⟨⟨others, left⟩, hothers, ⟨⟩⟩ := Option.bind_eq_some_iff.mp h
      exact List.forall_mem_cons.mpr ⟨ih.value hitem, ih.items hothers⟩
    · cases h

/-- With one more unit of fuel the entries that are read still ascend. -/
theorem ReadsAscend.entries_succ (ih : ReadsAscend fuel) {values : List (List String × Toml)}
    (h : readEntries (fuel + 1) depth cs = some (values, rest)) :
    ∀ value ∈ values, value.2.Ascends := by
  rw [readEntries] at h
  simp only [Option.bind_eq_bind, Option.bind_eq_some_iff] at h
  obtain ⟨start, -, h⟩ := h
  split at h
  · cases h
    simp
  · simp only [Option.bind_eq_some_iff] at h
    obtain ⟨⟨path, left⟩, -, next, -, h⟩ := h
    split at h
    · simp only [Option.bind_eq_some_iff] at h
      obtain ⟨_, -, ⟨value, left⟩, hvalue, next, -, h⟩ := h
      split at h
      · cases h
        exact List.forall_mem_singleton.mpr (ih.value hvalue)
      · obtain ⟨⟨others, left⟩, hothers, ⟨⟩⟩ := Option.bind_eq_some_iff.mp h
        exact List.forall_mem_cons.mpr ⟨ih.value hvalue, ih.entries hothers⟩
      · cases h
    · cases h

end

/-- The induction is on the fuel, for all three readers at once, as they call each other. -/
theorem readsAscend (fuel : Nat) : ReadsAscend fuel := by
  induction fuel with
  | zero => constructor <;> simp [readValue, readItems, readEntries]
  | succ fuel ih => exact ⟨ih.value_succ, ih.items_succ, ih.entries_succ⟩

/-! ## Documents -/

/-- A statement, if it has a value, has one that ascends. -/
def Statement.Ascends : Statement → Prop
  | .header _ _ => True
  | .entry _ value => value.Ascends

/-- The value of a statement that is read ascends. -/
theorem ascends_of_readStatement {fuel : Nat} {cs rest : List Char} {statement : Statement}
    (h : readStatement fuel cs = some (statement, rest)) : statement.Ascends := by
  have hheader : ∀ repeated cs, readHeader fuel repeated cs = some (statement, rest) →
      statement.Ascends := by
    intro repeated cs h
    simp only [readHeader, Option.bind_eq_bind, Option.bind_eq_some_iff] at h
    obtain ⟨⟨path, left⟩, -, h⟩ := h
    dsimp only at h
    split at h <;> cases h <;> trivial
  unfold readStatement at h
  split at h
  · exact hheader _ _ h
  · exact hheader _ _ h
  · simp only [Option.bind_eq_bind, Option.bind_eq_some_iff] at h
    obtain ⟨⟨path, left⟩, -, h⟩ := h
    dsimp only at h
    split at h
    · obtain ⟨⟨value, left⟩, hvalue, ⟨⟩⟩ := Option.bind_eq_some_iff.mp h
      exact (readsAscend fuel).value hvalue
    · cases h

/-- The values of all statements that are read ascend. -/
theorem ascends_of_readStatements {fuel : Nat} {cs : List Char} {statements : List Statement}
    (h : readStatements fuel cs = some statements) :
    ∀ statement ∈ statements, statement.Ascends := by
  induction fuel generalizing cs statements with
  | zero => cases h
  | succ fuel ih =>
    rw [readStatements] at h
    simp only [Option.bind_eq_bind, Option.bind_eq_some_iff] at h
    obtain ⟨start, -, h⟩ := h
    split at h
    · cases h
      simp
    · simp only [Option.bind_eq_some_iff] at h
      obtain ⟨⟨statement, left⟩, hstatement, next, -, others, hothers, ⟨⟩⟩ := h
      exact List.forall_mem_cons.mpr ⟨ascends_of_readStatement hstatement, ih hothers⟩

/-- Dividing statements into sections keeps their values ascending. -/
theorem ascends_of_sections {statements : List Statement}
    (h : ∀ statement ∈ statements, statement.Ascends) :
    (∀ value ∈ (sections statements).1, value.2.Ascends) ∧
      ∀ s ∈ (sections statements).2, ∀ value ∈ s.values, value.2.Ascends := by
  induction statements with
  | nil => simp [sections]
  | cons statement statements ih =>
    obtain ⟨hstatement, hstatements⟩ := List.forall_mem_cons.mp h
    obtain ⟨hvalues, hsections⟩ := ih hstatements
    cases statement with
    | entry path value => exact ⟨List.forall_mem_cons.mpr ⟨hstatement, hvalues⟩, hsections⟩
    | header repeated path =>
      refine ⟨?_, List.forall_mem_cons.mpr ⟨hvalues, hsections⟩⟩
      simp [sections]

/-- Defining one section after the other keeps the table ascending. -/
theorem ascends_of_foldlM_define {sections : List Section} {entries out : List (String × Node)}
    (hentries : Node.EntriesAscend entries)
    (hsections : ∀ s ∈ sections, ∀ value ∈ s.values, value.2.Ascends)
    (h : sections.foldlM (fun entries s => Node.define s.repeated s.values s.path entries)
      entries = some out) : Node.EntriesAscend out := by
  induction sections generalizing entries with
  | nil =>
    cases h
    exact hentries
  | cons s sections ih =>
    obtain ⟨hvalues, hsections⟩ := List.forall_mem_cons.mp hsections
    rw [List.foldlM_cons, Option.bind_eq_bind, Option.bind_eq_some_iff] at h
    obtain ⟨next, hnext, h⟩ := h
    exact ih (hentries.of_define hvalues hnext) hsections h

/-- The value of statements that ascend does so too. -/
theorem ascends_of_ofStatements? {statements : List Statement} {v : Toml}
    (hstatements : ∀ statement ∈ statements, statement.Ascends)
    (h : ofStatements? statements = some v) : v.Ascends := by
  obtain ⟨hvalues, hsections⟩ := ascends_of_sections hstatements
  rw [ofStatements?, Option.map_eq_some_iff] at h
  obtain ⟨entries, hentries, rfl⟩ := h
  obtain ⟨first, hfirst, hentries⟩ := Option.bind_eq_some_iff.mp hentries
  have hascends := Node.entriesAscend_nil.of_assignAll hvalues hfirst
  exact (ascends_of_foldlM_define hascends hsections hentries).toToml

/-- The keys of all tables of a parsed document ascend. -/
theorem ascends_of_ofText? {document : String} {v : Toml} (h : ofText? document = some v) :
    v.Ascends := by
  obtain ⟨statements, hread, hstatements⟩ := Option.bind_eq_some_iff.mp h
  exact ascends_of_ofStatements? (ascends_of_readStatements hread) hstatements

end CiClient.Toml
