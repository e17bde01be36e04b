import Mathlib.Data.List.Basic
import ViewAssembly.Proofs.Record.Reading
import ViewAssembly.Proofs.Yaml.Names
import ViewAssembly.Schema.Library

/-!
# The columns of a model and of related models

A snapshot holds the columns of a model in the order of their declaration, and behind them the
columns of the models that its relations lead to, in the order in which their tokens first come up.
A token that relations give is defined by the last relation that gives it; tokens that no relation
gives are defined as the model says. Only relations of the model itself give tokens: those of related
models change nothing. This holds in every library whose models have columns of distinct names
(`SchemaLibrary.exists_isFlattened_snapshot`), and so in the ones that are loaded from a folder
(`SchemaLibrary.snapshot_isFlattened`).
-/

namespace ViewAssembly

/-- Does a relation lead to a column of the other model? -/
def Relation.Exposes (r : Relation) (field : String) : Prop :=
  ∀ names, r.fields = some names → field ∈ names

lemma Relation.exposes_iff {r : Relation} {field : String} :
    r.exposes field = true ↔ r.Exposes field := by
  rw [Relation.exposes, Relation.Exposes]
  cases r.fields <;> simp

/-! ### Loading -/

/-- Entries that are read from what a node denotes have distinct names. -/
lemma Yaml.Denoted.nodup_keys_of_readEntries? {α : Type} {reader : Value → Option α} {v : Value}
    {es : Entries α} (hv : Denoted v) (h : v.readEntries? reader = some es) : es.keys.Nodup := by
  obtain ⟨fs, hfs, h⟩ := Option.bind_eq_some_iff.mp h
  rw [Value.fields?_eq_some_iff] at hfs
  subst hfs
  rw [keys_of_mapM h]
  exact hv.nodup_keys

namespace SchemaLibrary

variable {library : SchemaLibrary} {schema : ModelSchema}

/-- Do the columns of every model have distinct names? -/
def Distinct (library : SchemaLibrary) : Prop := ∀ e ∈ library, e.2.columns.keys.Nodup

lemma nodup_columns_of_ofText? {text : String} (h : ofText? text = some schema) :
    schema.columns.keys.Nodup := by
  obtain ⟨v, hv, h⟩ := Option.bind_eq_some_iff.mp h
  have hdenoted := Yaml.denoted_of_ofYaml? hv
  cases hfs : v.record? with
  | none => simp [ModelSchema.ofValue, hfs, Checked.toOption] at h
  | some fs =>
    have hread : ModelSchema.ofValue v = .ok schema := Checked.toOption_eq_some_iff.mp h
    simp only [ModelSchema.ofValue, hfs, Checked.seq_eq_ok_iff, Checked.map_eq_ok_iff] at hread
    obtain ⟨_, _, ⟨_, _, ⟨_, columns, ⟨_, -, rfl⟩, hcolumns, rfl⟩, -, rfl⟩, -, rfl⟩ := hread
    rcases FieldName.read_eq_ok_iff.mp hcolumns with ⟨-, rfl⟩ | ⟨used, w, hw, hread⟩
    · exact List.nodup_nil
    · have hmem := Entries.mem_of_get? (FieldName.get?_of_find? hw)
      exact (hdenoted.of_mem hfs hmem).nodup_keys_of_readEntries? hread

lemma Distinct.add (h : library.Distinct) (hschema : schema.columns.keys.Nodup) :
    (library.add schema).Distinct := by
  intro e he
  rw [SchemaLibrary.add] at he
  rcases Entries.eq_or_mem_of_mem_put he with rfl | he
  · simpa [Snapshot.withKeys] using hschema
  · exact h e he

theorem distinct_ofFolder (folder : Folder) : (ofFolder folder).Distinct := by
  apply List.foldlRecOn (motive := Distinct)
  · nofun
  · intro library h schema hschema
    obtain ⟨file, -, hfile⟩ := List.mem_filterMap.mp hschema
    exact h.add (nodup_columns_of_ofText? hfile)

/-! ### Tokens that relations give -/

/-- Does a relation give a token, with this column of the model that it leads to? -/
def Gives (library : SchemaLibrary) (relation : String × Relation) (token : String)
    (column : Column) : Prop :=
  ∃ target field, library.find? relation.2.model = some target ∧
    target.columns.get? field = some column ∧ relation.2.Exposes field ∧
    token = relation.1 ++ "." ++ field

/-- Does any of these relations give a token? -/
def IsGiven (library : SchemaLibrary) (relations : Entries Relation) (token : String) : Prop :=
  ∃ relation ∈ relations, ∃ column, library.Gives relation token column

/-- The tokens that relations give, in the order in which they come up. -/
def relatedTokens (library : SchemaLibrary) (relations : Entries Relation) : List String :=
  relations.flatMap fun (name, relation) =>
    match library.find? relation.model with
    | none        => []
    | some target =>
      (target.columns.keys.filter relation.exposes).map fun field => name ++ "." ++ field

/-- What the columns of a schema and of related models are put together to. -/
structure IsFlattened (library : SchemaLibrary) (schema : ModelSchema) (snapshot : Snapshot) :
    Prop where
  /-- The tokens of the model come first, then those that relations add. -/
  keys : snapshot.keys = schema.columns.keys ++
    (library.relatedTokens schema.relations).eraseDups.filter (!schema.columns.keys.contains ·)
  mem_keys_iff : ∀ token, token ∈ snapshot.keys ↔
    token ∈ schema.columns.keys ∨ library.IsGiven schema.relations token
  /-- The last relation that gives a token defines it; only the key is that of the token. -/
  given : ∀ token, library.IsGiven schema.relations token →
    ∃ before relation after column, schema.relations = before ++ relation :: after ∧
      library.Gives relation token column ∧ ¬ library.IsGiven after token ∧
      snapshot.get? token = some { column with key := token }
  own : ∀ token, ¬ library.IsGiven schema.relations token →
    snapshot.get? token = schema.columns.get? token

def withRelations (library : SchemaLibrary) (relations : ModelSchema → Entries Relation) :
    SchemaLibrary :=
  library.mapValues fun _ schema => { schema with relations := relations schema }

variable {relation : String × Relation} {relations before after : Entries Relation}
variable {token : String} {column : Column}

def givenColumns (library : SchemaLibrary) (relations : Entries Relation) :
    List (String × Column) :=
  relations.flatMap fun (name, relation) => library.relatedColumns name relation

lemma snapshotOf_eq (library : SchemaLibrary) (schema : ModelSchema) :
    library.snapshotOf schema = (library.givenColumns schema.relations).foldl
      (fun snapshot p => snapshot.put p.1 p.2) schema.columns := rfl

lemma map_fst_givenColumns (library : SchemaLibrary) (relations : Entries Relation) :
    (library.givenColumns relations).map Prod.fst = library.relatedTokens relations := by
  rw [givenColumns, relatedTokens, List.map_flatMap]
  apply List.flatMap_congr
  rintro ⟨name, relation⟩ -
  simp only [relatedColumns]
  cases library.find? relation.model with
  | none => rfl
  | some target =>
    simp [Entries.restrict, Entries.keys, List.filter_map, Function.comp_def]

lemma mem_relatedTokens_iff :
    token ∈ library.relatedTokens relations ↔ library.IsGiven relations token := by
  rw [relatedTokens, List.mem_flatMap]
  constructor
  · rintro ⟨⟨name, relation⟩, hmem, htoken⟩
    cases htarget : library.find? relation.model with
    | none => simp [htarget] at htoken
    | some target =>
      simp only [htarget] at htoken
      obtain ⟨field, hfield, rfl⟩ := List.mem_map.mp htoken
      obtain ⟨hkey, hexposes⟩ := List.mem_filter.mp hfield
      obtain ⟨column, hcolumn⟩ := Option.isSome_iff_exists.mp (Entries.isSome_get?_iff.mpr hkey)
      exact ⟨(name, relation), hmem, column, target, field, htarget, hcolumn,
        Relation.exposes_iff.mp hexposes, rfl⟩
  · rintro ⟨⟨name, relation⟩, hmem, column, target, field, htarget, hcolumn, hexposes, rfl⟩
    refine ⟨(name, relation), hmem, ?_⟩
    have hkey : field ∈ target.columns.keys := Entries.isSome_get?_iff.mp (by simp [hcolumn])
    simp only [htarget]
    apply List.mem_map_of_mem
    exact List.mem_filter.mpr ⟨hkey, Relation.exposes_iff.mpr hexposes⟩

/-- A token that some relation gives is given by a last one. -/
lemma IsGiven.exists_last (h : library.IsGiven relations token) :
    ∃ before relation after column, relations = before ++ relation :: after ∧
      library.Gives relation token column ∧ ¬ library.IsGiven after token := by
  induction relations with
  | nil =>
    obtain ⟨relation, hmem, -⟩ := h
    cases hmem
  | cons first rest ih =>
    by_cases hrest : library.IsGiven rest token
    · obtain ⟨before, relation, after, column, rfl, hlast⟩ := ih hrest
      exact ⟨first :: before, relation, after, column, rfl, hlast⟩
    · obtain ⟨relation, hmem, column, hgives⟩ := h
      rcases List.mem_cons.mp hmem with rfl | hmem
      · exact ⟨[], relation, rest, column, rfl, hgives, hrest⟩
      · exact absurd ⟨relation, hmem, column, hgives⟩ hrest

/-! ### Putting the columns together -/

lemma Distinct.nodup_keys (hlibrary : library.Distinct) {model : String}
    (h : library.find? model = some schema) : schema.columns.keys.Nodup :=
  hlibrary _ (Entries.mem_of_get? h)

/-- A relation gives a token once: no column behind the one that it gives has the same token. -/
lemma Gives.exists_append (hlibrary : library.Distinct) (h : library.Gives relation token column) :
    ∃ ps qs, library.relatedColumns relation.1 relation.2
        = ps ++ (token, { column with key := token }) :: qs ∧ token ∉ qs.map Prod.fst := by
  obtain ⟨target, field, htarget, hcolumn, hexposes, rfl⟩ := h
  have hexposed : (target.columns.restrict relation.2.exposes).get? field = some column := by
    rw [Entries.get?_restrict, if_pos (Relation.exposes_iff.mpr hexposes), hcolumn]
  have hnodup : (target.columns.restrict relation.2.exposes).keys.Nodup :=
    Entries.nodup_keys_restrict (hlibrary.nodup_keys htarget) _
  obtain ⟨cs, ds, hsplit⟩ := List.append_of_mem (Entries.mem_of_get? hexposed)
  rw [hsplit, Entries.keys_append, Entries.keys_cons] at hnodup
  have hfield : field ∉ Entries.keys ds := (List.nodup_cons.mp (List.nodup_append.mp hnodup).2.1).1
  simp only [relatedColumns, htarget, hsplit, List.map_append, List.map_cons]
  refine ⟨_, _, rfl, ?_⟩
  -- the name of the relation is in front of every token, so the fields differ as the tokens do
  intro htoken
  obtain ⟨p, hp, hptoken⟩ := List.mem_map.mp htoken
  obtain ⟨d, hd, rfl⟩ := List.mem_map.mp hp
  obtain hdfield : d.1 = field := (String.append_right_inj _).mp hptoken
  exact hfield (hdfield ▸ List.mem_map_of_mem hd)

lemma givenColumns_append_cons :
    library.givenColumns (before ++ relation :: after) = library.givenColumns before ++
      (library.relatedColumns relation.1 relation.2 ++ library.givenColumns after) := by
  simp [givenColumns]

lemma get?_snapshotOf_of_last (hlibrary : library.Distinct)
    (hrelations : schema.relations = before ++ relation :: after)
    (hgives : library.Gives relation token column) (hafter : ¬ library.IsGiven after token) :
    (library.snapshotOf schema).get? token = some { column with key := token } := by
  obtain ⟨ps, qs, hrelation, hqs⟩ := hgives.exists_append hlibrary
  have hlast : token ∉ (qs ++ library.givenColumns after).map Prod.fst := by
    rw [List.map_append, map_fst_givenColumns, List.mem_append, mem_relatedTokens_iff, not_or]
    exact ⟨hqs, hafter⟩
  rw [snapshotOf_eq, hrelations, givenColumns_append_cons, hrelation, List.append_assoc,
    List.cons_append, ← List.append_assoc]
  exact Entries.get?_foldl_put_of_last _ _ _ hlast

lemma isFlattened_snapshotOf (hlibrary : library.Distinct) (schema : ModelSchema) :
    library.IsFlattened schema (library.snapshotOf schema) := by
  have hkeys : (library.snapshotOf schema).keys = schema.columns.keys ++
      (library.relatedTokens schema.relations).eraseDups.filter
        (!schema.columns.keys.contains ·) := by
    rw [snapshotOf_eq, Entries.keys_foldl_put, map_fst_givenColumns]
  constructor
  case keys => exact hkeys
  case mem_keys_iff =>
    intro token
    rw [hkeys, List.mem_append, List.mem_filter, List.mem_eraseDups, mem_relatedTokens_iff]
    by_cases hown : token ∈ schema.columns.keys <;> simp [hown]
  case given =>
    intro token hgiven
    obtain ⟨before, relation, after, column, hrelations, hgives, hafter⟩ := hgiven.exists_last
    exact ⟨before, relation, after, column, hrelations, hgives, hafter,
      get?_snapshotOf_of_last hlibrary hrelations hgives hafter⟩
  case own =>
    intro token hgiven
    rw [snapshotOf_eq]
    apply Entries.get?_foldl_put_of_notMem
    rw [map_fst_givenColumns, mem_relatedTokens_iff]
    exact hgiven

/-! ### Relations of related models -/

lemma relatedColumns_withRelations (r : ModelSchema → Entries Relation) (name : String)
    (relation : Relation) :
    (library.withRelations r).relatedColumns name relation
      = library.relatedColumns name relation := by
  have hfind : (library.withRelations r).find? relation.model
      = (library.find? relation.model).map fun schema => { schema with relations := r schema } := by
    rw [find?, withRelations, Entries.get?_mapValues]
    rfl
  rw [relatedColumns, relatedColumns, hfind]
  cases library.find? relation.model <;> rfl

lemma snapshotOf_withRelations (library : SchemaLibrary) (r : ModelSchema → Entries Relation)
    (schema : ModelSchema) :
    (library.withRelations r).snapshotOf schema = library.snapshotOf schema := by
  simp only [snapshotOf, relatedColumns_withRelations]

/--
The columns of a model are its own ones and those that its relations give, in every library whose
models have columns of distinct names. Other relations in its schemas would give the same columns
to the model, as long as its own ones are kept.
-/
theorem exists_isFlattened_snapshot (hlibrary : library.Distinct) {model : String}
    (h : library.find? model = some schema) :
    ∃ snapshot, library.snapshot model = .ok snapshot ∧ library.IsFlattened schema snapshot ∧
      ∀ relations, (library.withRelations relations).snapshotOf schema = snapshot := by
  refine ⟨library.snapshotOf schema, ?_, isFlattened_snapshotOf hlibrary schema, ?_⟩
  · rw [snapshot, h]
  · intro relations
    exact snapshotOf_withRelations library relations schema

/-- So are those of a loaded model: however a folder is read, no model has a column name twice. -/
theorem snapshot_isFlattened (folder : Folder) {model : String} {schema : ModelSchema}
    (h : (ofFolder folder).find? model = some schema) :
    ∃ snapshot, (ofFolder folder).snapshot model = .ok snapshot ∧
      (ofFolder folder).IsFlattened schema snapshot ∧
      ∀ relations, ((ofFolder folder).withRelations relations).snapshotOf schema = snapshot :=
  exists_isFlattened_snapshot (distinct_ofFolder folder) h

/-- A model with a relation to itself, which gives a token of its own, and with one to no model. -/
def selfRelated : Folder :=
  .ofFiles [("page.yaml", "\n".intercalate
    ["? model", ": Page",
      "? columns",
      ": ? title", "  : ? sortable", "    : true",
      "  ? self.title", "  : ? hidden", "    : true",
      "? relations",
      ": ? self", "  : ? model", "    : pa-ge",
      "  ? gone", "  : ? model", "    : Ghost"])]

/--
The relation gives `self.title` the definition of `title`. It gives `self.self.title` because the
model has a column `self.title` of its own, and not because the relation was followed twice.
-/
theorem snapshot_isFlattened_selfRelated :
    ∃ schema snapshot, (ofFolder selfRelated).find? "PAGE" = some schema ∧
      (ofFolder selfRelated).snapshot "PAGE" = .ok snapshot ∧
      (ofFolder selfRelated).IsFlattened schema snapshot ∧
      snapshot.keys = ["title", "self.title", "self.self.title"] ∧
      (snapshot.get? "self.title").map (fun column => (column.key, column.sortable))
        = some ("self.title", true) := by
  have hshown : ((ofFolder selfRelated).snapshot "PAGE").toOption.map (fun snapshot =>
      (snapshot.keys,
        (snapshot.get? "self.title").map fun column => (column.key, column.sortable)))
      = some (["title", "self.title", "self.self.title"], some ("self.title", true)) := by
    decide +kernel
  cases hfind : (ofFolder selfRelated).find? "PAGE" with
  | none =>
    rw [snapshot, hfind] at hshown
    cases hshown
  | some schema =>
    obtain ⟨snapshot, hsnapshot, hflattened, -⟩ := snapshot_isFlattened selfRelated hfind
    rw [hsnapshot] at hshown
    obtain ⟨hkeys, hcolumn⟩ := Prod.mk.inj (Option.some.inj hshown)
    exact ⟨schema, snapshot, rfl, hsnapshot, hflattened, hkeys, hcolumn⟩

end SchemaLibrary

end ViewAssembly
