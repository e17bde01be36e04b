import Mathlib.Data.List.Basic
import ViewAssembly.Section.Filters

/-!
# Columns with filters

A column has a filter if it is allowed, offered and not denied, unless its filter is to take its
choices from a related model that cannot be told or is not known (`Context.HasFilter`). Each column
has its filter whatever the others have, so the filters are those of the columns taken one by one,
in their order (`Context.filters_of_columns`).
-/

namespace ViewAssembly

/-! ### Related models -/

/--
The related model that a select filter leads to: the one of its relation, or, if it names none, the
one that its key names before `_id`.
-/
inductive LeadsTo (relationship key : String) : String → Prop
  | relation : relationship ≠ "" → LeadsTo relationship key (ModelName.pascalCase relationship)
  | key (stem : String) : relationship = "" → key = stem ++ "_id" →
      LeadsTo relationship key (ModelName.pascalCase stem)

lemma leadsTo_iff {relationship key model : String} :
    LeadsTo relationship key model ↔ Context.relatedModel? relationship key = some model := by
  rw [Context.relatedModel?]
  by_cases hnone : relationship = ""
  · rw [if_neg (not_not_intro hnone)]
    simp only [List.isSuffixOf_iff_suffix]
    constructor
    · intro h
      cases h with
      | relation hrelation => exact absurd hnone hrelation
      | key stem _ hkey =>
        subst hkey
        simp
    · intro h
      split_ifs at h with hending
      obtain ⟨stem, hstem⟩ := hending
      rw [← hstem, List.length_append] at h
      simp at h
      subst h
      refine .key (String.ofList stem) hnone (String.toList_inj.mp ?_)
      simp [← hstem]
  · rw [if_pos hnone]
    constructor
    · intro h
      cases h with
      | relation => rfl
      | key _ hempty => exact absurd hempty hnone
    · intro h
      cases h
      exact .relation hnone

/-! ### Columns with and without filter -/

/-- What a configuration says under a name, as text, or a default if it says nothing there. -/
def settingText (config : Entries Value) (name default : String) : String :=
  (((Value.obj config).filled? name).map Value.text).getD default

/-- Does a configuration ask for a select filter that takes its choices from a related model? -/
def TakesChoices (config : Entries Value) : Prop :=
  Text.lower (settingText config "type" "search") = "select" ∧
    Text.lower (settingText config "mode" "self") ≠ "self"

namespace Context

variable {ctx : Context} {token key : String} {column : Column} {config : Entries Value}

/--
Does a filter of this key lead to a related model to take its choices from, one of the known models
if these are listed?
-/
def FindsChoices (ctx : Context) (config : Entries Value) (key : String) : Prop :=
  ∃ model, LeadsTo (settingText config "relationship" "") key model ∧
    ∀ models, ctx.knownModels = some models → Text.lower model ∈ models

/-- Does a column have a filter? -/
structure HasFilter (ctx : Context) (token : String) (column : Column) : Prop where
  /-- The list of allowed columns has the token; without a list, it is one of the model's own. -/
  allowed : match ctx.allowedFilters with
    | some tokens => token ∈ tokens
    | none        => '.' ∉ token.toList
  offered : column.admits ctx.lang = true
  notDenied : column.filterable ≠ some (.flag false)
  /-- Choices that are to be taken from a related model can be. -/
  choices : ∀ config, column.filterable = some (.config config) → TakesChoices config →
    ctx.FindsChoices config (settingText config "value" (column.valueKey token))

lemma allowsFilter_iff : ctx.allowsFilter token = true ↔
    match ctx.allowedFilters with
    | some tokens => token ∈ tokens
    | none        => '.' ∉ token.toList := by
  rw [allowsFilter]
  cases ctx.allowedFilters with
  | none => simp [Token.isRelated, Text.holds]
  | some tokens => simp

lemma knows_iff {model : String} : ctx.knows model = true ↔
    ∀ models, ctx.knownModels = some models → Text.lower model ∈ models := by
  rw [knows]
  cases ctx.knownModels with
  | none => simp
  | some models => simp

lemma findsChoices_iff : ctx.FindsChoices config key ↔
    ∃ model, relatedModel? (settingText config "relationship" "") key = some model ∧
      ctx.knows model = true := by
  simp only [FindsChoices, leadsTo_iff, knows_iff]

/-- A select filter is completed unless its choices are to be taken from where none are found. -/
lemma isSome_selectFilter?_iff {valueKey : String} {filter : Entries Value} :
    (ctx.selectFilter? config valueKey key filter).isSome = true ↔
      (Text.lower (settingText config "mode" "self") ≠ "self" → ctx.FindsChoices config key) := by
  rw [findsChoices_iff]
  simp only [selectFilter?, beq_iff_eq, ← settingText.eq_def]
  split_ifs with hself
  · exact iff_of_true rfl fun hother => absurd hself hother
  · cases relatedModel? (settingText config "relationship" "") key with
    | none => simp [hself]
    | some model => by_cases hknown : ctx.knows model = true <;> simp [hself, hknown]

/-- A configured filter is there unless its choices are to be taken from where none are found. -/
lemma isSome_configuredFilter?_iff :
    (ctx.configuredFilter? token column config).isSome = true ↔
      (TakesChoices config →
        ctx.FindsChoices config (settingText config "value" (column.valueKey token))) := by
  simp only [configuredFilter?, beq_iff_eq, ← settingText.eq_def]
  split_ifs with hselect
  · rw [isSome_selectFilter?_iff]
    exact ⟨fun h htakes => h htakes.2, fun h hmode => h ⟨hselect, hmode⟩⟩
  · exact iff_of_true rfl fun htakes => absurd htakes.1 hselect

lemma isSome_filter?_iff :
    (ctx.filter? token column).isSome = true ↔ ctx.HasFilter token column := by
  rw [filter?]
  by_cases hallowed : ctx.allowsFilter token = true
  · by_cases hoffered : column.admits ctx.lang = true
    · simp only [hallowed, hoffered, Bool.not_true, Bool.or_self, Bool.false_eq_true, if_false]
      split
      · next hdenied => exact iff_of_false nofun fun h => h.notDenied hdenied
      · next config hconfig =>
        rw [Option.isSome_map, isSome_configuredFilter?_iff]
        constructor
        · intro hchoices
          refine ⟨allowsFilter_iff.mp hallowed, hoffered, by simp [hconfig], ?_⟩
          intro config' hconfig'
          cases hconfig.symm.trans hconfig'
          exact hchoices
        · intro h
          exact h.choices config hconfig
      · next hnotDenied hplain =>
        refine iff_of_true rfl ⟨allowsFilter_iff.mp hallowed, hoffered, hnotDenied, ?_⟩
        intro config hconfig
        exact absurd hconfig (hplain config)
    · simp only [hoffered]
      exact iff_of_false (by simp) fun h => hoffered h.offered
  · simp only [hallowed]
    exact iff_of_false (by simp) fun h => hallowed (allowsFilter_iff.mpr h.allowed)

/-! ### The list of filters -/

/-- The same with other columns. -/
def withColumns (ctx : Context) (columns : Snapshot) : Context := { ctx with snapshot := columns }

/-- The same where exactly the columns of a list can be filtered by. -/
def allowing (ctx : Context) (tokens : List String) : Context :=
  { ctx with allowedFilters := some tokens }

lemma filters_eq : ctx.filters = ctx.snapshot.filterMap fun e => ctx.filter? e.1 e.2 := rfl

lemma filters_withColumns (columns : Snapshot) :
    (ctx.withColumns columns).filters = columns.filterMap fun e => ctx.filter? e.1 e.2 := rfl

lemma filters_withColumns_singleton :
    (ctx.withColumns [(token, column)]).filters = (ctx.filter? token column).toList := by
  rw [filters_withColumns]
  cases h : ctx.filter? token column <;> simp [h]

lemma filter?_eq_none_iff : ctx.filter? token column = none ↔ ¬ ctx.HasFilter token column := by
  rw [← isSome_filter?_iff, Option.not_isSome_iff_eq_none]

/-- Of a list of allowed columns it counts which ones it holds. -/
lemma filter?_allowing_congr {tokens others : List String} (h : ∀ t, t ∈ tokens ↔ t ∈ others) :
    (ctx.allowing tokens).filter? token column = (ctx.allowing others).filter? token column := by
  have hallows : (ctx.allowing tokens).allowsFilter token
      = (ctx.allowing others).allowsFilter token := by
    rw [Bool.eq_iff_iff, allowsFilter_iff, allowsFilter_iff]
    exact h token
  rw [filter?, filter?, hallows]
  rfl

/--
The filters are those of the columns taken one by one, in their order, and a column has one filter
or none, as `HasFilter` says. So the order and the repetitions in a list of allowed columns do not
matter, and a column without filter could as well not be there.
-/
theorem filters_of_columns (ctx : Context) :
    ctx.filters = ctx.snapshot.flatMap (fun e => (ctx.withColumns [e]).filters) ∧
    (∀ token column,
      (ctx.HasFilter token column →
        ∃ filter, (ctx.withColumns [(token, column)]).filters = [filter]) ∧
      (¬ ctx.HasFilter token column → (ctx.withColumns [(token, column)]).filters = [])) ∧
    (∀ tokens others : List String, (∀ token, token ∈ tokens ↔ token ∈ others) →
      (ctx.allowing tokens).filters = (ctx.allowing others).filters) ∧
    (∀ before token column after, ctx.snapshot = before ++ (token, column) :: after →
      ¬ ctx.HasFilter token column →
      ctx.filters = (ctx.withColumns (before ++ after)).filters) := by
  refine ⟨?_, fun token column => ⟨?_, ?_⟩, ?_, ?_⟩
  · rw [filters_eq, List.filterMap_eq_flatMap_toList]
    exact List.flatMap_congr fun e _ => filters_withColumns_singleton.symm
  · intro h
    obtain ⟨filter, hfilter⟩ := Option.isSome_iff_exists.mp (isSome_filter?_iff.mpr h)
    exact ⟨filter, by rw [filters_withColumns_singleton, hfilter, Option.toList_some]⟩
  · intro h
    rw [filters_withColumns_singleton, filter?_eq_none_iff.mpr h, Option.toList_none]
  · intro tokens others h
    exact List.filterMap_congr fun e _ => filter?_allowing_congr h
  · intro before token column after hsnapshot h
    have hnone : ctx.filter? token column = none := filter?_eq_none_iff.mpr h
    rw [filters_eq, hsnapshot, filters_withColumns]
    simp [hnone]

/-- A column whose filter takes its choices from a related model, but does not say from which. -/
def choosingColumn : Column where
  filterable := some (.config [("type", .str "select"), ("mode", .str "relation")])

/-- Two columns alike, of which only the first one's key names a related model. -/
def choosingContext : Context where
  snapshot := [("author_id", choosingColumn), ("author", choosingColumn)]
  knownModels := some ["author"]

/-- The column whose key names a related model has a filter, the other one is left out. -/
theorem filters_of_columns_related :
    choosingContext.HasFilter "author_id" choosingColumn ∧
      ¬ choosingContext.HasFilter "author" choosingColumn ∧
      ∃ filter, choosingContext.filters = [filter] := by
  have hnamed : choosingContext.HasFilter "author_id" choosingColumn :=
    isSome_filter?_iff.mp (by decide)
  have hunnamed : ¬ choosingContext.HasFilter "author" choosingColumn := by
    rw [← isSome_filter?_iff]
    decide
  obtain ⟨-, hfilters, -, hleftOut⟩ := filters_of_columns choosingContext
  obtain ⟨filter, hfilter⟩ := (hfilters "author_id" choosingColumn).1 hnamed
  have halone := hleftOut [("author_id", choosingColumn)] "author" choosingColumn [] rfl hunnamed
  exact ⟨hnamed, hunnamed, filter, halone.trans hfilter⟩

end Context

end ViewAssembly
