import ViewAssembly.Proofs.Schema.ModelName
import ViewAssembly.Proofs.Section.Filters

/-!
# Filters with choices from a related model

A select filter may take its choices from the model to which a relation leads. The model is known by
another form of its name than that under which it is asked for, but for names in ASCII the two forms
agree: the filter is there exactly if one of the known models has the name of the relation, letter
case and separators aside (`Context.related_filter_iff`).
-/

namespace ViewAssembly

lemma leadsTo_relation_iff {relationship key model : String} (h : relationship ≠ "") :
    LeadsTo relationship key model ↔ model = ModelName.pascalCase relationship := by
  constructor
  · intro hleads
    cases hleads with
    | relation => rfl
    | key stem hempty => exact absurd hempty h
  · rintro rfl
    exact .relation h

namespace Context

variable {ctx : Context} {token relationship : String} {column : Column} {models : List String}

/--
Is this a column with a filter that takes its choices from the model of a relation, as far as it
does not depend on whether this model is known?
-/
structure TakesChoicesThrough (ctx : Context) (token : String) (column : Column)
    (relationship : String) : Prop where
  allowed : ctx.allowsFilter token = true
  offered : column.admits ctx.lang = true
  configured : ∃ config, column.filterable = some (.config config) ∧ TakesChoices config ∧
    settingText config "relationship" "" = relationship

/-- Such a column has its filter if the model of the relation is one of those that are known. -/
lemma hasFilter_iff_of_relation (h : ctx.TakesChoicesThrough token column relationship)
    (hrelationship : relationship ≠ "") (hknown : ctx.knownModels = some models) :
    ctx.HasFilter token column ↔ Text.lower (ModelName.pascalCase relationship) ∈ models := by
  obtain ⟨config, hconfig, htakes, hsetting⟩ := h.configured
  have hchoices (key : String) : ctx.FindsChoices config key ↔
      Text.lower (ModelName.pascalCase relationship) ∈ models := by
    simp only [FindsChoices, hsetting, leadsTo_relation_iff hrelationship, hknown,
      Option.some.injEq, forall_eq', exists_eq_left]
  constructor
  · intro hfilter
    exact (hchoices _).mp (hfilter.choices config hconfig htakes)
  · intro hmem
    refine ⟨allowsFilter_iff.mp h.allowed, h.offered, by simp [hconfig], ?_⟩
    intro config' hconfig' _
    cases hconfig.symm.trans hconfig'
    exact (hchoices _).mpr hmem

/--
In small letters, the name under which the model of a relation is asked for is the form under which
models are kept. So a filter that takes its choices from this model is there exactly if one of the
known models has that name, and otherwise it is left out from between the others.
-/
theorem related_filter_iff {relationship : String} (hascii : Text.IsAscii relationship) :
    Text.lower (ModelName.pascalCase relationship) = ModelName.normalize relationship ∧
    ∀ ctx : Context, ∀ (models : List String) (before : Snapshot) (token : String)
      (column : Column) (after : Snapshot),
      relationship ≠ "" → ctx.TakesChoicesThrough token column relationship →
      ctx.knownModels = some (models.map ModelName.normalize) →
      (ctx.withColumns (before ++ (token, column) :: after)).filters =
        (ctx.withColumns before).filters ++ (ctx.filter? token column).toList
          ++ (ctx.withColumns after).filters ∧
      ((ctx.filter? token column).isSome = true ↔
        ∃ model ∈ models, ModelName.normalize model = ModelName.normalize relationship) := by
  have hagree := ModelName.lower_pascalCase hascii
  refine ⟨hagree, ?_⟩
  intro ctx models before token column after hrelationship htakes hknown
  constructor
  · simp only [filters_withColumns, List.filterMap_append, List.filterMap_cons]
    cases ctx.filter? token column <;> simp
  · rw [isSome_filter?_iff, hasFilter_iff_of_relation htakes hrelationship hknown, hagree,
      List.mem_map]

/-- A column whose filter takes its choices from the model of a relation. -/
def relatedColumn (relationship : String) : Column where
  filterable := some (.config [("type", .str "select"), ("mode", .str "relation"),
    ("relationship", .str relationship)])

/-- A column for posts and one for tags, where there is no model of tags. -/
def postsContext : Context where
  snapshot := [("post", relatedColumn "_blog-_post"), ("tag", relatedColumn "tag")]
  knownModels := some (["Blog Post", "User"].map ModelName.normalize)

lemma takesChoicesThrough_post :
    postsContext.TakesChoicesThrough "post" (relatedColumn "_blog-_post") "_blog-_post" where
  allowed := rfl
  offered := rfl
  configured := ⟨_, rfl, ⟨by decide, by decide⟩, by decide⟩

lemma takesChoicesThrough_tag :
    postsContext.TakesChoicesThrough "tag" (relatedColumn "tag") "tag" where
  allowed := rfl
  offered := rfl
  configured := ⟨_, rfl, ⟨by decide, by decide⟩, by decide⟩

/-- The model of posts is found whatever the separators in its name, a model of tags is not. -/
theorem related_filter_iff_post :
    Text.IsAscii "_blog-_post" ∧ Text.IsAscii "tag" ∧
      postsContext.TakesChoicesThrough "post" (relatedColumn "_blog-_post") "_blog-_post" ∧
      postsContext.TakesChoicesThrough "tag" (relatedColumn "tag") "tag" ∧
      (postsContext.filter? "post" (relatedColumn "_blog-_post")).isSome = true ∧
      ¬ (postsContext.filter? "tag" (relatedColumn "tag")).isSome = true := by
  have hpost : Text.IsAscii "_blog-_post" := by decide
  have htag : Text.IsAscii "tag" := by decide
  obtain ⟨-, hposts⟩ := related_filter_iff hpost
  obtain ⟨-, htags⟩ := related_filter_iff htag
  have hfound := (hposts postsContext ["Blog Post", "User"] [] "post" _ [] (by decide)
    takesChoicesThrough_post rfl).2
  have hmissing := (htags postsContext ["Blog Post", "User"] [] "tag" _ [] (by decide)
    takesChoicesThrough_tag rfl).2
  exact ⟨hpost, htag, takesChoicesThrough_post, takesChoicesThrough_tag, hfound.mpr (by decide),
    hmissing.not.mpr (by decide)⟩

end Context

end ViewAssembly
