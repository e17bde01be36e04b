import ViewAssembly.Proofs.Language.Localize
import ViewAssembly.Proofs.Script.Inline
import ViewAssembly.Proofs.Value.Basic
import ViewAssembly.Section.Filters

/-!
# Choices of select filters

A select filter that carries its choices itself names the entries of a choice that hold its title
and its value (`Context.exists_offersChoices_iff`). Inlining leaves the choices as they are.
Localizing does so too unless the two names together pass for language codes, one of them of a known
language: then each choice is taken for a localized text (`Value.OffersChoices.localizeWith`).
-/

namespace ViewAssembly

open ViewAssembly.Language

variable {names : ChoiceNames} {lang : String} {known : List String} {source : FunctionSource}
variable {f : Value} {items : List Value}

namespace ChoiceNames

/-- Do the names of the title and the value pass for language codes, one of a known language? -/
def passForLanguages (names : ChoiceNames) (known : List String) : Bool :=
  isCode names.title && isCode names.value &&
    [names.title, names.value].any fun name => (known.map Text.lower).contains (Text.lower name)

/-- A choice has one entry for its title and one for its value; these may be the same. -/
lemma choice_cases (names : ChoiceNames) (item : Value) :
    (names.title = names.value ∧ ∃ s, names.choice item = .obj [(names.value, .str s)]) ∨
      (names.title ≠ names.value ∧
        ∃ s t, names.choice item = .obj [(names.title, .str s), (names.value, .str t)]) := by
  by_cases h : names.title = names.value
  · refine .inl ⟨h, ?_⟩
    cases item <;> exact ⟨_, by simp only [choice, Entries.put, h]; rfl⟩
  · refine .inr ⟨h, ?_⟩
    cases item <;> exact ⟨_, _, by simp only [choice, Entries.put, if_neg h]; rfl⟩

/-- A choice says what its title and what its value is. -/
lemma exists_get?_choice (names : ChoiceNames) (item : Value) :
    ∃ s t, (names.choice item).get? names.title = some (.str s) ∧
      (names.choice item).get? names.value = some (.str t) := by
  rcases choice_cases names item with ⟨hsame, s, hchoice⟩ | ⟨hne, s, t, hchoice⟩
  · exact ⟨s, s, by simp [hchoice, hsame, Value.get?, Value.fields?]⟩
  · exact ⟨s, t, by simp [hchoice, hne, Value.get?, Value.fields?, Entries.get?_cons]⟩

lemma isTextFor_choice (names : ChoiceNames) (known : List String) (item : Value) :
    (names.choice item).isTextFor known = names.passForLanguages known := by
  rcases choice_cases names item with ⟨hsame, s, hchoice⟩ | ⟨hne, s, t, hchoice⟩
  · simp [hchoice, hsame, Value.isTextFor, Value.isPerLanguage, Value.fields?, Value.isStr,
      Value.str?, passForLanguages]
  · simp [hchoice, Value.isTextFor, Value.isPerLanguage, Value.fields?, Value.isStr, Value.str?,
      passForLanguages]

lemma exists_texts_of_choice (names : ChoiceNames) (item : Value) :
    ∃ fs : Entries Value, names.choice item = .obj fs ∧ ∀ e ∈ fs, e.2.isStr = true := by
  rcases choice_cases names item with ⟨-, s, hchoice⟩ | ⟨-, s, t, hchoice⟩
  · exact ⟨_, hchoice, by simp [Value.isStr, Value.str?]⟩
  · exact ⟨_, hchoice, by simp [Value.isStr, Value.str?]⟩

lemma inlineFunctions_choice (names : ChoiceNames) (item : Value) :
    (names.choice item).inlineFunctions source = names.choice item := by
  obtain ⟨fs, hchoice, htexts⟩ := exists_texts_of_choice names item
  rw [hchoice, Value.inlineFunctions_eq_self_iff]
  exact Value.isInlinedFields_of_texts htexts

/-- A choice whose names pass for languages becomes a text, any other stays. -/
lemma localizeWith_choice (names : ChoiceNames) (lang : String) (known : List String)
    (item : Value) :
    (names.choice item).localizeWith lang known =
      if names.passForLanguages known then .str ((names.choice item).resolve lang)
      else names.choice item := by
  rw [← isTextFor_choice names known item]
  obtain ⟨fs, hchoice, htexts⟩ := exists_texts_of_choice names item
  rw [hchoice]
  split_ifs with htext
  · rw [Value.localizeWith, if_pos htext]
    rfl
  · rw [Value.localizeWith_eq_self_iff, Value.isLocalized, Value.isLocalizedFields_of_texts htexts]
    simpa using htext

end ChoiceNames

/-! ### Filters with choices -/

/-- Is this a select filter that carries its choices itself, one for each of these items? -/
structure Value.OffersChoices (f : Value) (names : ChoiceNames) (items : List Value) : Prop where
  itemTitle : f.get? "itemTitle" = some (.str names.title)
  itemValue : f.get? "itemValue" = some (.str names.value)
  choices : f.get? "items" = some (.arr (items.map names.choice))

namespace Value.OffersChoices

/-- Inlining leaves the choices as they are. -/
lemma inlineFunctions (h : f.OffersChoices names items) (source : FunctionSource) :
    (f.inlineFunctions source).OffersChoices names items := by
  refine ⟨?_, ?_, ?_⟩
  · rw [get?_inlineFunctions (by decide), h.itemTitle]
    rfl
  · rw [get?_inlineFunctions (by decide), h.itemValue]
    rfl
  · rw [get?_inlineFunctions (by decide), h.choices, Option.map_some, Value.inlineFunctions,
      inlineElems_eq_map, List.map_map]
    refine congrArg (fun vs => some (arr vs)) (List.map_congr_left fun item _ => ?_)
    exact names.inlineFunctions_choice item

/-- A filter with a list of choices is no localized text; its entries are localized one by one. -/
lemma get?_localizeWith (h : f.OffersChoices names items) (lang : String) (known : List String)
    {name : String} (hname : isTextName name = false) :
    (f.localizeWith lang known).get? name = (f.get? name).map (Value.localizeWith lang known) := by
  obtain ⟨fs, hfs, hitems⟩ := Option.bind_eq_some_iff.mp h.choices
  obtain rfl := fields?_eq_some_iff.mp hfs
  have htext : (obj fs).isTextFor known = false := by
    rw [isTextFor, isPerLanguage_of_get? hitems rfl, Bool.false_and]
  rw [Value.localizeWith, htext, if_neg Bool.false_ne_true]
  exact get?_localizeFields hname fs

/--
What a filter shows of its choices once it is localized: each as it was built, or, if their names
pass for languages, the text that it is taken for.
-/
structure Shown (lang : String) (known : List String) (names : ChoiceNames) (items : List Value)
    (g : Value) : Prop where
  itemTitle : g.get? "itemTitle" = some (.str names.title)
  itemValue : g.get? "itemValue" = some (.str names.value)
  choices : g.get? "items" = some (.arr (items.map fun item =>
    if names.passForLanguages known then .str ((names.choice item).resolve lang)
    else names.choice item))
  intact_iff : g.get? "items" = some (.arr (items.map names.choice)) ↔
    items = [] ∨ names.passForLanguages known = false
  /-- Every choice that was built says what its title and what its value is. -/
  complete : ∀ item ∈ items, ∃ s t, (names.choice item).get? names.title = some (.str s) ∧
    (names.choice item).get? names.value = some (.str t)

lemma localizeWith (h : f.OffersChoices names items) (lang : String) (known : List String) :
    Shown lang known names items (f.localizeWith lang known) := by
  have hchoices : (f.localizeWith lang known).get? "items" = some (.arr (items.map fun item =>
      if names.passForLanguages known then .str ((names.choice item).resolve lang)
      else names.choice item)) := by
    rw [h.get?_localizeWith lang known rfl, h.choices, Option.map_some, Value.localizeWith,
      localizeElems_eq_map, List.map_map]
    refine congrArg (fun vs => some (arr vs)) (List.map_congr_left fun item _ => ?_)
    exact names.localizeWith_choice lang known item
  refine ⟨?_, ?_, hchoices, ?_, fun item _ => names.exists_get?_choice item⟩
  · rw [h.get?_localizeWith lang known rfl, h.itemTitle]
    rfl
  · rw [h.get?_localizeWith lang known rfl, h.itemValue]
    rfl
  · rw [hchoices]
    cases hpass : names.passForLanguages known with
    | false => simp
    | true =>
      -- a text is no choice, so the lists agree only if both are empty
      cases items with
      | nil => simp
      | cons item items =>
        obtain ⟨fs, hchoice, -⟩ := names.exists_texts_of_choice item
        simp [hchoice]

end Value.OffersChoices

/-! ### Columns with choices -/

/-- Does a column's configuration ask for a select filter that carries its choices itself? -/
def ListsChoices (config : Entries Value) : Prop :=
  Text.lower ((((Value.obj config).filled? "type").map Value.text).getD "search") = "select" ∧
    Text.lower ((((Value.obj config).filled? "mode").map Value.text).getD "self") = "self"

namespace Context

variable {ctx : Context} {token : String} {column : Column} {config : Entries Value}

/-- A filter for which nothing is configured offers no choices. -/
lemma filter?_cases (h : ctx.filter? token column = some f) :
    (∃ config filter, column.filterable = some (.config config) ∧
      ctx.configuredFilter? token column config = some filter ∧ f = .obj filter) ∨
      (∀ config, column.filterable ≠ some (.config config)) ∧ f.get? "items" = none := by
  unfold filter? at h
  split_ifs at h
  split at h
  · cases h
  · next config hconfig =>
    obtain ⟨filter, hfilter, rfl⟩ := Option.map_eq_some_iff.mp h
    exact .inl ⟨config, filter, hconfig, hfilter, rfl⟩
  · next hnoConfig =>
    cases h
    exact .inr ⟨hnoConfig, rfl⟩

/-- Are choices what a select filter is completed by? -/
lemma selectFilter?_cases {valueKey key : String} {filter out : Entries Value}
    (h : ctx.selectFilter? config valueKey key filter = some out)
    (hnone : filter.get? "items" = none) :
    (Text.lower ((((Value.obj config).filled? "mode").map Value.text).getD "self") = "self" ∧
      (Value.obj out).OffersChoices (.ofConfig config valueKey ctx.lang)
        ((((Value.obj config).get? "items").bind Value.elems?).getD [])) ∨
      Text.lower ((((Value.obj config).filled? "mode").map Value.text).getD "self") ≠ "self" ∧
        (Value.obj out).get? "items" = none := by
  rw [selectFilter?] at h
  simp only [beq_iff_eq] at h
  split at h
  · next hself =>
    cases h
    refine .inl ⟨hself, ?_, ?_, ?_⟩ <;>
      simp [Value.get?, Value.fields?, Entries.get?_put]
  · next hself =>
    refine .inr ⟨hself, ?_⟩
    split at h
    · split_ifs at h
      cases h
      simp [Value.get?, Value.fields?, Entries.get?_put, hnone]
    · cases h

/-- A configured filter offers the choices that its configuration lists, or none. -/
lemma offersChoices_of_configuredFilter? {filter : Entries Value}
    (h : ctx.configuredFilter? token column config = some filter) :
    (ListsChoices config ∧ (Value.obj filter).OffersChoices
      (.ofConfig config (column.valueKey token) ctx.lang)
      ((((Value.obj config).get? "items").bind Value.elems?).getD [])) ∨
      ¬ ListsChoices config ∧ (Value.obj filter).get? "items" = none := by
  rw [configuredFilter?] at h
  simp only [beq_iff_eq] at h
  -- before it is completed, a filter says nothing of choices
  have hplain (type key label : Value) : Entries.get?
      ([("type", type), ("key", key), ("label", label)]
        ++ (((Value.obj config).given? "multiple").map fun v =>
          ("multiple", Value.bool v.truthy)).toList) "items" = none := by
    cases (Value.obj config).given? "multiple" <;> rfl
  split at h
  · next hselect =>
    rcases selectFilter?_cases h (hplain ..) with ⟨hself, hoffers⟩ | ⟨hself, hnone⟩
    · exact .inl ⟨⟨hselect, hself⟩, hoffers⟩
    · exact .inr ⟨fun hlists => hself hlists.2, hnone⟩
  · next hselect =>
    cases h
    refine .inr ⟨fun hlists => hselect hlists.1, ?_⟩
    change Entries.get? _ "items" = none
    exact hplain ..

/-- A select filter that lists its choices offers just these. -/
lemma offersChoices_of_filter? (h : ctx.filter? token column = some f)
    (hconfig : column.filterable = some (.config config)) (hlists : ListsChoices config) :
    f.OffersChoices (.ofConfig config (column.valueKey token) ctx.lang)
      ((((Value.obj config).get? "items").bind Value.elems?).getD []) := by
  rcases filter?_cases h with ⟨config', filter, hconfig', hfilter, rfl⟩ | ⟨hnoConfig, -⟩
  · cases hconfig.symm.trans hconfig'
    rcases offersChoices_of_configuredFilter? hfilter with ⟨-, hoffers⟩ | ⟨hnone, -⟩
    · exact hoffers
    · exact absurd hlists hnone
  · exact absurd hconfig (hnoConfig config)

/-- A filter offers choices exactly if its column's configuration lists them. -/
lemma exists_offersChoices_iff (h : ctx.filter? token column = some f) :
    (∃ names items, f.OffersChoices names items) ↔
      ∃ config, column.filterable = some (.config config) ∧ ListsChoices config := by
  constructor
  · rintro ⟨names, items, hoffers⟩
    rcases filter?_cases h with ⟨config, filter, hconfig, hfilter, rfl⟩ | ⟨-, hnone⟩
    · rcases offersChoices_of_configuredFilter? hfilter with ⟨hlists, -⟩ | ⟨-, hnone⟩
      · exact ⟨config, hconfig, hlists⟩
      · cases hnone.symm.trans hoffers.choices
    · cases hnone.symm.trans hoffers.choices
  · rintro ⟨config, hconfig, hlists⟩
    exact ⟨_, _, offersChoices_of_filter? h hconfig hlists⟩

end Context

end ViewAssembly
