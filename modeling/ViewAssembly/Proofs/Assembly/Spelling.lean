import Mathlib.Data.List.Basic
import ViewAssembly.Proofs.Assembly.TopLevel
import ViewAssembly.Proofs.Language.Spelling
import ViewAssembly.Proofs.Override.Names
import ViewAssembly.Proofs.Section.Names

/-!
# Requests in two spellings of a language

Which columns are shown, and whether a block supports a language, does not depend on the letter case
of the language's code. Texts are looked up by the code as it is spelled. So two spellings of a
language are answered alike where no text is stored under either of them in capitals
(`Engine.assemble_spelling`), and not always where one is.
-/

namespace ViewAssembly

open ViewAssembly.Language Value

variable {l₁ l₂ : String}

/-- Nothing is built under a name that is a language code in capitals. -/
lemma neutral_of_mem_builtNames (h₁ : isCode l₁ = true) (h₂ : isCode l₂ = true) :
    ∀ n ∈ builtNames, Neutral l₁ l₂ n := by
  have hall : ∀ n ∈ builtNames, isCode n = false ∨ Text.lower n = n := by decide
  exact fun n hn => neutral_of_isCode h₁ h₂ (hall n hn)

/-! ### Headers -/

lemma Column.header_congr (hletters : Text.lower l₁ = Text.lower l₂) (column : Column)
    (token : String) : column.header token l₁ = column.header token l₂ := by
  simp only [header, hint?_congr hletters]

lemma Header.settle_congr (hletters : Text.lower l₁ = Text.lower l₂) (custom : Entries Value)
    (h : Header) : h.settle l₁ custom = h.settle l₂ custom := by
  simp only [settle, settleLanguage, hint?_congr hletters]

lemma Header.resolveTexts_congr (hletters : Text.lower l₁ = Text.lower l₂) {h : Header}
    (hh : (obj h).AllNames (Neutral l₁ l₂)) : h.resolveTexts l₁ = h.resolveTexts l₂ := by
  have htitle := resolve_congr hletters (hh.getD_get? allNames_null "title")
  have hne : "title" ≠ "label" := by decide
  simp only [resolveTexts, htitle, Entries.get?_put_of_ne _ _ hne]
  cases hlabel : h.get? "label" with
  | none => rfl
  | some label => simp only [resolve_congr hletters (hh.of_get? hlabel)]

namespace HeaderSource

def speaking (s : HeaderSource) (lang : String) : HeaderSource := { s with lang }

lemma header?_congr (hletters : Text.lower l₁ = Text.lower l₂) (s : HeaderSource)
    (token : String) : (s.speaking l₁).header? token = (s.speaking l₂).header? token := by
  simp only [header?, schemaHeader, broughtHeader, speaking, Column.admits,
    admits_congr hletters, Column.header_congr hletters, Header.settle_congr hletters]
  rfl

lemma headers_congr (hletters : Text.lower l₁ = Text.lower l₂) {s : HeaderSource}
    (hs : (s.speaking l₁).AllNames (Neutral l₁ l₂)) (tokens : List String) :
    (s.speaking l₁).headers tokens = (s.speaking l₂).headers tokens := by
  have hbrought : (s.speaking l₁).addBrought tokens = (s.speaking l₂).addBrought tokens := rfl
  have hheader : (s.speaking l₁).header? = (s.speaking l₂).header? :=
    funext (header?_congr hletters s)
  rw [headers, headers, ← hbrought, ← hheader]
  -- the headers are the same, and titles and labels are all that the language chooses in them
  refine bind_congr_of_ok fun all _ => bind_congr_of_ok fun found hfound => ?_
  have hall := allNames_of_mapM_header? hs hfound
  refine congrArg Except.ok (List.map_congr_left fun h hmem => ?_)
  exact Header.resolveTexts_congr hletters (hall h hmem)

end HeaderSource

/-! ### The parts that are built -/

lemma ChoiceNames.ofConfig_congr (hletters : Text.lower l₁ = Text.lower l₂)
    {config : Entries Value} (h : (obj config).AllNames (Neutral l₁ l₂)) (valueKey : String) :
    ofConfig config valueKey l₁ = ofConfig config valueKey l₂ := by
  have htitle : (((obj config).filled? "itemTitle").getD (.str valueKey)).AllNames
      (Neutral l₁ l₂) := by
    cases hfilled : (obj config).filled? "itemTitle" with
    | none => exact allNames_str valueKey
    | some v => exact h.of_filled? hfilled
  rw [ofConfig, ofConfig, resolve_congr hletters htitle]

namespace Context

def speaking (ctx : Context) (lang : String) : Context := { ctx with lang }

variable {ctx : Context}

lemma headers_congr (hletters : Text.lower l₁ = Text.lower l₂)
    (hctx : (ctx.speaking l₁).AllNames (Neutral l₁ l₂)) :
    (ctx.speaking l₁).headers = (ctx.speaking l₂).headers := by
  refine bind_congr_of_ok fun customizations hcustomizations => ?_
  exact HeaderSource.headers_congr
    (s := ⟨ctx.snapshot, ctx.lang, customizations, ctx.includeHidden⟩) hletters
    (allNames_headerSource hctx hcustomizations) _

lemma fields_congr (hletters : Text.lower l₁ = Text.lower l₂) (ctx : Context) :
    (ctx.speaking l₁).fields = (ctx.speaking l₂).fields := by
  have htokens : (ctx.speaking l₁).fieldTokens = (ctx.speaking l₂).fieldTokens := rfl
  have hfield : (ctx.speaking l₁).field? = (ctx.speaking l₂).field? := by
    funext token
    simp only [field?, speaking, Column.admits, admits_congr hletters]
    cases ctx.snapshot.get? token <;> rfl
  rw [fields, fields, htokens, hfield]

lemma datalink_congr (hletters : Text.lower l₁ = Text.lower l₂) (ctx : Context) :
    (ctx.speaking l₁).datalink = (ctx.speaking l₂).datalink := by
  have htokens : (ctx.speaking l₁).linkedTokens = (ctx.speaking l₂).linkedTokens := by
    simp only [linkedTokens, speaking, Column.admits, admits_congr hletters]
    rfl
  rw [datalink, datalink, htokens]
  rfl

lemma configuredFilter?_congr (hletters : Text.lower l₁ = Text.lower l₂)
    {config : Entries Value} (hconfig : (obj config).AllNames (Neutral l₁ l₂)) (token : String)
    (column : Column) :
    (ctx.speaking l₁).configuredFilter? token column config
      = (ctx.speaking l₂).configuredFilter? token column config := by
  simp only [configuredFilter?, selectFilter?, speaking,
    ChoiceNames.ofConfig_congr hletters hconfig]
  rfl

lemma filter?_congr (hletters : Text.lower l₁ = Text.lower l₂) {column : Column} {token : String}
    (hcolumn : column.AllNames (Neutral l₁ l₂) token l₁) :
    (ctx.speaking l₁).filter? token column = (ctx.speaking l₂).filter? token column := by
  have hadmits : column.admits (ctx.speaking l₁).lang = column.admits (ctx.speaking l₂).lang :=
    admits_congr hletters column.lang
  have hallows : (ctx.speaking l₁).allowsFilter token = (ctx.speaking l₂).allowsFilter token := rfl
  rw [filter?, filter?, hallows, hadmits]
  cases hfilterable : column.filterable with
  | none => simp only
  | some f =>
    cases f with
    | flag b => cases b <;> simp only
    | config config =>
      simp only [configuredFilter?_congr hletters (hcolumn.filterable _ hfilterable)]

lemma filters_congr (hletters : Text.lower l₁ = Text.lower l₂)
    (hctx : (ctx.speaking l₁).AllNames (Neutral l₁ l₂)) :
    (ctx.speaking l₁).filters = (ctx.speaking l₂).filters :=
  List.filterMap_congr fun e he => filter?_congr hletters (hctx.columns e he)

end Context

lemma Builder.build_congr (hletters : Text.lower l₁ = Text.lower l₂) {ctx : Context}
    (hctx : (ctx.speaking l₁).AllNames (Neutral l₁ l₂)) (kind name : String) (b : Builder) :
    b.build (ctx.speaking l₁) kind name = b.build (ctx.speaking l₂) kind name := by
  cases b with
  | headers => rw [build, build, Context.headers_congr hletters hctx]
  | fields => rw [build, build, Context.fields_congr hletters]
  | filters => rw [build, build, Context.filters_congr hletters hctx]
  | pagination => rfl
  | datalink => rw [build, build, Context.datalink_congr hletters]
  | buttons => rfl

/-! ### Sections -/

namespace Engine

variable {a : Engine} {block : ViewBlock} {schema : Snapshot} {r : ViewRequest}

lemma allNames_of_orderHeaders {p : String → Prop} {fs out : Entries Value}
    (hfs : (obj fs).AllNames p) (h : orderHeaders fs = .ok out) : (obj out).AllNames p := by
  rw [orderHeaders] at h
  split at h
  · next hs hget =>
    split at h
    · obtain ⟨arranged, harranged, h⟩ := bind_eq_ok_iff.mp h
      cases h
      have hheaders := allNames_arr_iff.mp (hfs.of_get? hget)
      have hname : p "headers" := hfs.of_mem_keys (Entries.isSome_get?_iff.mp (by rw [hget]; rfl))
      refine hfs.put hname ?_
      rw [Header.arrangeElems] at harranged
      split at harranged <;> cases harranged
      next es hes =>
        rw [eq_map_obj_of_mapM hes, List.forall_mem_map] at hheaders
        exact allNames_map_obj_iff.mpr (Header.allNames_arrange hheaders)
    · cases h
      exact hfs
  · cases h
    exact hfs

/-- The section of a component before its functions are inlined and its texts are resolved. -/
lemma allNames_of_merged {p : String → Prop} {ctx : Context} {t : Template}
    {override fs : Entries Value} (hctx : ctx.AllNames p) (ht : (obj t.directives).AllNames p)
    (hoverride : (obj override).AllNames p) (h : a.merged ctx t override = .ok fs) :
    (obj fs).AllNames p := by
  obtain ⟨draft, hdraft, h⟩ := bind_eq_ok_iff.mp h
  refine allNames_of_orderHeaders ?_ h
  apply Override.allNames_apply
  · exact allNames_of_resolveDirectives hctx ht draft hdraft
  · exact hoverride.restrict _

lemma component_congr (hletters : Text.lower l₁ = Text.lower l₂) {ctx : Context} {t : Template}
    {override : Entries Value} (hctx : (ctx.speaking l₁).AllNames (Neutral l₁ l₂))
    (ht : (obj t.directives).AllNames (Neutral l₁ l₂))
    (hoverride : (obj override).AllNames (Neutral l₁ l₂)) (languages : List String) :
    a.component (ctx.speaking l₁) languages t override
      = a.component (ctx.speaking l₂) languages t override := by
  have hresolve : t.resolve a.builders (ctx.speaking l₁) = t.resolve a.builders (ctx.speaking l₂) :=
    resolveDirectives_congr (Builder.build_congr hletters hctx t.kind.name) t.directives
  have hmerged : a.merged (ctx.speaking l₁) t override = a.merged (ctx.speaking l₂) t override := by
    rw [merged, merged, hresolve]
  rw [component_eq, component_eq, ← hmerged]
  refine bind_congr_of_ok fun fs hfs => bind_congr_of_ok fun v hv => ?_
  -- both sections hold the same texts, so only the choice among them is left to compare
  obtain rfl := eq_inlineFunctions_of_inline hv
  have hall := allNames_of_merged hctx ht hoverride hfs
  exact congrArg Except.ok (localize_congr hletters (hall.inlineFunctions a.functions) languages)

/-! ### Answers -/

end Engine

namespace ViewRequest

def speaking (r : ViewRequest) (lang : String) : ViewRequest := { r with lang := some lang }

lemma chosenLang_speaking {r : ViewRequest} {settings : Settings} {lang : String}
    (hlang : lang ≠ "") : (r.speaking lang).chosenLang settings = lang := by
  simp [chosenLang, speaking, Option.filter, hlang]

end ViewRequest

namespace Engine

variable {a : Engine} {block : ViewBlock} {schema : Snapshot} {r : ViewRequest}

/--
Does every name that can come into an answer have a property: the names in the templates, in the
block's overrides and customizations, and in the columns that it is assembled from?
-/
structure AllNames (p : String → Prop) (a : Engine) (block : ViewBlock) (schema : Snapshot)
    (r : ViewRequest) (lang : String) : Prop where
  templates : ∀ e ∈ a.templates, (obj e.2.directives).AllNames p
  overrides : ∀ e ∈ block.components, e.2.AllNames p
  customizations : ∀ e ∈ block.columnCustomizations, (obj e.2).AllNames p
  columns : ∀ snapshot, snapshotFor block schema r.blockName = .ok snapshot →
    ∀ e ∈ snapshot, e.2.AllNames p e.1 lang

variable {p : String → Prop} {lang key : String} {snapshot : Snapshot}

lemma allNames_override (h : ∀ e ∈ block.components, e.2.AllNames p) (key : String) :
    (obj (block.override key)).AllNames p := by
  rw [ViewBlock.override]
  cases hget : block.components.get? key with
  | none => exact allNames_obj_nil
  | some v =>
    cases v with
    | obj fs => exact h _ (Entries.mem_of_get? hget)
    | _ => exact allNames_obj_nil

lemma allNames_of_require {keys : List String} {ts : Entries Template}
    (h : ∀ e ∈ a.templates, (obj e.2.directives).AllNames p)
    (hts : a.templates.require keys = .ok ts) : ∀ e ∈ ts, (obj e.2.directives).AllNames p := by
  intro e he
  rw [TemplateLibrary.require] at hts
  split at hts
  · next hmissing =>
    cases hts
    have hfind := ((TemplateLibrary.mem_ofPairs_pairs_iff hmissing).mp he).2
    obtain ⟨kind, -, hget⟩ := Option.bind_eq_some_iff.mp hfind
    exact h (kind.name, e.2) (Entries.mem_of_get? hget)
  · cases hts

/-- A component's context has the names of what the block and the component say. -/
lemma AllNames.componentContext (h : a.AllNames p block schema r lang)
    (hbuilt : ∀ n ∈ builtNames, p n) (hs : snapshotFor block schema r.blockName = .ok snapshot)
    {override : Entries Value} (ho : (obj override).AllNames p) :
    ((Engine.componentContext (a.context block snapshot r) r override).speaking lang).AllNames
      p := by
  refine ⟨hbuilt, h.columns snapshot hs, ?_⟩
  rintro token v (hv | hv)
  · have hget : (block.columnCustomizations.mapValues fun _ fs => Value.obj fs).get? token
        = some v := hv
    rw [Entries.get?_mapValues] at hget
    obtain ⟨fs, hfs, rfl⟩ := Option.map_eq_some_iff.mp hget
    exact h.customizations _ (Entries.mem_of_get? hfs)
  · have hcustomizations := ho.getD_get? allNames_null "columnCustomizations"
    change ((override.get? "columnCustomizations").getD .null).get? token = some v at hv
    revert hcustomizations hv
    cases (override.get? "columnCustomizations").getD .null with
    | obj fs => exact fun hfs hv => hfs.of_get? hv
    | _ => exact nofun

lemma AllNames.context (h : a.AllNames p block schema r lang) (hbuilt : ∀ n ∈ builtNames, p n)
    (hs : snapshotFor block schema r.blockName = .ok snapshot) :
    ((a.context block snapshot r).speaking lang).AllNames p := by
  have hnil := h.componentContext hbuilt hs allNames_obj_nil
  rwa [componentContext_nil] at hnil

lemma sections_congr (hletters : Text.lower l₁ = Text.lower l₂)
    (h : a.AllNames (Neutral l₁ l₂) block schema r l₁)
    (hbuilt : ∀ n ∈ builtNames, Neutral l₁ l₂ n)
    (hs : snapshotFor block schema r.blockName = .ok snapshot) {ts : List (String × Template)}
    (hts : ∀ e ∈ ts, (obj e.2.directives).AllNames (Neutral l₁ l₂)) :
    a.sections block ((a.context block snapshot r).speaking l₁) (r.speaking l₁) ts
      = a.sections block ((a.context block snapshot r).speaking l₂) (r.speaking l₂) ts := by
  induction ts with
  | nil => rfl
  | cons e ts ih =>
    obtain ⟨ht, hts⟩ := List.forall_mem_cons.mp hts
    have hoverride := allNames_override h.overrides e.1
    have hcomponent := component_congr (a := a) hletters
      (h.componentContext hbuilt hs hoverride) ht hoverride block.lang
    rw [sections_cons, sections_cons, ih hts]
    exact congrArg (· >>= _) hcomponent

lemma payload_congr (hletters : Text.lower l₁ = Text.lower l₂)
    (h : a.AllNames (Neutral l₁ l₂) block schema r l₁)
    (hbuilt : ∀ n ∈ builtNames, Neutral l₁ l₂ n)
    (hs : snapshotFor block schema r.blockName = .ok snapshot) {ts : Entries Template}
    (hts : ∀ e ∈ ts, (obj e.2.directives).AllNames (Neutral l₁ l₂)) :
    a.payload block ((a.context block snapshot r).speaking l₁) (r.speaking l₁) ts
      = a.payload block ((a.context block snapshot r).speaking l₂) (r.speaking l₂) ts := by
  have hctx := h.context hbuilt hs
  have hfilters := localize_congr hletters (Context.allNames_filters hctx) block.lang
  rw [payload, payload, sections_congr hletters h hbuilt hs hts,
    Context.headers_congr hletters hctx, ← Context.filters_congr hletters hctx]
  simp only [Context.speaking] at hfilters ⊢
  rw [hfilters]
  rfl

/-- What a request in a language is assembled from. -/
lemma context_speaking (hlang : lang ≠ "") :
    a.context block snapshot (r.speaking lang)
      = (a.context block snapshot r).speaking lang := by
  rw [context, ViewRequest.chosenLang_speaking hlang]
  rfl

/--
Two spellings of a language that the block supports are answered alike where every name that can
come into the answer is neutral: unless it is in small letters, it is neither of them.
-/
theorem assemble_spelling (hcode₁ : isCode l₁ = true) (hcode₂ : isCode l₂ = true)
    (hletters : Text.sameLetters l₁ l₂ = true) (hsupports : block.supports l₁ = true)
    (hnames : a.AllNames (Neutral l₁ l₂) block schema r l₁) :
    a.assemble block schema (r.speaking l₁) = a.assemble block schema (r.speaking l₂) := by
  have hlower : Text.lower l₁ = Text.lower l₂ := Override.sameLetters_iff.mp hletters
  have hbuilt : ∀ n ∈ builtNames, Neutral l₁ l₂ n := neutral_of_mem_builtNames hcode₁ hcode₂
  have hne₁ : l₁ ≠ "" := by rintro rfl; exact absurd hcode₁ (by decide)
  have hne₂ : l₂ ≠ "" := by rintro rfl; exact absurd hcode₂ (by decide)
  have hsupported : block.supports l₂ = true := by
    rw [ViewBlock.supports] at hsupports ⊢
    rw [← isDeclared_congr hlower]
    simpa [hne₁, hne₂] using hsupports
  rw [assemble, assemble]
  refine bind_congr_of_ok fun snapshot hs => bind_congr_of_ok fun ts hts => ?_
  have hpayload := payload_congr hlower hnames hbuilt hs
    (allNames_of_require hnames.templates hts)
  simp only [ViewRequest.chosenLang_speaking hne₁, ViewRequest.chosenLang_speaking hne₂,
    hsupports, hsupported, context_speaking hne₁, context_speaking hne₂, hpayload]
  rfl

/-! ### A label for which one code is given -/

/-- A block with a component whose label is stored under two codes, one of them given. -/
def labelledBlock (code : String) : ViewBlock where
  components := [("meta", .obj [("label", .obj [(code, .str "Name"), ("dv", .str "ނަން")])])]
  lang := ["en"]

/-- The answer to a request for this block, with what the label says. -/
def labelledAnswer (label : String) : Answer :=
  .payload { sections := [("meta", .obj [("density", .str "compact"), ("label", .str label)])] }

lemma allNames_labelledBlock {code : String} (h : ∀ n ∈ ["density", "label", code, "dv"], p n) :
    denseEngine.AllNames p (labelledBlock code) [] {} lang := by
  simp only [List.forall_mem_cons] at h
  refine ⟨?_, ?_, nofun, ?_⟩
  · simp [denseEngine, allNames_obj_cons_iff, h]
  · simp [labelledBlock, allNames_obj_cons_iff, h]
  · intro snapshot hs
    have hnone : snapshotFor (labelledBlock code) [] "" = .ok [] := rfl
    obtain rfl := Except.ok.inj (hnone.symm.trans hs)
    simp

set_option maxRecDepth 2000 in
/-- A text that is stored in small letters is found in both spellings. -/
theorem assemble_spelling_small :
    denseEngine.assemble (labelledBlock "en") [] (ViewRequest.speaking {} "EN")
        = .ok (labelledAnswer "Name") ∧
      denseEngine.assemble (labelledBlock "en") [] (ViewRequest.speaking {} "en")
        = .ok (labelledAnswer "Name") := by
  have hsmall : denseEngine.assemble (labelledBlock "en") [] (ViewRequest.speaking {} "en")
      = .ok (labelledAnswer "Name") := by with_unfolding_all rfl
  have hneutral : ∀ n ∈ ["density", "label", "en", "dv"], Neutral "EN" "en" n := by
    intro n hn _
    revert n
    decide
  refine ⟨?_, hsmall⟩
  rw [assemble_spelling (by decide) (by decide) (by decide) (by decide)
    (allNames_labelledBlock hneutral), hsmall]

set_option maxRecDepth 2000 in
/-- A text that is stored in capitals is found in one spelling only. -/
theorem spelling_matters :
    isCode "EN" = true ∧ isCode "en" = true ∧ Text.sameLetters "EN" "en" = true ∧
      (labelledBlock "EN").supports "EN" = true ∧ (labelledBlock "EN").supports "en" = true ∧
      denseEngine.assemble (labelledBlock "EN") [] (ViewRequest.speaking {} "EN")
        = .ok (labelledAnswer "Name") ∧
      denseEngine.assemble (labelledBlock "EN") [] (ViewRequest.speaking {} "en")
        = .ok (labelledAnswer "ނަން") ∧
      labelledAnswer "Name" ≠ labelledAnswer "ނަން" := by
  refine ⟨by decide, by decide, by decide, by decide, by decide, ?_, ?_, ?_⟩
  · with_unfolding_all rfl
  · with_unfolding_all rfl
  · simp [labelledAnswer]

end Engine

end ViewAssembly
