import ViewAssembly.Proofs.Header.Names
import ViewAssembly.Proofs.Header.Shape
import ViewAssembly.Template.Resolve

/-!
# What holds of all names in a draft

All names in the parts that are built for a component are names that parts are built with, or come
from columns and customizations; the choices of a filter are shown under names that the filter gives
itself. Those of a draft come from its template besides.
-/

namespace ViewAssembly

open Value

variable {p : String → Prop} {token lang : String} {column : Column}

/-! ### Fields -/

namespace Column.AllNames

lemma passedToField (hbuilt : ∀ n ∈ builtNames, p n) (h : column.AllNames p token lang) :
    (obj column.passedToField).AllNames p := by
  simp only [builtNames, List.forall_mem_cons] at hbuilt
  refine allNames_obj_iff.mpr fun e he => ?_
  obtain ⟨⟨name, v⟩, hmem, hv⟩ := List.mem_filterMap.mp he
  obtain ⟨w, rfl, rfl⟩ := Option.map_eq_some_iff.mp hv
  simp only [List.mem_cons, Prod.mk.injEq, List.not_mem_nil, or_false] at hmem
  rcases hmem with ⟨rfl, hw⟩ | ⟨rfl, hw⟩ | ⟨rfl, hw⟩ | ⟨rfl, hw⟩ <;>
    obtain ⟨x, hx, rfl⟩ := Option.map_eq_some_iff.mp hw.symm
  · exact ⟨by simp [hbuilt], h.select x hx⟩
  · exact ⟨by simp [hbuilt], h.filterable x hx⟩
  · exact ⟨by simp [hbuilt], h.chip x hx⟩
  · exact ⟨by simp [hbuilt], allNames_str _⟩

lemma field (hbuilt : ∀ n ∈ builtNames, p n) (h : column.AllNames p token lang) :
    (obj (column.field token)).AllNames p := by
  have hpassed := h.passedToField hbuilt
  -- extras are taken up one by one, each where its name is still free
  have hextras (es fs : Entries Value) (hes : (obj es).AllNames p) (hfs : (obj fs).AllNames p) :
      (obj (fs.foldl (fun es e => Entries.putNew es e.1 e.2) es)).AllNames p := by
    induction fs generalizing es with
    | nil => exact hes
    | cons e fs ih =>
      obtain ⟨hname, hv, hfs⟩ := allNames_obj_cons_iff.mp hfs
      exact ih _ (hes.putNew hname hv) hfs
  simp only [builtNames, List.forall_mem_cons] at hbuilt
  apply hextras _ _ _ h.extras
  refine .append (.append (.append ?_ ?_) ?_) hpassed
  · simp [allNames_obj_cons_iff, hbuilt, h.labelOr]
  · cases column.inputType with
    | none => exact allNames_obj_nil
    | some t => simp [allNames_obj_cons_iff, hbuilt]
  · split
    · simp [allNames_obj_cons_iff, hbuilt]
    · exact allNames_obj_nil

end Column.AllNames

/-! ### Filters -/

lemma ChoiceNames.allNames_choice {names : ChoiceNames} (htitle : p names.title)
    (hvalue : p names.value) (item : Value) : (names.choice item).AllNames p := by
  cases item <;>
  · apply AllNames.put _ hvalue (allNames_str _)
    exact allNames_obj_cons_iff.mpr ⟨htitle, allNames_str _, allNames_obj_nil⟩

namespace Context

variable {ctx : Context} {config filter : Entries Value}

/-- Does every name in what sections are built from have a property? -/
structure AllNames (p : String → Prop) (ctx : Context) : Prop where
  built : ∀ n ∈ builtNames, p n
  columns : ∀ e ∈ ctx.snapshot, e.2.AllNames p e.1 ctx.lang
  customizations : ∀ token v, ctx.blockCustomizations.get? token = some v ∨
    ctx.componentCustomizations.get? token = some v → v.AllNames p

lemma allNames_of_selectFilter? {valueKey key : String} {out : Entries Value}
    (hctx : ctx.AllNames p) (hfilter : (obj filter).AllNames p)
    (hnames : p (ChoiceNames.ofConfig config valueKey ctx.lang).title ∧
      p (ChoiceNames.ofConfig config valueKey ctx.lang).value)
    (hout : ctx.selectFilter? config valueKey key filter = some out) : (obj out).AllNames p := by
  have hbuilt := hctx.built
  simp only [builtNames, List.forall_mem_cons] at hbuilt
  have hnamed := (hfilter.put (n := "itemTitle") (by simp [hbuilt])
    (allNames_str (ChoiceNames.ofConfig config valueKey ctx.lang).title)).put
    (n := "itemValue") (by simp [hbuilt])
    (allNames_str (ChoiceNames.ofConfig config valueKey ctx.lang).value)
  rw [selectFilter?] at hout
  simp only at hout
  split at hout
  · cases hout
    refine hnamed.put (by simp [hbuilt]) ?_
    rw [allNames_arr_iff, List.forall_mem_map]
    exact fun item _ => ChoiceNames.allNames_choice hnames.1 hnames.2 item
  · split at hout
    · split at hout <;> cases hout
      exact hnamed.put (by simp [hbuilt]) (allNames_str _)
    · cases hout

lemma allNames_of_configuredFilter? {out : Entries Value} (hctx : ctx.AllNames p)
    (hcolumn : column.AllNames p token ctx.lang)
    (hconfig : column.filterable = some (.config config))
    (hout : ctx.configuredFilter? token column config = some out) : (obj out).AllNames p := by
  have hbuilt := hctx.built
  simp only [builtNames, List.forall_mem_cons] at hbuilt
  have hlabel : (((obj config).filled? "label").getD
      (column.labelOr (Token.title token))).AllNames p := by
    cases hfilled : (obj config).filled? "label" with
    | none => exact hcolumn.labelOr _
    | some v => exact AllNames.of_filled? (hcolumn.filterable _ hconfig) hfilled
  have hmultiple : (obj (((obj config).given? "multiple").map
      fun v => ("multiple", Value.bool v.truthy)).toList).AllNames p := by
    cases (obj config).given? "multiple" with
    | none => exact allNames_obj_nil
    | some v => simp [allNames_obj_cons_iff, hbuilt]
  rw [configuredFilter?] at hout
  split at hout
  · refine allNames_of_selectFilter? hctx (.append ?_ hmultiple) (hcolumn.choices config hconfig)
      hout
    simp [allNames_obj_cons_iff, hbuilt, hlabel]
  · cases hout
    refine .append ?_ hmultiple
    simp [allNames_obj_cons_iff, hbuilt, hlabel]

lemma allNames_of_filter? {v : Value} (hctx : ctx.AllNames p)
    (hcolumn : column.AllNames p token ctx.lang) (hv : ctx.filter? token column = some v) :
    v.AllNames p := by
  rw [filter?] at hv
  split at hv
  · cases hv
  · split at hv
    · cases hv
    · next config hconfig =>
      obtain ⟨out, hout, rfl⟩ := Option.map_eq_some_iff.mp hv
      exact allNames_of_configuredFilter? hctx hcolumn hconfig hout
    · cases hv
      have hbuilt := hctx.built
      simp only [builtNames, List.forall_mem_cons] at hbuilt
      simp [allNames_obj_cons_iff, hbuilt, hcolumn.labelOr]

lemma allNames_filters (hctx : ctx.AllNames p) : (arr ctx.filters).AllNames p := by
  refine allNames_arr_iff.mpr fun v hv => ?_
  obtain ⟨e, he, hv⟩ := List.mem_filterMap.mp hv
  exact allNames_of_filter? hctx (hctx.columns e he) hv

lemma allNames_fields (hctx : ctx.AllNames p) : (arr ctx.fields).AllNames p := by
  refine allNames_arr_iff.mpr fun v hv => ?_
  obtain ⟨token, -, hv⟩ := List.mem_filterMap.mp hv
  rw [field?] at hv
  split at hv
  · next column hcolumn =>
    split at hv <;> cases hv
    exact (hctx.columns _ (Entries.mem_of_get? hcolumn)).field hctx.built
  · cases hv

/-! ### Headers -/

lemma allNames_headerSource {customizations : Customizations} (hctx : ctx.AllNames p)
    (h : Customizations.ofValues ctx.blockCustomizations ctx.componentCustomizations
      = .ok customizations) :
    HeaderSource.AllNames p ⟨ctx.snapshot, ctx.lang, customizations, ctx.includeHidden⟩ := by
  refine ⟨hctx.built, hctx.columns, fun token v hv => hctx.customizations token v ?_⟩
  obtain ⟨hbs, hcs⟩ := Customizations.ofValues_eq_ok_iff.mp h
  rw [Customizations.get?_of_entriesOf hbs, Customizations.get?_of_entriesOf hcs]
  exact hv

lemma allNames_of_headers {hs : List Header} (hctx : ctx.AllNames p)
    (h : ctx.headers = .ok hs) : (arr (hs.map obj)).AllNames p := by
  obtain ⟨customizations, hcustomizations, h⟩ := bind_eq_ok_iff.mp h
  rw [allNames_map_obj_iff]
  exact HeaderSource.allNames_of_headers (allNames_headerSource hctx hcustomizations) h

end Context

/-! ### Drafts -/

lemma Button.allNames_defaults (hbuilt : ∀ n ∈ builtNames, p n) (kind name : String) :
    (arr ((Button.defaults kind name).map Button.toValue)).AllNames p := by
  simp only [builtNames, List.forall_mem_cons] at hbuilt
  rw [Button.defaults.eq_def]
  split <;> simp [allNames_arr_iff, allNames_obj_cons_iff, hbuilt, Button.toValue,
    Button.withIcon, Button.primary]

lemma Builder.allNames_of_build {ctx : Context} {kind name : String} {b : Builder} {v : Value}
    (hctx : ctx.AllNames p) (h : b.build ctx kind name = .ok v) : v.AllNames p := by
  cases b with
  | headers =>
    obtain ⟨hs, hhs, h⟩ := bind_eq_ok_iff.mp h
    cases h
    exact Context.allNames_of_headers hctx hhs
  | fields =>
    cases h
    exact Context.allNames_fields hctx
  | filters =>
    cases h
    exact Context.allNames_filters hctx
  | pagination =>
    cases h
    have hbuilt := hctx.built
    simp only [builtNames, List.forall_mem_cons] at hbuilt
    simp [Context.pagination, allNames_obj_cons_iff, hbuilt]
  | datalink =>
    cases h
    exact allNames_str _
  | buttons =>
    cases h
    exact Button.allNames_defaults hctx.built kind name

variable {builders : Entries Builder} {ctx : Context} {kind : String}

mutual

theorem allNames_of_resolveDirective {name : String} {v : Value} (hctx : ctx.AllNames p)
    (hv : v.AllNames p) : ∀ out, resolveDirective builders ctx kind name v = .ok out →
      ∀ w ∈ out, w.AllNames p := by
  match v with
  | .obj ds =>
    intro out h
    rw [resolveDirective] at h
    obtain ⟨fs, hfs, h⟩ := bind_eq_ok_iff.mp h
    cases h
    rintro w ⟨⟩
    exact allNames_of_resolveDirectives hctx hv fs hfs
  | .str s =>
    intro out h
    rw [resolveDirective] at h
    split at h
    · split at h
      · obtain ⟨built, hbuilt, h⟩ := bind_eq_ok_iff.mp h
        cases h
        rintro w ⟨⟩
        exact Builder.allNames_of_build hctx hbuilt
      · cases h
        rintro w ⟨⟩
        exact hv
    · split at h <;> cases h
      · exact nofun
      · rintro w ⟨⟩
        exact hv
  | .null | .bool _ | .int _ | .float _ | .arr _ | .shown _ =>
    intro out h
    cases h
    rintro w ⟨⟩
    exact hv

theorem allNames_of_resolveDirectives {ds : Entries Value} (hctx : ctx.AllNames p)
    (hds : (obj ds).AllNames p) : ∀ draft, resolveDirectives builders ctx kind ds = .ok draft →
      (obj draft).AllNames p := by
  match ds with
  | [] =>
    intro draft h
    cases h
    exact allNames_obj_nil
  | (name, v) :: ds =>
    intro draft h
    obtain ⟨hname, hv, hds⟩ := allNames_obj_cons_iff.mp hds
    rw [resolveDirectives] at h
    obtain ⟨entry, hentry, h⟩ := bind_eq_ok_iff.mp h
    obtain ⟨rest, hrest, h⟩ := bind_eq_ok_iff.mp h
    cases h
    refine .append ?_ (allNames_of_resolveDirectives hctx hds rest hrest)
    have hall := allNames_of_resolveDirective hctx hv entry hentry
    cases entry with
    | none => exact allNames_obj_nil
    | some w => exact allNames_obj_cons_iff.mpr ⟨hname, hall w rfl, allNames_obj_nil⟩

end

end ViewAssembly
