import ViewAssembly.Proofs.Assembly.Outcome
import ViewAssembly.Proofs.Header.Shape
import ViewAssembly.Proofs.Override.Apply
import ViewAssembly.Proofs.Override.Kind
import ViewAssembly.Proofs.Override.Select
import ViewAssembly.Proofs.Override.Upsert
import ViewAssembly.Proofs.Script.Inline
import ViewAssembly.Proofs.Template.Resolve
import ViewAssembly.Proofs.View.Block

/-!
# What malformed parts stop

With the shipped templates, two things can stop the assembly of a component: customizations that
headers cannot be built from, and a reference to a file with too long a name. Headers that an
override puts into a section can always be ordered.
-/

namespace ViewAssembly

/-! ### Lists of objects, and lists without any -/

/-- Are all elements of a list objects, or none of them? -/
def Uniform (vs : List Value) : Prop :=
  (∀ v ∈ vs, v.isObj = true) ∨ ∀ v ∈ vs, v.isObj = false

namespace Override

variable {es vs : List Value} {draft : Option Value}

lemma isObj_of_mem_upsertOne (hes : ∀ e ∈ es, e.isObj = true) (o : Entries Value) :
    ∀ e ∈ upsertOne es o, e.isObj = true := by
  intro e he
  obtain ⟨i, hi⟩ := List.mem_iff_getElem?.mp he
  rw [getElem?_upsertOne] at hi
  split at hi
  · -- an object merged into anything is an object
    obtain rfl := Option.some.inj hi
    cases es[i]? with
    | none => rfl
    | some b => cases b <;> rfl
  · exact hes e (List.mem_of_getElem? hi)

lemma isObj_of_mem_upsert (hes : ∀ e ∈ es, e.isObj = true) (os : List (Entries Value)) :
    ∀ e ∈ upsert es os, e.isObj = true := by
  induction os generalizing es with
  | nil => exact hes
  | cons o os ih => exact ih (isObj_of_mem_upsertOne hes o)

/-- Is there nothing, or a list of objects? -/
def ObjectsOrNothing (draft : Option Value) : Prop :=
  draft = none ∨ ∃ hs : List (Entries Value), draft = some (.arr (hs.map .obj))

lemma ObjectsOrNothing.isObj (h : ObjectsOrNothing draft) :
    ∀ e ∈ elemsOf draft, e.isObj = true := by
  rcases h with rfl | ⟨hs, rfl⟩
  · exact nofun
  · intro e he
    obtain ⟨h, -, rfl⟩ := List.mem_map.mp he
    rfl

lemma uniform_overrideList (h : ObjectsOrNothing draft) {out : List Value}
    (hout : overrideList draft vs = .arr out) : Uniform out := by
  have hobjects := h.isObj
  rcases kind_arr_cases vs with hkind | hkind | hkind | hkind
  · rw [overrideList_stringList hkind] at hout
    rcases h with rfl | ⟨hs, rfl⟩
    · -- the texts take the place of the list
      cases hout
      refine .inr fun v hv => ?_
      have hstr := isStr_of_kind_arr hkind v hv
      cases v <;> first | rfl | cases hstr
    · cases hout
      exact .inl fun e he => hobjects e (mem_of_mem_select he)
  · rw [overrideList_objects (.inl hkind)] at hout
    cases hout
    exact .inl (isObj_of_mem_upsert hobjects _)
  · rw [overrideList_objects (.inr hkind)] at hout
    cases hout
    exact .inl (isObj_of_mem_upsert hobjects _)
  · rw [overrideList_scalarList hkind] at hout
    cases hout
    exact .inr (not_isObj_of_kind_arr hkind)

/-- A list that an override leaves where objects were, or nothing, is uniform. -/
lemma uniform_overrideValue (h : ObjectsOrNothing draft) {v : Value} {out : List Value}
    (hout : overrideValue draft v = some (.arr out)) : Uniform out := by
  by_cases harr : ∃ vs, v = .arr vs
  · obtain ⟨vs, rfl⟩ := harr
    exact uniform_overrideList h (Option.some.inj hout)
  · by_cases hobj : ∃ o, v = .obj o
    · obtain ⟨o, rfl⟩ := hobj
      cases hout
    · rw [overrideValue_scalar (fun o ho => hobj ⟨o, ho⟩) fun vs hvs => harr ⟨vs, hvs⟩] at hout
      split at hout
      · cases hout
      · exact absurd ⟨out, Option.some.inj hout⟩ harr

end Override

/-- A list of objects can be ordered. -/
lemma Header.isOk_arrangeElems {vs : List Value} (h : ∀ v ∈ vs, v.isObj = true) :
    (arrangeElems vs).isOk = true := by
  obtain ⟨hs, -, hfields⟩ := Value.exists_map_obj h
  rw [arrangeElems, hfields]
  rfl

namespace Engine

variable {a : Engine} {block : ViewBlock} {ctx : Context} {override : Entries Value}

/-! ### Ordering headers -/

lemma isOk_orderHeaders {fs : Entries Value}
    (h : ∀ hs, fs.get? "headers" = some (.arr hs) → Uniform hs) :
    (orderHeaders fs).isOk = true := by
  rw [orderHeaders]
  split
  · next hs hget =>
    split
    · next hplaced =>
      have hobjects : ∀ v ∈ hs, v.isObj = true := by
        refine (h hs hget).resolve_right fun hnone => ?_
        obtain ⟨v, hv, horder⟩ := List.any_eq_true.mp hplaced
        rw [Value.get?_of_not_isObj (hnone v hv)] at horder
        cases horder
      obtain ⟨arranged, harranged⟩ := isOk_iff.mp (Header.isOk_arrangeElems hobjects)
      exact isOk_bind_iff.mpr ⟨arranged, harranged, rfl⟩
    · rfl
  · rfl

/-- The headers that an override leaves in a section can be ordered. -/
lemma isOk_orderHeaders_applyOverride {t : Template} {draft : Entries Value}
    (hdraft : Override.ObjectsOrNothing (draft.get? "headers")) (ho : override.keys.Nodup) :
    (orderHeaders (a.applyOverride t draft override)).isOk = true := by
  refine isOk_orderHeaders fun hs hget => ?_
  have hrestricted : (override.restrict fun name => !internalNames.contains name).keys.Nodup :=
    Entries.nodup_keys_restrict ho _
  have hdrafted : draft.get? "headers" = some (.arr hs) → Uniform hs := by
    intro h
    rcases hdraft with hnone | ⟨objects, hobjects⟩
    · rw [hnone] at h; cases h
    · rw [hobjects] at h
      cases h
      refine .inl fun v hv => ?_
      obtain ⟨h, -, rfl⟩ := List.mem_map.mp hv
      rfl
  rw [applyOverride, Override.get?_apply hrestricted] at hget
  split at hget
  · split at hget
    · exact Override.uniform_overrideValue hdraft hget
    · exact hdrafted hget
  · exact hdrafted hget

/-! ### A section before its functions are inlined -/

/-- The section of a component before its functions are inlined and its texts are resolved. -/
def merged (a : Engine) (ctx : Context) (t : Template) (override : Entries Value) :
    Except Malformed (Entries Value) := do
  let draft ← t.resolve a.builders ctx
  orderHeaders (a.applyOverride t draft override)

lemma component_eq (a : Engine) (ctx : Context) (languages : List String) (t : Template)
    (override : Entries Value) :
    a.component ctx languages t override = (do
      let fs ← a.merged ctx t override
      return (← (Value.obj fs).inline a.functions).localize ctx.lang languages) := by
  rw [merged, bind_assoc]
  rfl

/-- With the shipped templates, only a table's customizations can stop a section here. -/
lemma isOk_merged_iff {kind : ComponentKind} (hbuilders : a.builders = Builder.byName)
    (hblock : ctx.blockCustomizations.isObj = true) (ho : override.keys.Nodup) :
    (a.merged ctx (Shipped.templateOf kind) override).isOk = true ↔
      (kind = .table → ctx.Customizable) := by
  have hresolve : ((Shipped.templateOf kind).resolve a.builders ctx).isOk = true ↔
      (kind = .table → ctx.Customizable) := by
    rw [hbuilders, Template.resolve, isOk_resolveDirectives_iff, Shipped.asksForHeaders_templateOf,
      Context.isOk_headers_iff hblock]
  -- once there is a draft, the headers that the override leaves in it can be ordered
  rw [merged, isOk_bind_iff, ← hresolve, isOk_iff]
  refine exists_congr fun draft => and_iff_left_of_imp fun hdraft => ?_
  rw [hbuilders] at hdraft
  exact isOk_orderHeaders_applyOverride (Shipped.headers_of_resolve hdraft) ho

/-! ### References to scripts -/

/-- Is none of the scripts that a section refers to looked for under too long a name? -/
def Findable (a : Engine) (fs : Entries Value) : Prop :=
  ∀ ref ∈ (Value.obj fs).references, a.functions.refuses ref.1 ref.2 = false

lemma isOk_inline_iff {fs : Entries Value} :
    ((Value.obj fs).inline a.functions).isOk = true ↔ a.Findable fs := Value.isOk_inline_iff

lemma isOk_component_iff {languages : List String} {t : Template} :
    (a.component ctx languages t override).isOk = true ↔
      ∃ fs, a.merged ctx t override = .ok fs ∧ a.Findable fs := by
  rw [component_eq, isOk_bind_iff]
  refine exists_congr fun fs => and_congr_right fun _ => ?_
  rw [isOk_bind_iff, ← isOk_inline_iff, isOk_iff]
  exact exists_congr fun v => and_iff_left rfl

/-! ### All sections -/

/-- Can the section of a component be assembled, as far as its shape goes? -/
structure Buildable (a : Engine) (block : ViewBlock) (ctx : Context) (r : ViewRequest)
    (key : String) (kind : ComponentKind) : Prop where
  customizable : kind = .table → (componentContext ctx r (block.override key)).Customizable
  findable : ∀ fs, a.merged (componentContext ctx r (block.override key))
    (Shipped.templateOf kind) (block.override key) = .ok fs → a.Findable fs

variable {schema : Snapshot} {r : ViewRequest} {key : String} {kind : ComponentKind}

lemma isOk_sectionOf_iff (hbuilders : a.builders = Builder.byName)
    (hblock : ctx.blockCustomizations.isObj = true) (ho : (block.override key).keys.Nodup) :
    (a.sectionOf block ctx r key (Shipped.templateOf kind)).isOk = true ↔
      a.Buildable block ctx r key kind := by
  have hmerged : (a.merged (componentContext ctx r (block.override key))
        (Shipped.templateOf kind) (block.override key)).isOk = true ↔
      (kind = .table → (componentContext ctx r (block.override key)).Customizable) :=
    isOk_merged_iff hbuilders hblock ho
  rw [sectionOf, isOk_component_iff]
  constructor
  · rintro ⟨fs, hfs, hfindable⟩
    refine ⟨hmerged.mp (isOk_iff.mpr ⟨fs, hfs⟩), fun fs' hfs' => ?_⟩
    obtain rfl : fs = fs' := Except.ok.inj (hfs.symm.trans hfs')
    exact hfindable
  · rintro ⟨hcustomizable, hfindable⟩
    obtain ⟨fs, hfs⟩ := isOk_iff.mp (hmerged.mpr hcustomizable)
    exact ⟨fs, hfs, hfindable fs hfs⟩

lemma isOk_sections_iff {ts : List (String × Template)} :
    (a.sections block ctx r ts).isOk = true ↔
      ∀ e ∈ ts, (a.sectionOf block ctx r e.1 e.2).isOk = true := by
  induction ts with
  | nil => exact iff_of_true rfl nofun
  | cons e ts ih =>
    rw [sections_cons, isOk_bind_iff, List.forall_mem_cons, ← ih, isOk_iff, isOk_iff]
    constructor
    · rintro ⟨here, hhere, h⟩
      obtain ⟨rest, hrest, -⟩ := isOk_bind_iff.mp h
      exact ⟨⟨here, hhere⟩, ⟨rest, hrest⟩⟩
    · rintro ⟨⟨here, hhere⟩, ⟨rest, hrest⟩⟩
      exact ⟨here, hhere, isOk_bind_iff.mpr ⟨rest, hrest, rfl⟩⟩

/-- The headers beside the sections never fail: no component customizes them. -/
lemma isOk_headersBeside (a : Engine) (block : ViewBlock) (snapshot : Snapshot) (r : ViewRequest) :
    (a.headersBeside (a.context block snapshot r)).isOk = true := by
  have hcustomizable : (a.context block snapshot r).Customizable := ⟨.inr rfl, nofun⟩
  obtain ⟨hs, hhs⟩ := isOk_iff.mp ((Context.isOk_headers_iff rfl).mpr hcustomizable)
  rw [headersBeside, hhs]
  split <;> rfl

lemma exists_payload_iff {ts : Entries Template} {snapshot : Snapshot} :
    (∃ p, a.payload block (a.context block snapshot r) r ts = .ok p) ↔
      (a.sections block (a.context block snapshot r) r ts).isOk = true := by
  rw [isOk_iff]
  constructor
  · rintro ⟨p, hp⟩
    exact ⟨p.sections, (payload_eq_ok_iff.mp hp).1⟩
  · rintro ⟨sections, hsections⟩
    obtain ⟨headers, hheaders⟩ := isOk_iff.mp (isOk_headersBeside a block snapshot r)
    exact ⟨⟨sections, headers, _, _⟩, payload_eq_ok_iff.mpr ⟨hsections, hheaders, rfl, rfl⟩⟩

/--
With the shipped templates, a request is answered by a payload exactly if the block has the columns
that it needs and supports the language, and each component is of some kind and can be built.
-/
lemma exists_assemble_eq_payload_iff (block : ReadBlock)
    (htemplates : a.templates = Shipped.templates) (hbuilders : a.builders = Builder.byName) :
    (∃ p, a.assemble block schema r = .ok (.payload p)) ↔
      ¬ block.LacksColumns ∧ (∀ key ∈ r.keys block, (ComponentKind.ofKey? key).isSome = true) ∧
      ¬ block.RefusesLang (r.chosenLang a.settings) ∧
      ∀ snapshot, snapshotFor block schema r.blockName = .ok snapshot →
        ∀ key ∈ r.keys block, ∀ kind, ComponentKind.ofKey? key = some kind →
          a.Buildable block (a.context block snapshot r) r key kind := by
  have hfind : ∀ key, a.templates.find? key
      = (ComponentKind.ofKey? key).map Shipped.templateOf := by
    rw [htemplates]
    exact Shipped.find?_templates
  have hmissing : a.templates.missing (r.keys block) = [] ↔
      ∀ key ∈ r.keys block, (ComponentKind.ofKey? key).isSome = true := by
    rw [htemplates]
    exact Shipped.missing_templates_eq_nil_iff
  -- each requested key has the template of its kind, and a section is made for it
  have hsections : a.templates.missing (r.keys block) = [] → ∀ snapshot,
      ((∃ p, a.payload block (a.context block snapshot r) r
          (.ofPairs (a.templates.pairs (r.keys block))) = .ok p) ↔
        ∀ key ∈ r.keys block, ∀ kind, ComponentKind.ofKey? key = some kind →
          a.Buildable block (a.context block snapshot r) r key kind) := by
    intro hm snapshot
    rw [exists_payload_iff, isOk_sections_iff]
    constructor
    · intro h key hkey kind hkind
      have ht : a.templates.find? key = some (Shipped.templateOf kind) := by rw [hfind, hkind]; rfl
      have hmem := (TemplateLibrary.mem_ofPairs_pairs_iff hm (e := (key, _))).mpr ⟨hkey, ht⟩
      exact (isOk_sectionOf_iff hbuilders rfl (block.nodup_override key)).mp (h _ hmem)
    · rintro h ⟨key, t⟩ hmem
      obtain ⟨hkey, ht⟩ := (TemplateLibrary.mem_ofPairs_pairs_iff hm).mp hmem
      rw [hfind] at ht
      obtain ⟨kind, hkind, rfl⟩ := Option.map_eq_some_iff.mp ht
      exact (isOk_sectionOf_iff hbuilders rfl (block.nodup_override key)).mpr (h key hkey kind hkind)
  rw [← hmissing]
  constructor
  · rintro ⟨p, hp⟩
    obtain ⟨hcolumns, hm, hlang, snapshot, hs, hpayload⟩ := assemble_eq_payload_iff.mp hp
    refine ⟨hcolumns, hm, hlang, fun snapshot' hs' => ?_⟩
    obtain rfl : snapshot = snapshot' := Except.ok.inj (hs.symm.trans hs')
    exact (hsections hm snapshot).mp ⟨p, hpayload⟩
  · rintro ⟨hcolumns, hm, hlang, hbuildable⟩
    obtain ⟨snapshot, hs⟩ : ∃ snapshot, snapshotFor block schema r.blockName = .ok snapshot :=
      exists_snapshotFor hcolumns r.blockName
    obtain ⟨p, hp⟩ := (hsections hm snapshot).mpr (hbuildable snapshot hs)
    exact ⟨p, assemble_eq_payload_iff.mpr ⟨hcolumns, hm, hlang, snapshot, hs, hp⟩⟩

end Engine

end ViewAssembly
