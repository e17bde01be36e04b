import ViewAssembly.Proofs.Assembly.Shape
import ViewAssembly.Proofs.Header.Failure

/-!
# Why assembling fails

With the shipped templates, a block that can be read fails to be assembled for a reason of its
configuration, or because a part of one of its components is malformed. Overrides may hold anything,
and still there are no malformed parts but two: what a table says about columns, and a reference
to a script by too long a name (`Engine.Stops`). Each of them does stop the assembly
(`Engine.assemble_malformed_iff`).
-/

namespace ViewAssembly

variable {what : Malformed}

/-- Is an error about the configuration, and not about something without meaning? -/
def RequestError.IsConfiguration : RequestError → Prop
  | .malformed _ => False
  | _            => True

/-! ### Drafts that cannot be resolved -/

section Draft

variable {builders : Entries Builder} {ctx : Context} {kind : String}

lemma Builder.headers_eq_error_of_build {name : String} {b : Builder}
    (h : b.build ctx kind name = .error what) : ctx.headers = .error what := by
  by_cases hb : b = .headers
  · subst hb
    rcases bind_eq_error_iff.mp h with hheaders | ⟨hs, -, h⟩
    · exact hheaders
    · cases h
  · have hok := (isOk_build_iff ctx kind name b).mpr (.inl hb)
    rw [h] at hok
    cases hok

mutual

theorem headers_eq_error_of_resolveDirective {name : String} {v : Value} :
    resolveDirective builders ctx kind name v = .error what → ctx.headers = .error what := by
  match v with
  | .obj ds =>
    intro h
    rw [resolveDirective] at h
    rcases bind_eq_error_iff.mp h with hds | ⟨out, -, h⟩
    · exact headers_eq_error_of_resolveDirectives hds
    · cases h
  | .str s =>
    intro h
    rw [resolveDirective] at h
    split at h
    · split at h
      · rcases bind_eq_error_iff.mp h with hbuild | ⟨out, -, h⟩
        · exact Builder.headers_eq_error_of_build hbuild
        · cases h
      · cases h
    · split at h <;> cases h
  | .null | .bool _ | .int _ | .float _ | .arr _ | .shown _ => exact nofun

/-- Only headers stop a draft. -/
theorem headers_eq_error_of_resolveDirectives {ds : Entries Value} :
    resolveDirectives builders ctx kind ds = .error what → ctx.headers = .error what := by
  match ds with
  | [] => exact nofun
  | (name, v) :: ds =>
    intro h
    rw [resolveDirectives] at h
    rcases bind_eq_error_iff.mp h with hv | ⟨entry, -, h⟩
    · exact headers_eq_error_of_resolveDirective hv
    · rcases bind_eq_error_iff.mp h with hds | ⟨rest, -, h⟩
      · exact headers_eq_error_of_resolveDirectives hds
      · cases h

end

end Draft

namespace Engine

variable {a : Engine} {block : ViewBlock} {ctx : Context} {schema snapshot : Snapshot}
variable {r : ViewRequest} {key : String} {kind : ComponentKind}

/-! ### Sections that cannot be assembled -/

/-- What stops the section of a component, by the error it makes. -/
inductive Stops (a : Engine) (block : ViewBlock) (ctx : Context) (r : ViewRequest)
    (key : String) : Malformed → Prop where
  /-- A table says something about columns that headers cannot be built from. -/
  | customization {cause : Malformed} (hkind : ComponentKind.ofKey? key = some .table)
      (h : (componentContext ctx r (block.override key)).Miscustomizes cause) :
      Stops a block ctx r key cause
  /-- The section refers to a script by too long a name. -/
  | fileName (kind : ComponentKind) (fs : Entries Value) (file function : String)
      (hkind : ComponentKind.ofKey? key = some kind)
      (hmerged : a.merged (componentContext ctx r (block.override key)) (Shipped.templateOf kind)
        (block.override key) = .ok fs)
      (href : (file, function) ∈ (Value.obj fs).references)
      (hrefuses : a.functions.refuses file function = true) :
      Stops a block ctx r key (.fileName file)

lemma buildable_iff (hkind : ComponentKind.ofKey? key = some kind) :
    a.Buildable block ctx r key kind ↔ ∀ what, ¬ a.Stops block ctx r key what := by
  constructor
  · rintro ⟨hcustomizable, hfindable⟩ what
      (⟨htable, h⟩ | ⟨kind', fs, file, function, hkind', hmerged, href, hrefuses⟩)
    · obtain rfl := Option.some.inj (hkind.symm.trans htable)
      exact Context.customizable_iff.mp (hcustomizable rfl) what h
    · obtain rfl := Option.some.inj (hkind.symm.trans hkind')
      exact Bool.noConfusion ((hfindable fs hmerged _ href).symm.trans hrefuses)
  · intro h
    refine ⟨?_, fun fs hmerged ref href => ?_⟩
    · rintro rfl
      exact Context.customizable_iff.mpr fun what hwhat => h what (.customization hkind hwhat)
    · by_contra hrefuses
      exact h _ (.fileName kind fs ref.1 ref.2 hkind hmerged href (by simpa using hrefuses))

/-- A draft with its override fails only for what a table says about columns. -/
lemma miscustomizes_of_merged_eq_error {override : Entries Value}
    (hbuilders : a.builders = Builder.byName) (hblock : ctx.blockCustomizations.isObj = true)
    (ho : override.keys.Nodup) (h : a.merged ctx (Shipped.templateOf kind) override = .error what) :
    kind = .table ∧ ctx.Miscustomizes what := by
  have hkind : kind = .table := by
    by_contra hne
    have hok := (isOk_merged_iff hbuilders hblock ho).mpr fun hkind => absurd hkind hne
    rw [h] at hok
    cases hok
  refine ⟨hkind, ?_⟩
  rcases bind_eq_error_iff.mp h with hresolve | ⟨draft, hdraft, horder⟩
  · exact Context.miscustomizes_of_headers_eq_error hblock
      (headers_eq_error_of_resolveDirectives hresolve)
  · -- headers that the override leaves can be ordered, whatever it is
    rw [hbuilders] at hdraft
    have hok := isOk_orderHeaders_applyOverride (a := a) (t := Shipped.templateOf kind)
      (Shipped.headers_of_resolve hdraft) ho
    rw [horder] at hok
    cases hok

lemma stops_of_sectionOf_eq_error (hbuilders : a.builders = Builder.byName)
    (hblock : ctx.blockCustomizations.isObj = true) (ho : (block.override key).keys.Nodup)
    (hkind : ComponentKind.ofKey? key = some kind)
    (h : a.sectionOf block ctx r key (Shipped.templateOf kind) = .error what) :
    a.Stops block ctx r key what := by
  rw [sectionOf, component_eq] at h
  rcases bind_eq_error_iff.mp h with hmerged | ⟨fs, hmerged, h⟩
  · have hcause : kind = .table ∧
        (componentContext ctx r (block.override key)).Miscustomizes what :=
      miscustomizes_of_merged_eq_error hbuilders hblock ho hmerged
    obtain ⟨rfl, hwhat⟩ := hcause
    exact .customization hkind hwhat
  · rcases bind_eq_error_iff.mp h with hinline | ⟨v, -, h⟩
    · obtain ⟨file, function, rfl, href, hrefuses⟩ :=
        Value.exists_refuses_of_inline_eq_error hinline
      exact .fileName kind fs file function hkind hmerged href hrefuses
    · cases h

lemma exists_sectionOf_of_sections_eq_error {ts : List (String × Template)}
    (h : a.sections block ctx r ts = .error what) :
    ∃ e ∈ ts, a.sectionOf block ctx r e.1 e.2 = .error what := by
  induction ts with
  | nil => cases h
  | cons e ts ih =>
    rw [sections_cons] at h
    rcases bind_eq_error_iff.mp h with hhere | ⟨here, -, h⟩
    · exact ⟨e, List.mem_cons_self, hhere⟩
    · rcases bind_eq_error_iff.mp h with hrest | ⟨rest, -, h⟩
      · obtain ⟨e', hmem, he'⟩ := ih hrest
        exact ⟨e', List.mem_cons_of_mem _ hmem, he'⟩
      · cases h

/-- A payload fails where one of its sections does. -/
lemma sections_eq_error_of_payload {ts : Entries Template}
    (h : a.payload block (a.context block snapshot r) r ts = .error what) :
    a.sections block (a.context block snapshot r) r ts = .error what := by
  cases hsections : a.sections block (a.context block snapshot r) r ts with
  | error what' =>
    rw [payload, hsections] at h
    exact congrArg Except.error (Except.error.inj h)
  | ok sections =>
    obtain ⟨p, hp⟩ := exists_payload_iff.mpr (isOk_iff.mpr ⟨sections, hsections⟩)
    cases h.symm.trans hp

/-! ### Requests that fail -/

/-- What stops the assembly of one of the requested components of a block. -/
def Halts (a : Engine) (block : ViewBlock) (schema : Snapshot) (r : ViewRequest)
    (what : Malformed) : Prop :=
  ∃ snapshot, snapshotFor block schema r.blockName = .ok snapshot ∧
    ∃ key ∈ r.keys block, a.Stops block (a.context block snapshot r) r key what

/-- What is malformed in an error is what stops a requested component. -/
lemma halts_of_assemble_eq_error {block : ReadBlock}
    (htemplates : a.templates = Shipped.templates) (hbuilders : a.builders = Builder.byName)
    (h : a.assemble block schema r = .error (.malformed what)) :
    ¬ block.LacksColumns ∧ (∀ key ∈ r.keys block, (ComponentKind.ofKey? key).isSome = true) ∧
      ¬ block.RefusesLang (r.chosenLang a.settings) ∧ a.Halts block schema r what := by
  have hend := assemble_ending a block schema r
  rw [h] at hend
  -- an error of this kind is the outcome of the last ending only
  generalize hx : Except.error (RequestError.malformed what) = x at hend
  cases hend with
  | noColumns h => cases hx
  | noTemplates h hm => cases hx
  | unsupported h hm hl => cases hx
  | assembled hcolumns hm hl snapshot hs =>
    cases hpayload : a.payload block (a.context block snapshot r) r
        (.ofPairs (a.templates.pairs (r.keys block))) with
    | ok p => rw [hpayload] at hx; cases hx
    | error cause =>
      rw [hpayload] at hx
      cases hx
      obtain ⟨⟨key, t⟩, hmem, hsection⟩ :=
        exists_sectionOf_of_sections_eq_error (sections_eq_error_of_payload hpayload)
      obtain ⟨hkey, ht⟩ := (TemplateLibrary.mem_ofPairs_pairs_iff hm).mp hmem
      rw [htemplates] at hm ht
      obtain ⟨kind, hkind, rfl⟩ :=
        Option.map_eq_some_iff.mp ((Shipped.find?_templates key).symm.trans ht)
      exact ⟨hcolumns, Shipped.missing_templates_eq_nil_iff.mp hm, hl, snapshot, hs, key, hkey,
        stops_of_sectionOf_eq_error hbuilders rfl (block.nodup_override key) hkind hsection⟩

/--
A block that was read fails to be assembled with an error about its configuration, or with one that
names what stops one of its requested components. What stops a component lets the assembly fail,
unless the block lacks columns, a template is missing or the language is refused.
-/
theorem assemble_malformed_iff (block : ReadBlock) (htemplates : a.templates = Shipped.templates)
    (hbuilders : a.builders = Builder.byName) (schema : Snapshot) (r : ViewRequest) :
    (∀ e, a.assemble block schema r = .error e →
      e.IsConfiguration ∨ ∃ what, e = .malformed what ∧ a.Halts block schema r what) ∧
    ((∃ what, a.assemble block schema r = .error (.malformed what)) ↔
      ¬ block.LacksColumns ∧ (∀ key ∈ r.keys block, (ComponentKind.ofKey? key).isSome = true) ∧
      ¬ block.RefusesLang (r.chosenLang a.settings) ∧ ∃ what, a.Halts block schema r what) := by
  refine ⟨fun e he => ?_, ?_, ?_⟩
  · cases e with
    | malformed what =>
      exact .inr ⟨what, rfl, (halts_of_assemble_eq_error htemplates hbuilders he).2.2.2⟩
    | _ => exact .inl trivial
  · rintro ⟨what, h⟩
    obtain ⟨hcolumns, hkinds, hlang, hhalts⟩ := halts_of_assemble_eq_error htemplates hbuilders h
    exact ⟨hcolumns, hkinds, hlang, what, hhalts⟩
  · rintro ⟨hcolumns, hkinds, hlang, what, snapshot, hs, key, hkey, hstops⟩
    have hnone : ¬ ∃ p, a.assemble block schema r = .ok (.payload p) := by
      rw [exists_assemble_eq_payload_iff block htemplates hbuilders]
      rintro ⟨-, -, -, hbuildable⟩
      obtain ⟨kind, hkind⟩ := Option.isSome_iff_exists.mp (hkinds key hkey)
      exact (buildable_iff hkind).mp (hbuildable snapshot hs key hkey kind hkind) what hstops
    -- nothing ends the request before its sections, and there is no payload
    have hend := assemble_ending a block schema r
    generalize a.assemble block schema r = x at hend hnone ⊢
    cases hend with
    | noColumns h => exact absurd h hcolumns
    | noTemplates h hm =>
      rw [htemplates] at hm
      exact absurd (Shipped.missing_templates_eq_nil_iff.mpr hkinds) hm
    | unsupported h hm hl => exact absurd hl hlang
    | assembled h hm hl snapshot hs =>
      generalize a.payload block _ r _ = y at hnone ⊢
      cases y with
      | ok p => exact absurd ⟨p, rfl⟩ hnone
      | error cause => exact ⟨cause, rfl⟩

/-! ### Customizations that are no objects -/

/-- What a block with a table says whose customizations are this value. -/
def customizedBy (v : Value) : Entries Value :=
  [("components", .obj [("table", .obj [("columnCustomizations", v)])]),
    ("columns", .arr [.str "id"]),
    ("lang", .arr [.str "en"])]

def tableCustomizedBy (v : Value) : ViewBlock where
  components := [("table", .obj [("columnCustomizations", v)])]
  columns := ["id"]
  lang := ["en"]

def shippedEngine : Engine where
  templates := Shipped.templates

lemma ofFields_customizedBy (v : Value) :
    ViewBlock.ofFields (customizedBy v) = .ok (tableCustomizedBy v) := by
  refine ViewBlock.ofFields_eq_ok_iff.mpr ⟨?_, rfl, rfl, rfl, rfl, rfl, rfl, rfl, rfl, rfl⟩
  simp only [customizedBy, Entries.keys_cons, Entries.keys_nil, List.forall_mem_cons]
  decide

lemma wellFormed_customizations {v : Value} (h : v.WellFormed) :
    (Value.obj (tableCustomizedBy v).components).WellFormed :=
  Value.wellFormed_obj_singleton (Value.wellFormed_obj_singleton h)

/-- A customization that is a number is read, but it stops the table. -/
theorem assemble_malformed_iff_number :
    ∃ what, shippedEngine.assemble (tableCustomizedBy (.obj [("id", .int 5)])) [("id", {})]
      { lang := some "en" } = .error (.malformed what) := by
  have hwf : (Value.obj (tableCustomizedBy (.obj [("id", .int 5)])).components).WellFormed :=
    wellFormed_customizations (Value.wellFormed_obj_singleton trivial)
  have hcolumn : "id" ∈ (componentContext (shippedEngine.context
      (tableCustomizedBy (.obj [("id", .int 5)])) [("id", {})] { lang := some "en" })
      { lang := some "en" } ((tableCustomizedBy (.obj [("id", .int 5)])).override "table")).columns :=
    by decide
  refine (assemble_malformed_iff (.ofWellFormed _ hwf) rfl rfl _ _).2.mpr
    ⟨fun h => Bool.false_ne_true h.1, ?_,
      ViewBlock.not_refusesLang (by decide) List.mem_cons_self, _, [("id", {})], rfl, "table",
      List.mem_cons_self, .customization (by decide) (.one "id" (.int 5) rfl rfl rfl ?_)⟩
  · intro key hkey
    obtain rfl := List.mem_singleton.mp hkey
    decide
  · rintro (hshown | hhidden | hlang)
    · exact hshown hcolumn
    · cases hhidden
    · cases hlang

/-- Customizations that are a number stop a block that was read. -/
theorem malformed_of_readable :
    ViewBlock.ofFields (customizedBy (.int 5)) = .ok (tableCustomizedBy (.int 5)) ∧
      shippedEngine.assemble (tableCustomizedBy (.int 5)) [("id", {})] { lang := some "en" }
        = .error (.malformed .customizations) := by
  refine ⟨ofFields_customizedBy _, ?_⟩
  with_unfolding_all rfl

end Engine

end ViewAssembly
