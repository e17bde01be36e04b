import ViewAssembly.Proofs.Assembly.Independence
import ViewAssembly.Proofs.Assembly.Shape
import ViewAssembly.Proofs.Header.Order
import ViewAssembly.Proofs.Language.Localize

/-!
# Headers beside the sections

Where the settings ask for it, the headers of a view stand beside its sections too. They are built
as those of a table are that overrides nothing, but only what is in a section has its functions
inlined and its texts localized. So the two agree exactly where nothing is left to be done
(`Engine.headers_beside_table_iff`).
-/

namespace ViewAssembly

lemma Context.anyPlaced_headers {ctx : Context} {hs : List Header} (h : ctx.headers = .ok hs) :
    Header.anyPlaced (.arr (hs.map .obj)) = false := by
  obtain ⟨customizations, -, h⟩ := bind_eq_ok_iff.mp h
  exact HeaderSource.anyPlaced_headers h

/-! ### What becomes of a list in a section -/

namespace Value

variable {source : FunctionSource} {lang name : String} {languages : List String}
variable {fs : Entries Value} {vs : List Value}

/-- A list in an object is inlined and localized where it stands. -/
lemma get?_localize_inlineFunctions (hfunctions : name ≠ "functions")
    (htext : isTextName name = false) (h : fs.get? name = some (arr vs)) :
    (((obj fs).inlineFunctions source).localize lang languages).get? name
      = some (((arr vs).inlineFunctions source).localize lang languages) := by
  have hinlined : Entries.get? (inlineFields source fs) name
      = some ((arr vs).inlineFunctions source) := by rw [get?_inlineFields hfunctions, h]; rfl
  have hobject : (obj (inlineFields source fs)).isTextFor (knownLanguages lang languages)
      = false := by
    rw [isTextFor, isPerLanguage_of_get? hinlined rfl, Bool.false_and]
  have hlocalized : (obj (inlineFields source fs)).localize lang languages
      = obj (localizeFields lang (knownLanguages lang languages) (inlineFields source fs)) := by
    rw [localize, localizeWith, hobject, if_neg Bool.false_ne_true]
  change ((obj (inlineFields source fs)).localize lang languages).get? name = _
  rw [hlocalized, get?, fields?, Option.bind_some, get?_localizeFields htext, hinlined]
  rfl

end Value

namespace Engine

variable {a : Engine} {block : ViewBlock} {ctx : Context} {schema snapshot : Snapshot}
variable {r : ViewRequest} {p : Payload} {key : String}

lemma applyOverride_nil (t : Template) (draft : Entries Value) :
    a.applyOverride t draft [] = draft := rfl

lemma orderHeaders_of_not_anyPlaced {fs : Entries Value} {hs : List Value}
    (hget : fs.get? "headers" = some (.arr hs)) (h : Header.anyPlaced (.arr hs) = false) :
    orderHeaders fs = .ok fs := by
  rw [orderHeaders, hget]
  simp only
  rw [h, if_neg Bool.false_ne_true]
  rfl

/--
The headers of a table that overrides nothing are those of its context, inlined and localized.
-/
lemma headers_of_component {languages : List String} {here : Value}
    (hbuilders : a.builders = Builder.byName)
    (h : a.component ctx languages Shipped.tableTemplate [] = .ok here) :
    ∃ hs, ctx.headers = .ok hs ∧
      here.get? "headers" = some (((Value.arr (hs.map .obj)).inlineFunctions a.functions).localize
        ctx.lang languages) := by
  obtain ⟨draft, hdraft, h⟩ := bind_eq_ok_iff.mp h
  rw [hbuilders] at hdraft
  obtain ⟨hs, hhs, hget⟩ := Shipped.headers_of_resolve_table hdraft
  rw [applyOverride_nil, orderHeaders_of_not_anyPlaced hget (Context.anyPlaced_headers hhs)] at h
  obtain ⟨merged, hmerged, h⟩ := bind_eq_ok_iff.mp h
  cases hmerged
  obtain ⟨inlined, hinlined, h⟩ := bind_eq_ok_iff.mp h
  obtain rfl := Value.eq_inlineFunctions_of_inline hinlined
  cases h
  exact ⟨hs, hhs, Value.get?_localize_inlineFunctions (by decide) rfl hget⟩

/-- What a component says about columns is all that its context adds to that of the block. -/
lemma componentContext_nil : componentContext (a.context block snapshot r) r []
    = a.context block snapshot r := by
  rw [componentContext]
  cases r.ownColumns?.isSome <;> rfl

/-- The headers of a table that overrides nothing and those beside the sections have one source. -/
lemma headers_of_assemble (hbuilders : a.builders = Builder.byName)
    (hsettings : a.settings.topLevelHeaders = true)
    (hp : a.assemble block schema r = .ok (.payload p)) (hkey : key ∈ r.keys block)
    (ht : a.templates.find? key = some Shipped.tableTemplate) (ho : block.override key = []) :
    ∃ snapshot hs here, snapshotFor block schema r.blockName = .ok snapshot ∧
      (a.context block snapshot r).headers = .ok hs ∧ p.headers = some (.arr (hs.map .obj)) ∧
      p.sections.get? key = some here ∧
      here.get? "headers" = some (((Value.arr (hs.map .obj)).inlineFunctions a.functions).localize
        (r.chosenLang a.settings) block.lang) := by
  obtain ⟨snapshot, t, here, hs, ht', hsection, hhere⟩ := get?_sections_of_assemble hp hkey
  obtain rfl : Shipped.tableTemplate = t := Option.some.inj (ht.symm.trans ht')
  rw [sectionOf, ho, componentContext_nil] at hsection
  obtain ⟨headers, hheaders, hget⟩ := headers_of_component hbuilders hsection
  obtain ⟨-, -, -, snapshot', hs', hpayload⟩ := assemble_eq_payload_iff.mp hp
  obtain rfl : snapshot = snapshot' := Except.ok.inj (hs.symm.trans hs')
  obtain ⟨-, hbeside, -⟩ := payload_eq_ok_iff.mp hpayload
  rw [headersBeside, hsettings, if_pos rfl, hheaders] at hbeside
  exact ⟨snapshot, headers, here, hs, hheaders, (Except.ok.inj hbeside).symm, hhere, hget⟩

/--
Where the settings ask for headers beside the sections, the headers of a table that overrides
nothing are these, inlined and localized. They are the same exactly if every function in them is a
text and no object in them stands for a text.
-/
theorem headers_beside_table_iff (hbuilders : a.builders = Builder.byName)
    (hsettings : a.settings.topLevelHeaders = true)
    (hp : a.assemble block schema r = .ok (.payload p)) (hkey : key ∈ r.keys block)
    (ht : a.templates.find? key = some Shipped.tableTemplate) (ho : block.override key = []) :
    ∃ headers here, p.headers = some headers ∧ p.sections.get? key = some here ∧
      here.get? "headers" = some ((headers.inlineFunctions a.functions).localize
        (r.chosenLang a.settings) block.lang) ∧
      (here.get? "headers" = p.headers ↔
        headers.isInlined = true ∧ headers.isLocalized
          (Value.knownLanguages (r.chosenLang a.settings) block.lang) = true) := by
  obtain ⟨-, hs, here, -, -, hbeside, hhere, hget⟩ :=
    headers_of_assemble hbuilders hsettings hp hkey ht ho
  refine ⟨_, here, hbeside, hhere, hget, ?_⟩
  rw [hbeside, hget, Option.some.injEq]
  exact (Value.lightens_inlineFunctions a.functions).comp_eq_self_iff
    (Value.lightens_localizeWith _ _)

/-! ### A column shown as a chip -/

def besideEngine : Engine where
  settings := { topLevelHeaders := true }
  templates := Shipped.templates

def activeTable : ViewBlock where
  components := [("table", .obj [])]
  columns := ["active"]
  lang := ["en"]

def activeColumn (text : Value) : Snapshot :=
  [("active", { label := some (.plain "Active"), chip := some [("text", text)] })]

def activeHeader (text : Value) : Header :=
  [("key", .str "active"), ("title", .str "Active"), ("value", .str "active"),
    ("sortable", .bool false), ("hidden", .bool false), ("type", .str "string"),
    ("chip", .obj [("text", text)])]

lemma headers_activeTable (text : Value) :
    (besideEngine.context activeTable (activeColumn text) { lang := some "en" }).headers
      = .ok [activeHeader text] := by
  have hheader : HeaderSource.header? ⟨activeColumn text, "en", {}, false⟩ "active"
      = .ok (some (activeHeader text)) := by with_unfolding_all rfl
  have hall : ["active"].mapM (HeaderSource.header? ⟨activeColumn text, "en", {}, false⟩)
      = .ok [some (activeHeader text)] := by
    rw [List.mapM_cons, hheader]
    rfl
  have harranged : (Header.arrange [activeHeader text]).map (Header.resolveTexts "en")
      = [activeHeader text] := by with_unfolding_all rfl
  exact bind_eq_ok_iff.mpr ⟨{}, rfl, bind_eq_ok_iff.mpr ⟨["active"], rfl,
    bind_eq_ok_iff.mpr ⟨_, hall, congrArg Except.ok harranged⟩⟩⟩

lemma exists_assemble_activeTable (text : Value) :
    ∃ p, besideEngine.assemble activeTable (activeColumn text) { lang := some "en" }
      = .ok (.payload p) := by
  have hlang : ¬ activeTable.RefusesLang "en" :=
    ViewBlock.not_refusesLang (by decide) List.mem_cons_self
  have hkeys (key : String)
      (hkey : key ∈ ViewRequest.keys { lang := some "en" } activeTable) : key = "table" :=
    List.mem_singleton.mp hkey
  have ho : activeTable.override "table" = [] := by with_unfolding_all rfl
  have hwf : (Value.obj activeTable.components).WellFormed := by
    simp [activeTable, Value.WellFormed, Value.WellFormedFields]
  refine (exists_assemble_eq_payload_iff (.ofWellFormed _ hwf) rfl rfl).mpr
    ⟨fun h => Bool.false_ne_true h.1, ?_, hlang, ?_⟩
  · rintro key hkey
    obtain rfl := hkeys key hkey
    decide
  · rintro snapshot - key hkey kind -
    obtain rfl := hkeys key hkey
    refine ⟨fun _ => ?_, fun _ _ _ _ => rfl⟩
    rw [ReadBlock.toViewBlock_ofWellFormed, ho]
    refine ⟨.inr rfl, ?_⟩
    rintro token custom ⟨⟩

/-- The header of a chip with a plain text is the same in both places. -/
theorem headers_beside_table_iff_plain_chip :
    ∃ p here, besideEngine.assemble activeTable (activeColumn (.str "Yes")) { lang := some "en" }
        = .ok (.payload p) ∧
      p.sections.get? "table" = some here ∧ here.get? "headers" = p.headers := by
  obtain ⟨p, hp⟩ := exists_assemble_activeTable (.str "Yes")
  have ht : besideEngine.templates.find? "table" = some Shipped.tableTemplate := by
    with_unfolding_all rfl
  have ho : activeTable.override "table" = [] := by with_unfolding_all rfl
  obtain ⟨headers, here, hbeside, hhere, -, hsame⟩ :=
    headers_beside_table_iff rfl rfl hp List.mem_cons_self ht ho
  obtain ⟨snapshot, hs, -, hsnapshot, hheaders, hbeside', -⟩ :=
    headers_of_assemble rfl rfl hp List.mem_cons_self ht ho
  cases hsnapshot
  cases (headers_activeTable (.str "Yes")).symm.trans hheaders
  cases hbeside.symm.trans hbeside'
  exact ⟨p, here, hp, hhere, hsame.mpr ⟨by with_unfolding_all rfl, by with_unfolding_all rfl⟩⟩

/-- The text of a chip is localized in the table, but not beside it. -/
theorem headers_differ_beside_table :
    ∃ p here, besideEngine.assemble activeTable
        (activeColumn (.obj [("en", .str "Yes"), ("dv", .str "No")])) { lang := some "en" }
        = .ok (.payload p) ∧
      p.sections.get? "table" = some here ∧
      here.get? "headers" = some (.arr [.obj (activeHeader (.str "Yes"))]) ∧
      p.headers
        = some (.arr [.obj (activeHeader (.obj [("en", .str "Yes"), ("dv", .str "No")]))]) ∧
      here.get? "headers" ≠ p.headers := by
  obtain ⟨p, hp⟩ := exists_assemble_activeTable (.obj [("en", .str "Yes"), ("dv", .str "No")])
  obtain ⟨snapshot, hs, here, hsnapshot, hheaders, hbeside, hhere, hget⟩ :=
    headers_of_assemble rfl rfl hp List.mem_cons_self (by with_unfolding_all rfl)
      (by with_unfolding_all rfl)
  cases hsnapshot
  cases (headers_activeTable _).symm.trans hheaders
  have hget : here.get? "headers" = some (.arr [.obj (activeHeader (.str "Yes"))]) :=
    hget.trans (by with_unfolding_all rfl)
  refine ⟨p, here, hp, hhere, hget, hbeside, ?_⟩
  rw [hget, hbeside]
  simp [activeHeader]

end Engine

end ViewAssembly
