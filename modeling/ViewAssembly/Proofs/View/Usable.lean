import ViewAssembly.Proofs.Assembly.Shape
import ViewAssembly.Proofs.Json.Proper
import ViewAssembly.Proofs.View.Valid
import ViewAssembly.View.Library

/-!
# What validation promises

A view config is validated as it stands in its file, and a block is read from it and assembled
independently of that. Where validation finds no error in a block, the block is usable exactly if
its fields can be read and its components can be assembled (`ViewLibrary.usable_iff_of_no_errors`).
Neither follows from the absence of errors: a component without template is worth a warning, and
so is a page size that cannot be read. That a block has no model is looked for under its main name
alone, so nothing is found in one that says it under the other name and brings no columns.
-/

namespace ViewAssembly

def ViewRequest.inLang (r : ViewRequest) (lang : String) : ViewRequest :=
  { r with lang := some lang, componentKeys := none }

variable {a : Engine} {block : ViewBlock} {fs document : Entries Value} {r : ViewRequest}
variable {schema : Snapshot} {library : ViewLibrary} {model name : String}

/-- What validation leaves open about a block that can be read, and what assembly depends on. -/
structure ViewBlock.Assemblable (a : Engine) (fs : Entries Value) (block : ViewBlock)
    (schema : Snapshot) (r : ViewRequest) : Prop where
  /-- Every component is of some kind. -/
  kinds : ∀ key ∈ block.components.keys, (ComponentKind.ofKey? key).isSome = true
  /-- A block that has no model, but says so under the second name, brings columns. -/
  columns : fs.get? Field.noModel.main = none → ¬ block.LacksColumns
  /-- A block that lists the empty language, which stands for the default one, supports that. -/
  fallback : "" ∈ block.lang → ¬ block.RefusesLang a.settings.defaultLang
  /-- Every component can be built in every language. -/
  buildable : ∀ lang ∈ block.lang, ∀ snapshot,
    Engine.snapshotFor block schema r.blockName = .ok snapshot →
      ∀ key ∈ block.components.keys, ∀ kind, ComponentKind.ofKey? key = some kind →
        a.Buildable block (a.context block snapshot (r.inLang lang)) (r.inLang lang) key kind

/-- A block supports the languages that it lists, but for the empty one. -/
lemma ViewBlock.refusesLang_inLang_iff {lang : String} (h : lang ∈ block.lang) :
    block.RefusesLang ((r.inLang lang).chosenLang a.settings) ↔
      lang = "" ∧ block.RefusesLang a.settings.defaultLang := by
  by_cases hempty : lang = ""
  · subst hempty
    exact (and_iff_right rfl).symm
  · have hchosen : (r.inLang lang).chosenLang a.settings = lang := by
      rw [ViewRequest.chosenLang, ViewRequest.inLang,
        Option.filter_some_pos (by simpa using hempty)]
      rfl
    rw [hchosen]
    exact iff_of_false (not_refusesLang hempty h) fun hrefuses => hempty hrefuses.1

/--
With the shipped templates, a block answers in a language that it lists exactly if it does not lack
columns, its components are of some kind and can be built, and the language can be told.
-/
lemma ReadBlock.exists_assemble_inLang_iff (block : ReadBlock)
    (htemplates : a.templates = Shipped.templates) (hbuilders : a.builders = Builder.byName)
    (schema : Snapshot) (r : ViewRequest) {lang : String} (hlang : lang ∈ block.lang) :
    (∃ p, a.assemble block schema (r.inLang lang) = .ok (.payload p)) ↔
      ¬ block.LacksColumns ∧
      (∀ key ∈ block.components.keys, (ComponentKind.ofKey? key).isSome = true) ∧
      ¬ (lang = "" ∧ block.RefusesLang a.settings.defaultLang) ∧
      ∀ snapshot, Engine.snapshotFor block schema r.blockName = .ok snapshot →
        ∀ key ∈ block.components.keys, ∀ kind, ComponentKind.ofKey? key = some kind →
          a.Buildable block (a.context block snapshot (r.inLang lang)) (r.inLang lang) key
            kind := by
  rw [Engine.exists_assemble_eq_payload_iff block htemplates hbuilders,
    ViewBlock.refusesLang_inLang_iff hlang]
  rfl

namespace ViewLibrary

/-- What a library holds that was loaded from a folder was read from documents. -/
lemma exists_readObject_of_ofFolder {folder : Folder}
    (h : (ofFolder folder).find? model = some document) : ∃ o : ReadObject, o.val = document := by
  have hall : ∀ e ∈ ofFolder folder, ∃ o : ReadObject, o.val = e.2 := by
    apply List.foldlRecOn (motive := fun library : ViewLibrary =>
      ∀ e ∈ library, ∃ o : ReadObject, o.val = e.2)
    · nofun
    · intro library ih file hfile e he
      obtain ⟨⟨stem, text⟩, -, hread⟩ := List.mem_filterMap.mp hfile
      obtain ⟨fs, hfs, rfl⟩ := Option.map_eq_some_iff.mp hread
      rcases Entries.eq_or_mem_of_mem_put he with rfl | he
      · rw [← ReadObject.map_val_ofJson?] at hfs
        obtain ⟨o, -, ho⟩ := Option.map_eq_some_iff.mp hfs
        exact ⟨o, ho⟩
      · exact ih e he
  exact hall _ (Entries.mem_of_get? h)

lemma block_eq_ok_iff (hdocument : library.find? model = some document)
    (hfs : document.get? name = some (.obj fs)) :
    library.block model name = .ok block ↔ ViewBlock.ofFields fs = .ok block := by
  have hopen : library.document model = .ok document := by
    rw [ViewLibrary.document, hdocument]
    cases document with
    | nil => cases hfs
    | cons e es => rfl
  rw [ViewLibrary.block, bind_eq_ok_iff]
  constructor
  · rintro ⟨opened, hopened, hread⟩
    obtain rfl : document = opened := Except.ok.inj (hopen.symm.trans hopened)
    simp only [hfs] at hread
    split at hread
    · next b hb => rw [hb, Except.ok.inj hread]
    · cases hread
  · intro hread
    refine ⟨document, hopen, ?_⟩
    simp only [hfs, hread]
    rfl

/--
A block in which validation finds no error can be asked for in all languages that it lists exactly
if it can be read and its components can be assembled.
-/
theorem usable_iff_of_no_errors (document : ReadObject) (columns : Option (List String))
    (htemplates : a.templates = Shipped.templates) (hbuilders : a.builders = Builder.byName)
    (hdocument : library.find? model = some document.val)
    (hfs : document.val.get? name = some (.obj fs))
    (hvalid : ∀ i ∈ (validate Shipped.templates.kinds columns model document).errors,
      ¬ i.LiesIn name) :
    (∃ block, library.block model name = .ok block ∧ block.lang ≠ [] ∧
        ∀ lang ∈ block.lang, ∃ p, a.assemble block schema (r.inLang lang) = .ok (.payload p)) ↔
      ViewBlock.Readable fs ∧
        ∀ block, ViewBlock.ofFields fs = .ok block → block.Assemblable a fs schema r := by
  have hsound := ViewBlock.sound_of_no_errors hfs hvalid
  have hassemble := fun block (hblock : ViewBlock.ofFields fs = .ok block) lang
      (hlang : lang ∈ block.lang) =>
    (ReadBlock.ofObject ⟨fs, document.property.of_get? hfs⟩ hblock).exists_assemble_inLang_iff
      htemplates hbuilders schema r hlang
  constructor
  · rintro ⟨block, hget, hlang, hpayload⟩
    have hblock := (block_eq_ok_iff hdocument hfs).mp hget
    refine ⟨ViewBlock.exists_ofFields_iff.mp ⟨block, hblock⟩, fun block' hblock' => ?_⟩
    obtain rfl : block = block' := Checked.ok.inj (hblock.symm.trans hblock')
    have hanswer := fun lang hmem => (hassemble block hblock lang hmem).mp (hpayload lang hmem)
    -- what does not depend on the language is read off any of them
    obtain ⟨lang, hmem⟩ := List.exists_mem_of_ne_nil _ hlang
    obtain ⟨hcolumns, hkinds, -, -⟩ := hanswer lang hmem
    refine ⟨hkinds, fun _ => hcolumns, fun hempty hrefuses => ?_, fun lang hmem => ?_⟩
    · obtain ⟨-, -, hsupports, -⟩ := hanswer "" hempty
      exact hsupports ⟨rfl, hrefuses⟩
    · obtain ⟨-, -, -, hbuildable⟩ := hanswer lang hmem
      exact hbuildable
  · rintro ⟨hreadable, h⟩
    obtain ⟨block, hblock⟩ := ViewBlock.exists_ofFields_iff.mpr hreadable
    have hassemblable := h block hblock
    -- the absence of a model is validated under its main name only
    have hcolumns : ¬ block.LacksColumns := by
      by_cases hgiven : fs.get? ViewBlock.Field.noModel.main = none
      · exact hassemblable.columns hgiven
      · exact hsound.not_lacksColumns hblock hgiven
    refine ⟨block, (block_eq_ok_iff hdocument hfs).mpr hblock, hsound.lang_ne_nil hblock,
      fun lang hmem => (hassemble block hblock lang hmem).mpr
        ⟨hcolumns, hassemblable.kinds, ?_, hassemblable.buildable lang hmem⟩⟩
    rintro ⟨rfl, hrefuses⟩
    exact hassemblable.fallback hmem hrefuses

/-! ### View configs without errors -/

def plainEngine : Engine where
  templates := Shipped.templates

/-- The view configs of a model whose only block says this. -/
def ofBlock (fs : Entries Value) : ViewLibrary := [("posts", [("main", .obj fs)])]

def fieldsWith (componentKey : String) : Entries Value :=
  [("components", .obj [(componentKey, .obj [])]),
    ("columns", .arr [.str "id"]),
    ("lang", .arr [.str "en"])]

def blockWith (componentKey : String) : ViewBlock where
  components := [(componentKey, .obj [])]
  columns := ["id"]
  lang := ["en"]

theorem usable_iff_of_no_errors_table :
    ∃ block, (ofBlock (fieldsWith "table")).block "posts" "main" = .ok block ∧ block.lang ≠ [] ∧
      ∀ lang ∈ block.lang, ∃ p,
        plainEngine.assemble block [] (ViewRequest.inLang {} lang) = .ok (.payload p) := by
  have hfind : (ofBlock (fieldsWith "table")).find? "posts"
      = some [("main", .obj (fieldsWith "table"))] := by with_unfolding_all rfl
  have hwf : (Value.obj [("main", .obj (fieldsWith "table"))]).WellFormed := by
    simp [fieldsWith, Value.WellFormed, Value.WellFormedFields, Value.WellFormedElems]
  have hvalid : (validate Shipped.templates.kinds none "posts"
      [("main", .obj (fieldsWith "table"))]).errors = [] := by with_unfolding_all rfl
  have hread : ViewBlock.ofFields (fieldsWith "table") = .ok (blockWith "table") := by
    with_unfolding_all rfl
  refine (usable_iff_of_no_errors ⟨_, hwf⟩ none rfl rfl hfind rfl fun i hi => ?_).mpr
    ⟨ViewBlock.exists_ofFields_iff.mp ⟨_, hread⟩, fun block hblock => ?_⟩
  · rw [hvalid] at hi
    cases hi
  · obtain rfl := Checked.ok.inj (hread.symm.trans hblock)
    refine ⟨by decide, fun _ h => Bool.false_ne_true h.1, ?_, ?_⟩
    · intro hempty
      exact absurd hempty (by decide)
    · intro lang _ snapshot _ key hkey kind _
      obtain rfl := List.mem_singleton.mp hkey
      have hoverride : (blockWith "table").override "table" = [] := by with_unfolding_all rfl
      refine ⟨fun _ => ?_, fun _ _ _ _ => rfl⟩
      rw [hoverride]
      refine ⟨.inr rfl, fun token custom hget => ?_⟩
      cases hget

/-- What a block says that has no model, under the second name for that, and brings no columns. -/
def modellessFields : Entries Value :=
  [("no_model", .bool true), ("components", .obj [("meta", .obj [])]), ("lang", .arr [.str "en"])]

def modellessBlock : ViewBlock where
  components := [("meta", .obj [])]
  lang := ["en"]
  noModel := true

/--
Nothing at all is found in a block that has no model and no columns, when it says so under the
second name, but no request for it is answered. Neither is one for a component without template,
which is worth a warning.
-/
theorem unusable_without_errors :
    ((validate Shipped.templates.kinds none "posts" [("main", .obj modellessFields)]).errors = [] ∧
      (validate Shipped.templates.kinds none "posts" [("main", .obj modellessFields)]).warnings
        = [] ∧
      (ofBlock modellessFields).block "posts" "main" = .ok modellessBlock ∧
      "en" ∈ modellessBlock.lang ∧
      plainEngine.assemble modellessBlock [] (ViewRequest.inLang {} "en")
        = .error (.noColumns "")) ∧
    ((validate Shipped.templates.kinds none "posts"
        [("main", .obj (fieldsWith "chart"))]).errors = [] ∧
      (ofBlock (fieldsWith "chart")).block "posts" "main" = .ok (blockWith "chart") ∧
      "en" ∈ (blockWith "chart").lang ∧
      plainEngine.assemble (blockWith "chart") [] (ViewRequest.inLang {} "en")
        = .error (.noTemplates ["chart"])) := by
  refine ⟨⟨?_, ?_, ?_, List.mem_cons_self, ?_⟩, ?_, ?_, List.mem_cons_self, ?_⟩
  all_goals with_unfolding_all rfl

end ViewLibrary

end ViewAssembly
