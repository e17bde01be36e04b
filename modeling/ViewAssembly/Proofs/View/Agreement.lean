import ViewAssembly.Proofs.Header.Resolvable
import ViewAssembly.Proofs.View.Block
import ViewAssembly.Proofs.View.References

/-!
# What validation doubts and what headers resolve

Validation and assembly have two notions of a column that a customization brings. For headers it is
one with a label or with data of its own. Validation asks for the way to show it or for the data,
and only where the column is listed nowhere: a listed one must be known. So the two agree on a
token only where these conditions meet (`ViewBlock.doubted_iff`).
-/

namespace ViewAssembly

open Customizations

/-! ### What a block says about columns -/

/-- Entries that are read as objects are the objects that they are. -/
lemma Value.eq_obj_of_readEntries? {v : Value} {es : Entries (Entries Value)}
    (h : v.readEntries? fields? = some es) : v = obj (es.mapValues fun _ fs => obj fs) := by
  obtain ⟨fs, hfs, hes⟩ := Option.bind_eq_some_iff.mp h
  obtain rfl := fields?_eq_some_iff.mp hfs
  refine congrArg obj ?_
  clear h hfs
  induction fs generalizing es with
  | nil => cases hes; rfl
  | cons e fs ih =>
    rw [List.mapM_cons] at hes
    obtain ⟨e', he, hes⟩ := Option.bind_eq_some_iff.mp hes
    obtain ⟨rest, hrest, hes⟩ := Option.bind_eq_some_iff.mp hes
    cases hes
    obtain ⟨gs, hgs, rfl⟩ := Option.map_eq_some_iff.mp he
    obtain ⟨k, w⟩ := e
    obtain rfl := fields?_eq_some_iff.mp hgs
    rw [ih hrest]
    rfl

namespace ViewBlock

variable {fs : Entries Value} {block : ViewBlock} {token : String}

/-- What a block says about a column. -/
def customization (block : ViewBlock) (token : String) : Entries Value :=
  entriesFor block.customizations token

/-- The customizations of columns that validation sees in a block, as it stands in its file. -/
def rootCustomizations (fs : Entries Value) : Entries Value :=
  (Rule.object? (.obj fs) "columnCustomizations").getD []

lemma isObj_of_get?_customizations (custom : Value)
    (h : block.customizations.get? token = some custom) : custom.isObj = true := by
  rw [customizations, Entries.get?_mapValues] at h
  obtain ⟨gs, -, rfl⟩ := Option.map_eq_some_iff.mp h
  rfl

/-- What validation sees about a column is what the block that was read says about it. -/
lemma get?_customizations (hblock : ofFields fs = .ok block) {custom : Value}
    (h : (rootCustomizations fs).get? token = some custom) :
    block.customizations.get? token = some custom := by
  obtain ⟨-, -, -, hread, -⟩ := ofFields_eq_ok_iff.mp hblock
  rw [rootCustomizations, Rule.object?] at h
  cases hv : (Value.obj fs).get? "columnCustomizations" with
  | none => rw [hv] at h; cases h
  | some v =>
    obtain rfl := Value.eq_obj_of_readEntries? (FieldName.reader_of_read hread hv)
    rw [hv] at h
    exact h

lemma nodup_keys_rootCustomizations (hfs : (Value.obj fs).WellFormed) :
    (rootCustomizations fs).keys.Nodup := by
  rw [rootCustomizations, Rule.object?]
  cases hobject : ((Value.obj fs).get? "columnCustomizations").bind Value.fields? with
  | none => exact List.nodup_nil
  | some cs =>
    obtain ⟨v, hv, hcs⟩ := Option.bind_eq_some_iff.mp hobject
    obtain rfl := Value.fields?_eq_some_iff.mp hcs
    exact (hfs.of_get? hv).nodup_keys

/-! ### Doubts about a block -/

/-- The report on a view config whose only block has a model is that on the block. -/
lemma validate_singleton {known columns : List String} {model name : String}
    (hmodel : ((Value.obj fs).filled? "noModel").isSome = false) :
    (validate known (some columns) model [(name, .obj fs)]).Doubts token ↔
      (Rule.block known (some columns) (.obj fs) name).Doubts token := by
  have hcolumns : Rule.columnsOf (some columns) (.obj fs) = some columns := by
    rw [Rule.columnsOf, hmodel, if_neg Bool.false_ne_true]
  have hobject : (Value.obj fs).isObj = true := rfl
  rw [validate_block, if_pos hobject, hcolumns]

/-- A used token is customized plainly if its customization brings no column on purpose. -/
lemma customizesPlainly_iff (hfs : (Value.obj fs).WellFormed) {custom : Entries Value}
    (hcustom : (rootCustomizations fs).get? token = some (.obj custom)) :
    Rule.CustomizesPlainly (.obj fs) token ↔ Rule.isCustom (.obj custom) = false := by
  constructor
  · rintro ⟨v, hmem, -, hplain⟩
    have hget := Entries.get?_of_mem (nodup_keys_rootCustomizations hfs) hmem
    cases hcustom.symm.trans hget
    exact hplain
  · exact fun hplain => ⟨.obj custom, Entries.mem_of_get? hcustom, rfl, hplain⟩

/-- Is a token used by a block, listed among its columns or customized by an object? -/
def Uses (fs : Entries Value) (token : String) : Prop :=
  token ∈ Rule.columnTexts (.obj fs) ∨
    ∃ custom, (rootCustomizations fs).get? token = some (.obj custom)

lemma doubts_validate_iff (fs : ReadObject) (hblock : ofFields fs = .ok block)
    (hmodel : ((Value.obj fs).filled? "noModel").isSome = false)
    (hrelated : Token.isRelated token = false) (hused : Uses fs token)
    (known columns : List String) (model name : String) :
    (validate known (some columns) model [(name, .obj fs)]).Doubts token ↔
      token ∉ columns ∧ (Rule.Lists (.obj fs) token ∨
        Rule.isCustom (.obj (block.customization token)) = false) := by
  rw [validate_singleton hmodel, Rule.doubts_block_iff]
  refine and_congr_right fun _ => ?_
  by_cases hlisted : Rule.Lists (.obj fs) token
  · exact iff_of_true (.inl ⟨hlisted, hrelated⟩) (.inl hlisted)
  · -- a token that is used and listed nowhere is customized where validation sees it
    obtain ⟨custom, hcustom⟩ := hused.resolve_left fun hroot => hlisted (.inl hroot)
    have hof : block.customization token = custom := by
      rw [customization, entriesFor, get?_customizations hblock hcustom]
      rfl
    rw [customizesPlainly_iff fs.property hcustom, hof]
    simp [hlisted]

/--
Validation doubts a token that a block uses exactly if no column of it is known and it is listed
somewhere or no column is brought on purpose. The token can have a header exactly if its column is
known or brought, and may be offered in some language. So doubt means that no column is known or
brought only where a column is known, or where one is brought exactly if it is brought on purpose
and listed nowhere.
-/
theorem doubted_iff (fs : ReadObject) (hblock : ofFields fs = .ok block)
    (hmodel : ((Value.obj fs).filled? "noModel").isSome = false)
    (hrelated : Token.isRelated token = false) (hused : Uses fs token) (snapshot : Snapshot)
    (known : List String) (model name : String) :
    ((validate known (some snapshot.keys) model [(name, .obj fs)]).Doubts token ↔
      token ∉ snapshot.keys ∧ (Rule.Lists (.obj fs) token ∨
        Rule.isCustom (.obj (block.customization token)) = false)) ∧
    (HeaderSource.Resolvable snapshot block.customizations token ↔
      (token ∈ snapshot.keys ∨ Brings (block.customization token)) ∧
        HeaderSource.Offerable snapshot block.customizations token) ∧
    (((validate known (some snapshot.keys) model [(name, .obj fs)]).Doubts token ↔
        token ∉ snapshot.keys ∧ ¬ Brings (block.customization token)) ↔
      token ∈ snapshot.keys ∨ (Brings (block.customization token) ↔
        ¬ Rule.Lists (.obj fs) token ∧
          Rule.isCustom (.obj (block.customization token)) = true)) := by
  have hdoubts :=
    doubts_validate_iff fs hblock hmodel hrelated hused known snapshot.keys model name
  refine ⟨hdoubts, HeaderSource.resolvable_iff isObj_of_get?_customizations, ?_⟩
  rw [hdoubts]
  by_cases hknown : token ∈ snapshot.keys
  · simp [hknown]
  · have hpurpose : Rule.Lists (.obj fs) token ∨
          Rule.isCustom (.obj (block.customization token)) = false ↔
        ¬ (¬ Rule.Lists (.obj fs) token ∧
          Rule.isCustom (.obj (block.customization token)) = true) := by
      rw [not_and_or, not_not, Bool.not_eq_true]
    simp only [hknown, not_false_eq_true, true_and, false_or]
    rw [hpurpose]
    exact not_iff_not.trans Iff.comm

/-! ### A customized column that is listed nowhere -/

/-- What a block says that customizes a column which it does not list. -/
def badgeFields (custom : Entries Value) : Entries Value :=
  [("components", .obj [("table", .obj [])]),
    ("columns", .arr [.str "id"]),
    ("columnCustomizations", .obj [("badge", .obj custom)]),
    ("lang", .arr [.str "en"])]

lemma wellFormed_badgeFields {custom : Entries Value} (h : (Value.obj custom).WellFormed) :
    (Value.obj (badgeFields custom)).WellFormed := by
  simp [badgeFields, Value.WellFormed, Value.WellFormedFields, Value.WellFormedElems] at h ⊢
  exact h

def badgeBlock (custom : Entries Value) : ViewBlock where
  components := [("table", .obj [])]
  columns := ["id"]
  columnCustomizations := [("badge", custom)]
  lang := ["en"]

lemma ofFields_badgeFields (custom : Entries Value) :
    ofFields (badgeFields custom) = .ok (badgeBlock custom) := by
  refine ofFields_eq_ok_iff.mpr ⟨?_, rfl, rfl, rfl, rfl, rfl, rfl, rfl, rfl, rfl⟩
  simp only [badgeFields, Entries.keys_cons, Entries.keys_nil, List.forall_mem_cons]
  decide

lemma not_lists_badgeFields (custom : Entries Value) :
    ¬ Rule.Lists (.obj (badgeFields custom)) "badge" := by
  rintro (hroot | ⟨e, he, hcomponent⟩)
  · exact absurd (List.mem_singleton.mp hroot) (by decide)
  · obtain rfl := List.mem_singleton.mp he
    cases hcomponent

/-- A column that names its data is brought on purpose, and gets a header. -/
theorem doubted_iff_columnData :
    ¬ (validate [] (some ["id"]) "posts"
        [("main", .obj (badgeFields [("columnData", .str "id")]))]).Doubts "badge" ∧
      HeaderSource.Resolvable [("id", {})]
        (badgeBlock [("columnData", .str "id")]).customizations "badge" := by
  have hwf : (Value.obj (badgeFields [("columnData", .str "id")])).WellFormed :=
    wellFormed_badgeFields (by simp [Value.WellFormed, Value.WellFormedFields])
  obtain ⟨hdoubts, hresolvable, -⟩ := doubted_iff ⟨_, hwf⟩ (ofFields_badgeFields _) rfl
    (show Token.isRelated "badge" = false by decide) (.inr ⟨_, rfl⟩) [("id", {})] [] "posts" "main"
  refine ⟨fun h => ?_, hresolvable.mpr ⟨.inr (.inr rfl), (Option.some_ne_none _).symm⟩⟩
  obtain ⟨-, hlisted | hplain⟩ := hdoubts.mp h
  · exact not_lists_badgeFields _ hlisted
  · cases hplain

/-- What a block says that lists a column and denies by a word that it has no model. -/
def denyingFields : Entries Value :=
  [("components", .obj [("table", .obj [])]),
    ("columns", .arr [.str "badge"]),
    ("lang", .arr [.str "en"]),
    ("noModel", .str "no")]

def denyingBlock : ViewBlock where
  components := [("table", .obj [])]
  columns := ["badge"]
  lang := ["en"]

/--
A column with nothing but a label is doubted, although it gets a header, and one with nothing but
the way to show it is not doubted, although it gets none. Neither is any column of a block that
denies by a word that it has no model.
-/
theorem doubts_and_headers_differ :
    ((validate [] (some ["id"]) "posts"
        [("main", .obj (badgeFields [("label", .str "Badge")]))]).Doubts "badge" ∧
      ofFields (badgeFields [("label", .str "Badge")])
        = .ok (badgeBlock [("label", .str "Badge")]) ∧
      Brings ((badgeBlock [("label", .str "Badge")]).customization "badge") ∧
      HeaderSource.Resolvable [("id", {})]
        (badgeBlock [("label", .str "Badge")]).customizations "badge") ∧
    (¬ (validate [] (some ["id"]) "posts"
        [("main", .obj (badgeFields [("displayType", .str "custom")]))]).Doubts "badge" ∧
      ofFields (badgeFields [("displayType", .str "custom")])
        = .ok (badgeBlock [("displayType", .str "custom")]) ∧
      ¬ Brings ((badgeBlock [("displayType", .str "custom")]).customization "badge") ∧
      ¬ HeaderSource.Resolvable [("id", {})]
        (badgeBlock [("displayType", .str "custom")]).customizations "badge") ∧
    (ofFields denyingFields = .ok denyingBlock ∧ denyingBlock.noModel = false ∧
      ¬ (validate ["table"] (some ["id"]) "posts" [("main", .obj denyingFields)]).Doubts "badge" ∧
      ¬ HeaderSource.Resolvable [("id", {})] denyingBlock.customizations "badge") := by
  have hwf (name text : String) : (Value.obj (badgeFields [(name, .str text)])).WellFormed :=
    wellFormed_badgeFields (by simp [Value.WellFormed, Value.WellFormedFields])
  have hdoubts (name text : String) :
      (validate [] (some ["id"]) "posts"
        [("main", .obj (badgeFields [(name, .str text)]))]).Doubts "badge" ↔ _ :=
    doubts_validate_iff ⟨_, hwf name text⟩ (ofFields_badgeFields _) rfl (by decide)
      (.inr ⟨_, rfl⟩) [] ["id"] "posts" "main"
  have hresolvable (block : ViewBlock) :
      HeaderSource.Resolvable [("id", {})] block.customizations "badge" ↔ _ :=
    HeaderSource.resolvable_iff isObj_of_get?_customizations
  have hread : ofFields denyingFields = .ok denyingBlock := by with_unfolding_all rfl
  have hquiet : (validate ["table"] (some ["id"]) "posts" [("main", .obj denyingFields)]).warnings
      = [] := by with_unfolding_all rfl
  refine ⟨⟨?_, ofFields_badgeFields _, .inl rfl, ?_⟩,
    ⟨fun h => ?_, ofFields_badgeFields _, ?_, fun h => ?_⟩, hread, rfl, fun h => ?_, fun h => ?_⟩
  · exact (hdoubts _ _).mpr ⟨by decide, .inr rfl⟩
  · exact (hresolvable _).mpr ⟨.inr (.inl rfl), (Option.some_ne_none _).symm⟩
  · obtain ⟨-, hlisted | hplain⟩ := (hdoubts _ _).mp h
    · exact not_lists_badgeFields _ hlisted
    · cases hplain
  · rintro (h | h) <;> cases h
  · obtain ⟨hknown | h | h, -⟩ := (hresolvable _).mp h
    · exact absurd hknown (by decide)
    · cases h
    · cases h
  · obtain ⟨i, hi, -⟩ := h
    rw [hquiet] at hi
    cases hi
  · obtain ⟨hknown | h | h, -⟩ := (hresolvable _).mp h
    · exact absurd hknown (by decide)
    · cases h
    · cases h

end ViewBlock

end ViewAssembly
