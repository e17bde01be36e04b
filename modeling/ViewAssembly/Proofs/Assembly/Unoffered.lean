import ViewAssembly.Assembly.Engine
import ViewAssembly.Proofs.Template.Resolve

/-!
# Columns that are not offered

A column that is not offered in the language of a request gets no header, no form field and no
filter, and no data is asked for it. So nothing of its definition comes into the answer: all parts
that are built look at the columns as they are seen in the language, where of such a column only the
token is left (`Engine.assemble_seenIn`). Schemas that differ in such columns alone are answered
alike (`Engine.assemble_eq_of_same_offer`).
-/

namespace ViewAssembly

variable {lang : String}

/-! ### Columns as they are seen in a language -/

namespace Column

variable {column : Column}

/-- Does a column declare languages, but not this one? -/
def Excludes (column : Column) (lang : String) : Prop :=
  ∃ declared, column.lang = some declared ∧ ∀ l ∈ declared, Text.lower l ≠ Text.lower lang

lemma admits_eq_false_iff : column.admits lang = false ↔ column.Excludes lang := by
  rw [admits, Excludes]
  cases column.lang with
  | none => simp [Language.admits]
  | some declared => simp [Language.admits, Language.isDeclared, Text.sameLetters]

/-- A column of which nothing is said but that it is offered in no language. -/
def unoffered : Column := { lang := some [] }

/-- What is seen of a column in a language. -/
def seenIn (lang : String) (column : Column) : Column :=
  if column.admits lang then column else unoffered

lemma seenIn_of_admits (h : column.admits lang = true) : column.seenIn lang = column := if_pos h

lemma seenIn_of_excludes (h : column.Excludes lang) : column.seenIn lang = unoffered := by
  rw [seenIn, admits_eq_false_iff.mpr h, if_neg Bool.false_ne_true]

@[simp] lemma admits_seenIn : (column.seenIn lang).admits lang = column.admits lang := by
  rw [seenIn]
  split
  · rfl
  · next h => rw [Bool.eq_false_iff.mpr h]; rfl

end Column

namespace Snapshot

/-- The columns as they are seen in a language; their tokens are seen in every one. -/
def seenIn (lang : String) (snapshot : Snapshot) : Snapshot :=
  snapshot.mapValues fun _ column => column.seenIn lang

@[simp] lemma keys_seenIn (snapshot : Snapshot) :
    Entries.keys (snapshot.seenIn lang) = snapshot.keys := Entries.keys_mapValues snapshot

@[simp] lemma has_seenIn (snapshot : Snapshot) (token : String) :
    Entries.has (snapshot.seenIn lang) token = snapshot.has token :=
  Entries.has_mapValues snapshot token

@[simp] lemma get?_seenIn (snapshot : Snapshot) (token : String) :
    Entries.get? (snapshot.seenIn lang) token = (snapshot.get? token).map (Column.seenIn lang) :=
  Entries.get?_mapValues snapshot token

/-- Columns that differ only where the language is excluded look the same in it. -/
lemma seenIn_eq_of_forall₂ {s₁ s₂ : Snapshot}
    (h : List.Forall₂ (fun e₁ e₂ => e₁.1 = e₂.1 ∧
      (e₁.2 = e₂.2 ∨ (e₁.2.Excludes lang ∧ e₂.2.Excludes lang))) s₁ s₂) :
    s₁.seenIn lang = s₂.seenIn lang := by
  induction h with
  | nil => rfl
  | @cons e₁ e₂ s₁ s₂ he _ ih =>
    obtain ⟨htoken, hcolumn⟩ := he
    have hseen : e₁.2.seenIn lang = e₂.2.seenIn lang := by
      rcases hcolumn with heq | ⟨h₁, h₂⟩
      · rw [heq]
      · rw [Column.seenIn_of_excludes h₁, Column.seenIn_of_excludes h₂]
    simp only [seenIn, Entries.mapValues, List.map_cons] at ih ⊢
    rw [htoken, hseen, ih]

end Snapshot

lemma columnsToShow_seenIn (snapshot : Snapshot) (block component : Option (List Value)) :
    columnsToShow (snapshot.seenIn lang) block component
      = columnsToShow snapshot block component := by
  simp only [columnsToShow, Snapshot.keys_seenIn]

/-! ### Headers -/

namespace HeaderSource

/-- What headers are built from, as far as it is seen in their language. -/
def seen (s : HeaderSource) : HeaderSource := { s with snapshot := s.snapshot.seenIn s.lang }

lemma schemaHeader_seenIn (s : HeaderSource) (token : String) (column : Column) :
    s.schemaHeader token (column.seenIn s.lang) = s.schemaHeader token column := by
  cases h : column.admits s.lang with
  | true => rw [Column.seenIn_of_admits h]
  | false => simp [schemaHeader, h]

lemma header?_seen (s : HeaderSource) (token : String) :
    s.seen.header? token = s.header? token := by
  rw [header?, header?, seen, Snapshot.get?_seenIn]
  cases s.snapshot.get? token with
  | none => rfl
  | some column => exact schemaHeader_seenIn s token column

lemma addBrought_seen (s : HeaderSource) (tokens : List String) :
    s.seen.addBrought tokens = s.addBrought tokens := by
  simp only [addBrought, seen, Snapshot.has_seenIn]

lemma headers_seen (s : HeaderSource) (tokens : List String) :
    s.seen.headers tokens = s.headers tokens := by
  have hheader : s.seen.header? = s.header? := funext (header?_seen s)
  rw [headers, headers, addBrought_seen, hheader]
  rfl

end HeaderSource

/-! ### The parts that are built -/

namespace Context

variable (ctx : Context)

/-- What sections are built from, as far as it is seen in the language of the request. -/
def seen (ctx : Context) : Context := { ctx with snapshot := ctx.snapshot.seenIn ctx.lang }

lemma columns_seen : ctx.seen.columns = ctx.columns := columnsToShow_seenIn ..

lemma headers_seen : ctx.seen.headers = ctx.headers := by
  rw [headers, headers, columns_seen]
  exact congrArg _ (funext fun customizations => HeaderSource.headers_seen
    ⟨ctx.snapshot, ctx.lang, customizations, ctx.includeHidden⟩ ctx.columns)

lemma field?_seen (token : String) : ctx.seen.field? token = ctx.field? token := by
  rw [field?, field?, seen, Snapshot.get?_seenIn]
  cases ctx.snapshot.get? token with
  | none => rfl
  | some column =>
    cases h : column.admits ctx.lang with
    | true => rw [Option.map_some, Column.seenIn_of_admits h]
    | false => simp [h]

lemma fields_seen : ctx.seen.fields = ctx.fields := by
  have htokens : ctx.seen.fieldTokens = ctx.fieldTokens := columnsToShow_seenIn ..
  rw [fields, fields, htokens, funext (field?_seen ctx)]

lemma filter?_seenIn (token : String) (column : Column) :
    ctx.seen.filter? token (column.seenIn ctx.lang) = ctx.filter? token column := by
  cases h : column.admits ctx.lang with
  | true => rw [Column.seenIn_of_admits h]; rfl
  | false => simp [filter?, seen, h]

lemma filters_seen : ctx.seen.filters = ctx.filters := by
  rw [filters, filters]
  change (List.map _ ctx.snapshot).filterMap _ = _
  rw [List.filterMap_map]
  exact congrArg (List.filterMap · ctx.snapshot)
    (funext fun e => filter?_seenIn ctx e.1 e.2)

lemma linkedTokens_seen : ctx.seen.linkedTokens = ctx.linkedTokens := by
  rw [linkedTokens, linkedTokens, columns_seen]
  refine List.filter_congr fun token _ => ?_
  rw [seen, Snapshot.get?_seenIn]
  cases ctx.snapshot.get? token <;> simp

lemma datalink_seen : ctx.seen.datalink = ctx.datalink := by
  simp only [datalink, linkedTokens_seen]
  rfl

end Context

variable {ctx : Context} {builders : Entries Builder} {kind : String}

lemma Builder.build_seen (name : String) (b : Builder) :
    b.build ctx.seen kind name = b.build ctx kind name := by
  cases b with
  | headers => rw [build, build, Context.headers_seen]
  | fields => rw [build, build, Context.fields_seen]
  | filters => rw [build, build, Context.filters_seen]
  | pagination => rfl
  | datalink => rw [build, build, Context.datalink_seen]
  | buttons => rfl

lemma Template.resolve_seen (t : Template) :
    t.resolve builders ctx.seen = t.resolve builders ctx :=
  resolveDirectives_congr Builder.build_seen t.directives

/-! ### Answers -/

namespace Engine

variable {a : Engine} {block : ViewBlock} {r : ViewRequest}

lemma component_seen (ctx : Context) (languages : List String) (t : Template)
    (override : Entries Value) :
    a.component ctx.seen languages t override = a.component ctx languages t override := by
  rw [component, component, Template.resolve_seen]
  rfl

lemma sections_seen (ctx : Context) (ts : List (String × Template)) :
    a.sections block ctx.seen r ts = a.sections block ctx r ts := by
  induction ts with
  | nil => rfl
  | cons e ts ih =>
    obtain ⟨key, t⟩ := e
    rw [sections, sections, ih]
    -- what a component says about itself does not change what is seen of the columns
    exact congrArg (· >>= _)
      (component_seen (componentContext ctx r (block.override key)) block.lang t _)

lemma payload_seen (ctx : Context) (templates : Entries Template) :
    a.payload block ctx.seen r templates = a.payload block ctx r templates := by
  rw [payload, payload, sections_seen, Context.headers_seen, Context.filters_seen]
  rfl

/--
An answer is the same as if of each column only that were known which is seen in the language.
-/
theorem assemble_seenIn (a : Engine) (block : ViewBlock) (schema : Snapshot) (r : ViewRequest) :
    a.assemble block (schema.seenIn (r.chosenLang a.settings)) r = a.assemble block schema r := by
  cases hmodel : block.noModel with
  | true => simp only [assemble, snapshotFor, hmodel, if_true]
  | false =>
    simp only [assemble, snapshotFor, hmodel, Bool.false_eq_true, if_false]
    have hpayload (templates : Entries Template) :
        a.payload block (a.context block (schema.seenIn (r.chosenLang a.settings)) r) r templates
          = a.payload block (a.context block schema r) r templates :=
      payload_seen (a.context block schema r) templates
    simp only [bind, Except.bind, hpayload]

/--
Nothing of a column that excludes the language of a request comes into the answer: two schemas with
the same tokens in the same order, of which each has the same definition in both or one that
excludes the language in either, are answered alike.
-/
theorem assemble_eq_of_same_offer (a : Engine) (block : ViewBlock) (r : ViewRequest)
    {s₁ s₂ : Snapshot}
    (h : List.Forall₂ (fun e₁ e₂ => e₁.1 = e₂.1 ∧
      (e₁.2 = e₂.2 ∨ (e₁.2.Excludes (r.chosenLang a.settings) ∧
        e₂.2.Excludes (r.chosenLang a.settings)))) s₁ s₂) :
    a.assemble block s₁ r = a.assemble block s₂ r := by
  rw [← assemble_seenIn a block s₁ r, ← assemble_seenIn a block s₂ r,
    Snapshot.seenIn_eq_of_forall₂ h]

/-- Columns of which one is offered in `dv` alone, and what else is said about that one. -/
def dhivehiColumns (name : Column) : Snapshot :=
  [("id", { sortable := true }), ("name", { name with lang := some ["DV"] })]

def manyComponents : ViewBlock where
  components := [("table", .obj []), ("form", .obj []), ("filterSection", .obj [])]
  columns := ["name", "id"]
  columnCustomizations := [("name", [("order", .int 0)])]
  lang := ["en"]

/-- A column that is not offered may be hidden, have a label, or have a filter of its own. -/
theorem assemble_eq_of_same_offer_dhivehi :
    let a : Engine := { templates := Shipped.templates }
    let hidden := dhivehiColumns { hidden := true, formField := false }
    let labelled :=
      dhivehiColumns { label := some (.plain "Name"), filterable := some (.config []) }
    hidden ≠ labelled ∧
      a.assemble manyComponents hidden { lang := some "en" }
        = a.assemble manyComponents labelled { lang := some "en" } := by
  intro a hidden labelled
  have hexcludes (name : Column) : Column.Excludes { name with lang := some ["DV"] } "en" :=
    ⟨["DV"], rfl, by decide⟩
  have hne : hidden ≠ labelled := by simp [hidden, labelled, dhivehiColumns]
  refine ⟨hne, assemble_eq_of_same_offer a manyComponents _ ?_⟩
  exact .cons ⟨rfl, .inl rfl⟩ (.cons ⟨rfl, .inr ⟨hexcludes _, hexcludes _⟩⟩ .nil)

end Engine

end ViewAssembly
