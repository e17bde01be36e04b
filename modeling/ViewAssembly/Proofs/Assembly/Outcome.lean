import ViewAssembly.Assembly.Engine
import ViewAssembly.Proofs.Entries
import ViewAssembly.Proofs.Except

/-!
# What becomes of a request

A request for a block ends in one of five ways: the block has no model and brings no columns, some
requested component has no template, the block does not support the language, a malformed part of
the block stops the assembly, or there is a payload. The first three are decided by the block, the
request, the settings and the templates alone, and in this order (`Engine.assemble_outcome`).
-/

namespace ViewAssembly

/-- A block without model that brings no column definitions. -/
def ViewBlock.LacksColumns (b : ViewBlock) : Prop := b.noModel = true ∧ b.columnsSchema.getD [] = []

/-- A block that cannot answer in a language: there is no language, or none of the block's is it. -/
def ViewBlock.RefusesLang (b : ViewBlock) (lang : String) : Prop :=
  lang = "" ∨ ∀ l ∈ b.lang, Text.lower l ≠ Text.lower lang

lemma ViewBlock.supports_eq_false_iff {b : ViewBlock} {lang : String} :
    b.supports lang = false ↔ b.RefusesLang lang := by
  by_cases h : lang = "" <;> simp [supports, RefusesLang, Language.isDeclared, Text.sameLetters, h]

/-- A block answers in every language that it lists. -/
lemma ViewBlock.not_refusesLang {b : ViewBlock} {lang : String} (hempty : lang ≠ "")
    (h : lang ∈ b.lang) : ¬ b.RefusesLang lang := by
  rintro (hlang | hnone)
  · exact hempty hlang
  · exact hnone lang h rfl

/-! ### Templates for component keys -/

namespace TemplateLibrary

variable {library : TemplateLibrary} {keys : List String}

lemma require_of_missing (h : library.missing keys ≠ []) :
    library.require keys = .error (.noTemplates (library.missing keys)) := by
  unfold require
  split
  · next h' => exact absurd h' h
  · rfl

def pairs (library : TemplateLibrary) (keys : List String) : List (String × Template) :=
  keys.filterMap fun key => (library.find? key).map (key, ·)

lemma require_of_complete (h : library.missing keys = []) :
    library.require keys = .ok (.ofPairs (library.pairs keys)) := by
  unfold require
  rw [h]
  rfl

lemma isSome_find?_of_complete (h : library.missing keys = []) {key : String} (hk : key ∈ keys) :
    (library.find? key).isSome := by
  have hkey := List.filter_eq_nil_iff.mp h key hk
  cases hf : library.find? key with
  | none => simp [hf] at hkey
  | some t => rfl

lemma find?_of_mem_pairs {e : String × Template} (h : e ∈ library.pairs keys) :
    library.find? e.1 = some e.2 := by
  obtain ⟨key, -, hkey⟩ := List.mem_filterMap.mp h
  obtain ⟨t, ht, rfl⟩ := Option.map_eq_some_iff.mp hkey
  exact ht

lemma map_fst_pairs (h : library.missing keys = []) : (library.pairs keys).map Prod.fst = keys := by
  -- no key is missing means one fact for each key, which the induction can hand on
  have hall : ∀ key ∈ keys, (library.find? key).isSome := fun _ => isSome_find?_of_complete h
  clear h
  induction keys with
  | nil => rfl
  | cons key keys ih =>
    obtain ⟨t, ht⟩ := Option.isSome_iff_exists.mp (hall key List.mem_cons_self)
    have hrest := ih fun k hk => hall k (List.mem_cons_of_mem _ hk)
    rw [pairs, List.filterMap_cons_some (b := (key, t)) (by simp [ht]), List.map_cons]
    exact congrArg (key :: ·) hrest

/-- The required templates stand under the distinct keys, in the order of the requested ones. -/
lemma keys_ofPairs_pairs (h : library.missing keys = []) :
    (Entries.ofPairs (library.pairs keys)).keys = keys.eraseDups := by
  rw [Entries.keys_ofPairs, map_fst_pairs h]

lemma get?_ofPairs_pairs (h : library.missing keys = []) {key : String} (hk : key ∈ keys) :
    (Entries.ofPairs (library.pairs keys)).get? key = library.find? key :=
  Entries.get?_ofPairs_of_forall _ (fun _ => find?_of_mem_pairs) (by rwa [map_fst_pairs h])

lemma mem_ofPairs_pairs_iff (h : library.missing keys = []) {e : String × Template} :
    e ∈ Entries.ofPairs (library.pairs keys) ↔ e.1 ∈ keys ∧ library.find? e.1 = some e.2 := by
  constructor
  · intro he
    have hmem : e.1 ∈ keys := by
      rw [← List.mem_eraseDups, ← keys_ofPairs_pairs h]
      exact List.mem_map_of_mem he
    have hnodup : (Entries.ofPairs (library.pairs keys)).keys.Nodup :=
      keys_ofPairs_pairs h ▸ nodup_eraseDups keys
    exact ⟨hmem, (get?_ofPairs_pairs h hmem).symm.trans (Entries.get?_of_mem hnodup he)⟩
  · rintro ⟨hmem, hfind⟩
    exact Entries.mem_of_get? ((get?_ofPairs_pairs h hmem).trans hfind)

end TemplateLibrary

namespace Engine

variable {a : Engine} {block : ViewBlock} {schema : Snapshot} {r : ViewRequest}

/-! ### The columns that a block is assembled from -/

lemma snapshotFor_of_lacksColumns (h : block.LacksColumns) (name : String) :
    snapshotFor block schema name = .error (.noColumns name) := by
  obtain ⟨hm, hc⟩ := h
  unfold snapshotFor
  rw [if_pos hm]
  split
  · next hs => simp [hs] at hc
  · rfl

lemma exists_snapshotFor (h : ¬ block.LacksColumns) (name : String) :
    ∃ snapshot, snapshotFor block schema name = .ok snapshot := by
  unfold snapshotFor
  split
  · next hm =>
    split
    · exact ⟨_, rfl⟩
    · next hne =>
      refine absurd ⟨hm, ?_⟩ h
      match hs : block.columnsSchema with
      | none => rfl
      | some [] => rfl
      | some (column :: more) => exact absurd hs (hne column more)
  · exact ⟨_, rfl⟩

/-! ### The five ways to end -/

/-- The answer that a payload makes, or the refusal where something is malformed. -/
def answerOf : Except Malformed Payload → Except RequestError Answer
  | .ok p       => .ok (.payload p)
  | .error what => .error (.malformed what)

/--
The ways in which a request ends: at the columns, at the templates, at the language, or with what
the sections come to.
-/
inductive Ending (a : Engine) (block : ViewBlock) (schema : Snapshot) (r : ViewRequest) :
    Except RequestError Answer → Prop where
  | noColumns (h : block.LacksColumns) : Ending a block schema r (.error (.noColumns r.blockName))
  | noTemplates (h : ¬ block.LacksColumns) (hm : a.templates.missing (r.keys block) ≠ []) :
      Ending a block schema r (.error (.noTemplates (a.templates.missing (r.keys block))))
  | unsupported (h : ¬ block.LacksColumns) (hm : a.templates.missing (r.keys block) = [])
      (hl : block.RefusesLang (r.chosenLang a.settings)) :
      Ending a block schema r (.ok (.unsupported (r.chosenLang a.settings)))
  | assembled (h : ¬ block.LacksColumns) (hm : a.templates.missing (r.keys block) = [])
      (hl : ¬ block.RefusesLang (r.chosenLang a.settings)) (snapshot : Snapshot)
      (hs : snapshotFor block schema r.blockName = .ok snapshot) :
      Ending a block schema r (answerOf (a.payload block (a.context block snapshot r) r
        (.ofPairs (a.templates.pairs (r.keys block)))))

lemma assemble_ending (a : Engine) (block : ViewBlock) (schema : Snapshot) (r : ViewRequest) :
    Ending a block schema r (a.assemble block schema r) := by
  unfold assemble
  by_cases h : block.LacksColumns
  · rw [snapshotFor_of_lacksColumns h]
    exact .noColumns h
  obtain ⟨snapshot, hs⟩ : ∃ snapshot, snapshotFor block schema r.blockName = .ok snapshot :=
    exists_snapshotFor h r.blockName
  rw [hs]
  by_cases hm : a.templates.missing (r.keys block) = []
  · rw [TemplateLibrary.require_of_complete hm]
    simp only [bind, Except.bind]
    split
    · next hl =>
      exact .unsupported h hm (ViewBlock.supports_eq_false_iff.mp (by simpa using hl))
    · next hl =>
      have hl' := fun hr => hl (by simpa using ViewBlock.supports_eq_false_iff.mpr hr)
      convert Ending.assembled h hm hl' snapshot hs using 1
      unfold answerOf
      split <;> simp_all [pure, Except.pure, throw, throwThe, MonadExceptOf.throw]
  · rw [TemplateLibrary.require_of_missing hm]
    exact .noTemplates h hm

/-! ### The sections of a payload -/

def sectionOf (a : Engine) (block : ViewBlock) (ctx : Context) (r : ViewRequest) (key : String)
    (t : Template) : Except Malformed Value :=
  a.component (componentContext ctx r (block.override key)) block.lang t (block.override key)

lemma sections_cons (ctx : Context) (key : String) (t : Template) (ts : List (String × Template)) :
    a.sections block ctx r ((key, t) :: ts)
      = do
        let here ← a.sectionOf block ctx r key t
        let rest ← a.sections block ctx r ts
        return (key, here) :: rest := rfl

/-- Every template has its section, in the order of the templates. -/
lemma keys_sections {ctx : Context} {ts : List (String × Template)} {sections : Entries Value}
    (h : a.sections block ctx r ts = .ok sections) : sections.keys = ts.map Prod.fst := by
  induction ts generalizing sections with
  | nil => cases h; rfl
  | cons t ts ih =>
    obtain ⟨key, t⟩ := t
    obtain ⟨here, -, h⟩ := bind_eq_ok_iff.mp h
    obtain ⟨rest, hrest, h⟩ := bind_eq_ok_iff.mp h
    cases h
    exact congrArg (key :: ·) (ih hrest)

/-- The headers beside the sections, if the settings ask for them. -/
def headersBeside (a : Engine) (ctx : Context) : Except Malformed (Option Value) :=
  if a.settings.topLevelHeaders then ctx.headers.map fun hs => some (.arr (hs.map .obj))
  else .ok none

/-- A payload is made of the sections and of what stands beside them. -/
lemma payload_eq_ok_iff {ctx : Context} {ts : Entries Template} {p : Payload} :
    a.payload block ctx r ts = .ok p ↔
      a.sections block ctx r ts = .ok p.sections ∧ a.headersBeside ctx = .ok p.headers ∧
      p.filters = (if a.settings.topLevelFilters
        then some ((Value.arr ctx.filters).localize ctx.lang block.lang) else none) ∧
      p.pagination = if a.settings.topLevelPagination then some ctx.pagination else none := by
  obtain ⟨sections, headers, filters, pagination⟩ := p
  unfold payload headersBeside
  rw [bind_eq_ok_iff]
  cases a.settings.topLevelHeaders with
  | false =>
    simp only [Bool.false_eq_true, if_false, pure_bind]
    constructor
    · rintro ⟨_, hsections, h⟩
      cases h
      exact ⟨hsections, rfl, rfl, rfl⟩
    · rintro ⟨hsections, hheaders, rfl, rfl⟩
      cases hheaders
      exact ⟨_, hsections, rfl⟩
  | true =>
    simp only [if_true, pure_bind]
    constructor
    · rintro ⟨_, hsections, h⟩
      obtain ⟨hs, hhs, h⟩ := bind_eq_ok_iff.mp h
      cases h
      exact ⟨hsections, by rw [hhs]; rfl, rfl, rfl⟩
    · rintro ⟨hsections, hheaders, rfl, rfl⟩
      cases hctx : ctx.headers with
      | error what => rw [hctx] at hheaders; cases hheaders
      | ok hs =>
        rw [hctx] at hheaders
        cases hheaders
        exact ⟨_, hsections, rfl⟩

/-- There is a payload exactly if nothing ends the request before and the sections succeed. -/
lemma assemble_eq_payload_iff {p : Payload} :
    a.assemble block schema r = .ok (.payload p) ↔
      ¬ block.LacksColumns ∧ a.templates.missing (r.keys block) = [] ∧
      ¬ block.RefusesLang (r.chosenLang a.settings) ∧
      ∃ snapshot, snapshotFor block schema r.blockName = .ok snapshot ∧
        a.payload block (a.context block snapshot r) r
          (.ofPairs (a.templates.pairs (r.keys block))) = .ok p := by
  have hend := assemble_ending a block schema r
  -- each ending has its own outcome, so the outcome has to be a variable
  generalize a.assemble block schema r = x at hend ⊢
  cases hend with
  | noColumns h => simp [h]
  | noTemplates h hm => simp [hm]
  | unsupported h hm hl => simp [hl]
  | assembled h hm hl snapshot hs =>
    simp only [h, hm, hl, hs, not_false_eq_true, true_and, Except.ok.injEq, exists_eq_left']
    cases a.payload block (a.context block snapshot r) r _ <;> simp [answerOf]

/-- The keys of a payload's sections are the requested ones, each once. -/
lemma keys_of_assemble {p : Payload} (hp : a.assemble block schema r = .ok (.payload p)) :
    p.sections.keys = (r.keys block).eraseDups := by
  obtain ⟨-, hm, -, snapshot, -, hpayload⟩ := assemble_eq_payload_iff.mp hp
  rw [keys_sections (payload_eq_ok_iff.mp hpayload).1]
  exact TemplateLibrary.keys_ofPairs_pairs hm

/--
How a request ends. It fails for lack of columns exactly if the block has no model and brings no
columns; else for lack of templates exactly if some requested key has none, and then it names those
keys as they were requested; else it is answered by a message exactly if the block refuses the
language. Otherwise only malformed parts of the block can stop it, and the sections of those
requested components that the block declares stand in the payload once each, in the order in which
they were first requested.
-/
theorem assemble_outcome (a : Engine) (block : ViewBlock) (schema : Snapshot) (r : ViewRequest) :
    ((∃ name, a.assemble block schema r = .error (.noColumns name)) ↔ block.LacksColumns) ∧
    (¬ block.LacksColumns → ∀ missing,
      a.assemble block schema r = .error (.noTemplates missing) ↔
        missing ≠ [] ∧
          missing = (r.keys block).filter fun key => (a.templates.find? key).isNone) ∧
    (¬ block.LacksColumns → (∀ key ∈ r.keys block, (a.templates.find? key).isSome) →
      ((∃ message, (a.assemble block schema r).map Answer.toValue
          = .ok (.obj [("message", .str message), ("data", .arr [])])) ↔
        block.RefusesLang (r.chosenLang a.settings)) ∧
      (¬ block.RefusesLang (r.chosenLang a.settings) →
        (∀ e, a.assemble block schema r = .error e → ∃ what, e = .malformed what) ∧
        (∀ lang, a.assemble block schema r ≠ .ok (.unsupported lang)) ∧
        ∀ p, a.assemble block schema r = .ok (.payload p) →
          p.sections.keys.filter block.components.has
            = ((r.keys block).filter block.components.has).eraseDups)) := by
  have hkeys : ∀ p, a.assemble block schema r = .ok (.payload p) →
      p.sections.keys.filter block.components.has
        = ((r.keys block).filter block.components.has).eraseDups :=
    fun p hp => by rw [keys_of_assemble hp, eraseDups_filter]
  have hcomplete : (∀ key ∈ r.keys block, (a.templates.find? key).isSome) ↔
      a.templates.missing (r.keys block) = [] := by
    simp [TemplateLibrary.missing, List.filter_eq_nil_iff, Option.isSome_iff_ne_none]
  rw [hcomplete]
  change _ ∧ (_ → ∀ missing, _ ↔ _ ∧ missing = a.templates.missing (r.keys block)) ∧ _
  have hend := assemble_ending a block schema r
  generalize a.assemble block schema r = x at hend hkeys ⊢
  cases hend with
  | noColumns h =>
    exact ⟨⟨fun _ => h, fun _ => ⟨_, rfl⟩⟩, fun hn => absurd h hn, fun hn => absurd h hn⟩
  | noTemplates h hm =>
    refine ⟨⟨by simp, fun hc => absurd hc h⟩, fun _ missing => ⟨?_, ?_⟩, fun _ hn => absurd hn hm⟩
    · rintro hmissing
      cases hmissing
      exact ⟨hm, rfl⟩
    · rintro ⟨-, rfl⟩
      rfl
  | unsupported h hm hl =>
    refine ⟨⟨by simp, fun hc => absurd hc h⟩, fun _ missing => ⟨by simp, ?_⟩,
      fun _ _ => ⟨⟨fun _ => hl, fun _ => ⟨_, rfl⟩⟩, fun hn => absurd hl hn⟩⟩
    rintro ⟨hne, rfl⟩
    exact absurd hm hne
  | assembled h hm hl snapshot hs =>
    generalize a.payload block _ r _ = y at hkeys ⊢
    refine ⟨⟨?_, fun hc => absurd hc h⟩, fun _ missing => ⟨?_, ?_⟩,
      fun _ _ => ⟨⟨?_, fun hr => absurd hr hl⟩, fun _ => ⟨?_, ?_, hkeys⟩⟩⟩
    · cases y <;> simp [answerOf]
    · cases y <;> simp [answerOf]
    · rintro ⟨hne, rfl⟩
      exact absurd hm hne
    · cases y <;> simp [answerOf, Except.map, Answer.toValue, Payload.toFields]
    · rintro e he
      cases y with
      | ok p => cases he
      | error what => exact ⟨what, by cases he; rfl⟩
    · cases y <;> simp [answerOf]

end Engine

end ViewAssembly
