import ViewAssembly.Proofs.Entries
import ViewAssembly.Proofs.Except
import ViewAssembly.Shipped.Templates
import ViewAssembly.Template.Resolve

/-!
# Drafts of components

Of all the parts that a template can ask for, only headers can fail to be built. The draft holds,
under each name of the template, what its directive comes to (`get?_of_resolveDirectives`).
-/

namespace ViewAssembly

variable {builders : Entries Builder} {ctx : Context} {kind : String}

/-! ### Parts that can fail -/

namespace Builder

lemma isOk_build_iff (ctx : Context) (kind name : String) (b : Builder) :
    (b.build ctx kind name).isOk = true ↔ b ≠ .headers ∨ ctx.headers.isOk = true := by
  cases b with
  | headers =>
    rw [or_iff_right (by simp), build, isOk_bind_iff, isOk_iff]
    exact exists_congr fun hs => and_iff_left rfl
  | _ => exact iff_of_true rfl (.inl (by simp))

lemma get?_byName_eq_headers_iff {name : String} :
    byName.get? name = some .headers ↔ name = "headers" := by
  constructor
  · intro h
    have hmem := Entries.mem_of_get? h
    simpa [byName] using hmem
  · rintro rfl
    rfl

end Builder

mutual

/-- Does a directive ask for headers, under its name or under one inside it? -/
def asksForHeaders (name : String) : Value → Bool
  | .obj ds => asksForHeadersFields ds
  | .str s  => name == "headers" && (Value.str s).saysOn
  | _       => false

def asksForHeadersFields : List (String × Value) → Bool
  | []              => false
  | (name, v) :: ds => asksForHeaders name v || asksForHeadersFields ds

end

mutual

theorem isOk_resolveDirective_iff {name : String} {v : Value} :
    (resolveDirective Builder.byName ctx kind name v).isOk = true ↔
      (asksForHeaders name v = true → ctx.headers.isOk = true) := by
  match v with
  | .obj ds =>
    rw [resolveDirective, isOk_bind_iff, asksForHeaders, ← isOk_resolveDirectives_iff, isOk_iff]
    exact exists_congr fun out => and_iff_left rfl
  | .str s =>
    rw [resolveDirective, asksForHeaders]
    by_cases hon : (Value.str s).saysOn = true
    · rw [if_pos hon, hon, Bool.and_true, beq_iff_eq, ← Builder.get?_byName_eq_headers_iff]
      cases Builder.byName.get? name with
      | none => exact iff_of_true rfl nofun
      | some builder =>
        simp only
        rw [isOk_bind_iff, Option.some.injEq, ← not_ne_iff, ← or_iff_not_imp_left,
          ← Builder.isOk_build_iff ctx kind name, isOk_iff]
        exact exists_congr fun out => and_iff_left rfl
    · have hresolved : (if (Value.str s).saysOff = true then .ok none
          else .ok (some (.str s)) : Except Malformed (Option Value)).isOk = true := by
        split <;> rfl
      rw [if_neg hon]
      exact iff_of_true hresolved (by simp [hon])
  | .null | .bool _ | .int _ | .float _ | .arr _ | .shown _ => exact iff_of_true rfl nofun

theorem isOk_resolveDirectives_iff {ds : Entries Value} :
    (resolveDirectives Builder.byName ctx kind ds).isOk = true ↔
      (asksForHeadersFields ds = true → ctx.headers.isOk = true) := by
  match ds with
  | [] => exact iff_of_true rfl nofun
  | (name, v) :: ds =>
    rw [resolveDirectives, asksForHeadersFields, Bool.or_eq_true, or_imp,
      ← isOk_resolveDirective_iff, ← isOk_resolveDirectives_iff, isOk_bind_iff]
    constructor
    · rintro ⟨entry, hentry, h⟩
      obtain ⟨rest, hrest, -⟩ := isOk_bind_iff.mp h
      exact ⟨isOk_iff.mpr ⟨entry, hentry⟩, isOk_iff.mpr ⟨rest, hrest⟩⟩
    · rintro ⟨hv, hds⟩
      obtain ⟨entry, hentry⟩ := isOk_iff.mp hv
      obtain ⟨rest, hrest⟩ := isOk_iff.mp hds
      exact ⟨entry, hentry, isOk_bind_iff.mpr ⟨rest, hrest, rfl⟩⟩

end

/-! ### Drafts from two contexts -/

section Congr

variable {ctx' : Context}

mutual

theorem resolveDirective_congr
    (h : ∀ name (b : Builder), b.build ctx kind name = b.build ctx' kind name) (name : String)
    (v : Value) :
    resolveDirective builders ctx kind name v = resolveDirective builders ctx' kind name v := by
  match v with
  | .obj ds => rw [resolveDirective, resolveDirective, resolveDirectives_congr h ds]
  | .str s => simp only [resolveDirective, h]
  | .null | .bool _ | .int _ | .float _ | .arr _ | .shown _ => rfl

/-- A draft depends on its context only by the parts that are built from it. -/
theorem resolveDirectives_congr
    (h : ∀ name (b : Builder), b.build ctx kind name = b.build ctx' kind name)
    (ds : List (String × Value)) :
    resolveDirectives builders ctx kind ds = resolveDirectives builders ctx' kind ds := by
  match ds with
  | [] => rfl
  | (name, v) :: ds =>
    rw [resolveDirectives, resolveDirectives, resolveDirective_congr h name v,
      resolveDirectives_congr h ds]

end

end Congr

/-! ### Entries of a draft -/

/-- Under each name of a template the draft holds what its directive comes to. -/
lemma get?_of_resolveDirectives {ds draft : Entries Value}
    (h : resolveDirectives builders ctx kind ds = .ok draft) (hds : ds.keys.Nodup) (n : String) :
    match ds.get? n with
    | none   => draft.get? n = none
    | some v => resolveDirective builders ctx kind n v = .ok (draft.get? n) := by
  induction ds generalizing draft with
  | nil => cases h; rfl
  | cons d ds ih =>
    obtain ⟨k, v⟩ := d
    obtain ⟨hk, hds⟩ := List.nodup_cons.mp hds
    rw [resolveDirectives] at h
    obtain ⟨entry, hentry, h⟩ := bind_eq_ok_iff.mp h
    obtain ⟨rest, hrest, h⟩ := bind_eq_ok_iff.mp h
    cases h
    have ih := ih hrest hds
    rw [Entries.get?_cons, Entries.get?_append]
    by_cases hkn : k = n
    · -- the name comes only once
      subst hkn
      rw [Entries.get?_eq_none_iff.mpr hk] at ih
      rw [if_pos rfl]
      simp only at ih ⊢
      rw [ih, hentry]
      cases entry <;> simp
    · rw [if_neg hkn]
      have hentry : Entries.get? (entry.map (k, ·)).toList n = none := by
        cases entry <;> simp [Entries.get?_cons, hkn]
      rw [hentry]
      exact ih

/-! ### The shipped templates -/

namespace Shipped

def templateOf : ComponentKind → Template
  | .table         => tableTemplate
  | .form          => formTemplate
  | .toolbar       => toolbarTemplate
  | .filterSection => filterSectionTemplate
  | .«meta»        => metaTemplate

lemma find?_templates (key : String) :
    TemplateLibrary.find? templates key = (ComponentKind.ofKey? key).map templateOf := by
  have hkind (kind : ComponentKind) :
      Entries.get? templates kind.name = some (templateOf kind) := by cases kind <;> rfl
  rw [TemplateLibrary.find?]
  cases ComponentKind.ofKey? key with
  | none => rfl
  | some kind => exact hkind kind

/-- No template is missing exactly if every component key asks for some kind. -/
lemma missing_templates_eq_nil_iff {keys : List String} :
    TemplateLibrary.missing templates keys = [] ↔
      ∀ key ∈ keys, (ComponentKind.ofKey? key).isSome = true := by
  simp [TemplateLibrary.missing, List.filter_eq_nil_iff, find?_templates,
    Option.isSome_iff_ne_none]

lemma nodup_keys_templateOf (kind : ComponentKind) : (templateOf kind).directives.keys.Nodup := by
  cases kind <;> decide

/-- Of the shipped templates, that of tables asks for headers. -/
lemma asksForHeaders_templateOf (kind : ComponentKind) :
    asksForHeadersFields (templateOf kind).directives = true ↔ kind = .table := by
  cases kind with
  | table => exact iff_of_true rfl rfl
  | _ => exact iff_of_false (by decide) (by simp)

/-- The headers of a table's draft are built. -/
lemma headers_of_resolve_table {draft : Entries Value}
    (h : tableTemplate.resolve Builder.byName ctx = .ok draft) :
    ∃ hs, ctx.headers = .ok hs ∧ draft.get? "headers" = some (.arr (hs.map .obj)) := by
  have hget := get?_of_resolveDirectives h (nodup_keys_templateOf .table) "headers"
  have hbuild : (Builder.headers.build ctx "table" "headers" >>= fun v => .ok (some v))
      = .ok (draft.get? "headers") := hget
  obtain ⟨v, hv, hsome⟩ := bind_eq_ok_iff.mp hbuild
  obtain ⟨hs, hhs, hbuilt⟩ := bind_eq_ok_iff.mp hv
  cases hbuilt
  exact ⟨hs, hhs, (Except.ok.inj hsome).symm⟩

/-- The draft of a component has headers that were built, or none. -/
lemma headers_of_resolve {kind : ComponentKind} {draft : Entries Value}
    (h : (templateOf kind).resolve Builder.byName ctx = .ok draft) :
    draft.get? "headers" = none ∨
      ∃ hs : List Header, draft.get? "headers" = some (.arr (hs.map .obj)) := by
  have hget := get?_of_resolveDirectives h (nodup_keys_templateOf kind) "headers"
  cases kind with
  | table =>
    obtain ⟨hs, -, hbuilt⟩ := headers_of_resolve_table h
    exact .inr ⟨hs, hbuilt⟩
  | «meta» => exact .inl (Except.ok.inj hget).symm
  | form | toolbar | filterSection => exact .inl hget

end Shipped

end ViewAssembly
