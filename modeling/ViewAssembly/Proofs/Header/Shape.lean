import ViewAssembly.Proofs.Entries
import ViewAssembly.Proofs.Except
import ViewAssembly.Proofs.Value.Basic
import ViewAssembly.Section.Context

/-!
# Customizations that headers can be built from

The customization of a column should be an object. Headers can be built from any other one only
where nothing is asked of it: when its column is not shown anyway, or when the schema does not know
the column and the customization brings none (`Context.isOk_headers_iff`).
-/

namespace ViewAssembly

open Customizations

/-! ### Columns that a customization brings -/

namespace Customizations

lemma entriesOf_of_not_isObj {v : Value} (h : v.isObj = false) :
    entriesOf v = if v.truthy then .error .customizations else .ok [] := by
  cases v <;> first | rfl | cases h

lemma isOk_entriesOf_iff {v : Value} :
    (entriesOf v).isOk = true ↔ v.isObj = true ∨ v.truthy = false := by
  cases hobj : v.isObj with
  | true => cases v <;> first | exact ⟨fun _ => .inl rfl, fun _ => rfl⟩ | cases hobj
  | false =>
    rw [entriesOf_of_not_isObj hobj]
    cases v.truthy <;> simp [Except.isOk, Except.toBool]

lemma ofValues_eq_ok_iff {v w : Value} {c : Customizations} :
    ofValues v w = .ok c ↔ entriesOf v = .ok c.block ∧ entriesOf w = .ok c.component := by
  rw [ofValues, bind_eq_ok_iff]
  constructor
  · rintro ⟨bs, hbs, h⟩
    obtain ⟨cs, hcs, h⟩ := bind_eq_ok_iff.mp h
    cases h
    exact ⟨hbs, hcs⟩
  · rintro ⟨hbs, hcs⟩
    exact ⟨c.block, hbs, bind_eq_ok_iff.mpr ⟨c.component, hcs, rfl⟩⟩

lemma get?_of_entriesOf {v : Value} {es : Entries Value} (h : entriesOf v = .ok es)
    (token : String) : v.get? token = es.get? token := by
  cases hobj : v.isObj with
  | true =>
    cases v <;> cases hobj
    cases h
    rfl
  | false =>
    rw [entriesOf_of_not_isObj hobj] at h
    split at h <;> cases h
    exact Value.get?_of_not_isObj hobj token

/-- Does a customization say nothing of a column, when asked for one? -/
def Silent (custom : Value) : Prop := ∀ name ∈ columnNames, mentions? name custom = some false

lemma bringsColumn_eq_ok_false_iff {token : String} {custom : Value} :
    bringsColumn token custom false = .ok false ↔ Silent custom := by
  simp only [Silent, columnNames, List.forall_mem_cons]
  cases custom <;> simp [bringsColumn, columnNames, mentions?]

lemma isOk_bringsColumn_of_isObj {token : String} {custom : Value} (h : custom.isObj = true)
    (known : Bool) : (bringsColumn token custom known).isOk = true := by
  cases known with
  | true => rfl
  | false => cases custom <;> first | rfl | cases h

end Customizations

namespace HeaderSource

variable {s : HeaderSource} {token : String} {tokens : List String}

/-- Does a customized token bring a column? -/
def brings (s : HeaderSource) (token : String) : Except Malformed Bool :=
  bringsColumn token (s.customizations.of token) (s.snapshot.has token)

lemma brings_of_has (h : s.snapshot.has token = true) : s.brings token = .ok false := by
  rw [brings, h]
  rfl

/-! ### The header of a token -/

/-- Is nothing asked of the customization of a token that is to be shown? -/
def Spares (s : HeaderSource) (token : String) : Prop :=
  match s.snapshot.get? token with
  | some column => (column.hidden && !s.includeHidden) = true ∨ column.admits s.lang = false
  | none        => Silent (s.customizations.of token)

lemma spares_iff_of_not_has (h : s.snapshot.has token = false) :
    s.Spares token ↔ s.brings token = .ok false := by
  have hnone : s.snapshot.get? token = none := by simpa [Entries.has] using h
  rw [Spares, hnone, brings, h, bringsColumn_eq_ok_false_iff]

lemma isOk_customEntries_iff (token : String) {custom : Value} :
    (customEntries token custom).isOk = true ↔ custom.isObj = true := by
  cases custom <;> exact Iff.rfl

lemma isOk_schemaHeader_iff {column : Column} :
    (s.schemaHeader token column).isOk = true ↔
      (s.customizations.of token).isObj = true ∨
        (column.hidden && !s.includeHidden) = true ∨ column.admits s.lang = false := by
  rw [schemaHeader]
  split
  · next h =>
    exact iff_of_true rfl (.inr (by simpa using h))
  · next h =>
    have hobj : (s.customizations.of token).isObj = true ∨
        (column.hidden && !s.includeHidden) = true ∨ column.admits s.lang = false ↔
          (s.customizations.of token).isObj = true := by
      rw [or_iff_left]
      simpa using h
    rw [isOk_bind_iff, hobj, ← isOk_customEntries_iff token, isOk_iff]
    exact exists_congr fun custom => and_iff_left rfl

lemma isOk_broughtHeader_of_isObj (h : (s.customizations.of token).isObj = true) :
    (s.broughtHeader token).isOk = true := by
  rw [broughtHeader]
  split
  · rfl
  · obtain ⟨custom, hcustom⟩ := isOk_iff.mp ((isOk_customEntries_iff token).mpr h)
    exact isOk_bind_iff.mpr ⟨custom, hcustom, rfl⟩

lemma isOk_broughtHeader_iff :
    (s.broughtHeader token).isOk = true ↔ (s.customizations.of token).isObj = true := by
  refine ⟨fun h => ?_, isOk_broughtHeader_of_isObj⟩
  by_contra hobj
  -- what is no object declares no languages, so that it is offered in every one
  have hadmits :
      Language.admits (Language.declaredBy (s.customizations.of token)) s.lang = true := by
    rw [Language.declaredBy, Value.get?_of_not_isObj (by simpa using hobj)]
    rfl
  rw [broughtHeader, hadmits] at h
  obtain ⟨custom, hcustom, -⟩ := isOk_bind_iff.mp h
  exact hobj ((isOk_customEntries_iff token).mp (isOk_iff.mpr ⟨custom, hcustom⟩))

/-- A token gets a header, or none, if its customization is an object or nothing is asked of it. -/
lemma isOk_header?_iff :
    (s.header? token).isOk = true ↔
      (s.customizations.of token).isObj = true ∨ s.Spares token := by
  rw [header?, Spares]
  cases s.snapshot.get? token with
  | some column => exact isOk_schemaHeader_iff
  | none =>
    simp only
    rw [isOk_bind_iff]
    constructor
    · rintro ⟨brought, hbrought, h⟩
      cases brought with
      | true => exact .inl (isOk_broughtHeader_iff.mp h)
      | false => exact .inr (bringsColumn_eq_ok_false_iff.mp hbrought)
    · rintro (hobj | hsilent)
      · obtain ⟨brought, hbrought⟩ := isOk_iff.mp (isOk_bringsColumn_of_isObj hobj false)
        refine ⟨brought, hbrought, ?_⟩
        cases brought with
        | true => exact isOk_broughtHeader_of_isObj hobj
        | false => rfl
      · exact ⟨false, bringsColumn_eq_ok_false_iff.mpr hsilent, rfl⟩

/-! ### The tokens of brought columns -/

/-- Take up a customized token if it brings a column and is not there yet. -/
def takeUp (s : HeaderSource) (tokens : List String) (token : String) :
    Except Malformed (List String) := do
  if tokens.contains token then return tokens
  let brought ← s.brings token
  return if brought then tokens ++ [token] else tokens

lemma addBrought_eq (s : HeaderSource) (tokens : List String) :
    s.addBrought tokens = s.customizations.tokens.foldlM s.takeUp tokens := rfl

lemma takeUp_eq_ok_iff {out : List String} :
    s.takeUp tokens token = .ok out ↔
      (token ∈ tokens ∧ out = tokens) ∨
      (token ∉ tokens ∧ s.brings token = .ok false ∧ out = tokens) ∨
      (token ∉ tokens ∧ s.brings token = .ok true ∧ out = tokens ++ [token]) := by
  rw [takeUp]
  by_cases hmem : token ∈ tokens
  · simp [hmem, pure, Except.pure, eq_comm]
  · simp only [List.contains_iff_mem, hmem, if_false, false_and, not_false_eq_true, true_and,
      false_or]
    rw [bind_eq_ok_iff]
    constructor
    · rintro ⟨brought, hbrought, h⟩
      cases brought <;> cases h
      · exact .inl ⟨hbrought, rfl⟩
      · exact .inr ⟨hbrought, rfl⟩
    · rintro (⟨hbrought, rfl⟩ | ⟨hbrought, rfl⟩)
      · exact ⟨false, hbrought, rfl⟩
      · exact ⟨true, hbrought, rfl⟩

/-- The tokens taken up are those that bring a column. -/
lemma mem_of_foldlM_takeUp {ts out : List String} (h : ts.foldlM s.takeUp tokens = .ok out) :
    token ∈ out ↔ token ∈ tokens ∨ (token ∈ ts ∧ s.brings token = .ok true) := by
  induction ts generalizing tokens with
  | nil => cases h; simp
  | cons t ts ih =>
    rw [List.foldlM_cons] at h
    obtain ⟨next, hnext, h⟩ := bind_eq_ok_iff.mp h
    rw [ih h, List.mem_cons]
    -- the first token is there already, or brings nothing, or is put behind the others
    rcases takeUp_eq_ok_iff.mp hnext with ⟨ht, rfl⟩ | ⟨-, hbrings, rfl⟩ | ⟨-, hbrings, rfl⟩
    · constructor
      · rintro (hmem | ⟨hmem, hb⟩)
        · exact .inl hmem
        · exact .inr ⟨.inr hmem, hb⟩
      · rintro (hmem | ⟨rfl | hmem, hb⟩)
        · exact .inl hmem
        · exact .inl ht
        · exact .inr ⟨hmem, hb⟩
    · refine or_congr_right (and_congr_left fun hb => ⟨.inr, ?_⟩)
      rintro (rfl | hmem)
      · rw [hbrings] at hb; cases hb
      · exact hmem
    · rw [List.mem_append, List.mem_singleton]
      constructor
      · rintro ((hmem | rfl) | ⟨hmem, hb⟩)
        · exact .inl hmem
        · exact .inr ⟨.inl rfl, hbrings⟩
        · exact .inr ⟨.inr hmem, hb⟩
      · rintro (hmem | ⟨rfl | hmem, hb⟩)
        · exact .inl (.inl hmem)
        · exact .inl (.inr rfl)
        · exact .inr ⟨hmem, hb⟩

lemma isOk_foldlM_takeUp_iff {ts : List String} :
    (ts.foldlM s.takeUp tokens).isOk = true ↔
      ∀ token ∈ ts, token ∈ tokens ∨ (s.brings token).isOk = true := by
  induction ts generalizing tokens with
  | nil => exact ⟨nofun, fun _ => rfl⟩
  | cons t ts ih =>
    rw [List.foldlM_cons, isOk_bind_iff, List.forall_mem_cons]
    constructor
    · rintro ⟨next, hnext, h⟩
      have hrest := ih.mp h
      rcases takeUp_eq_ok_iff.mp hnext with ⟨ht, rfl⟩ | ⟨-, hbrings, rfl⟩ | ⟨-, hbrings, rfl⟩
      · exact ⟨.inl ht, hrest⟩
      · exact ⟨.inr (isOk_iff.mpr ⟨_, hbrings⟩), hrest⟩
      · refine ⟨.inr (isOk_iff.mpr ⟨_, hbrings⟩), fun u hu => ?_⟩
        rcases hrest u hu with hmem | hb
        · rcases List.mem_append.mp hmem with hmem | hmem
          · exact .inl hmem
          · obtain rfl := List.mem_singleton.mp hmem
            exact .inr (isOk_iff.mpr ⟨_, hbrings⟩)
        · exact .inr hb
    · rintro ⟨ht, hrest⟩
      obtain ⟨next, hnext⟩ : ∃ next, s.takeUp tokens t = .ok next := by
        by_cases hmem : t ∈ tokens
        · exact ⟨_, takeUp_eq_ok_iff.mpr (.inl ⟨hmem, rfl⟩)⟩
        · obtain ⟨brought, hb⟩ := isOk_iff.mp (ht.resolve_left hmem)
          cases brought with
          | false => exact ⟨_, takeUp_eq_ok_iff.mpr (.inr (.inl ⟨hmem, hb, rfl⟩))⟩
          | true => exact ⟨_, takeUp_eq_ok_iff.mpr (.inr (.inr ⟨hmem, hb, rfl⟩))⟩
      refine ⟨next, hnext, ih.mpr fun u hu => (hrest u hu).imp_left fun hmem => ?_⟩
      rcases takeUp_eq_ok_iff.mp hnext with ⟨-, rfl⟩ | ⟨-, -, rfl⟩ | ⟨-, -, rfl⟩
      · exact hmem
      · exact hmem
      · exact List.mem_append_left _ hmem

/-! ### All headers -/

/-- Can the headers be built, whatever shape the customization of a token has? -/
def Fits (s : HeaderSource) (tokens : List String) (token : String) : Prop :=
  (s.customizations.of token).isObj = true ∨ s.Spares token ∨
    (token ∉ tokens ∧ s.snapshot.has token = true)

/-- Headers can be built exactly when the customization of every token fits. -/
lemma isOk_headers_iff :
    (s.headers tokens).isOk = true ↔
      ∀ token ∈ tokens ++ s.customizations.tokens, s.Fits tokens token := by
  rw [headers, isOk_bind_iff, addBrought_eq]
  constructor
  · rintro ⟨out, hout, h⟩ token htoken
    obtain ⟨hs, hhs, -⟩ := isOk_bind_iff.mp h
    -- whatever is shown or taken up gets a header, so its customization fits
    have hheader : token ∈ out → s.Fits tokens token := fun hmem =>
      (isOk_header?_iff.mp (isOk_mapM_iff.mp (isOk_iff.mpr ⟨hs, hhs⟩) token hmem)).imp_right .inl
    by_cases hshown : token ∈ tokens
    · exact hheader ((mem_of_foldlM_takeUp hout).mpr (.inl hshown))
    · have hcustom := (List.mem_append.mp htoken).resolve_left hshown
      -- a token that is only customized is asked for a column unless the schema has one
      by_cases hhas : s.snapshot.has token = true
      · exact .inr (.inr ⟨hshown, hhas⟩)
      · obtain ⟨brought, hbrings⟩ := isOk_iff.mp
          ((isOk_foldlM_takeUp_iff.mp (isOk_iff.mpr ⟨out, hout⟩) token hcustom).resolve_left hshown)
        cases brought with
        | true => exact hheader ((mem_of_foldlM_takeUp hout).mpr (.inr ⟨hcustom, hbrings⟩))
        | false => exact .inr (.inl ((spares_iff_of_not_has (by simpa using hhas)).mpr hbrings))
  · intro hfits
    obtain ⟨out, hout⟩ := isOk_iff.mp (isOk_foldlM_takeUp_iff.mpr fun token htoken => by
      by_cases hhas : s.snapshot.has token = true
      · exact .inr (isOk_iff.mpr ⟨_, brings_of_has hhas⟩)
      · rcases hfits token (List.mem_append_right _ htoken) with hobj | hspares | ⟨-, hhas'⟩
        · exact .inr (isOk_bringsColumn_of_isObj hobj _)
        · exact .inr (isOk_iff.mpr ⟨_, (spares_iff_of_not_has (by simpa using hhas)).mp hspares⟩)
        · exact absurd hhas' hhas)
    refine ⟨out, hout, ?_⟩
    have hall : ∀ token ∈ out, (s.header? token).isOk = true := by
      intro token htoken
      rcases (mem_of_foldlM_takeUp hout).mp htoken with hshown | ⟨hcustom, hbrings⟩
      · rcases hfits token (List.mem_append_left _ hshown) with hobj | hspares | ⟨hhidden, -⟩
        · exact isOk_header?_iff.mpr (.inl hobj)
        · exact isOk_header?_iff.mpr (.inr hspares)
        · exact absurd hshown hhidden
      · rcases hfits token (List.mem_append_right _ hcustom) with hobj | hspares | ⟨-, hhas⟩
        · exact isOk_header?_iff.mpr (.inl hobj)
        · exact isOk_header?_iff.mpr (.inr hspares)
        · rw [brings_of_has hhas] at hbrings
          cases hbrings
    obtain ⟨hs, hhs⟩ := isOk_iff.mp (isOk_mapM_iff.mpr hall)
    exact isOk_bind_iff.mpr ⟨hs, hhs, rfl⟩

end HeaderSource

/-! ### The headers of a component -/

namespace Customizations

lemma said_of_get? {es : Entries Value} {token : String} {custom : Value}
    (h : es.get? token = some custom) (htruthy : custom.truthy = true) :
    said es token = custom := by simp [said, h, Option.filter, htruthy]

/-- What a component says about a column is an object where it says nothing. -/
lemma get?_of_not_isObj_said {es : Entries Value} {token : String}
    (h : (said es token).isObj = false) :
    es.get? token = some (said es token) ∧ (said es token).truthy = true := by
  rw [said] at h ⊢
  cases hget : (es.get? token).filter Value.truthy with
  | none => rw [hget] at h; cases h
  | some custom => exact Option.filter_eq_some_iff.mp hget

lemma isObj_of (c : Customizations) (token : String) :
    (c.of token).isObj = (said c.component token).isObj := by
  rw [Customizations.of]
  cases said c.component token with
  | obj ps => cases said c.block token <;> rfl
  | _ => rfl

/-- What a component says about a column and is no object takes the place of what the block says. -/
lemma of_of_not_isObj {c : Customizations} {token : String}
    (h : (said c.component token).isObj = false) : c.of token = said c.component token := by
  rw [Customizations.of]
  generalize said c.component token = p at h ⊢
  cases p <;> first | rfl | cases h

end Customizations

namespace Context

variable {ctx : Context}

/-- Is nothing asked of what a component says about a column? -/
def PassesOver (ctx : Context) (token : String) (custom : Value) : Prop :=
  match ctx.snapshot.get? token with
  | some column =>
    token ∉ ctx.columns ∨ (column.hidden && !ctx.includeHidden) = true ∨
      column.admits ctx.lang = false
  | none        => Silent custom

/-- Is what a component says about columns such that headers can be built from it? -/
structure Customizable (ctx : Context) : Prop where
  whole : ctx.componentCustomizations.isObj = true ∨ ctx.componentCustomizations.truthy = false
  each : ∀ token custom, ctx.componentCustomizations.get? token = some custom →
    custom.truthy = true → custom.isObj = true ∨ ctx.PassesOver token custom

/-- The source of a component's headers, given what the block and the component customize. -/
def headerSource (ctx : Context) (block component : Entries Value) : HeaderSource :=
  ⟨ctx.snapshot, ctx.lang, ⟨block, component⟩, ctx.includeHidden⟩

lemma fits_headerSource_iff {block component : Entries Value} {token : String} :
    (ctx.headerSource block component).Fits ctx.columns token ↔
      (said component token).isObj = true ∨ ctx.PassesOver token (said component token) := by
  by_cases hobj : (said component token).isObj = true
  · exact iff_of_true (.inl ((isObj_of _ token).trans hobj)) (.inl hobj)
  · have hof : (ctx.headerSource block component).customizations.of token = said component token :=
      of_of_not_isObj (show (said component token).isObj = false by simpa using hobj)
    rw [HeaderSource.Fits, HeaderSource.Spares, hof, or_iff_right hobj, or_iff_right hobj,
      PassesOver, Entries.has]
    change (match ctx.snapshot.get? token with | some _ => _ | none => _) ∨
      (_ ∧ (ctx.snapshot.get? token).isSome = true) ↔ _
    cases ctx.snapshot.get? token with
    | some column => exact or_comm.trans (or_congr_left (and_iff_left rfl))
    | none => exact or_iff_left (by simp)

lemma isOk_headerSource_iff {block component : Entries Value} :
    ((ctx.headerSource block component).headers ctx.columns).isOk = true ↔
      ∀ token custom, component.get? token = some custom → custom.truthy = true →
        custom.isObj = true ∨ ctx.PassesOver token custom := by
  rw [HeaderSource.isOk_headers_iff]
  constructor
  · intro hfits token custom hget htruthy
    have hmem : token ∈ (ctx.headerSource block component).customizations.tokens :=
      List.mem_append_right _ (List.mem_map_of_mem (Entries.mem_of_get? hget))
    have htoken := fits_headerSource_iff.mp (hfits token (List.mem_append_right _ hmem))
    rwa [said_of_get? hget htruthy] at htoken
  · intro h token _
    refine fits_headerSource_iff.mpr ?_
    by_cases hobj : (said component token).isObj = true
    · exact .inl hobj
    · obtain ⟨hget, htruthy⟩ := get?_of_not_isObj_said (by simpa using hobj)
      exact h token _ hget htruthy

/-- The headers of a component can be built exactly when it customizes columns as it should. -/
lemma isOk_headers_iff (hblock : ctx.blockCustomizations.isObj = true) :
    ctx.headers.isOk = true ↔ ctx.Customizable := by
  rw [headers, isOk_bind_iff]
  constructor
  · rintro ⟨c, hc, h⟩
    obtain ⟨-, hcs⟩ := ofValues_eq_ok_iff.mp hc
    refine ⟨isOk_entriesOf_iff.mp (isOk_iff.mpr ⟨_, hcs⟩), fun token custom hget => ?_⟩
    exact isOk_headerSource_iff.mp h token custom (get?_of_entriesOf hcs token ▸ hget)
  · rintro ⟨hwhole, heach⟩
    obtain ⟨bs, hbs⟩ := isOk_iff.mp (isOk_entriesOf_iff.mpr (.inl hblock))
    obtain ⟨cs, hcs⟩ := isOk_iff.mp (isOk_entriesOf_iff.mpr hwhole)
    have hc : ofValues ctx.blockCustomizations ctx.componentCustomizations = .ok ⟨bs, cs⟩ :=
      ofValues_eq_ok_iff.mpr ⟨hbs, hcs⟩
    refine ⟨⟨bs, cs⟩, hc, isOk_headerSource_iff.mpr fun token custom hget => ?_⟩
    exact heach token custom ((get?_of_entriesOf hcs token).trans hget)

end Context

end ViewAssembly
