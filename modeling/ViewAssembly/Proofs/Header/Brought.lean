import ViewAssembly.Proofs.Header.Visible

/-!
# Columns that only customizations bring

A component that lists an empty list of columns shows no column of the schema, but the columns that
customizations bring it shows all the same. So it has no headers exactly if none is brought
(`Context.headers_of_no_columns`).
-/

namespace ViewAssembly

open Customizations

namespace Context

variable {ctx : Context} {c : Customizations}

/--
Do the customizations bring a column to a component: one that the schema does not know and that is
offered in the language?
-/
def IsBrought (ctx : Context) (c : Customizations) (token : String) : Prop :=
  token ∈ c.tokens ∧ ctx.snapshot.get? token = none ∧ Brings (c.merged token) ∧
    Language.admits (Language.declaredBy (.obj (c.merged token))) ctx.lang = true

lemma columns_eq_nil (hcolumns : ctx.componentColumns = some []) : ctx.columns = [] := by
  rw [columns, hcolumns]
  rfl

/-- Without listed columns, those that are shown are the ones that customizations bring. -/
lemma shows_iff_isBrought (hcolumns : ctx.componentColumns = some []) (token : String) :
    ctx.Shows c token ↔ ctx.IsBrought c token := by
  rw [Shows, IsBrought, columns_eq_nil hcolumns]
  cases ctx.snapshot.get? token <;> simp

/-- There are no headers exactly if no column is shown. -/
lemma headers_eq_nil_iff {hs : List Header} (hplain : c.Plain)
    (hc : ofValues ctx.blockCustomizations ctx.componentCustomizations = .ok c)
    (h : ctx.headers = .ok hs) : hs = [] ↔ ∀ token, ¬ ctx.Shows c token := by
  rw [headers_eq hc] at h
  rw [List.eq_nil_iff_forall_not_mem]
  constructor
  · intro hnone token hshows
    obtain ⟨htoken, g, hg⟩ := (shows_iff hplain).mp hshows
    exact hnone _ ((HeaderSource.mem_headers_iff h).mpr ⟨token, g, htoken, hg, rfl⟩)
  · intro hnone x hx
    obtain ⟨token, g, htoken, hg, -⟩ := (HeaderSource.mem_headers_iff h).mp hx
    exact hnone token ((shows_iff hplain).mpr ⟨htoken, g, hg⟩)

/--
A component that lists an empty list of columns has no headers exactly if its customizations and
those of the block bring it no column, whatever the block lists.
-/
theorem headers_of_no_columns (hcolumns : ctx.componentColumns = some [])
    (hc : ofValues ctx.blockCustomizations ctx.componentCustomizations = .ok c)
    (hplain : c.Plain) :
    ∃ hs, ctx.headers = .ok hs ∧ (hs = [] ↔ ∀ token, ¬ ctx.IsBrought c token) := by
  obtain ⟨hs, hhs⟩ := exists_headers hc hplain
  refine ⟨hs, hhs, (headers_eq_nil_iff hplain hc hhs).trans ?_⟩
  exact forall_congr' fun token => not_congr (shows_iff_isBrought hcolumns token)

/-- A component without columns, beside a block that lists one and labels another. -/
def bareContext (snapshot : Snapshot) : Context where
  snapshot := snapshot
  blockColumns := some [.str "id"]
  blockCustomizations := .obj badgeCustomizations.block
  componentColumns := some []

/-- Where the schema knows the labelled column, nothing is brought and there are no headers. -/
theorem headers_of_no_columns_badge :
    (bareContext [("id", {}), ("badge", {})]).componentColumns = some [] ∧
      (bareContext [("id", {}), ("badge", {})]).headers = .ok [] := by
  obtain ⟨hs, hhs, hnone⟩ := @headers_of_no_columns
    (bareContext [("id", {}), ("badge", {})]) _ rfl rfl plain_badgeCustomizations
  refine ⟨rfl, hhs.trans (congrArg Except.ok (hnone.mpr ?_))⟩
  rintro token ⟨htoken, hunknown, -⟩
  obtain rfl := List.mem_singleton.mp htoken
  cases hunknown

/-- An empty list of columns does not keep away the header of a column that is brought. -/
theorem headers_beside_no_columns :
    (bareContext [("id", {})]).componentColumns = some [] ∧
      (bareContext [("id", {})]).headers ≠ .ok [] := by
  obtain ⟨hs, hhs⟩ := @exists_headers (bareContext [("id", {})]) _ rfl plain_badgeCustomizations
  refine ⟨rfl, fun hempty => ?_⟩
  have hnil : hs = [] := Except.ok.inj (hhs.symm.trans hempty)
  have hnone := (headers_eq_nil_iff plain_badgeCustomizations rfl hhs).mp hnil "badge"
  refine hnone ((shows_iff_isBrought rfl "badge").mpr ?_)
  exact ⟨List.mem_cons_self, rfl, .inl rfl, rfl⟩

end Context

end ViewAssembly
