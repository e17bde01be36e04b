import ViewAssembly.Proofs.Header.Shape

/-!
# Customizations that stop headers

Where headers cannot be built, the error names what is at fault: the customizations of a component
as a whole, or that of one column (`Context.miscustomizes_of_headers_eq_error`).
-/

namespace ViewAssembly

open Customizations

variable {what : Malformed}

namespace Customizations

lemma entriesOf_eq_error_iff {v : Value} :
    entriesOf v = .error what ↔ what = .customizations ∧ v.isObj = false ∧ v.truthy = true := by
  cases hobj : v.isObj with
  | true =>
    obtain ⟨fs, rfl⟩ := Value.isObj_iff.mp hobj
    simp [entriesOf]
  | false =>
    rw [entriesOf_of_not_isObj hobj]
    cases v.truthy <;> simp [eq_comm]

lemma eq_of_bringsColumn_eq_error {token : String} {custom : Value} {known : Bool}
    (h : bringsColumn token custom known = .error what) : what = .customization token := by
  rw [bringsColumn] at h
  split at h
  · cases h
  · split at h <;> cases h
    rfl

end Customizations

namespace HeaderSource

variable {s : HeaderSource} {token : String} {tokens : List String}

lemma eq_of_customEntries_eq_error {custom : Value} (h : customEntries token custom = .error what) :
    what = .customization token := by
  cases custom <;> cases h <;> rfl

lemma eq_of_schemaHeader_eq_error {column : Column}
    (h : s.schemaHeader token column = .error what) : what = .customization token := by
  rw [schemaHeader] at h
  split at h
  · cases h
  · rcases bind_eq_error_iff.mp h with hcustom | ⟨custom, -, h⟩
    · exact eq_of_customEntries_eq_error hcustom
    · cases h

lemma eq_of_broughtHeader_eq_error (h : s.broughtHeader token = .error what) :
    what = .customization token := by
  rw [broughtHeader] at h
  split at h
  · cases h
  · rcases bind_eq_error_iff.mp h with hcustom | ⟨custom, -, h⟩
    · exact eq_of_customEntries_eq_error hcustom
    · cases h

lemma eq_of_header?_eq_error (h : s.header? token = .error what) : what = .customization token := by
  rw [header?] at h
  split at h
  · exact eq_of_schemaHeader_eq_error h
  · rcases bind_eq_error_iff.mp h with hbrings | ⟨brought, -, h⟩
    · exact eq_of_bringsColumn_eq_error hbrings
    · split at h
      · exact eq_of_broughtHeader_eq_error h
      · cases h

/-- A token whose header cannot be told does not fit. -/
lemma not_fits_of_header?_eq_error (h : s.header? token = .error what)
    (hmem : token ∈ tokens ∨ s.brings token = .ok true) : ¬ s.Fits tokens token := by
  have hheader : ¬ (s.header? token).isOk = true := by rw [h]; exact Bool.false_ne_true
  rintro (hobj | hspares | ⟨hshown, hhas⟩)
  · exact hheader (isOk_header?_iff.mpr (.inl hobj))
  · exact hheader (isOk_header?_iff.mpr (.inr hspares))
  · rw [brings_of_has hhas] at hmem
    simp [hshown] at hmem

/-- A token of which it cannot be told whether it brings a column does not fit. -/
lemma not_fits_of_brings_eq_error (h : s.brings token = .error what) : ¬ s.Fits tokens token := by
  have hhas : s.snapshot.has token = false := by
    by_contra hhas
    rw [brings_of_has (by simpa using hhas)] at h
    cases h
  rintro (hobj | hspares | ⟨-, hhas'⟩)
  · obtain ⟨brought, hbrought⟩ := isOk_iff.mp (isOk_bringsColumn_of_isObj hobj _)
    cases h.symm.trans hbrought
  · cases h.symm.trans ((spares_iff_of_not_has hhas).mp hspares)
  · cases hhas.symm.trans hhas'

lemma exists_brings_of_foldlM_takeUp_eq_error {ts : List String}
    (h : ts.foldlM s.takeUp tokens = .error what) :
    ∃ token ∈ ts, s.brings token = .error what := by
  induction ts generalizing tokens with
  | nil => cases h
  | cons t ts ih =>
    rw [List.foldlM_cons] at h
    rcases bind_eq_error_iff.mp h with ht | ⟨next, -, h⟩
    · refine ⟨t, List.mem_cons_self, ?_⟩
      rw [takeUp] at ht
      split at ht
      · cases ht
      · rcases bind_eq_error_iff.mp ht with hbrings | ⟨brought, -, ht⟩
        · exact hbrings
        · cases ht
    · obtain ⟨token, hmem, hbrings⟩ := ih h
      exact ⟨token, List.mem_cons_of_mem _ hmem, hbrings⟩

/-- Headers that cannot be built are stopped by a customization that does not fit. -/
lemma exists_not_fits_of_headers_eq_error (h : s.headers tokens = .error what) :
    ∃ token, what = .customization token ∧ ¬ s.Fits tokens token := by
  rw [headers, addBrought_eq] at h
  rcases bind_eq_error_iff.mp h with hout | ⟨out, hout, h⟩
  · obtain ⟨token, -, hbrings⟩ := exists_brings_of_foldlM_takeUp_eq_error hout
    exact ⟨token, eq_of_bringsColumn_eq_error hbrings, not_fits_of_brings_eq_error hbrings⟩
  · rcases bind_eq_error_iff.mp h with hall | ⟨hs, -, h⟩
    · obtain ⟨token, hmem, hheader⟩ := exists_of_mapM_eq_error hall
      refine ⟨token, eq_of_header?_eq_error hheader, not_fits_of_header?_eq_error hheader ?_⟩
      exact ((mem_of_foldlM_takeUp hout).mp hmem).imp_right And.right
    · cases h

end HeaderSource

namespace Context

variable {ctx : Context}

/-- What a component says about columns and headers cannot be built from, by the error it makes. -/
inductive Miscustomizes (ctx : Context) : Malformed → Prop where
  /-- Its customizations say something, but are no object. -/
  | whole (hobj : ctx.componentCustomizations.isObj = false)
      (htruthy : ctx.componentCustomizations.truthy = true) : Miscustomizes ctx .customizations
  /-- One of them says something and is no object, and something is asked of it. -/
  | one (token : String) (custom : Value)
      (hget : ctx.componentCustomizations.get? token = some custom)
      (htruthy : custom.truthy = true) (hobj : custom.isObj = false)
      (hasked : ¬ ctx.PassesOver token custom) : Miscustomizes ctx (.customization token)

lemma customizable_iff : ctx.Customizable ↔ ∀ what, ¬ ctx.Miscustomizes what := by
  constructor
  · rintro ⟨hwhole, heach⟩ what (⟨hobj, htruthy⟩ | ⟨token, custom, hget, htruthy, hobj, hasked⟩)
    · simp [hobj, htruthy] at hwhole
    · rcases heach token custom hget htruthy with hobj' | hpasses
      · cases hobj.symm.trans hobj'
      · exact hasked hpasses
  · intro h
    refine ⟨?_, fun token custom hget htruthy => ?_⟩
    · by_contra hnot
      obtain ⟨hobj, htruthy⟩ := not_or.mp hnot
      exact h _ (.whole (by simpa using hobj) (by simpa using htruthy))
    · by_contra hnot
      obtain ⟨hobj, hasked⟩ := not_or.mp hnot
      exact h _ (.one token custom hget htruthy (by simpa using hobj) hasked)

/-- Headers that cannot be built are stopped by what the component says about columns. -/
lemma miscustomizes_of_headers_eq_error (hblock : ctx.blockCustomizations.isObj = true)
    (h : ctx.headers = .error what) : ctx.Miscustomizes what := by
  rw [headers] at h
  rcases bind_eq_error_iff.mp h with hvalues | ⟨c, hc, h⟩
  · rcases bind_eq_error_iff.mp hvalues with hbad | ⟨bs, -, hvalues⟩
    · obtain ⟨-, hobj, -⟩ := entriesOf_eq_error_iff.mp hbad
      cases hblock.symm.trans hobj
    · rcases bind_eq_error_iff.mp hvalues with hcomponent | ⟨cs, -, hc⟩
      · obtain ⟨rfl, hobj, htruthy⟩ := entriesOf_eq_error_iff.mp hcomponent
        exact .whole hobj htruthy
      · cases hc
  · obtain ⟨-, hcs⟩ := ofValues_eq_ok_iff.mp hc
    obtain ⟨token, rfl, hfits⟩ := HeaderSource.exists_not_fits_of_headers_eq_error h
    obtain ⟨hobj, hasked⟩ := not_or.mp (mt fits_headerSource_iff.mpr hfits)
    have hobj : (said c.component token).isObj = false := by simpa using hobj
    obtain ⟨hget, htruthy⟩ := get?_of_not_isObj_said hobj
    exact .one token _ ((get?_of_entriesOf hcs token).trans hget) htruthy hobj hasked

end Context

end ViewAssembly
