import Mathlib.Data.List.Induction
import ViewAssembly.Language.Choice
import ViewAssembly.Proofs.Entries

/-!
# The language that a header hints at

A header hints at a declared language other than the one in use whenever there is one
(`hint?_spec`). Which one is settled by two rules, one for columns that support the language in use
(`hint?_of_isDeclared`) and one for those that do not (`hint?_of_not_isDeclared`). Neither how often
a language is declared nor the letter case matters.
-/

namespace ViewAssembly

/-! ### The first of a list without repetitions -/

lemma head?_eraseDups (xs : List String) : xs.eraseDups.head? = xs.head? := by
  cases xs with
  | nil => rfl
  | cons x xs => rw [List.eraseDups_cons, List.head?_cons, List.head?_cons]

/-- The first element of some kind stays the first without repetitions. -/
lemma find?_eraseDups (p : String → Bool) (xs : List String) :
    xs.eraseDups.find? p = xs.find? p := by
  induction xs using List.reverseRecOn with
  | nil => rfl
  | append_singleton xs x ih =>
    rw [eraseDups_append_singleton, List.find?_append, ← ih]
    split_ifs with hx
    · -- an element that was there before is not the first of its kind
      cases hfirst : xs.eraseDups.find? p with
      | some y => rfl
      | none =>
        have hxp := List.find?_eq_none.mp hfirst x (List.mem_eraseDups.mpr hx)
        simp [hxp]
    · rw [List.find?_append]

namespace Language

variable {declared : List String} {lang hint : String}

/-! ### The two rules -/

lemma isDeclared_iff : isDeclared declared lang = true ↔
    ∃ l ∈ declared, Text.lower l = Text.lower lang := by
  simp [isDeclared, Text.sameLetters]

lemma contains_eraseDups_lower (declared : List String) (lang : String) :
    (declared.map Text.lower).eraseDups.contains (Text.lower lang) = isDeclared declared lang := by
  rw [Bool.eq_iff_iff, isDeclared_iff, List.contains_iff_mem, List.mem_eraseDups, List.mem_map]

/-- Of the declared languages, in small letters, the first that is not the one in use. -/
def firstOther? (declared : List String) (lang : String) : Option String :=
  (declared.map Text.lower).find? (· ≠ Text.lower lang)

/-- A language stands in for the one in use if it is declared. -/
lemma standsIn_iff (declared : List String) (lang : String) {current other : String}
    (hne : other ≠ current) (hother : Text.lower other = other) :
    (Text.lower lang == current &&
        ((declared.map Text.lower).eraseDups.filter (· ≠ Text.lower lang)).contains other) = true ↔
      Text.lower lang = current ∧ isDeclared declared other = true := by
  rw [Bool.and_eq_true, beq_iff_eq, ← contains_eraseDups_lower, hother]
  refine and_congr_right fun hcurrent => ?_
  simp [hcurrent, hne]

/-- A language in use that is declared has `en` and `dv` stand in for each other. -/
theorem hint?_of_isDeclared (h : isDeclared declared lang = true) :
    hint? declared lang =
      if Text.lower lang = "en" ∧ isDeclared declared "dv" = true then some "dv"
      else if Text.lower lang = "dv" ∧ isDeclared declared "en" = true then some "en"
      else firstOther? declared lang := by
  have hen := standsIn_iff declared lang (by decide : "dv" ≠ "en") (by decide)
  have hdv := standsIn_iff declared lang (by decide : "en" ≠ "dv") (by decide)
  simp only [hint?, contains_eraseDups_lower, h, if_true, hen, hdv, List.head?_filter,
    find?_eraseDups, firstOther?]

/-- For a language in use that is not declared, `en` comes first, then `dv`, then all others. -/
theorem hint?_of_not_isDeclared (h : isDeclared declared lang = false) :
    hint? declared lang =
      if isDeclared declared "en" = true then some "en"
      else if isDeclared declared "dv" = true then some "dv"
      else (declared.map Text.lower).head? := by
  have hen : (declared.map Text.lower).eraseDups.contains "en" = isDeclared declared "en" :=
    contains_eraseDups_lower declared "en"
  have hdv : (declared.map Text.lower).eraseDups.contains "dv" = isDeclared declared "dv" :=
    contains_eraseDups_lower declared "dv"
  simp only [hint?, contains_eraseDups_lower, h, Bool.false_eq_true, if_false, List.find?_cons, hen,
    hdv, head?_eraseDups]
  cases isDeclared declared "en" <;> cases isDeclared declared "dv" <;> rfl

/-! ### What the two rules have in common -/

lemma exists_of_isDeclared {code : String} (hcode : Text.lower code = code)
    (h : isDeclared declared code = true) : ∃ l ∈ declared, Text.lower l = code := by
  simpa only [hcode] using isDeclared_iff.mp h

lemma not_sameLetters_iff {l : String} :
    Text.sameLetters l lang = false ↔ Text.lower l ≠ Text.lower lang := beq_eq_false_iff_ne

/-- The hint is at a declared language other than the one in use. -/
lemma exists_of_hint?_eq_some (h : hint? declared lang = some hint) :
    ∃ l ∈ declared, hint = Text.lower l ∧ Text.sameLetters l lang = false := by
  simp only [not_sameLetters_iff]
  cases hdeclared : isDeclared declared lang with
  | true =>
    rw [hint?_of_isDeclared hdeclared] at h
    split_ifs at h with hen hdv
    · cases h
      obtain ⟨l, hl, hlower⟩ := exists_of_isDeclared (by decide) hen.2
      exact ⟨l, hl, hlower.symm, by rw [hlower, hen.1]; decide⟩
    · cases h
      obtain ⟨l, hl, hlower⟩ := exists_of_isDeclared (by decide) hdv.2
      exact ⟨l, hl, hlower.symm, by rw [hlower, hdv.1]; decide⟩
    · obtain ⟨l, hl, rfl⟩ := List.mem_map.mp (List.mem_of_find?_eq_some h)
      exact ⟨l, hl, rfl, by simpa using List.find?_some h⟩
  | false =>
    have hother : ∀ l ∈ declared, Text.lower l ≠ Text.lower lang := fun l hl hsame =>
      Bool.eq_false_iff.mp hdeclared (isDeclared_iff.mpr ⟨l, hl, hsame⟩)
    rw [hint?_of_not_isDeclared hdeclared] at h
    split_ifs at h with hen hdv
    · cases h
      obtain ⟨l, hl, hlower⟩ := exists_of_isDeclared (by decide) hen
      exact ⟨l, hl, hlower.symm, hother l hl⟩
    · cases h
      obtain ⟨l, hl, hlower⟩ := exists_of_isDeclared (by decide) hdv
      exact ⟨l, hl, hlower.symm, hother l hl⟩
    · obtain ⟨l, hl, rfl⟩ := List.mem_map.mp (List.mem_of_mem_head? h)
      exact ⟨l, hl, rfl, hother l hl⟩

/-- There is a hint if a language is declared other than the one in use. -/
lemma hint?_ne_none {l : String} (hl : l ∈ declared) (hother : Text.sameLetters l lang = false) :
    hint? declared lang ≠ none := by
  have hmem : Text.lower l ∈ declared.map Text.lower := List.mem_map_of_mem hl
  cases hdeclared : isDeclared declared lang with
  | true =>
    rw [hint?_of_isDeclared hdeclared]
    split_ifs
    · nofun
    · nofun
    · intro hnone
      have hsame := List.find?_eq_none.mp hnone _ hmem
      exact not_sameLetters_iff.mp hother (by simpa using hsame)
  | false =>
    rw [hint?_of_not_isDeclared hdeclared]
    split_ifs
    · nofun
    · nofun
    · exact fun hnone => List.ne_nil_of_mem hmem (List.head?_eq_none_iff.mp hnone)

/-- There is no hint exactly if no language is declared other than the one in use. -/
lemma hint?_eq_none_iff :
    hint? declared lang = none ↔ ∀ l ∈ declared, Text.sameLetters l lang = true := by
  constructor
  · intro hnone l hl
    by_contra hother
    exact hint?_ne_none hl (by simpa using hother) hnone
  · intro hsame
    by_contra hsome
    obtain ⟨hint, hhint⟩ := Option.ne_none_iff_exists'.mp hsome
    obtain ⟨l, hl, -, hother⟩ := exists_of_hint?_eq_some hhint
    exact Bool.noConfusion ((hsame l hl).symm.trans hother)

/--
Where languages are declared by any values, there is a hint exactly if one of them is other than the
language in use, and the hint is at such a one. A language in use that is declared has `en` and `dv`
stand in for each other and otherwise gives way to the first other one; for one that is not
declared, `en` comes before `dv` and `dv` before the first that is.
-/
theorem hint?_spec (declared : List Value) (lang : String) :
    let texts := declared.map Value.text
    (hint? texts lang = none ↔ ∀ v ∈ declared, Text.sameLetters v.text lang = true) ∧
      (∀ hint, hint? texts lang = some hint →
        ∃ v ∈ declared, hint = Text.lower v.text ∧ Text.sameLetters v.text lang = false) ∧
      (isDeclared texts lang = true → hint? texts lang =
        if Text.lower lang = "en" ∧ isDeclared texts "dv" = true then some "dv"
        else if Text.lower lang = "dv" ∧ isDeclared texts "en" = true then some "en"
        else firstOther? texts lang) ∧
      (isDeclared texts lang = false → hint? texts lang =
        if isDeclared texts "en" = true then some "en"
        else if isDeclared texts "dv" = true then some "dv"
        else (texts.map Text.lower).head?) := by
  intro texts
  refine ⟨?_, ?_, hint?_of_isDeclared, hint?_of_not_isDeclared⟩
  · rw [hint?_eq_none_iff, List.forall_mem_map]
  · intro hint hhint
    obtain ⟨l, hl, hlower, hother⟩ := exists_of_hint?_eq_some hhint
    obtain ⟨v, hv, rfl⟩ := List.mem_map.mp hl
    exact ⟨v, hv, hlower, hother⟩

/-- Languages as a column may declare them: one of them twice, and one that is no text. -/
def mixedLanguages : List Value := [.str "FR", .bool true, .str "EN", .str "fr"]

/-- Who reads French is shown the first other language, and who reads German is shown English. -/
theorem hint?_spec_mixed :
    isDeclared (mixedLanguages.map Value.text) "Fr" = true ∧
      hint? (mixedLanguages.map Value.text) "Fr" = some "true" ∧
      (∃ v ∈ mixedLanguages, "true" = Text.lower v.text ∧
        Text.sameLetters v.text "Fr" = false) ∧
      isDeclared (mixedLanguages.map Value.text) "de" = false ∧
      hint? (mixedLanguages.map Value.text) "de" = some "en" := by
  have hfrench : isDeclared (mixedLanguages.map Value.text) "Fr" = true := by decide
  have hgerman : isDeclared (mixedLanguages.map Value.text) "de" = false := by decide
  obtain ⟨-, hother, hdeclared, -⟩ := hint?_spec mixedLanguages "Fr"
  obtain ⟨-, -, -, hundeclared⟩ := hint?_spec mixedLanguages "de"
  have hfirst : hint? (mixedLanguages.map Value.text) "Fr" = some "true" :=
    (hdeclared hfrench).trans (by decide)
  exact ⟨hfrench, hfirst, hother _ hfirst, hgerman, (hundeclared hgerman).trans (by decide)⟩

end Language

end ViewAssembly
