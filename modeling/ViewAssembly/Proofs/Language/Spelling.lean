import ViewAssembly.Language.Choice
import ViewAssembly.Language.Localize
import ViewAssembly.Proofs.Value.Names

/-!
# Spellings of a language code

Columns are chosen by a language code in any letter case. A text is looked up by the code as it is
spelled, so two spellings of one language find the same text where no text is stored under either of
them in capitals (`Value.localizeWith_congr`).
-/

namespace ViewAssembly

variable {l₁ l₂ : String}

namespace Language

/-- Is a name in small letters if it is one of two spellings? -/
def Neutral (l₁ l₂ n : String) : Prop := n = l₁ ∨ n = l₂ → Text.lower n = n

/-- What is no language code, or is in small letters, is neutral. -/
lemma neutral_of_isCode (h₁ : isCode l₁ = true) (h₂ : isCode l₂ = true) {n : String}
    (hn : isCode n = false ∨ Text.lower n = n) : Neutral l₁ l₂ n := by
  intro hspelled
  rcases hn with hcode | hlower
  · rcases hspelled with rfl | rfl
    · rw [h₁] at hcode
      cases hcode
    · rw [h₂] at hcode
      cases hcode
  · exact hlower

/-! ### Letter case does not matter for columns -/

lemma isDeclared_congr (h : Text.lower l₁ = Text.lower l₂) (declared : List String) :
    isDeclared declared l₁ = isDeclared declared l₂ := by
  simp only [isDeclared, Text.sameLetters, h]

lemma admits_congr (h : Text.lower l₁ = Text.lower l₂) (declared : Option (List String)) :
    admits declared l₁ = admits declared l₂ := by
  cases declared with
  | none => rfl
  | some ls => exact isDeclared_congr h ls

lemma hint?_congr (h : Text.lower l₁ = Text.lower l₂) (declared : List String) :
    hint? declared l₁ = hint? declared l₂ := by
  rw [hint?, hint?, h]

end Language

/-! ### Texts -/

namespace Value

open ViewAssembly.Language

variable {v : Value} {fs : Entries Value} {known : List String}

/-- Under a code in capitals that is no name, nothing is found. -/
lemma findSome?_lookupCodes {lang : String} (h : lang ∈ fs.keys → Text.lower lang = lang) :
    ((lookupCodes lang).findSome? fun code => (fs.get? code).filter (!·.isNull))
      = (Text.lower lang :: fallbacks).findSome? fun code =>
          (fs.get? code).filter (!·.isNull) := by
  rw [lookupCodes, List.findSome?_cons]
  by_cases hlang : lang ∈ fs.keys
  · rw [h hlang, List.findSome?_cons]
    cases (fs.get? lang).filter (!·.isNull) <;> rfl
  · rw [Entries.get?_eq_none_iff.mpr hlang]
    rfl

lemma textIn_congr (hletters : Text.lower l₁ = Text.lower l₂)
    (h : ∀ n ∈ fs.keys, Neutral l₁ l₂ n) : textIn fs l₁ = textIn fs l₂ := by
  have h₁ : l₁ ∈ fs.keys → Text.lower l₁ = l₁ := fun hmem => h l₁ hmem (.inl rfl)
  have h₂ : l₂ ∈ fs.keys → Text.lower l₂ = l₂ := fun hmem => h l₂ hmem (.inr rfl)
  rw [textIn, textIn, findSome?_lookupCodes h₁, findSome?_lookupCodes h₂, hletters]

lemma resolve_congr (hletters : Text.lower l₁ = Text.lower l₂)
    (h : v.AllNames (Neutral l₁ l₂)) : v.resolve l₁ = v.resolve l₂ := by
  cases v with
  | obj fs => exact textIn_congr hletters fun n hn => h.of_mem_keys hn
  | _ => rfl

mutual

/-- Where all names are neutral, two spellings of a language localize alike. -/
theorem localizeWith_congr (hletters : Text.lower l₁ = Text.lower l₂) {v : Value}
    (h : v.AllNames (Neutral l₁ l₂)) : v.localizeWith l₁ known = v.localizeWith l₂ known := by
  match v with
  | obj fs =>
    rw [localizeWith, localizeWith, localizeFields_congr hletters h,
      textIn_congr hletters fun n hn => h.of_mem_keys hn]
  | arr vs =>
    rw [localizeWith, localizeWith, localizeElems_congr hletters (allNames_arr_iff.mp h)]
  | null | bool _ | int _ | float _ | str _ | shown _ => rfl

theorem localizeElems_congr (hletters : Text.lower l₁ = Text.lower l₂) {vs : List Value}
    (h : ∀ v ∈ vs, v.AllNames (Neutral l₁ l₂)) :
    localizeElems l₁ known vs = localizeElems l₂ known vs := by
  match vs with
  | [] => rfl
  | v :: vs =>
    obtain ⟨hv, hvs⟩ := List.forall_mem_cons.mp h
    rw [localizeElems, localizeElems, localizeWith_congr hletters hv,
      localizeElems_congr hletters hvs]

theorem localizeFields_congr (hletters : Text.lower l₁ = Text.lower l₂)
    {fs : List (String × Value)} (h : (obj fs).AllNames (Neutral l₁ l₂)) :
    localizeFields l₁ known fs = localizeFields l₂ known fs := by
  match fs with
  | [] => rfl
  | (k, v) :: fs =>
    obtain ⟨-, hv, hfs⟩ := allNames_obj_cons_iff.mp h
    rw [localizeFields, localizeFields, localizeWith_congr hletters hv,
      resolve_congr hletters hv, localizeFields_congr hletters hfs]

end

lemma localize_congr (hletters : Text.lower l₁ = Text.lower l₂)
    (h : v.AllNames (Neutral l₁ l₂)) (languages : List String) :
    v.localize l₁ languages = v.localize l₂ languages := by
  have hknown : knownLanguages l₁ languages = knownLanguages l₂ languages := by
    rw [knownLanguages, knownLanguages, hletters]
  rw [localize, localize, hknown, localizeWith_congr hletters h]

end Value

end ViewAssembly
