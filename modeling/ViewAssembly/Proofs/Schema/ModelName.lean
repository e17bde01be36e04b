import Mathlib.Data.List.Basic
import ViewAssembly.Proofs.Text.Pieces
import ViewAssembly.Schema.ModelName

/-!
# The two forms of a model name

A model is kept under its name in small letters without separators, and asked for by the name of a
relation in Pascal case. For names in ASCII the two agree: whatever the separators in a name and
however often they are repeated, its Pascal case in small letters is the form under which the model
is kept (`ModelName.lower_pascalCase`).
-/

namespace ViewAssembly

/-! ### Letter case in ASCII -/

namespace Text

variable {cs before after : List Char} {c : Char} {s : String}

def IsAscii (s : String) : Prop := ∀ c ∈ s.toList, c.toNat < 128

instance (s : String) : Decidable (IsAscii s) := List.decidableBAll _ s.toList

lemma lowerAt_ascii (h : c.toNat < 128) : lowerAt before c after = [c.toLower] := by
  have hsigma : c ≠ 'Σ' := by
    rintro rfl
    exact absurd h (by decide)
  rw [lowerAt, if_neg (by simpa using hsigma), lowerChar_ascii h]

lemma lowerFrom_ascii (h : ∀ c ∈ cs, c.toNat < 128) :
    lowerFrom before cs = cs.map Char.toLower := by
  induction cs generalizing before with
  | nil => rfl
  | cons c cs ih =>
    obtain ⟨hc, hcs⟩ := List.forall_mem_cons.mp h
    rw [lowerFrom, lowerAt_ascii hc, ih hcs]
    rfl

/-- In ASCII, each character has its small form whatever stands around it. -/
lemma lower_ascii (h : IsAscii s) : lower s = String.ofList (s.toList.map Char.toLower) := by
  rw [lower, lowerFrom_ascii h]

/-- The capital form of an ASCII character is one, and has the same small form. -/
lemma toUpper_ascii (h : c.toNat < 128) :
    c.toUpper.toNat < 128 ∧ c.toUpper.toLower = c.toLower := by
  have hall : ∀ n < 128, (Char.ofNat n).toUpper.toNat < 128 ∧
      (Char.ofNat n).toUpper.toLower = (Char.ofNat n).toLower := by decide
  simpa only [Char.ofNat_toNat] using hall c.toNat h

lemma isAscii_capitalised (h : IsAscii s) : IsAscii (capitalised s) := by
  rw [IsAscii] at h
  rw [capitalised]
  cases hs : s.toList with
  | nil => nofun
  | cons c cs =>
    rw [hs, List.forall_mem_cons] at h
    simpa [IsAscii, upperChar_ascii h.1] using ⟨(toUpper_ascii h.1).1, h.2⟩

/-- In small letters, the capital at the start of a word is lost again. -/
lemma map_toLower_capitalised (h : IsAscii s) :
    (capitalised s).toList.map Char.toLower = s.toList.map Char.toLower := by
  rw [IsAscii] at h
  rw [capitalised]
  cases hs : s.toList with
  | nil => rfl
  | cons c cs =>
    rw [hs, List.forall_mem_cons] at h
    simp [upperChar_ascii h.1, (toUpper_ascii h.1).2]

end Text

namespace ModelName

open Text

variable {name : String} {word : List Char}

lemma toList_pascalCase (name : String) :
    (pascalCase name).toList =
      (cutAt isSeparator name.toList).flatMap fun word =>
        (capitalised (String.ofList word)).toList := by
  rw [pascalCase, String.toList_join, List.flatMap_map]

/-- Without its separators, an ASCII name is still in ASCII. -/
lemma isAscii_filter (h : IsAscii name) :
    IsAscii (String.ofList (name.toList.filter (!isSeparator ·))) := by
  intro c hc
  rw [String.toList_ofList] at hc
  exact h c (List.mem_filter.mp hc).1

/-- The words of an ASCII name are in ASCII. -/
lemma isAscii_of_mem_cutAt (h : IsAscii name) (hword : word ∈ cutAt isSeparator name.toList) :
    IsAscii (String.ofList word) := by
  intro c hc
  rw [String.toList_ofList] at hc
  have hmem : c ∈ (cutAt isSeparator name.toList).flatten := List.mem_flatten.mpr ⟨word, hword, hc⟩
  rw [flatten_cutAt] at hmem
  exact isAscii_filter h c (by rwa [String.toList_ofList])

lemma isAscii_pascalCase (h : IsAscii name) : IsAscii (pascalCase name) := by
  intro c hc
  rw [toList_pascalCase] at hc
  obtain ⟨word, hword, hmem⟩ := List.mem_flatMap.mp hc
  exact isAscii_capitalised (isAscii_of_mem_cutAt h hword) c hmem

/-- In small letters, the Pascal case of a name is the form under which its model is kept. -/
theorem lower_pascalCase (h : IsAscii name) : lower (pascalCase name) = normalize name := by
  have hwords : ∀ word ∈ cutAt isSeparator name.toList,
      (capitalised (String.ofList word)).toList.map Char.toLower = word.map Char.toLower := by
    intro word hword
    rw [map_toLower_capitalised (isAscii_of_mem_cutAt h hword), String.toList_ofList]
  calc lower (pascalCase name)
      = String.ofList ((pascalCase name).toList.map Char.toLower) :=
        lower_ascii (isAscii_pascalCase h)
    _ = String.ofList ((cutAt isSeparator name.toList).flatMap fun word =>
          word.map Char.toLower) := by
        rw [toList_pascalCase, List.map_flatMap, List.flatMap_congr hwords]
    _ = String.ofList ((name.toList.filter (!isSeparator ·)).map Char.toLower) := by
        rw [← flatten_cutAt, List.map_flatten, List.flatMap_def]
    _ = normalize name := by
        rw [normalize, lower_ascii (isAscii_filter h), String.toList_ofList]

end ModelName

end ViewAssembly
