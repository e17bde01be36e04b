import Mathlib.Tactic.Common
import ViewAssembly.Text.LetterCase

/-!
# Small letters stay small

Text in small letters has itself as its small form (`Text.lower_lower`). Beyond ASCII this rests on
the table: no run of capitals has a member that another run has as its small form.
-/

namespace ViewAssembly.Text

variable {rs : CaseRuns} {c d : Char} {cs before after : List Char} {n first last step : Nat}

/-! ### Runs -/

/-- Does a run, given by first and last point, step and distance, move a point? -/
def IsMember (run : Nat × Nat × Nat × Int) (n : Nat) : Prop :=
  run.1 ≤ n ∧ n ≤ run.2.1 ∧ (n - run.1) % run.2.2.1 = 0

instance (run : Nat × Nat × Nat × Int) (n : Nat) : Decidable (IsMember run n) :=
  inferInstanceAs (Decidable (_ ∧ _ ∧ _))

lemma image?_eq_some (h : rs.image? n = some c) :
    ∃ run ∈ rs.toList, IsMember run n ∧ c = Char.ofNat (n + run.2.2.2).toNat := by
  obtain ⟨run, hfind, rfl⟩ := Option.map_eq_some_iff.mp h
  have hmember := Array.find?_some hfind
  simp only [Bool.and_eq_true, decide_eq_true_eq, beq_iff_eq] at hmember
  exact ⟨run, Array.mem_toList_iff.mpr (Array.mem_of_find?_eq_some hfind),
    ⟨hmember.1.1, hmember.1.2, hmember.2⟩, rfl⟩

lemma image?_eq_none (h : ∀ run ∈ rs.toList, ¬ IsMember run n) : rs.image? n = none := by
  rw [CaseRuns.image?, Option.map_eq_none_iff, Array.find?_eq_none]
  intro run hrun hmember
  simp only [Bool.and_eq_true, decide_eq_true_eq, beq_iff_eq] at hmember
  exact h run (Array.mem_toList_iff.mpr hrun) ⟨hmember.1.1, hmember.1.2, hmember.2⟩

/--
Does a run keep clear of the points from `first` to `last`? It does if it lies on one side of them,
or goes in steps of two between points that do so as well.
-/
def keepsClear (first last step : Nat) (run : Nat × Nat × Nat × Int) : Bool :=
  last.blt run.1 || run.2.1.blt first
    || (first == last || step == 2) && run.2.2.1 == 2 && first % 2 != run.1 % 2

lemma not_isMember_of_keepsClear {run : Nat × Nat × Nat × Int}
    (h : keepsClear first last step run = true) (hfirst : first ≤ n) (hlast : n ≤ last)
    (hstep : (n - first) % step = 0) : ¬ IsMember run n := by
  rintro ⟨hlower, hupper, hmember⟩
  simp only [keepsClear, Bool.or_eq_true, Bool.and_eq_true, Nat.blt_eq, beq_iff_eq,
    bne_iff_ne] at h
  obtain (hbefore | hbehind) | ⟨⟨hsteps, htwo⟩, hparity⟩ := h
  · omega
  · omega
  · rw [htwo] at hmember
    rcases hsteps with hpoint | rfl
    · omega
    · omega

/-! ### The table of small letters -/

/-- Do the members of a run move to characters other than the dotted I, beyond ASCII or to `k`? -/
def movesBeyond (run : Nat × Nat × Nat × Int) : Bool :=
  let first := (run.1 + run.2.2.2).toNat
  let last := (run.2.1 + run.2.2.2).toNat
  (128 ≤ first || first == 0x6b && last == 0x6b) && 0 ≤ run.1 + run.2.2.2
    && (last < 0x130 || 0x130 < first) && (last < 0xd800 || 0xdfff < first && last < 0x110000)

lemma lowerRuns_movesBeyond : ∀ run ∈ lowerRuns.toList, movesBeyond run = true := by
  decide +kernel

/-- No run moves a member to a point that a run moves: a Boolean test of all pairs of runs. -/
lemma lowerRuns_keepsClear :
    lowerRuns.toList.all fun run =>
      lowerRuns.toList.all
        (keepsClear (run.1 + run.2.2.2).toNat (run.2.1 + run.2.2.2).toNat run.2.2.1) := by
  decide +kernel

/-! ### Characters and texts -/

/-- Is a character its own small form? -/
def IsSmall (c : Char) : Prop := lowerChar c = [c]

lemma isSmall_of_image?_eq_none (hascii : ¬ c.toNat < 128) (hdotted : c ≠ 'İ')
    (h : lowerRuns.image? c.toNat = none) : IsSmall c := by
  rw [IsSmall, lowerChar, if_neg hascii, if_neg (by simpa using hdotted), h]
  rfl

/-- The small form that a run gives is its own small form. -/
lemma isSmall_of_image? (h : lowerRuns.image? n = some c) : IsSmall c := by
  obtain ⟨run, hrun, ⟨hlower, hupper, hstep⟩, rfl⟩ := image?_eq_some h
  have hbeyond := lowerRuns_movesBeyond run hrun
  simp only [movesBeyond, Bool.and_eq_true, Bool.or_eq_true, decide_eq_true_eq,
    beq_iff_eq] at hbeyond
  obtain ⟨⟨⟨hascii, hnonneg⟩, hdotted⟩, hvalid⟩ := hbeyond
  have hchar : (Char.ofNat (n + run.2.2.2).toNat).toNat = (n + run.2.2.2).toNat := by
    have hisChar : (n + run.2.2.2).toNat.isValidChar := by rw [Nat.isValidChar]; omega
    rw [Char.ofNat, dif_pos hisChar]
    rfl
  rcases hascii with hascii | ⟨hfirst, hlast⟩
  · apply isSmall_of_image?_eq_none
    · omega
    · intro heq
      have hpoint : (n + run.2.2.2).toNat = 0x130 := by rw [← hchar, heq]; rfl
      omega
    · rw [hchar]
      refine image?_eq_none fun other hother => ?_
      have hclear := List.all_eq_true.mp lowerRuns_keepsClear run hrun
      have hmoved : (n + run.2.2.2).toNat - (run.1 + run.2.2.2).toNat = n - run.1 := by omega
      exact not_isMember_of_keepsClear (List.all_eq_true.mp hclear other hother)
        (by omega) (by omega) (hmoved ▸ hstep)
  · -- the sign for kelvin, whose small form is in ASCII
    have hpoint : (n + run.2.2.2).toNat = 0x6b := by omega
    rw [hpoint]
    rfl

lemma isSmall_toLower (h : c.toNat < 128) : IsSmall c.toLower := by
  have hall : ∀ n < 128, (Char.ofNat n).toLower.toNat < 128 ∧
      (Char.ofNat n).toLower.toLower = (Char.ofNat n).toLower := by decide
  obtain ⟨hascii, hlower⟩ := hall c.toNat h
  rw [Char.ofNat_toNat] at hascii hlower
  rw [IsSmall, lowerChar_ascii hascii, hlower]

lemma isSmall_of_mem_lowerChar (h : d ∈ lowerChar c) : IsSmall d := by
  rw [lowerChar] at h
  split_ifs at h with hascii hdotted
  · rw [List.mem_singleton.mp h]
    exact isSmall_toLower hascii
  · simp only [List.mem_cons, List.not_mem_nil, or_false] at h
    rcases h with rfl | rfl
    · rfl
    · exact isSmall_of_image?_eq_none (by decide) (by decide) (image?_eq_none (by decide +kernel))
  · rw [List.mem_singleton.mp h]
    cases himage : lowerRuns.image? c.toNat with
    | none => exact isSmall_of_image?_eq_none hascii (by simpa using hdotted) himage
    | some image => exact isSmall_of_image? himage

lemma isSmall_of_mem_lowerAt (h : d ∈ lowerAt before c after) : IsSmall d := by
  rw [lowerAt] at h
  split_ifs at h
  · rw [List.mem_singleton.mp h]
    exact isSmall_of_image?_eq_none (by decide) (by decide) (image?_eq_none (by decide +kernel))
  · rw [List.mem_singleton.mp h]
    exact isSmall_of_image?_eq_none (by decide) (by decide) (image?_eq_none (by decide +kernel))
  · exact isSmall_of_mem_lowerChar h

lemma isSmall_of_mem_lowerFrom (h : d ∈ lowerFrom before cs) : IsSmall d := by
  induction cs generalizing before with
  | nil => cases h
  | cons c cs ih =>
    rcases List.mem_append.mp h with hhead | htail
    · exact isSmall_of_mem_lowerAt hhead
    · exact ih htail

/-- A capital sigma is not small, so that nothing small depends on its place. -/
lemma lowerAt_of_isSmall (h : IsSmall c) : lowerAt before c after = [c] := by
  have hsigma : c ≠ 'Σ' := by
    rintro rfl
    have hlower : lowerChar 'Σ' ≠ ['Σ'] := by decide +kernel
    exact hlower h
  rw [lowerAt, if_neg (by simpa using hsigma), h]

lemma lowerFrom_of_isSmall (h : ∀ c ∈ cs, IsSmall c) : lowerFrom before cs = cs := by
  induction cs generalizing before with
  | nil => rfl
  | cons c cs ih =>
    obtain ⟨hc, hcs⟩ := List.forall_mem_cons.mp h
    rw [lowerFrom, lowerAt_of_isSmall hc, ih hcs, List.singleton_append]

/-- A text in small letters has itself as its small form. -/
theorem lower_lower (s : String) : lower (lower s) = lower s := by
  have hsmall : lowerFrom [] (lowerFrom [] s.toList) = lowerFrom [] s.toList :=
    lowerFrom_of_isSmall fun _ => isSmall_of_mem_lowerFrom
  rw [lower, lower, String.toList_ofList, hsmall]

end ViewAssembly.Text
