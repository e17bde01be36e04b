import Mathlib.Data.List.Basic

/-!
# Sorting

Elements can be left out before sorting or after it (`filter_mergeSort`). So a list can be sorted in
two parts where no element of the second part precedes one of the first (`mergeSort_eq_append`).
-/

namespace ViewAssembly

section Sorting

variable {α : Type*} {le : α → α → Bool} {p : α → Bool}

/-- An element is sorted in behind the smaller ones and before all others. -/
lemma mergeSort_cons_eq_filter (htrans : ∀ a b c, le a b → le b c → le a c)
    (htotal : ∀ a b, le a b || le b a) (a : α) (xs : List α) :
    (a :: xs).mergeSort le =
      (xs.mergeSort le).filter (fun b => !le a b) ++ a :: (xs.mergeSort le).filter (le a ·) := by
  obtain ⟨before, after, hcons, hxs, hbefore⟩ := List.mergeSort_cons htrans htotal a xs
  have hafter : ∀ b ∈ after, le a b = true := by
    have hsorted := List.pairwise_mergeSort htrans htotal (a :: xs)
    rw [hcons, List.pairwise_append, List.pairwise_cons] at hsorted
    exact hsorted.2.1.1
  have hbefore' : ∀ b ∈ before, le a b = false := by simpa using hbefore
  rw [hcons, hxs, List.filter_append, List.filter_append, List.filter_eq_self.2 hbefore,
    List.filter_eq_self.2 hafter, List.filter_eq_nil_iff.2 (by simpa using hafter),
    List.filter_eq_nil_iff.2 (by simpa using hbefore'), List.append_nil, List.nil_append]

/-- It makes no difference whether elements are left out before or after sorting. -/
lemma filter_mergeSort (htrans : ∀ a b c, le a b → le b c → le a c)
    (htotal : ∀ a b, le a b || le b a) (p : α → Bool) (xs : List α) :
    (xs.mergeSort le).filter p = (xs.filter p).mergeSort le := by
  induction xs with
  | nil => simp
  | cons a xs ih =>
    cases hp : p a with
    | false =>
      obtain ⟨before, after, hcons, hxs, -⟩ := List.mergeSort_cons htrans htotal a xs
      rw [List.filter_cons_of_neg (by simp [hp]), ← ih, hcons, hxs, List.filter_append,
        List.filter_append, List.filter_cons_of_neg (by simp [hp])]
    | true =>
      rw [List.filter_cons_of_pos hp, mergeSort_cons_eq_filter htrans htotal,
        mergeSort_cons_eq_filter htrans htotal, ← ih, List.filter_append,
        List.filter_cons_of_pos hp, List.filter_comm, List.filter_comm p]

/-- A list can be sorted in two parts if nothing in the second part precedes the first part. -/
lemma mergeSort_eq_append (htrans : ∀ a b c, le a b → le b c → le a c)
    (htotal : ∀ a b, le a b || le b a) (hp : ∀ a b, p a = true → p b = false → le b a = false)
    (xs : List α) :
    xs.mergeSort le = (xs.filter p).mergeSort le ++ (xs.filter (!p ·)).mergeSort le := by
  rw [← filter_mergeSort htrans htotal, ← filter_mergeSort htrans htotal]
  have hpairwise := List.pairwise_mergeSort htrans htotal xs
  generalize xs.mergeSort le = sorted at hpairwise
  induction sorted with
  | nil => rfl
  | cons a ys ih =>
    rw [List.pairwise_cons] at hpairwise
    cases ha : p a with
    | true => simpa [ha] using ih hpairwise.2
    | false =>
      have hnone : ∀ b ∈ ys, p b = false := by
        intro b hb
        cases hb' : p b with
        | false => rfl
        | true => exact absurd (hpairwise.1 b hb) (by simp [hp b a hb' ha])
      have hleft : ys.filter p = [] := List.filter_eq_nil_iff.mpr fun b hb => by simp [hnone b hb]
      have hright : ys.filter (!p ·) = ys :=
        List.filter_eq_self.mpr fun b hb => by simp [hnone b hb]
      simp [ha, hleft, hright]

end Sorting

end ViewAssembly
