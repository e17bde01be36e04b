import Mathlib.Tactic.Common
import ViewAssembly.Override

/-!
# Laws of selecting by text

A selection that is selected from again by the same texts stays as it is (`select_select`). Where
there is nothing to select from, the texts themselves take the place of the list, and then the next
selection changes their order unless those that differ in letter case only stand together
(`select_texts_eq_iff`).
-/

namespace ViewAssembly.Override

open Text

/-! ### Selecting again -/

lemma mem_of_mem_select {e : Value} {es : List Value} {ws : List String} (h : e ∈ select es ws) :
    e ∈ es := by
  induction ws generalizing es with
  | nil => cases h
  | cons w ws ih =>
    rcases List.mem_append.mp h with h | h
    · exact (List.mem_filter.mp h).1
    · exact (List.mem_filter.mp (ih h)).1

/-- The elements that the first text asks for are put first. -/
lemma select_append {w : String} {as bs : List Value} (ha : ∀ a ∈ as, selects w a = true)
    (hb : ∀ b ∈ bs, selects w b = false) (ws : List String) :
    select (as ++ bs) (w :: ws) = as ++ select bs ws := by
  have has : as.filter (selects w) = as := List.filter_eq_self.mpr ha
  have hbs : bs.filter (selects w) = [] := List.filter_eq_nil_iff.mpr fun b h => by simp [hb b h]
  have has' : as.filter (!selects w ·) = [] :=
    List.filter_eq_nil_iff.mpr fun a h => by simp [ha a h]
  have hbs' : bs.filter (!selects w ·) = bs := List.filter_eq_self.mpr fun b h => by simp [hb b h]
  rw [select, List.filter_append, List.filter_append, has, hbs, has', hbs', List.append_nil,
    List.nil_append]

/-- A selection that is selected from again by the same texts stays as it is. -/
theorem select_select (es : List Value) (ws : List String) :
    select (select es ws) ws = select es ws := by
  induction ws generalizing es with
  | nil => rfl
  | cons w ws ih =>
    have hcons : select es (w :: ws)
        = es.filter (selects w) ++ select (es.filter (!selects w ·)) ws := rfl
    rw [hcons, select_append (fun a ha => (List.mem_filter.mp ha).2) (fun b hb => ?_), ih]
    -- later texts select from what the first one has left
    simpa using (List.mem_filter.mp (mem_of_mem_select hb)).2

/-- Texts that ask for nothing can be left out. -/
lemma select_append_left {es : List Value} {vs : List String}
    (h : ∀ v ∈ vs, ∀ e ∈ es, selects v e = false) (ws : List String) :
    select es (vs ++ ws) = select es ws := by
  induction vs with
  | nil => rfl
  | cons v vs ih =>
    have hv : select ([] ++ es) (v :: (vs ++ ws)) = [] ++ select es (vs ++ ws) :=
      select_append (by simp) (h v List.mem_cons_self) (vs ++ ws)
    rw [List.nil_append, List.nil_append] at hv
    rw [List.cons_append, hv]
    exact ih fun u hu => h u (List.mem_cons_of_mem _ hu)

/-! ### Selecting from the texts themselves -/

/-- Do the texts that differ in letter case only stand together? -/
def Grouped (ws : List String) : Prop :=
  ∀ u v w, List.Sublist [u, v, w] ws → sameLetters u w = true → sameLetters u v = true

lemma sameLetters_iff {u v : String} : sameLetters u v = true ↔ lower u = lower v := beq_iff_eq

lemma selects_str (w v : String) : selects w (.str v) = sameLetters w v := rfl

section Group

variable {w : String} {vs ws : List String} (hvs : ∀ v ∈ w :: vs, sameLetters w v = true)
  (hws : ∀ v ∈ ws, sameLetters w v = false)

include hvs hws

lemma not_sameLetters_of_mem {v x : String} (hv : v ∈ w :: vs) (hx : x ∈ ws) :
    sameLetters v x = false := by
  rw [sameLetters, ← sameLetters_iff.mp (hvs v hv)]
  exact hws x hx

/-- A group of texts that comes first is selected first. -/
lemma select_texts_cons :
    select ((w :: vs ++ ws).map .str) (w :: vs ++ ws)
      = (w :: vs).map .str ++ select (ws.map .str) ws := by
  have hgroup : ∀ e ∈ (w :: vs).map Value.str, selects w e = true := by
    intro e he
    obtain ⟨v, hv, rfl⟩ := List.mem_map.mp he
    exact hvs v hv
  have hothers : ∀ v ∈ w :: vs, ∀ e ∈ ws.map Value.str, selects v e = false := by
    intro v hv e he
    obtain ⟨x, hx, rfl⟩ := List.mem_map.mp he
    exact not_sameLetters_of_mem hvs hws hv hx
  rw [List.map_append, List.cons_append, select_append hgroup (hothers w List.mem_cons_self),
    select_append_left fun v hv => hothers v (List.mem_cons_of_mem _ hv)]

lemma grouped_append_iff : Grouped (w :: vs ++ ws) ↔ Grouped ws := by
  constructor
  · intro h u v x hs
    exact h u v x (hs.trans (List.sublist_append_right _ _))
  · intro h u v x hs hux
    obtain ⟨l₁, l₂, heq, h₁, h₂⟩ := List.sublist_append_iff.mp hs
    match l₁, heq with
    | [], heq =>
      cases heq
      exact h u v x h₂ hux
    | [u'], heq =>
      -- the last text is not in the group, which the first one is in
      obtain ⟨rfl, rfl⟩ := List.cons.inj heq
      rw [not_sameLetters_of_mem hvs hws (h₁.subset (by simp)) (h₂.subset (by simp))] at hux
      cases hux
    | u' :: v' :: l₁, heq =>
      obtain ⟨rfl, htail⟩ := List.cons.inj heq
      obtain ⟨rfl, -⟩ := List.cons.inj htail
      have hu := sameLetters_iff.mp (hvs u (h₁.subset (by simp)))
      have hv := sameLetters_iff.mp (hvs v (h₁.subset (by simp)))
      exact sameLetters_iff.mpr (hu.symm.trans hv)

end Group

lemma sameLetters_self (w : String) : sameLetters w w = true := sameLetters_iff.mpr rfl

/-- Where texts of one group stand together, the group of the first one is a prefix. -/
lemma exists_append_of_grouped {w : String} {ws : List String} (h : Grouped (w :: ws)) :
    ∃ vs rest, ws = vs ++ rest ∧ (∀ v ∈ w :: vs, sameLetters w v = true) ∧
      ∀ x ∈ rest, sameLetters w x = false := by
  refine ⟨ws.takeWhile (sameLetters w), ws.dropWhile (sameLetters w),
    List.takeWhile_append_dropWhile.symm, ?_, ?_⟩
  · intro v hv
    rcases List.mem_cons.mp hv with rfl | hv
    · exact sameLetters_self v
    · exact List.all_eq_true.mp List.all_takeWhile v hv
  · intro x hx
    rw [← Bool.not_eq_true]
    intro hwx
    cases hrest : ws.dropWhile (sameLetters w) with
    | nil => rw [hrest] at hx; cases hx
    | cons v rest =>
      have hv : sameLetters w v = false := by
        simpa [hrest] using List.head?_dropWhile_not (sameLetters w) ws
      rcases List.mem_cons.mp (hrest ▸ hx) with rfl | hx
      · rw [hwx] at hv; cases hv
      · -- the text that ends the prefix stands between the first one and this one
        have hs : List.Sublist [v, x] ws :=
          (List.Sublist.cons_cons v (List.singleton_sublist.mpr hx)).trans
            (hrest ▸ List.dropWhile_sublist (sameLetters w))
        rw [h w v x (.cons_cons w hs) hwx] at hv
        cases hv

/-- Where selecting keeps the order, the group of the first text is a prefix. -/
lemma exists_append_of_select_texts_eq {w : String} {ws : List String}
    (h : select ((w :: ws).map .str) (w :: ws) = (w :: ws).map .str) :
    ∃ vs rest, ws = vs ++ rest ∧ (∀ v ∈ w :: vs, sameLetters w v = true) ∧
      ∀ x ∈ rest, sameLetters w x = false := by
  obtain ⟨as, rest, has, hselected, hleft⟩ := List.map_eq_append_iff.mp h.symm
  have hmem : ∀ v ∈ as, sameLetters w v = true := by
    intro v hv
    have hselect : Value.str v ∈ ((w :: ws).map .str).filter (selects w) :=
      hselected ▸ List.mem_map_of_mem hv
    exact (List.mem_filter.mp hselect).2
  have hrest : ∀ x ∈ rest, sameLetters w x = false := by
    intro x hx
    have hselect := mem_of_mem_select (hleft ▸ List.mem_map_of_mem (f := Value.str) hx)
    simpa [selects_str] using (List.mem_filter.mp hselect).2
  cases as with
  | nil =>
    -- the first text asks for itself
    have hw : sameLetters w w = false := hrest w (by simp [← show w :: ws = rest from has])
    rw [sameLetters_self] at hw
    cases hw
  | cons a vs =>
    obtain ⟨rfl, hws⟩ := List.cons.inj has
    exact ⟨vs, rest, hws, hmem, hrest⟩

/--
Texts that are selected from themselves keep their order when those that differ in letter case only
stand together, and only then.
-/
theorem select_texts_eq_iff (ws : List String) :
    select (ws.map .str) ws = ws.map .str ↔ Grouped ws := by
  match ws with
  | [] => exact ⟨fun _ u v w hs => absurd hs.length_le (by simp), fun _ => rfl⟩
  | w :: ws =>
    have hsplit : (∃ vs rest, ws = vs ++ rest ∧ (∀ v ∈ w :: vs, sameLetters w v = true) ∧
          ∀ x ∈ rest, sameLetters w x = false) →
        (select ((w :: ws).map .str) (w :: ws) = (w :: ws).map .str ↔ Grouped (w :: ws)) := by
      rintro ⟨vs, rest, rfl, hvs, hrest⟩
      have hlength : rest.length < (w :: (vs ++ rest)).length := by
        rw [List.length_cons, List.length_append]
        omega
      rw [← List.cons_append, select_texts_cons hvs hrest, grouped_append_iff hvs hrest,
        List.map_append, List.append_cancel_left_eq, select_texts_eq_iff rest]
    exact ⟨fun h => (hsplit (exists_append_of_select_texts_eq h)).mp h,
      fun h => (hsplit (exists_append_of_grouped h)).mpr h⟩
termination_by ws.length

end ViewAssembly.Override
