import ViewAssembly.Override
import ViewAssembly.Proofs.Entries

/-!
# Overrides act name by name

What an override makes of an entry depends on this entry alone, whatever else it changes
(`get?_apply`). Inside an object it acts as it does on a section, all names being allowed.
-/

namespace ViewAssembly.Override

variable {allows : String → Bool} {draft o : Entries Value}

lemma overrideValue_scalar {v : Value} (hobj : ∀ o, v ≠ .obj o) (harr : ∀ vs, v ≠ .arr vs)
    (draft : Option Value) : overrideValue draft v = if v.saysOff then none else some v := by
  rw [overrideValue]
  · exact hobj
  · exact harr

lemma isSome_overrideValue (draft : Option Value) (v : Value) :
    (overrideValue draft v).isSome = true ↔ v.saysOff = false := by
  by_cases hobj : ∃ o, v = .obj o
  · obtain ⟨o, rfl⟩ := hobj
    exact iff_of_true rfl rfl
  · by_cases harr : ∃ vs, v = .arr vs
    · obtain ⟨vs, rfl⟩ := harr
      exact iff_of_true rfl rfl
    · rw [overrideValue_scalar (fun o ho => hobj ⟨o, ho⟩) fun vs hvs => harr ⟨vs, hvs⟩]
      cases v.saysOff <;> simp

lemma apply_cons (allows : String → Bool) (draft : Entries Value) (k : String) (v : Value)
    (o : Entries Value) :
    apply allows draft ((k, v) :: o)
      = apply allows (if allows k then applyEntry draft k v else draft) o := rfl

lemma get?_applyEntry (draft : Entries Value) (k : String) (v : Value) (n : String) :
    (applyEntry draft k v).get? n
      = if k = n then overrideValue (draft.get? k) v else draft.get? n := by
  rw [applyEntry]
  cases overrideValue (draft.get? k) v with
  | some w => exact Entries.get?_put draft k n w
  | none => exact Entries.get?_erase draft k n

/-- What an override makes of an entry depends on this entry alone. -/
lemma get?_apply (ho : o.keys.Nodup) (n : String) :
    (apply allows draft o).get? n
      = match o.get? n with
        | some v => if allows n then overrideValue (draft.get? n) v else draft.get? n
        | none   => draft.get? n := by
  induction o generalizing draft with
  | nil => rfl
  | cons e o ih =>
    obtain ⟨k, v⟩ := e
    obtain ⟨hk, ho⟩ := List.nodup_cons.mp ho
    rw [apply_cons, ih ho, Entries.get?_cons]
    by_cases hkn : k = n
    · -- the name comes only once
      subst hkn
      rw [Entries.get?_eq_none_iff.mpr hk, if_pos rfl]
      by_cases hallows : allows k = true
      · simp only [hallows, if_true, get?_applyEntry]
      · simp only [hallows, Bool.false_eq_true, if_false]
    · rw [if_neg hkn]
      have hother : (if allows k = true then applyEntry draft k v else draft).get? n
          = draft.get? n := by
        split
        · rw [get?_applyEntry, if_neg hkn]
        · rfl
      rw [hother]

/-- An override that leaves each entry as it is leaves the section as it is. -/
lemma apply_eq_self_of_forall
    (h : ∀ e ∈ o, allows e.1 = true → overrideValue (draft.get? e.1) e.2 = draft.get? e.1) :
    apply allows draft o = draft := by
  induction o with
  | nil => rfl
  | cons e o ih =>
    obtain ⟨k, v⟩ := e
    have hstep : (if allows k = true then applyEntry draft k v else draft) = draft := by
      split
      · next hallows =>
        have hk := h (k, v) List.mem_cons_self hallows
        simp only at hk
        rw [applyEntry, hk]
        cases hget : draft.get? k with
        | some w => exact Entries.put_eq_self hget
        | none => exact Entries.erase_eq_self hget
      · rfl
    rw [apply_cons, hstep]
    exact ih fun e he => h e (List.mem_cons_of_mem _ he)

lemma overrideFields_eq_apply (draft o : Entries Value) :
    overrideFields draft o = apply (fun _ => true) draft o := by
  induction o generalizing draft with
  | nil => rfl
  | cons e o ih => exact ih (applyEntry draft e.1 e.2)

/-- Where every name is allowed, nothing is passed over. -/
lemma apply_allowing_none (draft o : Entries Value) :
    apply (allowing none true) draft o = overrideFields draft o :=
  (overrideFields_eq_apply draft o).symm

end ViewAssembly.Override
