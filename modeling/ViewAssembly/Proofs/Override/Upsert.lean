import ViewAssembly.Override
import ViewAssembly.Proofs.Merge

/-!
# Where objects come to lie in a list

Bringing an object into a list changes a single place of it (`getElem?_upsertOne`). After several
objects, each place holds what was there with everything merged into it that has arrived there, in
the order of arrival (`getElem?_upsert`).
-/

namespace ViewAssembly.Override

open Value

/-! ### One object -/

/-- The place of a list at which an object comes to lie; none if it is there already. -/
def landing? (es : List Value) (o : Entries Value) : Option Nat :=
  match identity? o with
  | some (name, v) => some (es.findIdx (hasSame name v))
  | none           => if es.any (·.same (.obj o)) then none else some es.length

lemma getElem?_mergeInto (name : String) (v : Value) (o : Entries Value) (es : List Value)
    (i : Nat) :
    (mergeInto name v o es)[i]?
      = if es.findIdx (hasSame name v) = i then mergeOnto es[i]? (.obj o) else es[i]? := by
  induction es generalizing i with
  | nil => cases i <;> simp [mergeInto, mergeOnto]
  | cons e es ih =>
    rw [mergeInto, List.findIdx_cons]
    by_cases he : hasSame name v e = true
    · rw [if_pos he, he]
      cases i with
      | zero => rfl
      | succ i => simp
    · rw [if_neg he, Bool.not_eq_true _ |>.mp he]
      cases i with
      | zero => simp
      | succ i => simpa using ih i

/-- Bringing in an object changes the place at which it comes to lie, and no other. -/
lemma getElem?_upsertOne (es : List Value) (o : Entries Value) (i : Nat) :
    (upsertOne es o)[i]?
      = if landing? es o = some i then mergeOnto es[i]? (.obj o) else es[i]? := by
  rw [upsertOne, landing?]
  cases identity? o with
  | some nv => simp [getElem?_mergeInto]
  | none =>
    by_cases hany : es.any (·.same (.obj o)) = true
    · simp [hany]
    · simp only [hany, Bool.false_eq_true, if_false, Option.some.injEq]
      by_cases hi : es.length = i
      · subst hi
        simp [mergeOnto]
      · rw [if_neg hi, List.getElem?_append]
        split
        · rfl
        · simp only [List.getElem?_singleton]
          rw [if_neg (by omega), List.getElem?_eq_none (by omega)]

/-! ### Several objects -/

/-- The objects that arrive at a place, in the order in which they are brought in. -/
def arrivals (i : Nat) (es : List Value) : List (Entries Value) → List Value
  | []      => []
  | o :: os =>
    if landing? es o = some i then .obj o :: arrivals i (upsertOne es o) os
    else arrivals i (upsertOne es o) os

lemma mem_of_mem_arrivals {i : Nat} {es : List Value} {os : List (Entries Value)} {p : Value}
    (h : p ∈ arrivals i es os) : ∃ o ∈ os, p = .obj o := by
  induction os generalizing es with
  | nil => cases h
  | cons o os ih =>
    rw [arrivals] at h
    split at h
    · rcases List.mem_cons.mp h with rfl | h
      · exact ⟨o, List.mem_cons_self, rfl⟩
      · obtain ⟨q, hq, rfl⟩ := ih h
        exact ⟨q, List.mem_cons_of_mem _ hq, rfl⟩
    · obtain ⟨q, hq, rfl⟩ := ih h
      exact ⟨q, List.mem_cons_of_mem _ hq, rfl⟩

lemma upsert_cons (es : List Value) (o : Entries Value) (os : List (Entries Value)) :
    upsert es (o :: os) = upsert (upsertOne es o) os := rfl

/-- Each place holds what was there, with everything merged into it that has arrived there. -/
theorem getElem?_upsert (es : List Value) (os : List (Entries Value)) (i : Nat) :
    (upsert es os)[i]? = mergeAll es[i]? (arrivals i es os) := by
  induction os generalizing es with
  | nil => rfl
  | cons o os ih =>
    rw [upsert_cons, ih, getElem?_upsertOne, arrivals]
    split
    · rfl
    · rfl

/-- Does everything that arrives at a place of a list leave what is there as it is? -/
def Settled (es : List Value) (os : List (Entries Value)) : Prop :=
  ∀ i, mergeAll es[i]? (arrivals i es os) = es[i]?

lemma upsert_eq_self_iff {es : List Value} {os : List (Entries Value)} :
    upsert es os = es ↔ Settled es os := by
  rw [List.ext_getElem?_iff]
  simp only [getElem?_upsert]
  rfl

end ViewAssembly.Override
