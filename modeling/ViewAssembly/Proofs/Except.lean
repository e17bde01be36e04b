import Mathlib.Tactic.Common

/-!
# Computations that may fail

When a chain of computations that may fail comes to an end, and what its parts gave then; and which
of them stopped it when it does not.
-/

namespace ViewAssembly

universe u v

variable {ε : Type u} {α β : Type v}

lemma bind_eq_ok_iff {x : Except ε α} {f : α → Except ε β} {b : β} :
    x >>= f = .ok b ↔ ∃ a, x = .ok a ∧ f a = .ok b := by
  cases x with
  | error e => simp [bind, Except.bind]
  | ok a => simp [bind, Except.bind]

/-- What comes after a computation matters only where it succeeds. -/
lemma bind_congr_of_ok {x : Except ε α} {f g : α → Except ε β}
    (h : ∀ a, x = .ok a → f a = g a) : x >>= f = x >>= g := by
  cases x with
  | error e => rfl
  | ok a => exact h a rfl

/-! ### Success alone -/

lemma isOk_iff {x : Except ε α} : x.isOk = true ↔ ∃ a, x = .ok a := by
  cases x with
  | error e => exact ⟨nofun, nofun⟩
  | ok a => exact ⟨fun _ => ⟨a, rfl⟩, fun _ => rfl⟩

lemma isOk_bind_iff {x : Except ε α} {f : α → Except ε β} :
    (x >>= f).isOk = true ↔ ∃ a, x = .ok a ∧ (f a).isOk = true := by
  cases x with
  | error e => exact ⟨nofun, nofun⟩
  | ok a => exact ⟨fun h => ⟨a, rfl, h⟩, fun ⟨_, hb, h⟩ => by cases hb; exact h⟩

lemma isOk_mapM_iff {f : α → Except ε β} {xs : List α} :
    (xs.mapM f).isOk = true ↔ ∀ x ∈ xs, (f x).isOk = true := by
  induction xs with
  | nil => exact ⟨nofun, fun _ => rfl⟩
  | cons x xs ih =>
    rw [List.mapM_cons, isOk_bind_iff, List.forall_mem_cons]
    constructor
    · rintro ⟨y, hy, h⟩
      obtain ⟨ys, hys, -⟩ := isOk_bind_iff.mp h
      exact ⟨isOk_iff.mpr ⟨y, hy⟩, ih.mp (isOk_iff.mpr ⟨ys, hys⟩)⟩
    · rintro ⟨hx, hxs⟩
      obtain ⟨y, hy⟩ := isOk_iff.mp hx
      obtain ⟨ys, hys⟩ := isOk_iff.mp (ih.mpr hxs)
      exact ⟨y, hy, isOk_bind_iff.mpr ⟨ys, hys, rfl⟩⟩

/-- What stands in the result of a traversal came from some element. -/
lemma exists_of_mem_mapM {f : α → Except ε β} {xs : List α} {ys : List β} {y : β}
    (h : xs.mapM f = .ok ys) (hy : y ∈ ys) : ∃ x ∈ xs, f x = .ok y := by
  induction xs generalizing ys with
  | nil =>
    cases h
    cases hy
  | cons x xs ih =>
    rw [List.mapM_cons] at h
    obtain ⟨z, hz, h⟩ := bind_eq_ok_iff.mp h
    obtain ⟨zs, hzs, h⟩ := bind_eq_ok_iff.mp h
    cases h
    rcases List.mem_cons.mp hy with rfl | hy
    · exact ⟨x, List.mem_cons_self, hz⟩
    · obtain ⟨x', hx', hfx⟩ := ih hzs hy
      exact ⟨x', List.mem_cons_of_mem _ hx', hfx⟩

/-- A traversal that may find nothing for an element: what it finds, beside what it finds it for. -/
lemma exists_found_of_mapM {f : α → Except ε (Option β)} {xs : List α} {ys : List (Option β)}
    (h : xs.mapM f = .ok ys) :
    ∃ found : List (α × β), (found.map Prod.fst).Sublist xs ∧
      found.map Prod.snd = ys.filterMap id ∧
      ∀ x y, (x, y) ∈ found ↔ x ∈ xs ∧ f x = .ok (some y) := by
  induction xs generalizing ys with
  | nil =>
    cases h
    exact ⟨[], .refl _, rfl, by simp⟩
  | cons x xs ih =>
    rw [List.mapM_cons] at h
    obtain ⟨y, hy, h⟩ := bind_eq_ok_iff.mp h
    obtain ⟨zs, hzs, h⟩ := bind_eq_ok_iff.mp h
    cases h
    obtain ⟨found, hsub, hfound, hmem⟩ := ih hzs
    cases y with
    | none =>
      refine ⟨found, hsub.cons x, hfound, fun x' y' => ?_⟩
      rw [hmem, List.mem_cons]
      refine and_congr_left fun hy' => ⟨.inr, ?_⟩
      rintro (rfl | hx')
      · cases hy.symm.trans hy'
      · exact hx'
    | some y =>
      refine ⟨(x, y) :: found, hsub.cons_cons x, congrArg (List.cons y) hfound, fun x' y' => ?_⟩
      rw [List.mem_cons, hmem, List.mem_cons, or_and_right, Prod.mk.injEq]
      refine or_congr_left ⟨?_, ?_⟩
      · rintro ⟨rfl, rfl⟩
        exact ⟨rfl, hy⟩
      · rintro ⟨rfl, hy'⟩
        cases hy.symm.trans hy'
        exact ⟨rfl, rfl⟩

/-! ### Failure -/

lemma bind_eq_error_iff {x : Except ε α} {f : α → Except ε β} {e : ε} :
    x >>= f = .error e ↔ x = .error e ∨ ∃ a, x = .ok a ∧ f a = .error e := by
  cases x with
  | error e' => simp [bind, Except.bind]
  | ok a => simp [bind, Except.bind]

lemma exists_of_mapM_eq_error {f : α → Except ε β} {xs : List α} {e : ε}
    (h : xs.mapM f = .error e) : ∃ x ∈ xs, f x = .error e := by
  induction xs with
  | nil => cases h
  | cons x xs ih =>
    rw [List.mapM_cons] at h
    rcases bind_eq_error_iff.mp h with hx | ⟨y, -, h⟩
    · exact ⟨x, List.mem_cons_self, hx⟩
    · rcases bind_eq_error_iff.mp h with hxs | ⟨ys, -, h⟩
      · obtain ⟨x', hmem, hx'⟩ := ih hxs
        exact ⟨x', List.mem_cons_of_mem _ hmem, hx'⟩
      · cases h

end ViewAssembly
