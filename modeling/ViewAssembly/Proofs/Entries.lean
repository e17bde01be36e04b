import Mathlib.Data.List.Induction
import Mathlib.Tactic.Common
import ViewAssembly.Entries

/-!
# Laws of ordered entries

What writing, erasing and reading a list of pairs do to the names of ordered entries and to what is
found under them. Entries with distinct names are determined by the order of their names and by what
is found under each (`ext_of_nodup`).
-/

namespace ViewAssembly

/-! ### Lists without repetitions -/

lemma eraseDups_append_singleton (xs : List String) (x : String) :
    (xs ++ [x]).eraseDups = if x ∈ xs then xs.eraseDups else xs.eraseDups ++ [x] := by
  rw [List.eraseDups_append, List.removeAll]
  by_cases hx : x ∈ xs <;> simp [hx, List.eraseDups_cons]

-- The first elements are the ones that stay, so the inductions go by the last element.
lemma nodup_eraseDups (xs : List String) : xs.eraseDups.Nodup := by
  induction xs using List.reverseRecOn with
  | nil => exact List.nodup_nil
  | append_singleton xs x ih =>
    rw [eraseDups_append_singleton]
    split_ifs with hx
    · exact ih
    · refine List.nodup_append.mpr ⟨ih, by simp, fun y hy z hz hyz => hx ?_⟩
      rw [← List.mem_singleton.mp hz, ← hyz]
      exact List.mem_eraseDups.mp hy

lemma eraseDups_filter (p : String → Bool) (xs : List String) :
    (xs.filter p).eraseDups = xs.eraseDups.filter p := by
  induction xs using List.reverseRecOn with
  | nil => rfl
  | append_singleton xs x ih =>
    rw [List.filter_append, eraseDups_append_singleton]
    by_cases hp : p x <;> by_cases hx : x ∈ xs <;>
      simp [hp, hx, ih, eraseDups_append_singleton]

lemma eraseDups_eq_self {xs : List String} (h : xs.Nodup) : xs.eraseDups = xs := by
  induction xs using List.reverseRecOn with
  | nil => rfl
  | append_singleton xs x ih =>
    obtain ⟨hxs, -, hdisjoint⟩ := List.nodup_append.mp h
    have hx : x ∉ xs := fun hx => hdisjoint x hx x List.mem_cons_self rfl
    rw [eraseDups_append_singleton, if_neg hx, ih hxs]

namespace Entries

universe u v

variable {α : Type u} {β : Type v}

/-! ### Names and what is found under them -/

lemma get?_eq_none_iff {es : Entries α} {n : String} : es.get? n = none ↔ n ∉ es.keys := by
  rw [← has_iff_mem_keys, has]
  cases es.get? n <;> simp

lemma isSome_get?_iff {es : Entries α} {n : String} : (es.get? n).isSome ↔ n ∈ es.keys :=
  has_iff_mem_keys es n

lemma isSome_get?_congr {es : Entries α} {fs : Entries β} (h : es.keys = fs.keys)
    (n : String) : (es.get? n).isSome = (fs.get? n).isSome := by
  rw [Bool.eq_iff_iff, isSome_get?_iff, isSome_get?_iff, h]

lemma mem_of_get? {es : Entries α} {n : String} {x : α} (h : es.get? n = some x) : (n, x) ∈ es := by
  obtain ⟨es₁, es₂, rfl, -⟩ := List.lookup_eq_some_iff.mp h
  exact List.mem_append_right es₁ List.mem_cons_self

lemma get?_of_mem {es : Entries α} {n : String} {x : α} (hes : es.keys.Nodup)
    (h : (n, x) ∈ es) : es.get? n = some x := by
  induction es with
  | nil => simp at h
  | cons e es ih =>
    obtain ⟨hk, hes⟩ := List.nodup_cons.mp hes
    rcases List.mem_cons.mp h with rfl | h
    · simp
    · have hne : e.1 ≠ n := fun hen => hk (hen ▸ List.mem_map_of_mem h)
      rw [get?_cons, if_neg hne, ih hes h]

/-- Entries with distinct names are determined by their names and what is found under them. -/
lemma ext_of_nodup {es fs : Entries α} (hes : es.keys.Nodup) (hk : es.keys = fs.keys)
    (hg : ∀ n, es.get? n = fs.get? n) : es = fs := by
  induction es generalizing fs with
  | nil => cases fs with
    | nil => rfl
    | cons f fs => simp [keys] at hk
  | cons e es ih => cases fs with
    | nil => simp [keys] at hk
    | cons f fs =>
      obtain ⟨n, x⟩ := e
      obtain ⟨m, y⟩ := f
      obtain ⟨rfl, hks⟩ : n = m ∧ keys es = keys fs := by simpa using hk
      obtain ⟨hn, hes⟩ := List.nodup_cons.mp hes
      have hxy : x = y := by simpa [get?_cons] using hg n
      subst hxy
      congr 1
      refine ih hes hks fun m => ?_
      -- the first name is not found again, on neither side
      by_cases hm : n = m
      · subst hm
        rw [get?_eq_none_iff.mpr hn, get?_eq_none_iff.mpr (hks ▸ hn)]
      · simpa [get?_cons, hm] using hg m

/-! ### Writing -/

lemma keys_append (es fs : Entries α) : keys (es ++ fs) = es.keys ++ fs.keys := by simp [keys]

lemma get?_append (es fs : Entries α) (n : String) :
    get? (es ++ fs) n = (es.get? n).or (fs.get? n) := List.lookup_append

lemma keys_put (es : Entries α) (n : String) (x : α) :
    (es.put n x).keys = if n ∈ es.keys then es.keys else es.keys ++ [n] := by
  split
  · next h => exact keys_put_of_mem x h
  · next h =>
    rw [put_eq_append_of_get?_eq_none x (get?_eq_none_iff.mpr h), keys_append]
    rfl

lemma nodup_keys_put {es : Entries α} {n : String} {x : α} (h : es.keys.Nodup) :
    (es.put n x).keys.Nodup := by
  rw [keys_put]
  split
  · exact h
  · next hn =>
    refine List.nodup_append.mpr ⟨h, by simp, fun k hk m hm hkm => hn ?_⟩
    rw [← List.mem_singleton.mp hm, ← hkm]
    exact hk

lemma eq_or_mem_of_mem_put {es : Entries α} {n : String} {x : α} {e : String × α}
    (h : e ∈ es.put n x) : e = (n, x) ∨ e ∈ es := by
  induction es with
  | nil => exact .inl (List.mem_singleton.mp h)
  | cons f es ih =>
    obtain ⟨k, v⟩ := f
    rw [put] at h
    split at h
    · next hk =>
      subst hk
      rcases List.mem_cons.mp h with rfl | h
      · exact .inl rfl
      · exact .inr (List.mem_cons_of_mem _ h)
    · rcases List.mem_cons.mp h with rfl | h
      · exact .inr List.mem_cons_self
      · exact (ih h).imp_right (List.mem_cons_of_mem _)

lemma get?_put (es : Entries α) (m n : String) (x : α) :
    (es.put m x).get? n = if m = n then some x else es.get? n := by
  split
  · next h => subst h; exact get?_put_self es m x
  · next h => exact get?_put_of_ne es x h

lemma get?_putNew_of_ne (es : Entries α) {m n : String} (x : α) (h : m ≠ n) :
    (es.putNew m x).get? n = es.get? n := by
  rw [putNew]
  split
  · rfl
  · exact get?_put_of_ne es x h

/-- Writing what is there already changes nothing. -/
lemma put_eq_self {es : Entries α} {n : String} {x : α} (h : es.get? n = some x) :
    es.put n x = es := by
  induction es with
  | nil => simp at h
  | cons e es ih =>
    obtain ⟨m, y⟩ := e
    rw [get?_cons] at h
    by_cases hm : m = n
    · rw [if_pos hm] at h
      cases h
      simp [put, hm]
    · rw [if_neg hm] at h
      simp [put, hm, ih h]

/-! ### Erasing -/

lemma get?_erase (es : Entries α) (m n : String) :
    (es.erase m).get? n = if m = n then none else es.get? n := by
  induction es with
  | nil => simp [erase]
  | cons e es ih =>
    obtain ⟨k, x⟩ := e
    by_cases hk : k = m
    · subst hk
      rw [show erase ((k, x) :: es) k = erase es k by simp [erase], ih, get?_cons]
      split <;> simp_all
    · rw [show erase ((k, x) :: es) m = (k, x) :: erase es m by simp [erase, hk], get?_cons, ih,
        get?_cons]
      split
      · next hkn => subst hkn; simp [Ne.symm hk]
      · rfl

/-- Erasing what is not there changes nothing. -/
lemma erase_eq_self {es : Entries α} {n : String} (h : es.get? n = none) : es.erase n = es := by
  refine List.filter_eq_self.mpr fun e he => ?_
  have hn := get?_eq_none_iff.mp h
  simpa using fun hen : e.1 = n => hn (hen ▸ List.mem_map_of_mem he)

/-! ### Keeping some names -/

lemma get?_restrict (es : Entries α) (p : String → Bool) (n : String) :
    (es.restrict p).get? n = if p n then es.get? n else none := by
  unfold restrict
  induction es with
  | nil => simp
  | cons e es ih =>
    rw [List.filter_cons]
    by_cases hkn : e.1 = n
    · subst hkn
      split_ifs at ih ⊢
      · rw [get?_cons_self, get?_cons_self]
      · exact ih
    · rw [get?_cons, if_neg hkn, ← ih]
      split_ifs
      · rw [get?_cons, if_neg hkn]
      · rfl

lemma mem_keys_restrict {es : Entries α} {p : String → Bool} {n : String} :
    n ∈ (es.restrict p).keys ↔ n ∈ es.keys ∧ p n = true := by
  rw [← isSome_get?_iff, get?_restrict, ← isSome_get?_iff]
  split_ifs with h <;> simp [h]

lemma nodup_keys_restrict {es : Entries α} (h : es.keys.Nodup) (p : String → Bool) :
    (es.restrict p).keys.Nodup :=
  h.sublist (List.filter_sublist.map _)

/-! ### Changing every value -/

variable {f : String → α → β}

@[simp] lemma keys_mapValues (es : Entries α) : (es.mapValues f).keys = es.keys := by
  simp [mapValues, keys, Function.comp_def]

@[simp] lemma get?_mapValues (es : Entries α) (n : String) :
    (es.mapValues f).get? n = (es.get? n).map (f n) := by
  induction es with
  | nil => rfl
  | cons e es ih =>
    obtain ⟨m, x⟩ := e
    by_cases hm : m = n
    · subst hm
      simp [mapValues]
    · rw [get?_cons, if_neg hm, ← ih, mapValues, List.map_cons, get?_cons, if_neg hm]
      rfl

@[simp] lemma has_mapValues (es : Entries α) (n : String) : (es.mapValues f).has n = es.has n := by
  simp [has]

/-! ### Reading a list of pairs -/

/-- The names after a write and those that further writes add. -/
lemma keys_put_append (es : Entries α) (n : String) (x : α) (ns : List String) :
    (es.put n x).keys ++ ns.eraseDups.filter (fun m => !(es.put n x).keys.contains m)
      = es.keys ++ (n :: ns).eraseDups.filter (fun m => !es.keys.contains m) := by
  rw [keys_put, List.eraseDups_cons, eraseDups_filter]
  -- after the write the name is there, so it no longer counts among those that follow
  by_cases hn : n ∈ es.keys
  · rw [if_pos hn, List.filter_cons_of_neg (by simpa using hn), List.filter_filter]
    congr 1
    refine List.filter_congr fun m _ => ?_
    by_cases hm : m = n <;> simp [hm, hn]
  · rw [if_neg hn, List.filter_cons_of_pos (by simpa using hn), List.filter_filter,
      List.append_assoc, List.singleton_append]
    congr 2
    refine List.filter_congr fun m _ => ?_
    by_cases hm : m ∈ es.keys <;> simp [hm, beq_eq_decide]

lemma keys_foldl_put (es : Entries α) (ps : List (String × α)) :
    (ps.foldl (fun es p => es.put p.1 p.2) es).keys
      = es.keys ++ (ps.map Prod.fst).eraseDups.filter (fun n => !es.keys.contains n) := by
  induction ps generalizing es with
  | nil => simp
  | cons p ps ih => rw [List.foldl_cons, ih, keys_put_append, List.map_cons]

/-- The names of a list of pairs are its first components, each once where it first occurs. -/
lemma keys_ofPairs (ps : List (String × α)) : (ofPairs ps).keys = (ps.map Prod.fst).eraseDups := by
  rw [ofPairs, keys_foldl_put, List.filter_eq_self.mpr (by simp)]
  rfl

lemma get?_foldl_put_of_forall {f : String → Option α} (es : Entries α) (ps : List (String × α))
    (n : String) (h : ∀ p ∈ ps, f p.1 = some p.2) :
    (ps.foldl (fun es p => es.put p.1 p.2) es).get? n
      = if n ∈ ps.map Prod.fst then f n else es.get? n := by
  induction ps generalizing es with
  | nil => simp
  | cons p ps ih =>
    have hp := h p List.mem_cons_self
    rw [List.foldl_cons, ih _ fun q hq => h q (List.mem_cons_of_mem _ hq), get?_put]
    by_cases hn : p.1 = n
    · subst hn
      simp [hp]
    · rw [if_neg hn, List.map_cons]
      simp only [List.mem_cons, Ne.symm hn, false_or]

/-- What is found under a name that no pair has is what was there before. -/
lemma get?_foldl_put_of_notMem (es : Entries α) {ps : List (String × α)} {n : String}
    (h : n ∉ ps.map Prod.fst) : (ps.foldl (fun es p => es.put p.1 p.2) es).get? n = es.get? n := by
  induction ps generalizing es with
  | nil => rfl
  | cons p ps ih =>
    obtain ⟨hp, hps⟩ : n ≠ p.1 ∧ n ∉ ps.map Prod.fst := by
      rw [List.map_cons, List.mem_cons, not_or] at h
      exact h
    rw [List.foldl_cons, ih _ hps, get?_put_of_ne es p.2 hp.symm]

/-- The last pair of a name says what is found under it. -/
lemma get?_foldl_put_of_last (es : Entries α) (ps : List (String × α)) {qs : List (String × α)}
    {n : String} (x : α) (h : n ∉ qs.map Prod.fst) :
    ((ps ++ (n, x) :: qs).foldl (fun es p => es.put p.1 p.2) es).get? n = some x := by
  rw [List.foldl_append, List.foldl_cons, get?_foldl_put_of_notMem _ h, get?_put_self]

/-- Pairs of names with what a function gives for them are found as the function says. -/
lemma get?_ofPairs_of_forall {f : String → Option α} (ps : List (String × α)) {n : String}
    (h : ∀ p ∈ ps, f p.1 = some p.2) (hn : n ∈ ps.map Prod.fst) : (ofPairs ps).get? n = f n := by
  rw [ofPairs, get?_foldl_put_of_forall [] ps n h, if_pos hn]

end Entries

end ViewAssembly
