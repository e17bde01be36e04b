import Mathlib.Data.List.Basic
import ViewAssembly.Proofs.Override.Apply

/-!
# Sections under an override, entry by entry

An override changes a section in place, one entry after the other. What comes out can be said at
once: the entries of the section in their order, each as the override leaves it, and behind them
those that the override brings under other names, in its order (`overrideFields_eq_append`). So
only the new entries show in which order the override was written down (`acts_by_name`).
-/

namespace ViewAssembly

variable {α : Type}

namespace Entries

/-- In which order entries of distinct names stand does not matter when one of them is looked up. -/
lemma get?_perm {es fs : Entries α} (h : es.Perm fs) (hfs : fs.keys.Nodup) (n : String) :
    es.get? n = fs.get? n := by
  have hkeys : es.keys.Perm fs.keys := h.map Prod.fst
  cases hget : es.get? n with
  | none =>
    rw [get?_eq_none_iff, hkeys.mem_iff] at hget
    exact (get?_eq_none_iff.mpr hget).symm
  | some v => exact (get?_of_mem hfs (h.mem_iff.mp (mem_of_get? hget))).symm

end Entries

namespace Override

variable {allows : String → Bool} {draft o o' : Entries Value} {k m : String} {v w : Value}

/-! ### What is kept and what is new -/

/-- What an override leaves under a name, given what is there. -/
def outcome (o : Entries Value) (n : String) (there : Option Value) : Option Value :=
  match o.get? n with
  | some v => overrideValue there v
  | none   => there

/-- The entries of a section that an override leaves there, in the order of the section. -/
def kept (draft o : Entries Value) : Entries Value :=
  draft.filterMap fun e => (outcome o e.1 (some e.2)).map (e.1, ·)

/-- The entries that an override brings under names that a section lacks, in its own order. -/
def added (draft o : Entries Value) : Entries Value :=
  (o.filter fun e => !draft.has e.1).filterMap fun e => (overrideValue none e.2).map (e.1, ·)

lemma outcome_congr (h : o.get? k = o'.get? k) (there : Option Value) :
    outcome o k there = outcome o' k there := by
  rw [outcome, outcome, h]

lemma outcome_of_get?_eq_none (h : o.get? k = none) (there : Option Value) :
    outcome o k there = there := by
  rw [outcome, h]

lemma kept_congr (h : ∀ n ∈ draft.keys, o.get? n = o'.get? n) : kept draft o = kept draft o' := by
  refine List.filterMap_congr fun e he => ?_
  rw [outcome_congr (h e.1 (List.mem_map_of_mem he))]

/-- An override that names nothing of a section leaves it as it is. -/
lemma kept_eq_self (h : ∀ n ∈ draft.keys, o.get? n = none) : kept draft o = draft := by
  rw [kept, List.filterMap_congr fun e he => ?_]
  · exact List.filterMap_some
  · rw [outcome_of_get?_eq_none (h e.1 (List.mem_map_of_mem he))]
    rfl

lemma kept_append (ds es o : Entries Value) : kept (ds ++ es) o = kept ds o ++ kept es o :=
  List.filterMap_append

lemma added_congr {draft' : Entries Value} (h : ∀ n ∈ o.keys, draft.has n = draft'.has n) :
    added draft o = added draft' o := by
  rw [added, added, List.filter_congr fun e he => ?_]
  rw [h e.1 (List.mem_map_of_mem he)]

lemma added_append (draft o o' : Entries Value) :
    added draft (o ++ o') = added draft o ++ added draft o' := by
  rw [added, List.filter_append, List.filterMap_append]
  rfl

lemma keys_kept_sublist (draft o : Entries Value) : (kept draft o).keys.Sublist draft.keys := by
  induction draft with
  | nil => exact .refl _
  | cons e draft ih =>
    rw [kept, List.filterMap_cons]
    cases outcome o e.1 (some e.2) with
    | none => exact ih.cons _
    | some v => exact ih.cons_cons _

lemma keys_added_sublist (draft o : Entries Value) : (added draft o).keys.Sublist o.keys := by
  induction o with
  | nil => exact .refl _
  | cons e o ih =>
    rw [added, List.filter_cons]
    split
    · rw [List.filterMap_cons]
      cases overrideValue none e.2 with
      | none => exact ih.cons _
      | some v => exact ih.cons_cons _
    · exact ih.cons _

lemma disjoint_keys_added (draft o : Entries Value) : (added draft o).keys.Disjoint draft.keys := by
  intro n hn hdraft
  obtain ⟨e, he, rfl⟩ := List.mem_map.mp hn
  obtain ⟨e', he', heq⟩ := List.mem_filterMap.mp he
  obtain ⟨v, -, rfl⟩ := Option.map_eq_some_iff.mp heq
  have hhas : draft.has e'.1 = false := by simpa using (List.mem_filter.mp he').2
  rw [(Entries.has_iff_mem_keys ..).mpr hdraft] at hhas
  cases hhas

/-! ### One entry -/

lemma applyEntry_cons_of_ne (h : m ≠ k) (w v : Value) (draft : Entries Value) :
    applyEntry ((m, w) :: draft) k v = (m, w) :: applyEntry draft k v := by
  rw [applyEntry, applyEntry, Entries.get?_cons, if_neg h]
  cases overrideValue (draft.get? k) v with
  | some x => exact if_neg h
  | none => exact List.filter_cons_of_pos (by simpa using h)

lemma applyEntry_cons_self (h : k ∉ draft.keys) (w v : Value) :
    applyEntry ((k, w) :: draft) k v
      = ((overrideValue (some w) v).map (k, ·)).toList ++ draft := by
  rw [applyEntry, Entries.get?_cons_self]
  cases overrideValue (some w) v with
  | some x => exact if_pos rfl
  | none =>
    have herase : Entries.erase ((k, w) :: draft) k = draft.erase k :=
      List.filter_cons_of_neg (by simp)
    rw [herase, Entries.erase_eq_self (Entries.get?_eq_none_iff.mpr h)]
    rfl

/-- An entry of an override is applied in place, or it is new and comes last. -/
lemma applyEntry_eq_append (hdraft : draft.keys.Nodup) (k : String) (v : Value) :
    applyEntry draft k v = kept draft [(k, v)] ++ added draft [(k, v)] := by
  induction draft with
  | nil =>
    rw [applyEntry, Entries.get?_nil]
    cases h : overrideValue none v <;>
      simp [kept, added, h, Entries.put, Entries.erase, Entries.has]
  | cons e draft ih =>
    obtain ⟨m, w⟩ := e
    obtain ⟨hm, hdraft⟩ := List.nodup_cons.mp hdraft
    -- an entry is applied where its name stands first, and the name stands there alone
    by_cases hmk : m = k
    · subst hmk
      have hrest : kept draft [(m, v)] = draft := by
        apply kept_eq_self
        intro n hn
        rw [Entries.get?_cons, if_neg (ne_of_mem_of_not_mem hn hm).symm]
        rfl
      have hnone : added ((m, w) :: draft) [(m, v)] = [] := by
        simp [added, Entries.has, Entries.get?_cons]
      rw [applyEntry_cons_self hm, hnone, List.append_nil, ← List.singleton_append, kept_append,
        hrest]
      simp only [kept, outcome, Entries.get?_cons, if_true, List.filterMap_cons, List.filterMap_nil]
      cases overrideValue (some w) v <;> rfl
    · have hnew : added ((m, w) :: draft) [(k, v)] = added draft [(k, v)] := by
        apply added_congr
        intro n hn
        obtain rfl := List.mem_singleton.mp hn
        rw [Entries.has, Entries.has, Entries.get?_cons, if_neg hmk]
      have hfirst : kept [(m, w)] [(k, v)] = [(m, w)] := by
        apply kept_eq_self
        intro n hn
        obtain rfl := List.mem_singleton.mp hn
        rw [Entries.get?_cons, if_neg (Ne.symm hmk)]
        rfl
      rw [applyEntry_cons_of_ne hmk, ih hdraft, hnew, ← List.singleton_append (l := draft),
        kept_append, hfirst]
      rfl

/-! ### All entries -/

/-- After an entry, what is kept and what is new is what the entry and the others keep and bring. -/
lemma kept_cons (hk : k ∉ o.keys) (draft : Entries Value) (v : Value) :
    kept (kept draft [(k, v)]) o = kept draft ((k, v) :: o) := by
  rw [kept, kept, kept, List.filterMap_filterMap]
  refine List.filterMap_congr fun e _ => ?_
  obtain ⟨n, x⟩ := e
  by_cases hkn : k = n
  · subst hkn
    have hone : outcome [(k, v)] k (some x) = overrideValue (some x) v := by
      rw [outcome, Entries.get?_cons_self]
    have hboth : outcome ((k, v) :: o) k (some x) = overrideValue (some x) v := by
      rw [outcome, Entries.get?_cons_self]
    have hrest (there : Option Value) : outcome o k there = there :=
      outcome_of_get?_eq_none (Entries.get?_eq_none_iff.mpr hk) there
    simp only [hone, hboth]
    cases overrideValue (some x) v with
    | none => rfl
    | some w => simp [hrest]
  · have hone : outcome [(k, v)] n (some x) = some x := by
      rw [outcome, Entries.get?_cons, if_neg hkn]
      rfl
    have hboth : outcome ((k, v) :: o) n (some x) = outcome o n (some x) := by
      rw [outcome, Entries.get?_cons, if_neg hkn]
      rfl
    simp only [hone, hboth]
    rfl

/--
An override leaves the entries of a section in their order, some of them changed and some removed,
and puts behind them what it brings under new names, in its own order.
-/
theorem overrideFields_eq_append (hdraft : draft.keys.Nodup) (ho : o.keys.Nodup) :
    overrideFields draft o = kept draft o ++ added draft o := by
  induction o generalizing draft with
  | nil =>
    rw [kept_eq_self fun n _ => rfl]
    exact (List.append_nil draft).symm
  | cons e o ih =>
    obtain ⟨k, v⟩ := e
    obtain ⟨hk, ho⟩ := List.nodup_cons.mp ho
    have hentry : (applyEntry draft k v).keys.Nodup := by
      rw [applyEntry]
      cases overrideValue (draft.get? k) v with
      | some w => exact Entries.nodup_keys_put hdraft
      | none => exact Entries.nodup_keys_restrict hdraft fun n => n ≠ k
    -- an override names an entry once, so what the first one brings is not met again
    have hfirst : kept (added draft [(k, v)]) o = added draft [(k, v)] := by
      apply kept_eq_self
      intro n hn
      obtain rfl := List.mem_singleton.mp ((keys_added_sublist draft [(k, v)]).subset hn)
      exact Entries.get?_eq_none_iff.mpr hk
    have hothers : added (applyEntry draft k v) o = added draft o := by
      apply added_congr
      intro n hn
      rw [Entries.has, Entries.has, get?_applyEntry, if_neg (ne_of_mem_of_not_mem hn hk).symm]
    calc overrideFields draft ((k, v) :: o)
        = overrideFields (applyEntry draft k v) o := rfl
      _ = kept (applyEntry draft k v) o ++ added (applyEntry draft k v) o := ih hentry ho
      _ = kept draft ((k, v) :: o) ++ (added draft [(k, v)] ++ added draft o) := by
        rw [hothers, applyEntry_eq_append hdraft, kept_append, kept_cons hk, hfirst,
          List.append_assoc]
      _ = kept draft ((k, v) :: o) ++ added draft ((k, v) :: o) := by
        rw [← added_append, List.singleton_append]

/-- Passing over the names that are not allowed is as good as leaving them out beforehand. -/
lemma apply_eq_overrideFields (allows : String → Bool) (draft o : Entries Value) :
    apply allows draft o = overrideFields draft (o.restrict allows) := by
  rw [overrideFields_eq_apply, apply, apply, Entries.restrict, List.foldl_filter]
  rfl

/-! ### The order of an override -/

/-- Do two outcomes for a section differ in the order of the entries with new names alone? -/
def SameButAdded (draft r r' : Entries Value) : Prop :=
  ∃ old new new', r = old ++ new ∧ r' = old ++ new' ∧ old.keys.Sublist draft.keys ∧
    new.keys.Disjoint draft.keys ∧ new.Perm new'

/-- The order in which an override is written down shows in the order of new names alone. -/
lemma sameButAdded_of_perm (hdraft : draft.keys.Nodup) (ho : o.keys.Nodup) (h : o'.Perm o) :
    SameButAdded draft (apply allows draft o') (apply allows draft o) := by
  have hperm : (o'.restrict allows).Perm (o.restrict allows) := h.filter _
  have hnodup : (o.restrict allows).keys.Nodup := Entries.nodup_keys_restrict ho allows
  have hnodup' : (o'.restrict allows).keys.Nodup := (hperm.map Prod.fst).nodup_iff.mpr hnodup
  -- an entry of the section meets the one of its own name, wherever that stands
  have hkept : kept draft (o'.restrict allows) = kept draft (o.restrict allows) :=
    kept_congr fun n _ => Entries.get?_perm hperm hnodup n
  rw [apply_eq_overrideFields, apply_eq_overrideFields, overrideFields_eq_append hdraft hnodup',
    overrideFields_eq_append hdraft hnodup, hkept]
  exact ⟨_, _, _, rfl, rfl, keys_kept_sublist .., disjoint_keys_added ..,
    (hperm.filter _).filterMap _⟩

lemma apply_append (allows : String → Bool) (draft o o' : Entries Value) :
    apply allows draft (o ++ o') = apply allows (apply allows draft o) o' := List.foldl_append

/-! ### The law -/

/-- What it means that overrides act on a section name by name. -/
structure ActsByName (act : Entries Value → Entries Value → Entries Value)
    (draft o : Entries Value) : Prop where
  /-- What there is under a name depends on what the section and the override hold under it. -/
  depends : ∀ (draft' o' : Entries Value) (n : String), o'.keys.Nodup →
    draft'.get? n = draft.get? n → o'.get? n = o.get? n →
      (act draft' o').get? n = (act draft o).get? n
  /-- A name that the override lacks keeps its value. -/
  spares : ∀ n, n ∉ o.keys → (act draft o).get? n = draft.get? n
  /-- The names of the section that are left come first, in its order; new ones follow, in the
  order of the override. -/
  ordered : ∃ old new, act draft o = old ++ new ∧ old.keys.Sublist draft.keys ∧
    new.keys.Sublist o.keys ∧ new.keys.Disjoint draft.keys
  /-- The order of the override shows in the order of new names alone. -/
  permuted : ∀ o', o'.Perm o → SameButAdded draft (act draft o') (act draft o)
  /-- Overrides without a common name commute, up to the order of new names. -/
  commutes : ∀ o', o'.keys.Nodup → o.keys.Disjoint o'.keys →
    SameButAdded draft (act (act draft o) o') (act (act draft o') o)

/--
Overrides act name by name, whichever names are allowed. To allow the known names alone is to leave
the other entries out of the override, which says nothing about the names inside of its entries.
-/
theorem acts_by_name (known : Option (List String)) (allowUnknown : Bool)
    (hdraft : draft.keys.Nodup) (ho : o.keys.Nodup) :
    ActsByName (apply (allowing known allowUnknown)) draft o ∧
      (∀ names : List String, apply (allowing (some names) false) draft o
        = apply (allowing none true) draft (o.restrict (names.contains ·))) ∧
      ∀ (names : List String) (n : String) (nested : Entries Value), n ∈ names →
        o.get? n = some (.obj nested) → (apply (allowing (some names) false) draft o).get? n
          = some (.obj (apply (allowing none true) (fieldsOf (draft.get? n)) nested)) := by
  refine ⟨⟨?depends, ?spares, ?ordered, ?permuted, ?commutes⟩, ?strict, ?nested⟩
  case depends =>
    intro draft' o' n ho' hthere hsays
    rw [get?_apply ho', get?_apply ho, hthere, hsays]
  case spares =>
    intro n hn
    rw [get?_apply ho, Entries.get?_eq_none_iff.mpr hn]
  case ordered =>
    rw [apply_eq_overrideFields,
      overrideFields_eq_append hdraft (Entries.nodup_keys_restrict ho _)]
    refine ⟨_, _, rfl, keys_kept_sublist .., ?_, disjoint_keys_added ..⟩
    exact (keys_added_sublist ..).trans (List.filter_sublist.map _)
  case permuted =>
    intro o' hperm
    exact sameButAdded_of_perm hdraft ho hperm
  case commutes =>
    intro o' ho' hdisjoint
    have hnodup : (o' ++ o).keys.Nodup := by
      rw [Entries.keys_append, List.nodup_append]
      refine ⟨ho', ho, ?_⟩
      rintro n hn m hm rfl
      exact hdisjoint hm hn
    -- two overrides one after the other are one, with the entries of both
    rw [← apply_append, ← apply_append]
    exact sameButAdded_of_perm hdraft hnodup List.perm_append_comm
  case strict =>
    intro names
    rw [apply_eq_overrideFields, apply_allowing_none]
    rfl
  case nested =>
    intro names n nested hn hsays
    have hallowed : allowing (some names) false n = true := by simpa [allowing] using hn
    rw [get?_apply ho, hsays, apply_allowing_none]
    simp only [hallowed, if_true, overrideValue]

/-- A color that is removed, and another override that brings a name of its own. -/
theorem acts_by_name_color :
    let draft : Entries Value := [("size", .int 1), ("color", .str "red")]
    let o : Entries Value := [("icon", .str "eye"), ("color", .str "off"), ("dense", .bool true)]
    let o' : Entries Value := [("tags", .arr []), ("size", .int 2)]
    let act := apply (allowing (some ["color", "size", "icon", "tags"]) false)
    draft.keys.Nodup ∧ o.keys.Nodup ∧ o'.keys.Nodup ∧ o.keys.Disjoint o'.keys ∧
      SameButAdded draft (act draft o.reverse) (act draft o) ∧
      SameButAdded draft (act (act draft o) o') (act (act draft o') o) := by
  intro draft o o' act
  have hdraft : draft.keys.Nodup := by simp [draft]
  have ho : o.keys.Nodup := by simp [o]
  have ho' : o'.keys.Nodup := by simp [o']
  have hdisjoint : o.keys.Disjoint o'.keys := by simp [o, o']
  have hact := (acts_by_name (some ["color", "size", "icon", "tags"]) false hdraft ho).1
  exact ⟨hdraft, ho, ho', hdisjoint, hact.permuted o.reverse (List.reverse_perm o),
    hact.commutes o' ho' hdisjoint⟩

end Override

end ViewAssembly
