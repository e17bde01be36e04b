import ViewAssembly.Merge
import ViewAssembly.Proofs.Value.Basic
import ViewAssembly.Proofs.Value.WellFormed

/-!
# Laws of merging

The names of a merged object are those of the base followed by the new ones of the patch, and each
name holds the merge of what the two sides hold (`keys_mergeFields`, `get?_mergeFields`). Merging
the same patches in a second time changes nothing, whatever they do to one another
(`mergeAll_mergeAll`, `foldl_merge_replay`).
-/

namespace ViewAssembly.Value

variable {w : Side} {bs ps : Entries Value} {b : Option Value}

/-! ### Entries of a merged object -/

lemma mergeFields_cons (k : String) (p : Value) (ps : Entries Value) :
    mergeFields w bs ((k, p) :: ps)
      = mergeFields w (bs.put k (match bs.get? k with | some b => b.merge w p | none => p)) ps :=
  rfl

lemma keys_mergeFields (w : Side) (bs ps : Entries Value) :
    Entries.keys (mergeFields w bs ps)
      = bs.keys ++ ps.keys.eraseDups.filter (fun n => !bs.keys.contains n) := by
  induction ps generalizing bs with
  | nil => simp [mergeFields]
  | cons p ps ih => rw [mergeFields_cons, ih, Entries.keys_put_append, Entries.keys_cons]

lemma nodup_keys_mergeFields (h : bs.keys.Nodup) : (Entries.keys (mergeFields w bs ps)).Nodup := by
  rw [keys_mergeFields]
  refine List.nodup_append.mpr ⟨h, (nodup_eraseDups _).filter _, fun n hn m hm hnm => ?_⟩
  subst hnm
  simp [hn] at hm

lemma keys_mergeFields_of_subset (h : ps.keys ⊆ bs.keys) :
    Entries.keys (mergeFields w bs ps) = bs.keys := by
  rw [keys_mergeFields, List.filter_eq_nil_iff.mpr fun n hn => ?_, List.append_nil]
  simpa using h (List.mem_eraseDups.mp hn)

lemma get?_mergeFields (hps : ps.keys.Nodup) (n : String) :
    Entries.get? (mergeFields w bs ps) n
      = match ps.get? n with
        | none   => bs.get? n
        | some p => some (match bs.get? n with | some b => b.merge w p | none => p) := by
  induction ps generalizing bs with
  | nil => rfl
  | cons e ps ih =>
    obtain ⟨k, p⟩ := e
    obtain ⟨hk, hps⟩ := List.nodup_cons.mp hps
    rw [mergeFields_cons, ih hps, Entries.get?_cons, Entries.get?_put]
    by_cases hkn : k = n
    · -- the name comes only once
      subst hkn
      rw [Entries.get?_eq_none_iff.mpr hk, if_pos rfl, if_pos rfl]
    · rw [if_neg hkn, if_neg hkn]

/-- Nothing is lost of a patch that is merged into nothing. -/
lemma mergeFields_nil (hps : ps.keys.Nodup) : mergeFields w [] ps = ps := by
  refine Entries.ext_of_nodup (nodup_keys_mergeFields List.nodup_nil) ?_ fun n => ?_
  · simp [keys_mergeFields, eraseDups_eq_self hps]
  · rw [get?_mergeFields hps]
    cases ps.get? n <;> rfl

/-- What the patch does not name stays. -/
lemma get?_mergeFields_of_get?_eq_none {n : String} (h : ps.get? n = none) :
    Entries.get? (mergeFields w bs ps) n = bs.get? n := by
  induction ps generalizing bs with
  | nil => rfl
  | cons e ps ih =>
    obtain ⟨k, p⟩ := e
    rw [Entries.get?_cons] at h
    split at h
    · cases h
    · next hkn => rw [mergeFields_cons, ih h, Entries.get?_put_of_ne _ _ hkn]

/-! ### Merging several patches -/

/-- What is there after a patch has been merged into what was there, if anything. -/
def mergeOnto (base : Option Value) (patch : Value) : Option Value :=
  some (match base with | some b => b.merge .patch patch | none => patch)

/-- What is there after patches have been merged into it, one after the other. -/
def mergeAll (base : Option Value) (patches : List Value) : Option Value :=
  patches.foldl mergeOnto base

lemma mergeOnto_of_not_isObj {p : Value} (hp : p.isObj = false) : mergeOnto b p = some p := by
  cases b <;> cases p <;> first | rfl | cases hp

lemma mergeOnto_obj (bs ps : Entries Value) :
    mergeOnto (some (obj bs)) (obj ps) = some (obj (mergeFields .patch bs ps)) := rfl

lemma mergeOnto_obj_of_not_isObj (hb : ∀ v, b = some v → v.isObj = false) (ps : Entries Value) :
    mergeOnto b (obj ps) = some (obj ps) := by
  match b with
  | none => rfl
  | some v =>
    have hv := hb v rfl
    cases v <;> first | rfl | cases hv

lemma mergeAll_append (b : Option Value) (ps qs : List Value) :
    mergeAll b (ps ++ qs) = mergeAll (mergeAll b ps) qs := List.foldl_append

/-- What came before a patch that is no object does not matter. -/
lemma mergeAll_append_cons {p : Value} (hp : p.isObj = false) (b : Option Value)
    (ps qs : List Value) : mergeAll b (ps ++ p :: qs) = mergeAll (some p) qs := by
  rw [mergeAll_append, mergeAll, List.foldl_cons, mergeOnto_of_not_isObj hp]
  rfl

/-! ### Merging several objects into an object -/

lemma mergeAll_obj (bs : Entries Value) (pss : List (Entries Value)) :
    mergeAll (some (obj bs)) (pss.map obj) = some (obj (pss.foldl (mergeFields .patch) bs)) := by
  induction pss generalizing bs with
  | nil => rfl
  | cons ps pss ih => exact ih (mergeFields .patch bs ps)

lemma get?_foldl_mergeFields {pss : List (Entries Value)} (h : ∀ ps ∈ pss, ps.keys.Nodup)
    (bs : Entries Value) (n : String) :
    Entries.get? (pss.foldl (mergeFields .patch) bs) n
      = mergeAll (bs.get? n) (pss.filterMap (·.get? n)) := by
  induction pss generalizing bs with
  | nil => rfl
  | cons ps pss ih =>
    rw [List.foldl_cons, ih fun qs hqs => h qs (List.mem_cons_of_mem _ hqs),
      get?_mergeFields (h ps List.mem_cons_self), List.filterMap_cons]
    cases ps.get? n with
    | none => rfl
    | some p => rfl

lemma nodup_keys_foldl_mergeFields (pss : List (Entries Value)) (h : bs.keys.Nodup) :
    Entries.keys (pss.foldl (mergeFields w) bs) |>.Nodup := by
  induction pss generalizing bs with
  | nil => exact h
  | cons ps pss ih => exact ih (nodup_keys_mergeFields h)

lemma keys_foldl_mergeFields_of_subset {pss : List (Entries Value)}
    (h : ∀ ps ∈ pss, ps.keys ⊆ bs.keys) :
    Entries.keys (pss.foldl (mergeFields w) bs) = bs.keys := by
  induction pss generalizing bs with
  | nil => rfl
  | cons ps pss ih =>
    have hps := keys_mergeFields_of_subset (w := w) (h ps List.mem_cons_self)
    rw [List.foldl_cons, ih fun qs hqs => hps ▸ h qs (List.mem_cons_of_mem _ hqs), hps]

lemma mem_keys_foldl_mergeFields {pss : List (Entries Value)} {n : String} :
    n ∈ Entries.keys (pss.foldl (mergeFields w) bs) ↔ n ∈ bs.keys ∨ ∃ ps ∈ pss, n ∈ ps.keys := by
  induction pss generalizing bs with
  | nil => simp
  | cons ps pss ih =>
    rw [List.foldl_cons, ih, keys_mergeFields]
    by_cases hn : n ∈ bs.keys <;> simp [hn]

/-! ### Merging twice -/

/-- Where nothing is there yet, or no object, patches that are objects start from an empty one. -/
lemma mergeAll_map_obj_of_not_isObj (hb : ∀ v, b = some v → v.isObj = false)
    {ps : Entries Value} (hps : ps.keys.Nodup) (pss : List (Entries Value)) :
    mergeAll b ((ps :: pss).map obj) = mergeAll (some (obj [])) ((ps :: pss).map obj) := by
  rw [List.map_cons, mergeAll, mergeAll, List.foldl_cons, List.foldl_cons,
    mergeOnto_obj_of_not_isObj hb, mergeOnto_obj, mergeFields_nil hps]

/-- Patches are all objects, or the last of them that is none comes before objects only. -/
lemma map_obj_or_append (ps : List Value) :
    (∃ pss, ps = List.map obj pss) ∨
      ∃ before p pss, ps = before ++ p :: List.map obj pss ∧ p.isObj = false := by
  induction ps with
  | nil => exact .inl ⟨[], rfl⟩
  | cons p ps ih =>
    rcases ih with ⟨pss, rfl⟩ | ⟨before, q, pss, rfl, hq⟩
    · by_cases hp : p.isObj = true
      · obtain ⟨fs, rfl⟩ := isObj_iff.mp hp
        exact .inl ⟨fs :: pss, rfl⟩
      · exact .inr ⟨[], p, pss, rfl, by simpa using hp⟩
    · exact .inr ⟨p :: before, q, pss, rfl, hq⟩

/-- Merging objects in a second time changes nothing if it does not for any of their entries. -/
lemma foldl_mergeFields_twice {pss : List (Entries Value)} (hps : ∀ ps ∈ pss, ps.keys.Nodup)
    (hbs : bs.keys.Nodup)
    (h : ∀ n, mergeAll (mergeAll (bs.get? n) (pss.filterMap (·.get? n))) (pss.filterMap (·.get? n))
      = mergeAll (bs.get? n) (pss.filterMap (·.get? n))) :
    pss.foldl (mergeFields .patch) (pss.foldl (mergeFields .patch) bs)
      = pss.foldl (mergeFields .patch) bs := by
  refine Entries.ext_of_nodup ?_ ?_ fun n => ?_
  · exact nodup_keys_foldl_mergeFields _ (nodup_keys_foldl_mergeFields _ hbs)
  · exact keys_foldl_mergeFields_of_subset fun ps hmem n hn =>
      mem_keys_foldl_mergeFields.mpr (.inr ⟨ps, hmem, hn⟩)
  · rw [get?_foldl_mergeFields hps, get?_foldl_mergeFields hps, h n]

private lemma mergeAll_mergeAll_of_lt (k : Nat) {ps : List Value} (hk : ∀ p ∈ ps, sizeOf p < k)
    (hps : ∀ p ∈ ps, p.WellFormed) (hb : ∀ v, b = some v → v.WellFormed) :
    mergeAll (mergeAll b ps) ps = mergeAll b ps := by
  -- what is merged into an entry is smaller than the patch that it comes from
  induction k generalizing b ps with
  | zero =>
    rw [List.eq_nil_iff_forall_not_mem.mpr fun p hp => absurd (hk p hp) (Nat.not_lt_zero _)]
    rfl
  | succ k ih =>
    rcases map_obj_or_append ps with ⟨pss, rfl⟩ | ⟨before, p, pss, rfl, hp⟩
    -- into an object, patches that are objects are merged entry by entry
    · have hobjects : ∀ bs : Entries Value, (obj bs).WellFormed →
          mergeAll (mergeAll (some (obj bs)) (pss.map obj)) (pss.map obj)
            = mergeAll (some (obj bs)) (pss.map obj) := by
        intro bs hbs
        rw [mergeAll_obj, mergeAll_obj]
        congr 2
        refine foldl_mergeFields_twice (fun ps hmem =>
          (hps (obj ps) (List.mem_map_of_mem hmem)).nodup_keys) hbs.nodup_keys fun n => ?_
        refine ih (fun q hq => ?_) (fun q hq => ?_) fun v hv => hbs.of_get? hv
        · obtain ⟨ps, hmem, hget⟩ := List.mem_filterMap.mp hq
          exact Nat.lt_of_lt_of_le (sizeOf_lt_of_get? hget)
            (Nat.le_of_lt_succ (hk (obj ps) (List.mem_map_of_mem hmem)))
        · obtain ⟨ps, hmem, hget⟩ := List.mem_filterMap.mp hq
          exact (hps (obj ps) (List.mem_map_of_mem hmem)).of_get? hget
      by_cases hobj : ∃ bs, b = some (obj bs)
      · obtain ⟨bs, rfl⟩ := hobj
        exact hobjects bs (hb _ rfl)
      · cases pss with
        | nil => rfl
        | cons ps pss =>
          have hnone : ∀ v, b = some v → v.isObj = false := by
            rintro v rfl
            cases v <;> first | rfl | exact absurd ⟨_, rfl⟩ hobj
          rw [mergeAll_map_obj_of_not_isObj hnone
            (hps (obj ps) (List.mem_map_of_mem List.mem_cons_self)).nodup_keys]
          exact hobjects [] (wellFormed_obj_iff.mpr ⟨List.nodup_nil, by simp⟩)
    · rw [mergeAll_append_cons hp, mergeAll_append_cons hp]

/-- Merging the same patches in a second time changes nothing. -/
theorem mergeAll_mergeAll {ps : List Value} (hps : ∀ p ∈ ps, p.WellFormed)
    (hb : ∀ v, b = some v → v.WellFormed) : mergeAll (mergeAll b ps) ps = mergeAll b ps :=
  mergeAll_mergeAll_of_lt (sizeOf ps) (fun _ => List.sizeOf_lt_of_mem) hps hb

/-! ### Replaying patches -/

lemma mergeAll_some (x : Value) (ps : List Value) :
    mergeAll (some x) ps = some (ps.foldl (merge .patch) x) := by
  induction ps generalizing x with
  | nil => rfl
  | cons p ps ih => exact ih (x.merge .patch p)

/--
A value into which patches were merged one after the other is not changed when all of them are
merged into it once more, although each of them may undo for a while what a later one did.
-/
theorem foldl_merge_replay (x : ReadValue) (patches : List ReadValue) :
    (patches ++ patches).unattach.foldl (merge .patch) x
      = patches.unattach.foldl (merge .patch) x := by
  have hx : ∀ v, some x.val = some v → v.WellFormed := by
    rintro v ⟨⟩
    exact x.property
  have hpatches : ∀ p ∈ patches.unattach, p.WellFormed := by
    intro p hp
    obtain ⟨h, -⟩ := List.mem_unattach.mp hp
    exact h
  have htwice : mergeAll (some x.val) (patches.unattach ++ patches.unattach)
      = mergeAll (some x.val) patches.unattach := by
    rw [mergeAll_append, mergeAll_mergeAll hpatches hx]
  rw [mergeAll_some, mergeAll_some] at htwice
  rw [List.unattach_append]
  exact Option.some.inj htwice

/-- The number that the replay starts with puts an object aside, which then arises anew. -/
theorem foldl_merge_replay_undone :
    let x := obj [("size", int 1)]
    let number := obj [("chip", int 5)]
    let icon := obj [("chip", obj [("icon", str "eye")])]
    let color := obj [("chip", obj [("color", str "red")])]
    let after := obj [("size", int 1), ("chip", obj [("icon", str "eye"), ("color", str "red")])]
    [number, icon, color].foldl (merge .patch) x = after ∧
      after.merge .patch number = obj [("size", int 1), ("chip", int 5)] ∧
      ([number, icon, color] ++ [number, icon, color]).foldl (merge .patch) x = after := by
  intro x number icon color after
  have hone : [number, icon, color].foldl (merge .patch) x = after := rfl
  have hx : x.WellFormed := wellFormed_obj_singleton trivial
  have hnumber : number.WellFormed := wellFormed_obj_singleton trivial
  have hicon : icon.WellFormed := wellFormed_obj_singleton (wellFormed_obj_singleton trivial)
  have hcolor : color.WellFormed := wellFormed_obj_singleton (wellFormed_obj_singleton trivial)
  refine ⟨hone, rfl, ?_⟩
  have hreplay := foldl_merge_replay ⟨x, hx⟩ [⟨number, hnumber⟩, ⟨icon, hicon⟩, ⟨color, hcolor⟩]
  exact hreplay.trans hone

end ViewAssembly.Value
