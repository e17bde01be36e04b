import ViewAssembly.Proofs.Merge.Leaves
import ViewAssembly.Proofs.Number.Canonical

/-!
# Proper values

A value is proper when it is as it is read from a document: the names of every object in it are
distinct, and its numbers are held in their canonical form. Merging proper values gives a proper
value (`Proper.merge`).
-/

namespace ViewAssembly.Value

mutual

/-- Are all numbers in a value held in their canonical form? -/
def Canonical : Value → Prop
  | float x    => x.Canonical
  | arr vs     => CanonicalElems vs
  | obj fs     => CanonicalFields fs
  | shown form => form.Canonical
  | _          => True

def CanonicalElems : List Value → Prop
  | []      => True
  | v :: vs => v.Canonical ∧ CanonicalElems vs

def CanonicalFields : List (String × Value) → Prop
  | []           => True
  | (_, v) :: fs => v.Canonical ∧ CanonicalFields fs

end

/-- Is a value as it is read: with distinct names in its objects, and canonical numbers? -/
structure Proper (v : Value) : Prop where
  wellFormed : v.WellFormed
  canonical : v.Canonical

variable {v : Value} {vs : List Value} {fs : Entries Value} {n : String}

lemma canonicalElems_iff : CanonicalElems vs ↔ ∀ v ∈ vs, v.Canonical := by
  induction vs with
  | nil => simp [CanonicalElems]
  | cons v vs ih => simp [CanonicalElems, ih]

lemma canonicalFields_iff : CanonicalFields fs ↔ ∀ e ∈ fs, e.2.Canonical := by
  induction fs with
  | nil => simp [CanonicalFields]
  | cons e fs ih => simp [CanonicalFields, ih]

lemma canonical_obj_iff : (obj fs).Canonical ↔ ∀ e ∈ fs, e.2.Canonical := by
  rw [Canonical, canonicalFields_iff]

lemma proper_arr_iff : (arr vs).Proper ↔ ∀ v ∈ vs, v.Proper := by
  constructor
  · rintro ⟨hwf, hcanonical⟩ v hv
    rw [Canonical, canonicalElems_iff] at hcanonical
    exact ⟨wellFormed_arr_iff.mp hwf v hv, hcanonical v hv⟩
  · intro h
    refine ⟨wellFormed_arr_iff.mpr fun v hv => (h v hv).wellFormed, ?_⟩
    rw [Canonical, canonicalElems_iff]
    exact fun v hv => (h v hv).canonical

lemma proper_obj_iff : (obj fs).Proper ↔ fs.keys.Nodup ∧ ∀ e ∈ fs, e.2.Proper := by
  constructor
  · rintro ⟨hwf, hcanonical⟩
    exact ⟨hwf.nodup_keys, fun e he => ⟨hwf.of_mem he, canonical_obj_iff.mp hcanonical e he⟩⟩
  · rintro ⟨hkeys, h⟩
    exact ⟨wellFormed_obj_iff.mpr ⟨hkeys, fun e he => (h e he).wellFormed⟩,
      canonical_obj_iff.mpr fun e he => (h e he).canonical⟩

lemma proper_obj_nil : (obj []).Proper := proper_obj_iff.mpr ⟨List.nodup_nil, nofun⟩

lemma Proper.nodup_keys (h : (obj fs).Proper) : fs.keys.Nodup := h.wellFormed.nodup_keys

lemma Proper.of_get? (h : (obj fs).Proper) (hv : fs.get? n = some v) : v.Proper :=
  (proper_obj_iff.mp h).2 (n, v) (Entries.mem_of_get? hv)

lemma Proper.put (hfs : (obj fs).Proper) (hv : v.Proper) (n : String) :
    (obj (fs.put n v)).Proper := by
  have hkeys : (fs.put n v).keys.Nodup := Entries.nodup_keys_put hfs.nodup_keys
  refine proper_obj_iff.mpr ⟨hkeys, fun e he => ?_⟩
  have hget := Entries.get?_of_mem hkeys he
  rw [Entries.get?_put] at hget
  split_ifs at hget
  · exact Option.some.inj hget ▸ hv
  · exact hfs.of_get? hget

/-! ### Merging proper values -/

theorem Proper.merge {base patch : Value} (side : Side) (hbase : base.Proper)
    (hpatch : patch.Proper) : (base.merge side patch).Proper := by
  by_cases hobjects : base.isObj = true ∧ patch.isObj = true
  case neg =>
    rw [merge_eq_winner (by simpa [imp_iff_not_or] using hobjects)]
    cases side <;> assumption
  obtain ⟨bs, rfl⟩ := isObj_iff.mp hobjects.1
  obtain ⟨ps, hps⟩ := isObj_iff.mp hobjects.2
  have hpatch' : (obj ps).Proper := hps ▸ hpatch
  have hkeys : (Entries.keys (mergeFields side bs ps)).Nodup :=
    nodup_keys_mergeFields hbase.nodup_keys
  rw [hps]
  refine proper_obj_iff.mpr ⟨hkeys, fun e he => ?_⟩
  have hget := Entries.get?_of_mem hkeys he
  rw [get?_mergeFields hpatch'.nodup_keys] at hget
  cases hp : Entries.get? ps e.1 with
  | none =>
    rw [hp] at hget
    exact hbase.of_get? hget
  | some p =>
    cases hb : Entries.get? bs e.1 with
    | none =>
      rw [hp, hb] at hget
      exact Option.some.inj hget ▸ hpatch'.of_get? hp
    | some b =>
      rw [hp, hb] at hget
      exact Option.some.inj hget ▸ Proper.merge side (hbase.of_get? hb) (hpatch'.of_get? hp)
termination_by sizeOf patch
decreasing_by exact hps ▸ sizeOf_lt_of_get? hp

end ViewAssembly.Value
