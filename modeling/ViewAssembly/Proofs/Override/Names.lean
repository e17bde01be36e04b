import ViewAssembly.Proofs.Override.Apply
import ViewAssembly.Proofs.Override.Kind
import ViewAssembly.Proofs.Override.Select
import ViewAssembly.Proofs.Value.Names

/-!
# What holds of all names in an overridden section

An override writes names of its own into a section, and otherwise keeps or drops what is there. So
a property that all names in a section and in an override have is one of all names in what the
override makes of the section (`Override.allNames_apply`).
-/

namespace ViewAssembly.Override

open Value

variable {p : String → Prop} {draft : Option Value} {es vs : List Value} {v w : Value}
variable {patch fs os : Entries Value}

/-! ### Lists -/

lemma allNames_mergeInto (name : String) (v : Value) (hes : ∀ e ∈ es, e.AllNames p)
    (hpatch : (obj patch).AllNames p) : ∀ e ∈ mergeInto name v patch es, e.AllNames p := by
  induction es with
  | nil =>
    rw [mergeInto, List.forall_mem_singleton]
    exact hpatch
  | cons e es ih =>
    obtain ⟨he, hes⟩ := List.forall_mem_cons.mp hes
    rw [mergeInto]
    split
    · exact List.forall_mem_cons.mpr ⟨he.merge .patch hpatch, hes⟩
    · exact List.forall_mem_cons.mpr ⟨he, ih hes⟩

lemma allNames_upsertOne (hes : ∀ e ∈ es, e.AllNames p) (hpatch : (obj patch).AllNames p) :
    ∀ e ∈ upsertOne es patch, e.AllNames p := by
  rw [upsertOne]
  split
  · exact allNames_mergeInto _ _ hes hpatch
  · split
    · exact hes
    · rw [List.forall_mem_append, List.forall_mem_singleton]
      exact ⟨hes, hpatch⟩

lemma allNames_upsert {patches : List (Entries Value)} (hes : ∀ e ∈ es, e.AllNames p)
    (hpatches : ∀ patch ∈ patches, (obj patch).AllNames p) :
    ∀ e ∈ upsert es patches, e.AllNames p := by
  induction patches generalizing es with
  | nil => exact hes
  | cons patch patches ih =>
    obtain ⟨hpatch, hpatches⟩ := List.forall_mem_cons.mp hpatches
    exact ih (allNames_upsertOne hes hpatch) hpatches

lemma allNames_elemsOf (hdraft : ∀ v, draft = some v → v.AllNames p) :
    ∀ e ∈ elemsOf draft, e.AllNames p := by
  match draft with
  | some (.arr es) => exact allNames_arr_iff.mp (hdraft _ rfl)
  | none => exact nofun
  | some .null | some (.bool _) | some (.int _) | some (.float _) | some (.str _)
  | some (.obj _) | some (.shown _) => exact nofun

lemma allNames_fieldsOf (hdraft : ∀ v, draft = some v → v.AllNames p) :
    (obj (fieldsOf draft)).AllNames p := by
  match draft with
  | some (.obj fs) => exact hdraft _ rfl
  | none => exact nofun
  | some .null | some (.bool _) | some (.int _) | some (.float _) | some (.str _)
  | some (.arr _) | some (.shown _) => exact nofun

lemma allNames_objectsOf (hvs : ∀ v ∈ vs, v.AllNames p) :
    ∀ o ∈ objectsOf vs, (obj o).AllNames p := by
  intro o ho
  obtain ⟨v, hv, hfields⟩ := List.mem_filterMap.mp ho
  cases v with
  | obj fs =>
    cases hfields
    exact hvs _ hv
  | _ => cases hfields

lemma allNames_overrideList (hdraft : ∀ v, draft = some v → v.AllNames p)
    (hvs : (arr vs).AllNames p) : (overrideList draft vs).AllNames p := by
  have hobjects : (arr (upsert (elemsOf draft) (objectsOf vs))).AllNames p :=
    allNames_arr_iff.mpr (allNames_upsert (allNames_elemsOf hdraft)
      (allNames_objectsOf (allNames_arr_iff.mp hvs)))
  rcases kind_arr_cases vs with hkind | hkind | hkind | hkind
  · rw [overrideList_stringList hkind]
    split
    · next es =>
      have hes := allNames_arr_iff.mp (hdraft _ rfl)
      exact allNames_arr_iff.mpr fun e he => hes e (mem_of_mem_select he)
    · exact hvs
  · rw [overrideList_objects (.inl hkind)]
    exact hobjects
  · rw [overrideList_objects (.inr hkind)]
    exact hobjects
  · rw [overrideList_scalarList hkind]
    exact hvs

/-! ### Values and sections -/

lemma allNames_applyEntry {k : String} (hfs : (obj fs).AllNames p) (hk : p k)
    (hv : ∀ w, overrideValue (fs.get? k) v = some w → w.AllNames p) :
    (obj (applyEntry fs k v)).AllNames p := by
  rw [applyEntry]
  cases hout : overrideValue (fs.get? k) v with
  | none => exact hfs.erase k
  | some w => exact hfs.put hk (hv w hout)

mutual

theorem allNames_overrideValue {draft : Option Value} {v : Value}
    (hdraft : ∀ v, draft = some v → v.AllNames p) (hv : v.AllNames p) :
    ∀ w, overrideValue draft v = some w → w.AllNames p := by
  match v with
  | .obj os =>
    intro w h
    obtain rfl := Option.some.inj h
    exact allNames_overrideFields (allNames_fieldsOf hdraft) hv
  | .arr vs =>
    intro w h
    obtain rfl := Option.some.inj h
    exact allNames_overrideList hdraft hv
  | .null | .bool _ | .int _ | .float _ | .str _ | .shown _ =>
    intro w h
    rw [overrideValue_scalar ?_ ?_] at h
    · split at h <;> cases h
      exact hv
    · exact nofun
    · exact nofun

theorem allNames_overrideFields {fs os : Entries Value} (hfs : (obj fs).AllNames p)
    (hos : (obj os).AllNames p) : (obj (overrideFields fs os)).AllNames p := by
  match os with
  | [] => exact hfs
  | (k, v) :: os =>
    obtain ⟨hk, hv, hos⟩ := allNames_obj_cons_iff.mp hos
    rw [overrideFields]
    have hentry : (obj (applyEntry fs k v)).AllNames p :=
      allNames_applyEntry hfs hk (allNames_overrideValue (fun _ => hfs.of_get?) hv)
    exact allNames_overrideFields hentry hos

end

theorem allNames_apply (allows : String → Bool) (hfs : (obj fs).AllNames p)
    (hos : (obj os).AllNames p) : (obj (apply allows fs os)).AllNames p := by
  induction os generalizing fs with
  | nil => exact hfs
  | cons e os ih =>
    obtain ⟨k, v⟩ := e
    obtain ⟨hk, hv, hos⟩ := allNames_obj_cons_iff.mp hos
    rw [apply_cons]
    refine ih ?_ hos
    split
    · exact allNames_applyEntry hfs hk (allNames_overrideValue (fun _ => hfs.of_get?) hv)
    · exact hfs

end ViewAssembly.Override
