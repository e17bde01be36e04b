import ViewAssembly.Merge
import ViewAssembly.Proofs.Entries
import ViewAssembly.Script.Inline

/-!
# What holds of all names in a value

A property that all names in some values have is one of all names in what is made of them: writing
and erasing entries, merging, and inlining functions bring in no names but those that are given.
-/

namespace ViewAssembly

namespace Value

/-- Does every name in a value have a property? -/
def AllNames (p : String → Prop) (v : Value) : Prop := ∀ n ∈ v.names, p n

variable {p : String → Prop} {v w : Value} {vs : List Value} {es fs : Entries Value}
variable {e : String × Value} {n : String}

@[simp] lemma allNames_null : null.AllNames p := nofun

@[simp] lemma allNames_bool (b : Bool) : (bool b).AllNames p := nofun

@[simp] lemma allNames_int (i : Int) : (int i).AllNames p := nofun

@[simp] lemma allNames_str (s : String) : (str s).AllNames p := nofun

lemma allNames_arr_iff : (arr vs).AllNames p ↔ ∀ v ∈ vs, v.AllNames p := by
  change (∀ n ∈ namesElems vs, p n) ↔ _
  induction vs with
  | nil => simp [namesElems]
  | cons v vs ih =>
    rw [namesElems, List.forall_mem_append, ih, List.forall_mem_cons]
    rfl

lemma allNames_obj_iff : (obj fs).AllNames p ↔ ∀ e ∈ fs, p e.1 ∧ e.2.AllNames p := by
  change (∀ n ∈ namesFields fs, p n) ↔ _
  induction fs with
  | nil => simp [namesFields]
  | cons e fs ih =>
    obtain ⟨k, v⟩ := e
    rw [namesFields, List.cons_append, List.forall_mem_cons, List.forall_mem_append, ih,
      List.forall_mem_cons, and_assoc]
    rfl

@[simp] lemma allNames_obj_nil : (obj []).AllNames p := nofun

lemma allNames_obj_cons_iff {k : String} :
    (obj ((k, v) :: fs)).AllNames p ↔ p k ∧ v.AllNames p ∧ (obj fs).AllNames p := by
  rw [allNames_obj_iff, List.forall_mem_cons, ← allNames_obj_iff, and_assoc]

lemma allNames_map_obj_iff {fss : List (Entries Value)} :
    (arr (fss.map obj)).AllNames p ↔ ∀ fs ∈ fss, (obj fs).AllNames p := by
  rw [allNames_arr_iff, List.forall_mem_map]

namespace AllNames

/-! ### Entries -/

lemma of_mem (h : (obj fs).AllNames p) (he : e ∈ fs) : p e.1 ∧ e.2.AllNames p :=
  allNames_obj_iff.mp h e he

lemma of_get? (h : (obj fs).AllNames p) (hv : fs.get? n = some v) : v.AllNames p :=
  (h.of_mem (Entries.mem_of_get? hv)).2

lemma of_mem_keys (h : (obj fs).AllNames p) (hn : n ∈ fs.keys) : p n := by
  obtain ⟨e, he, rfl⟩ := List.mem_map.mp hn
  exact (h.of_mem he).1

lemma getD_get? (h : (obj fs).AllNames p) (hw : w.AllNames p) (n : String) :
    ((fs.get? n).getD w).AllNames p := by
  cases hv : fs.get? n with
  | none => exact hw
  | some v => exact h.of_get? hv

lemma of_filled? (h : (obj fs).AllNames p) (hv : (obj fs).filled? n = some v) : v.AllNames p :=
  h.of_get? (Option.filter_eq_some_iff.mp hv).1

lemma of_given? (h : (obj fs).AllNames p) (hv : (obj fs).given? n = some v) : v.AllNames p :=
  h.of_get? (Option.filter_eq_some_iff.mp hv).1

lemma of_subset (h : (obj es).AllNames p) (hfs : fs ⊆ es) : (obj fs).AllNames p :=
  allNames_obj_iff.mpr fun _ he => h.of_mem (hfs he)

lemma append (hes : (obj es).AllNames p) (hfs : (obj fs).AllNames p) :
    (obj (es ++ fs)).AllNames p := by
  rw [allNames_obj_iff] at hes hfs ⊢
  exact List.forall_mem_append.mpr ⟨hes, hfs⟩

lemma put (h : (obj fs).AllNames p) (hn : p n) (hv : v.AllNames p) :
    (obj (fs.put n v)).AllNames p := by
  refine allNames_obj_iff.mpr fun e he => ?_
  rcases Entries.eq_or_mem_of_mem_put he with rfl | he
  · exact ⟨hn, hv⟩
  · exact h.of_mem he

lemma putNew (h : (obj fs).AllNames p) (hn : p n) (hv : v.AllNames p) :
    (obj (fs.putNew n v)).AllNames p := by
  rw [Entries.putNew]
  split
  · exact h
  · exact h.put hn hv

lemma erase (h : (obj fs).AllNames p) (n : String) : (obj (fs.erase n)).AllNames p :=
  h.of_subset (List.filter_sublist.subset)

lemma restrict (h : (obj fs).AllNames p) (q : String → Bool) :
    (obj (fs.restrict q)).AllNames p :=
  h.of_subset (List.filter_sublist.subset)

/-! ### Merging -/

mutual

theorem merge {base patch : Value} (winner : Side) (hbase : base.AllNames p)
    (hpatch : patch.AllNames p) : (base.merge winner patch).AllNames p := by
  match patch with
  | obj ps =>
    cases base with
    | obj bs => exact mergeFields winner hbase hpatch
    | _ => cases winner <;> assumption
  | arr _ | null | bool _ | int _ | float _ | str _ | shown _ => cases winner <;> assumption

theorem mergeFields {bs ps : Entries Value} (winner : Side) (hbs : (obj bs).AllNames p)
    (hps : (obj ps).AllNames p) : (obj (Value.mergeFields winner bs ps)).AllNames p := by
  match ps with
  | [] => exact hbs
  | (k, patch) :: ps =>
    obtain ⟨hk, hpatch, hps⟩ := allNames_obj_cons_iff.mp hps
    rw [Value.mergeFields]
    refine mergeFields winner (hbs.put hk ?_) hps
    cases hb : bs.get? k with
    | none => exact hpatch
    | some b => exact merge winner (hbs.of_get? hb) hpatch

end

/-! ### Inlining functions -/

lemma inlineReferences (h : (obj fs).AllNames p) (source : FunctionSource) :
    (obj (Value.inlineReferences source fs)).AllNames p := by
  refine allNames_obj_iff.mpr fun e he => ?_
  obtain ⟨⟨name, ref⟩, href, hbody⟩ := List.mem_filterMap.mp he
  obtain ⟨body, -, rfl⟩ := Option.map_eq_some_iff.mp hbody
  exact ⟨(h.of_mem href).1, allNames_str body⟩

mutual

theorem inlineFunctions (source : FunctionSource) {v : Value} (h : v.AllNames p) :
    (v.inlineFunctions source).AllNames p := by
  match v with
  | arr vs => exact inlineElems source h
  | obj fs => exact inlineFields source h
  | null | bool _ | int _ | float _ | str _ | shown _ => exact h

theorem inlineElems (source : FunctionSource) {vs : List Value} (h : (arr vs).AllNames p) :
    (arr (Value.inlineElems source vs)).AllNames p := by
  match vs with
  | [] => exact h
  | v :: vs =>
    obtain ⟨hv, hvs⟩ := List.forall_mem_cons.mp (allNames_arr_iff.mp h)
    have hrest := inlineElems source (allNames_arr_iff.mpr hvs)
    rw [Value.inlineElems]
    exact allNames_arr_iff.mpr (List.forall_mem_cons.mpr
      ⟨inlineFunctions source hv, allNames_arr_iff.mp hrest⟩)

theorem inlineFields (source : FunctionSource) {fs : Entries Value} (h : (obj fs).AllNames p) :
    (obj (Value.inlineFields source fs)).AllNames p := by
  match fs with
  | [] => exact h
  | (name, v) :: fs =>
    obtain ⟨hname, hv, hfs⟩ := allNames_obj_cons_iff.mp h
    rw [Value.inlineFields.eq_def]
    refine allNames_obj_cons_iff.mpr ⟨hname, ?_, inlineFields source hfs⟩
    split
    · exact inlineReferences hv source
    · exact inlineFunctions source hv

end

end AllNames

end Value

end ViewAssembly
