import ViewAssembly.Proofs.Override.Apply
import ViewAssembly.Proofs.Override.Kind
import ViewAssembly.Proofs.Override.Select
import ViewAssembly.Proofs.Override.Upsert

/-!
# Overrides that merge

Overriding and merging are two recursions over the same objects. They differ in what they make of
the word `off` and of lists that select elements or bring objects in; everything else they treat
alike. So an override gives what merging it gives, whatever section it meets, exactly if it holds
none of these (`apply_eq_merge_iff`).
-/

namespace ViewAssembly.Override

open Value

variable {v : Value} {vs : List Value} {o : Entries Value}

mutual

/--
Is no entry in an override value, at any depth of objects, the word `off` or a list that selects
elements or brings objects in?
-/
def OnlyMerges : Value → Prop
  | .obj o  => OnlyMergesFields o
  | .arr vs => vs = [] ∨ (∀ v ∈ vs, v.isObj = false) ∧ ∃ v ∈ vs, v.isStr = false
  | v       => v.saysOff = false

def OnlyMergesFields : List (String × Value) → Prop
  | []          => True
  | (_, v) :: o => OnlyMerges v ∧ OnlyMergesFields o

end

lemma onlyMergesFields_iff : OnlyMergesFields o ↔ ∀ e ∈ o, OnlyMerges e.2 := by
  induction o with
  | nil => simp [OnlyMergesFields]
  | cons e o ih => simp [OnlyMergesFields, ih]

lemma onlyMerges_arr_iff : OnlyMerges (.arr vs) ↔ kind (.arr vs) = .scalarList := by
  rw [OnlyMerges, kind_arr_eq_scalarList_iff]

lemma onlyMerges_scalar (hobj : ∀ o, v ≠ .obj o) (harr : ∀ vs, v ≠ .arr vs) :
    OnlyMerges v ↔ v.saysOff = false := by
  rw [OnlyMerges]
  · exact hobj
  · exact harr

/-! ### What only merges -/

lemma fieldsOf_eq_nil {draft : Option Value} (h : ∀ v, draft = some v → v.isObj = false) :
    fieldsOf draft = [] := by
  cases draft with
  | none => rfl
  | some v =>
    have hv := h v rfl
    cases v <;> first | rfl | cases hv

mutual

/-- A value that only merges makes of an entry what merging it makes of it. -/
theorem overrideValue_eq_mergeOnto {v : Value} (hv : v.WellFormed) (h : OnlyMerges v)
    (draft : Option Value) : overrideValue draft v = mergeOnto draft v := by
  match v with
  | .obj o =>
    obtain ⟨hkeys, hvalues⟩ := wellFormed_obj_iff.mp hv
    have hfields := overrideFields_eq_mergeFields hvalues (onlyMergesFields_iff.mp h)
    by_cases hobj : ∃ bs, draft = some (.obj bs)
    · obtain ⟨bs, rfl⟩ := hobj
      exact congrArg (fun fs => some (Value.obj fs)) (hfields bs)
    · -- both start from nothing, the one entry by entry and the other with the whole object
      have hnone : ∀ v, draft = some v → v.isObj = false := by
        rintro v rfl
        cases v <;> first | rfl | exact absurd ⟨_, rfl⟩ hobj
      rw [overrideValue, fieldsOf_eq_nil hnone, hfields, mergeFields_nil hkeys,
        mergeOnto_obj_of_not_isObj hnone]
  | .arr vs =>
    rw [overrideValue, overrideList_scalarList (onlyMerges_arr_iff.mp h),
      mergeOnto_of_not_isObj rfl]
  | .null | .bool _ | .int _ | .float _ | .str _ | .shown _ =>
    have hoff := (onlyMerges_scalar (by nofun) (by nofun)).mp h
    rw [overrideValue_scalar (by nofun) (by nofun), hoff, mergeOnto_of_not_isObj rfl]
    rfl

theorem overrideFields_eq_mergeFields {o : Entries Value} (ho : ∀ e ∈ o, e.2.WellFormed)
    (h : ∀ e ∈ o, OnlyMerges e.2) (draft : Entries Value) :
    overrideFields draft o = mergeFields .patch draft o := by
  match o with
  | [] => rfl
  | (k, v) :: o =>
    obtain ⟨hv, ho⟩ := List.forall_mem_cons.mp ho
    obtain ⟨hmerges, h⟩ := List.forall_mem_cons.mp h
    rw [overrideFields, overrideValue_eq_mergeOnto hv hmerges, mergeFields_cons]
    exact overrideFields_eq_mergeFields ho h _

end

/-! ### What does more than merge -/

/-- Bringing objects into a list does not shorten it. -/
lemma isSome_getElem?_upsert (es : List Value) (os : List (Entries Value)) {i : Nat}
    (h : i < es.length) : ((upsert es os)[i]?).isSome = true := by
  rw [getElem?_upsert, List.getElem?_eq_getElem h, mergeAll_some]
  rfl

/-- A list that takes the place of every list does not look at what it meets. -/
lemma kind_of_overrideList_eq (h : ∀ draft, overrideList draft vs = .arr vs) :
    kind (.arr vs) = .scalarList := by
  have hobjects : ¬ (kind (.arr vs) = .objectList ∨ kind (.arr vs) = .mixedList) := by
    intro hkind
    -- a list that is longer stays longer
    have hlong := h (some (.arr (vs ++ [.null])))
    rw [overrideList_objects hkind] at hlong
    have hsome : ((upsert (vs ++ [.null]) (objectsOf vs))[vs.length]?).isSome = true :=
      isSome_getElem?_upsert _ _ (by simp)
    rw [show upsert (vs ++ [.null]) (objectsOf vs) = vs from Value.arr.inj hlong,
      List.getElem?_eq_none (Nat.le_refl _)] at hsome
    cases hsome
  rcases kind_arr_cases vs with hkind | hkind | hkind | hkind
  · -- nothing can be selected from an empty list
    have hempty := h (some (.arr []))
    rw [overrideList_stringList hkind] at hempty
    have hnil : vs = [] := by
      apply List.eq_nil_iff_forall_not_mem.mpr
      intro v hv
      rw [← Value.arr.inj hempty] at hv
      exact List.not_mem_nil (mem_of_mem_select hv)
    rw [hnil]
    rfl
  · exact absurd (.inl hkind) hobjects
  · exact absurd (.inr hkind) hobjects
  · exact hkind

/-- Does a value make of every entry, and where there is none, what merging it makes of it? -/
structure MergesAlways (v : Value) : Prop where
  eq_mergeOnto : ∀ draft, overrideValue draft v = mergeOnto draft v

/-- An entry can meet anything, or nothing. -/
lemma mergesAlways_of_forall (ho : o.keys.Nodup)
    (h : ∀ draft, overrideFields draft o = mergeFields .patch draft o) {e : String × Value}
    (he : e ∈ o) : MergesAlways e.2 := by
  constructor
  intro draft
  have hget : ∃ bs : Entries Value, bs.get? e.1 = draft := by
    cases draft with
    | none => exact ⟨[], rfl⟩
    | some v => exact ⟨[(e.1, v)], Entries.get?_cons_self ..⟩
  obtain ⟨bs, rfl⟩ := hget
  have hentry := congrArg (Entries.get? · e.1) (h bs)
  simp only [overrideFields_eq_apply, get?_apply ho, get?_mergeFields ho, Entries.get?_of_mem ho he,
    if_true] at hentry
  exact hentry

mutual

/-- What makes of every entry what merging makes of it only merges. -/
theorem onlyMerges_of_mergesAlways {v : Value} (hv : v.WellFormed) (h : MergesAlways v) :
    OnlyMerges v := by
  match v with
  | .obj o =>
    obtain ⟨hkeys, hvalues⟩ := wellFormed_obj_iff.mp hv
    have hfields (bs : Entries Value) : overrideFields bs o = mergeFields .patch bs o := by
      simpa [overrideValue, fieldsOf, fields?, mergeOnto_obj] using h.eq_mergeOnto (some (.obj bs))
    exact onlyMergesFields_of_mergesAlways hvalues fun e he =>
      mergesAlways_of_forall hkeys hfields he
  | .arr vs =>
    refine onlyMerges_arr_iff.mpr (kind_of_overrideList_eq fun draft => ?_)
    have hdraft := h.eq_mergeOnto draft
    rw [overrideValue, mergeOnto_of_not_isObj rfl] at hdraft
    exact Option.some.inj hdraft
  | .null | .bool _ | .int _ | .float _ | .str _ | .shown _ =>
    refine (onlyMerges_scalar (by nofun) (by nofun)).mpr ?_
    rw [← isSome_overrideValue none, h.eq_mergeOnto none]
    rfl

theorem onlyMergesFields_of_mergesAlways {o : Entries Value} (ho : ∀ e ∈ o, e.2.WellFormed)
    (h : ∀ e ∈ o, MergesAlways e.2) : OnlyMergesFields o := by
  match o with
  | [] => trivial
  | (k, v) :: o =>
    obtain ⟨hv, ho⟩ := List.forall_mem_cons.mp ho
    obtain ⟨hmerges, h⟩ := List.forall_mem_cons.mp h
    exact ⟨onlyMerges_of_mergesAlways hv hmerges, onlyMergesFields_of_mergesAlways ho h⟩

end

/--
Overriding a section gives what merging gives, whatever the section holds, exactly if no entry of
the override, at any depth of objects, is the word `off` or a list that holds an object or nothing
but texts. An empty list is neither.
-/
theorem apply_eq_merge_iff (o : ReadObject) :
    (∀ draft : Entries Value,
        Value.obj (apply (allowing none true) draft o) = (Value.obj draft).merge .patch (.obj o)) ↔
      ∀ e ∈ o.val, OnlyMerges e.2 := by
  obtain ⟨o, ho⟩ := o
  simp only [apply_allowing_none]
  obtain ⟨hkeys, hvalues⟩ := wellFormed_obj_iff.mp ho
  constructor
  · intro h
    have hfields (draft : Entries Value) : overrideFields draft o = mergeFields .patch draft o :=
      Value.obj.inj (h draft)
    intro e he
    exact onlyMerges_of_mergesAlways (hvalues e he) (mergesAlways_of_forall hkeys hfields he)
  · intro h draft
    rw [overrideFields_eq_mergeFields hvalues h]
    rfl

/-- Nested objects are merged, and a list of numbers takes the place of what it meets. -/
theorem apply_eq_merge_iff_nested :
    let o := [("chip", Value.obj [("icon", .str "eye"), ("sizes", .arr [.int 1, .str "l"])]),
      ("tags", .arr [])]
    let draft := [("tags", Value.str "new"), ("chip", .obj [("color", .str "red")])]
    (Value.obj o).WellFormed ∧ (∀ e ∈ o, OnlyMerges e.2) ∧
      Value.obj (apply (allowing none true) draft o) = (Value.obj draft).merge .patch (.obj o) := by
  intro o draft
  have ho : (Value.obj o).WellFormed := by
    simp [o, WellFormed, WellFormedFields, WellFormedElems]
  have hmerges : ∀ e ∈ o, OnlyMerges e.2 := by
    have htext : (Value.str "eye").saysOff = false := by decide
    simp [o, OnlyMerges, OnlyMergesFields, htext, isObj, isStr, fields?, str?]
  exact ⟨ho, hmerges, (apply_eq_merge_iff ⟨o, ho⟩).mpr hmerges draft⟩

end ViewAssembly.Override
