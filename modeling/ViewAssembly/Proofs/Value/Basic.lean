import ViewAssembly.Proofs.Entries
import ViewAssembly.Value

/-!
# Objects among values

What it means that a value is an object, and that it is none.
-/

namespace ViewAssembly.Value

variable {v : Value}

lemma isObj_iff : v.isObj = true ↔ ∃ fs, v = obj fs := by
  constructor
  · intro h
    cases v <;> first | exact ⟨_, rfl⟩ | cases h
  · rintro ⟨fs, rfl⟩
    rfl

lemma fields?_eq_some_iff {fs : Entries Value} : v.fields? = some fs ↔ v = obj fs := by
  cases v <;> simp [fields?]

lemma str?_eq_some_iff {s : String} : v.str? = some s ↔ v = str s := by
  cases v <;> simp [str?]

/-- A value that is no object has nothing under any name. -/
lemma get?_of_not_isObj (h : v.isObj = false) (n : String) : v.get? n = none := by
  cases v <;> first | rfl | cases h

lemma sizeOf_lt_of_get? {ps : Entries Value} {n : String} {v : Value} (h : ps.get? n = some v) :
    sizeOf v < sizeOf (obj ps) := by
  have hmem := List.sizeOf_lt_of_mem (Entries.mem_of_get? h)
  simp only [Prod.mk.sizeOf_spec, obj.sizeOf_spec] at hmem ⊢
  omega

/-- A list of objects is made of lists of entries. -/
lemma exists_map_obj {vs : List Value} (h : ∀ v ∈ vs, v.isObj = true) :
    ∃ es : List (Entries Value), vs = es.map obj ∧ vs.mapM fields? = some es := by
  induction vs with
  | nil => exact ⟨[], rfl, rfl⟩
  | cons v vs ih =>
    obtain ⟨fs, rfl⟩ := isObj_iff.mp (h v List.mem_cons_self)
    obtain ⟨es, rfl, hes⟩ := ih fun w hw => h w (List.mem_cons_of_mem _ hw)
    exact ⟨fs :: es, rfl, by rw [List.mapM_cons, hes]; rfl⟩

lemma eq_map_obj_of_mapM {vs : List Value} {es : List (Entries Value)}
    (h : vs.mapM fields? = some es) : vs = es.map obj := by
  induction vs generalizing es with
  | nil =>
    cases h
    rfl
  | cons v vs ih =>
    simp only [List.mapM_cons, Option.bind_eq_bind, Option.bind_eq_some_iff] at h
    obtain ⟨fs, hfs, rest, hrest, h⟩ := h
    cases h
    rw [List.map_cons, ← ih hrest, fields?_eq_some_iff.mp hfs]

end ViewAssembly.Value
