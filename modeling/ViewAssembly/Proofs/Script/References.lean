import ViewAssembly.Proofs.Script.Inline
import ViewAssembly.Proofs.Value.Parts

/-!
# References in a value

A way through a value leads to an object of functions if it ends under the name `functions` and
passes no other such object. The references of a value are those in the objects to which a way leads
(`mem_references_iff_refersTo`).
-/

namespace ViewAssembly.Value

variable {v w : Value} {refs : Entries Value} {s : Step} {way : List Step} {file function : String}

/-! ### Objects of functions in a value -/

/-- A step leads on unless what it leads to is an object of functions. -/
lemma isOrdinary_iff {n : String} :
    IsOrdinary n w ↔ (Step.name n = .name "functions" → w.isObj = false) := by
  rw [Step.name.injEq]
  constructor
  · intro h hn
    cases w with
    | obj fs => exact absurd rfl (h fs hn)
    | _ => rfl
  · rintro h refs rfl rfl
    cases h rfl

/-- Does a way lead to an object under the name `functions`, and through no other one? -/
inductive LeadsToFunctions : Value → List Step → Entries Value → Prop
  | here {v : Value} {refs : Entries Value} (h : v.get? "functions" = some (obj refs)) :
      LeadsToFunctions v [.name "functions"] refs
  | beyond {v w : Value} {s : Step} {way : List Step} {refs : Entries Value}
      (hs : v.step? s = some w) (hordinary : s = .name "functions" → w.isObj = false)
      (h : LeadsToFunctions w way refs) : LeadsToFunctions v (s :: way) refs

/-- Does a way lead to no object under the name `functions`, and through none? -/
def AvoidsFunctions (v : Value) (way : List Step) : Prop :=
  ∀ above refs, above ++ [.name "functions"] <+: way →
    v.part? (above ++ [.name "functions"]) ≠ some (obj refs)

lemma part?_of_leadsToFunctions (h : v.LeadsToFunctions way refs) :
    v.part? way = some (obj refs) := by
  induction h with
  | here h => exact part?_cons_eq_some_iff.mpr ⟨_, h, rfl⟩
  | beyond hs _ _ ih => rw [part?_cons_of_step? hs, ih]

lemma AvoidsFunctions.not_isObj (h : v.AvoidsFunctions (s :: way)) (hs : v.step? s = some w) :
    s = .name "functions" → w.isObj = false := by
  rintro rfl
  by_contra hobj
  obtain ⟨refs, rfl⟩ := isObj_iff.mp (by simpa using hobj)
  refine h [] refs (List.prefix_append _ _) ?_
  exact part?_cons_eq_some_iff.mpr ⟨_, hs, rfl⟩

lemma AvoidsFunctions.of_step? (h : v.AvoidsFunctions (s :: way)) (hs : v.step? s = some w) :
    w.AvoidsFunctions way := by
  intro above refs hprefix hpart
  refine h (s :: above) refs (List.cons_prefix_cons.mpr ⟨rfl, hprefix⟩) ?_
  rw [List.cons_append, part?_cons_of_step? hs, hpart]

/-! ### References -/

/-- A function that is written out refers to nothing. -/
lemma reference?_of_isStr {ref : Value} (h : ref.isStr = true) : ref.reference? = none := by
  cases ref with
  | str body => rfl
  | _ => cases h

lemma reference?_eq_some_iff {ref : Value} {file function : String} :
    ref.reference? = some (file, function) ↔
      ∃ f g, ref.get? "file" = some f ∧ ref.get? "function" = some g ∧
        f.text = file ∧ g.text = function := by
  cases ref with
  | obj fs =>
    simp only [reference?, Option.bind_eq_bind, Option.bind_eq_some_iff, Option.pure_def,
      Option.some.injEq, Prod.mk.injEq]
    constructor
    · rintro ⟨f, hf, g, hg, rfl, rfl⟩
      exact ⟨f, g, hf, hg, rfl, rfl⟩
    · rintro ⟨f, g, hf, hg, rfl, rfl⟩
      exact ⟨f, hf, g, hg, rfl, rfl⟩
  | _ =>
    constructor
    · intro h
      cases h
    · rintro ⟨f, g, hf, -⟩
      cases hf

def referencesUnder (name : String) (v : Value) : List (String × String) :=
  match name, v with
  | "functions", obj refs => refs.filterMap fun ref => ref.2.reference?
  | _, v                  => v.references

lemma referencesUnder_of_isOrdinary {name : String} (h : IsOrdinary name v) :
    referencesUnder name v = v.references := by
  rw [referencesUnder]
  exact h

lemma referencesFields_cons (name : String) (v : Value) (rest : List (String × Value)) :
    referencesFields ((name, v) :: rest) = referencesUnder name v ++ referencesFields rest := by
  rw [referencesFields.eq_def]
  rfl

lemma referencesFields_eq_flatMap (fs : Entries Value) :
    referencesFields fs = fs.flatMap fun e => referencesUnder e.1 e.2 := by
  induction fs with
  | nil => rfl
  | cons e fs ih => rw [referencesFields_cons, ih, List.flatMap_cons]

lemma referencesElems_eq_flatMap (vs : List Value) :
    referencesElems vs = vs.flatMap references := by
  induction vs with
  | nil => rfl
  | cons v vs ih => rw [referencesElems, ih, List.flatMap_cons]

lemma mem_references_of_functions (h : v.get? "functions" = some (obj refs))
    (hrefs : ∃ e ∈ refs, e.2.reference? = some (file, function)) :
    (file, function) ∈ v.references := by
  obtain ⟨fs, rfl, hget⟩ := exists_obj_of_step?_name h
  rw [references, referencesFields_eq_flatMap]
  exact List.mem_flatMap.mpr ⟨_, Entries.mem_of_get? hget, List.mem_filterMap.mpr hrefs⟩

lemma mem_references_of_step? (hs : v.step? s = some w)
    (hordinary : s = .name "functions" → w.isObj = false) (h : (file, function) ∈ w.references) :
    (file, function) ∈ v.references := by
  cases s with
  | name n =>
    obtain ⟨fs, rfl, hget⟩ := exists_obj_of_step?_name hs
    rw [← referencesUnder_of_isOrdinary (isOrdinary_iff.mpr hordinary)] at h
    rw [references, referencesFields_eq_flatMap]
    exact List.mem_flatMap.mpr ⟨_, Entries.mem_of_get? hget, h⟩
  | place i =>
    obtain ⟨vs, rfl, hget⟩ := exists_arr_of_step?_place hs
    rw [references, referencesElems_eq_flatMap]
    exact List.mem_flatMap.mpr ⟨_, List.mem_of_getElem? hget, h⟩

/-- Does a value hold a reference to a function in a file, where functions are looked for? -/
def RefersTo (v : Value) (file function : String) : Prop :=
  ∃ way refs, v.LeadsToFunctions way refs ∧ ∃ e ∈ refs, e.2.reference? = some (file, function)

lemma RefersTo.of_step? (hs : v.step? s = some w)
    (hordinary : s = .name "functions" → w.isObj = false) (h : w.RefersTo file function) :
    v.RefersTo file function := by
  obtain ⟨way, refs, hleads, hrefs⟩ := h
  exact ⟨s :: way, refs, .beyond hs hordinary hleads, hrefs⟩

lemma refersTo_of_mem_references {v : Value} (hv : v.WellFormed)
    (h : (file, function) ∈ v.references) : v.RefersTo file function := by
  match v with
  | arr vs =>
    rw [references, referencesElems_eq_flatMap] at h
    obtain ⟨w, hw, hmem⟩ := List.mem_flatMap.mp h
    obtain ⟨i, hi⟩ := List.mem_iff_getElem?.mp hw
    have hs : (arr vs).step? (.place i) = some w := hi
    exact (refersTo_of_mem_references (hv.of_step? hs) hmem).of_step? hs nofun
  | obj fs =>
    rw [references, referencesFields_eq_flatMap] at h
    obtain ⟨⟨n, w⟩, hw, hmem⟩ := List.mem_flatMap.mp h
    have hs : (obj fs).step? (.name n) = some w := Entries.get?_of_mem hv.nodup_keys hw
    rcases isFunctions_or_isOrdinary n w with ⟨refs, rfl, rfl⟩ | hordinary
    · exact ⟨[.name "functions"], refs, .here hs, List.mem_filterMap.mp hmem⟩
    · rw [referencesUnder_of_isOrdinary hordinary] at hmem
      exact (refersTo_of_mem_references (hv.of_step? hs) hmem).of_step? hs
        (isOrdinary_iff.mp hordinary)
  | null | bool _ | int _ | float _ | str _ | shown _ => cases h
termination_by sizeOf v
decreasing_by all_goals exact sizeOf_lt_of_step? hs

theorem mem_references_iff_refersTo (hv : v.WellFormed) :
    (file, function) ∈ v.references ↔ v.RefersTo file function := by
  constructor
  · exact refersTo_of_mem_references hv
  · rintro ⟨way, refs, hleads, hrefs⟩
    induction hleads with
    | here hget => exact mem_references_of_functions hget hrefs
    | beyond hs hordinary _ ih =>
      exact mem_references_of_step? hs hordinary (ih (hv.of_step? hs) hrefs)

end ViewAssembly.Value
