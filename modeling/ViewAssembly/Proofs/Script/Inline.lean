import ViewAssembly.Proofs.Entries
import ViewAssembly.Proofs.Value.Weight
import ViewAssembly.Script.Inline

/-!
# What inlining leaves as it is

Inlining functions replaces references by texts, drops those that lead nowhere, and does nothing
else. It leaves a value as it is exactly if every function in it is a text already
(`inlineFunctions_eq_self_iff`).
-/

namespace ViewAssembly.Value

variable {source : FunctionSource} {fs : Entries Value}

mutual

/-- Is every function in a value a text? -/
def isInlined : Value → Bool
  | arr vs => isInlinedElems vs
  | obj fs => isInlinedFields fs
  | _      => true

def isInlinedElems : List Value → Bool
  | []      => true
  | v :: vs => v.isInlined && isInlinedElems vs

def isInlinedFields : List (String × Value) → Bool
  | []                => true
  | (name, v) :: rest =>
    (match name, v with
      | "functions", obj refs => refs.all fun ref => ref.2.isStr
      | _, v                  => v.isInlined)
      && isInlinedFields rest

end

/-! ### References -/

lemma inlineReferences_cons (name : String) (ref : Value) (refs : Entries Value) :
    inlineReferences source ((name, ref) :: refs)
      = ((inlined? source ref).map fun body => (name, str body)).toList
        ++ inlineReferences source refs := by
  rw [inlineReferences, inlineReferences, List.filterMap_cons]
  cases h : inlined? source ref <;> simp [h]

/-- References that are texts stay; others become texts or are dropped. -/
lemma inlineReferences_lightened (source : FunctionSource) (refs : Entries Value) :
    Lightened weightFields (refs.all fun ref => ref.2.isStr) refs
      (inlineReferences source refs) := by
  induction refs with
  | nil => exact .refl ..
  | cons ref refs ih =>
    obtain ⟨name, ref⟩ := ref
    have hle := ih.weight_le
    rw [inlineReferences_cons, List.all_cons]
    by_cases hstr : ∃ s, ref = str s
    · obtain ⟨s, rfl⟩ := hstr
      exact .fields name (.refl weight (str s)) ih
    · have hnotStr : ref.isStr = false := by
        cases ref <;> first | rfl | exact absurd ⟨_, rfl⟩ hstr
      rw [hnotStr, Bool.false_and]
      cases hbody : inlined? source ref with
      | none => exact .of_lt (Nat.lt_of_le_of_lt hle (Nat.lt_add_of_pos_left (Nat.succ_pos _)))
      | some body =>
        -- what stands for a function and is no text is an object
        have hpos : 0 < ref.weight := by
          cases ref with
          | obj fs => exact Nat.succ_pos _
          | str s => exact absurd ⟨s, rfl⟩ hstr
          | _ => cases hbody
        exact .of_lt (Nat.add_lt_add_of_lt_of_le (Nat.succ_lt_succ hpos) hle)

/-! ### Values -/

/-- Is an entry no object of functions? -/
def IsOrdinary (name : String) (v : Value) : Prop := ∀ refs, name = "functions" → v ≠ obj refs

lemma isFunctions_or_isOrdinary (name : String) (v : Value) :
    (∃ refs, name = "functions" ∧ v = obj refs) ∨ IsOrdinary name v := by
  by_cases h : ∃ refs, name = "functions" ∧ v = obj refs
  · exact .inl h
  · exact .inr fun refs hname hv => h ⟨refs, hname, hv⟩

lemma inlineFields_cons {name : String} {v : Value} (h : IsOrdinary name v)
    (rest : List (String × Value)) :
    inlineFields source ((name, v) :: rest)
      = (name, v.inlineFunctions source) :: inlineFields source rest := by
  rw [inlineFields]
  exact h

lemma isInlinedFields_cons {name : String} {v : Value} (h : IsOrdinary name v)
    (rest : List (String × Value)) :
    isInlinedFields ((name, v) :: rest) = (v.isInlined && isInlinedFields rest) := by
  rw [isInlinedFields]
  exact h

def inlineUnder (source : FunctionSource) (name : String) (v : Value) : Value :=
  match name, v with
  | "functions", obj refs => obj (inlineReferences source refs)
  | _, v                  => v.inlineFunctions source

lemma inlineUnder_of_isOrdinary {name : String} {v : Value} (h : IsOrdinary name v) :
    inlineUnder source name v = v.inlineFunctions source := by
  rw [inlineUnder]
  exact h

lemma inlineFields_eq_mapValues (source : FunctionSource) (fs : Entries Value) :
    inlineFields source fs = fs.mapValues (inlineUnder source) := by
  induction fs with
  | nil => rfl
  | cons e fs ih =>
    rw [inlineFields.eq_def]
    exact congrArg ((e.1, inlineUnder source e.1 e.2) :: ·) ih

lemma keys_inlineFields (source : FunctionSource) (fs : Entries Value) :
    Entries.keys (inlineFields source fs) = Entries.keys fs := by
  rw [inlineFields_eq_mapValues, Entries.keys_mapValues]

lemma isInlinedFields_of_texts (h : ∀ e ∈ fs, e.2.isStr = true) : isInlinedFields fs = true := by
  induction fs with
  | nil => rfl
  | cons e fs ih =>
    obtain ⟨name, v⟩ := e
    rw [List.forall_mem_cons] at h
    cases v with
    | str s =>
      have hordinary : IsOrdinary name (str s) := by
        intro refs _ hobj
        cases hobj
      rw [isInlinedFields_cons hordinary, ih h.2]
      rfl
    | _ => cases h.1

/-- Under any other name than that of the functions, the value itself is inlined. -/
lemma get?_inlineFields {name : String} (h : name ≠ "functions") (fs : Entries Value) :
    Entries.get? (inlineFields source fs) name
      = (Entries.get? fs name).map (inlineFunctions source) := by
  have hordinary : inlineUnder source name = inlineFunctions source := by
    funext v
    exact inlineUnder_of_isOrdinary fun _ hname => absurd hname h
  rw [inlineFields_eq_mapValues, Entries.get?_mapValues, hordinary]

lemma get?_inlineFunctions {name : String} {v : Value} (h : name ≠ "functions") :
    (v.inlineFunctions source).get? name = (v.get? name).map (inlineFunctions source) := by
  cases v with
  | obj fs => exact get?_inlineFields h fs
  | _ => rfl

lemma inlineElems_eq_map (vs : List Value) :
    inlineElems source vs = vs.map (inlineFunctions source) := by
  induction vs with
  | nil => rfl
  | cons v vs ih => rw [inlineElems, ih, List.map_cons]

mutual

theorem inlineFunctions_lightened (source : FunctionSource) (v : Value) :
    Lightened weight v.isInlined v (v.inlineFunctions source) := by
  match v with
  | obj fs => exact (inlineFields_lightened source fs).obj
  | arr vs => exact (inlineElems_lightened source vs).arr
  | null | bool _ | int _ | float _ | str _ | shown _ => exact .refl ..

theorem inlineElems_lightened (source : FunctionSource) (vs : List Value) :
    Lightened weightElems (isInlinedElems vs) vs (inlineElems source vs) := by
  match vs with
  | [] => exact .refl ..
  | v :: vs => exact .elems (inlineFunctions_lightened source v) (inlineElems_lightened source vs)

theorem inlineFields_lightened (source : FunctionSource) (fs : List (String × Value)) :
    Lightened weightFields (isInlinedFields fs) fs (inlineFields source fs) := by
  match fs with
  | [] => exact .refl ..
  | (name, v) :: rest =>
    rcases isFunctions_or_isOrdinary name v with ⟨refs, rfl, rfl⟩ | hordinary
    · exact .fields "functions" (inlineReferences_lightened source refs).obj
        (inlineFields_lightened source rest)
    · rw [isInlinedFields_cons hordinary, inlineFields_cons hordinary]
      exact .fields name (inlineFunctions_lightened source v) (inlineFields_lightened source rest)

end

lemma lightens_inlineFunctions (source : FunctionSource) :
    Lightens (inlineFunctions source) isInlined := inlineFunctions_lightened source

/-- A value is left as it is exactly if every function in it is a text. -/
theorem inlineFunctions_eq_self_iff {v : Value} :
    v.inlineFunctions source = v ↔ v.isInlined = true :=
  (inlineFunctions_lightened source v).eq_self_iff

/-! ### Names that are too long -/

lemma eq_inlineFunctions_of_inline {v w : Value} (h : v.inline source = .ok w) :
    w = v.inlineFunctions source := by
  rw [inline] at h
  split at h <;> cases h
  rfl

/-- Functions can be inlined exactly if none of them is looked for under too long a name. -/
lemma isOk_inline_iff {v : Value} :
    (v.inline source).isOk = true ↔ ∀ ref ∈ v.references, source.refuses ref.1 ref.2 = false := by
  rw [inline]
  split
  · next file function hfind =>
    refine iff_of_false nofun fun h => ?_
    have hrefuses := List.find?_some hfind
    have hmem := List.mem_of_find?_eq_some hfind
    exact Bool.noConfusion ((h (file, function) hmem).symm.trans hrefuses)
  · next hfind => exact iff_of_true rfl (by simpa using hfind)

lemma exists_refuses_of_inline_eq_error {v : Value} {what : Malformed}
    (h : v.inline source = .error what) :
    ∃ file function, what = .fileName file ∧ (file, function) ∈ v.references ∧
      source.refuses file function = true := by
  rw [inline] at h
  split at h
  · next file function hfind =>
    cases h
    have hrefuses := List.find?_some hfind
    exact ⟨file, function, rfl, List.mem_of_find?_eq_some hfind, hrefuses⟩
  · cases h

end ViewAssembly.Value
