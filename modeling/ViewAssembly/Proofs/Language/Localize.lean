import ViewAssembly.Language.Localize
import ViewAssembly.Proofs.Entries
import ViewAssembly.Proofs.Value.Weight

/-!
# What localizing leaves as it is

Localizing a value replaces objects by texts and does nothing else. It leaves a value as it is
exactly if the value holds no object that stands for a text (`localizeWith_eq_self_iff`).
-/

namespace ViewAssembly.Value

variable {lang : String} {known : List String} {fs : Entries Value}

mutual

/-- Is there no object in a value that stands for a text, given the known languages? -/
def isLocalized (known : List String) : Value → Bool
  | obj fs => !(obj fs).isTextFor known && isLocalizedFields known fs
  | arr vs => isLocalizedElems known vs
  | _      => true

def isLocalizedElems (known : List String) : List Value → Bool
  | []      => true
  | v :: vs => v.isLocalized known && isLocalizedElems known vs

/-- Is there no object in the entries of an object that stands for a text, as far as it has to? -/
def isLocalizedFields (known : List String) : List (String × Value) → Bool
  | []           => true
  | (k, v) :: fs =>
    !(isTextName k && v.isPerLanguage) && v.isLocalized known && isLocalizedFields known fs

end

/-- An object that stands for a text under its name is heavier than a text. -/
lemma lightened_str_of_isPerLanguage {v : Value} (h : v.isPerLanguage = true) (s : String) :
    Lightened weight false v (str s) := by
  cases v with
  | obj fs => exact .of_lt (Nat.succ_pos _)
  | _ => cases h

mutual

theorem localizeWith_lightened (lang : String) (known : List String) (v : Value) :
    Lightened weight (v.isLocalized known) v (v.localizeWith lang known) := by
  match v with
  | obj fs =>
    rw [isLocalized, localizeWith]
    cases (obj fs).isTextFor known with
    | true => exact .of_lt (Nat.succ_pos _)
    | false => exact (localizeFields_lightened lang known fs).obj
  | arr vs => exact (localizeElems_lightened lang known vs).arr
  | null | bool _ | int _ | float _ | str _ | shown _ => exact .refl ..

theorem localizeElems_lightened (lang : String) (known : List String) (vs : List Value) :
    Lightened weightElems (isLocalizedElems known vs) vs (localizeElems lang known vs) := by
  match vs with
  | [] => exact .refl ..
  | v :: vs =>
    exact .elems (localizeWith_lightened lang known v) (localizeElems_lightened lang known vs)

theorem localizeFields_lightened (lang : String) (known : List String)
    (fs : List (String × Value)) :
    Lightened weightFields (isLocalizedFields known fs) fs (localizeFields lang known fs) := by
  match fs with
  | [] => exact .refl ..
  | (k, v) :: fs =>
    rw [isLocalizedFields, localizeFields]
    refine .fields k ?_ (localizeFields_lightened lang known fs)
    cases htext : isTextName k && v.isPerLanguage with
    | true => exact lightened_str_of_isPerLanguage (Bool.and_eq_true_iff.mp htext).2 _
    | false => exact localizeWith_lightened lang known v

end

lemma lightens_localizeWith (lang : String) (known : List String) :
    Lightens (localizeWith lang known) (isLocalized known) := localizeWith_lightened lang known

/-- A value is left as it is exactly if it holds no object that stands for a text. -/
theorem localizeWith_eq_self_iff {v : Value} :
    v.localizeWith lang known = v ↔ v.isLocalized known = true :=
  (localizeWith_lightened lang known v).eq_self_iff

lemma isLocalizedFields_of_texts (h : ∀ e ∈ fs, e.2.isStr = true) :
    isLocalizedFields known fs = true := by
  induction fs with
  | nil => rfl
  | cons e fs ih =>
    obtain ⟨name, v⟩ := e
    rw [List.forall_mem_cons] at h
    cases v with
    | str s =>
      rw [isLocalizedFields, ih h.2]
      simp [isPerLanguage, isLocalized]
    | _ => cases h.1

/-! ### Entries of a localized object -/

/-- What has an entry that is no text stands for no text. -/
lemma isPerLanguage_of_get? {name : String} {v : Value} (h : fs.get? name = some v)
    (hstr : v.isStr = false) : (obj fs).isPerLanguage = false := by
  refine Bool.eq_false_iff.mpr fun htext => ?_
  have hall := List.all_eq_true.mp (Bool.and_eq_true_iff.mp htext).2 _ (Entries.mem_of_get? h)
  rw [hstr, Bool.and_false] at hall
  exact Bool.false_ne_true hall

lemma keys_localizeFields (lang : String) (known : List String) (fs : Entries Value) :
    Entries.keys (localizeFields lang known fs) = Entries.keys fs := by
  induction fs with
  | nil => rfl
  | cons e fs ih =>
    rw [localizeFields.eq_def]
    exact congrArg (e.1 :: ·) ih

/-- An object keeps its names when it is localized, unless it becomes a text. -/
lemma isSome_get?_localizeWith (fs : Entries Value) (name : String) :
    (((obj fs).localizeWith lang known).get? name).isSome = true ↔
      ((obj fs).localizeWith lang known).isObj = true ∧ (fs.get? name).isSome = true := by
  rw [localizeWith]
  split_ifs
  · exact iff_of_false nofun fun h => Bool.false_ne_true h.1
  · rw [← Entries.isSome_get?_congr (keys_localizeFields lang known fs) name]
    exact (and_iff_right rfl).symm

/-- Under a name that is not that of a text, the value itself is localized. -/
lemma get?_localizeFields {name : String} (h : isTextName name = false) (fs : Entries Value) :
    Entries.get? (localizeFields lang known fs) name
      = (Entries.get? fs name).map (localizeWith lang known) := by
  induction fs with
  | nil => rfl
  | cons e fs ih =>
    obtain ⟨k, v⟩ := e
    rw [localizeFields, Entries.get?_cons, Entries.get?_cons]
    by_cases hk : k = name
    · subst hk
      simp [h]
    · rw [if_neg hk, if_neg hk, ih]

/-- An object that stands for a text loses its entries, any other keeps them. -/
lemma get?_localizeWith (lang : String) (known : List String) (v : Value) (name : String)
    (h : isTextName name = false) :
    (v.localizeWith lang known).get? name = none ∨
      (v.localizeWith lang known).get? name = (v.get? name).map (localizeWith lang known) := by
  cases v with
  | obj fs =>
    rw [localizeWith]
    split
    · exact .inl rfl
    · exact .inr (get?_localizeFields h fs)
  | _ => exact .inl rfl

lemma localizeElems_eq_map (vs : List Value) :
    localizeElems lang known vs = vs.map (localizeWith lang known) := by
  induction vs with
  | nil => rfl
  | cons v vs ih => rw [localizeElems, ih, List.map_cons]

end ViewAssembly.Value
