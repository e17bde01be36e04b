import Mathlib.Tactic.Common
import ViewAssembly.Override

/-!
# Lists in overrides

What the kind of a list in an override says about its elements, and what the list makes of the
entry that it meets.
-/

namespace ViewAssembly.Override

variable {vs : List Value}

lemma kind_arr (vs : List Value) :
    kind (.arr vs)
      = if vs.isEmpty then .scalarList
        else if vs.all Value.isStr then .stringList
        else if vs.all Value.isObj then .objectList
        else if vs.any Value.isObj then .mixedList
        else .scalarList := rfl

lemma isStr_of_kind_arr (h : kind (.arr vs) = .stringList) : ∀ v ∈ vs, v.isStr = true := by
  rw [kind_arr] at h
  split at h
  · cases h
  · split at h
    · next hall => exact List.all_eq_true.mp hall
    · split at h
      · cases h
      · split at h <;> cases h

lemma not_isObj_of_kind_arr (h : kind (.arr vs) = .scalarList) : ∀ v ∈ vs, v.isObj = false := by
  rw [kind_arr] at h
  split at h
  · next hempty =>
    rw [List.isEmpty_iff.mp hempty]
    exact nofun
  · split at h
    · cases h
    · split at h
      · cases h
      · split at h
        · cases h
        · next hany => simpa using hany

/-- A list takes the place of another if it is empty, or holds no object and not only texts. -/
lemma kind_arr_eq_scalarList_iff :
    kind (.arr vs) = .scalarList ↔
      vs = [] ∨ (∀ v ∈ vs, v.isObj = false) ∧ ∃ v ∈ vs, v.isStr = false := by
  constructor
  · intro h
    by_cases hnil : vs = []
    · exact .inl hnil
    · refine .inr ⟨not_isObj_of_kind_arr h, ?_⟩
      by_contra hnone
      have htexts : vs.all Value.isStr = true := by
        rw [List.all_eq_true]
        intro v hv
        simpa using fun hstr => hnone ⟨v, hv, hstr⟩
      rw [kind_arr, if_neg (by simpa using hnil), if_pos htexts] at h
      cases h
  · rintro (rfl | ⟨hobj, v, hv, hstr⟩)
    · rfl
    · have hempty : ¬ vs.isEmpty = true := by simpa using List.ne_nil_of_mem hv
      have htexts : ¬ vs.all Value.isStr = true := by simpa using ⟨v, hv, hstr⟩
      have hall : ¬ vs.all Value.isObj = true := by simpa using ⟨v, hv, hobj v hv⟩
      have hany : ¬ vs.any Value.isObj = true := by simpa using hobj
      rw [kind_arr, if_neg hempty, if_neg htexts, if_neg hall, if_neg hany]

lemma kind_arr_cases (vs : List Value) :
    kind (.arr vs) = .stringList ∨ kind (.arr vs) = .objectList ∨ kind (.arr vs) = .mixedList ∨
      kind (.arr vs) = .scalarList := by
  rw [kind_arr]
  split_ifs <;> simp

/-! ### Texts and objects -/

def textsOf (vs : List Value) : List String := vs.filterMap Value.str?

def objectsOf (vs : List Value) : List (Entries Value) := vs.filterMap Value.fields?

lemma map_str_textsOf {vs : List Value} (h : kind (.arr vs) = .stringList) :
    (textsOf vs).map .str = vs := by
  have hall := isStr_of_kind_arr h
  clear h
  induction vs with
  | nil => rfl
  | cons v vs ih =>
    have hv := hall v List.mem_cons_self
    cases v with
    | str s => exact congrArg (Value.str s :: ·) (ih fun w hw => hall w (List.mem_cons_of_mem _ hw))
    | _ => exact Bool.noConfusion hv

/-! ### What a list makes of an entry -/

lemma overrideList_stringList {vs : List Value} (h : kind (.arr vs) = .stringList)
    (draft : Option Value) :
    overrideList draft vs
      = match draft with
        | some (.arr es) => .arr (select es (textsOf vs))
        | _              => .arr vs := by
  unfold overrideList
  rw [h]
  rfl

lemma overrideList_objects {vs : List Value}
    (h : kind (.arr vs) = .objectList ∨ kind (.arr vs) = .mixedList) (draft : Option Value) :
    overrideList draft vs = .arr (upsert (elemsOf draft) (objectsOf vs)) := by
  unfold overrideList
  rcases h with h | h <;> rw [h] <;> rfl

lemma overrideList_scalarList {vs : List Value} (h : kind (.arr vs) = .scalarList)
    (draft : Option Value) : overrideList draft vs = .arr vs := by
  unfold overrideList
  rw [h]

end ViewAssembly.Override
