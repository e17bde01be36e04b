import ViewAssembly.Proofs.Value.Basic
import ViewAssembly.Proofs.Value.WellFormed

/-!
# The parts of a value

A way of steps, each to what stands under a name of an object or at a place of a list, leads from a
value to one of its parts. Two values are the same outside of some of their parts if all ways that
stay outside lead to parts of the same outline.
-/

namespace ViewAssembly.Value

variable {v w : Value}

/-- A step from a value to a part of it. -/
inductive Step where
  | name (n : String)
  | place (i : Nat)
deriving DecidableEq

def step? (v : Value) : Step → Option Value
  | .name n  => v.get? n
  | .place i => v.elems?.bind fun vs => vs[i]?

/-- The part of a value to which a way leads. -/
def part? (v : Value) : List Step → Option Value
  | []       => some v
  | s :: way => (v.step? s).bind fun w => w.part? way

/-- What is seen of a value without a look into its parts. -/
inductive Outline where
  | scalar (v : Value)
  | list (length : Nat)
  | object (names : List String)

def outline : Value → Outline
  | arr vs => .list vs.length
  | obj fs => .object (Entries.keys fs)
  | v      => .scalar v

lemma part?_cons_eq_some_iff {s : Step} {way : List Step} {x : Value} :
    v.part? (s :: way) = some x ↔ ∃ w, v.step? s = some w ∧ w.part? way = some x :=
  Option.bind_eq_some_iff

lemma part?_cons_of_step? {s : Step} (h : v.step? s = some w) (way : List Step) :
    v.part? (s :: way) = w.part? way := by
  rw [part?, h, Option.bind_some]

lemma step?_obj_name (fs : Entries Value) (n : String) : (obj fs).step? (.name n) = fs.get? n := rfl

lemma step?_arr_place (vs : List Value) (i : Nat) : (arr vs).step? (.place i) = vs[i]? := rfl

/-- Only objects have something under a name. -/
lemma exists_obj_of_step?_name {n : String} (h : v.step? (.name n) = some w) :
    ∃ fs, v = obj fs ∧ Entries.get? fs n = some w := by
  cases v with
  | obj fs => exact ⟨fs, rfl, h⟩
  | _ => cases h

/-- Only lists have something at a place. -/
lemma exists_arr_of_step?_place {i : Nat} (h : v.step? (.place i) = some w) :
    ∃ vs, v = arr vs ∧ vs[i]? = some w := by
  cases v with
  | arr vs => exact ⟨vs, rfl, h⟩
  | _ => cases h

/-- A text has no parts. -/
lemma part?_str_cons (t : String) (s : Step) (way : List Step) :
    (str t).part? (s :: way) = none := by
  cases s <;> rfl

lemma sizeOf_lt_of_step? {s : Step} (h : v.step? s = some w) : sizeOf w < sizeOf v := by
  cases s with
  | name n =>
    obtain ⟨fs, rfl, hget⟩ := exists_obj_of_step?_name h
    exact sizeOf_lt_of_get? hget
  | place i =>
    obtain ⟨vs, rfl, hget⟩ := exists_arr_of_step?_place h
    exact Nat.lt_trans (List.sizeOf_lt_of_mem (List.mem_of_getElem? hget)) (by simp)

lemma WellFormed.of_step? (hv : v.WellFormed) {s : Step} (h : v.step? s = some w) :
    w.WellFormed := by
  cases s with
  | name n =>
    obtain ⟨fs, rfl, hget⟩ := exists_obj_of_step?_name h
    exact hv.of_get? hget
  | place i =>
    obtain ⟨vs, rfl, hget⟩ := exists_arr_of_step?_place h
    exact wellFormed_arr_iff.mp hv w (List.mem_of_getElem? hget)

lemma WellFormed.of_part? {way : List Step} (hv : v.WellFormed) (h : v.part? way = some w) :
    w.WellFormed := by
  induction way generalizing v with
  | nil =>
    cases h
    exact hv
  | cons s way ih =>
    obtain ⟨x, hx, hway⟩ := part?_cons_eq_some_iff.mp h
    exact ih (hv.of_step? hx) hway

end ViewAssembly.Value
