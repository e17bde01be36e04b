/-!
# Ordered entries

A finite map from names to values that keeps the order in which the names first appeared. Every
object of a document is such a list of entries, and so is every table of named things that the
library hands out: the order is part of the value.

Writing under a name that is already there replaces the value in place (`keys_put_of_mem`); writing
under a new name appends (`put_eq_append_of_get?_eq_none`). Two writes under different names
do not see each other (`get?_put_of_ne`).
-/

namespace ViewAssembly

universe u v

/-- Names with their values, in the order in which the names first appeared. -/
abbrev Entries (α : Type u) := List (String × α)

namespace Entries

variable {α : Type u} {β : Type v}

/-- The value under a name. -/
def get? (es : Entries α) (n : String) : Option α := es.lookup n

def has (es : Entries α) (n : String) : Bool := (get? es n).isSome

def keys (es : Entries α) : List String := es.map Prod.fst

def values (es : Entries α) : List α := es.map Prod.snd

/-- Write a value under a name: in place when the name is there, at the end when it is new. -/
def put : Entries α → String → α → Entries α
  | [], n, x           => [(n, x)]
  | (k, v) :: es, n, x => if k = n then (k, x) :: es else (k, v) :: put es n x

/-- Write a value under a name only when nothing is there yet. -/
def putNew (es : Entries α) (n : String) (x : α) : Entries α :=
  if has es n then es else put es n x

def erase (es : Entries α) (n : String) : Entries α := es.filter fun e => e.1 ≠ n

/-- Keep only the names that satisfy a test. -/
def restrict (es : Entries α) (p : String → Bool) : Entries α := es.filter fun e => p e.1

/-- Read a list of pairs from left to right, a later pair overwriting an earlier one in place. -/
def ofPairs (ps : List (String × α)) : Entries α := ps.foldl (fun es p => put es p.1 p.2) []

/-- Change every value, looking at its name. -/
def mapValues (f : String → α → β) (es : Entries α) : Entries β := es.map fun e => (e.1, f e.1 e.2)

/-! ### Reading back a write -/

@[simp] theorem get?_nil (n : String) : get? ([] : Entries α) n = none := rfl

@[simp] theorem get?_cons_self (n : String) (x : α) (es : Entries α) :
    get? ((n, x) :: es) n = some x := List.lookup_cons_self

theorem get?_cons (k n : String) (v : α) (es : Entries α) :
    get? ((k, v) :: es) n = if k = n then some v else get? es n := by
  by_cases h : k = n
  · rw [if_pos h, h, get?_cons_self]
  · have hne : (n == k) = false := beq_false_of_ne (Ne.symm h)
    rw [if_neg h, get?, List.lookup_cons, hne]
    rfl

@[simp] theorem get?_put_self (es : Entries α) (n : String) (x : α) :
    get? (put es n x) n = some x := by
  induction es with
  | nil => simp [put]
  | cons e es ih =>
    obtain ⟨k, v⟩ := e
    by_cases h : k = n <;> simp [put, get?_cons, h, ih]

theorem get?_put_of_ne (es : Entries α) {m n : String} (x : α) (h : n ≠ m) :
    get? (put es n x) m = get? es m := by
  induction es with
  | nil => simp [put, get?_cons, h]
  | cons e es ih =>
    obtain ⟨k, v⟩ := e
    by_cases hk : k = n
    · simp [put, get?_cons, hk, h]
    · simp [put, get?_cons, hk, ih]

theorem has_iff_mem_keys (es : Entries α) (n : String) : has es n = true ↔ n ∈ keys es := by
  rw [has, get?, List.lookup_isSome_iff, keys, List.mem_map]
  exact exists_congr fun e => and_congr_right fun _ => beq_iff_eq.trans eq_comm

/-! ### The order of the names -/

@[simp] theorem keys_nil : keys ([] : Entries α) = [] := rfl

@[simp] theorem keys_cons (k : String) (v : α) (es : Entries α) :
    keys ((k, v) :: es) = k :: keys es := rfl

theorem put_eq_append_of_get?_eq_none {es : Entries α} {n : String} (x : α)
    (h : get? es n = none) : put es n x = es ++ [(n, x)] := by
  induction es with
  | nil => rfl
  | cons e es ih =>
    obtain ⟨k, v⟩ := e
    by_cases hk : k = n
    · simp [hk] at h
    · simp only [get?_cons, hk, if_false] at h
      simp [put, hk, ih h]

theorem keys_put_of_mem {es : Entries α} {n : String} (x : α) (h : n ∈ keys es) :
    keys (put es n x) = keys es := by
  induction es with
  | nil => simp at h
  | cons e es ih =>
    by_cases hn : e.1 = n
    · simp [put, hn, keys]
    · have h' : n ∈ keys es := by
        have hne : ¬ n = e.1 := fun q => hn q.symm
        simpa [keys, hne] using h
      have := ih h'
      simp only [keys] at this
      simp [put, hn, keys, this]

end Entries

end ViewAssembly
