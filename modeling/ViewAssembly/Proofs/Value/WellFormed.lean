import ViewAssembly.Proofs.Entries
import ViewAssembly.Value

/-!
# Well-formed values

A value is well-formed when the names of every object in it are distinct, as they are in every
document that can be read. Values of other kinds are well-formed when they are shown as texts.

`ReadValue` and `ReadObject` carry this with the values and objects that it holds of. The readers of
JSON build them (`ReadValue.ofJson?`, `ReadObject.ofJson?`).
-/

namespace ViewAssembly

lemma Binary64.equal_self {x : Binary64} (hx : x ≠ .notANumber) : x.equal x = true := by
  cases x with
  | finite s m e => by_cases hm : m = 0 <;> simp [Binary64.equal, hm]
  | infinite s => simp [Binary64.equal]
  | notANumber => contradiction

namespace Value

mutual

/-- Are the names of every object in a value distinct? -/
def WellFormed : Value → Prop
  | arr vs     => WellFormedElems vs
  | obj fs     => (Entries.keys fs).Nodup ∧ WellFormedFields fs
  | shown form => form.isStr
  | _          => True

def WellFormedElems : List Value → Prop
  | []      => True
  | v :: vs => v.WellFormed ∧ WellFormedElems vs

def WellFormedFields : List (String × Value) → Prop
  | []           => True
  | (_, v) :: fs => v.WellFormed ∧ WellFormedFields fs

end

lemma wellFormedElems_iff {vs : List Value} : WellFormedElems vs ↔ ∀ v ∈ vs, v.WellFormed := by
  induction vs with
  | nil => simp [WellFormedElems]
  | cons v vs ih => simp [WellFormedElems, ih]

lemma wellFormedFields_iff {fs : Entries Value} :
    WellFormedFields fs ↔ ∀ e ∈ fs, e.2.WellFormed := by
  induction fs with
  | nil => simp [WellFormedFields]
  | cons e fs ih => simp [WellFormedFields, ih]

lemma wellFormed_arr_iff {vs : List Value} : (arr vs).WellFormed ↔ ∀ v ∈ vs, v.WellFormed := by
  rw [WellFormed, wellFormedElems_iff]

lemma wellFormed_obj_iff {fs : Entries Value} :
    (obj fs).WellFormed ↔ fs.keys.Nodup ∧ ∀ e ∈ fs, e.2.WellFormed := by
  rw [WellFormed, wellFormedFields_iff]

lemma wellFormed_obj_singleton {n : String} {v : Value} (h : v.WellFormed) :
    (obj [(n, v)]).WellFormed :=
  wellFormed_obj_iff.mpr ⟨List.nodup_cons.mpr ⟨by simp, List.nodup_nil⟩, by simpa using h⟩

lemma WellFormed.nodup_keys {fs : Entries Value} (h : (obj fs).WellFormed) : fs.keys.Nodup :=
  (wellFormed_obj_iff.mp h).1

lemma WellFormed.of_mem {fs : Entries Value} (h : (obj fs).WellFormed) {e : String × Value}
    (he : e ∈ fs) : e.2.WellFormed := (wellFormed_obj_iff.mp h).2 e he

lemma WellFormed.of_get? {fs : Entries Value} (h : (obj fs).WellFormed) {n : String} {v : Value}
    (hv : fs.get? n = some v) : v.WellFormed := h.of_mem (Entries.mem_of_get? hv)

/-! ### A value denotes the same as itself -/

mutual

/-- As a part of something, a well-formed value denotes the same as itself. -/
theorem samePart_self {v : Value} (h : v.WellFormed) : v.samePart v = true := by
  match v with
  | null => rfl
  | bool b => cases b <;> rfl
  | int n => exact beq_self_eq_true n
  | float x =>
    by_cases hx : x = .notANumber
    · subst hx; rfl
    · exact Bool.or_eq_true_iff.mpr (.inr (Binary64.equal_self hx))
  | str s => exact beq_self_eq_true s
  | arr vs => exact sameElems_self (wellFormed_arr_iff.mp h)
  | obj fs =>
    have hfs := wellFormed_obj_iff.mp h
    exact Bool.and_eq_true_iff.mpr ⟨beq_self_eq_true _,
      sameFields_self hfs.2 fun e he => Entries.get?_of_mem hfs.1 he⟩
  | shown (.str s) => exact beq_self_eq_true s

theorem sameElems_self {vs : List Value} (h : ∀ v ∈ vs, v.WellFormed) :
    sameElems vs vs = true := by
  match vs with
  | [] => rfl
  | v :: vs =>
    have hv := samePart_self (h v List.mem_cons_self)
    have hvs := sameElems_self fun w hw => h w (List.mem_cons_of_mem _ hw)
    exact Bool.and_eq_true_iff.mpr ⟨hv, hvs⟩

theorem sameFields_self {es fs : Entries Value} (h : ∀ e ∈ es, e.2.WellFormed)
    (hfs : ∀ e ∈ es, fs.get? e.1 = some e.2) : sameFields es fs = true := by
  match es with
  | [] => rfl
  | (k, v) :: es =>
    have hv := samePart_self (h (k, v) List.mem_cons_self)
    have hes := sameFields_self (fun e he => h e (List.mem_cons_of_mem _ he))
      fun e he => hfs e (List.mem_cons_of_mem _ he)
    rw [sameFields, hfs (k, v) List.mem_cons_self]
    exact Bool.and_eq_true_iff.mpr ⟨hv, hes⟩

end

/-- A well-formed object denotes the same as itself. -/
lemma same_self {fs : Entries Value} (h : (obj fs).WellFormed) : (obj fs).same (obj fs) = true :=
  samePart_self h

/-! ### Parts of what denotes the same -/

/-- What denotes the same as an object has a counterpart of each of its entries. -/
lemma get?_of_sameFields {es fs : Entries Value} (h : sameFields es fs = true) {n : String}
    {v : Value} (hv : es.get? n = some v) : ∃ w, fs.get? n = some w ∧ v.samePart w = true := by
  induction es with
  | nil => cases hv
  | cons e es ih =>
    obtain ⟨k, x⟩ := e
    rw [sameFields, Bool.and_eq_true_iff] at h
    rw [Entries.get?_cons] at hv
    split at hv
    · next hk =>
      obtain rfl := Option.some.inj hv
      subst hk
      cases hw : fs.get? k with
      | none => rw [hw] at h; exact Bool.noConfusion h.1
      | some w => rw [hw] at h; exact ⟨w, rfl, h.1⟩
    · exact ih h.2 hv

lemma eq_str_of_samePart {s : String} {w : Value} (h : (str s).samePart w = true) : w = str s := by
  cases w with
  | str t => exact congrArg str (beq_iff_eq.mp h).symm
  | _ => exact Bool.noConfusion h

end Value

/-! ### Values that are read -/

/-- A value as it is read from a document. -/
abbrev ReadValue := {v : Value // v.WellFormed}

abbrev ReadObject := {fs : Entries Value // (Value.obj fs).WellFormed}

def ReadValue.fields? : ReadValue → Option ReadObject
  | ⟨.obj fs, h⟩ => some ⟨fs, h⟩
  | _            => none

lemma ReadValue.map_val_fields? (v : ReadValue) : v.fields?.map Subtype.val = v.val.fields? := by
  obtain ⟨v, hv⟩ := v
  cases v <;> rfl

end ViewAssembly
