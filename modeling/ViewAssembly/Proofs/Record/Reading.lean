import Mathlib.Tactic.Common
import ViewAssembly.Record.Reading

/-!
# Reading records

A record is read when all its fields are, and a field is read when it is not given or its value
suits its reader. A list that is not empty is read to one that is not empty, and what is read as
true says something.
-/

namespace ViewAssembly

namespace Checked

variable {α β : Type}

lemma toOption_eq_some_iff {x : Checked α} {a : α} : x.toOption = some a ↔ x = .ok a := by
  cases x <;> simp [toOption]

lemma seq_eq_ok_iff {f : Checked (α → β)} {x : Checked α} {b : β} :
    f <*> x = .ok b ↔ ∃ g a, f = .ok g ∧ x = .ok a ∧ g a = b := by
  change Checked.seq f (fun _ => x) = .ok b ↔ _
  cases f <;> cases x <;> simp [Checked.seq]

lemma map_eq_ok_iff {f : α → β} {x : Checked α} {b : β} :
    f <$> x = .ok b ↔ ∃ a, x = .ok a ∧ f a = b := by
  change Checked.seq (.ok f) (fun _ => x) = .ok b ↔ _
  cases x <;> simp [Checked.seq]

lemma ofWholeNames_eq_ok_iff {fs : Entries Value} {record : Checked α} {a : α} :
    ofWholeNames fs record = .ok a ↔ (∀ k ∈ fs.keys, Text.hasHalf k = false) ∧ record = .ok a := by
  rw [ofWholeNames]
  split
  · next h =>
    obtain ⟨k, hk, hhalf⟩ := List.any_eq_true.mp h
    refine iff_of_false nofun fun hwhole => ?_
    rw [hwhole.1 k hk] at hhalf
    cases hhalf
  · next h => simpa using fun _ => h

end Checked

namespace FieldName

variable {α : Type} {name : FieldName} {fs : Entries Value} {reader : Value → Option α}

/-- Does the value of a field suit its reader, if the field is given? -/
def Suits (name : FieldName) (fs : Entries Value) (reader : Value → Option α) : Prop :=
  ∀ used v, name.find? fs = some (used, v) → (reader v).isSome = true

lemma get?_of_find? {used : String} {v : Value} (h : name.find? fs = some (used, v)) :
    fs.get? used = some v := by
  rw [find?] at h
  split at h
  · next w hw => cases h; exact hw
  · obtain ⟨w, hw, heq⟩ := Option.map_eq_some_iff.mp h
    cases heq
    exact hw

/-- What is read is the value that the reader makes of what is given, or the default. -/
lemma read_eq_ok_iff {d a : α} :
    name.read fs (.ok d) reader = .ok a ↔
      (name.find? fs = none ∧ a = d) ∨
        ∃ used v, name.find? fs = some (used, v) ∧ reader v = some a := by
  rw [read]
  cases name.find? fs with
  | none => simp [eq_comm]
  | some e =>
    obtain ⟨used, v⟩ := e
    cases hv : reader v <;> simp [Checked.ofOption, hv]

/-- What is given under the main name is what is read. -/
lemma reader_of_read {d a : α} (hread : name.read fs (.ok d) reader = .ok a) {v : Value}
    (h : fs.get? name.main = some v) : reader v = some a := by
  have hfind : name.find? fs = some (name.main, v) := by rw [find?, h]
  rcases read_eq_ok_iff.mp hread with ⟨hnone, -⟩ | ⟨used, w, hused, hw⟩
  · cases hfind.symm.trans hnone
  · cases hfind.symm.trans hused
    exact hw

lemma exists_read_eq_ok_iff {d : α} :
    (∃ a, name.read fs (.ok d) reader = .ok a) ↔ name.Suits fs reader := by
  simp only [read_eq_ok_iff]
  constructor
  · rintro ⟨a, ⟨hnone, -⟩ | ⟨used, v, hfind, hv⟩⟩ used' v' h
    · rw [hnone] at h; cases h
    · cases hfind.symm.trans h
      rw [hv]
      rfl
  · intro h
    cases hfind : name.find? fs with
    | none => exact ⟨d, .inl ⟨rfl, rfl⟩⟩
    | some e =>
      obtain ⟨a, ha⟩ := Option.isSome_iff_exists.mp (h e.1 e.2 hfind)
      exact ⟨a, .inr ⟨e.1, e.2, rfl, ha⟩⟩

end FieldName

/-! ### What readers take -/

lemma ne_nil_of_mapM_cons {α β : Type} {f : α → Option β} {x : α} {xs : List α} {ys : List β}
    (h : (x :: xs).mapM f = some ys) : ys ≠ [] := by
  rintro rfl
  rw [List.mapM_cons] at h
  obtain ⟨y, -, h⟩ := Option.bind_eq_some_iff.mp h
  obtain ⟨ys, -, h⟩ := Option.bind_eq_some_iff.mp h
  cases h

/-- Entries whose values are read keep their names. -/
lemma keys_of_mapM {α : Type} {reader : Value → Option α} {fs : Entries Value} {es : Entries α}
    (h : fs.mapM (fun e => (reader e.2).map (e.1, ·)) = some es) : es.keys = fs.keys := by
  induction fs generalizing es with
  | nil =>
    cases h
    rfl
  | cons f fs ih =>
    rw [List.mapM_cons] at h
    obtain ⟨e, he, h⟩ := Option.bind_eq_some_iff.mp h
    obtain ⟨rest, hrest, h⟩ := Option.bind_eq_some_iff.mp h
    obtain ⟨a, -, rfl⟩ := Option.map_eq_some_iff.mp he
    cases h
    rw [Entries.keys_cons, ih hrest]
    rfl

lemma Binary64.nonzero_of_toInt? {x : Binary64} {n : Int} (h : x.toInt? = some n) (hn : n ≠ 0) :
    x.nonzero = true := by
  cases x with
  | finite s m e =>
    by_cases hm : m = 0
    · subst hm
      simp only [toInt?, Nat.zero_mul, Nat.zero_mod, Nat.zero_div, if_true, ite_self] at h
      exact absurd (by simpa using h.symm) hn
    · simpa [nonzero] using hm
  | _ => rfl

namespace Value

lemma flagOfInt?_eq_some_true_iff {n : Int} : flagOfInt? n = some true ↔ n = 1 := by
  rw [flagOfInt?]
  split
  · next h => subst h; decide
  · split <;> simp_all

/-- What is read as true says something. -/
lemma truthy_of_readFlag? {v : Value} (h : v.readFlag? = some true) : v.truthy = true := by
  cases v with
  | bool b => exact Option.some.inj h
  | int n =>
    obtain rfl := flagOfInt?_eq_some_true_iff.mp h
    rfl
  | float x =>
    obtain ⟨n, hx, hn⟩ := Option.bind_eq_some_iff.mp h
    obtain rfl := flagOfInt?_eq_some_true_iff.mp hn
    exact Binary64.nonzero_of_toInt? hx Int.one_ne_zero
  | str s =>
    refine bne_iff_ne.mpr ?_
    rintro rfl
    exact absurd h (by decide)
  | _ => cases h

end Value

end ViewAssembly
