import ViewAssembly.Header.Basic
import ViewAssembly.Proofs.Entries
import ViewAssembly.Proofs.Except
import ViewAssembly.Proofs.Value.Basic

/-!
# Tokens that can have a header

A token has a header if the schema has its column, or else if the customization brings one, and if
that is offered in the language. It can have one in some language unless its column, or what brings
it, declares an empty list of languages (`HeaderSource.resolvable_iff`).
-/

namespace ViewAssembly

open Customizations

/-- In some language everything is offered but what declares an empty list of languages. -/
lemma Language.exists_admits_iff {declared : Option (List String)} :
    (∃ lang, admits declared lang = true) ↔ declared ≠ some [] := by
  cases declared with
  | none => exact iff_of_true ⟨"", rfl⟩ nofun
  | some ls =>
    cases ls with
    | nil => exact iff_of_false (fun ⟨_, h⟩ => Bool.false_ne_true h) (fun h => h rfl)
    | cons l ls =>
      exact iff_of_true ⟨l, by simp [admits, isDeclared, Text.sameLetters]⟩ (by simp)

namespace Customizations

/-- What the customizations of a block say about a token; what is no object says nothing. -/
def entriesFor (customizations : Entries Value) (token : String) : Entries Value :=
  ((customizations.get? token).bind Value.fields?).getD []

/-- Does a customization bring a column, where the schema has none? -/
def Brings (custom : Entries Value) : Prop :=
  custom.has "label" = true ∨ custom.has "columnData" = true

variable {customizations : Entries Value} {token : String}

lemma said_eq_obj (h : ∀ custom, customizations.get? token = some custom → custom.isObj = true) :
    said customizations token = .obj (entriesFor customizations token) := by
  rw [said, entriesFor]
  cases hget : customizations.get? token with
  | none => rfl
  | some custom =>
    obtain ⟨fs, rfl⟩ := Value.isObj_iff.mp (h custom hget)
    cases fs <;> rfl

/-- Where only a block customizes columns, its customization of a token is all there is. -/
lemma of_eq_obj (h : ∀ custom, customizations.get? token = some custom → custom.isObj = true) :
    (Customizations.mk customizations []).of token
      = .obj (entriesFor customizations token) := by
  rw [Customizations.of, said_eq_obj h]
  rfl

lemma bringsColumn_obj (custom : Entries Value) :
    bringsColumn token (.obj custom) false
      = .ok (custom.has "label" || custom.has "columnData") := by
  simp [bringsColumn, columnNames, mentions?]

end Customizations

namespace HeaderSource

variable {s : HeaderSource} {token : String} {custom : Entries Value}

lemma exists_schemaHeader_iff {column : Column} (h : s.customizations.of token = .obj custom) :
    (∃ header, s.schemaHeader token column = .ok (some header)) ↔
      (column.hidden && !s.includeHidden) = false ∧ column.admits s.lang = true := by
  rw [schemaHeader]
  split
  · next hleft =>
    refine iff_of_false nofun fun hshown => ?_
    simp [hshown] at hleft
  · next hshown =>
    refine iff_of_true ⟨_, bind_eq_ok_iff.mpr ⟨custom, ?_, rfl⟩⟩ (by simpa using hshown)
    rw [h]
    rfl

lemma exists_broughtHeader_iff (h : s.customizations.of token = .obj custom) :
    (∃ header, s.broughtHeader token = .ok (some header)) ↔
      Language.admits (Language.declaredBy (.obj custom)) s.lang = true := by
  rw [broughtHeader, h]
  cases Language.admits (Language.declaredBy (.obj custom)) s.lang with
  | false => exact iff_of_false nofun Bool.false_ne_true
  | true => exact iff_of_true ⟨_, rfl⟩ rfl

/-- When a token has a header, its customization being an object. -/
lemma exists_header?_iff (h : s.customizations.of token = .obj custom) :
    (∃ header, s.header? token = .ok (some header)) ↔
      match s.snapshot.get? token with
      | some column => (column.hidden && !s.includeHidden) = false ∧ column.admits s.lang = true
      | none        =>
        Brings custom ∧ Language.admits (Language.declaredBy (.obj custom)) s.lang = true := by
  rw [header?]
  cases s.snapshot.get? token with
  | some column => exact exists_schemaHeader_iff h
  | none =>
    simp only
    rw [h, bringsColumn_obj, ← exists_broughtHeader_iff h, Brings, ← Bool.or_eq_true]
    cases custom.has "label" || custom.has "columnData" with
    | false => exact iff_of_false nofun nofun
    | true => exact (and_iff_right rfl).symm

/-- Can a token have a header in some language, hidden columns included? -/
def Resolvable (snapshot : Snapshot) (customizations : Entries Value) (token : String) : Prop :=
  ∃ lang header,
    header? ⟨snapshot, lang, ⟨customizations, []⟩, true⟩ token = .ok (some header)

/-- Can what is declared about a token be offered in some language? -/
def Offerable (snapshot : Snapshot) (customizations : Entries Value) (token : String) : Prop :=
  match snapshot.get? token with
  | some column => column.lang ≠ some []
  | none        => Language.declaredBy (.obj (entriesFor customizations token)) ≠ some []

/-- A token can have a header if its column is known or brought, and can be offered at all. -/
lemma resolvable_iff {snapshot : Snapshot} {customizations : Entries Value}
    (h : ∀ custom, customizations.get? token = some custom → custom.isObj = true) :
    Resolvable snapshot customizations token ↔
      (token ∈ snapshot.keys ∨ Brings (entriesFor customizations token)) ∧
        Offerable snapshot customizations token := by
  have hheader := fun lang => exists_header?_iff
    (s := ⟨snapshot, lang, ⟨customizations, []⟩, true⟩) (of_eq_obj h)
  rw [Resolvable, Offerable, ← Entries.isSome_get?_iff]
  simp only [hheader]
  cases snapshot.get? token with
  | some column => simp [← Language.exists_admits_iff, Column.admits]
  | none => simp [← Language.exists_admits_iff]

end HeaderSource

end ViewAssembly
