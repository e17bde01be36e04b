import ViewAssembly.Proofs.Text.Blank
import ViewAssembly.Proofs.Text.Pieces

/-!
# Comma lists

A comma list carries names: texts that are not empty, hold no comma and have no blanks around them.
Between commas, each name may have blanks around it, and there may be nothing but blanks. Reading
gives exactly the names that a list carries (`commaList?_eq_some_iff`). So names that are put
together are read again, and what is read can be put together again (`commaList?_intercalate`).
-/

namespace ViewAssembly.Text

/-- A name that a comma list can carry. -/
structure IsListed (name : String) : Prop extends Trimmed name where
  ne_empty : name ≠ ""
  comma_not_mem : ',' ∉ name.toList

/-- The pieces of a comma list, with the names that they carry. -/
inductive Carries : List String → List String → Prop
  | nil : Carries [] []
  | blank {piece : String} {pieces names : List String} (hpiece : AllBlank piece)
      (h : Carries pieces names) : Carries (piece :: pieces) names
  | name {front name back : String} {pieces names : List String} (hfront : AllBlank front)
      (hback : AllBlank back) (h : Carries pieces names) :
      Carries ((front ++ name ++ back) :: pieces) (name :: names)

/-! ### What a comma list carries -/

section Carrying

variable {s : String} {ps names : List String}

/-- The names that pieces carry are what is left of them without blanks. -/
lemma Carries.eq_filter (h : Carries ps names) (hnames : ∀ name ∈ names, IsListed name) :
    (ps.map trim).filter (· ≠ "") = names := by
  induction h with
  | nil => rfl
  | @blank piece ps names hpiece _ ih =>
    rw [List.map_cons, trim_eq_empty_iff.mpr hpiece, List.filter_cons_of_neg (by simp), ih hnames]
  | @name front name back ps names hfront hback _ ih =>
    obtain ⟨hname, hnames⟩ := List.forall_mem_cons.mp hnames
    rw [List.map_cons, trim_append_append hfront hback hname.toTrimmed,
      List.filter_cons_of_pos (by simpa using hname.ne_empty), ih hnames]

/-- Any pieces carry what is left of them without blanks. -/
lemma carries_filter (ps : List String) : Carries ps ((ps.map trim).filter (· ≠ "")) := by
  induction ps with
  | nil => exact .nil
  | cons piece ps ih =>
    rw [List.map_cons]
    by_cases hpiece : trim piece = ""
    · rw [List.filter_cons_of_neg (by simpa using hpiece)]
      exact .blank (trim_eq_empty_iff.mp hpiece) ih
    · rw [List.filter_cons_of_pos (by simpa using hpiece)]
      obtain ⟨front, back, hfront, hback, heq⟩ := exists_eq_append_trim piece
      conv => left; rw [heq]
      exact .name hfront hback ih

/-- Names carry themselves, each in a piece of its own. -/
lemma carries_self (names : List String) : Carries names names := by
  induction names with
  | nil => exact .nil
  | cons name names ih =>
    have hname : Carries (("" ++ name ++ "") :: names) (name :: names) := .name .empty .empty ih
    simpa using hname

lemma AllBlank.comma_not_mem (h : AllBlank s) : ',' ∉ s.toList := by
  intro hmem
  have hcomma : isBlank ',' = false := by decide
  rw [h ',' hmem] at hcomma
  cases hcomma

/-- Pieces that carry names hold no comma. -/
lemma Carries.comma_not_mem (h : Carries ps names) (hnames : ∀ name ∈ names, IsListed name) :
    ∀ piece ∈ ps, ',' ∉ piece.toList := by
  induction h with
  | nil => exact List.forall_mem_nil _
  | blank hpiece _ ih => exact List.forall_mem_cons.mpr ⟨hpiece.comma_not_mem, ih hnames⟩
  | @name front name back ps names hfront hback _ ih =>
    obtain ⟨hname, hnames⟩ := List.forall_mem_cons.mp hnames
    exact List.forall_mem_cons.mpr ⟨not_mem_append_append_iff.mpr
      ⟨hfront.comma_not_mem, hname.comma_not_mem, hback.comma_not_mem⟩, ih hnames⟩

end Carrying

/-! ### Reading a comma list -/

section Reading

variable {s name : String} {names ps : List String}

lemma isListed_of_mem_commaPieces (h : name ∈ commaPieces s) : IsListed name := by
  obtain ⟨hmem, hne⟩ := List.mem_filter.mp h
  obtain ⟨piece, hpiece, rfl⟩ := List.mem_map.mp hmem
  obtain ⟨front, back, -, -, heq⟩ := exists_eq_append_trim piece
  have hcomma := not_mem_of_mem_pieces hpiece
  rw [heq, not_mem_append_append_iff] at hcomma
  exact { trimmed_trim piece with ne_empty := by simpa using hne, comma_not_mem := hcomma.2.1 }

lemma commaPieces_eq_iff :
    commaPieces s = names ↔ (∀ name ∈ names, IsListed name) ∧ Carries (pieces ',' s) names := by
  constructor
  · rintro rfl
    exact ⟨fun name => isListed_of_mem_commaPieces, carries_filter _⟩
  · rintro ⟨hnames, hcarries⟩
    exact hcarries.eq_filter hnames

/-- Reading gives the names that a list carries, if there are any. -/
theorem commaList?_eq_some_iff : commaList? (some s) = some names ↔
    names ≠ [] ∧ (∀ name ∈ names, IsListed name) ∧ Carries (pieces ',' s) names := by
  rw [← commaPieces_eq_iff, commaList?, Option.getD_some]
  cases commaPieces s with
  | nil =>
    constructor
    · nofun
    · rintro ⟨hne, rfl⟩
      exact absurd rfl hne
  | cons name rest =>
    constructor
    · rintro ⟨⟩
      exact ⟨List.cons_ne_nil _ _, rfl⟩
    · rintro ⟨-, rfl⟩
      rfl

/-- Nothing is read if all pieces are blank. -/
lemma commaList?_eq_none_iff :
    commaList? (some s) = none ↔ ∀ piece ∈ pieces ',' s, AllBlank piece := by
  have hnone : commaList? (some s) = none ↔ commaPieces s = [] := by
    rw [commaList?, Option.getD_some]
    cases commaPieces s <;> simp
  rw [hnone, commaPieces, List.filter_eq_nil_iff, List.forall_mem_map]
  simp [trim_eq_empty_iff]

/-- Names that are put together with blanks and blank pieces between them are read as they are. -/
lemma commaList?_intercalate_of_carries (hne : names ≠ [])
    (hnames : ∀ name ∈ names, IsListed name) (h : Carries ps names) :
    commaList? (some (",".intercalate ps)) = some names := by
  have hps : ps ≠ [] := by
    rintro rfl
    cases h
    exact hne rfl
  rw [commaList?_eq_some_iff, pieces_intercalate rfl (h.comma_not_mem hnames) hps]
  exact ⟨hne, hnames, h⟩

/--
Names that are put together to a comma list, with blanks around them and blank pieces between them
or without, are read again. What is read are such names, so that they are read again when they are
put together, and nothing is read exactly if all pieces are blank.
-/
theorem commaList?_intercalate :
    (∀ names ps : List String, names ≠ [] → (∀ name ∈ names, IsListed name) → Carries ps names →
      commaList? (some (",".intercalate ps)) = some names) ∧
    (∀ (s : String) (names : List String), commaList? (some s) = some names →
      names ≠ [] ∧ (∀ name ∈ names, IsListed name) ∧
        commaList? (some (",".intercalate names)) = some names) ∧
    ∀ s : String, commaList? (some s) = none ↔ ∀ piece ∈ pieces ',' s, AllBlank piece := by
  refine ⟨fun names ps => commaList?_intercalate_of_carries, ?_, fun s => commaList?_eq_none_iff⟩
  intro s names h
  obtain ⟨hne, hnames, -⟩ := commaList?_eq_some_iff.mp h
  exact ⟨hne, hnames, commaList?_intercalate_of_carries hne hnames (carries_self names)⟩

lemma isListed_two : ∀ name ∈ ["first name", "id"], IsListed name := by
  have hfirst : IsListed "first name" := ⟨trimmed_iff.mpr (by decide), by decide, by decide⟩
  have hid : IsListed "id" := ⟨trimmed_iff.mpr (by decide), by decide, by decide⟩
  simp [hfirst, hid]

/-- Two names in four pieces: two are blank, and one name has white space on either side. -/
lemma carries_two : Carries ["", "\u3000first name\t", " ", "id"] ["first name", "id"] := by
  have hname : "\u3000" ++ "first name" ++ "\t" = "\u3000first name\t" := by decide
  rw [← hname]
  refine .blank .empty (.name ?_ ?_ (.blank ?_ (carries_self ["id"])))
  · exact allBlank_iff.mpr (by decide)
  · exact allBlank_iff.mpr (by decide)
  · exact allBlank_iff.mpr (by decide)

/-- The two names are read from the four pieces, and from the list of nothing but themselves. -/
theorem commaList?_intercalate_two :
    ["first name", "id"] ≠ [] ∧ (∀ name ∈ ["first name", "id"], IsListed name) ∧
      Carries ["", "\u3000first name\t", " ", "id"] ["first name", "id"] ∧
      commaList? (some ",\u3000first name\t, ,id") = some ["first name", "id"] ∧
      commaList? (some "first name,id") = some ["first name", "id"] := by
  have hne : ["first name", "id"] ≠ [] := List.cons_ne_nil _ _
  obtain ⟨hread, hagain, -⟩ := commaList?_intercalate
  have hfour : commaList? (some ",\u3000first name\t, ,id") = some ["first name", "id"] :=
    hread _ _ hne isListed_two carries_two
  obtain ⟨-, -, hjoined⟩ := hagain _ _ hfour
  exact ⟨hne, isListed_two, carries_two, hfour, hjoined⟩

end Reading

end ViewAssembly.Text
