import Mathlib.Data.List.TakeDrop
import Mathlib.Data.List.TakeWhile
import Mathlib.Tactic.Common
import ViewAssembly.Text.Pieces

/-!
# Cutting what was put together

Texts that are put together with a separator between them, and that do not hold it themselves, are
the pieces into which the outcome is cut again (`pieces_intercalate`).
-/

namespace ViewAssembly.Text

variable {p : Char → Bool} {c : Char} {cs piece : List Char} {s : String} {ts : List String}

/-- Cutting is what the standard library calls splitting. -/
lemma cutAt_eq_splitOnP (p : Char → Bool) (cs : List Char) : cutAt p cs = cs.splitOnP p := by
  induction cs with
  | nil => rw [cutAt, List.splitOnP_nil]
  | cons c cs ih =>
    rw [cutAt, ih, List.splitOnP_cons_eq_if_modifyHead]
    cases hcut : cs.splitOnP p with
    | nil => exact absurd hcut (List.splitOnP_ne_nil p cs)
    | cons piece rest => rfl

lemma cutAt_eq_singleton (h : ∀ c ∈ cs, p c = false) : cutAt p cs = [cs] := by
  rw [cutAt_eq_splitOnP, List.splitOnP_eq_singleton h]

/-- No piece holds a separator. -/
lemma not_of_mem_cutAt (h : piece ∈ cutAt p cs) : ∀ c ∈ piece, p c = false := by
  induction cs generalizing piece with
  | nil =>
    rw [cutAt, List.mem_singleton] at h
    subst h
    nofun
  | cons c cs ih =>
    unfold cutAt at h
    split at h
    · rw [List.mem_singleton] at h
      subst h
      nofun
    · next first rest hcut =>
      rw [hcut] at ih
      split_ifs at h with hc
      · rcases List.mem_cons.1 h with rfl | hmem
        · nofun
        · exact ih hmem
      · rcases List.mem_cons.1 h with rfl | hmem
        · exact List.forall_mem_cons.2 ⟨by simpa using hc, ih List.mem_cons_self⟩
        · exact ih (List.mem_cons_of_mem _ hmem)

/-- The pieces of a text put together are the text without its separators. -/
lemma flatten_cutAt (p : Char → Bool) (cs : List Char) :
    (cutAt p cs).flatten = cs.filter (!p ·) := by
  induction cs with
  | nil => rfl
  | cons c cs ih =>
    rw [cutAt]
    cases hcut : cutAt p cs with
    | nil =>
      rw [cutAt_eq_splitOnP] at hcut
      exact absurd hcut (List.splitOnP_ne_nil p cs)
    | cons piece rest =>
      rw [hcut] at ih
      cases hc : p c <;> simp [hc, ← ih]

lemma pieces_eq_singleton {separator : Char} (h : ∀ c ∈ s.toList, (c == separator) = false) :
    pieces separator s = [s] := by
  rw [pieces, cutAt_eq_singleton h, List.map_singleton, String.ofList_toList]

lemma pieces_eq_singleton_of_not_mem (h : c ∉ s.toList) : pieces c s = [s] :=
  pieces_eq_singleton fun x hx => by simpa using fun hxc : x = c => h (hxc ▸ hx)

/-- No piece of a text holds what it was cut at. -/
lemma not_mem_of_mem_pieces {t : String} (h : t ∈ pieces c s) : c ∉ t.toList := by
  obtain ⟨cs, hcs, rfl⟩ := List.mem_map.mp h
  rw [String.toList_ofList]
  intro hmem
  simpa using not_of_mem_cutAt hcs c hmem

/-- A text with a separator in it is cut there, and then what stands on either side of it. -/
lemma pieces_append_append {separator : String} (hseparator : separator.toList = [c])
    (s t : String) : pieces c (s ++ separator ++ t) = pieces c s ++ pieces c t := by
  simp only [pieces, cutAt_eq_splitOnP]
  rw [String.toList_append, String.toList_append, hseparator, List.append_assoc,
    List.singleton_append, List.splitOnP_append_cons (p := (· == c)) _ _ (beq_self_eq_true c),
    List.map_append]

/-- A text is cut at the first separator in it, and then behind that. -/
lemma pieces_append {separator : String} (hseparator : separator.toList = [c])
    (h : c ∉ s.toList) (rest : String) :
    pieces c (s ++ separator ++ rest) = s :: pieces c rest := by
  rw [pieces_append_append hseparator, pieces_eq_singleton_of_not_mem h]
  rfl

/-- A text that is put together is cut into the pieces of what it is put together from. -/
lemma pieces_intercalate_eq_flatMap {separator : String} (hseparator : separator.toList = [c])
    (hts : ts ≠ []) : pieces c (separator.intercalate ts) = ts.flatMap (pieces c) := by
  induction ts with
  | nil => contradiction
  | cons t ts ih =>
    by_cases hnil : ts = []
    · rw [hnil, String.intercalate_singleton, List.flatMap_singleton]
    · rw [String.intercalate_cons_of_ne_nil hnil, pieces_append_append hseparator, ih hnil,
        List.flatMap_cons]

/-- Texts without a separator are the pieces of the text that they make up with it. -/
lemma pieces_intercalate {separator : String} (hseparator : separator.toList = [c])
    (h : ∀ t ∈ ts, c ∉ t.toList) (hts : ts ≠ []) :
    pieces c (separator.intercalate ts) = ts := by
  have hpieces : ts.map (pieces c) = ts.map fun t => [t] :=
    List.map_congr_left fun t ht => pieces_eq_singleton_of_not_mem (h t ht)
  rw [pieces_intercalate_eq_flatMap hseparator hts, List.flatMap_def, hpieces, ← List.flatMap_def,
    List.flatMap_singleton']

lemma not_mem_append_append_iff {separator s t : String} :
    c ∉ (s ++ separator ++ t).toList ↔
      c ∉ s.toList ∧ c ∉ separator.toList ∧ c ∉ t.toList := by
  simp only [String.toList_append, List.mem_append, not_or, and_assoc]

/-- No character gets into a text from between its pieces that does not stand there. -/
lemma not_mem_intercalate {separator : String} (hseparator : c ∉ separator.toList)
    (h : ∀ t ∈ ts, c ∉ t.toList) : c ∉ (separator.intercalate ts).toList := by
  induction ts with
  | nil => simp
  | cons t ts ih =>
    obtain ⟨ht, hts⟩ := List.forall_mem_cons.mp h
    by_cases hnil : ts = []
    · rw [hnil, String.intercalate_singleton]
      exact ht
    · rw [String.intercalate_cons_of_ne_nil hnil]
      exact not_mem_append_append_iff.mpr ⟨ht, hseparator, ih hts⟩

lemma bne_of_not_mem (h : c ∉ s.toList) : ∀ x ∈ s.toList, (x != c) = true := fun x hx => by
  simpa using fun hxc : x = c => h (hxc ▸ hx)

/-- A text with a separator in it, and what stands before the first one. -/
lemma splitFirst?_append {separator : String} (hseparator : separator.toList = [c])
    (h : c ∉ s.toList) (rest : String) :
    splitFirst? c (s ++ separator ++ rest) = some (s, rest) := by
  have hs := bne_of_not_mem h
  rw [splitFirst?, List.span_eq_takeWhile_dropWhile, String.toList_append, String.toList_append,
    hseparator, List.append_assoc, List.takeWhile_append_of_pos hs, List.dropWhile_append_of_pos hs]
  simp

lemma splitFirst?_eq_none (h : c ∉ s.toList) : splitFirst? c s = none := by
  rw [splitFirst?, List.span_eq_takeWhile_dropWhile,
    List.dropWhile_eq_nil_iff.mpr (bne_of_not_mem h)]

/-- The parts of a text before and after the first separator in it make it up again. -/
lemma splitFirst?_eq_some_iff {separator before after : String}
    (hseparator : separator.toList = [c]) :
    splitFirst? c s = some (before, after) ↔
      s = before ++ separator ++ after ∧ c ∉ before.toList := by
  constructor
  · intro h
    rw [splitFirst?, List.span_eq_takeWhile_dropWhile] at h
    have hsplit : s.toList.takeWhile (· != c) ++ s.toList.dropWhile (· != c) = s.toList :=
      List.takeWhile_append_dropWhile
    have hbefore : ∀ x ∈ s.toList.takeWhile (· != c), x ≠ c := fun x hx => by
      simpa using List.mem_takeWhile_imp hx
    have hfirst := List.head?_dropWhile_not (· != c) s.toList
    cases hdrop : s.toList.dropWhile (· != c) with
    | nil =>
      rw [hdrop] at h
      cases h
    | cons d rest =>
      obtain rfl : d = c := by simpa [hdrop] using hfirst
      rw [hdrop] at h hsplit
      cases h
      refine ⟨String.toList_injective ?_, fun hmem => ?_⟩
      · rw [String.toList_append, String.toList_append, String.toList_ofList, String.toList_ofList,
          hseparator, List.append_assoc, List.singleton_append, hsplit]
      · rw [String.toList_ofList] at hmem
        exact hbefore d hmem rfl
  · rintro ⟨rfl, h⟩
    exact splitFirst?_append hseparator h after

end ViewAssembly.Text
