import Mathlib.Data.List.DropRight
import ViewAssembly.Text.Blank

/-!
# Runs of characters and trimming

How far a run of characters of one class goes is settled by the text, at its front
(`eq_and_eq_of_run`) as well as at its end (`eq_and_eq_of_run_behind`).

A trimmed text starts and ends with no blank, so to trim it again, with further blanks around it or
without, changes nothing (`trim_append_append`).
-/

namespace ViewAssembly.Text

section Runs

variable {p : Char → Bool} {us vs xs ys word rest rest' : List Char}

lemma eq_false_of_any (h : us.any p = false) : ∀ x ∈ us, p x = false := by simpa using h

/-- A text splits in one way into characters of a class and what starts with none of them. -/
lemma eq_and_eq_of_run (hus : ∀ x ∈ us, p x = true) (hvs : ∀ x ∈ vs, p x = true)
    (hrest : ∀ x ∈ rest.head?, p x = false) (hrest' : ∀ x ∈ rest'.head?, p x = false)
    (h : us ++ rest = vs ++ rest') : us = vs ∧ rest = rest' := by
  have hrun : ∀ {ws more : List Char}, (∀ x ∈ ws, p x = true) → (∀ x ∈ more.head?, p x = false) →
      (ws ++ more).takeWhile p = ws := by
    intro ws more hws hmore
    rw [List.takeWhile_append_of_pos hws]
    cases more with
    | nil => simp
    | cons x xs => simp [hmore x rfl]
  obtain rfl : us = vs := by rw [← hrun hus hrest, h, hrun hvs hrest']
  exact ⟨rfl, List.append_cancel_left h⟩

/-- So it does from its end: characters of a class stand behind what ends with none of them. -/
lemma eq_and_eq_of_run_behind (hus : ∀ x ∈ us, p x = true) (hvs : ∀ x ∈ vs, p x = true)
    (hxs : ∀ x ∈ xs.getLast?, p x = false) (hys : ∀ x ∈ ys.getLast?, p x = false)
    (h : xs ++ us = ys ++ vs) : xs = ys ∧ us = vs := by
  have hreverse : us.reverse ++ xs.reverse = vs.reverse ++ ys.reverse := by
    simpa using congrArg List.reverse h
  obtain ⟨hrun, hrest⟩ := eq_and_eq_of_run (by simpa using hus) (by simpa using hvs)
    (by simpa using hxs) (by simpa using hys) hreverse
  exact ⟨List.reverse_injective hrest, List.reverse_injective hrun⟩

/-- Behind the same word, whatever stands before it, the same characters of a class follow. -/
lemma eq_of_append_run (hus : ∀ x ∈ us, p x = true) (hvs : ∀ x ∈ vs, p x = true)
    (hword : word ≠ []) (hnone : ∀ x ∈ word, p x = false)
    (h : xs ++ word ++ us = ys ++ word ++ vs) : xs = ys := by
  have hlast : ∀ zs : List Char, ∀ x ∈ (zs ++ word).getLast?, p x = false := by
    intro zs x hx
    rw [List.getLast?_append_of_ne_nil _ hword] at hx
    exact hnone x (List.mem_of_mem_getLast? hx)
  exact List.append_cancel_right (eq_and_eq_of_run_behind hus hvs (hlast _) (hlast _) h).1

end Runs

section Trimming

variable {cs back rest : List Char} {c : Char}

lemma trimChars_eq (cs : List Char) :
    trimChars cs = (cs.dropWhile isBlank).rdropWhile isBlank := rfl

lemma length_trimChars_le (cs : List Char) : (trimChars cs).length ≤ cs.length :=
  (List.rdropWhile_prefix _ _).length_le.trans (List.dropWhile_suffix _).length_le

/-- Behind the blanks at the front stands the trimmed text, and behind that the other blanks. -/
lemma exists_dropWhile_append (hc : isBlank c = false) (cs rest : List Char) :
    ∃ back, (∀ x ∈ back, isBlank x = true) ∧
      (cs ++ c :: rest).dropWhile isBlank = trimChars cs ++ (back ++ c :: rest) := by
  refine ⟨(cs.dropWhile isBlank).rtakeWhile isBlank, fun x => List.mem_rtakeWhile_imp, ?_⟩
  rw [trimChars_eq, ← List.append_assoc, List.rdropWhile_append_rtakeWhile]
  induction cs with
  | nil => simp [hc]
  | cons x xs ih => cases hx : isBlank x <;> simp [hx, ih]

/-- A trimmed text starts with no blank. -/
lemma isBlank_of_trimChars_eq_cons (h : trimChars cs = c :: rest) : isBlank c = false := by
  obtain ⟨more, hmore⟩ := List.rdropWhile_prefix isBlank (cs.dropWhile isBlank)
  have hcons : cs.dropWhile isBlank = c :: (rest ++ more) := by
    rw [← hmore, ← trimChars_eq, h, List.cons_append]
  simpa [hcons] using List.head?_dropWhile_not isBlank cs

/-- Blanks behind a trimmed text are what trimming drops. -/
lemma trimChars_append (hback : ∀ x ∈ back, isBlank x = true) (cs : List Char) :
    trimChars (trimChars cs ++ back) = trimChars cs := by
  have hdrop : (trimChars cs ++ back).rdropWhile isBlank = trimChars cs := by
    rw [List.rdropWhile, List.reverse_append,
      List.dropWhile_append_of_pos (fun x hx => hback x (List.mem_reverse.mp hx)),
      ← List.rdropWhile, trimChars_eq, List.rdropWhile_idempotent]
  cases htrim : trimChars cs with
  | nil => rw [List.nil_append, trimChars_eq, List.dropWhile_eq_nil_iff.mpr hback]; rfl
  | cons c rest =>
    rw [trimChars_eq, List.cons_append, List.dropWhile_cons_of_neg
      (by simp [isBlank_of_trimChars_eq_cons htrim]), ← List.cons_append, ← htrim, hdrop]

end Trimming

section Texts

def AllBlank (s : String) : Prop := ∀ c ∈ s.toList, isBlank c = true

/-- A text without white space around it. -/
structure Trimmed (s : String) : Prop where
  first : ∀ c ∈ s.toList.head?, isBlank c = false
  last : ∀ c ∈ s.toList.getLast?, isBlank c = false

variable {s front back : String}

lemma allBlank_iff : AllBlank s ↔ s.toList.all isBlank = true := List.all_eq_true.symm

lemma AllBlank.empty : AllBlank "" := by simp [AllBlank]

lemma AllBlank.append (hfront : AllBlank front) (hback : AllBlank back) :
    AllBlank (front ++ back) := by
  intro c hc
  rw [String.toList_append, List.mem_append] at hc
  exact hc.elim (hfront c) (hback c)

lemma Trimmed.empty : Trimmed "" := ⟨by simp, by simp⟩

/-- A trimmed text is left as it is. -/
lemma Trimmed.trimChars_eq (hs : Trimmed s) : trimChars s.toList = s.toList := by
  have hfirst : s.toList.dropWhile isBlank = s.toList := by
    cases hcs : s.toList with
    | nil => rfl
    | cons c cs => exact List.dropWhile_cons_of_neg (by simp [hs.first c (by simp [hcs])])
  rw [Text.trimChars_eq, hfirst, List.rdropWhile_eq_self_iff]
  intro hne
  simp [hs.last _ (List.getLast?_eq_some_getLast hne)]

/-- Blanks around a trimmed text are what trimming drops. -/
lemma trim_append_append (hfront : AllBlank front) (hback : AllBlank back) (hs : Trimmed s) :
    trim (front ++ s ++ back) = s := by
  have hdrop : trimChars (front.toList ++ (s.toList ++ back.toList))
      = trimChars (s.toList ++ back.toList) := by
    rw [trimChars_eq, List.dropWhile_append_of_pos hfront, ← trimChars_eq]
  have hrest : trimChars (s.toList ++ back.toList) = s.toList := by
    have hback' := trimChars_append hback s.toList
    rwa [hs.trimChars_eq] at hback'
  rw [trim, String.toList_append, String.toList_append, List.append_assoc, hdrop, hrest,
    String.ofList_toList]

lemma trimmed_trim (s : String) : Trimmed (trim s) := by
  constructor
  · intro c hc
    rw [trim, String.toList_ofList] at hc
    obtain ⟨rest, hrest⟩ := List.head?_eq_some_iff.mp hc
    exact isBlank_of_trimChars_eq_cons hrest
  · intro c hc
    rw [trim, String.toList_ofList, trimChars_eq] at hc
    obtain ⟨hne, rfl⟩ := List.mem_getLast?_eq_getLast hc
    simpa using List.rdropWhile_last_not isBlank _ hne

lemma trimmed_iff : Trimmed s ↔ trim s = s := by
  constructor
  · intro h
    rw [trim, h.trimChars_eq, String.ofList_toList]
  · intro h
    exact h ▸ trimmed_trim s

/-- A text has blanks around its trimmed form. -/
lemma exists_eq_append_trim (s : String) :
    ∃ front back, AllBlank front ∧ AllBlank back ∧ s = front ++ trim s ++ back := by
  refine ⟨String.ofList (s.toList.takeWhile isBlank),
    String.ofList ((s.toList.dropWhile isBlank).rtakeWhile isBlank), ?_, ?_, ?_⟩
  · intro c hc
    rw [String.toList_ofList] at hc
    exact List.mem_takeWhile_imp hc
  · intro c hc
    rw [String.toList_ofList] at hc
    exact List.mem_rtakeWhile_imp hc
  · apply String.toList_injective
    rw [String.toList_append, String.toList_append, trim, String.toList_ofList,
      String.toList_ofList, String.toList_ofList, trimChars_eq, List.append_assoc,
      List.rdropWhile_append_rtakeWhile, List.takeWhile_append_dropWhile]

lemma trim_eq_empty_iff : trim s = "" ↔ AllBlank s := by
  constructor
  · intro h
    obtain ⟨front, back, hfront, hback, hs⟩ := exists_eq_append_trim s
    rw [h, String.append_empty] at hs
    exact hs ▸ hfront.append hback
  · intro h
    have htrim := trim_append_append h .empty .empty
    rwa [String.append_empty, String.append_empty] at htrim

end Texts

end ViewAssembly.Text
