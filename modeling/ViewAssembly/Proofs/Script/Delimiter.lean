import ViewAssembly.Proofs.Script.Passage

/-!
# What the search for a closing bracket finds

The search stops in front of a closing bracket of the script (`exists_of_closingFrom`), and what
stands before the bracket that is to be closed has no say in it (`closing?_behind`).
-/

namespace ViewAssembly.Script

open Text

/-- A cursor of the same script with a further text in front of it, nearest character first. -/
def Cursor.behind (front : List Char) (c : Cursor) : Cursor := ⟨c.before ++ front, c.after⟩

section Found

variable {d : Delimiters} {skip depth : Nat} {before cs : List Char} {c : Cursor}

/-- What is found is a closing bracket in the text. -/
lemma exists_of_closingFrom (h : closingFrom d skip depth before cs = some c) :
    ∃ text rest, cs = text ++ d.closing :: rest ∧
      c = ⟨text.reverse ++ before, d.closing :: rest⟩ := by
  induction cs generalizing skip depth before with
  | nil => cases h
  | cons x cs ih =>
    have hstep : ∀ {skip depth : Nat}, closingFrom d skip depth (x :: before) cs = some c →
        ∃ text rest, x :: cs = text ++ d.closing :: rest ∧
          c = ⟨text.reverse ++ before, d.closing :: rest⟩ := by
      intro skip depth h
      obtain ⟨text, rest, rfl, rfl⟩ := ih h
      exact ⟨x :: text, rest, rfl, by simp⟩
    unfold closingFrom at h
    split at h
    · exact hstep h
    · split at h
      · exact hstep h
      · split_ifs at h with hopening hclosing hlast
        · exact hstep h
        · obtain rfl : x = d.closing := by simpa using hclosing
          cases h
          exact ⟨[], cs, rfl, rfl⟩
        · exact hstep h
        · exact hstep h

end Found

section Front

variable {x : Char}

/-- Whether a literal starts somewhere is settled by what follows the last bracket before it. -/
lemma literalLength_append_cons (hblank : isBlank x = false) (hpart : isNamePart x = false)
    (before xs ys cs : List Char) :
    literalLength (before ++ x :: xs) cs = literalLength (before ++ x :: ys) cs := by
  have hopens : opensRegex (before ++ x :: xs) = opensRegex (before ++ x :: ys) := by
    rw [opensRegex_eq, opensRegex_eq, lastBefore?_append_cons before hblank xs ys,
      wordBefore_append_cons before hblank hpart xs ys]
  unfold literalLength
  rw [hopens]

lemma closingFrom_append_cons (hblank : isBlank x = false) (hpart : isNamePart x = false)
    (d : Delimiters) (skip depth : Nat) (before xs front cs : List Char) :
    closingFrom d skip depth (before ++ x :: (xs ++ front)) cs
      = (closingFrom d skip depth (before ++ x :: xs) cs).map (Cursor.behind front) := by
  induction cs generalizing skip depth before with
  | nil => rfl
  | cons c cs ih =>
    have hlength := literalLength_append_cons hblank hpart before (xs ++ front) xs (c :: cs)
    have hstep := fun skip depth => ih skip depth (c :: before)
    simp only [List.cons_append] at hstep
    unfold closingFrom
    rw [hlength]
    split
    · exact hstep _ _
    · split
      · exact hstep _ _
      · split_ifs
        · exact hstep _ _
        · simp [Cursor.behind]
        · exact hstep _ _
        · exact hstep _ _

/-- Behind the bracket that is to be closed there is one to close. -/
lemma closing?_opening {d : Delimiters} (hquote : isQuote d.opening = false)
    (hslash : d.opening ≠ '/') (before after : List Char) :
    closing? d ⟨before, d.opening :: after⟩ = closingFrom d 0 1 (d.opening :: before) after := by
  rw [closing?, closingFrom, literalLength_eq_zero hquote hslash]
  simp

/-- What stands in front of a bracket has no say in where it is closed. -/
lemma closing?_behind {d : Delimiters} (hquote : isQuote d.opening = false)
    (hslash : d.opening ≠ '/') (hblank : isBlank d.opening = false)
    (hpart : isNamePart d.opening = false) (front before after : List Char) :
    closing? d (Cursor.behind front ⟨before, d.opening :: after⟩)
      = (closing? d ⟨before, d.opening :: after⟩).map (Cursor.behind front) := by
  rw [Cursor.behind, closing?_opening hquote hslash, closing?_opening hquote hslash]
  exact closingFrom_append_cons hblank hpart d 0 1 [] before front after

end Front

end ViewAssembly.Script
