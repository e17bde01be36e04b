import ViewAssembly.Proofs.Script.Passage

/-!
# Literals that end in a text

A string or a comment that ends in a text ends there whatever follows. A regular expression does if
the text is followed by a character that is no flag; one that does not end in a text does not end in
a shorter one either. So the literals that end in a text are found as well where the script is cut
off behind the character after it (`literalLength_append_of_le`).
-/

namespace ViewAssembly.Script

open Text

variable {text rest : List Char} {c x : Char}

/-! ### Strings -/

/-- Induction for what reads a backslash together with the character behind it. -/
lemma induction_on_escapes {motive : List Char → Prop} (nil : motive []) (lone : motive ['\\'])
    (escaped : ∀ c cs, motive cs → motive ('\\' :: c :: cs))
    (char : ∀ c cs, c ≠ '\\' → motive cs → motive (c :: cs)) (text : List Char) : motive text := by
  match text with
  | [] => exact nil
  | c :: cs =>
    by_cases hc : c = '\\'
    · subst hc
      match cs with
      | [] => exact lone
      | d :: ds => exact escaped d ds (induction_on_escapes nil lone escaped char ds)
    · exact char c cs hc (induction_on_escapes nil lone escaped char cs)

lemma stringLength_cons {quote : Char} (hc : c ≠ '\\') (cs : List Char) :
    stringLength quote (c :: cs) = if c == quote then 1 else 1 + stringLength quote cs := by
  cases cs <;> simp [stringLength, hc]

lemma stringLength_escaped (quote : Char) (cs : List Char) :
    stringLength quote ('\\' :: c :: cs) = 2 + stringLength quote cs := rfl

lemma stringLength_pos (quote c : Char) (cs : List Char) : 0 < stringLength quote (c :: cs) := by
  by_cases hc : c = '\\'
  · subst hc
    cases cs with
    | nil => exact Nat.one_pos
    | cons d ds => rw [stringLength_escaped]; omega
  · rw [stringLength_cons hc]
    split_ifs <;> omega

/-- A string that ends in a text ends there whatever follows. -/
lemma stringLength_append_of_le {quote : Char}
    (h : stringLength quote (text ++ x :: rest) ≤ text.length) (rest' : List Char) :
    stringLength quote (text ++ rest') = stringLength quote (text ++ x :: rest) := by
  induction text using induction_on_escapes with
  | nil => exact absurd h (Nat.not_le_of_gt (stringLength_pos quote x rest))
  | lone =>
    have hescaped : stringLength quote (['\\'] ++ x :: rest) = 2 + stringLength quote rest := rfl
    rw [hescaped, List.length_singleton] at h
    omega
  | escaped c cs ih =>
    simp only [List.cons_append, stringLength_escaped, List.length_cons] at h ⊢
    rw [ih (by omega)]
  | char c cs hc ih =>
    simp only [List.cons_append, stringLength_cons hc, List.length_cons] at h ⊢
    by_cases hquote : c == quote
    · rw [if_pos hquote, if_pos hquote]
    · rw [if_neg hquote] at h
      rw [if_neg hquote, if_neg hquote, ih (by omega)]

/-! ### Comments -/

/-- A line that ends in a text ends there whatever follows. -/
lemma lineLength_append_of_le (h : lineLength (text ++ x :: rest) ≤ text.length)
    (rest' : List Char) : lineLength (text ++ rest') = lineLength (text ++ x :: rest) := by
  induction text with
  | nil =>
    simp only [List.nil_append, lineLength, List.length_nil] at h
    split_ifs at h <;> omega
  | cons c cs ih =>
    simp only [List.cons_append, lineLength, List.length_cons] at h ⊢
    by_cases hc : c == '\n'
    · rw [if_pos hc, if_pos hc]
    · rw [if_neg hc] at h
      rw [if_neg hc, if_neg hc, ih (by omega)]

lemma commentLength_cons_cons (c e : Char) (cs : List Char) :
    commentLength (c :: e :: cs) =
      if c = '*' ∧ e = '/' then 2 else 1 + commentLength (e :: cs) := by
  split_ifs with h
  · obtain ⟨rfl, rfl⟩ := h
    rfl
  · rw [commentLength]
    rintro ds rfl hds
    exact h ⟨rfl, (List.cons.inj hds).1⟩

lemma commentLength_pos (c : Char) (cs : List Char) : 0 < commentLength (c :: cs) := by
  cases cs with
  | nil => simp [commentLength]
  | cons e es =>
    rw [commentLength_cons_cons]
    split_ifs <;> omega

/-- A comment that ends in a text ends there whatever follows. -/
lemma commentLength_append_of_le (h : commentLength (text ++ x :: rest) ≤ text.length)
    (rest' : List Char) : commentLength (text ++ rest') = commentLength (text ++ x :: rest) := by
  induction text with
  | nil => exact absurd h (Nat.not_le_of_gt (commentLength_pos x rest))
  | cons c cs ih =>
    cases cs with
    | nil =>
      -- the mark that closes a comment does not fit into one character
      have hpos := commentLength_pos x rest
      rw [List.singleton_append, commentLength_cons_cons, List.length_singleton] at h
      split_ifs at h <;> omega
    | cons e es =>
      simp only [List.cons_append, commentLength_cons_cons c, List.length_cons] at h ih ⊢
      by_cases hend : c = '*' ∧ e = '/'
      · rw [if_pos hend, if_pos hend]
      · rw [if_neg hend] at h
        rw [if_neg hend, if_neg hend, ih (by omega)]

/-! ### Regular expressions -/

lemma regexLength?_cons {inBrackets : Bool} (hc : c ≠ '\\') (cs : List Char) :
    regexLength? inBrackets (c :: cs) =
      if c == '\n' then none
      else if inBrackets then (regexLength? (c != ']') cs).map (1 + ·)
      else if c == '/' then some (1 + flagsLength cs)
      else (regexLength? (c == '[') cs).map (1 + ·) := by
  cases cs <;> simp [regexLength?, hc]

lemma regexLength?_escaped (inBrackets : Bool) (c : Char) (cs : List Char) :
    regexLength? inBrackets ('\\' :: c :: cs) = (regexLength? inBrackets cs).map (2 + ·) := rfl

lemma pos_of_regexLength? {inBrackets : Bool} {cs : List Char} {n : Nat}
    (h : regexLength? inBrackets cs = some n) : 0 < n := by
  have hmap : ∀ {o : Option Nat} {k : Nat}, 0 < k → o.map (k + ·) = some n → 0 < n := by
    intro o k hk ho
    obtain ⟨m, -, rfl⟩ := Option.map_eq_some_iff.mp ho
    omega
  cases cs with
  | nil => cases h
  | cons c cs =>
    by_cases hc : c = '\\'
    · subst hc
      cases cs with
      | nil => cases h
      | cons d ds => exact hmap Nat.two_pos h
    · rw [regexLength?_cons hc] at h
      split_ifs at h
      · exact hmap Nat.one_pos h
      · cases h
        omega
      · exact hmap Nat.one_pos h

/-- A regular expression that does not end in a text does not end in a shorter one. -/
lemma regexLength?_eq_none_of_append {inBrackets : Bool}
    (h : regexLength? inBrackets (text ++ rest) = none) : regexLength? inBrackets text = none := by
  induction text using induction_on_escapes generalizing inBrackets with
  | nil => rfl
  | lone => rfl
  | escaped c cs ih =>
    simp only [List.cons_append, regexLength?_escaped, Option.map_eq_none_iff] at h ⊢
    exact ih h
  | char c cs hc ih =>
    rw [List.cons_append, regexLength?_cons hc] at h
    rw [regexLength?_cons hc]
    split_ifs at h ⊢
    · rfl
    · exact Option.map_eq_none_iff.mpr (ih (Option.map_eq_none_iff.mp h))
    · exact Option.map_eq_none_iff.mpr (ih (Option.map_eq_none_iff.mp h))

/--
A regular expression that ends in a text ends there whatever follows behind the character after it.
-/
lemma regexLength?_append_of_le {inBrackets : Bool} {n : Nat} (hx : isNamePart x = false)
    (h : regexLength? inBrackets (text ++ x :: rest) = some n) (hn : n ≤ text.length)
    (rest' : List Char) : regexLength? inBrackets (text ++ x :: rest') = some n := by
  induction text using induction_on_escapes generalizing inBrackets n with
  | nil => exact absurd hn (Nat.not_le_of_gt (pos_of_regexLength? h))
  | lone =>
    have hescaped : regexLength? inBrackets (['\\'] ++ x :: rest)
        = (regexLength? inBrackets rest).map (2 + ·) := rfl
    rw [hescaped] at h
    obtain ⟨m, -, rfl⟩ := Option.map_eq_some_iff.mp h
    rw [List.length_singleton] at hn
    omega
  | escaped c cs ih =>
    simp only [List.cons_append, regexLength?_escaped, List.length_cons] at h hn ⊢
    obtain ⟨m, hm, rfl⟩ := Option.map_eq_some_iff.mp h
    rw [ih hm (by omega), Option.map_some]
  | char c cs hc ih =>
    have hgoesOn : ∀ b, (regexLength? b (cs ++ x :: rest)).map (1 + ·) = some n →
        (regexLength? b (cs ++ x :: rest')).map (1 + ·) = some n := by
      intro b hb
      obtain ⟨m, hm, rfl⟩ := Option.map_eq_some_iff.mp hb
      rw [List.length_cons] at hn
      rw [ih hm (by omega), Option.map_some]
    -- the flags do not go on over the character behind the text
    have hflags : ∀ ds, flagsLength (cs ++ x :: ds) = (cs.takeWhile isNamePart).length := fun ds =>
      congrArg List.length (takeWhile_append_cons hx ds)
    simp only [List.cons_append, regexLength?_cons hc, hflags] at h ⊢
    split_ifs at h ⊢
    · exact hgoesOn _ h
    · exact h
    · exact hgoesOn _ h

lemma literalLength_slash_of_head? {before cs : List Char} (hslash : cs.head? ≠ some '/')
    (hstar : cs.head? ≠ some '*') :
    literalLength before ('/' :: cs)
      = if opensRegex before then ((regexLength? false cs).map (1 + ·)).getD 0 else 0 := by
  cases cs with
  | nil => simp [literalLength, regexLength?]
  | cons c cs => exact literalLength_slash (by simpa using hslash) (by simpa using hstar) before cs

/-- Whether a slash starts a regular expression that ends in a text is settled by the text. -/
lemma literalLength_slash_append_of_le (hx : isNamePart x = false)
    (hslash : text.head?.or (some x) ≠ some '/') (hstar : text.head?.or (some x) ≠ some '*')
    (before : List Char) (h : literalLength before ('/' :: (text ++ x :: rest)) ≤ text.length + 1) :
    literalLength before ('/' :: (text ++ [x]))
      = literalLength before ('/' :: (text ++ x :: rest)) := by
  have hopens : ∀ cs, literalLength before ('/' :: (text ++ x :: cs))
      = if opensRegex before then ((regexLength? false (text ++ x :: cs)).map (1 + ·)).getD 0
        else 0 :=
    fun cs => literalLength_slash_of_head? (by simpa using hslash) (by simpa using hstar)
  rw [hopens rest] at h ⊢
  rw [hopens []]
  split_ifs at h ⊢
  · cases hregex : regexLength? false (text ++ x :: rest) with
    | none =>
      have hcut : regexLength? false (text ++ [x] ++ rest) = none := by simpa using hregex
      rw [regexLength?_eq_none_of_append hcut]
    | some n =>
      have hn : n ≤ text.length := by simpa [hregex, Nat.add_comm] using h
      rw [regexLength?_append_of_le hx hregex hn]
  · rfl

/-! ### Any literal -/

/--
Whether a literal starts at a place, and how far it goes if it ends in a text, is settled by the
text and one more character that belongs to no mark of a literal.
-/
lemma literalLength_append_of_le (hquote : isQuote x = false) (hslash : x ≠ '/') (hstar : x ≠ '*')
    (hx : isNamePart x = false) (before text : List Char)
    (h : literalLength before (text ++ x :: rest) ≤ text.length) :
    literalLength before (text ++ [x]) = literalLength before (text ++ x :: rest) := by
  cases text with
  | nil => simp only [List.nil_append, literalLength_eq_zero hquote hslash]
  | cons c cs =>
    simp only [List.cons_append, List.length_cons] at h ⊢
    by_cases hc : c = '/'
    · subst hc
      have hplain : cs.head?.or (some x) ≠ some '/' → cs.head?.or (some x) ≠ some '*' →
          literalLength before ('/' :: (cs ++ [x]))
            = literalLength before ('/' :: (cs ++ x :: rest)) :=
        fun hslash hstar => literalLength_slash_append_of_le hx hslash hstar before h
      -- the character behind a slash tells comments from anything else that a slash starts
      cases cs with
      | nil => exact hplain (by simpa using hslash) (by simpa using hstar)
      | cons e es =>
        by_cases hline : e = '/'
        · subst hline
          simp only [List.cons_append, literalLength, List.length_cons] at h ⊢
          have hends : lineLength (es ++ x :: rest) ≤ es.length := by omega
          rw [lineLength_append_of_le hends [x]]
        · by_cases hcomment : e = '*'
          · subst hcomment
            simp only [List.cons_append, literalLength, List.length_cons] at h ⊢
            have hends : commentLength (es ++ x :: rest) ≤ es.length := by omega
            rw [commentLength_append_of_le hends [x]]
          · exact hplain (by simpa using hline) (by simpa using hcomment)
    · have hother : ∀ ds, literalLength before (c :: ds)
          = if isQuote c then 1 + stringLength c ds else 0 := fun ds => by simp [literalLength, hc]
      rw [hother] at h ⊢
      rw [hother]
      split_ifs at h ⊢
      · have hends : stringLength c (cs ++ x :: rest) ≤ cs.length := by omega
        rw [stringLength_append_of_le hends [x]]
      · rfl

end ViewAssembly.Script
