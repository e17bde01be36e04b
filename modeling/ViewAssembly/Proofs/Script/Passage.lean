import Mathlib.Data.List.TakeWhile
import Mathlib.Tactic.Common
import ViewAssembly.Script.Delimiter

/-!
# Passages whose curly brackets are paired

A passage of a script is put together from plain characters, strings, comments, regular
expressions, divisions and blocks in curly brackets. Whether a slash divides or opens a regular
expression is said by what stands before it, so a passage is one only at its place.

Whoever counts curly brackets comes out of a passage as deep as he went in, whatever the literals
in it hold (`closingFrom_passage`).
-/

namespace ViewAssembly.Script

open Text

/-! ### The insides of literals -/

/-- What can stand in a string: no quote of its own kind, except behind a backslash. -/
inductive InString (quote : Char) : List Char → Prop where
  | nil : InString quote []
  | escaped (c : Char) {cs : List Char} (h : InString quote cs) : InString quote ('\\' :: c :: cs)
  | char {c : Char} {cs : List Char} (hquote : c ≠ quote) (hc : c ≠ '\\') (h : InString quote cs) :
      InString quote (c :: cs)

/--
What can stand in a regular expression, outside square brackets or inside them: no slash outside
except behind a backslash, and no line end.
-/
inductive InRegex : Bool → List Char → Prop where
  | nil : InRegex false []
  | escaped {inBrackets : Bool} {c : Char} {cs : List Char} (hc : c ≠ '\n')
      (h : InRegex inBrackets cs) : InRegex inBrackets ('\\' :: c :: cs)
  | opening {cs : List Char} (h : InRegex true cs) : InRegex false ('[' :: cs)
  | closing {cs : List Char} (h : InRegex false cs) : InRegex true (']' :: cs)
  | inside {c : Char} {cs : List Char} (hc : c ∉ ['\\', '\n', ']']) (h : InRegex true cs) :
      InRegex true (c :: cs)
  | outside {c : Char} {cs : List Char} (hc : c ∉ ['\\', '\n', '[', '/']) (h : InRegex false cs) :
      InRegex false (c :: cs)

/-! ### What a slash stands behind -/

/-- The last character before a place that is no blank, `before` being nearest first. -/
def lastBefore? (before : List Char) : Option Char := (before.dropWhile isBlank).head?

/-- The whole word before a place, blanks aside. -/
def wordBefore (before : List Char) : List Char :=
  ((before.dropWhile isBlank).takeWhile isNamePart).reverse

def IsIdentifier (cs : List Char) : Prop :=
  ∃ c rest, cs = c :: rest ∧ isNameStart c = true ∧
    ∀ x ∈ rest, isNameStart x = true ∨ x.isDigit = true

/-- A slash here opens a regular expression: an operator or a keyword stands before it. -/
def BehindOperator (before : List Char) : Prop :=
  (∃ c ∈ regexPreceders, lastBefore? before = some c) ∨
    String.ofList (wordBefore before) ∈ regexKeywords

/-- A slash here divides: a closing bracket, a number or a name stands before it. -/
def BehindOperand (before : List Char) : Prop :=
  lastBefore? before = some ')' ∨ lastBefore? before = some ']' ∨
    (wordBefore before ≠ [] ∧ ∀ c ∈ wordBefore before, c.isDigit = true) ∨
    (IsIdentifier (wordBefore before) ∧ String.ofList (wordBefore before) ∉ regexKeywords)

/-! ### Passages -/

/-- A character that means nothing to who counts curly brackets. -/
def isPlain (c : Char) : Bool := !isQuote c && c != '/' && c != '{' && c != '}'

/--
The pieces without brackets, between what stands before them, nearest first, and what follows. The
flags of a regular expression are plain characters behind it.
-/
inductive Piece (before : List Char) : List Char → List Char → Prop where
  | plain {c : Char} {after : List Char} (hc : isPlain c = true) : Piece before [c] after
  | string {quote : Char} {inner after : List Char} (hquote : isQuote quote = true)
      (hinner : InString quote inner) : Piece before (quote :: inner ++ [quote]) after
  | line {inner after : List Char} (hinner : '\n' ∉ inner) :
      Piece before ('/' :: '/' :: inner ++ ['\n']) after
  | comment {inner after : List Char} (hinner : ¬ ['*', '/'] <:+: inner) :
      Piece before ('/' :: '*' :: inner ++ ['*', '/']) after
  | regex {inner after : List Char} (hplace : BehindOperator before) (hinner : InRegex false inner)
      (hne : inner ≠ []) (hstar : inner.head? ≠ some '*') :
      Piece before ('/' :: inner ++ ['/']) after
  | division {after : List Char} (hplace : BehindOperand before) (hslash : after.head? ≠ some '/')
      (hstar : after.head? ≠ some '*') : Piece before ['/'] after

/-- The passages that can stand behind `before`, which is nearest first. -/
inductive Passage : List Char → List Char → Prop where
  | nil (before : List Char) : Passage before []
  | piece {before text cs : List Char} (htext : Piece before text cs)
      (h : Passage (text.reverse ++ before) cs) : Passage before (text ++ cs)
  | block {before inner cs : List Char} (hinner : Passage ('{' :: before) inner)
      (h : Passage (('{' :: inner ++ ['}']).reverse ++ before) cs) :
      Passage before ('{' :: inner ++ '}' :: cs)

lemma Passage.append_plain {before text cs : List Char} (htext : text.all isPlain = true)
    (h : Passage (text.reverse ++ before) cs) : Passage before (text ++ cs) := by
  induction text generalizing before with
  | nil => exact h
  | cons c text ih =>
    rw [List.all_cons, Bool.and_eq_true] at htext
    have htail : Passage (c :: before) (text ++ cs) := ih htext.2 (by simpa using h)
    have hsplit : Passage before ([c] ++ (text ++ cs)) := .piece (.plain htext.1) htail
    exact hsplit

/-! ### What a bracket shuts out -/

section Bracket

variable {p : Char → Bool} {c : Char} {before text after xs ys cs : List Char}

lemma exists_dropWhile_append_cons (before : List Char) (hc : p c = false)
    (xs ys : List Char) :
    ∃ ds, (before ++ c :: xs).dropWhile p = ds ++ c :: xs ∧
      (before ++ c :: ys).dropWhile p = ds ++ c :: ys := by
  induction before with
  | nil => exact ⟨[], by simp [hc], by simp [hc]⟩
  | cons b bs ih =>
    -- what is dropped ends before the bracket, so what stands behind it is never looked at
    cases hb : p b with
    | true => simpa [hb] using ih
    | false => exact ⟨b :: bs, by simp [hb], by simp [hb]⟩

lemma takeWhile_append_cons (hc : p c = false) (xs : List Char) :
    (before ++ c :: xs).takeWhile p = before.takeWhile p := by
  induction before with
  | nil => simp [hc]
  | cons b bs ih => cases hb : p b <;> simp [hb, ih]

lemma lastBefore?_append_cons (before : List Char) (hc : isBlank c = false) (xs ys : List Char) :
    lastBefore? (before ++ c :: xs) = lastBefore? (before ++ c :: ys) := by
  obtain ⟨ds, hxs, hys⟩ := exists_dropWhile_append_cons before hc xs ys
  rw [lastBefore?, lastBefore?, hxs, hys]
  cases ds <;> rfl

lemma wordBefore_append_cons (before : List Char) (hc : isBlank c = false)
    (hpart : isNamePart c = false) (xs ys : List Char) :
    wordBefore (before ++ c :: xs) = wordBefore (before ++ c :: ys) := by
  obtain ⟨ds, hxs, hys⟩ := exists_dropWhile_append_cons before hc xs ys
  rw [wordBefore, wordBefore, hxs, hys, takeWhile_append_cons hpart, takeWhile_append_cons hpart]

lemma Piece.congr_before (hc : isBlank c = false) (hpart : isNamePart c = false)
    (h : Piece (before ++ c :: xs) text after) : Piece (before ++ c :: ys) text after := by
  have hlast := lastBefore?_append_cons before hc xs ys
  have hword := wordBefore_append_cons before hc hpart xs ys
  cases h with
  | plain hplain => exact .plain hplain
  | string hquote hinner => exact .string hquote hinner
  | line hinner => exact .line hinner
  | comment hinner => exact .comment hinner
  | regex hplace hinner hne hstar =>
    refine .regex ?_ hinner hne hstar
    rwa [BehindOperator, ← hlast, ← hword]
  | division hplace hslash hstar =>
    refine .division ?_ hslash hstar
    rwa [BehindOperand, ← hlast, ← hword]

/-- What stands before an opening bracket has no say in what a passage behind it is. -/
theorem Passage.congr_before (before : List Char) (hc : isBlank c = false)
    (hpart : isNamePart c = false) (h : Passage (before ++ c :: xs) cs) :
    Passage (before ++ c :: ys) cs := by
  -- the induction is on the passage, so the front of it has to be a variable
  generalize hbefore : before ++ c :: xs = front at h
  induction h generalizing before with
  | nil => exact .nil _
  | @piece front text cs htext _ ih =>
    subst hbefore
    refine .piece (htext.congr_before hc hpart) ?_
    simpa using ih (text.reverse ++ before) (by simp)
  | @block front inner cs _ _ ihinner ih =>
    subst hbefore
    refine .block (ihinner ('{' :: before) rfl) ?_
    simpa using ih (('{' :: inner ++ ['}']).reverse ++ before) (by simp)

end Bracket

/-! ### The lengths of literals -/

section Lengths

variable {before inner cs : List Char}

lemma stringLength_append {quote : Char} (hquote : quote ≠ '\\') (h : InString quote inner)
    (rest : List Char) : stringLength quote (inner ++ quote :: rest) = inner.length + 1 := by
  induction h with
  | nil => cases rest <;> simp [stringLength, hquote]
  | escaped c _ ih =>
    simp only [List.cons_append, stringLength, ih, List.length_cons]
    omega
  | @char c inner hc hslash _ ih =>
    -- in `stringLength` the end of the script behind a backslash is a case of its own
    obtain ⟨d, ds, hds⟩ : ∃ d ds, inner ++ quote :: rest = d :: ds := by cases inner <;> simp
    simp only [List.cons_append, hds] at ih ⊢
    simp [stringLength, hslash, hc, ih]
    omega

lemma lineLength_append (h : '\n' ∉ inner) (rest : List Char) :
    lineLength (inner ++ '\n' :: rest) = inner.length + 1 := by
  induction inner with
  | nil => simp [lineLength]
  | cons c cs ih =>
    simp only [List.mem_cons, not_or] at h
    simp [lineLength, Ne.symm h.1, ih h.2]
    omega

lemma commentLength_append (h : ¬ ['*', '/'] <:+: inner) (rest : List Char) :
    commentLength (inner ++ '*' :: '/' :: rest) = inner.length + 2 := by
  induction inner with
  | nil => simp [commentLength]
  | cons c cs ih =>
    have hcs : ¬ ['*', '/'] <:+: cs := fun hcs => h (List.infix_cons hcs)
    -- were the next character a slash, the comment would end here
    have hstart : ∀ ds, c = '*' → cs ++ '*' :: '/' :: rest ≠ '/' :: ds := by
      rintro ds rfl hds
      cases cs with
      | nil => simp at hds
      | cons d cs =>
        obtain rfl : d = '/' := by simpa using (List.cons.inj hds).1
        exact h ⟨[], cs, rfl⟩
    rw [List.cons_append, commentLength, ih hcs, List.length_cons]
    · omega
    · exact hstart

lemma regexLength?_append {inBrackets : Bool} (h : InRegex inBrackets inner) (rest : List Char) :
    regexLength? inBrackets (inner ++ '/' :: rest)
      = some (inner.length + 1 + flagsLength rest) := by
  induction h with
  | nil => simp [regexLength?]
  | escaped _ _ ih => simp [regexLength?, ih]; omega
  | opening _ ih => simp [regexLength?, ih]; omega
  | closing _ ih => simp [regexLength?, ih]; omega
  | @inside c inner hc _ ih =>
    obtain ⟨hslash, hline, hbracket⟩ : c ≠ '\\' ∧ c ≠ '\n' ∧ c ≠ ']' := by simpa using hc
    have hnext : (c != ']') = true := by simpa using hbracket
    simp [regexLength?, hslash, hline, hnext, ih]
    omega
  | @outside c inner hc _ ih =>
    obtain ⟨hslash, hline, hbracket, hend⟩ : c ≠ '\\' ∧ c ≠ '\n' ∧ c ≠ '[' ∧ c ≠ '/' := by
      simpa using hc
    have hnext : (c == '[') = false := by simpa using hbracket
    simp [regexLength?, hslash, hline, hend, hnext, ih]
    omega

end Lengths

/-! ### What a slash does -/

section Slash

variable {before : List Char}

lemma opensRegex_eq (before : List Char) :
    opensRegex before = (lastBefore? before).all fun c => regexPreceders.contains c ||
      regexKeywords.contains (String.ofList ((wordBefore before).dropWhile (!isNameStart ·))) := by
  rw [opensRegex, lastBefore?, wordBefore]
  cases before.dropWhile isBlank <;> rfl

/-- A word ends in the last character before its end, and where it does not, there is none. -/
lemma isNamePart_iff_wordBefore {c : Char} (hlast : lastBefore? before = some c) :
    isNamePart c = true ↔ wordBefore before ≠ [] := by
  rw [lastBefore?] at hlast
  rw [wordBefore, ne_eq, List.reverse_eq_nil_iff]
  cases hdrop : before.dropWhile isBlank with
  | nil => simp [hdrop] at hlast
  | cons d ds =>
    obtain rfl : d = c := by simpa [hdrop] using hlast
    cases hd : isNamePart d <;> simp [hd]

lemma exists_lastBefore?_of_wordBefore (h : wordBefore before ≠ []) :
    ∃ c, lastBefore? before = some c := by
  rw [wordBefore] at h
  rw [lastBefore?]
  cases hdrop : before.dropWhile isBlank with
  | nil => simp [hdrop] at h
  | cons c cs => exact ⟨c, rfl⟩

/-- What starts a name, by its code point. -/
lemma isNameStart_iff {c : Char} : isNameStart c = true ↔
    65 ≤ c.toNat ∧ c.toNat ≤ 90 ∨ 97 ≤ c.toNat ∧ c.toNat ≤ 122 ∨ c = '_' ∨ c = '$' := by
  have hupper : c.isUpper = true ↔ 65 ≤ c.toNat ∧ c.toNat ≤ 90 := by
    change decide (65 ≤ c.val ∧ c.val ≤ 90) = true ↔ _
    simp [UInt32.le_iff_toNat_le]
  have hlower : c.isLower = true ↔ 97 ≤ c.toNat ∧ c.toNat ≤ 122 := by
    change (decide (97 ≤ c.val) && decide (c.val ≤ 122)) = true ↔ _
    simp [UInt32.le_iff_toNat_le]
  have halpha : c.isAlpha = (c.isUpper || c.isLower) := rfl
  rw [isNameStart, halpha]
  simp only [Bool.or_eq_true, hupper, hlower, beq_iff_eq, or_assoc]

lemma isNameStart_of_isDigit {c : Char} (h : c.isDigit = true) : isNameStart c = false := by
  rw [Char.isDigit_iff_toNat] at h
  rw [← Bool.not_eq_true, isNameStart_iff]
  rintro (hupper | hlower | rfl | rfl)
  · simp at h; omega
  · simp at h; omega
  · revert h; decide
  · revert h; decide

lemma opensRegex_of_behindOperator (h : BehindOperator before) : opensRegex before = true := by
  rw [opensRegex_eq, Option.all_eq_true]
  intro c hc
  rcases h with ⟨d, hd, hlast⟩ | hword
  · obtain rfl : c = d := Option.some.inj (hc.symm.trans hlast)
    simp [hd]
  · -- a keyword starts with a letter, so nothing is cut off at its front
    have hstarts : ∀ k ∈ regexKeywords, k.toList.dropWhile (!isNameStart ·) = k.toList := by decide
    have hwhole := hstarts _ hword
    rw [String.toList_ofList] at hwhole
    rw [hwhole, List.contains_iff_mem.mpr hword, Bool.or_true]

lemma opensRegex_of_behindOperand (h : BehindOperand before) : opensRegex before = false := by
  suffices hlast : ∃ c, lastBefore? before = some c ∧ c ∉ regexPreceders ∧
      String.ofList ((wordBefore before).dropWhile (!isNameStart ·)) ∉ regexKeywords by
    obtain ⟨c, hc, hpreceders, hkeywords⟩ := hlast
    simp [opensRegex_eq, hc, hpreceders, hkeywords]
  -- a name or a number ends in a character that precedes no regular expression
  have hparts : ∀ p ∈ regexPreceders, isNamePart p = false := by
    have hall : regexPreceders.all (!isNamePart ·) = true := by decide
    intro p hp
    simpa using List.all_eq_true.mp hall p hp
  have hbracket {c : Char} (hc : lastBefore? before = some c) (hpart : isNamePart c = false) :
      wordBefore before = [] := by
    by_contra hne
    exact Bool.noConfusion (hpart.symm.trans ((isNamePart_iff_wordBefore hc).mpr hne))
  have hname (hne : wordBefore before ≠ []) :
      ∃ c, lastBefore? before = some c ∧ c ∉ regexPreceders := by
    obtain ⟨c, hc⟩ := exists_lastBefore?_of_wordBefore hne
    refine ⟨c, hc, fun hmem => ?_⟩
    exact Bool.noConfusion ((hparts c hmem).symm.trans ((isNamePart_iff_wordBefore hc).mpr hne))
  rcases h with hc | hc | ⟨hne, hdigits⟩ | ⟨⟨c, rest, hword, hstart, -⟩, hkeyword⟩
  · exact ⟨_, hc, by decide, by rw [hbracket hc (by decide)]; decide⟩
  · exact ⟨_, hc, by decide, by rw [hbracket hc (by decide)]; decide⟩
  · obtain ⟨c, hc, hpreceders⟩ := hname hne
    refine ⟨c, hc, hpreceders, ?_⟩
    -- digits are cut off at the front of a word, so a number leaves none
    have hnone : (wordBefore before).dropWhile (!isNameStart ·) = [] := by
      rw [List.dropWhile_eq_nil_iff]
      intro d hd
      simp [isNameStart_of_isDigit (hdigits d hd)]
    rw [hnone]
    decide
  · obtain ⟨d, hd, hpreceders⟩ := hname (by simp [hword])
    refine ⟨d, hd, hpreceders, ?_⟩
    rwa [hword, List.dropWhile_cons_of_neg (by simp [hstart]), ← hword]

end Slash

/-! ### Counting brackets -/

section Counting

variable {d : Delimiters} {depth : Nat} {before text after cs : List Char}

lemma closingFrom_skip (d : Delimiters) (n depth : Nat) (before text rest : List Char) :
    closingFrom d (text.length + n) depth before (text ++ rest)
      = closingFrom d n depth (text.reverse ++ before) rest := by
  induction text generalizing before with
  | nil => simp
  | cons c cs ih =>
    have hlength : (c :: cs).length + n = (cs.length + n) + 1 := by simp; omega
    rw [hlength, List.cons_append, closingFrom, ih]
    simp

/-- A literal is passed over; `n` characters of what follows are passed over with it. -/
lemma closingFrom_literal {c : Char} (n : Nat)
    (h : literalLength before (c :: text ++ after) = text.length + n + 1) :
    closingFrom d 0 depth before (c :: text ++ after)
      = closingFrom d n depth ((c :: text).reverse ++ before) after := by
  have hskip := closingFrom_skip d n depth (c :: before) text after
  rw [List.cons_append] at h ⊢
  rw [closingFrom, h]
  simpa using hskip

lemma literalLength_eq_zero {c : Char} (hquote : isQuote c = false) (hslash : c ≠ '/')
    (before after : List Char) : literalLength before (c :: after) = 0 := by
  simp [literalLength, hslash, hquote]

/-- A character that starts no literal and is no bracket is passed over. -/
lemma closingFrom_other {c : Char} (h : literalLength before (c :: after) = 0)
    (hopening : c ≠ d.opening) (hclosing : c ≠ d.closing) :
    closingFrom d 0 depth before (c :: after) = closingFrom d 0 depth (c :: before) after := by
  rw [closingFrom, h]
  simp [hopening, hclosing]

lemma closingFrom_others
    (h : ∀ c ∈ text, isQuote c = false ∧ c ≠ '/' ∧ c ≠ d.opening ∧ c ≠ d.closing)
    (before after : List Char) :
    closingFrom d 0 depth before (text ++ after)
      = closingFrom d 0 depth (text.reverse ++ before) after := by
  induction text generalizing before with
  | nil => rfl
  | cons c cs ih =>
    obtain ⟨hquote, hslash, hopening, hclosing⟩ := h c List.mem_cons_self
    have hcs := ih (fun x hx => h x (List.mem_cons_of_mem _ hx)) (c :: before)
    rw [List.cons_append,
      closingFrom_other (literalLength_eq_zero hquote hslash ..) hopening hclosing, hcs]
    simp

lemma flagsLength_cons (c : Char) (cs : List Char) :
    flagsLength (c :: cs) = if isNamePart c then flagsLength cs + 1 else 0 := by
  have htake : flagsLength (c :: cs) = ((c :: cs).takeWhile isNamePart).length := rfl
  rw [htake, List.takeWhile_cons]
  split <;> rfl

lemma isQuote_iff {c : Char} : isQuote c = true ↔ c = '"' ∨ c = '\'' ∨ c = '\x60' := by
  simp [isQuote, or_assoc]

lemma not_isQuote_of_isNamePart {c : Char} (hc : isNamePart c = true) : isQuote c = false := by
  rw [Bool.eq_false_iff, ne_eq, isQuote_iff]
  rintro (rfl | rfl | rfl) <;> exact Bool.noConfusion hc

/-- The flags behind a regular expression are passed over as any other characters are. -/
lemma closingFrom_flags (hopening : isNamePart d.opening = false)
    (hclosing : isNamePart d.closing = false) (before after : List Char) :
    closingFrom d (flagsLength after) depth before after = closingFrom d 0 depth before after := by
  induction after generalizing before with
  | nil => rfl
  | cons c cs ih =>
    rw [flagsLength_cons]
    cases hc : isNamePart c with
    | false => rfl
    | true =>
      have hslash : c ≠ '/' := by rintro rfl; exact Bool.noConfusion hc
      have hopen : c ≠ d.opening := by rintro rfl; exact Bool.noConfusion (hc.symm.trans hopening)
      have hclose : c ≠ d.closing := by rintro rfl; exact Bool.noConfusion (hc.symm.trans hclosing)
      have hnone := literalLength_eq_zero (not_isQuote_of_isNamePart hc) hslash before cs
      rw [closingFrom_other hnone hopen hclose, ← ih]
      rfl

lemma literalLength_string {quote : Char} (hquote : isQuote quote = true) (h : InString quote text)
    (before after : List Char) :
    literalLength before (quote :: (text ++ [quote]) ++ after) = (text ++ [quote]).length + 1 := by
  have hslash : quote ≠ '\\' := by rintro rfl; exact Bool.noConfusion hquote
  have hlength := stringLength_append hslash h after
  rcases isQuote_iff.mp hquote with rfl | rfl | rfl <;>
    simp [literalLength, isQuote, hlength] <;> omega

lemma literalLength_line (h : '\n' ∉ text) (before after : List Char) :
    literalLength before ('/' :: ('/' :: text ++ ['\n']) ++ after)
      = ('/' :: text ++ ['\n']).length + 1 := by
  simp [literalLength, lineLength_append h]
  omega

lemma literalLength_comment (h : ¬ ['*', '/'] <:+: text) (before after : List Char) :
    literalLength before ('/' :: ('*' :: text ++ ['*', '/']) ++ after)
      = ('*' :: text ++ ['*', '/']).length + 1 := by
  simp [literalLength, commentLength_append h]
  omega

lemma literalLength_slash {c : Char} (hslash : c ≠ '/') (hstar : c ≠ '*')
    (before after : List Char) :
    literalLength before ('/' :: c :: after)
      = if opensRegex before then ((regexLength? false (c :: after)).map (1 + ·)).getD 0
        else 0 := by
  simp [literalLength, hslash, hstar]

lemma literalLength_regex (hplace : BehindOperator before) (h : InRegex false text)
    (hne : text ≠ []) (hstar : text.head? ≠ some '*') (after : List Char) :
    literalLength before ('/' :: (text ++ ['/']) ++ after)
      = (text ++ ['/']).length + flagsLength after + 1 := by
  have hlength := regexLength?_append h after
  cases text with
  | nil => exact absurd rfl hne
  | cons c cs =>
    have hslash : c ≠ '/' := by rintro rfl; cases h with | outside hc => simp at hc
    have hstar : c ≠ '*' := by simpa using hstar
    have hregex := literalLength_slash hslash hstar before (cs ++ '/' :: after)
    rw [opensRegex_of_behindOperator hplace, if_pos rfl, ← List.cons_append, hlength] at hregex
    simp at hregex ⊢
    omega

lemma literalLength_division (hplace : BehindOperand before) (hslash : after.head? ≠ some '/')
    (hstar : after.head? ≠ some '*') : literalLength before ('/' :: after) = 0 := by
  cases after with
  | nil => simp [literalLength, opensRegex_of_behindOperand hplace]
  | cons c cs =>
    rw [literalLength_slash (by simpa using hslash) (by simpa using hstar),
      opensRegex_of_behindOperand hplace, if_neg Bool.false_ne_true]

/-- A piece is passed over: the count of brackets goes on behind it. -/
lemma closingFrom_piece {x : Char} (h : Piece before text cs) (hslash : x ≠ '/') (hstar : x ≠ '*')
    (rest : List Char) :
    closingFrom braces 0 depth before (text ++ (cs ++ x :: rest))
      = closingFrom braces 0 depth (text.reverse ++ before) (cs ++ x :: rest) := by
  cases h with
  | @plain c _ hc =>
    obtain ⟨⟨⟨hquote, hslash⟩, hopen⟩, hclose⟩ :
        ((isQuote c = false ∧ c ≠ '/') ∧ c ≠ '{') ∧ c ≠ '}' := by simpa [isPlain] using hc
    exact closingFrom_other (literalLength_eq_zero hquote hslash ..) hopen hclose
  | string hquote hinner => exact closingFrom_literal 0 (literalLength_string hquote hinner ..)
  | line hinner => exact closingFrom_literal 0 (literalLength_line hinner ..)
  | comment hinner => exact closingFrom_literal 0 (literalLength_comment hinner ..)
  | regex hplace hinner hne hstar =>
    rw [List.cons_append, closingFrom_literal _ (literalLength_regex hplace hinner hne hstar _),
      closingFrom_flags (by decide) (by decide)]
  | division hplace hslash' hstar' =>
    have hnone : literalLength before ('/' :: (cs ++ x :: rest)) = 0 := by
      -- behind the last piece of a passage stands no character that makes a comment of the slash
      refine literalLength_division hplace ?_ ?_ <;> cases cs <;> simp_all
    exact closingFrom_other hnone (by decide) (by decide)

/-- Behind a bracket that opens there is one more to close. -/
lemma closingFrom_opening (depth : Nat) (before after : List Char) :
    closingFrom braces 0 depth before ('{' :: after)
      = closingFrom braces 0 (depth + 1) ('{' :: before) after := rfl

/-- Behind a bracket that closes there is one less, unless it closes the last. -/
lemma closingFrom_closing (depth : Nat) (before after : List Char) :
    closingFrom braces 0 (depth + 2) before ('}' :: after)
      = closingFrom braces 0 (depth + 1) ('}' :: before) after := rfl

/--
Whoever counts curly brackets comes out of a passage as deep as he went in, if no character follows
that could make a comment of a slash.
-/
theorem closingFrom_passage {x : Char} (h : Passage before cs) (hslash : x ≠ '/') (hstar : x ≠ '*')
    (depth : Nat) (rest : List Char) :
    closingFrom braces 0 (depth + 1) before (cs ++ x :: rest)
      = closingFrom braces 0 (depth + 1) (cs.reverse ++ before) (x :: rest) := by
  induction h generalizing x depth rest with
  | nil => rfl
  | @piece before text cs htext _ ih =>
    rw [List.append_assoc, closingFrom_piece htext hslash hstar, ih hslash hstar]
    simp
  | @block before inner cs _ _ ihinner ih =>
    -- inside the block there is one bracket more to close
    have hinside := ihinner (x := '}') (by decide) (by decide) (depth + 1) (cs ++ x :: rest)
    have hbehind := ih hslash hstar depth rest
    simp only [List.cons_append, List.append_assoc, List.reverse_cons, List.reverse_append,
      List.reverse_nil, List.nil_append] at hbehind ⊢
    rw [closingFrom_opening, hinside, closingFrom_closing, hbehind]

end Counting

end ViewAssembly.Script
