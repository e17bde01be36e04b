import Mathlib.Data.List.Basic
import ViewAssembly.Proofs.Script.Candidates
import ViewAssembly.Proofs.Script.Delimiter

/-!
# A script behind a line of text

A line in front of a script is searched for declarations as the script itself is. Behind its end the
script is read as it is without it, unless something that starts in the line reaches into the script
(`Apart`). So a function is taken from the line if it is declared there, and from the script
otherwise (`bodyOf_append`).
-/

namespace ViewAssembly.Script

open Text

namespace Cursor

variable {front : List Char}

lemma advance_behind (c : Cursor) (n : Nat) :
    (c.behind front).advance n = (c.advance n).behind front := by
  induction n generalizing c with
  | zero => rfl
  | succ n ih =>
    obtain ⟨before, after⟩ := c
    cases after with
    | nil => rfl
    | cons x xs => exact ih ⟨x :: before, xs⟩

lemma skipBlanks_behind (c : Cursor) :
    (c.behind front).skipBlanks = c.skipBlanks.behind front := advance_behind c _

lemma index_behind (c : Cursor) : (c.behind front).index = c.index + front.length := by
  simp [behind, index]

end Cursor

namespace Pattern

/-! ### Patterns that do not look back over a line end -/

section Local

variable {front : List Char} {m n : Pattern} {p : Char → Bool}

/-- The pattern fits in the same way behind a further text. -/
def IsLocal (front : List Char) (m : Pattern) : Prop :=
  ∀ c : Cursor, m (c.behind front) = (m c).map (Cursor.behind front)

lemma isLocal_exactly (front : List Char) (s : String) : (exactly s).IsLocal front := by
  intro c
  have hat : (c.behind front).isAt s = c.isAt s := rfl
  rw [exactly, exactly, hat, Cursor.advance_behind]
  split <;> rfl

lemma isLocal_oneOf (front : List Char) (p : Char → Bool) : (oneOf p).IsLocal front := by
  rintro ⟨before, after⟩
  cases after with
  | nil => rfl
  | cons x xs => cases hx : p x <;> simp [oneOf, Cursor.behind, Cursor.advance, hx]

lemma IsLocal.followedBy (hm : m.IsLocal front) (hn : n.IsLocal front) :
    (followedBy m n).IsLocal front := by
  intro c
  simp only [Pattern.followedBy, hm c, List.flatMap_map, List.map_flatMap, hn _]

lemma isLocal_sequence {ms : List Pattern} (h : ∀ m ∈ ms, m.IsLocal front) :
    (sequence ms).IsLocal front := by
  induction ms with
  | nil => exact fun c => rfl
  | cons m ms ih =>
    exact (h m List.mem_cons_self).followedBy (ih fun n hn => h n (List.mem_cons_of_mem _ hn))

lemma IsLocal.either (hm : m.IsLocal front) (hn : n.IsLocal front) :
    (either m n).IsLocal front := by
  intro c
  rw [Pattern.either, Pattern.either, hm c, hn c, List.map_append]

lemma IsLocal.optionally (hm : m.IsLocal front) : (optionally m).IsLocal front := by
  intro c
  rw [Pattern.optionally, Pattern.optionally, hm c, List.map_append, List.map_singleton]

lemma isLocal_many (front : List Char) (p : Char → Bool) : (many p).IsLocal front := by
  rintro ⟨before, after⟩
  -- `manyBefore` collects the places it passes, so the induction is for any places found before
  suffices hmany : ∀ found, manyBefore p (found.map (Cursor.behind front)) (before ++ front) after
      = (manyBefore p found before after).map (Cursor.behind front) from hmany []
  induction after generalizing before with
  | nil => exact fun found => rfl
  | cons x xs ih =>
    intro found
    simp only [manyBefore]
    split
    · exact ih (x :: before) (⟨before, x :: xs⟩ :: found)
    · rfl

lemma IsLocal.anyNumber (hm : m.IsLocal front) : (anyNumber m).IsLocal front := by
  intro c
  suffices hrepeat : ∀ limit c found,
      repeatedBefore m limit (c.behind front) (found.map (Cursor.behind front))
        = (repeatedBefore m limit c found).map (Cursor.behind front) from hrepeat _ c []
  intro limit
  induction limit with
  | zero => exact fun c found => rfl
  | succ limit ih =>
    intro c found
    simp only [repeatedBefore, hm c]
    -- one round leads to several places, and each of them goes on with one round less
    induction m c with
    | nil => rfl
    | cons d ds hds => rw [List.map_cons, List.foldr_cons, hds, ih, List.foldr_cons]

/-! ### Places are told by the character before them -/

variable {text : List Char}

lemma isLocal_wordBoundary : wordBoundary.IsLocal ('\n' :: text) := by
  intro c
  have hbefore : ((c.behind ('\n' :: text)).before.head?.map isWord).getD false
      = (c.before.head?.map isWord).getD false := by
    obtain ⟨_ | ⟨b, bs⟩, after⟩ := c
    · exact (by decide : isWord '\n' = false)
    · rfl
  simp only [wordBoundary, hbefore]
  rw [apply_ite (List.map _)]
  rfl

lemma isLocal_notAfter (hline : p '\n' = false) : (notAfter p).IsLocal ('\n' :: text) := by
  rintro ⟨before, after⟩
  cases before with
  | nil => simp [notAfter, Cursor.behind, hline]
  | cons b bs => cases hb : p b <;> simp [notAfter, Cursor.behind, hb]

lemma isLocal_lineStart : lineStart.IsLocal ('\n' :: text) := by
  rintro ⟨before, after⟩
  cases before with
  | nil => simp [lineStart, Cursor.behind]
  | cons b bs => by_cases hb : b = '\n' <;> simp [lineStart, Cursor.behind, hb]

lemma isLocal_assignedTo (name : String) : (assignedTo name).IsLocal ('\n' :: text) := by
  refine isLocal_sequence fun m hm => ?_
  simp only [List.mem_cons, List.not_mem_nil, or_false] at hm
  rcases hm with rfl | rfl | rfl | rfl | rfl | rfl
  · exact isLocal_notAfter (by decide)
  · exact isLocal_exactly _ _
  · exact isLocal_many _ _
  · exact isLocal_oneOf _ _
  · exact isLocal_many _ _
  · exact ((isLocal_exactly _ _).followedBy
      ((isLocal_oneOf _ _).followedBy (isLocal_many _ _))).optionally

lemma isLocal_functionWord : functionWord.IsLocal ('\n' :: text) := by
  refine isLocal_sequence fun m hm => ?_
  simp only [List.mem_cons, List.not_mem_nil, or_false] at hm
  rcases hm with rfl | rfl | rfl | rfl
  · exact isLocal_exactly _ _
  · exact isLocal_wordBoundary
  · exact isLocal_many _ _
  · exact ((isLocal_exactly _ _).followedBy (isLocal_many _ _)).optionally

/-- Declarations are looked for in the same way behind a line end as at the start of a script. -/
theorem isLocal_of_mem_declarationPatterns {name : String} {form : Form}
    (hm : (form, m) ∈ declarationPatterns name) : m.IsLocal ('\n' :: text) := by
  simp only [declarationPatterns, List.mem_cons, List.not_mem_nil, Prod.mk.injEq, or_false] at hm
  rcases hm with ⟨-, rfl⟩ | ⟨-, rfl⟩ | ⟨-, rfl⟩ | ⟨-, rfl⟩ | ⟨-, rfl⟩ <;>
    refine isLocal_sequence fun m hm => ?_ <;>
    simp only [List.mem_cons, List.not_mem_nil, or_false] at hm
  · rcases hm with rfl | rfl | rfl | rfl | rfl
    · exact isLocal_wordBoundary
    · exact isLocal_functionWord
    · exact isLocal_exactly _ _
    · exact isLocal_many _ _
    · exact isLocal_exactly _ _
  · rcases hm with rfl | rfl | rfl | rfl
    · exact isLocal_assignedTo _
    · exact isLocal_functionWord
    · refine (isLocal_sequence fun m hm => ?_).optionally
      simp only [List.mem_cons, List.not_mem_nil, or_false] at hm
      rcases hm with rfl | rfl | rfl
      · exact isLocal_oneOf _ _
      · exact isLocal_many _ _
      · exact isLocal_many _ _
    · exact isLocal_exactly _ _
  · rcases hm with rfl | rfl
    · exact isLocal_assignedTo _
    · exact isLocal_exactly _ _
  · rcases hm with rfl | rfl | rfl | rfl | rfl
    · exact isLocal_assignedTo _
    · exact isLocal_oneOf _ _
    · exact isLocal_many _ _
    · exact isLocal_many _ _
    · exact isLocal_exactly _ _
  · rcases hm with rfl | rfl | rfl | rfl | rfl | rfl
    · exact isLocal_lineStart
    · exact isLocal_many _ _
    · exact (((isLocal_exactly _ _).either (isLocal_exactly _ _)).followedBy
        ((isLocal_oneOf _ _).followedBy (isLocal_many _ _))).anyNumber
    · exact isLocal_exactly _ _
    · exact isLocal_many _ _
    · exact isLocal_exactly _ _

end Local

/-! ### Occurrences behind a text -/

section Behind

variable {front before xs cs : List Char} {m : Pattern} {skip : Nat}

/-- An occurrence of the same script with a further text in front of it. -/
def Occurrence.behind (front : List Char) (o : Occurrence) : Occurrence :=
  ⟨o.first.behind front, o.last.behind front⟩

lemma occurrencesFrom_behind (hm : m.IsLocal front) (skip : Nat) (before cs : List Char) :
    occurrencesFrom m skip (before ++ front) cs
      = (occurrencesFrom m skip before cs).map (Occurrence.behind front) := by
  induction cs generalizing skip before with
  | nil => rfl
  | cons c cs ih =>
    have hstep := fun skip => ih skip (c :: before)
    simp only [List.cons_append] at hstep
    cases skip with
    | succ k => exact hstep k
    | zero =>
      have hhere : m ⟨before ++ front, c :: cs⟩
          = (m ⟨before, c :: cs⟩).map (Cursor.behind front) := hm ⟨before, c :: cs⟩
      simp only [occurrencesFrom, hhere, List.head?_map, hstep]
      cases (m ⟨before, c :: cs⟩).head? with
      | none => rfl
      | some last =>
        have hlength : (last.behind front).index
            - Cursor.index ⟨before ++ front, c :: cs⟩ - 1
              = last.index - Cursor.index ⟨before, c :: cs⟩ - 1 := by
          rw [Cursor.index_behind]
          simp only [Cursor.index, List.length_append]
          omega
        simp only [Option.map_some, hlength]
        rfl

/-- Nothing is lost by passing over characters among which no occurrence starts. -/
lemma occurrencesFrom_eq_of_le
    (h : ∀ o ∈ occurrencesFrom m 0 before cs, before.length + skip ≤ o.first.index) :
    occurrencesFrom m skip before cs = occurrencesFrom m 0 before cs := by
  induction cs generalizing skip before with
  | nil => rfl
  | cons c cs ih =>
    cases skip with
    | zero => rfl
    | succ k =>
      -- an occurrence at this very place would start among the characters that are passed over
      cases hhead : (m ⟨before, c :: cs⟩).head? with
      | some last =>
        have hfirst := h ⟨⟨before, c :: cs⟩, last⟩ (by simp [occurrencesFrom, hhead])
        simp only [Cursor.index] at hfirst
        omega
      | none =>
        have hnext : occurrencesFrom m 0 before (c :: cs) = occurrencesFrom m 0 (c :: before) cs :=
          occurrencesFrom_cons_of_eq_nil (List.head?_eq_none_iff.mp hhead)
        rw [hnext] at h ⊢
        refine ih fun o ho => ?_
        rw [List.length_cons]
        have hle := h o ho
        omega

/--
Occurrences in two texts, one after the other: those that start in the first one, and those in the
second one behind the last of them.
-/
lemma exists_occurrencesFrom_append (m : Pattern) (skip : Nat) (before xs cs : List Char) :
    ∃ inFront rest, occurrencesFrom m skip before (xs ++ cs)
        = inFront ++ occurrencesFrom m rest (xs.reverse ++ before) cs ∧
      (∀ o ∈ inFront, o.first.index < before.length + xs.length) ∧
      (rest + xs.length ≤ skip ∨ rest = 0 ∨
        ∃ o ∈ inFront, before.length + xs.length + rest ≤ o.last.index) := by
  induction xs generalizing skip before with
  | nil => exact ⟨[], skip, rfl, by simp, .inl (by simp)⟩
  | cons x xs ih =>
    have hlength : ∀ n, before.length + (x :: xs).length + n
        = (x :: before).length + xs.length + n := by simp; omega
    -- what is passed over reaches behind the first text only from an occurrence in it
    cases skip with
    | succ k =>
      obtain ⟨inFront, rest, heq, hfirst, hlast⟩ := ih k (x :: before)
      refine ⟨inFront, rest, by simpa [occurrencesFrom] using heq, fun o ho => ?_, ?_⟩
      · simpa using (hfirst o ho).trans_eq (hlength 0).symm
      · rcases hlast with hle | hzero | ⟨o, ho, hle⟩
        · exact .inl (by rw [List.length_cons]; omega)
        · exact .inr (.inl hzero)
        · exact .inr (.inr ⟨o, ho, (hlength rest).trans_le hle⟩)
    | zero =>
      cases hhead : (m ⟨before, x :: (xs ++ cs)⟩).head? with
      | none =>
        obtain ⟨inFront, rest, heq, hfirst, hlast⟩ := ih 0 (x :: before)
        refine ⟨inFront, rest, by simpa [occurrencesFrom, hhead] using heq, fun o ho => ?_, .inr ?_⟩
        · simpa using (hfirst o ho).trans_eq (hlength 0).symm
        · rcases hlast with hle | hzero | ⟨o, ho, hle⟩
          · exact .inl (by omega)
          · exact .inl hzero
          · exact .inr ⟨o, ho, (hlength rest).trans_le hle⟩
      | some last =>
        have hhere : Cursor.index ⟨before, x :: (xs ++ cs)⟩ = before.length := rfl
        obtain ⟨inFront, rest, heq, hfirst, hlast⟩ := ih
          (last.index - Cursor.index ⟨before, x :: (xs ++ cs)⟩ - 1) (x :: before)
        refine ⟨⟨⟨before, x :: (xs ++ cs)⟩, last⟩ :: inFront, rest, ?_, ?_, .inr ?_⟩
        · simpa [occurrencesFrom, hhead] using heq
        · intro o ho
          rcases List.mem_cons.mp ho with rfl | ho
          · simp [Cursor.index]
          · simpa using (hfirst o ho).trans_eq (hlength 0).symm
        · rcases hlast with hle | hzero | ⟨o, ho, hle⟩
          -- what is left to pass over belongs to the occurrence that is found here
          · rw [hhere] at hle
            rcases Nat.eq_zero_or_pos rest with hrest | hrest
            · exact .inl hrest
            · refine .inr ⟨_, List.mem_cons_self, ?_⟩
              simp only [List.length_cons]
              omega
          · exact .inl hzero
          · exact .inr ⟨o, List.mem_cons_of_mem _ ho, (hlength rest).trans_le hle⟩

/-- Does no occurrence that starts in a text reach over one in the script behind its line? -/
def Apart (m : Pattern) (text source : String) : Prop :=
  ∀ o ∈ occurrences m (text ++ "\n" ++ source), o.first.index ≤ text.length →
    ∀ o' ∈ occurrences m source, o.last.index ≤ text.length + 1 + o'.first.index

/-- The occurrences in a script are found again when there is a line in front of it. -/
lemma exists_occurrences_append {text source : String}
    (hm : m.IsLocal ('\n' :: text.toList.reverse)) (hapart : m.Apart text source) :
    ∃ inFront, occurrences m (text ++ "\n" ++ source) = inFront ++
        (occurrences m source).map (Occurrence.behind ('\n' :: text.toList.reverse)) ∧
      ∀ o ∈ inFront, o.first.index ≤ text.length := by
  have hline : (text.toList ++ ['\n']).reverse ++ [] = [] ++ '\n' :: text.toList.reverse := by simp
  have hbehind : ∀ skip, occurrencesFrom m skip ((text.toList ++ ['\n']).reverse ++ [])
      source.toList = (occurrencesFrom m skip [] source.toList).map
        (Occurrence.behind ('\n' :: text.toList.reverse)) := by
    intro skip
    rw [hline]
    exact occurrencesFrom_behind hm skip [] source.toList
  obtain ⟨inFront, rest, heq, hfirst, hlast⟩ :=
    exists_occurrencesFrom_append m 0 [] (text.toList ++ ['\n']) source.toList
  have hlength : (text.toList ++ ['\n']).length = text.length + 1 := by
    simp [String.length_toList]
  have hoccurrences : occurrences m (text ++ "\n" ++ source)
      = inFront
        ++ occurrencesFrom m rest ((text.toList ++ ['\n']).reverse ++ []) source.toList := by
    rw [← heq]
    simp [occurrences]
  have hrest : occurrencesFrom m rest ((text.toList ++ ['\n']).reverse ++ []) source.toList
      = occurrencesFrom m 0 ((text.toList ++ ['\n']).reverse ++ []) source.toList := by
    refine occurrencesFrom_eq_of_le fun o' ho' => ?_
    rw [hbehind] at ho'
    obtain ⟨o', hsource, rfl⟩ := List.mem_map.mp ho'
    have hindex : (Occurrence.behind ('\n' :: text.toList.reverse) o').first.index
        = o'.first.index + (text.length + 1) := by
      rw [Occurrence.behind, Cursor.index_behind]
      simp [String.length_toList]
    simp only [List.append_nil, List.length_reverse, hindex, hlength, List.length_nil] at hlast ⊢
    -- whatever is passed over in the script belongs to an occurrence of the line, and none of them
    -- reaches over an occurrence of the script
    rcases hlast with hle | rfl | ⟨o, ho, hle⟩
    · omega
    · omega
    · have hfront : o.first.index ≤ text.length := by
        have hlt := hfirst o ho
        simp only [List.length_nil, hlength] at hlt
        omega
      have hover := hapart o (hoccurrences ▸ List.mem_append_left _ ho) hfront o' hsource
      omega
  refine ⟨inFront, ?_, fun o ho => ?_⟩
  · rw [hoccurrences, hrest, hbehind]
    rfl
  · have hlt := hfirst o ho
    simp only [List.length_nil, hlength] at hlt
    omega

end Behind

end Pattern

/-! ### Candidates behind a text -/

section Candidates

open Pattern

variable {text source name : String}

/-- A candidate of the same script with a further text in front of it. -/
def Candidate.behind (front : List Char) (k : Candidate) : Candidate :=
  ⟨k.form, k.first.behind front, k.last.behind front⟩

/-- Behind a line the places of a script look like declarations as they do without it. -/
lemma filter_sightings
    (hapart : ∀ e ∈ declarationPatterns name, Pattern.Apart e.2 text source) :
    (sightings (text ++ "\n" ++ source) name).filter (text.length < ·.first.index)
      = (sightings source name).map (Candidate.behind ('\n' :: text.toList.reverse)) := by
  rw [sightings, sightings, List.filter_flatMap, List.map_flatMap]
  refine List.flatMap_congr fun e he => ?_
  obtain ⟨inFront, hoccurrences, hfirst⟩ :=
    exists_occurrences_append (isLocal_of_mem_declarationPatterns he) (hapart e he)
  rw [hoccurrences, List.map_append, List.filter_append, List.filter_eq_nil_iff.mpr,
    List.filter_eq_self.mpr, List.nil_append, List.map_map, List.map_map]
  · rfl
  · intro k hk
    obtain ⟨_, ho, rfl⟩ := List.mem_map.mp hk
    obtain ⟨o, -, rfl⟩ := List.mem_map.mp ho
    rw [decide_eq_true_eq, Occurrence.behind, Cursor.index_behind]
    simp [String.length_toList]
    omega
  · intro k hk
    obtain ⟨o, ho, rfl⟩ := List.mem_map.mp hk
    have hle := hfirst o ho
    simpa using hle

lemma inOrder_behind (front : List Char) (ks : List Candidate) :
    inOrder (ks.map (Candidate.behind front)) = (inOrder ks).map (Candidate.behind front) := by
  rw [inOrder, inOrder, List.map_mergeSort]
  intro a _ b _
  simp [Candidate.behind, Cursor.index_behind]

end Candidates

/-! ### Bodies behind a text -/

section Bodies

variable {front : List Char} {c : Cursor} {k : Candidate}

lemma bracedBody_behind (hblock : c.after.head? = some '{') :
    bracedBody (c.behind front) = bracedBody c := by
  obtain ⟨before, after⟩ := c
  obtain ⟨rest, rfl⟩ := List.head?_eq_some_iff.mp hblock
  have hclosing : closing? braces (Cursor.behind front ⟨before, '{' :: rest⟩)
      = (closing? braces ⟨before, '{' :: rest⟩).map (Cursor.behind front) :=
    closing?_behind (d := braces) (by decide) (by decide) (by decide) (by decide) front before rest
  rw [bracedBody, bracedBody, hclosing]
  cases hlast : closing? braces ⟨before, '{' :: rest⟩ with
  | none => rfl
  | some last =>
    have hopening : closing? braces ⟨before, '{' :: rest⟩
        = closingFrom braces 0 1 ('{' :: before) rest := rfl
    rw [hopening] at hlast
    obtain ⟨text, rest, rfl, rfl⟩ := exists_of_closingFrom hlast
    have hbetween : ∀ before, Cursor.between ⟨'{' :: before, text ++ '}' :: rest⟩
        ⟨text.reverse ++ '{' :: before, '}' :: rest⟩ = text :=
      fun before => Cursor.between_append ('{' :: before) text _ _
    have hbehind : Cursor.behind front ⟨text.reverse ++ '{' :: before, '}' :: rest⟩
        = ⟨text.reverse ++ '{' :: (before ++ front), '}' :: rest⟩ := by simp [Cursor.behind]
    have hhere := hbetween before
    have hthere := hbetween (before ++ front)
    simp only [Option.map_some, braces, hbehind]
    exact congrArg (fun cs => Except.ok (String.ofList (trimChars cs))) (hthere.trans hhere.symm)

lemma afterParameters?_behind (hbracket : k.last.before.head? = some '(') :
    afterParameters? (k.behind front) = (afterParameters? k).map (Cursor.behind front) := by
  obtain ⟨form, first, before, after⟩ := k
  obtain ⟨rest, rfl⟩ := List.head?_eq_some_iff.mp hbracket
  have hclosing : closing? parentheses (Cursor.behind front ⟨rest, '(' :: after⟩)
      = (closing? parentheses ⟨rest, '(' :: after⟩).map (Cursor.behind front) :=
    closing?_behind (d := parentheses) (by decide) (by decide) (by decide) (by decide) front rest
      after
  have hnext : ∀ c : Cursor, ((c.behind front).advance 1).skipBlanks
      = (c.advance 1).skipBlanks.behind front := fun c => by
    rw [Cursor.advance_behind, Cursor.skipBlanks_behind]
  have hthere : afterParameters? (Candidate.behind front ⟨form, first, '(' :: rest, after⟩)
      = (closing? parentheses (Cursor.behind front ⟨rest, '(' :: after⟩)).map
        fun c => (c.advance 1).skipBlanks := rfl
  rw [hthere, hclosing, afterParameters?, Option.map_map, Option.map_map]
  exact congrArg (fun f => (closing? parentheses ⟨rest, '(' :: after⟩).map f) (funext hnext)

lemma bodyStart?_behind (hbracket : k.form ≠ .bareArrow → k.last.before.head? = some '(') :
    bodyStart? (k.behind front) = (bodyStart? k).map (Cursor.behind front) := by
  have hform : (k.behind front).form = k.form := rfl
  rw [bodyStart?, bodyStart?, hform]
  cases hk : k.form with
  | bareArrow => exact congrArg some (Cursor.skipBlanks_behind _)
  | function => exact afterParameters?_behind (hbracket (by simp [hk]))
  | method => exact afterParameters?_behind (hbracket (by simp [hk]))
  | arrow =>
    simp only [afterParameters?_behind (hbracket (by simp [hk]))]
    cases afterParameters? k with
    | none => rfl
    | some c =>
      have hat : (c.behind front).isAt "=>" = c.isAt "=>" := rfl
      simp only [Option.map_some, Option.bind_eq_bind, Option.bind_some, hat]
      split
      · rw [Cursor.advance_behind, Cursor.skipBlanks_behind, Option.map_some]
      · rfl

/-- What stands in front of a candidate has no say in its body. -/
lemma candidateBody?_behind (hbracket : k.form ≠ .bareArrow → k.last.before.head? = some '(') :
    candidateBody? (k.behind front) = candidateBody? k := by
  rw [candidateBody?, candidateBody?, bodyStart?_behind hbracket]
  cases bodyStart? k with
  | none => rfl
  | some c =>
    have hhead : (c.behind front).after.head? = c.after.head? := rfl
    have hform : (k.behind front).form = k.form := rfl
    have hexpression : expression (c.behind front) = expression c := rfl
    simp only [Option.map_some, Option.bind_eq_bind, Option.bind_some, hhead, hform, hexpression]
    split
    · next hblock => rw [bracedBody_behind (by simpa using hblock)]
    · rfl

variable {text source name : String}

lemma head?_of_mem_sightings (h : k ∈ sightings source name) (hform : k.form ≠ .bareArrow) :
    k.last.before.head? = some '(' := by
  obtain ⟨form, m, hm, o, ho, rfl⟩ := mem_sightings_iff.mp h
  obtain ⟨opening, hopening⟩ := exists_signature hm
  obtain ⟨text, hsignature, hreads⟩ := hopening _ _ (Pattern.of_mem_occurrencesFrom ho).2.2
  obtain ⟨core, rfl⟩ := hsignature.exists_eq_append
  have hending : form.ending = ['('] := by cases form <;> first | rfl | exact absurd rfl hform
  simp [hreads.2, hending]

/--
The body of the first function of the name that is declared in a text, if there is one, where a
script follows in a new line.
-/
def bodyWithin? (text source name : String) : Option (Except ExtractionFailure String) :=
  ((candidates (text ++ "\n" ++ source) name).filter (·.first.index ≤ text.length)).findSome?
    candidateBody?

/-- A function is looked for in the text first, and then in the script. -/
theorem bodyOf_append (hapart : ∀ e ∈ declarationPatterns name, Pattern.Apart e.2 text source) :
    bodyOf (text ++ "\n" ++ source) name
      = (bodyWithin? text source name).getD (bodyOf source name) := by
  have hbehind : (inOrder ((sightings (text ++ "\n" ++ source) name).filter
      (text.length < ·.first.index))).findSome? candidateBody?
        = (candidates source name).findSome? candidateBody? := by
    rw [filter_sightings hapart, inOrder_behind, List.findSome?_map, ← candidates_eq,
      ← List.head?_filterMap, ← List.head?_filterMap]
    refine congrArg List.head? (List.filterMap_congr fun k hk => ?_)
    exact candidateBody?_behind (head?_of_mem_sightings (mem_candidates_iff.mp hk))
  rw [bodyOf, candidates_eq, inOrder_eq_append text.length, List.findSome?_append, hbehind,
    ← filter_inOrder, ← candidates_eq, ← bodyWithin?, bodyOf]
  cases bodyWithin? text source name <;> rfl

end Bodies

end ViewAssembly.Script
