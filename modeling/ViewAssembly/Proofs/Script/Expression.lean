import ViewAssembly.Proofs.Script.Candidates
import ViewAssembly.Proofs.Script.Delimiter
import ViewAssembly.Proofs.Text.Blank

/-!
# Arrow functions with an expression

The expression of an arrow function is taken to end at the first semicolon or line end, be it in a
string or inside brackets. So the body is the whole expression exactly if it holds neither
(`bodyOf_arrow_iff`).
-/

namespace ViewAssembly.Script

open Text

/-! ### The first place that looks like the declaration -/

section First

open Pattern

variable {name : List Char} {text rest more : List Char}

/-- Blanks and what is no part of an identifier end one. -/
lemma not_part_of_gap {gap marked : List Char} {mark : Char}
    (hgap : ∀ x ∈ gap, isBlank x = true) (hmark : isIdentifierPart mark = false) :
    ∀ x ∈ (gap ++ mark :: marked).head?, isIdentifierPart x = false := by
  cases gap with
  | nil => simpa using hmark
  | cons b bs =>
    rintro x ⟨rfl⟩
    refine Bool.eq_false_iff.mpr fun hpart => ?_
    exact Bool.noConfusion
      ((hgap b List.mem_cons_self).symm.trans (isBlank_of_isIdentifierPart hpart))

/-- A name that stands before blanks and a mark stands nowhere before a blank and another name. -/
lemma not_marked (hname : IsIdentifier name) {word gap marked : List Char} {mark : Char}
    (hword : ∀ x ∈ word, isIdentifierPart x = true) (hgap : ∀ x ∈ gap, isBlank x = true)
    (hmark : isIdentifierPart mark = false) (hmark' : isBlank mark = false) :
    name ++ (gap ++ mark :: marked) ≠ word ++ ' ' :: (name ++ more) := by
  intro h
  obtain ⟨c, cs, hcs, hstart, -⟩ := id hname
  obtain ⟨-, hrest⟩ := eq_and_eq_of_run hname.isIdentifierPart hword (not_part_of_gap hgap hmark)
    (by simp; decide) h
  have hspace : gap ++ mark :: marked = [' '] ++ (name ++ more) := hrest
  obtain ⟨-, hsame⟩ := eq_and_eq_of_run hgap (by simp; decide) (by simpa using hmark')
    (by simpa [hcs] using isBlank_of_isNameStart hstart) hspace
  rw [hcs] at hsame
  obtain rfl : mark = c := (List.cons.inj hsame).1
  simp [isIdentifierPart, hstart] at hmark

/-- Nothing in front of the name looks like a declaration of it. -/
lemma not_signature_of_keyword (hname : IsIdentifier name) {xs ys : List Char} {x : Char}
    {opening : Opening} {form : Form} (hsplit : "const ".toList = xs ++ x :: ys)
    (h : Signature name ⟨xs.reverse, x :: (ys ++ (name ++ more))⟩ opening form text) :
    x :: (ys ++ (name ++ more)) ≠ text ++ rest := by
  intro htext
  -- behind the first character no place is the start of a line or of a word
  have hstart : xs = [] ∨ ∃ z, xs.reverse.head? = some z ∧ isNamePart z = true ∧ z ≠ '\n' := by
    rcases List.eq_nil_or_concat xs with rfl | ⟨zs, z, rfl⟩
    · exact .inl rfl
    · have hword : "const".toList = zs ++ [z] ++ (x :: ys).dropLast := by
        rw [← List.dropLast_append_of_ne_nil (List.cons_ne_nil x ys), ← List.concat_eq_append,
          ← hsplit]
        rfl
      have hpart : isNamePart z = true :=
        List.all_eq_true.mp (by decide : "const".toList.all isNamePart = true) z (by simp [hword])
      refine .inr ⟨z, by simp, hpart, ?_⟩
      rintro rfl
      exact absurd hpart (by decide)
  cases h with
  | function hmiddle hgap =>
    have hhead : x = 'f' := (List.cons.inj htext).1
    have hmem : 'f' ∈ "const ".toList := by rw [hsplit, hhead]; simp
    revert hmem
    decide
  | @assigned _ gap gap' words mark hbefore hgap hmark hgap' hwords hnext =>
    -- where the keyword starts, a name follows it, and no mark of an assignment
    rcases hstart with rfl | ⟨z, hz, hpart, -⟩
    · have hkeyword : x :: ys = ['c', 'o', 'n', 's', 't', ' '] := hsplit.symm
      rw [← List.cons_append, hkeyword] at htext
      have hmark : isIdentifierPart mark = false ∧ isBlank mark = false := by
        rcases hmark with rfl | rfl <;> decide
      have hmarked : name ++ (gap ++ mark :: (gap' ++ (words ++ (form.ending ++ rest))))
          = ['c', 'o', 'n', 's', 't'] ++ ' ' :: (name ++ more) := by simpa using htext.symm
      exact not_marked hname (List.all_eq_true.mp (by decide)) hgap hmark.1 hmark.2 hmarked
    · exact Bool.noConfusion ((hbefore z hz).symm.trans hpart)
  | @method front gap hbefore hfront hgap =>
    rcases hstart with rfl | ⟨z, hz, -, hline⟩
    · have hkeyword : x :: ys = ['c', 'o', 'n', 's', 't', ' '] := hsplit.symm
      rw [← List.cons_append, hkeyword] at htext
      obtain ⟨word, hword, hrest⟩ : ∃ word, (∀ y ∈ word, isIdentifierPart y = true) ∧
          name ++ (gap ++ '(' :: rest) = word ++ ' ' :: (name ++ more) := by
        -- the words in front of a method hold no letter o, so they end before it
        rcases front with _ | ⟨y, _ | ⟨z, front⟩⟩
        · exact ⟨['c', 'o', 'n', 's', 't'], List.all_eq_true.mp (by decide),
            by simpa [Form.ending] using htext.symm⟩
        · have hbehind := (List.cons.inj htext).2.symm
          exact ⟨['o', 'n', 's', 't'], List.all_eq_true.mp (by decide),
            by simpa [Form.ending] using hbehind⟩
        · obtain rfl : 'o' = z := (List.cons.inj (List.cons.inj htext).2).1
          exact absurd (hfront 'o' (by simp)) (by decide)
      exact not_marked hname hword hgap (by decide) (by decide) hrest
    · exact hline (hbefore z hz)

/-- Where the name itself stands, nothing but an arrow function can be declared. -/
lemma eq_arrow_of_signature (hname : IsIdentifier name) {before : List Char} {opening : Opening}
    {form : Form} (hbefore : before.head? = some ' ')
    (h : Signature name ⟨before, name ++ ' ' :: '=' :: ' ' :: '(' :: more⟩ opening form text)
    (htext : name ++ ' ' :: '=' :: ' ' :: '(' :: more = text ++ rest) : form = .arrow := by
  cases h with
  | @function middle gap hmiddle hgap =>
    exfalso
    have hspace : ∀ x ∈ (' ' :: '=' :: ' ' :: '(' :: more).head?, isIdentifierPart x = false := by
      simp
      decide
    cases middle with
    | nil =>
      -- the name would stand behind itself
      have hbehind : name ++ ' ' :: '=' :: ' ' :: '(' :: more
          = ("function".toList ++ name) ++ (gap ++ '(' :: rest) := by
        simpa [Form.ending] using htext
      have hword : ∀ x ∈ "function".toList, isIdentifierPart x = true :=
        List.all_eq_true.mp (by decide)
      have hparts : ∀ x ∈ "function".toList ++ name, isIdentifierPart x = true := fun x hx =>
        (List.mem_append.mp hx).elim (hword x) (hname.isIdentifierPart x)
      have hsame := (eq_and_eq_of_run hname.isIdentifierPart hparts hspace
        (not_part_of_gap hgap (by decide)) hbehind).1
      have hlength := congrArg List.length hsame
      simp at hlength
      omega
    | cons y middle =>
      have hbehind : name ++ ' ' :: '=' :: ' ' :: '(' :: more
          = "function".toList ++ (y :: middle ++ (name ++ (gap ++ '(' :: rest))) := by
        simpa [Form.ending] using htext
      have hy : isIdentifierPart y = false := by
        rcases hmiddle y List.mem_cons_self with hblank | rfl
        · refine Bool.eq_false_iff.mpr fun hpart => ?_
          exact Bool.noConfusion (hblank.symm.trans (isBlank_of_isIdentifierPart hpart))
        · decide
      obtain ⟨rfl, hrest⟩ := eq_and_eq_of_run hname.isIdentifierPart
        (List.all_eq_true.mp (by decide)) hspace (by simpa using hy) hbehind
      have hgapped : [' '] ++ '=' :: ' ' :: '(' :: more = (y :: middle) ++ _ := hrest
      obtain ⟨-, hsame⟩ := eq_and_eq_of_run (p := fun x => isBlank x || x == '*')
        (by simp; decide) (by simpa using hmiddle) (by simp; decide) (by simp; decide) hgapped
      exact absurd (List.cons.inj hsame).1 (by decide)
  | @assigned _ gap gap' words mark hbefore hgap hmark hgap' hwords hnext =>
    have hbehind : [' '] ++ '=' :: ' ' :: '(' :: more
        = gap ++ mark :: (gap' ++ (words ++ (form.ending ++ rest))) := by simpa using htext
    have hmark : isBlank mark = false := by rcases hmark with rfl | rfl <;> decide
    obtain ⟨-, hmarked⟩ := eq_and_eq_of_run (by simp; decide) hgap (by simp; decide)
      (by simpa using hmark) hbehind
    rcases hnext with ⟨next, hnext, hstart⟩ | ⟨hform, -⟩
    · obtain ⟨words, rfl⟩ := List.head?_eq_some_iff.mp hnext
      have hlast : [' '] ++ '(' :: more = gap' ++ next :: (words ++ (form.ending ++ rest)) :=
        (List.cons.inj hmarked).2
      obtain ⟨-, hsame⟩ := eq_and_eq_of_run (by simp; decide) hgap' (by simp; decide)
        (by simpa using isBlank_of_isNameStart hstart) hlast
      obtain rfl : '(' = next := (List.cons.inj hsame).1
      exact absurd hstart (by decide)
    · exact hform
  | method hline hfront hgap => exact absurd (hline ' ' hbefore) (by decide)

/-- The pattern of `name = (` fits where it stands. -/
lemma prefers_arrowPattern {before : List Char} (hbefore : before.head? = some ' ')
    (more : List Char) :
    (sequence [assignedTo (String.ofList name), exactly "("]).Prefers
      ⟨before, name ++ ' ' :: '=' :: ' ' :: '(' :: more⟩
      ⟨'(' :: ' ' :: '=' :: ' ' :: (name.reverse ++ before), more⟩ := by
  have hassigned : (assignedTo (String.ofList name)).Prefers
      ⟨before, name ++ ' ' :: '=' :: ' ' :: '(' :: more⟩
      ⟨' ' :: '=' :: ' ' :: (name.reverse ++ before), '(' :: more⟩ := by
    have hwritten : (exactly (String.ofList name)).Prefers
        ⟨before, name ++ ' ' :: '=' :: ' ' :: '(' :: more⟩
        ⟨name.reverse ++ before, ' ' :: '=' :: ' ' :: '(' :: more⟩ := by
      simpa using prefers_exactly (String.ofList name) before (' ' :: '=' :: ' ' :: '(' :: more)
    refine .followedBy (prefers_notAfter (by simp [hbefore]; decide)) ?_
    refine .followedBy hwritten ?_
    refine .followedBy (prefers_many [' '] (by simp; decide) (by simp; decide) _) ?_
    refine .followedBy (prefers_oneOf (by decide) _ _) ?_
    refine .followedBy (prefers_many [' '] (by simp; decide) (by simp; decide) _) ?_
    refine .followedBy (prefers_optionally_of_eq_nil ?_) (prefers_sequence_nil _)
    simp [followedBy, exactly, Cursor.isAt]
  exact .followedBy hassigned (.followedBy (prefers_exactly "(" _ more) (prefers_sequence_nil _))

end First

/-! ### The body of the function -/

section Body

open Pattern

variable {source : String} {name more : List Char}

/-- The place of the name in a script that starts with its declaration as a constant. -/
def atName (name more : List Char) : Cursor :=
  ⟨"const ".toList.reverse, name ++ ' ' :: '=' :: ' ' :: '(' :: more⟩

/-- The place behind the bracket that opens the parameters. -/
def afterBracket (name more : List Char) : Cursor :=
  ⟨'(' :: ' ' :: '=' :: ' ' :: (name.reverse ++ "const ".toList.reverse), more⟩

lemma occurrences_eq (hname : IsIdentifier name)
    (hsource : source.toList = "const ".toList ++ (atName name more).after) {form : Form}
    {m : Pattern} (hm : (form, m) ∈ declarationPatterns (String.ofList name)) :
    occurrences m source
      = occurrencesFrom m 0 (atName name more).before (atName name more).after := by
  rw [occurrences, hsource, occurrencesFrom_append_of_eq_nil]
  · rw [List.append_nil]
    rfl
  · intro xs x ys hsplit
    rw [List.append_nil, List.eq_nil_iff_forall_not_mem]
    intro d hd
    obtain ⟨opening, hopening⟩ := exists_signature hm
    obtain ⟨text, hsignature, hreads⟩ := hopening _ d hd
    rw [String.toList_ofList] at hsignature
    exact not_signature_of_keyword hname hsplit hsignature hreads.1

/-- Every other pattern fits behind the start of the name only. -/
lemma lt_index_of_mem_occurrences (hname : IsIdentifier name)
    (hsource : source.toList = "const ".toList ++ (atName name more).after) {form : Form}
    {m : Pattern} (hm : (form, m) ∈ declarationPatterns (String.ofList name))
    (hform : form ≠ .arrow) : ∀ o ∈ occurrences m source, 6 < o.first.index := by
  intro o ho
  rw [occurrences_eq hname hsource hm] at ho
  -- at the name itself only an arrow function can be declared, so the search goes on behind it
  have hnone : m (atName name more) = [] := by
    rw [List.eq_nil_iff_forall_not_mem]
    intro d hd
    obtain ⟨opening, hopening⟩ := exists_signature hm
    obtain ⟨text, hsignature, hreads⟩ := hopening _ d hd
    rw [String.toList_ofList] at hsignature
    exact hform (eq_arrow_of_signature hname rfl hsignature hreads.1)
  obtain ⟨c, cs, rfl, -⟩ := id hname
  have hstep : occurrencesFrom m 0 (atName (c :: cs) more).before (atName (c :: cs) more).after
      = occurrencesFrom m 0 (c :: (atName (c :: cs) more).before)
        (cs ++ ' ' :: '=' :: ' ' :: '(' :: more) := occurrencesFrom_cons_of_eq_nil hnone
  rw [hstep] at ho
  exact (of_mem_occurrencesFrom ho).1

/-- The pattern of an arrow function fits at the name first. -/
lemma exists_occurrences_eq_cons (hname : IsIdentifier name)
    (hsource : source.toList = "const ".toList ++ (atName name more).after) :
    ∃ others, occurrences (sequence [assignedTo (String.ofList name), exactly "("]) source
        = ⟨atName name more, afterBracket name more⟩ :: others ∧
      ∀ o ∈ others, 6 < o.first.index := by
  have hm : (Form.arrow, sequence [assignedTo (String.ofList name), exactly "("])
      ∈ declarationPatterns (String.ofList name) := by simp [declarationPatterns]
  have hprefers : (sequence [assignedTo (String.ofList name), exactly "("]
      ⟨(atName name more).before, name ++ ' ' :: '=' :: ' ' :: '(' :: more⟩).head?
        = some (afterBracket name more) := prefers_arrowPattern rfl more
  obtain ⟨c, cs, rfl, -⟩ := id hname
  have hcons : (atName (c :: cs) more).after = c :: (cs ++ ' ' :: '=' :: ' ' :: '(' :: more) := rfl
  rw [occurrences_eq hname hsource hm, hcons, occurrencesFrom]
  rw [List.cons_append] at hprefers
  simp only [hprefers]
  exact ⟨_, rfl, fun o ho => (Nat.le_add_right _ _).trans (of_mem_occurrencesFrom ho).1⟩

/-- The first place that looks like a declaration is the one of the arrow function. -/
lemma exists_candidates_eq_cons (hname : IsIdentifier name)
    (hsource : source.toList = "const ".toList ++ (atName name more).after) :
    ∃ later, candidates source (String.ofList name)
      = ⟨.arrow, atName name more, afterBracket name more⟩ :: later := by
  have hfilter : ∀ form m, (form, m) ∈ declarationPatterns (String.ofList name) → form ≠ .arrow →
      ((occurrences m source).map fun o => (⟨form, o.first, o.last⟩ : Candidate)).filter
        (·.first.index ≤ 6) = [] := by
    intro form m hm hform
    rw [List.filter_eq_nil_iff]
    intro k hk
    obtain ⟨o, ho, rfl⟩ := List.mem_map.mp hk
    have hindex := lt_index_of_mem_occurrences hname hsource hm hform o ho
    simpa using hindex
  obtain ⟨others, hothers, hbehind⟩ := exists_occurrences_eq_cons hname hsource
  have harrow : ((occurrences (sequence [assignedTo (String.ofList name), exactly "("]) source).map
      fun o => (⟨.arrow, o.first, o.last⟩ : Candidate)).filter (·.first.index ≤ 6)
        = [⟨.arrow, atName name more, afterBracket name more⟩] := by
    have hindex : (atName name more).index = 6 := rfl
    rw [hothers, List.map_cons, List.filter_cons_of_pos (by simp [hindex]),
      List.filter_eq_nil_iff.mpr]
    intro k hk
    obtain ⟨o, ho, rfl⟩ := List.mem_map.mp hk
    simpa using hbehind o ho
  have hsingle : (sightings source (String.ofList name)).filter (·.first.index ≤ 6)
      = [⟨.arrow, atName name more, afterBracket name more⟩] := by
    rw [sightings, List.filter_flatMap]
    simp only [declarationPatterns, List.flatMap_cons, List.flatMap_nil] at hfilter ⊢
    rw [harrow, hfilter _ _ (by simp) (by simp), hfilter _ _ (by simp) (by simp),
      hfilter _ _ (by simp) (by simp), hfilter _ _ (by simp) (by simp)]
    rfl
  rw [candidates_eq, inOrder_eq_append 6, hsingle, inOrder, List.mergeSort_singleton]
  exact ⟨_, rfl⟩

end Body

/-! ### Where the expression ends -/

section Ends

variable {before after text back : List Char}

/-- Does a character leave the expression open? -/
def goesOn (c : Char) : Bool := c != ';' && c != '\n'

/-- Braced bodies stand in front of the bracket that closes them. -/
lemma exists_of_bracedBody {s : String} (h : bracedBody ⟨before, '{' :: after⟩ = .ok s) :
    ∃ inner rest, after = inner ++ '}' :: rest ∧ s = String.ofList (trimChars inner) := by
  rw [bracedBody] at h
  split at h
  · next last hlast =>
    have hopen : closing? braces ⟨before, '{' :: after⟩
        = closingFrom braces 0 1 ('{' :: before) after :=
      closing?_opening (d := braces) (by decide) (by decide) before after
    rw [hopen] at hlast
    obtain ⟨inner, rest, rfl, rfl⟩ := exists_of_closingFrom hlast
    refine ⟨inner, rest, rfl, ?_⟩
    have hbetween := Cursor.between_append ('{' :: before) inner (inner ++ '}' :: rest)
      ('}' :: rest)
    rw [← Except.ok.inj h]
    exact congrArg (fun cs => String.ofList (trimChars cs)) hbetween
  · cases h

/-- A block is shorter than a text that starts with its bracket. -/
lemma bracedBody_ne (hback : ∀ x ∈ back, isBlank x = true)
    (hafter : text ++ (back ++ [';', '\n']) = '{' :: after) :
    bracedBody ⟨before, '{' :: after⟩ ≠ .ok (String.ofList text) := by
  intro h
  obtain ⟨inner, rest, rfl, hinner⟩ := exists_of_bracedBody h
  have hlength : text.length ≤ inner.length := by
    rw [String.ofList_injective hinner]
    exact length_trimChars_le inner
  -- the bracket that closes the block stands in the text
  have hclosing : '}' ∈ back ++ [';', '\n'] := by
    have hget : (text ++ (back ++ [';', '\n']))[inner.length + 1]? = some '}' := by
      rw [hafter]
      simp
    rw [List.getElem?_append_right (by omega)] at hget
    exact List.mem_of_getElem? hget
  rw [List.mem_append] at hclosing
  rcases hclosing with hblank | hend
  · exact absurd (hback _ hblank) (by decide)
  · revert hend
    decide

/-- What is left of a trimmed text up to the first semicolon or line end. -/
lemma trimChars_takeWhile_goesOn_iff (hback : ∀ x ∈ back, isBlank x = true) (cs : List Char) :
    trimChars ((trimChars cs ++ (back ++ [';', '\n'])).takeWhile goesOn) = trimChars cs ↔
      ∀ c ∈ trimChars cs, goesOn c = true := by
  constructor
  · intro h
    -- a character that ends the expression would make what is left shorter than the text
    by_contra hends
    have hshort : ((trimChars cs ++ (back ++ [';', '\n'])).takeWhile goesOn).length
        < (trimChars cs).length := by
      have hne : (trimChars cs).takeWhile goesOn ≠ trimChars cs :=
        fun heq => hends (List.takeWhile_eq_self_iff.mp heq)
      have hlt : ((trimChars cs).takeWhile goesOn).length < (trimChars cs).length :=
        lt_of_le_of_ne (List.takeWhile_prefix _).length_le
          fun heq => hne ((List.takeWhile_prefix _).eq_of_length heq)
      rw [List.takeWhile_append, if_neg hlt.ne]
      exact hlt
    have hle := length_trimChars_le
      ((trimChars cs ++ (back ++ [';', '\n'])).takeWhile goesOn)
    rw [h] at hle
    omega
  · intro hgoes
    rw [List.takeWhile_append_of_pos hgoes]
    refine trimChars_append (fun x hx => ?_) cs
    rw [List.takeWhile_append] at hx
    split at hx
    · exact hback x (by simpa [goesOn] using hx)
    · exact hback x ((List.takeWhile_prefix _).subset hx)

end Ends

/-! ### Arrow functions -/

section Arrow

variable {name body : String}

lemma Cursor.after_skipBlanks (c : Cursor) : c.skipBlanks.after = c.after.dropWhile isBlank := by
  have hsplit : c.after = c.after.takeWhile isBlank ++ c.after.dropWhile isBlank :=
    List.takeWhile_append_dropWhile.symm
  have hreads := (Cursor.reads_advance hsplit).1
  exact (List.append_cancel_left (hsplit.symm.trans hreads)).symm

/-- What follows the arrow is looked at from its first character on that is no blank. -/
lemma exists_bodyStart?_eq (first : Cursor) (before cs : List Char) :
    ∃ c : Cursor, c.after = cs.dropWhile isBlank ∧
      bodyStart? ⟨.arrow, first, ⟨'(' :: before, "x) => ".toList ++ cs⟩⟩ = some c := by
  have hclosing : closing? parentheses ⟨before, '(' :: ("x) => ".toList ++ cs)⟩
      = some ⟨'x' :: '(' :: before, ')' :: (" => ".toList ++ cs)⟩ :=
    @closing?_parameters ['x'] (by simp; decide) before (" => ".toList ++ cs)
  have hblanks : Cursor.skipBlanks ⟨')' :: 'x' :: '(' :: before, " => ".toList ++ cs⟩
      = ⟨' ' :: ')' :: 'x' :: '(' :: before, "=> ".toList ++ cs⟩ :=
    @Cursor.skipBlanks_append ("=> ".toList ++ cs) [' '] (by simp; decide) (by simp; decide)
      (')' :: 'x' :: '(' :: before)
  have hafter : afterParameters? ⟨.arrow, first, ⟨'(' :: before, "x) => ".toList ++ cs⟩⟩
      = some ⟨' ' :: ')' :: 'x' :: '(' :: before, "=> ".toList ++ cs⟩ := by
    simp only [afterParameters?, hclosing, Option.map_some]
    exact congrArg some hblanks
  let arrow : Cursor := ⟨'>' :: '=' :: ' ' :: ')' :: 'x' :: '(' :: before, ' ' :: cs⟩
  refine ⟨arrow.skipBlanks, ?_, ?_⟩
  · rw [Cursor.after_skipBlanks, List.dropWhile_cons_of_pos (by decide)]
  · simp only [bodyStart?, hafter]
    rfl

/-- The expression of an arrow function, or its block, is looked for behind the arrow. -/
lemma exists_bodyOf_eq (hname : IsIdentifier name.toList) (body : String) :
    ∃ (c : Cursor) (back : List Char), (∀ x ∈ back, isBlank x = true) ∧
      c.after = trimChars body.toList ++ (back ++ [';', '\n']) ∧
      (c.after.head? = some '{' → bodyOf
        ("const " ++ name ++ " = (x) => " ++ body ++ ";\n") name = bracedBody c) ∧
      (c.after.head? ≠ some '{' → bodyOf
        ("const " ++ name ++ " = (x) => " ++ body ++ ";\n") name = .ok (expression c)) := by
  generalize hsource : "const " ++ name ++ " = (x) => " ++ body ++ ";\n" = source
  have hchars : source.toList = "const ".toList ++
      (atName name.toList ("x) => ".toList ++ (body.toList ++ [';', '\n']))).after := by
    rw [← hsource]
    simp [atName]
  obtain ⟨later, hlater⟩ := exists_candidates_eq_cons hname hchars
  rw [String.ofList_toList] at hlater
  obtain ⟨c, hafter, hstart⟩ := exists_bodyStart?_eq
    (atName name.toList ("x) => ".toList ++ (body.toList ++ [';', '\n'])))
    (' ' :: '=' :: ' ' :: (name.toList.reverse ++ "const ".toList.reverse))
    (body.toList ++ [';', '\n'])
  obtain ⟨back, hback, hdrop⟩ := exists_dropWhile_append (c := ';') (by decide) body.toList ['\n']
  refine ⟨c, back, hback, hafter.trans hdrop, fun hblock => ?_, fun hblock => ?_⟩
  · exact bodyOf_eq_of_cons hlater (candidateBody?_of_block hstart hblock)
  · exact bodyOf_eq_of_cons hlater (candidateBody?_of_expression rfl hstart hblock)

/--
The body of an arrow function is the whole expression, without the blanks at its ends, exactly if
the expression does not start with a curly bracket and holds no semicolon and no line end.
-/
theorem bodyOf_arrow_iff (hname : IsIdentifier name.toList) :
    bodyOf ("const " ++ name ++ " = (x) => " ++ body ++ ";\n") name = .ok (trim body) ↔
      (trim body).toList.head? ≠ some '{' ∧ ∀ c ∈ (trim body).toList, c ≠ ';' ∧ c ≠ '\n' := by
  obtain ⟨c, back, hback, hafter, hbraced, hexpression⟩ := exists_bodyOf_eq hname body
  have htrim : (trim body).toList = trimChars body.toList := String.toList_ofList
  rw [htrim]
  -- behind the arrow a curly bracket opens a block, which is never the whole text
  by_cases hblock : (trimChars body.toList).head? = some '{'
  · obtain ⟨rest, hrest⟩ := List.head?_eq_some_iff.mp hblock
    obtain ⟨before, after⟩ := c
    obtain rfl : after = '{' :: (rest ++ (back ++ [';', '\n'])) := by
      rw [hrest] at hafter
      exact hafter
    refine iff_of_false ?_ fun h => h.1 hblock
    rw [hbraced rfl]
    exact bracedBody_ne hback hafter.symm
  · have hhead : c.after.head? ≠ some '{' := by
      rw [hafter, List.head?_append]
      cases hrest : (trimChars body.toList).head? with
      | some x => simpa [hrest] using hblock
      | none =>
        cases back with
        | nil => simp
        | cons x xs =>
          rintro ⟨rfl⟩
          exact absurd (hback '{' List.mem_cons_self) (by decide)
    have hgoes : ∀ x : Char, goesOn x = true ↔ x ≠ ';' ∧ x ≠ '\n' := by simp [goesOn]
    rw [hexpression hhead, Except.ok.injEq, and_iff_right hblock]
    simp only [← hgoes]
    rw [← trimChars_takeWhile_goesOn_iff hback, ← hafter]
    exact ⟨fun h => String.ofList_injective h, fun h => congrArg String.ofList h⟩

/-- A bracket in a string does not end an expression, nor do brackets that are paired. -/
theorem bodyOf_arrow_iff_join :
    IsIdentifier "join".toList ∧
      bodyOf ("const " ++ "join" ++ " = (x) => " ++ " x.join('\x7d') " ++ ";\n") "join"
        = .ok "x.join('\x7d')" := by
  have hname : IsIdentifier "join".toList := ⟨'j', ['o', 'i', 'n'], rfl, rfl, by simp; decide⟩
  have hgoes : (trim " x.join('\x7d') ").toList.all goesOn = true := by decide
  have hopen : ∀ c ∈ (trim " x.join('\x7d') ").toList, c ≠ ';' ∧ c ≠ '\n' := fun c hc => by
    simpa [goesOn] using List.all_eq_true.mp hgoes c hc
  exact ⟨hname, (bodyOf_arrow_iff hname).mpr ⟨by decide, hopen⟩⟩

end Arrow

/-! ### An expression that is cut short -/

/--
The texts whose strings are closed and whose brackets are paired. Outside of brackets no semicolon
and no line end can stand but in a string.
-/
inductive Bracketed : Bool → List Char → Prop where
  | nil (inside : Bool) : Bracketed inside []
  | char {inside : Bool} {c : Char} {cs : List Char} (hquote : isQuote c = false)
      (hbracket : c ∉ ['(', ')', '[', ']', '{', '}']) (hopen : inside = true ∨ goesOn c = true)
      (h : Bracketed inside cs) : Bracketed inside (c :: cs)
  | string {inside : Bool} {quote : Char} {inner cs : List Char} (hquote : isQuote quote = true)
      (hinner : InString quote inner) (h : Bracketed inside cs) :
      Bracketed inside (quote :: inner ++ quote :: cs)
  | group {inside : Bool} {opening closing : Char} {inner cs : List Char}
      (hpair : (opening, closing) ∈ [('(', ')'), ('[', ']'), ('{', '}')])
      (hinner : Bracketed true inner) (h : Bracketed inside cs) :
      Bracketed inside (opening :: inner ++ closing :: cs)

lemma Bracketed.append_chars {inside : Bool} {text cs : List Char}
    (htext : text.all (fun c => !isQuote c && !(['(', ')', '[', ']', '{', '}'].contains c) &&
      (inside || goesOn c)) = true) (h : Bracketed inside cs) : Bracketed inside (text ++ cs) := by
  induction text with
  | nil => exact h
  | cons c text ih =>
    simp only [List.all_cons, Bool.and_eq_true, Bool.or_eq_true, Bool.not_eq_true',
      List.contains_eq_mem, decide_eq_false_iff_not] at htext
    obtain ⟨⟨⟨hquote, hbracket⟩, hopen⟩, hrest⟩ := htext
    exact .char hquote hbracket hopen (ih (by simpa using hrest))

/-- An expression with a block inside its brackets. -/
def mappedBody : String := "x.map(y => \x7b return y; \x7d)"

lemma bracketed_mappedBody : Bracketed false mappedBody.toList := by
  have hparts : mappedBody.toList = "x.map".toList ++ ('(' :: ("y => ".toList ++
      ('{' :: " return y; ".toList ++ '}' :: [])) ++ ')' :: []) := by decide
  rw [hparts]
  refine .append_chars (by decide) (.group (by decide) (.append_chars (by decide) ?_) (.nil _))
  refine .group (by decide) ?_ (.nil _)
  rw [← List.append_nil " return y; ".toList]
  exact .append_chars (by decide) (.nil _)

/-- The semicolon in the block ends the expression. -/
theorem bodyOf_arrow_cut :
    Bracketed false mappedBody.toList ∧ mappedBody.toList.head? ≠ some '{' ∧
      bodyOf ("const " ++ "each" ++ " = (x) => " ++ mappedBody ++ ";\n") "each"
        = .ok "x.map(y => \x7b return y" ∧
      trim mappedBody ≠ "x.map(y => \x7b return y" := by
  have hname : IsIdentifier "each".toList := ⟨'e', ['a', 'c', 'h'], rfl, rfl, by simp; decide⟩
  obtain ⟨c, back, -, hafter, -, hexpression⟩ := exists_bodyOf_eq hname mappedBody
  refine ⟨bracketed_mappedBody, by decide, ?_, by decide⟩
  rw [hexpression (by rw [hafter]; exact nofun), expression, hafter]
  rfl

end ViewAssembly.Script
