import ViewAssembly.Proofs.Script.Declared

/-!
# What a pattern takes

Between the place where a pattern is tried and a place where it can end stands a text. For every
way to put patterns together there is a lemma here that says which texts these are.
-/

namespace ViewAssembly.Script

open Text

namespace Cursor

/-- From the first cursor to the second one a text is read. -/
def Reads (c : Cursor) (text : List Char) (d : Cursor) : Prop :=
  c.after = text ++ d.after ∧ d.before = text.reverse ++ c.before

variable {c d e : Cursor} {xs ys : List Char}

lemma Reads.refl (c : Cursor) : c.Reads [] c := ⟨rfl, rfl⟩

lemma Reads.trans (h : c.Reads xs d) (h' : d.Reads ys e) : c.Reads (xs ++ ys) e := by
  constructor
  · rw [h.1, h'.1, List.append_assoc]
  · rw [h'.2, h.2, List.reverse_append, List.append_assoc]

lemma Reads.index_eq (h : c.Reads xs d) : d.index = c.index + xs.length := by
  rw [Cursor.index, Cursor.index, h.2, List.length_append, List.length_reverse, Nat.add_comm]

lemma reads_advance {rest : List Char} (h : c.after = xs ++ rest) :
    c.Reads xs (c.advance xs.length) := by
  obtain ⟨before, after⟩ := c
  obtain rfl : after = xs ++ rest := h
  rw [advance_append]
  exact ⟨rfl, rfl⟩

lemma Reads.eq_advance (h : c.Reads xs d) : d = c.advance xs.length := by
  obtain ⟨before, after⟩ := c
  obtain ⟨rfl, hbefore⟩ : after = xs ++ d.after ∧ d.before = xs.reverse ++ before := h
  rw [advance_append, ← hbefore]

end Cursor

namespace Pattern

variable {m n : Pattern} {p : Char → Bool} {c d : Cursor}

/-! ### Texts of the single patterns -/

lemma mem_exactly_iff {s : String} : d ∈ exactly s c ↔ c.Reads s.toList d := by
  rw [exactly, Cursor.isAt, ← String.length_toList]
  constructor
  · intro h
    split at h
    · next hat =>
      obtain ⟨rest, hrest⟩ := List.isPrefixOf_iff_prefix.mp hat
      rw [List.mem_singleton.mp h]
      exact Cursor.reads_advance hrest.symm
    · cases h
  · intro h
    have hat : s.toList.isPrefixOf c.after = true :=
      List.isPrefixOf_iff_prefix.mpr ⟨d.after, h.1.symm⟩
    rw [if_pos hat, List.mem_singleton]
    exact h.eq_advance

lemma mem_oneOf_iff : d ∈ oneOf p c ↔ ∃ x, p x = true ∧ c.Reads [x] d := by
  obtain ⟨before, after⟩ := c
  cases after with
  | nil => simp [oneOf, Cursor.Reads]
  | cons x xs =>
    have hadvance : Cursor.advance ⟨before, x :: xs⟩ 1 = ⟨x :: before, xs⟩ := rfl
    constructor
    · intro h
      cases hx : p x with
      | false => simp [oneOf, hx] at h
      | true =>
        obtain rfl : d = ⟨x :: before, xs⟩ := by simpa [oneOf, hx, hadvance] using h
        exact ⟨x, hx, rfl, rfl⟩
    · rintro ⟨y, hy, hreads⟩
      obtain ⟨rfl, -⟩ : x = y ∧ xs = d.after := by simpa using List.cons.inj hreads.1
      simpa [oneOf, hy] using hreads.eq_advance

lemma mem_followedBy_iff : d ∈ followedBy m n c ↔ ∃ e ∈ m c, d ∈ n e := List.mem_flatMap

lemma mem_sequence_nil_iff : d ∈ sequence [] c ↔ d = c := List.mem_singleton

lemma mem_sequence_cons_iff {ms : List Pattern} :
    d ∈ sequence (m :: ms) c ↔ ∃ e ∈ m c, d ∈ sequence ms e := mem_followedBy_iff

lemma mem_either_iff : d ∈ either m n c ↔ d ∈ m c ∨ d ∈ n c := List.mem_append

lemma mem_optionally_iff : d ∈ optionally m c ↔ d ∈ m c ∨ d = c := by
  rw [optionally, List.mem_append, List.mem_singleton]

lemma exists_reads_of_mem_many (h : d ∈ many p c) :
    ∃ text, (∀ x ∈ text, p x = true) ∧ c.Reads text d := by
  obtain ⟨before, after⟩ := c
  rw [many] at h
  -- the characters are passed one by one, so the induction is on what follows the cursor
  induction after generalizing before with
  | nil =>
    obtain rfl : d = ⟨before, []⟩ := by simpa [manyBefore] using h
    exact ⟨[], by simp, .refl _⟩
  | cons x xs ih =>
    simp only [manyBefore] at h
    split at h
    · next hx =>
      rw [manyBefore_append, List.mem_append, List.mem_singleton] at h
      rcases h with h | rfl
      · obtain ⟨text, htext, hreads⟩ := ih (x :: before) h
        refine ⟨x :: text, by simpa [hx] using htext, ?_⟩
        have hstep : Cursor.Reads ⟨before, x :: xs⟩ [x] ⟨x :: before, xs⟩ := ⟨rfl, rfl⟩
        exact hstep.trans hreads
      · exact ⟨[], by simp, .refl _⟩
    · rw [List.mem_singleton] at h
      subst h
      exact ⟨[], by simp, .refl _⟩

lemma mem_wordBoundary (h : d ∈ wordBoundary c) : d = c := by
  rw [wordBoundary] at h
  split at h
  · exact List.mem_singleton.mp h
  · cases h

lemma mem_notAfter_iff : d ∈ notAfter p c ↔ d = c ∧ ∀ x ∈ c.before.head?, p x = false := by
  rw [notAfter]
  cases c.before.head? with
  | none => simp
  | some x => cases hx : p x <;> simp [hx]

lemma mem_lineStart_iff : d ∈ lineStart c ↔ d = c ∧ ∀ x ∈ c.before.head?, x = '\n' := by
  rw [lineStart]
  cases c.before.head? with
  | none => simp
  | some x => by_cases hx : x = '\n' <;> simp [hx]

/-! ### Repetition -/

/-- Every text that the pattern can take has the property. -/
def Takes (m : Pattern) (P : List Char → Prop) : Prop :=
  ∀ c, ∀ d ∈ m c, ∃ text, P text ∧ c.Reads text d

lemma Takes.anyNumber {P : List Char → Prop} (hm : m.Takes P) (hnil : P [])
    (happend : ∀ xs ys, P xs → P ys → P (xs ++ ys)) : (anyNumber m).Takes P := by
  suffices hrepeat : ∀ limit c, ∀ d ∈ repeatedBefore m limit c [], ∃ text, P text ∧ c.Reads text d
    from fun c => hrepeat _ c
  intro limit
  induction limit with
  | zero =>
    intro c d hd
    obtain rfl : d = c := by simpa [repeatedBefore] using hd
    exact ⟨[], hnil, .refl _⟩
  | succ limit ih =>
    intro c d hd
    -- the last places found are where the pattern is not tried once more
    have hfold : ∀ es : List Cursor, d ∈ es.foldr (repeatedBefore m limit) [c] →
        d = c ∨ ∃ e ∈ es, d ∈ repeatedBefore m limit e [] := by
      intro es
      induction es with
      | nil => exact fun h => .inl (List.mem_singleton.mp h)
      | cons e es hes =>
        intro h
        rw [List.foldr_cons, repeatedBefore_append, List.mem_append] at h
        rcases h with h | h
        · exact .inr ⟨e, List.mem_cons_self, h⟩
        · rcases hes h with rfl | ⟨e', he', h'⟩
          · exact .inl rfl
          · exact .inr ⟨e', List.mem_cons_of_mem _ he', h'⟩
    rcases hfold (m c) hd with rfl | ⟨e, he, hd⟩
    · exact ⟨[], hnil, .refl _⟩
    · obtain ⟨xs, hxs, hce⟩ := hm c e he
      obtain ⟨ys, hys, hed⟩ := ih e d hd
      exact ⟨xs ++ ys, happend _ _ hxs hys, hce.trans hed⟩

end Pattern

/-! ### Characters of identifiers -/

section Identifier

variable {name : List Char} {c : Char}

/-- Can an identifier of ASCII characters hold this character? -/
def isIdentifierPart (c : Char) : Bool := isNameStart c || c.isDigit

lemma IsIdentifier.isIdentifierPart (h : IsIdentifier name) :
    ∀ x ∈ name, isIdentifierPart x = true := by
  obtain ⟨c, rest, rfl, hc, hrest⟩ := h
  intro x hx
  rcases List.mem_cons.mp hx with rfl | hx
  · simp [Script.isIdentifierPart, hc]
  · simpa [Script.isIdentifierPart] using hrest x hx

lemma isBlank_of_isIdentifierPart (h : isIdentifierPart c = true) : isBlank c = false := by
  rcases Bool.or_eq_true_iff.mp h with h | h
  · exact isBlank_of_isNameStart h
  · rw [Char.isDigit_iff_toNat] at h
    simp [isBlank, blankRanges]
    simp at h
    omega

end Identifier

/-! ### Texts that look like declarations -/

section Signature

open Pattern

variable {name : String} {c d : Cursor}

/-- What a declaration starts with: the word `function`, its name, or a new line. -/
inductive Opening where
  | keyword
  | name
  | line

/-- What a place that looks like a declaration ends with. -/
def Form.ending : Form → List Char
  | .bareArrow => ['=', '>']
  | .function | .arrow | .method => ['(']

/-- Can this character stand behind the mark of an assignment, in front of the ending? -/
def isAssigned (c : Char) : Bool := isBlank c || isNamePart c || c == '*'

/-- The texts that are taken for the start of a declaration, by its form and what opens it. -/
inductive Signature (name : List Char) (c : Cursor) : Opening → Form → List Char → Prop where
  | function {middle gap : List Char} (hmiddle : ∀ x ∈ middle, isBlank x = true ∨ x = '*')
      (hgap : ∀ x ∈ gap, isBlank x = true) :
      Signature name c .keyword .function
        ("function".toList ++ middle ++ name ++ gap ++ Form.function.ending)
  /-- Behind the mark stand words or, if it is an arrow function with brackets, nothing. -/
  | assigned {form : Form} {gap gap' words : List Char} {mark : Char}
      (hbefore : ∀ x ∈ c.before.head?, isNamePart x = false) (hgap : ∀ x ∈ gap, isBlank x = true)
      (hmark : mark = ':' ∨ mark = '=') (hgap' : ∀ x ∈ gap', isBlank x = true)
      (hwords : ∀ x ∈ words, isAssigned x = true)
      (hnext : (∃ x ∈ words.head?, isNameStart x = true) ∨ form = .arrow ∧ words = []) :
      Signature name c .name form (name ++ gap ++ mark :: (gap' ++ words) ++ form.ending)
  /-- In front of the name there can be indentation and the words `async` and `static`. -/
  | method {front gap : List Char} (hbefore : ∀ x ∈ c.before.head?, x = '\n')
      (hfront : ∀ x ∈ front, isBlank x = true ∨ x ∈ "asyncstatic".toList)
      (hgap : ∀ x ∈ gap, isBlank x = true) :
      Signature name c .line .method (front ++ name ++ gap ++ Form.method.ending)

lemma Signature.exists_eq_append {opening : Opening} {form : Form} {name text : List Char}
    (h : Signature name c opening form text) : ∃ core, text = core ++ form.ending := by
  cases h <;> exact ⟨_, rfl⟩

lemma isNamePart_of_isNameStart {x : Char} (h : isNameStart x = true) : isNamePart x = true := by
  have hcode : x.toNat < 128 := by
    rcases isNameStart_iff.mp h with hupper | hlower | rfl | rfl
    · omega
    · omega
    · decide
    · decide
  simp only [isNameStart, Bool.or_eq_true] at h
  rcases h with (halpha | hunderscore) | hdollar
  · simp [isNamePart, isWord, isAlphanumeric, hcode, Char.isAlphanum, halpha]
  · simp [isNamePart, isWord, hunderscore]
  · simp [isNamePart, hdollar]

lemma isAssigned_of_isBlank {x : Char} (h : isBlank x = true) : isAssigned x = true := by
  simp [isAssigned, h]

lemma isAssigned_of_isNamePart {x : Char} (h : isNamePart x = true) : isAssigned x = true := by
  simp [isAssigned, h]

lemma reads_someBlanks (h : d ∈ someBlanks c) :
    ∃ gap, (∀ x ∈ gap, isBlank x = true) ∧ c.Reads gap d := by
  obtain ⟨e, hone, hmany⟩ := mem_followedBy_iff.mp h
  obtain ⟨x, hx, hone⟩ := mem_oneOf_iff.mp hone
  obtain ⟨gap, hgap, hmany⟩ := exists_reads_of_mem_many hmany
  exact ⟨x :: gap, by simpa [hx] using hgap, hone.trans hmany⟩

lemma reads_functionWord (h : d ∈ functionWord c) :
    ∃ middle, (∀ x ∈ middle, isBlank x = true ∨ x = '*') ∧
      c.Reads ("function".toList ++ middle) d := by
  simp only [functionWord, mem_sequence_cons_iff, mem_sequence_nil_iff, mem_optionally_iff,
    mem_followedBy_iff, mem_exactly_iff] at h
  obtain ⟨e₁, hword, e₂, hboundary, e₃, hgap, e₄, hstar, rfl⟩ := h
  obtain rfl := mem_wordBoundary hboundary
  obtain ⟨gap, hblank, hgap⟩ := exists_reads_of_mem_many hgap
  -- a generator has its asterisk between the word and the name
  rcases hstar with ⟨e₅, hstar, hgap'⟩ | rfl
  · obtain ⟨gap', hblank', hgap'⟩ := exists_reads_of_mem_many hgap'
    refine ⟨gap ++ "*".toList ++ gap', ?_,
      by simpa using hword.trans (hgap.trans (hstar.trans hgap'))⟩
    intro x hx
    simp only [List.mem_append] at hx
    rcases hx with (hx | hx) | hx
    · exact .inl (hblank x hx)
    · exact .inr (List.mem_singleton.mp hx)
    · exact .inl (hblank' x hx)
  · exact ⟨gap, fun x hx => .inl (hblank x hx), hword.trans hgap⟩

/-- Behind the mark stand blanks and then the word `async`, or blanks only. -/
lemma reads_assignedTo (h : d ∈ assignedTo name c) :
    (∀ x ∈ c.before.head?, isNamePart x = false) ∧
      ∃ gap mark gap' words, (∀ x ∈ gap, isBlank x = true) ∧ (mark = ':' ∨ mark = '=') ∧
        (∀ x ∈ gap', isBlank x = true) ∧ (∀ x ∈ words, isAssigned x = true) ∧
        (words = [] ∨ words.head? = some 'a') ∧
        c.Reads (name.toList ++ gap ++ mark :: (gap' ++ words)) d := by
  simp only [assignedTo, mem_sequence_cons_iff, mem_sequence_nil_iff, mem_optionally_iff,
    mem_followedBy_iff, mem_exactly_iff, mem_notAfter_iff, mem_oneOf_iff] at h
  obtain ⟨e₁, ⟨rfl, hbefore⟩, e₂, hname, e₃, hgap, e₄, ⟨mark, hmark, hreads⟩, e₅, hgap', e₆,
    hasync, rfl⟩ := h
  obtain ⟨gap, hblank, hgap⟩ := exists_reads_of_mem_many hgap
  obtain ⟨gap', hblank', hgap'⟩ := exists_reads_of_mem_many hgap'
  have hfront : e₁.Reads (name.toList ++ gap ++ mark :: gap') e₅ := by
    simpa using hname.trans (hgap.trans (hreads.trans hgap'))
  have hmark : mark = ':' ∨ mark = '=' := by simpa using hmark
  refine ⟨fun x hx => ?_, gap, mark, gap', ?_⟩
  · exact (Bool.or_eq_false_iff.mp (hbefore x hx)).1
  rcases hasync with ⟨e₇, hasync, hsome⟩ | rfl
  · obtain ⟨more, hmore, hsome⟩ := reads_someBlanks hsome
    refine ⟨"async".toList ++ more, hblank, hmark, hblank', fun x hx => ?_, .inr rfl,
      by simpa using hfront.trans (hasync.trans hsome)⟩
    rcases List.mem_append.mp hx with hx | hx
    · exact List.all_eq_true.mp (by decide : "async".toList.all isAssigned = true) x hx
    · exact isAssigned_of_isBlank (hmore x hx)
  · exact ⟨[], hblank, hmark, hblank', by simp, .inl rfl, by simpa using hfront⟩

/-- The words in front of a method's name consist of their letters and of blanks. -/
lemma takes_modifiers :
    (anyNumber (followedBy (either (exactly "async") (exactly "static")) someBlanks)).Takes
      fun text => ∀ x ∈ text, isBlank x = true ∨ x ∈ "asyncstatic".toList := by
  refine Takes.anyNumber (fun c d hd => ?_) (by simp) fun xs ys hxs hys x hx => ?_
  · obtain ⟨e, hword, hsome⟩ := mem_followedBy_iff.mp hd
    obtain ⟨gap, hgap, hsome⟩ := reads_someBlanks hsome
    obtain ⟨word, hletters, hword⟩ :
        ∃ word, (∀ x ∈ word, x ∈ "asyncstatic".toList) ∧ c.Reads word e := by
      rcases mem_either_iff.mp hword with hword | hword
      · exact ⟨_, by simp, mem_exactly_iff.mp hword⟩
      · exact ⟨_, by simp, mem_exactly_iff.mp hword⟩
    refine ⟨_, fun x hx => ?_, hword.trans hsome⟩
    rcases List.mem_append.mp hx with hx | hx
    · exact .inr (hletters x hx)
    · exact .inl (hgap x hx)
  · exact (List.mem_append.mp hx).elim (hxs x) (hys x)

/-- Behind an assignment to a name stand further words and the ending. -/
lemma exists_signature_of_assignedTo {form : Form} {words : List Char} {e : Cursor}
    (hassigned : e ∈ assignedTo name c) (hrest : e.Reads (words ++ form.ending) d)
    (hwords : ∀ x ∈ words, isAssigned x = true)
    (hnext : (∃ x ∈ words.head?, isNameStart x = true) ∨ form = .arrow ∧ words = []) :
    ∃ text, Signature name.toList c .name form text ∧ c.Reads text d := by
  obtain ⟨hbefore, gap, mark, gap', words', hgap, hmark, hgap', hwords', hasync, hreads⟩ :=
    reads_assignedTo hassigned
  have hall : ∀ x ∈ words' ++ words, isAssigned x = true := fun x hx =>
    (List.mem_append.mp hx).elim (hwords' x) (hwords x)
  have hhead : (∃ x ∈ (words' ++ words).head?, isNameStart x = true) ∨
      form = .arrow ∧ words' ++ words = [] := by
    -- either the word `async` comes first, or the words behind the mark do
    rcases hasync with rfl | hasync
    · simpa using hnext
    · exact .inl ⟨'a', by simp [hasync], by decide⟩
  exact ⟨_, .assigned hbefore hgap hmark hgap' hall hhead, by simpa using hreads.trans hrest⟩

/-- A name with the blanks behind it stands among the words of an assignment. -/
lemma reads_ownName {p : Char → Bool} (hp : ∀ x, p x = true → isNamePart x = true) {e f : Cursor}
    (hfirst : e ∈ oneOf p c) (hparts : f ∈ many isNamePart e) (hblanks : d ∈ blanks f) :
    ∃ x own, p x = true ∧ (∀ y ∈ x :: own, isAssigned y = true) ∧ c.Reads (x :: own) d := by
  obtain ⟨x, hx, hfirst⟩ := mem_oneOf_iff.mp hfirst
  obtain ⟨parts, hpart, hparts⟩ := exists_reads_of_mem_many hparts
  obtain ⟨gap, hblank, hblanks⟩ := exists_reads_of_mem_many hblanks
  refine ⟨x, parts ++ gap, hx, fun y hy => ?_, hfirst.trans (hparts.trans hblanks)⟩
  rcases List.mem_cons.mp hy with rfl | hy
  · exact isAssigned_of_isNamePart (hp y hx)
  rcases List.mem_append.mp hy with hy | hy
  · exact isAssigned_of_isNamePart (hpart y hy)
  · exact isAssigned_of_isBlank (hblank y hy)

/-- The word of a function that is assigned may have a name and blanks behind it. -/
lemma reads_assignedWord {e : Cursor} (hword : e ∈ functionWord c)
    (hown : d ∈ optionally (sequence [oneOf isNamePart, many isNamePart, blanks]) e) :
    ∃ more, (∀ x ∈ "function".toList ++ more, isAssigned x = true) ∧
      c.Reads ("function".toList ++ more) d := by
  obtain ⟨middle, hmiddle, hword⟩ := reads_functionWord hword
  have hassigned : ∀ x ∈ "function".toList ++ middle, isAssigned x = true := by
    intro x hx
    rcases List.mem_append.mp hx with hx | hx
    · exact List.all_eq_true.mp (by decide : "function".toList.all isAssigned = true) x hx
    · rcases hmiddle x hx with hblank | rfl
      · exact isAssigned_of_isBlank hblank
      · decide
  simp only [mem_optionally_iff, mem_sequence_cons_iff, mem_sequence_nil_iff] at hown
  rcases hown with ⟨e₁, hfirst, e₂, hparts, e₃, hblanks, rfl⟩ | rfl
  · obtain ⟨x, own, -, hall, hown⟩ := reads_ownName (fun _ hx => hx) hfirst hparts hblanks
    refine ⟨middle ++ x :: own, fun y hy => ?_, by simpa using hword.trans hown⟩
    rw [← List.append_assoc] at hy
    exact (List.mem_append.mp hy).elim (hassigned y) (hall y)
  · exact ⟨middle, hassigned, hword⟩

/-- Where a pattern of a declaration fits, it takes one of these texts. -/
theorem exists_signature {form : Form} {m : Pattern} (hm : (form, m) ∈ declarationPatterns name) :
    ∃ opening, ∀ c, ∀ d ∈ m c, ∃ text,
      Signature name.toList c opening form text ∧ c.Reads text d := by
  simp only [declarationPatterns, List.mem_cons, List.not_mem_nil, Prod.mk.injEq, or_false] at hm
  -- one bullet per pattern; the three in the middle differ in what stands behind the assignment
  rcases hm with ⟨rfl, rfl⟩ | ⟨rfl, rfl⟩ | ⟨rfl, rfl⟩ | ⟨rfl, rfl⟩ | ⟨rfl, rfl⟩
  · refine ⟨.keyword, fun c d h => ?_⟩
    simp only [mem_sequence_cons_iff, mem_sequence_nil_iff, mem_exactly_iff] at h
    obtain ⟨e₁, hboundary, e₂, hword, e₃, hname, e₄, hgap, e₅, hparen, rfl⟩ := h
    obtain rfl := mem_wordBoundary hboundary
    obtain ⟨middle, hmiddle, hword⟩ := reads_functionWord hword
    obtain ⟨gap, hblank, hgap⟩ := exists_reads_of_mem_many hgap
    exact ⟨_, .function hmiddle hblank, ((hword.trans hname).trans hgap).trans hparen⟩
  · refine ⟨.name, fun c d h => ?_⟩
    simp only [mem_sequence_cons_iff, mem_sequence_nil_iff, mem_exactly_iff] at h
    obtain ⟨e₁, hassigned, e₂, hword, e₃, hown, e₄, hparen, rfl⟩ := h
    obtain ⟨more, hmore, hreads⟩ := reads_assignedWord hword hown
    exact exists_signature_of_assignedTo hassigned (hreads.trans hparen) hmore
      (.inl ⟨'f', by simp, by decide⟩)
  · refine ⟨.name, fun c d h => ?_⟩
    simp only [mem_sequence_cons_iff, mem_sequence_nil_iff, mem_exactly_iff] at h
    obtain ⟨e₁, hassigned, e₂, hparen, rfl⟩ := h
    have hending : e₁.Reads ([] ++ Form.arrow.ending) d := hparen
    exact exists_signature_of_assignedTo hassigned hending (by simp) (.inr ⟨rfl, rfl⟩)
  · refine ⟨.name, fun c d h => ?_⟩
    simp only [mem_sequence_cons_iff, mem_sequence_nil_iff, mem_exactly_iff] at h
    obtain ⟨e₁, hassigned, e₂, hfirst, e₃, hparts, e₄, hblanks, e₅, harrow, rfl⟩ := h
    obtain ⟨x, own, hx, hall, hown⟩ :=
      reads_ownName (fun _ => isNamePart_of_isNameStart) hfirst hparts hblanks
    exact exists_signature_of_assignedTo hassigned (hown.trans harrow) hall (.inl ⟨x, by simp, hx⟩)
  · refine ⟨.line, fun c d h => ?_⟩
    simp only [mem_sequence_cons_iff, mem_sequence_nil_iff, mem_exactly_iff, mem_lineStart_iff] at h
    obtain ⟨e₁, ⟨rfl, hbefore⟩, e₂, hindent, e₃, hwords, e₄, hname, e₅, hgap, e₆, hparen, rfl⟩ := h
    obtain ⟨indent, hspace, hindent⟩ := exists_reads_of_mem_many hindent
    obtain ⟨words, hmodifier, hwords⟩ := takes_modifiers _ _ hwords
    obtain ⟨gap, hblank, hgap⟩ := exists_reads_of_mem_many hgap
    have hreads := (((hindent.trans hwords).trans hname).trans hgap).trans hparen
    refine ⟨_, .method hbefore (fun x hx => ?_) hblank, hreads⟩
    rcases List.mem_append.mp hx with hx | hx
    · have hspace : x = ' ' ∨ x = '\t' := by simpa using hspace x hx
      rcases hspace with rfl | rfl <;> exact .inl (by decide)
    · exact hmodifier x hx

end Signature

end ViewAssembly.Script
