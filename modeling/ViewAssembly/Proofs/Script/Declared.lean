import ViewAssembly.Proofs.Script.Passage
import ViewAssembly.Script.Body

/-!
# The body of a declared function

Where a script starts with the declaration of a function, the body of that function is what stands
between the curly brackets, whatever follows (`bodyOf_declaration`).
-/

namespace ViewAssembly.Script

open Text

namespace Cursor

/-- To move forward over what follows is to have it behind. -/
lemma advance_append (before text after : List Char) :
    advance ⟨before, text ++ after⟩ text.length = ⟨text.reverse ++ before, after⟩ := by
  induction text generalizing before with
  | nil => rfl
  | cons c cs ih =>
    have hstep : advance ⟨before, c :: cs ++ after⟩ (c :: cs).length
        = advance ⟨c :: before, cs ++ after⟩ cs.length := rfl
    rw [hstep, ih]
    simp

lemma skipBlanks_append (after : List Char) {gap : List Char} (hgap : ∀ c ∈ gap, isBlank c = true)
    (hafter : ∀ c ∈ after.head?, isBlank c = false) (before : List Char) :
    skipBlanks ⟨before, gap ++ after⟩ = ⟨gap.reverse ++ before, after⟩ := by
  have htake : (gap ++ after).takeWhile isBlank = gap := by
    rw [List.takeWhile_append_of_pos hgap]
    cases after with
    | nil => simp
    | cons c cs => simp [hafter c rfl]
  rw [skipBlanks, skipWhile, htake, advance_append]

lemma between_append (before text after after' : List Char) :
    between ⟨before, after⟩ ⟨text.reverse ++ before, after'⟩ = text := by
  simp [between]

end Cursor

/-! ### Where a pattern prefers to end -/

namespace Pattern

variable {m n : Pattern} {c d e : Cursor}

/-- The place where a pattern ends if it can. -/
def Prefers (m : Pattern) (c d : Cursor) : Prop := (m c).head? = some d

lemma Prefers.followedBy (hm : m.Prefers c d) (hn : n.Prefers d e) :
    (followedBy m n).Prefers c e := by
  obtain ⟨ds, hds⟩ := List.head?_eq_some_iff.mp hm
  obtain ⟨es, hes⟩ := List.head?_eq_some_iff.mp hn
  simp [Prefers, Pattern.followedBy, hds, hes]

lemma prefers_sequence_nil (c : Cursor) : (sequence []).Prefers c c := rfl

lemma prefers_exactly (s : String) (before after : List Char) :
    (exactly s).Prefers ⟨before, s.toList ++ after⟩ ⟨s.toList.reverse ++ before, after⟩ := by
  have hadvance := Cursor.advance_append before s.toList after
  rw [String.length_toList] at hadvance
  simp [Prefers, exactly, Cursor.isAt, ← hadvance]

lemma prefers_many {p : Char → Bool} {after : List Char} (text : List Char)
    (htext : ∀ x ∈ text, p x = true) (hafter : ∀ x ∈ after.head?, p x = false)
    (before : List Char) :
    (many p).Prefers ⟨before, text ++ after⟩ ⟨text.reverse ++ before, after⟩ := by
  -- the places that were passed come behind all that are found later
  suffices hhead : ∀ found, (manyBefore p found before (text ++ after)).head?
      = some ⟨text.reverse ++ before, after⟩ from hhead []
  induction text generalizing before with
  | nil =>
    intro found
    cases after with
    | nil => rfl
    | cons x xs => simp [manyBefore, hafter x rfl]
  | cons x xs ih =>
    intro found
    have hx : p x = true := htext x List.mem_cons_self
    have hxs := ih (fun y hy => htext y (List.mem_cons_of_mem _ hy)) (x :: before)
    simp [manyBefore, hx, hxs]

lemma prefers_optionally_of_eq_nil (h : m c = []) : (optionally m).Prefers c c := by
  simp [Prefers, optionally, h]

lemma prefers_wordBoundary {before after : List Char}
    (h : (before.head?.map isWord).getD false ≠ (after.head?.map isWord).getD false) :
    wordBoundary.Prefers ⟨before, after⟩ ⟨before, after⟩ := by
  simp [Prefers, wordBoundary, h]

lemma prefers_notAfter {p : Char → Bool} (h : ∀ x ∈ c.before.head?, p x = false) :
    (notAfter p).Prefers c c := by
  rw [Prefers, notAfter]
  cases hhead : c.before.head? with
  | none => simp
  | some x => simp [h x hhead]

lemma prefers_oneOf {p : Char → Bool} {x : Char} (hx : p x = true) (before after : List Char) :
    (oneOf p).Prefers ⟨before, x :: after⟩ ⟨x :: before, after⟩ := by
  simp [Prefers, oneOf, hx, Cursor.advance]

end Pattern

/-! ### Declarations at the start of a script -/

section Declaration

open Pattern

variable {name params gap body rest trailing before after : List Char}

lemma isBlank_of_isNameStart {c : Char} (h : isNameStart c = true) : isBlank c = false := by
  have hcode : 36 ≤ c.toNat ∧ c.toNat ≤ 122 := by
    rcases isNameStart_iff.mp h with hupper | hlower | rfl | rfl
    · omega
    · omega
    · decide
    · decide
  simp [isBlank, blankRanges]
  omega

/-- The pattern of `function name(` fits where it stands. -/
lemma prefers_functionPattern (hname : IsIdentifier name) (rest : List Char) :
    (sequence [wordBoundary, functionWord, exactly (String.ofList name), blanks,
        exactly "("]).Prefers ⟨[], "function".toList ++ ' ' :: (name ++ '(' :: rest)⟩
      ⟨'(' :: (name.reverse ++ ' ' :: "function".toList.reverse), rest⟩ := by
  obtain ⟨c, cs, rfl, hc, -⟩ := hname
  have hblank : isBlank c = false := isBlank_of_isNameStart hc
  have hstar : '*' ≠ c := by rintro rfl; exact Bool.noConfusion hc
  have hword : functionWord.Prefers ⟨[], "function".toList ++ ' ' :: (c :: cs ++ '(' :: rest)⟩
      ⟨' ' :: "function".toList.reverse, c :: cs ++ '(' :: rest⟩ := by
    refine .followedBy (prefers_exactly "function" [] _) ?_
    refine .followedBy (prefers_wordBoundary (by simp; decide)) ?_
    refine .followedBy (prefers_many [' '] (by simp; decide) (by simpa using hblank) _) ?_
    refine .followedBy (prefers_optionally_of_eq_nil ?_) (prefers_sequence_nil _)
    simp [followedBy, exactly, Cursor.isAt, hstar]
  refine .followedBy (prefers_wordBoundary (by simp; decide)) ?_
  refine .followedBy hword ?_
  have hwritten : (exactly (String.ofList (c :: cs))).Prefers
      ⟨' ' :: "function".toList.reverse, c :: cs ++ '(' :: rest⟩
      ⟨(c :: cs).reverse ++ ' ' :: "function".toList.reverse, '(' :: rest⟩ := by
    simpa using prefers_exactly (String.ofList (c :: cs)) (' ' :: "function".toList.reverse)
      ('(' :: rest)
  refine .followedBy hwritten ?_
  refine .followedBy (prefers_many [] (by simp) ?_ _) ?_
  · simp; decide
  · exact .followedBy (prefers_exactly "(" _ rest) (prefers_sequence_nil _)

/-- The first place that looks like a declaration is the one at the start of the script. -/
lemma candidates_eq_cons {source name : String} {last : Cursor} (hsource : source.toList ≠ [])
    (h : (sequence [wordBoundary, functionWord, exactly name, blanks, exactly "("]).Prefers
      (.start source) last) :
    ∃ more, candidates source name = ⟨.function, .start source, last⟩ :: more := by
  obtain ⟨more, hmore⟩ : ∃ more, occurrences
      (sequence [wordBoundary, functionWord, exactly name, blanks, exactly "("]) source
        = ⟨.start source, last⟩ :: more := by
    rw [Prefers, Cursor.start] at h
    rw [occurrences, Cursor.start]
    cases hchars : source.toList with
    | nil => exact absurd hchars hsource
    | cons c cs =>
      rw [hchars] at h
      rw [occurrencesFrom]
      simp only [h]
      exact ⟨_, rfl⟩
  obtain ⟨found, hfound⟩ : ∃ found, ((declarationPatterns name).flatMap fun e =>
      (occurrences e.2 source).map fun o => (⟨e.1, o.first, o.last⟩ : Candidate))
        = ⟨.function, .start source, last⟩ :: found := by
    rw [declarationPatterns, List.flatMap_cons]
    simp only [hmore]
    exact ⟨_, rfl⟩
  -- nothing starts before the start of the script, so sorting leaves the place in front
  obtain ⟨front, back, hsorted, -, hfront⟩ := @List.mergeSort_cons Candidate
    (fun a b => decide (a.first.index ≤ b.first.index))
    (by simp only [decide_eq_true_eq]; exact fun _ _ _ => Nat.le_trans)
    (by simp only [Bool.or_eq_true, decide_eq_true_eq]; exact fun _ _ => Nat.le_total _ _)
    ⟨.function, .start source, last⟩ found
  cases front with
  | cons k ks => simpa [Cursor.start, Cursor.index] using hfront k List.mem_cons_self
  | nil =>
    rw [← hfound] at hsorted
    exact ⟨back, hsorted⟩

/-- Behind parameters without brackets stands the bracket that closes them. -/
lemma closing?_parameters
    (h : ∀ c ∈ params, isQuote c = false ∧ c ≠ '/' ∧ c ≠ '(' ∧ c ≠ ')')
    (before after : List Char) :
    closing? parentheses ⟨before, '(' :: (params ++ ')' :: after)⟩
      = some ⟨params.reverse ++ '(' :: before, ')' :: after⟩ := by
  have hopening : closing? parentheses ⟨before, '(' :: (params ++ ')' :: after)⟩
      = closingFrom parentheses 0 1 ('(' :: before) (params ++ ')' :: after) := rfl
  rw [hopening, closingFrom_others h]
  rfl

/-- A body that is passed over stands between its brackets. -/
lemma bracedBody_of_closingFrom
    (hbody : closingFrom braces 0 1 ('{' :: before) (body ++ '}' :: after)
      = closingFrom braces 0 1 (body.reverse ++ '{' :: before) ('}' :: after)) :
    bracedBody ⟨before, '{' :: (body ++ '}' :: after)⟩ = .ok (String.ofList (trimChars body)) := by
  have hclosing : closing? braces ⟨before, '{' :: (body ++ '}' :: after)⟩
      = some ⟨body.reverse ++ '{' :: before, '}' :: after⟩ := hbody
  have hbetween : Cursor.between
      (Cursor.advance ⟨before, '{' :: (body ++ '}' :: after)⟩ 1)
      ⟨body.reverse ++ '{' :: before, '}' :: after⟩ = body := Cursor.between_append ..
  rw [bracedBody, hclosing]
  exact congrArg (fun cs => Except.ok (String.ofList (trimChars cs))) hbetween

lemma bracedBody_passage (before : List Char) (h : Passage ('{' :: before) body)
    (after : List Char) :
    bracedBody ⟨before, '{' :: (body ++ '}' :: after)⟩ = .ok (String.ofList (trimChars body)) :=
  bracedBody_of_closingFrom (closingFrom_passage h (by decide) (by decide) 0 after)

end Declaration

variable {name params gap body : String}

/--
The body of a function that is declared at the start of a script is what stands between its curly
brackets, without the blanks at its ends: parameters hold no quotes, slashes and round brackets,
the body is a passage, and anything may follow.
-/
theorem bodyOf_declaration (hname : IsIdentifier name.toList)
    (hparams : ∀ c ∈ params.toList, isQuote c = false ∧ c ≠ '/' ∧ c ≠ '(' ∧ c ≠ ')')
    (hgap : ∀ c ∈ gap.toList, isBlank c = true) (hbody : Passage ['{'] body.toList)
    (trailing : String) :
    bodyOf ("function " ++ name ++ "(" ++ params ++ ")" ++ gap ++ "\x7b" ++ body ++ "\x7d"
      ++ trailing) name = .ok (trim body) := by
  generalize hsource : "function " ++ name ++ "(" ++ params ++ ")" ++ gap ++ "\x7b" ++ body
    ++ "\x7d" ++ trailing = source
  let head : List Char := name.toList.reverse ++ ' ' :: "function".toList.reverse
  let block : List Char := '{' :: (body.toList ++ '}' :: trailing.toList)
  have hchars : source.toList = "function".toList ++
      ' ' :: (name.toList ++ '(' :: (params.toList ++ ')' :: (gap.toList ++ block))) := by
    rw [← hsource]
    simp [block]
  have hprefers := prefers_functionPattern hname (params.toList ++ ')' :: (gap.toList ++ block))
  rw [← hchars, String.ofList_toList] at hprefers
  obtain ⟨more, hmore⟩ := candidates_eq_cons (by simp [hchars]) hprefers
  have hstart : bodyStart? ⟨.function, .start source,
      ⟨'(' :: head, params.toList ++ ')' :: (gap.toList ++ block)⟩⟩
        = some ⟨gap.toList.reverse ++ ')' :: (params.toList.reverse ++ '(' :: head), block⟩ := by
    have hclosing := closing?_parameters hparams head (gap.toList ++ block)
    have hblanks := Cursor.skipBlanks_append block hgap (by simp [block]; decide)
      (')' :: (params.toList.reverse ++ '(' :: head))
    simp only [bodyStart?, afterParameters?, hclosing, Option.map_some]
    exact congrArg some hblanks
  have hbody := bracedBody_passage
    (gap.toList.reverse ++ ')' :: (params.toList.reverse ++ '(' :: head))
    (hbody.congr_before [] (by decide) (by decide)) trailing.toList
  have hcandidate : candidateBody? ⟨.function, .start source,
      ⟨'(' :: head, params.toList ++ ')' :: (gap.toList ++ block)⟩⟩
        = some (.ok (trim body)) := by
    rw [candidateBody?, hstart]
    exact congrArg some hbody
  rw [bodyOf, hmore, List.findSome?_cons, hcandidate]
  rfl

/-! ### A function with brackets in its literals -/

/-- A body with a regular expression, a block, a string, a comment and a division. -/
def halfBody : String := " if (/[/\x7d]/.test(x)) \x7b return '\x7d'; \x7d // \x7b\n return x / 2; "

lemma passage_halfBody : Passage ['{'] halfBody.toList := by
  have hpieces : halfBody.toList = " if (".toList ++ (('/' :: ['[', '/', '}', ']'] ++ ['/']) ++
      (".test(x)) ".toList ++ ('{' :: (" return ".toList ++ (('\'' :: ['}'] ++ ['\'']) ++
        ("; ".toList ++ []))) ++ '}' :: (" ".toList ++ (('/' :: '/' :: [' ', '{'] ++ ['\n']) ++
          (" return x ".toList ++ (['/'] ++ (" 2; ".toList ++ [])))))))) := by
    decide
  rw [hpieces]
  refine .append_plain (by decide) (.piece ?_ (.append_plain (by decide) (.block ?_ ?_)))
  · exact .regex (.inl ⟨'(', by decide, rfl⟩) (.opening (.inside (by decide) (.inside (by decide)
      (.closing .nil)))) (by decide) (by decide)
  · refine .append_plain (by decide) (.piece ?_ (.append_plain (by decide) (.nil _)))
    exact .string rfl (.char (by decide) (by decide) .nil)
  refine .append_plain (by decide) (.piece (.line (by decide)) ?_)
  refine .append_plain (by decide) (.piece ?_ (.append_plain (by decide) (.nil _)))
  exact .division (.inr (.inr (.inr ⟨⟨'x', [], rfl, rfl, nofun⟩, by decide⟩))) (by decide)
    (by decide)

theorem bodyOf_declaration_half :
    bodyOf ("function " ++ "half" ++ "(" ++ "x" ++ ")" ++ " " ++ "\x7b" ++ halfBody ++ "\x7d"
        ++ " \x7d") "half"
      = .ok "if (/[/\x7d]/.test(x)) \x7b return '\x7d'; \x7d // \x7b\n return x / 2;" := by
  have hname : IsIdentifier "half".toList := ⟨'h', ['a', 'l', 'f'], rfl, rfl, by simp; decide⟩
  have hparams : ∀ c ∈ "x".toList, isQuote c = false ∧ c ≠ '/' ∧ c ≠ '(' ∧ c ≠ ')' := by
    simp
    decide
  have hgap : ∀ c ∈ " ".toList, isBlank c = true := by
    simp
    decide
  exact bodyOf_declaration hname hparams hgap passage_halfBody " \x7d"

end ViewAssembly.Script
