import ViewAssembly.Proofs.Script.Candidates

/-!
# Template literals

In a template literal the text in back quotes holds substitutions, and the code in these holds
further template literals, to any depth (`Code`, `InTemplate`). The search for a closing bracket
does not nest them: it takes each back quote to end the literal that the one before it opened. So a
template literal is passed over where this flat reading does no harm, that is, where what stands
between the literals, read so, is a passage (`Alternates`).

The body of a function with such template literals is returned as a whole (`bodyOf_templates`), in
particular if no template literal holds a further one (`bodyOf_flat_templates`).
-/

namespace ViewAssembly.Script

open Text

/-! ### Nested template literals -/

mutual

/--
The code that can stand behind `before`, which is nearest first: pieces, blocks, and template
literals. Those that stand in no other template literal have the property.
-/
inductive Code : (List Char → Prop) → List Char → List Char → Prop where
  | nil {P : List Char → Prop} (before : List Char) : Code P before []
  | piece {P : List Char → Prop} {before text cs : List Char} (htext : Piece before text cs)
      (hhead : text.head? ≠ some '\x60') (h : Code P (text.reverse ++ before) cs) :
      Code P before (text ++ cs)
  /-- A slash behind a template literal divides. -/
  | quotient {P : List Char → Prop} {before cs : List Char}
      (hplace : lastBefore? before = some '\x60') (hslash : cs.head? ≠ some '/')
      (hstar : cs.head? ≠ some '*') (h : Code P ('/' :: before) cs) : Code P before ('/' :: cs)
  | block {P : List Char → Prop} {before inner cs : List Char}
      (hinner : Code P ('{' :: before) inner)
      (h : Code P (('{' :: inner ++ ['}']).reverse ++ before) cs) :
      Code P before ('{' :: inner ++ '}' :: cs)
  | template {P : List Char → Prop} {before inner cs : List Char} (hinner : InTemplate inner)
      (hproperty : P inner) (h : Code P (('\x60' :: inner ++ ['\x60']).reverse ++ before) cs) :
      Code P before ('\x60' :: inner ++ '\x60' :: cs)

/-- What can stand in a template literal: text, and any code in substitutions. -/
inductive InTemplate : List Char → Prop where
  | nil : InTemplate []
  | escaped (c : Char) {cs : List Char} (h : InTemplate cs) : InTemplate ('\\' :: c :: cs)
  | char {c : Char} {cs : List Char} (hquote : c ≠ '\x60') (hc : c ≠ '\\')
      (hdollar : c = '$' → cs.head? ≠ some '{') (h : InTemplate cs) : InTemplate (c :: cs)
  | substitution {code cs : List Char} (hcode : Code (fun _ => True) ['{'] code)
      (h : InTemplate cs) : InTemplate ('$' :: '{' :: code ++ '}' :: cs)

end

/-- Text without back quotes, and passages in back quotes in between. -/
inductive Alternates : List Char → Prop where
  | text {text : List Char} (htext : InString '\x60' text) : Alternates text
  | code {text code rest : List Char} (htext : InString '\x60' text)
      (hcode : Passage ['\x60'] code) (h : Alternates rest) :
      Alternates (text ++ '\x60' :: (code ++ '\x60' :: rest))

section Code

variable {P : List Char → Prop} {before text inner cs code : List Char} {quote x : Char}

lemma Code.append_plain (htext : text.all isPlain = true) (h : Code P (text.reverse ++ before) cs) :
    Code P before (text ++ cs) := by
  induction text generalizing before with
  | nil => exact h
  | cons c text ih =>
    rw [List.all_cons, Bool.and_eq_true] at htext
    have hquote : c ≠ '\x60' := by
      rintro rfl
      exact Bool.noConfusion htext.1
    have htail : Code P (c :: before) (text ++ cs) := ih htext.2 (by simpa using h)
    have hsplit : Code P before ([c] ++ (text ++ cs)) :=
      .piece (.plain htext.1) (by simpa using hquote) htail
    exact hsplit

/-- A backslash at the end of the first text takes the character behind it along. -/
lemma inString_append (hcode : quote ∉ code) (hquote : x ≠ quote) (hx : x ≠ '\\')
    (h : InString quote cs) : InString quote (code ++ x :: cs) := by
  -- `stringLength` takes a backslash together with the character behind it, and so do the cases
  induction code using stringLength.induct quote with
  | case1 => exact .char hquote hx h
  | case2 => exact .escaped x h
  | case3 c code ih => exact .escaped c (ih fun hmem => hcode (by simp [hmem]))
  | case4 c code hlast hescaped hc =>
    obtain rfl : c = quote := by simpa using hc
    simp at hcode
  | case5 c code hlast hescaped hc ih =>
    have hslash : c ≠ '\\' := by
      rintro rfl
      cases code with
      | nil => exact hlast rfl rfl
      | cons d code => exact hescaped d code rfl rfl
    exact .char (by simpa using hc) hslash (ih fun hmem => hcode (by simp [hmem]))

/-- A template literal without a further one is a string in back quotes. -/
lemma InTemplate.inString {inner : List Char} :
    InTemplate inner → '\x60' ∉ inner → InString '\x60' inner
  | .nil, _ => .nil
  | .escaped c h, hnone => .escaped c (h.inString fun hmem => hnone (by simp [hmem]))
  | .char hquote hc _ h, hnone => .char hquote hc (h.inString fun hmem => hnone (by simp [hmem]))
  | .substitution _ h, hnone =>
    .char (by decide) (by decide) (.char (by decide) (by decide)
      (inString_append (fun hmem => hnone (by simp [hmem])) (by decide) (by decide)
        (h.inString fun hmem => hnone (by simp [hmem]))))

end Code

/-! ### Counting brackets -/

section Counting

variable {before inner cs : List Char} {depth : Nat}

/-- A template literal that alternates is passed over, literal by literal. -/
lemma closingFrom_alternates (h : Alternates inner) (depth : Nat) (before rest : List Char) :
    closingFrom braces 0 (depth + 1) before ('\x60' :: inner ++ '\x60' :: rest)
      = closingFrom braces 0 (depth + 1) (('\x60' :: inner ++ ['\x60']).reverse ++ before)
        rest := by
  have hliteral : ∀ {text : List Char}, InString '\x60' text → ∀ before rest : List Char,
      closingFrom braces 0 (depth + 1) before ('\x60' :: (text ++ ['\x60']) ++ rest)
        = closingFrom braces 0 (depth + 1) (('\x60' :: (text ++ ['\x60'])).reverse ++ before)
          rest :=
    fun htext before rest => closingFrom_literal 0 (literalLength_string rfl htext before rest)
  induction h generalizing before with
  | text htext => simpa using hliteral htext before rest
  | @code text code inner htext hcode _ ih =>
    have hfirst := hliteral htext before (code ++ '\x60' :: (inner ++ '\x60' :: rest))
    have hpassage : Passage (('\x60' :: (text ++ ['\x60'])).reverse ++ before) code := by
      simpa using hcode.congr_before [] (by decide) (by decide)
    have hcounted := closingFrom_passage hpassage (x := '\x60') (by decide) (by decide) depth
      (inner ++ '\x60' :: rest)
    have hlast := ih (code.reverse ++ (('\x60' :: (text ++ ['\x60'])).reverse ++ before))
    rw [List.cons_append] at hlast
    rw [hcounted, hlast] at hfirst
    simpa using hfirst

lemma literalLength_quotient (hplace : lastBefore? before = some '\x60')
    (hslash : cs.head? ≠ some '/') (hstar : cs.head? ≠ some '*') :
    literalLength before ('/' :: cs) = 0 := by
  have hopens : opensRegex before = false := by
    have hword : wordBefore before = [] := by
      by_contra hne
      exact absurd ((isNamePart_iff_wordBefore hplace).mpr hne) (by decide)
    rw [opensRegex_eq, hplace, hword]
    decide
  cases cs with
  | nil => simp [literalLength, hopens]
  | cons c cs =>
    rw [literalLength_slash (by simpa using hslash) (by simpa using hstar), hopens,
      if_neg Bool.false_ne_true]

/-- Whoever counts curly brackets comes out of such code as deep as he went in. -/
theorem closingFrom_code {P : List Char → Prop}
    (halternates : ∀ inner, InTemplate inner → P inner → Alternates inner)
    {before cs : List Char} : Code P before cs → ∀ {x : Char}, x ≠ '/' → x ≠ '*' → ∀ depth rest,
      closingFrom braces 0 (depth + 1) before (cs ++ x :: rest)
        = closingFrom braces 0 (depth + 1) (cs.reverse ++ before) (x :: rest)
  | .nil _, _, _, _, _, _ => rfl
  | .piece htext _ h, x, hslash, hstar, depth, rest => by
    rw [List.append_assoc, closingFrom_piece htext hslash hstar,
      closingFrom_code halternates h hslash hstar]
    simp
  | @Code.quotient _ before cs hplace hnext hnext' h, x, hslash, hstar, depth, rest => by
    have hnone : literalLength before ('/' :: (cs ++ x :: rest)) = 0 := by
      refine literalLength_quotient hplace ?_ ?_ <;> cases cs <;> simp_all
    have hbehind := closingFrom_code halternates h hslash hstar depth rest
    rw [List.cons_append, closingFrom_other hnone (by decide) (by decide), hbehind]
    simp
  | @Code.block _ before inner cs hinner h, x, hslash, hstar, depth, rest => by
    -- inside the block there is one bracket more to close
    have hinside := closingFrom_code halternates hinner (x := '}') (by decide) (by decide)
      (depth + 1) (cs ++ x :: rest)
    have hbehind := closingFrom_code halternates h hslash hstar depth rest
    simp only [List.cons_append, List.append_assoc, List.reverse_cons, List.reverse_append,
      List.reverse_nil, List.nil_append] at hbehind ⊢
    rw [closingFrom_opening, hinside, closingFrom_closing, hbehind]
  | @Code.template _ before inner cs hinner hproperty h, x, hslash, hstar, depth, rest => by
    have hliteral := closingFrom_alternates (halternates inner hinner hproperty) depth before
      (cs ++ x :: rest)
    have hbehind := closingFrom_code halternates h hslash hstar depth rest
    simp only [List.cons_append, List.append_assoc] at hliteral hbehind ⊢
    rw [hliteral, hbehind]
    simp

end Counting

/-! ### The body of a function with template literals -/

section Body

variable {source name : String} {before body after : List Char} {c : Cursor}

/--
Where the body of the function of a name starts: where that of the first place does that proves to
be a declaration.
-/
def bodyPlace? (source name : String) : Option Cursor :=
  ((candidates source name).find? fun k => (candidateBody? k).isSome).bind bodyStart?

lemma bodyOf_of_block (hplace : bodyPlace? source name = some c)
    (hblock : c.after.head? = some '{') : bodyOf source name = bracedBody c := by
  rw [bodyPlace?] at hplace
  rw [bodyOf]
  -- the place is that of the first candidate with a body, which is found by passing over others
  generalize candidates source name = ks at hplace
  induction ks with
  | nil => simp at hplace
  | cons k ks ih =>
    rw [List.find?_cons] at hplace
    rw [List.findSome?_cons]
    cases hk : candidateBody? k with
    | none =>
      rw [hk] at hplace
      exact ih hplace
    | some result =>
      have hstart : bodyStart? k = some c := by simpa [hk] using hplace
      rw [candidateBody?_of_block hstart hblock] at hk
      exact (Option.some.inj hk).symm

/--
The body of a function in curly brackets is returned as a whole, without the blanks at its ends, if
it is code in which every template literal alternates.
-/
theorem bodyOf_templates
    (hplace : bodyPlace? source name = some ⟨before, '{' :: (body ++ '}' :: after)⟩)
    (hbody : Code Alternates ('{' :: before) body) :
    bodyOf source name = .ok (String.ofList (trimChars body)) :=
  (bodyOf_of_block hplace rfl).trans
    (bracedBody_of_closingFrom
      (closingFrom_code (fun _ _ h => h) hbody (by decide) (by decide) 0 after))

/-- So it is if no template literal in it holds a back quote, whatever else it holds. -/
theorem bodyOf_flat_templates
    (hplace : bodyPlace? source name = some ⟨before, '{' :: (body ++ '}' :: after)⟩)
    (hbody : Code ('\x60' ∉ ·) ('{' :: before) body) :
    bodyOf source name = .ok (String.ofList (trimChars body)) :=
  (bodyOf_of_block hplace rfl).trans (bracedBody_of_closingFrom (closingFrom_code
    (fun _ hinner hnone => .text (hinner.inString hnone)) hbody (by decide) (by decide) 0 after))

def declaring (body : String) : String := "function pick(x) \x7b" ++ body ++ "\x7d"

/-- A template literal that holds two further ones, and a bracket that closes nothing. -/
def pairBody : String := " return `a$\x7bx ? `b` : `c`\x7d\x7dd` + 1; "

lemma inTemplate_pair : InTemplate "a$\x7bx ? `b` : `c`\x7d\x7dd".toList := by
  have hpieces : "a$\x7bx ? `b` : `c`\x7d\x7dd".toList = 'a' :: ('$' :: '{' ::
      ("x ? ".toList ++ ('\x60' :: ['b'] ++ '\x60' ::
        (" : ".toList ++ ('\x60' :: ['c'] ++ '\x60' :: [])))) ++ '}' :: '}' :: ['d']) := by decide
  rw [hpieces]
  refine .char (by decide) (by decide) (by decide) (.substitution ?_ ?_)
  · refine .append_plain (by decide) (.template ?_ trivial ?_)
    · exact .char (by decide) (by decide) (by decide) .nil
    · refine .append_plain (by decide) (.template ?_ trivial (.nil _))
      exact .char (by decide) (by decide) (by decide) .nil
  · exact .char (by decide) (by decide) (by decide) (.char (by decide) (by decide) (by decide) .nil)

/-- Read without nesting, the two letters in the inner literals are code. -/
lemma alternates_pair : Alternates "a$\x7bx ? `b` : `c`\x7d\x7dd".toList := by
  have hpieces : "a$\x7bx ? `b` : `c`\x7d\x7dd".toList = "a$\x7bx ? ".toList ++ '\x60' :: (['b'] ++
      '\x60' :: (" : ".toList ++ '\x60' :: (['c'] ++ '\x60' :: "\x7d\x7dd".toList))) := by decide
  have hplain : ∀ {cs : List Char}, cs.all (fun c => c != '\x60' && c != '\\') = true →
      InString '\x60' cs := by
    intro cs hcs
    induction cs with
    | nil => exact .nil
    | cons c cs ih =>
      simp only [List.all_cons, Bool.and_eq_true, bne_iff_ne] at hcs
      exact .char hcs.1.1 hcs.1.2 (ih (by simpa using hcs.2))
  rw [hpieces]
  refine .code (hplain (by decide)) (.piece (.plain rfl) (.nil _)) ?_
  exact .code (hplain (by decide)) (.piece (.plain rfl) (.nil _)) (.text (hplain (by decide)))

lemma code_pairBody (before : List Char) : Code Alternates before pairBody.toList := by
  have hpieces : pairBody.toList = " return ".toList ++
      ('\x60' :: "a$\x7bx ? `b` : `c`\x7d\x7dd".toList ++ '\x60' :: (" + 1; ".toList ++ [])) := by
    decide
  rw [hpieces]
  refine .append_plain (by decide) (.template inTemplate_pair alternates_pair ?_)
  exact .append_plain (by decide) (.nil _)

theorem bodyOf_templates_pair :
    bodyOf (declaring pairBody) "pick"
      = .ok "return `a$\x7bx ? `b` : `c`\x7d\x7dd` + 1;" := by
  have hplace : bodyPlace? (declaring pairBody) "pick"
      = some ⟨"function pick(x) ".toList.reverse, '{' :: (pairBody.toList ++ ['}'])⟩ := by
    rw [bodyPlace?, candidates_eq_sightings (by decide +kernel)]
    decide +kernel
  exact (bodyOf_templates hplace (code_pairBody _)).trans (by decide +kernel)

/-- A template literal with a closing bracket in one of the two that it holds. -/
def bracketBody : String := " return `$\x7bx ? `\x7d` : ``\x7d`; "

lemma code_bracketBody (before : List Char) : Code (fun _ => True) before bracketBody.toList := by
  have hpieces : bracketBody.toList = " return ".toList ++ ('\x60' :: ('$' :: '{' ::
      ("x ? ".toList ++ ('\x60' :: ['}'] ++ '\x60' ::
        (" : ".toList ++ ('\x60' :: [] ++ '\x60' :: [])))) ++ '}' :: []) ++
          '\x60' :: ("; ".toList ++ [])) := by
    decide
  rw [hpieces]
  refine .append_plain (by decide) (.template (.substitution ?_ .nil) trivial ?_)
  · refine .append_plain (by decide) (.template ?_ trivial ?_)
    · exact .char (by decide) (by decide) (by decide) .nil
    · exact .append_plain (by decide) (.template .nil trivial (.nil _))
  · exact .append_plain (by decide) (.nil _)

/-- The bracket in the inner literal ends the body, which stands in its place as code. -/
theorem bodyOf_templates_bracket :
    Code (fun _ => True) ('{' :: "function pick(x) ".toList.reverse) bracketBody.toList ∧
      bodyPlace? (declaring bracketBody) "pick"
        = some ⟨"function pick(x) ".toList.reverse, '{' :: (bracketBody.toList ++ ['}'])⟩ ∧
      bodyOf (declaring bracketBody) "pick" = .ok "return `$\x7bx ? `" ∧
      trim bracketBody = "return `$\x7bx ? `\x7d` : ``\x7d`;" := by
  refine ⟨code_bracketBody _, ?_, ?_, by decide +kernel⟩
  · rw [bodyPlace?, candidates_eq_sightings (by decide +kernel)]
    decide +kernel
  · rw [bodyOf, candidates_eq_sightings (by decide +kernel)]
    decide +kernel

end Body

end ViewAssembly.Script
