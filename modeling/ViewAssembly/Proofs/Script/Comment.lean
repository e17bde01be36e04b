import ViewAssembly.Proofs.Script.Behind
import ViewAssembly.Proofs.Text.Blank

/-!
# Comments in front of a script

What looks like a declaration is looked for in comments too. So a comment in front of a script
changes nothing exactly if no function of the name is declared in it, or none with another body than
the script gives (`bodyOf_comment_iff`). A comment that mentions neither the name nor the word
`function` declares nothing (`bodyOf_comment_of_unmentioned`).

The reason is that what looks like a declaration and starts in the comment can reach into the
script, but not over the start of what the same pattern finds there (`apart_of_isComment`).
-/

namespace ViewAssembly.Script

open Text

/-- A comment, without the end of its line. -/
inductive IsComment : List Char → Prop where
  | line {inner : List Char} (hinner : '\n' ∉ inner) : IsComment ('/' :: '/' :: inner)
  | block {inner : List Char} (hinner : ¬ ['*', '/'] <:+: inner) :
      IsComment ('/' :: '*' :: inner ++ ['*', '/'])

/-- Does a name hold no blank, and none of the marks that stand around names? -/
def IsLegible (name : List Char) : Prop :=
  name ≠ [] ∧ ∀ x ∈ name, isBlank x = false ∧ x ∉ [':', '=', '(', '>', '/']

lemma IsIdentifier.isLegible {name : List Char} (h : IsIdentifier name) : IsLegible name := by
  refine ⟨?_, fun x hx => ?_⟩
  · obtain ⟨c, rest, rfl, -⟩ := h
    exact List.cons_ne_nil c rest
  · have hpart := h.isIdentifierPart x hx
    refine ⟨isBlank_of_isIdentifierPart hpart, fun hmark => ?_⟩
    exact Bool.noConfusion (hpart.symm.trans (eq_false_of_any (by decide) x hmark))

/-! ### One signature at the end of another -/

section Signature

variable {name text core us vs rest rest' : List Char} {c c' : Cursor} {opening : Opening}
  {form : Form}

/-- In front of its ending no signature holds a character that an ending ends with, or a slash. -/
lemma Signature.not_mem_of_mem_core (hname : IsLegible name)
    (h : Signature name c opening form text) (htext : text = core ++ form.ending) :
    ∀ x ∈ core, x ∉ ['(', '>', '/'] := by
  have hpart : ∀ x ∈ name, x ∉ ['(', '>', '/'] := fun x hx hmem =>
    (hname.2 x hx).2 (by revert hmem; simp; tauto)
  have hclass : ∀ {p : Char → Bool}, ['(', '>', '/'].any p = false →
      ∀ x, p x = true → x ∉ ['(', '>', '/'] := fun hp x hx hmem =>
    Bool.noConfusion (hx.symm.trans (eq_false_of_any hp x hmem))
  have hblank := @hclass isBlank (by decide)
  have hassigned := @hclass isAssigned (by decide)
  intro x hx
  cases h with
  | function hmiddle hgap =>
    rw [← List.append_cancel_right htext] at hx
    simp only [List.mem_append] at hx
    rcases hx with ((hx | hx) | hx) | hx
    · exact hassigned x (List.all_eq_true.mp (by decide) x hx)
    · rcases hmiddle x hx with hx | rfl
      · exact hblank x hx
      · decide
    · exact hpart x hx
    · exact hblank x (hgap x hx)
  | assigned hbefore hgap hmark hgap' hwords hnext =>
    rw [← List.append_cancel_right htext] at hx
    simp only [List.mem_append, List.mem_cons] at hx
    rcases hx with (hx | hx) | rfl | hx | hx
    · exact hpart x hx
    · exact hblank x (hgap x hx)
    · rcases hmark with rfl | rfl <;> decide
    · exact hblank x (hgap' x hx)
    · exact hassigned x (hwords x hx)
  | method hbefore hfront hgap =>
    rw [← List.append_cancel_right htext] at hx
    simp only [List.mem_append] at hx
    rcases hx with (hx | hx) | hx
    · rcases hfront x hx with hx | hx
      · exact hblank x hx
      · exact hassigned x (List.all_eq_true.mp (by decide) x hx)
    · exact hpart x hx
    · exact hblank x (hgap x hx)

lemma Signature.slash_not_mem (hname : IsLegible name) (h : Signature name c opening form text) :
    '/' ∉ text := by
  obtain ⟨core, rfl⟩ := h.exists_eq_append
  rw [List.mem_append, not_or]
  refine ⟨fun hmem => h.not_mem_of_mem_core hname rfl '/' hmem (by simp), ?_⟩
  cases form <;> decide

/-- A signature that starts in another one ends where that one ends. -/
lemma Signature.eq_of_suffix (hname : IsLegible name)
    (h : Signature name c opening form (us ++ vs)) (h' : Signature name c' opening form text)
    (hvs : vs ≠ []) (heq : vs ++ rest = text ++ rest') : vs = text := by
  obtain ⟨core, hcore⟩ := h.exists_eq_append
  obtain ⟨core', rfl⟩ := h'.exists_eq_append
  obtain ⟨front, stop, hending, hstop, hfront⟩ : ∃ front stop, form.ending = front ++ [stop] ∧
      stop ∈ ['(', '>'] ∧ stop ∉ front := by
    cases form
    · exact ⟨[], '(', rfl, by decide, by decide⟩
    · exact ⟨[], '(', rfl, by decide, by decide⟩
    · exact ⟨['='], '>', rfl, by decide, by decide⟩
    · exact ⟨[], '(', rfl, by decide, by decide⟩
  have hstop' : stop ∈ ['(', '>', '/'] := by
    revert hstop
    simp
    tauto
  -- all endings of one form stop at the same character, which stands nowhere before
  have hnone : ∀ {c : Cursor} {text core : List Char}, Signature name c opening form text →
      text = core ++ form.ending → ∀ x ∈ core ++ front, (x != stop) = true := by
    intro c text core h htext x hx
    rw [bne_iff_ne]
    rintro rfl
    rcases List.mem_append.mp hx with hx | hx
    · exact h.not_mem_of_mem_core hname htext x hx hstop'
    · exact hfront hx
  rcases List.eq_nil_or_concat vs with rfl | ⟨ws, y, rfl⟩
  · exact absurd rfl hvs
  obtain ⟨hws, rfl⟩ : us ++ ws = core ++ front ∧ y = stop := by
    rw [hending] at hcore
    exact List.append_singleton_inj.mp (by simpa using hcore)
  have hsplit : ws ++ y :: rest = (core' ++ front) ++ y :: rest' := by simpa [hending] using heq
  obtain ⟨rfl, -⟩ := eq_and_eq_of_run (p := (· != y))
    (fun x hx => hnone h hcore x (hws ▸ List.mem_append_right _ hx)) (hnone h' rfl) (by simp)
    (by simp) hsplit
  simp [hending]

/-- No signature that starts with the word `function` or with its name ends another one. -/
lemma Signature.eq_nil_of_append (hname : IsLegible name) (hopening : opening ≠ .line)
    (h : Signature name c opening form (us ++ text)) (h' : Signature name c' opening form text) :
    us = [] := by
  have hblank : ∀ x ∈ name, isBlank x = false := fun x hx => (hname.2 x hx).1
  -- both signatures have the form, so the second one is split by the opening of the first
  generalize htext : us ++ text = whole at h
  cases h with
  | @function middle gap hmiddle hgap =>
    cases h' with
    | @function middle' gap' hmiddle' hgap' =>
      have hall : us ++ "function".toList ++ middle' ++ name ++ gap'
          = "function".toList ++ middle ++ name ++ gap :=
        List.append_cancel_right (by simpa only [List.append_assoc] using htext)
      have hkeyword : us ++ "function".toList ++ middle' = [] ++ "function".toList ++ middle :=
        eq_of_append_run hgap' hgap hname.1 hblank hall
      exact eq_of_append_run (p := fun x => isBlank x || x == '*') (by simpa using hmiddle')
        (by simpa using hmiddle) (by decide) (eq_false_of_any (by decide)) hkeyword
  | @assigned _ gap behind words mark hbefore hgap hmark hbehind hwords hnext =>
    cases h' with
    | @assigned _ gap' behind' words' mark' hbefore' hgap' hmark' hbehind' hwords' hnext' =>
      have hmarked : (us ++ name ++ gap' ++ [mark']) ++ (behind' ++ words')
          = (name ++ gap ++ [mark]) ++ (behind ++ words) :=
        List.append_cancel_right (by simpa using htext)
      -- behind the mark there is no further one
      have hnone : ∀ {behind words : List Char}, (∀ x ∈ behind, isBlank x = true) →
          (∀ x ∈ words, isAssigned x = true) →
          ∀ x ∈ behind ++ words, (x != ':' && x != '=') = true := by
        intro behind words hbehind hwords x hx
        have hx : isAssigned x = true := (List.mem_append.mp hx).elim
          (fun hx => isAssigned_of_isBlank (hbehind x hx)) (hwords x)
        rw [Bool.and_eq_true, bne_iff_ne, bne_iff_ne]
        constructor <;> rintro rfl <;> exact absurd hx (by decide)
      have hlast : ∀ {mark : Char} (xs : List Char), mark = ':' ∨ mark = '=' →
          ∀ x ∈ (xs ++ [mark]).getLast?, (x != ':' && x != '=') = false := by
        rintro mark xs (rfl | rfl) <;> simp
      obtain ⟨hfront, -⟩ := eq_and_eq_of_run_behind (p := fun x => x != ':' && x != '=')
        (hnone hbehind' hwords') (hnone hbehind hwords) (hlast _ hmark') (hlast _ hmark) hmarked
      have hgaps : us ++ name ++ gap' = [] ++ name ++ gap := (List.append_singleton_inj.mp hfront).1
      exact eq_of_append_run hgap' hgap hname.1 hblank hgaps
  | method => exact absurd rfl hopening

end Signature

/-! ### What starts in a comment -/

section Comment

open Pattern

variable {comment source name : String} {name' front back text us vs word more : List Char}
  {c : Cursor} {opening : Opening} {form : Form} {x : Char}

/-- What starts in the first text and goes beyond it takes the rest of it and a part behind it. -/
lemma exists_of_append_eq {first second : List Char}
    (h : front ++ (text ++ back) = first ++ x :: second) (hfront : front.length ≤ first.length)
    (hover : first.length < front.length + text.length) :
    ∃ us vs, first = front ++ us ∧ text = us ++ x :: vs ∧ second = vs ++ back := by
  rcases List.append_eq_append_iff.mp h with ⟨us, rfl, hus⟩ | ⟨vs, rfl, hvs⟩
  · rcases List.append_eq_append_iff.mp hus with ⟨vs, rfl, -⟩ | ⟨vs, rfl, hvs⟩
    · simp only [List.length_append] at hover
      omega
    · cases vs with
      | nil => simp at hover
      | cons y vs =>
        obtain ⟨rfl, rfl⟩ := List.cons.inj hvs
        exact ⟨us, vs, rfl, rfl, rfl⟩
  · rw [List.length_append] at hfront
    obtain rfl : vs = [] := List.length_eq_zero_iff.mp (by omega)
    cases text with
    | nil => simp at hover
    | cons y text =>
      obtain ⟨rfl, rfl⟩ := List.cons.inj (by simpa using hvs)
      exact ⟨[], text, by simp, rfl, rfl⟩

/-- What starts a line in a comment does not reach over the end of the comment. -/
lemma IsComment.not_signature {cs : List Char} (hcomment : IsComment cs) (hname : IsLegible name')
    (hcs : cs = c.before.reverse ++ us) :
    ¬ Signature name' c .line form (us ++ '\n' :: vs) := by
  intro h
  -- the text of a signature has to be a variable before it can be split by its form
  have hline : ∀ y ∈ c.before.head?, y = '\n' := by
    generalize us ++ '\n' :: vs = text at h
    cases h with
    | method hbefore => exact hbefore
  have hslash : '/' ∉ us := fun hmem => h.slash_not_mem hname (List.mem_append_left _ hmem)
  cases hcomment with
  | @line inner hinner =>
    cases hbefore : c.before with
    | nil =>
      rw [hbefore, List.reverse_nil, List.nil_append] at hcs
      exact hslash (hcs ▸ List.mem_cons_self)
    | cons y before =>
      obtain rfl : y = '\n' := hline y (by simp [hbefore])
      have hmem : '\n' ∈ '/' :: '/' :: inner := by simp [hcs, hbefore]
      simp at hmem
      exact hinner hmem
  | @block inner hinner =>
    have hend : ('/' :: '*' :: inner ++ ['*', '/']).getLast? = some '/' := by
      rw [List.getLast?_append_of_ne_nil _ (by simp)]
      rfl
    rw [hcs] at hend
    rcases List.eq_nil_or_concat us with rfl | ⟨ws, y, rfl⟩
    · exact absurd (hline '/' (by simpa using hend)) (by decide)
    · obtain rfl : y = '/' := by simpa using hend
      exact hslash (by simp)

lemma toList_append_line (comment source : String) :
    (comment ++ "\n" ++ source).toList = comment.toList ++ '\n' :: source.toList := by simp

/--
What a pattern finds in a comment can reach into the script behind it, but not over the start of
what it finds there.
-/
lemma apart_of_isComment (hcomment : IsComment comment.toList) (hname : IsLegible name.toList)
    (source : String) : ∀ e ∈ declarationPatterns name, Apart e.2 comment source := by
  rintro ⟨form, m⟩ hm o ho hfirst o' ho'
  by_contra hover
  obtain ⟨opening, hopening⟩ := exists_signature hm
  obtain ⟨-, hplace, hlast⟩ := of_mem_occurrencesFrom ho
  obtain ⟨-, hplace', hlast'⟩ := of_mem_occurrencesFrom ho'
  obtain ⟨text, h, hreads⟩ := hopening _ _ hlast
  obtain ⟨text', h', hreads'⟩ := hopening _ _ hlast'
  have hindex := hreads.index_eq
  rw [List.reverse_nil, List.nil_append, toList_append_line, hreads.1] at hplace
  rw [List.reverse_nil, List.nil_append, hreads'.1] at hplace'
  rw [← String.length_toList, Cursor.index] at hfirst
  rw [← String.length_toList, Cursor.index, Cursor.index] at hover
  rw [Cursor.index, Cursor.index] at hindex
  -- the comment ends in the first text, which goes on in the script
  obtain ⟨us, vs, hus, rfl, hvs⟩ := exists_of_append_eq hplace (by simp; omega) (by simp; omega)
  have hrest : o'.first.before.reverse ++ (text' ++ o'.last.after) = vs ++ o.last.after :=
    hplace'.trans hvs
  rcases List.append_eq_append_iff.mp hrest with ⟨ws, rfl, hws⟩ | ⟨ws, hws, -⟩
  · by_cases hline : opening = .line
    · subst hline
      exact hcomment.not_signature hname hus h
    · -- what is found in the script would end what is found in the comment
      have hne : ws ≠ [] := by
        rintro rfl
        have hcomment := congrArg List.length hus
        simp at hcomment hindex
        omega
      have hinside : us ++ '\n' :: (o'.first.before.reverse ++ ws)
          = (us ++ '\n' :: o'.first.before.reverse) ++ ws := by simp
      rw [hinside] at h
      obtain rfl := h.eq_of_suffix hname h' hne hws.symm
      exact absurd (h.eq_nil_of_append hname hline h') (by simp)
  · have hcomment := congrArg List.length hus
    have hshort := congrArg List.length hws
    simp at hcomment hshort hindex
    omega

/-- A word that starts in a comment stands in it. -/
lemma infix_of_append_eq {cs : List Char} (hword : '\n' ∉ word)
    (h : front ++ (word ++ more) = cs ++ '\n' :: back) (hfront : front.length ≤ cs.length) :
    word <:+: cs := by
  -- a word that went over the end would hold the line end behind the comment
  by_cases hover : cs.length < front.length + word.length
  · obtain ⟨us, vs, -, rfl, -⟩ := exists_of_append_eq h hfront hover
    simp at hword
  · rw [← List.append_assoc] at h
    rcases List.append_eq_append_iff.mp h with ⟨us, hus, -⟩ | ⟨us, hus, -⟩
    · exact ⟨front, us, hus.symm⟩
    · have hlength := congrArg List.length hus
      obtain rfl : us = [] := List.length_eq_zero_iff.mp (by simp at hlength hover; omega)
      exact ⟨front, [], by simpa using hus⟩

/-- A comment that mentions neither the name nor the word `function` declares nothing. -/
theorem bodyWithin?_eq_none (hcomment : IsComment comment.toList) (hname : IsLegible name.toList)
    (hmention : ¬ name.toList <:+: comment.toList)
    (hkeyword : ¬ "function".toList <:+: comment.toList) (source : String) :
    bodyWithin? comment source name = none := by
  have hline : '\n' ∉ name.toList := fun hmem =>
    absurd (hname.2 '\n' hmem).1 (by decide)
  rw [bodyWithin?, List.filter_eq_nil_iff.mpr, List.findSome?_nil]
  intro k hk
  rw [decide_eq_true_eq]
  intro hfirst
  obtain ⟨form, m, hm, o, ho, rfl⟩ := mem_sightings_iff.mp (mem_candidates_iff.mp hk)
  obtain ⟨opening, hopening⟩ := exists_signature hm
  obtain ⟨-, hplace, hlast⟩ := of_mem_occurrencesFrom ho
  obtain ⟨text, h, hreads⟩ := hopening _ _ hlast
  rw [List.reverse_nil, List.nil_append, toList_append_line, hreads.1] at hplace
  rw [Cursor.index, ← String.length_toList, ← List.length_reverse] at hfirst
  cases id h with
  | @function middle gap hmiddle hgap =>
    have hword : o.first.before.reverse ++ ("function".toList ++
        (middle ++ name.toList ++ gap ++ Form.function.ending ++ o.last.after))
          = comment.toList ++ '\n' :: source.toList := by
      simpa only [List.append_assoc] using hplace
    exact hkeyword (infix_of_append_eq (by decide) hword hfirst)
  | @assigned _ gap behind words mark hbefore hgap hmark hbehind hwords hnext =>
    have hword : o.first.before.reverse ++ (name.toList ++
        (gap ++ mark :: (behind ++ words) ++ form.ending ++ o.last.after))
          = comment.toList ++ '\n' :: source.toList := by
      simpa only [List.append_assoc] using hplace
    exact hmention (infix_of_append_eq hline hword hfirst)
  | @method front gap hbefore hfront hgap =>
    -- a method is found at the start of its line, so its name may stand behind the comment
    by_cases hover : (o.first.before.reverse ++ front).length ≤ comment.toList.length
    · have hword : o.first.before.reverse ++ front ++ (name.toList ++
          (gap ++ Form.method.ending ++ o.last.after))
            = comment.toList ++ '\n' :: source.toList := by
        simpa only [List.append_assoc] using hplace
      exact hmention (infix_of_append_eq hline hword hover)
    · obtain ⟨us, vs, hus, htext, -⟩ := exists_of_append_eq hplace hfirst
        (by simp at hover ⊢; omega)
      exact hcomment.not_signature hname hus (htext ▸ h)

end Comment

/-! ### What a comment changes -/

section Results

variable {comment source name : String}

/--
A comment in front of a script leaves the outcome as it is exactly if the first function of the name
that is declared in the comment, if there is one, has that outcome too.
-/
theorem bodyOf_comment_iff (hcomment : IsComment comment.toList)
    (hname : IsLegible name.toList) (source : String) :
    bodyOf (comment ++ "\n" ++ source) name = bodyOf source name ↔
      ∀ result ∈ bodyWithin? comment source name, result = bodyOf source name := by
  rw [bodyOf_append (apart_of_isComment hcomment hname source)]
  cases bodyWithin? comment source name <;> simp

/-- The script that the two comments below stand in front of. -/
def returnsTwo : String := "function f() \x7b return 2; \x7d"

lemma bodyOf_returnsTwo : bodyOf returnsTwo "f" = .ok "return 2;" := by
  rw [bodyOf, candidates_eq_sightings (by decide +kernel)]
  decide +kernel

theorem bodyOf_comment_iff_returnsTwo :
    bodyOf ("// doubles it" ++ "\n" ++ returnsTwo) "f" = .ok "return 2;" := by
  have hcomment : IsComment "// doubles it".toList := .line (by decide)
  have hname : IsLegible "f".toList := IsIdentifier.isLegible ⟨'f', [], rfl, rfl, by simp⟩
  have hletter : 'f' ∉ "// doubles it".toList := by decide
  have hnone : bodyWithin? "// doubles it" returnsTwo "f" = none :=
    bodyWithin?_eq_none hcomment hname (fun h => hletter (h.subset (by decide)))
      (fun h => hletter (h.subset (by decide))) returnsTwo
  have hsame := (bodyOf_comment_iff hcomment hname returnsTwo).mpr (by simp [hnone])
  exact hsame.trans bodyOf_returnsTwo

/-- What is declared in a comment is taken instead of what the script declares. -/
theorem bodyOf_comment_declaring :
    IsComment "// function f() \x7b return 1; \x7d".toList ∧
      bodyOf returnsTwo "f" = .ok "return 2;" ∧
      bodyOf ("// function f() \x7b return 1; \x7d" ++ "\n" ++ returnsTwo) "f"
        = .ok "return 1;" := by
  refine ⟨.line (by decide), bodyOf_returnsTwo, ?_⟩
  rw [bodyOf, candidates_eq_sightings (by decide +kernel)]
  decide +kernel

/-- A comment that mentions neither the name nor the word `function` changes nothing. -/
theorem bodyOf_comment_of_unmentioned (hcomment : IsComment comment.toList)
    (hname : IsLegible name.toList) (hmention : ¬ name.toList <:+: comment.toList)
    (hkeyword : ¬ "function".toList <:+: comment.toList) (source : String) :
    bodyOf (comment ++ "\n" ++ source) name = bodyOf source name := by
  rw [bodyOf_append (apart_of_isComment hcomment hname source),
    bodyWithin?_eq_none hcomment hname hmention hkeyword, Option.getD_none]

end Results

end ViewAssembly.Script
