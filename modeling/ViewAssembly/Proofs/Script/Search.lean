import ViewAssembly.Proofs.Script.Behind
import ViewAssembly.Proofs.Script.Literal

/-!
# How far the search for a closing bracket reads

The search goes in rounds: each passes over a literal or looks at one character. A round that does
not end the search moves on, so the search is over after at most one round for each character and
one more (`closingWithin?_eq`).

All literals that it passes over end before the bracket that it finds. So the script can be cut off
behind that bracket without a change to what is found (`closingFrom_cut`), which
`closingIndex?_settled` says of indexes.
-/

namespace ViewAssembly.Script

open Text

/-! ### Rounds -/

/-- What a round of the search comes to. -/
inductive Round where
  | found (c : Cursor)
  | missing
  | goesOn (depth : Nat) (c : Cursor)

/-- A round of the search, at a place where so many brackets are open. -/
def round (d : Delimiters) (depth : Nat) (c : Cursor) : Round :=
  match c.after with
  | []     => .missing
  | x :: _ =>
    match literalLength c.before c.after with
    | k + 1 => .goesOn depth (c.advance (k + 1))
    | 0     =>
      if x == d.opening then .goesOn (depth + 1) (c.advance 1)
      else if x == d.closing then
        if depth == 1 then .found c else .goesOn (depth - 1) (c.advance 1)
      else .goesOn depth (c.advance 1)

/-- What the search comes to, if that is known after a number of rounds. -/
def closingWithin? (d : Delimiters) : Nat → Nat → Cursor → Option (Option Cursor)
  | 0, _, _             => none
  | limit + 1, depth, c =>
    match round d depth c with
    | .found last     => some (some last)
    | .missing        => some none
    | .goesOn depth c => closingWithin? d limit depth c

namespace Cursor

/-- To move forward is to drop what was read, which may be all there is. -/
lemma after_advance (c : Cursor) (n : Nat) : (c.advance n).after = c.after.drop n := by
  induction n generalizing c with
  | zero => rfl
  | succ n ih =>
    obtain ⟨before, after⟩ := c
    cases after with
    | nil => rfl
    | cons x xs => exact ih ⟨x :: before, xs⟩

end Cursor

section Rounds

variable {d : Delimiters} {depth k : Nat} {before xs : List Char} {x : Char} {c : Cursor}

/-- To pass over characters is to search on behind them. -/
lemma closingFrom_advance (d : Delimiters) (n depth : Nat) (before cs : List Char) :
    closingFrom d n depth before cs
      = closingFrom d 0 depth (Cursor.advance ⟨before, cs⟩ n).before
          (Cursor.advance ⟨before, cs⟩ n).after := by
  induction n generalizing before cs with
  | zero => rfl
  | succ n ih =>
    cases cs with
    | nil => rfl
    | cons x xs => exact ih (x :: before) xs

/-- The rest of a literal is passed over. -/
lemma closingFrom_inLiteral (h : literalLength before (x :: xs) = k + 1) :
    closingFrom d 0 depth before (x :: xs) = closingFrom d k depth (x :: before) xs := by
  rw [closingFrom, h]

/-- A character that starts no literal counts if it is a bracket. -/
lemma closingFrom_atCharacter (h : literalLength before (x :: xs) = 0) :
    closingFrom d 0 depth before (x :: xs) =
      if x == d.opening then closingFrom d 0 (depth + 1) (x :: before) xs
      else if x == d.closing then
        if depth == 1 then some ⟨before, x :: xs⟩ else closingFrom d 0 (depth - 1) (x :: before) xs
      else closingFrom d 0 depth (x :: before) xs := by
  rw [closingFrom, h]

/-- A round ends the search with its outcome, or leaves a shorter text with the same one. -/
lemma round_spec (d : Delimiters) (depth : Nat) (c : Cursor) :
    match round d depth c with
    | .found last      => closingFrom d 0 depth c.before c.after = some last
    | .missing         => closingFrom d 0 depth c.before c.after = none
    | .goesOn depth' c' =>
      closingFrom d 0 depth c.before c.after = closingFrom d 0 depth' c'.before c'.after ∧
        c'.after.length < c.after.length := by
  obtain ⟨before, after⟩ := c
  cases after with
  | nil => rfl
  | cons x xs =>
    have hshorter : ∀ k, (Cursor.advance ⟨before, x :: xs⟩ (k + 1)).after.length
        < (x :: xs).length := by
      intro k
      rw [Cursor.after_advance, List.length_drop, List.length_cons]
      omega
    simp only [round]
    cases hlength : literalLength before (x :: xs) with
    | succ k =>
      refine ⟨?_, hshorter k⟩
      rw [closingFrom_inLiteral hlength]
      exact closingFrom_advance d k depth (x :: before) xs
    | zero =>
      rw [closingFrom_atCharacter hlength]
      split_ifs
      · exact ⟨rfl, hshorter 0⟩
      · rfl
      · exact ⟨rfl, hshorter 0⟩
      · exact ⟨rfl, hshorter 0⟩

/-- The search is over after as many rounds as there are characters, and one more. -/
theorem closingWithin?_eq {limit : Nat} (hlimit : c.after.length < limit) :
    closingWithin? d limit depth c = some (closingFrom d 0 depth c.before c.after) := by
  induction limit generalizing depth c with
  | zero => omega
  | succ limit ih =>
    have hround := round_spec d depth c
    rw [closingWithin?]
    cases hc : round d depth c with
    | found last =>
      rw [hc] at hround
      rw [hround]
    | missing =>
      rw [hc] at hround
      rw [hround]
    | goesOn depth' c' =>
      rw [hc] at hround
      obtain ⟨hsame, hshorter⟩ := hround
      rw [hsame]
      exact ih (by omega)

end Rounds

/-! ### The search in a text that is cut off -/

section Cut

variable {d : Delimiters} {skip depth : Nat} {before cs text rest : List Char} {c : Cursor}

/-- What is found stands behind all that is passed over. -/
lemma le_index_of_closingFrom (h : closingFrom d skip depth before cs = some c) :
    before.length + skip ≤ c.index := by
  induction cs generalizing skip depth before with
  | nil => cases h
  | cons x cs ih =>
    have hstep : ∀ {skip depth : Nat}, closingFrom d skip depth (x :: before) cs = some c →
        before.length + 1 + skip ≤ c.index := fun h => by simpa using ih h
    cases skip with
    | succ k =>
      have hbehind := hstep h
      omega
    | zero =>
      cases hlength : literalLength before (x :: cs) with
      | succ k =>
        rw [closingFrom_inLiteral hlength] at h
        have hbehind := hstep h
        omega
      | zero =>
        rw [closingFrom_atCharacter hlength] at h
        split_ifs at h
        · have hbehind := hstep h
          omega
        · cases h
          exact le_rfl
        · have hbehind := hstep h
          omega
        · have hbehind := hstep h
          omega

/-- A text can be cut off behind the bracket that is found in it. -/
lemma closingFrom_cut (hquote : isQuote d.closing = false) (hslash : d.closing ≠ '/')
    (hstar : d.closing ≠ '*') (hpart : isNamePart d.closing = false)
    (h : closingFrom d skip depth before (text ++ d.closing :: rest)
      = some ⟨text.reverse ++ before, d.closing :: rest⟩) :
    closingFrom d skip depth before (text ++ [d.closing])
      = some ⟨text.reverse ++ before, [d.closing]⟩ := by
  induction text generalizing skip depth before with
  | nil =>
    -- what is found from the next character on stands behind this one
    have hbehind : ∀ {depth : Nat}, closingFrom d 0 depth (d.closing :: before) rest
        ≠ some ⟨before, d.closing :: rest⟩ := fun h => by
      have hindex : before.length + 1 + 0 ≤ before.length := le_index_of_closingFrom h
      omega
    have hskip : before.length + skip ≤ before.length := le_index_of_closingFrom h
    obtain rfl : skip = 0 := by omega
    have hnone := literalLength_eq_zero hquote hslash before
    simp only [List.nil_append, List.reverse_nil] at h ⊢
    rw [closingFrom_atCharacter (hnone rest)] at h
    rw [closingFrom_atCharacter (hnone [])]
    split_ifs at h ⊢
    · exact absurd h hbehind
    · rfl
    · exact absurd h hbehind
    · exact absurd h hbehind
  | cons x text ih =>
    simp only [List.cons_append, List.reverse_cons, List.append_assoc, List.nil_append] at h ⊢
    cases skip with
    | succ k => exact ih h
    | zero =>
      -- a literal that ends within the text ends there whatever follows the bracket
      have hsettled : literalLength before (x :: (text ++ d.closing :: rest)) ≤ text.length + 1 →
          literalLength before (x :: (text ++ [d.closing]))
            = literalLength before (x :: (text ++ d.closing :: rest)) :=
        literalLength_append_of_le hquote hslash hstar hpart before (x :: text)
      cases hlength : literalLength before (x :: (text ++ d.closing :: rest)) with
      | succ k =>
        rw [closingFrom_inLiteral hlength] at h
        have hwithin := le_index_of_closingFrom h
        simp only [Cursor.index, List.length_append, List.length_reverse, List.length_cons]
          at hwithin
        rw [closingFrom_inLiteral ((hsettled (by omega)).trans hlength)]
        exact ih h
      | zero =>
        rw [closingFrom_atCharacter hlength] at h
        rw [closingFrom_atCharacter ((hsettled (by omega)).trans hlength)]
        split_ifs at h ⊢
        · exact ih h
        · -- a search that ends here does not find the bracket behind the text
          have hlengths := congrArg (·.map Cursor.index) h
          simp [Cursor.index] at hlengths
          omega
        · exact ih h
        · exact ih h

end Cut

/-! ### The bracket at an index -/

section Index

variable {d : Delimiters} {source : String} {front after : List Char} {i last : Nat}

/-- The index of the bracket that closes the one at an index, if the brackets balance. -/
def closingIndex? (d : Delimiters) (source : String) (i : Nat) : Option Nat :=
  (closing? d ((Cursor.start source).advance i)).map Cursor.index

def upTo (source : String) (n : Nat) : String := String.ofList (source.toList.take n)

lemma advance_start (h : source.toList = front ++ after) :
    (Cursor.start source).advance front.length = ⟨front.reverse, after⟩ := by
  rw [Cursor.start, h, Cursor.advance_append, List.append_nil]

lemma exists_append_of_getElem? {c : Char} (h : source.toList[i]? = some c) :
    ∃ front after, source.toList = front ++ c :: after ∧ front.length = i := by
  obtain ⟨hi, hc⟩ := List.getElem?_eq_some_iff.mp h
  refine ⟨source.toList.take i, source.toList.drop (i + 1), ?_, List.length_take_of_le hi.le⟩
  rw [← hc, ← List.drop_eq_getElem_cons hi, List.take_append_drop]

/-- What is found behind an opening bracket is found again in the script up to there. -/
lemma exists_of_closingIndex? (hd : d = braces ∨ d = parentheses)
    (hsource : source.toList = front ++ d.opening :: after)
    (h : closingIndex? d source front.length = some last) :
    ∃ text rest, after = text ++ d.closing :: rest ∧ last = (front ++ d.opening :: text).length ∧
      closingIndex? d (String.ofList (front ++ d.opening :: text ++ [d.closing])) front.length
        = some last := by
  obtain ⟨hopening, hopening', hquote, hslash, hstar, hpart⟩ : isQuote d.opening = false ∧
      d.opening ≠ '/' ∧ isQuote d.closing = false ∧ d.closing ≠ '/' ∧ d.closing ≠ '*' ∧
      isNamePart d.closing = false := by
    rcases hd with rfl | rfl <;> decide
  obtain ⟨c, hc, rfl⟩ := Option.map_eq_some_iff.mp h
  rw [advance_start hsource, closing?_opening hopening hopening'] at hc
  obtain ⟨text, rest, rfl, rfl⟩ := exists_of_closingFrom hc
  refine ⟨text, rest, rfl, by simp [Cursor.index]; omega, ?_⟩
  have hsource' : (String.ofList (front ++ d.opening :: text ++ [d.closing])).toList
      = front ++ d.opening :: (text ++ [d.closing]) := by simp
  rw [closingIndex?, advance_start hsource', closing?_opening hopening hopening',
    closingFrom_cut hquote hslash hstar hpart hc]
  rfl

/--
From an opening bracket on, the search is over after as many rounds as there are characters left,
and one more. What it finds is a closing bracket behind the opening one, and it is found again when
what stands behind it is cut off.
-/
theorem closingIndex?_settled (hd : d = braces ∨ d = parentheses)
    (hopening : source.toList[i]? = some d.opening) :
    (∃ found, closingWithin? d (source.length - i + 1) 0 ((Cursor.start source).advance i)
        = some found ∧ closingIndex? d source i = found.map Cursor.index) ∧
      ∀ last, closingIndex? d source i = some last →
        i < last ∧ last < source.length ∧ source.toList[last]? = some d.closing ∧
          closingIndex? d (upTo source (last + 1)) i = some last := by
  constructor
  · have hrounds : ((Cursor.start source).advance i).after.length < source.length - i + 1 := by
      rw [Cursor.after_advance, List.length_drop, ← String.length_toList]
      exact Nat.lt_succ_self _
    exact ⟨_, closingWithin?_eq hrounds, rfl⟩
  · intro last hlast
    obtain ⟨front, after, hsource, rfl⟩ := exists_append_of_getElem? hopening
    obtain ⟨text, rest, rfl, rfl, hcut⟩ := exists_of_closingIndex? hd hsource hlast
    have hplace : source.toList = front ++ d.opening :: text ++ d.closing :: rest := by
      rw [hsource, List.append_assoc, List.cons_append]
    have hcutoff : upTo source ((front ++ d.opening :: text).length + 1)
        = String.ofList (front ++ d.opening :: text ++ [d.closing]) := by
      rw [upTo, hplace, List.take_length_add_append]
      rfl
    refine ⟨?_, ?_, ?_, hcutoff ▸ hcut⟩
    · rw [List.length_append, List.length_cons]
      omega
    · rw [← String.length_toList, hplace]
      simp only [List.length_append, List.length_cons]
      omega
    · rw [hplace, List.getElem?_append_right le_rfl, Nat.sub_self, List.getElem?_cons_zero]

/-- A block with a slash in it, and another slash in the next line. -/
def slashedBlock : String := "f\x7b/a\x7d\n/\x7d"

/--
The line ends before the second slash does, so the first one opens no regular expression, and it
opens none either where all this is cut off.
-/
theorem closingIndex?_settled_slash :
    slashedBlock.toList[1]? = some braces.opening ∧
      closingIndex? braces slashedBlock 1 = some 4 ∧
      closingIndex? braces (upTo slashedBlock 5) 1 = some 4 := by
  have hopening : slashedBlock.toList[1]? = some braces.opening := by decide
  have hfound : closingIndex? braces slashedBlock 1 = some 4 := by decide
  obtain ⟨-, hsettled⟩ := closingIndex?_settled (.inl rfl) hopening
  obtain ⟨-, -, -, hcut⟩ := hsettled 4 hfound
  exact ⟨hopening, hfound, hcut⟩

/-- A string that is open takes all there is, a lone backslash at the end too. -/
example : closingIndex? parentheses "('a)\\" 0 = none := by decide

end Index

end ViewAssembly.Script
