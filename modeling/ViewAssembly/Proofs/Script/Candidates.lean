import ViewAssembly.Proofs.Script.Pattern
import ViewAssembly.Proofs.Sorting

/-!
# Places that look like declarations

The places that look like declarations of a name are found pattern by pattern and then put in the
order of the script. So those up to some position come first, whatever there is behind it.
-/

namespace ViewAssembly.Script

/-! ### Occurrences of a pattern -/

namespace Pattern

variable {m : Pattern} {skip : Nat} {before cs : List Char} {o : Occurrence}

lemma occurrencesFrom_cons_of_eq_nil {c : Char} (h : m ⟨before, c :: cs⟩ = []) :
    occurrencesFrom m 0 before (c :: cs) = occurrencesFrom m 0 (c :: before) cs := by
  simp [occurrencesFrom, h]

lemma occurrencesFrom_append_of_eq_nil {text : List Char}
    (h : ∀ xs x ys, text = xs ++ x :: ys → m ⟨xs.reverse ++ before, x :: (ys ++ cs)⟩ = []) :
    occurrencesFrom m 0 before (text ++ cs)
      = occurrencesFrom m 0 (text.reverse ++ before) cs := by
  induction text generalizing before with
  | nil => rfl
  | cons c text ih =>
    have hnone : m ⟨before, c :: (text ++ cs)⟩ = [] := h [] c text rfl
    rw [List.cons_append, occurrencesFrom_cons_of_eq_nil hnone, ih]
    · simp
    · intro xs x ys hxs
      simpa using h (c :: xs) x ys (congrArg (c :: ·) hxs)

/--
An occurrence starts at a place of the text, where no more characters are to be passed over, and
ends where it can.
-/
lemma of_mem_occurrencesFrom (h : o ∈ occurrencesFrom m skip before cs) :
    before.length + skip ≤ o.first.index ∧
      o.first.before.reverse ++ o.first.after = before.reverse ++ cs ∧ o.last ∈ m o.first := by
  induction cs generalizing skip before with
  | nil => cases h
  | cons c cs ih =>
    have hstep : ∀ {k}, o ∈ occurrencesFrom m k (c :: before) cs → skip ≤ k + 1 →
        before.length + skip ≤ o.first.index ∧
          o.first.before.reverse ++ o.first.after = before.reverse ++ c :: cs ∧
          o.last ∈ m o.first := by
      intro k h hskip
      obtain ⟨hindex, hplace, hlast⟩ := ih h
      rw [List.length_cons] at hindex
      exact ⟨by omega, by simpa using hplace, hlast⟩
    cases skip with
    | succ k => exact hstep h le_rfl
    | zero =>
      simp only [occurrencesFrom] at h
      split at h
      · next last hhead =>
        rcases List.mem_cons.mp h with rfl | h
        · exact ⟨by simp [Cursor.index], rfl, List.mem_of_mem_head? hhead⟩
        · exact hstep h (Nat.zero_le _)
      · exact hstep h (Nat.zero_le _)

end Pattern

/-! ### Candidates -/

/-- The places that look like declarations of a name, pattern by pattern. -/
def sightings (source name : String) : List Candidate :=
  (declarationPatterns name).flatMap fun e =>
    (Pattern.occurrences e.2 source).map fun o => ⟨e.1, o.first, o.last⟩

section Candidates

variable {source name : String} {k : Candidate}

lemma mem_sightings_iff : k ∈ sightings source name ↔
    ∃ form m, (form, m) ∈ declarationPatterns name ∧
      ∃ o ∈ Pattern.occurrences m source, k = ⟨form, o.first, o.last⟩ := by
  rw [sightings, List.mem_flatMap]
  constructor
  · rintro ⟨⟨form, m⟩, hm, hk⟩
    obtain ⟨o, ho, rfl⟩ := List.mem_map.mp hk
    exact ⟨form, m, hm, o, ho, rfl⟩
  · rintro ⟨form, m, hm, o, ho, rfl⟩
    exact ⟨(form, m), hm, List.mem_map.mpr ⟨o, ho, rfl⟩⟩

def inOrder (ks : List Candidate) : List Candidate :=
  ks.mergeSort fun a b => a.first.index ≤ b.first.index

lemma candidates_eq (source name : String) :
    candidates source name = inOrder (sightings source name) := rfl

/-- What is found in the order of the script need not be sorted. -/
lemma candidates_eq_sightings
    (h : (sightings source name).Pairwise fun a b => a.first.index ≤ b.first.index) :
    candidates source name = sightings source name := by
  rw [candidates_eq, inOrder, List.mergeSort_of_pairwise (by simpa using h)]

lemma mem_candidates_iff : k ∈ candidates source name ↔ k ∈ sightings source name :=
  (List.mergeSort_perm _ _).mem_iff

lemma filter_inOrder (p : Candidate → Bool) (ks : List Candidate) :
    (inOrder ks).filter p = inOrder (ks.filter p) := by
  refine filter_mergeSort ?_ ?_ p ks
  · simp only [decide_eq_true_eq]
    exact fun _ _ _ => Nat.le_trans
  · simp only [Bool.or_eq_true, decide_eq_true_eq]
    exact fun _ _ => Nat.le_total _ _

/-- Those that start at a position or before it come first. -/
lemma inOrder_eq_append (n : Nat) (ks : List Candidate) :
    inOrder ks = inOrder (ks.filter (·.first.index ≤ n))
      ++ inOrder (ks.filter (n < ·.first.index)) := by
  have hnot : (fun k : Candidate => decide (n < k.first.index))
      = fun k => !decide (k.first.index ≤ n) := by
    funext k
    rw [← decide_not, decide_eq_decide, Nat.not_le]
  rw [inOrder, inOrder, inOrder, hnot]
  refine mergeSort_eq_append ?_ ?_ ?_ ks
  · simp only [decide_eq_true_eq]
    exact fun _ _ _ => Nat.le_trans
  · simp only [Bool.or_eq_true, decide_eq_true_eq]
    exact fun _ _ => Nat.le_total _ _
  · simp only [decide_eq_true_eq, decide_eq_false_iff_not]
    omega

end Candidates

/-! ### The body of a candidate -/

section Body

variable {source name : String} {k : Candidate} {c : Cursor}
  {result : Except ExtractionFailure String}

lemma candidateBody?_of_block (hstart : bodyStart? k = some c)
    (hblock : c.after.head? = some '{') : candidateBody? k = some (bracedBody c) := by
  simp [candidateBody?, hstart, hblock]

lemma candidateBody?_of_expression (hform : k.form = .arrow) (hstart : bodyStart? k = some c)
    (hblock : c.after.head? ≠ some '{') : candidateBody? k = some (.ok (expression c)) := by
  simp [candidateBody?, hstart, hblock, hform]

/-- Where the first candidate proves to be a declaration, it decides. -/
lemma bodyOf_eq_of_cons {later : List Candidate} (hcandidates : candidates source name = k :: later)
    (hk : candidateBody? k = some result) : bodyOf source name = result := by
  rw [bodyOf, hcandidates, List.findSome?_cons, hk]
  rfl

end Body

end ViewAssembly.Script
