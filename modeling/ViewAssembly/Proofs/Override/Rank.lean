import Mathlib.Data.List.FinRange
import ViewAssembly.Proofs.Override.Select

/-!
# Selecting by text as a stable sort

Each element of a list has a rank among the texts by which elements are asked for: the index of the
first text that asks for it. A selection puts the elements that have one into buckets by rank
(`select_eq_flatMap`), which is to sort them by rank and to leave those of equal rank in their order
(`select_sorts`).
-/

namespace ViewAssembly.Override

open Text

variable {e : Value} {es : List Value} {u v w : String} {us vs ws : List String}

/-- The index of the first text that asks for an element; behind all texts if none does. -/
def rank (ws : List String) (e : Value) : Nat := ws.findIdx (selects · e)

lemma rank_cons_of_selects (h : selects w e = true) (ws : List String) : rank (w :: ws) e = 0 := by
  rw [rank, List.findIdx_cons, h]
  rfl

lemma rank_cons_of_not_selects (h : selects w e = false) (ws : List String) :
    rank (w :: ws) e = rank ws e + 1 := by
  rw [rank, List.findIdx_cons, h]
  rfl

lemma rank_lt_length_iff : rank ws e < ws.length ↔ ∃ w ∈ ws, selects w e = true :=
  List.findIdx_lt_length

/-! ### Buckets -/

/-- A selection takes the elements rank by rank. -/
lemma select_eq_flatMap (es : List Value) (ws : List String) :
    select es ws = (List.range ws.length).flatMap fun k => es.filter fun e => rank ws e == k := by
  induction ws generalizing es with
  | nil => rfl
  | cons w ws ih =>
    rw [select, ih, List.length_cons, List.range_succ_eq_map, List.flatMap_cons, List.flatMap_map]
    congr 1
    · refine List.filter_congr fun e _ => ?_
      cases h : selects w e with
      | true => rw [rank_cons_of_selects h]; rfl
      | false => rw [rank_cons_of_not_selects h]; rfl
    · refine List.flatMap_congr fun k _ => ?_
      rw [List.filter_filter]
      refine List.filter_congr fun e _ => ?_
      cases h : selects w e with
      | true => rw [rank_cons_of_selects h]; simp
      | false => rw [rank_cons_of_not_selects h]; simp

/-- The places of the elements that are selected, rank by rank. -/
def selectedPlaces (es : List Value) (ws : List String) : List (Fin es.length) :=
  (List.range ws.length).flatMap fun k =>
    (List.finRange es.length).filter fun i => rank ws (es.get i) == k

lemma map_get_selectedPlaces (es : List Value) (ws : List String) :
    (selectedPlaces es ws).map es.get = select es ws := by
  rw [select_eq_flatMap, selectedPlaces, List.map_flatMap]
  refine List.flatMap_congr fun k _ => ?_
  have hbucket : ((List.finRange es.length).map es.get).filter (rank ws · == k)
      = ((List.finRange es.length).filter fun i => rank ws (es.get i) == k).map es.get :=
    List.filter_map
  rw [List.map_get_finRange] at hbucket
  exact hbucket.symm

lemma mem_selectedPlaces_iff {i : Fin es.length} :
    i ∈ selectedPlaces es ws ↔ ∃ w ∈ ws, selects w (es.get i) = true := by
  rw [← rank_lt_length_iff, selectedPlaces, List.mem_flatMap]
  constructor
  · rintro ⟨k, hk, hi⟩
    obtain rfl := beq_iff_eq.mp (List.mem_filter.mp hi).2
    exact List.mem_range.mp hk
  · intro h
    exact ⟨_, List.mem_range.mpr h, List.mem_filter.mpr ⟨List.mem_finRange i, beq_self_eq_true _⟩⟩

lemma pairwise_selectedPlaces (es : List Value) (ws : List String) :
    (selectedPlaces es ws).Pairwise fun i j =>
      rank ws (es.get i) < rank ws (es.get j) ∨
        rank ws (es.get i) = rank ws (es.get j) ∧ i < j := by
  refine List.pairwise_flatMap.mpr ⟨fun k _ => ?_, ?_⟩
  · -- within a bucket the places increase
    refine ((List.pairwise_lt_finRange _).filter _).imp_of_mem fun hi hj hlt => ?_
    have hi := beq_iff_eq.mp (List.mem_filter.mp hi).2
    have hj := beq_iff_eq.mp (List.mem_filter.mp hj).2
    exact .inr ⟨hi.trans hj.symm, hlt⟩
  · refine List.pairwise_lt_range.imp fun hlt i hi j hj => ?_
    rw [beq_iff_eq.mp (List.mem_filter.mp hi).2, beq_iff_eq.mp (List.mem_filter.mp hj).2]
    exact .inl hlt

/-! ### Texts that ask for nothing new -/

lemma selects_congr (h : sameLetters u v = true) : selects u = selects v := by
  have hwanted : isWanted u = isWanted v := by
    funext x
    have hletters : sameLetters u = sameLetters v := by
      funext t
      rw [sameLetters, sameLetters, sameLetters_iff.mp h]
    rw [isWanted, isWanted, hletters]
  funext e
  unfold selects
  rw [hwanted]

/-- Further texts select from what the first ones have left. -/
lemma select_append_texts (es : List Value) (us vs : List String) :
    select es (us ++ vs)
      = select es us ++ select (es.filter fun e => us.all fun u => !selects u e) vs := by
  induction us generalizing es with
  | nil => simp [select]
  | cons u us ih =>
    rw [List.cons_append, select, select, ih, List.append_assoc, List.filter_filter]
    simp only [List.all_cons, Bool.and_comm]

/-- A text that asks for nothing, or for what an earlier one has asked for, can be left out. -/
lemma select_eq_of_asks_nothing_new
    (h : (∀ e ∈ es, selects v e = false) ∨ ∃ u ∈ us, sameLetters u v = true) :
    select es (us ++ v :: vs) = select es (us ++ vs) := by
  have hleft : ∀ w ∈ [v], ∀ e ∈ es.filter (fun e => us.all fun u => !selects u e),
      selects w e = false := by
    intro w hw e he
    obtain rfl := List.mem_singleton.mp hw
    obtain ⟨hmem, hnew⟩ := List.mem_filter.mp he
    rcases h with hnone | ⟨u, hu, hsame⟩
    · exact hnone e hmem
    · rw [← selects_congr hsame]
      simpa using List.all_eq_true.mp hnew u hu
  rw [select_append_texts, select_append_texts, ← List.singleton_append,
    select_append_left hleft]

/--
A selection is a stable sort of the elements that are asked for by the index of the first text that
asks for them. A text contributes nothing if it asks for nothing, or if an earlier one differs from
it in letter case only, and selecting again by the same texts changes nothing.
-/
theorem select_sorts (es : List Value) (ws : List String) :
    (∃ places : List (Fin es.length),
      select es ws = places.map es.get ∧
      (∀ i, i ∈ places ↔ ∃ w ∈ ws, selects w (es.get i) = true) ∧
      places.Pairwise fun i j =>
        rank ws (es.get i) < rank ws (es.get j) ∨
          rank ws (es.get i) = rank ws (es.get j) ∧ i < j) ∧
    (∀ us v vs, ws = us ++ v :: vs →
      ((∀ e ∈ es, selects v e = false) ∨ ∃ u ∈ us, sameLetters u v = true) →
      select es ws = select es (us ++ vs)) ∧
    select (select es ws) ws = select es ws := by
  refine ⟨⟨selectedPlaces es ws, (map_get_selectedPlaces es ws).symm,
    fun i => mem_selectedPlaces_iff, pairwise_selectedPlaces es ws⟩, ?_, select_select es ws⟩
  rintro us v vs rfl h
  exact select_eq_of_asks_nothing_new h

end ViewAssembly.Override
