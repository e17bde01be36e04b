import ViewAssembly.Header.Basic
import ViewAssembly.Proofs.Entries
import ViewAssembly.Proofs.Except

/-!
# Headers in their final order

Arranging neither loses nor doubles a header (`Header.arrange_perm`). It takes its wish off every one,
and resolving the texts of a header brings none back. So headers that were built want no place any
more (`HeaderSource.anyPlaced_headers`).
-/

namespace ViewAssembly

namespace Header

variable {lang : String} {h : Header} {hs : List Header}

/-! ### Resolving texts -/

/-- The title and the label are all that resolving its texts changes in a header. -/
lemma get?_resolveTexts_of_ne {name : String} (htitle : "title" ≠ name) (hlabel : "label" ≠ name) :
    (h.resolveTexts lang).get? name = h.get? name := by
  rw [resolveTexts]
  split
  · rw [Entries.get?_put_of_ne _ _ hlabel, Entries.get?_put_of_ne _ _ htitle]
  · rw [Entries.get?_put_of_ne _ _ htitle]

/-! ### Arranging headers -/

lemma insertAll_cons (first : Nat) (hs : List Header) (n : Nat) (h : Header)
    (ps : List (Nat × Header)) :
    insertAll first hs ((n, h) :: ps)
      = insertAll (max (min n hs.length) first + 1)
          (insertAt (max (min n hs.length) first) h hs) ps := rfl

/-- Nothing is lost or doubled by putting headers at places. -/
lemma insertAll_perm (first : Nat) (hs : List Header) (ps : List (Nat × Header)) :
    (insertAll first hs ps).Perm (ps.map Prod.snd ++ hs) := by
  induction ps generalizing first hs with
  | nil => exact .refl _
  | cons p ps ih =>
    obtain ⟨n, h⟩ := p
    rw [insertAll_cons, List.map_cons, List.cons_append]
    refine (ih _ _).trans ?_
    have hinsert (place : Nat) : (insertAt place h hs).Perm (h :: hs) := by
      conv_rhs => rw [← List.take_append_drop place hs]
      exact List.perm_middle
    exact ((hinsert _).append_left _).trans List.perm_middle

/-- The final order of headers is one of the given headers without their wishes. -/
lemma arrange_perm (hs : List Header) : (arrange hs).Perm (hs.map (·.erase "order")) := by
  refine .map _ ((insertAll_perm 0 (unplaced hs) (placed hs)).trans ?_)
  have hplaced : ((placed hs).map Prod.snd).Perm (hs.filter (·.place?.isSome)) := by
    refine ((List.mergeSort_perm _ _).map Prod.snd).trans (.of_eq ?_)
    rw [List.map_filterMap, ← List.filterMap_eq_filter]
    refine congrArg (List.filterMap · hs) (funext fun g => ?_)
    cases hg : g.place? <;> simp [hg, Option.guard]
  have hunplaced : unplaced hs = hs.filter fun g => !g.place?.isSome :=
    List.filter_congr fun g _ => by cases g.place? <;> rfl
  rw [hunplaced]
  exact (hplaced.append_right _).trans (List.filter_append_perm _ hs)

lemma get?_order_of_mem_arrange (hmem : h ∈ arrange hs) : h.get? "order" = none := by
  obtain ⟨g, -, rfl⟩ := List.mem_map.mp hmem
  rw [Entries.get?_erase, if_pos rfl]

lemma anyPlaced_eq_false (hnone : ∀ h ∈ hs, h.get? "order" = none) :
    anyPlaced (.arr (hs.map .obj)) = false := by
  rw [anyPlaced]
  refine List.any_eq_false.mpr fun v hv => ?_
  obtain ⟨h, hh, rfl⟩ := List.mem_map.mp hv
  have hget : (Value.obj h).get? "order" = none := hnone h hh
  rw [hget]
  exact Bool.false_ne_true

end Header

/-- No header that was built wants a place. -/
lemma HeaderSource.anyPlaced_headers {s : HeaderSource} {tokens : List String} {hs : List Header}
    (h : s.headers tokens = .ok hs) : Header.anyPlaced (.arr (hs.map .obj)) = false := by
  obtain ⟨all, -, h⟩ := bind_eq_ok_iff.mp h
  obtain ⟨found, -, h⟩ := bind_eq_ok_iff.mp h
  cases h
  refine Header.anyPlaced_eq_false fun h hmem => ?_
  obtain ⟨g, hg, rfl⟩ := List.mem_map.mp hmem
  rw [Header.get?_resolveTexts_of_ne (by decide) (by decide)]
  exact Header.get?_order_of_mem_arrange hg

end ViewAssembly
