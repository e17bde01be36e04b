import ViewAssembly.Proofs.Merge.Layers

/-!
# Leaves of a merged value

A leaf is a path of names at whose end something else than an object stands. Merging keeps every
leaf of the side that wins. Of the other side it keeps those that the winning side has room for: it
holds nothing at their path, and nothing but objects on the way there. No other leaf arises
(`hasLeaf_merge_iff`).
-/

namespace ViewAssembly

/-- Of two values that are merged, the one that wins where they cannot be. -/
def Side.winner (side : Side) (base patch : Value) : Value :=
  match side with
  | .base  => base
  | .patch => patch

/-- Of two values that are merged, the one that gives way where they cannot be. -/
def Side.loser (side : Side) (base patch : Value) : Value :=
  match side with
  | .base  => patch
  | .patch => base

namespace Value

variable {side : Side} {base patch v leaf : Value} {bs ps : Entries Value} {n : String}
  {path : List String}

/-! ### Leaves, and room for them -/

/-- Does this leaf stand in a value at the end of a path? -/
def HasLeaf (v : Value) (path : List String) (leaf : Value) : Prop :=
  v.at? path = some leaf ∧ leaf.isObj = false

/-- Has a value nothing at the end of a path, and nothing but objects on the way there? -/
def HasRoom (v : Value) (path : List String) : Prop :=
  v.at? path = none ∧ ∀ way x, way <+: path → way ≠ path → v.at? way = some x → x.isObj = true

lemma not_hasLeaf_nil_obj : ¬ (obj bs).HasLeaf [] leaf := by
  rintro ⟨hat, hobj⟩
  cases hat
  cases hobj

lemma hasLeaf_obj_cons_iff :
    (obj bs).HasLeaf (n :: path) leaf ↔ ∃ x, bs.get? n = some x ∧ x.HasLeaf path leaf := by
  have hget : (obj bs).get? n = bs.get? n := rfl
  simp only [HasLeaf, at?_cons_eq_some_iff, hget, ← exists_and_right, and_assoc]

lemma not_hasRoom_nil (v : Value) : ¬ v.HasRoom [] := by
  rintro ⟨h, -⟩
  cases h

/-- There is no way through something else than an object. -/
lemma isObj_of_hasRoom (h : v.HasRoom path) : v.isObj = true := by
  cases path with
  | nil => exact absurd h (not_hasRoom_nil v)
  | cons n ns => exact h.2 [] v List.nil_prefix (List.cons_ne_nil n ns).symm rfl

lemma at?_obj_cons_of_get? {x : Value} (hx : bs.get? n = some x) (ns : List String) :
    (obj bs).at? (n :: ns) = x.at? ns := by
  change (bs.get? n).bind (·.at? ns) = _
  rw [hx, Option.bind_some]

lemma at?_obj_cons_of_get?_eq_none (h : bs.get? n = none) (ns : List String) :
    (obj bs).at? (n :: ns) = none := by
  change (bs.get? n).bind (·.at? ns) = _
  rw [h, Option.bind_none]

/-- Where an object has nothing under a name, it has room for every path that begins with it. -/
lemma hasRoom_of_get?_eq_none (h : bs.get? n = none) (path : List String) :
    (obj bs).HasRoom (n :: path) := by
  refine ⟨at?_obj_cons_of_get?_eq_none h path, fun way y hway _ hy => ?_⟩
  cases way with
  | nil =>
    cases hy
    rfl
  | cons m ns =>
    obtain ⟨rfl, -⟩ := List.cons_prefix_cons.mp hway
    rw [at?_obj_cons_of_get?_eq_none h] at hy
    cases hy

lemma hasRoom_cons_iff_of_get? {x : Value} (hx : bs.get? n = some x) :
    (obj bs).HasRoom (n :: path) ↔ x.HasRoom path := by
  constructor
  · rintro ⟨hend, hobjects⟩
    refine ⟨(at?_obj_cons_of_get? hx path).symm.trans hend, fun way y hway hne hy => ?_⟩
    refine hobjects (n :: way) y ((List.prefix_cons_inj n).mpr hway) (by simpa using hne) ?_
    exact (at?_obj_cons_of_get? hx way).trans hy
  · rintro ⟨hend, hobjects⟩
    refine ⟨(at?_obj_cons_of_get? hx path).trans hend, fun way y hway hne hy => ?_⟩
    cases way with
    | nil =>
      cases hy
      rfl
    | cons m ns =>
      obtain ⟨rfl, hns⟩ := List.cons_prefix_cons.mp hway
      exact hobjects ns y hns (by simpa using hne) ((at?_obj_cons_of_get? hx ns).symm.trans hy)

/-! ### Leaves of a merged value -/

lemma merge_eq_winner (h : base.isObj = false ∨ patch.isObj = false) :
    base.merge side patch = side.winner base patch := by
  rcases h with h | h
  · cases base <;> first | (cases patch <;> cases side <;> rfl) | cases h
  · cases patch <;> first | (cases side <;> rfl) | cases h

/-- Where two values cannot be merged, nothing of the one that gives way is kept. -/
lemma hasLeaf_merge_iff_of_not_isObj (h : base.isObj = false ∨ patch.isObj = false) :
    (base.merge side patch).HasLeaf path leaf ↔
      (side.winner base patch).HasLeaf path leaf ∨
        (side.loser base patch).HasLeaf path leaf ∧ (side.winner base patch).HasRoom path := by
  have hsides : (side.winner base patch).isObj = false ∨ (side.loser base patch).isObj = false := by
    cases side with
    | base => exact h
    | patch => exact h.symm
  have hkept : ¬ ((side.loser base patch).HasLeaf path leaf ∧
      (side.winner base patch).HasRoom path) := by
    rintro ⟨⟨hat, -⟩, hroom⟩
    rcases hsides with hwinner | hloser
    · rw [isObj_of_hasRoom hroom] at hwinner
      cases hwinner
    · cases path with
      | nil => exact not_hasRoom_nil _ hroom
      | cons n ns =>
        rw [at?_cons_of_not_isObj hloser] at hat
        cases hat
  rw [merge_eq_winner h, or_iff_left hkept]

/-- Two objects hold under a name what the merge of what the two of them hold there says. -/
lemma hasLeaf_mergeFields_cons_iff (hps : ps.keys.Nodup)
    (ih : ∀ b p, bs.get? n = some b → ps.get? n = some p →
      ((b.merge side p).HasLeaf path leaf ↔ (side.winner b p).HasLeaf path leaf ∨
        (side.loser b p).HasLeaf path leaf ∧ (side.winner b p).HasRoom path)) :
    (obj (mergeFields side bs ps)).HasLeaf (n :: path) leaf ↔
      (side.winner (obj bs) (obj ps)).HasLeaf (n :: path) leaf ∨
        (side.loser (obj bs) (obj ps)).HasLeaf (n :: path) leaf ∧
          (side.winner (obj bs) (obj ps)).HasRoom (n :: path) := by
  have hmerged : Entries.get? (mergeFields side bs ps) n = _ := get?_mergeFields hps n
  -- where both objects hold a value, its leaves are those of the merge of the two values
  cases hb : bs.get? n with
  | none =>
    cases hp : ps.get? n with
    | none =>
      rw [hb, hp] at hmerged
      cases side <;> simp [Side.winner, Side.loser, hasLeaf_obj_cons_iff, hmerged, hb, hp]
    | some p =>
      rw [hb, hp] at hmerged
      cases side <;>
        simp [Side.winner, Side.loser, hasLeaf_obj_cons_iff, hmerged, hb, hp,
          hasRoom_of_get?_eq_none hb]
  | some b =>
    cases hp : ps.get? n with
    | none =>
      rw [hb, hp] at hmerged
      cases side <;>
        simp [Side.winner, Side.loser, hasLeaf_obj_cons_iff, hmerged, hb, hp,
          hasRoom_of_get?_eq_none hp]
    | some p =>
      rw [hb, hp] at hmerged
      have hvalues := ih b p hb hp
      cases side with
      | base =>
        simpa [Side.winner, Side.loser, hasLeaf_obj_cons_iff, hmerged, hb, hp,
          hasRoom_cons_iff_of_get? hb] using hvalues
      | patch =>
        simpa [Side.winner, Side.loser, hasLeaf_obj_cons_iff, hmerged, hb, hp,
          hasRoom_cons_iff_of_get? hp] using hvalues

/--
The leaves of a merged value are all the leaves of the side that wins, and those of the other side
for which the winning side has room. A leaf that both sides have alike counts as the winner's.
-/
theorem hasLeaf_merge_iff (side : Side) (base : Value) (patch : ReadValue) (path : List String)
    (leaf : Value) :
    (base.merge side patch).HasLeaf path leaf ↔
      (side.winner base patch).HasLeaf path leaf ∨
        (side.loser base patch).HasLeaf path leaf ∧ (side.winner base patch).HasRoom path := by
  obtain ⟨patch, hpatch⟩ := patch
  induction path generalizing base patch with
  | nil =>
    simp only [not_hasRoom_nil, and_false, or_false]
    by_cases hobjects : base.isObj = true ∧ patch.isObj = true
    · obtain ⟨bs, rfl⟩ := isObj_iff.mp hobjects.1
      obtain ⟨ps, rfl⟩ := isObj_iff.mp hobjects.2
      -- an object is no leaf itself
      have hmerged : ¬ ((obj bs).merge side (obj ps)).HasLeaf [] leaf := not_hasLeaf_nil_obj
      have hwinner : ¬ (side.winner (obj bs) (obj ps)).HasLeaf [] leaf := by
        cases side <;> exact not_hasLeaf_nil_obj
      exact iff_of_false hmerged hwinner
    · rw [merge_eq_winner (by simpa [imp_iff_not_or] using hobjects)]
  | cons n ns ih =>
    by_cases hobjects : base.isObj = true ∧ patch.isObj = true
    · obtain ⟨bs, rfl⟩ := isObj_iff.mp hobjects.1
      obtain ⟨ps, rfl⟩ := isObj_iff.mp hobjects.2
      exact hasLeaf_mergeFields_cons_iff hpatch.nodup_keys fun b p _ hp =>
        ih b p (hpatch.of_get? hp)
    · exact hasLeaf_merge_iff_of_not_isObj (by simpa [imp_iff_not_or] using hobjects)

/-- The icon of a nested object is kept, but a text that meets an object gives way to it. -/
theorem hasLeaf_merge_iff_icon :
    let base := obj [("props", obj [("icon", str "eye"), ("size", int 1)]), ("tag", str "new")]
    let patch := obj [("props", obj [("size", int 2)]), ("tag", obj [])]
    patch.WellFormed ∧ (base.merge .patch patch).HasLeaf ["props", "icon"] (str "eye") ∧
      ¬ (base.merge .patch patch).HasLeaf ["tag"] (str "new") := by
  intro base patch
  have hpatch : patch.WellFormed := by
    simp [patch, WellFormed, WellFormedFields]
  have hiff := hasLeaf_merge_iff .patch base ⟨patch, hpatch⟩
  refine ⟨hpatch, (hiff _ _).mpr (.inr ⟨⟨rfl, rfl⟩, ?_⟩), fun htag => ?_⟩
  · have hprops : Entries.get? [("props", obj [("size", int 2)]), ("tag", obj [])] "props"
        = some (obj [("size", int 2)]) := rfl
    exact (hasRoom_cons_iff_of_get? hprops).mpr (hasRoom_of_get?_eq_none rfl [])
  · rcases (hiff _ _).mp htag with ⟨hat, -⟩ | ⟨-, hat, -⟩
    · cases hat
    · cases hat

end Value

end ViewAssembly
