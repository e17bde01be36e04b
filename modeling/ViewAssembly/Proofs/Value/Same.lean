import ViewAssembly.Proofs.Value.Proper

/-!
# Values that denote the same

To denote the same is an equivalence on proper values (`samePart_symm`, `samePart_trans`); only what
is not a number does not denote the same as itself, unless as a part of something. Merging a patch
into a value that denotes the same gives a value that denotes the same again (`samePart_merge`).
-/

namespace ViewAssembly

namespace Binary64

variable {x y : Binary64}

/-- A number as a whole number, if it is one. -/
def reduced (x : Binary64) : Int ⊕ Binary64 :=
  match x.toInt? with
  | some n => .inl n
  | none   => .inr x

lemma reduced_of_equal (h : x.equal y = true) : x.reduced = y.reduced := by
  have htoInt := toInt?_of_equal h
  rw [reduced, reduced, ← htoInt]
  cases hx : x.toInt? with
  | some n => rfl
  | none =>
    cases x with
    | finite s m e => cases y with
      | finite t n f =>
        rw [equal] at h
        by_cases hm : m = 0
        · rw [hm, toInt?_zero] at hx
          cases hx
        · rw [if_neg hm] at h
          obtain ⟨⟨rfl, rfl⟩, rfl⟩ : (s = t ∧ m = n) ∧ e = f := by simpa using h
          rfl
      | infinite t => cases h
      | notANumber => cases h
    | infinite s => cases y with
      | infinite t =>
        obtain rfl : s = t := by simpa [equal] using h
        rfl
      | finite t n f => cases h
      | notANumber => cases h
    | notANumber => cases h

lemma eq_of_reduced_eq_inr (h : x.reduced = .inr y) : x = y := by
  rw [reduced] at h
  cases hx : x.toInt? with
  | some n => rw [hx] at h; cases h
  | none => rw [hx] at h; cases h; rfl

lemma equal_of_reduced (hx : x.Canonical) (hy : y.Canonical) (hne : x ≠ .notANumber)
    (h : x.reduced = y.reduced) : x.equal y = true := by
  rw [reduced, reduced] at h
  cases hxn : x.toInt? with
  | some n => cases hyn : y.toInt? with
    | some k =>
      rw [hxn, hyn] at h
      cases h
      exact equal_of_toInt? hx hy hxn hyn
    | none =>
      rw [hxn, hyn] at h
      cases h
  | none => cases hyn : y.toInt? with
    | some k =>
      rw [hxn, hyn] at h
      cases h
    | none =>
      rw [hxn, hyn] at h
      cases h
      exact equal_self hne

end Binary64

namespace Value

variable {u v w : Value} {vs ws : List Value} {es fs : Entries Value} {n : String}
  {a : Int ⊕ Binary64}

/-! ### Numbers -/

/-- The number that a value denotes; truth values count as zero and one. -/
def numberOf? : Value → Option (Int ⊕ Binary64)
  | bool b  => some (.inl (if b then 1 else 0))
  | int n   => some (.inl n)
  | float x => some x.reduced
  | _       => none

lemma samePart_float_iff {x y : Binary64} (hx : x.Canonical) (hy : y.Canonical) :
    (float x).samePart (float y) = true ↔ y.reduced = x.reduced := by
  -- what is not a number does not even equal itself, but as a part it denotes the same as itself
  by_cases hne : x = .notANumber
  · subst hne
    constructor
    · intro h
      cases y with
      | notANumber => rfl
      | infinite s => exact Bool.noConfusion h
      | finite s m e => exact Bool.noConfusion h
    · intro h
      obtain rfl := Binary64.eq_of_reduced_eq_inr h
      rfl
  · have hequal : (float x).samePart (float y) = x.equal y := by
      cases x with
      | notANumber => contradiction
      | infinite s => rfl
      | finite s m e => rfl
    rw [hequal]
    exact ⟨fun h => (Binary64.reduced_of_equal h).symm,
      fun h => Binary64.equal_of_reduced hx hy hne h.symm⟩

lemma samePart_int_float_iff {k : Int} {x : Binary64} :
    (int k).samePart (float x) = true ↔ x.reduced = .inl k := by
  change (x.toInt? == some k) = true ↔ _
  rw [beq_iff_eq, Binary64.reduced]
  cases x.toInt? <;> simp

lemma samePart_float_int_iff {k : Int} {x : Binary64} :
    (float x).samePart (int k) = true ↔ x.reduced = .inl k := by
  rw [← samePart_int_float_iff]
  cases x <;> rfl

/-- A truth value is what it counts as. -/
lemma samePart_bool (b : Bool) (w : Value) :
    (bool b).samePart w = (int (if b then 1 else 0)).samePart w := by
  cases w <;> rfl

lemma samePart_int_iff {k : Int} : (int k).samePart w = true ↔ w.numberOf? = some (.inl k) := by
  cases w with
  | bool b =>
    change (k == if b then 1 else 0) = true ↔ _
    rw [beq_iff_eq, numberOf?, Option.some.injEq, Sum.inl.injEq, eq_comm]
  | int m =>
    change (k == m) = true ↔ _
    rw [beq_iff_eq, numberOf?, Option.some.injEq, Sum.inl.injEq, eq_comm]
  | float x => rw [samePart_int_float_iff, numberOf?, Option.some.injEq]
  | null | str s | arr vs | obj fs | shown form => exact iff_of_false Bool.noConfusion nofun

/-- A number denotes the same as another value exactly if that denotes this number. -/
lemma samePart_iff_numberOf? (hv : v.Canonical) (hw : w.Canonical) (ha : v.numberOf? = some a) :
    v.samePart w = true ↔ w.numberOf? = some a := by
  cases v with
  | bool b =>
    obtain rfl := Option.some.inj ha
    rw [samePart_bool, samePart_int_iff]
  | int k =>
    obtain rfl := Option.some.inj ha
    rw [samePart_int_iff]
  | float x =>
    obtain rfl := Option.some.inj ha
    cases w with
    | bool b =>
      have hbool : (float x).samePart (bool b) = (float x).samePart (int (if b then 1 else 0)) := by
        cases x <;> rfl
      rw [hbool, samePart_float_int_iff, numberOf?, Option.some.injEq, eq_comm]
    | int k => rw [samePart_float_int_iff, numberOf?, Option.some.injEq, eq_comm]
    | float y => rw [samePart_float_iff hv hw, numberOf?, Option.some.injEq]
    | null | str s | arr vs | obj fs | shown form =>
      refine iff_of_false ?_ nofun
      cases x <;> exact Bool.noConfusion
  | null | str s | arr vs | obj fs | shown form => cases ha

/-! ### Values of one form -/

lemma eq_null_of_samePart (h : null.samePart w = true) : w = null := by
  cases w with
  | null => rfl
  | _ => exact Bool.noConfusion h

lemma exists_of_samePart_arr (h : (arr vs).samePart w = true) :
    ∃ ws, w = arr ws ∧ sameElems vs ws = true := by
  cases w with
  | arr ws => exact ⟨ws, rfl, h⟩
  | _ => exact Bool.noConfusion h

lemma samePart_obj_iff :
    (obj es).samePart (obj fs) = true ↔ es.length = fs.length ∧ sameFields es fs = true := by
  change (es.length == fs.length && sameFields es fs) = true ↔ _
  rw [Bool.and_eq_true, beq_iff_eq]

lemma exists_of_samePart_obj (h : (obj es).samePart w = true) :
    ∃ fs, w = obj fs ∧ es.length = fs.length ∧ sameFields es fs = true := by
  cases w with
  | obj fs => exact ⟨fs, rfl, samePart_obj_iff.mp h⟩
  | _ => exact Bool.noConfusion h

lemma exists_of_samePart_shown (h : (shown v).samePart w = true) :
    ∃ form, w = shown form ∧ v.same form = true := by
  cases w with
  | shown form => exact ⟨form, rfl, h⟩
  | _ => exact Bool.noConfusion h

lemma sameElems_iff :
    sameElems vs ws = true ↔ vs.length = ws.length ∧
      ∀ (i : Nat) v w, vs[i]? = some v → ws[i]? = some w → v.samePart w = true := by
  induction vs generalizing ws with
  | nil => cases ws <;> simp [sameElems]
  | cons x vs ih => cases ws with
    | nil => simp [sameElems]
    | cons y ws =>
      change (x.samePart y && sameElems vs ws) = true ↔ _
      rw [Bool.and_eq_true, ih]
      constructor
      · rintro ⟨hxy, hlength, h⟩
        refine ⟨congrArg (· + 1) hlength, fun i v w hv hw => ?_⟩
        cases i with
        | zero => cases hv; cases hw; exact hxy
        | succ i => exact h i v w hv hw
      · rintro ⟨hlength, h⟩
        exact ⟨h 0 x y rfl rfl, Nat.succ.inj hlength, fun i v w hv hw => h (i + 1) v w hv hw⟩

lemma sameFields_iff :
    sameFields es fs = true ↔ ∀ e ∈ es, ∃ w, fs.get? e.1 = some w ∧ e.2.samePart w = true := by
  induction es with
  | nil => simp [sameFields]
  | cons e es ih =>
    obtain ⟨n, v⟩ := e
    rw [sameFields, Bool.and_eq_true, ih, List.forall_mem_cons]
    refine and_congr_left fun _ => ?_
    cases fs.get? n with
    | none => simp
    | some w => simp [samePart]

/-- Two objects that denote the same have the same names. -/
lemma keys_subset_of_sameFields (hes : es.keys.Nodup) (hlength : es.length = fs.length)
    (h : sameFields es fs = true) : fs.keys ⊆ es.keys := by
  have hsubset : es.keys ⊆ fs.keys := by
    intro n hn
    obtain ⟨v, hv⟩ := Option.isSome_iff_exists.mp (Entries.isSome_get?_iff.mpr hn)
    obtain ⟨w, hw, -⟩ := get?_of_sameFields h hv
    exact Entries.isSome_get?_iff.mp (by rw [hw]; rfl)
  -- as many distinct names of one object as the other one has are all of its names
  have hperm : es.keys.Perm fs.keys :=
    (List.subperm_of_subset hes hsubset).perm_of_length_le (by simp [Entries.keys, hlength])
  exact hperm.symm.subset

/-! ### An equivalence -/

theorem samePart_symm {v w : Value} (hv : v.Proper) (hw : w.Proper)
    (h : v.samePart w = true) : w.samePart v = true := by
  match v with
  | null =>
    obtain rfl := eq_null_of_samePart h
    rfl
  | str s =>
    obtain rfl := eq_str_of_samePart h
    exact h
  -- int _|numbers of all kinds are told apart by what they denote, not kind by kind
  | bool _ | int _ | float _ =>
    have hnumber := (samePart_iff_numberOf? hv.canonical hw.canonical rfl).mp h
    exact (samePart_iff_numberOf? hw.canonical hv.canonical hnumber).mpr rfl
  | arr vs =>
    obtain ⟨ws, rfl, hsame⟩ := exists_of_samePart_arr h
    obtain ⟨hlength, hsame⟩ := sameElems_iff.mp hsame
    refine sameElems_iff.mpr ⟨hlength.symm, fun i y x hy hx => ?_⟩
    have hmem := List.mem_of_getElem? hx
    exact samePart_symm (proper_arr_iff.mp hv x hmem)
      (proper_arr_iff.mp hw y (List.mem_of_getElem? hy)) (hsame i x y hx hy)
  | obj es =>
    obtain ⟨fs, rfl, hlength, hsame⟩ := exists_of_samePart_obj h
    refine samePart_obj_iff.mpr ⟨hlength.symm, sameFields_iff.mpr fun e he => ?_⟩
    -- `sameFields` goes through the entries of the first object, so those of the other need a
    -- reason
    have hkeys := keys_subset_of_sameFields hv.nodup_keys hlength hsame
    obtain ⟨x, hx⟩ := Option.isSome_iff_exists.mp
      (Entries.isSome_get?_iff.mpr (hkeys (List.mem_map_of_mem he)))
    obtain ⟨y, hy, hxy⟩ := get?_of_sameFields hsame hx
    obtain rfl : y = e.2 :=
      Option.some.inj (hy.symm.trans (Entries.get?_of_mem hw.nodup_keys he))
    exact ⟨x, hx, samePart_symm (hv.of_get? hx) (hw.of_get? hy) hxy⟩
  | shown (.str s) =>
    obtain ⟨form, rfl, hsame⟩ := exists_of_samePart_shown h
    obtain rfl := eq_str_of_samePart hsame
    exact h
termination_by sizeOf v
decreasing_by
  · exact List.sizeOf_lt_of_mem hmem |>.trans (by simp)
  · exact sizeOf_lt_of_get? hx

theorem samePart_trans {u v w : Value} (hu : u.Proper) (hv : v.Proper) (hw : w.Proper)
    (huv : u.samePart v = true) (hvw : v.samePart w = true) : u.samePart w = true := by
  match u with
  | null =>
    obtain rfl := eq_null_of_samePart huv
    exact hvw
  | str s =>
    obtain rfl := eq_str_of_samePart huv
    exact hvw
  | bool _ | int _ | float _ =>
    have hnumber := (samePart_iff_numberOf? hu.canonical hv.canonical rfl).mp huv
    refine (samePart_iff_numberOf? hu.canonical hw.canonical rfl).mpr ?_
    exact (samePart_iff_numberOf? hv.canonical hw.canonical hnumber).mp hvw
  | arr us =>
    obtain ⟨vs, rfl, huv⟩ := exists_of_samePart_arr huv
    obtain ⟨ws, rfl, hvw⟩ := exists_of_samePart_arr hvw
    obtain ⟨hlength, huv⟩ := sameElems_iff.mp huv
    obtain ⟨hlength', hvw⟩ := sameElems_iff.mp hvw
    refine sameElems_iff.mpr ⟨hlength.trans hlength', fun i x z hx hz => ?_⟩
    have hmem := List.mem_of_getElem? hx
    have hi : i < vs.length := hlength ▸ (List.getElem?_eq_some_iff.mp hx).1
    have hy := List.getElem?_eq_getElem hi
    exact samePart_trans (proper_arr_iff.mp hu x hmem) (proper_arr_iff.mp hv _ (List.getElem_mem hi))
      (proper_arr_iff.mp hw z (List.mem_of_getElem? hz)) (huv i x _ hx hy) (hvw i _ z hy hz)
  | obj es =>
    obtain ⟨fs, rfl, hlength, huv⟩ := exists_of_samePart_obj huv
    obtain ⟨gs, rfl, hlength', hvw⟩ := exists_of_samePart_obj hvw
    refine samePart_obj_iff.mpr ⟨hlength.trans hlength', sameFields_iff.mpr fun e he => ?_⟩
    have hx := Entries.get?_of_mem hu.nodup_keys he
    obtain ⟨y, hy, hxy⟩ := get?_of_sameFields huv hx
    obtain ⟨z, hz, hyz⟩ := get?_of_sameFields hvw hy
    exact ⟨z, hz, samePart_trans (hu.of_get? hx) (hv.of_get? hy) (hw.of_get? hz) hxy hyz⟩
  | shown (.str s) =>
    obtain ⟨form, rfl, hsame⟩ := exists_of_samePart_shown huv
    obtain rfl := eq_str_of_samePart hsame
    exact hvw
termination_by sizeOf u
decreasing_by
  · exact List.sizeOf_lt_of_mem hmem |>.trans (by simp)
  · exact sizeOf_lt_of_get? hx

/-- Only what is not a number denotes, as a part, the same as what is not a number. -/
lemma eq_nan_of_samePart (h : v.samePart (float .notANumber) = true) : v = float .notANumber := by
  cases v with
  | float x => cases x with
    | notANumber => rfl
    | infinite s => exact Bool.noConfusion h
    | finite s m e => exact Bool.noConfusion h
  | _ => exact Bool.noConfusion h

/-- On its own, what is not a number denotes the same as nothing. -/
lemma same_iff_samePart :
    v.same w = true ↔ v.samePart w = true ∧ v ≠ float .notANumber := by
  by_cases hv : v = float .notANumber
  · subst hv
    refine iff_of_false ?_ fun h => h.2 rfl
    cases w <;> exact Bool.noConfusion
  · have heq : v.samePart w = v.same w := by
      cases v with
      | float x => cases x with
        | notANumber => contradiction
        | infinite s => rfl
        | finite s m e => rfl
      | _ => rfl
    rw [heq]
    exact (and_iff_left hv).symm

lemma same_symm (hv : v.Proper) (hw : w.Proper) (h : v.same w = true) : w.same v = true := by
  obtain ⟨hpart, hne⟩ := same_iff_samePart.mp h
  refine same_iff_samePart.mpr ⟨samePart_symm hv hw hpart, ?_⟩
  rintro rfl
  exact hne (eq_nan_of_samePart hpart)

/-- Values that denote the same as parts denote the same as the same values. -/
lemma same_congr (hu : u.Proper) (hv : v.Proper) (hw : w.Proper) (huv : u.samePart v = true) :
    u.same w = v.same w := by
  have hvu := samePart_symm hu hv huv
  have hnan : u = float .notANumber ↔ v = float .notANumber := by
    constructor
    · rintro rfl
      exact eq_nan_of_samePart hvu
    · rintro rfl
      exact eq_nan_of_samePart huv
  rw [Bool.eq_iff_iff, same_iff_samePart, same_iff_samePart, Ne, Ne, hnan]
  exact and_congr_left fun _ =>
    ⟨samePart_trans hv hu hw hvu, samePart_trans hu hv hw huv⟩

/-! ### Merging what denotes the same -/

/-- A value into which one that denotes the same is merged denotes the same as before. -/
theorem samePart_merge {v w : Value} (hv : v.Proper) (hw : w.Proper)
    (h : v.samePart w = true) : (v.merge .patch w).samePart w = true := by
  by_cases hobj : w.isObj = true
  case neg =>
    rw [merge_not_isObj v (by simpa using hobj)]
    exact samePart_self hw.wellFormed
  obtain ⟨ps, hps⟩ := isObj_iff.mp hobj
  have hw' : (obj ps).Proper := hps ▸ hw
  rw [hps] at h ⊢
  obtain ⟨bs, rfl, -⟩ := exists_of_samePart_obj (samePart_symm hv hw' h)
  obtain ⟨hlength, hsame⟩ := samePart_obj_iff.mp h
  have hkeys : Entries.keys (mergeFields .patch bs ps) = Entries.keys bs :=
    keys_mergeFields_of_subset (keys_subset_of_sameFields hv.nodup_keys hlength hsame)
  have hmerged : (mergeFields .patch bs ps).length = ps.length := by
    simpa [Entries.keys, hlength] using congrArg List.length hkeys
  refine samePart_obj_iff.mpr ⟨hmerged, sameFields_iff.mpr fun e he => ?_⟩
  have hmem : e.1 ∈ Entries.keys bs := hkeys ▸ List.mem_map_of_mem he
  obtain ⟨b, hb⟩ := Option.isSome_iff_exists.mp (Entries.isSome_get?_iff.mpr hmem)
  obtain ⟨p, hp, hbp⟩ := get?_of_sameFields hsame hb
  have hget := Entries.get?_of_mem (nodup_keys_mergeFields hv.nodup_keys) he
  rw [get?_mergeFields hw'.nodup_keys, hb, hp] at hget
  exact ⟨p, hp, Option.some.inj hget ▸ samePart_merge (hv.of_get? hb) (hw'.of_get? hp) hbp⟩
termination_by sizeOf w
decreasing_by exact hps ▸ sizeOf_lt_of_get? hp

end Value

end ViewAssembly
