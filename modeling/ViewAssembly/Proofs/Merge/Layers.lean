import ViewAssembly.Proofs.Merge
import ViewAssembly.Proofs.Value.Names

/-!
# Three layers

A value with two patches on top of it. The patches can be merged into the value one after the
other, or into each other first. The order of the entries is the same either way, and so are the
values, except where the lower patch holds something else than an object: if it is merged first, it
puts aside what the value holds there, and otherwise that comes back as soon as the upper patch
holds an object (`merge_merge_iff`).
-/

namespace ViewAssembly.Value

variable {w : Side} {bs rs cs : Entries Value} {v base lower upper : Value}

/-! ### Merging well-formed values -/

lemma WellFormed.put (h : (obj bs).WellFormed) (n : String) (hv : v.WellFormed) :
    (obj (bs.put n v)).WellFormed := by
  refine wellFormed_obj_iff.mpr ⟨Entries.nodup_keys_put h.nodup_keys, fun e he => ?_⟩
  rcases Entries.eq_or_mem_of_mem_put he with rfl | hmem
  · exact hv
  · exact h.of_mem hmem

mutual

theorem WellFormed.merge {base patch : Value} (w : Side) (hbase : base.WellFormed)
    (hpatch : patch.WellFormed) : (base.merge w patch).WellFormed := by
  match patch with
  | obj ps =>
    cases base with
    | obj bs => exact WellFormed.mergeFields w hbase hpatch
    | _ => cases w <;> assumption
  | arr _ | null | bool _ | int _ | float _ | str _ | shown _ => cases w <;> assumption

theorem WellFormed.mergeFields {bs ps : Entries Value} (w : Side) (hbs : (obj bs).WellFormed)
    (hps : (obj ps).WellFormed) : (obj (Value.mergeFields w bs ps)).WellFormed := by
  match ps with
  | [] => exact hbs
  | (k, p) :: ps =>
    obtain ⟨hkeys, hall⟩ := wellFormed_obj_iff.mp hps
    obtain ⟨hp, hrest⟩ := List.forall_mem_cons.mp hall
    rw [mergeFields_cons]
    refine WellFormed.mergeFields w (hbs.put k ?_)
      (wellFormed_obj_iff.mpr ⟨(List.nodup_cons.mp hkeys).2, hrest⟩)
    cases hb : bs.get? k with
    | none => exact hp
    | some b => exact WellFormed.merge w (hbs.of_get? hb) hp

end

/-! ### What stands at a path -/

/-- What stands in a value at the end of a path of names. -/
def at? (v : Value) : List String → Option Value
  | []      => some v
  | n :: ns => (v.get? n).bind (·.at? ns)

lemma at?_cons_of_not_isObj (h : v.isObj = false) (n : String) (ns : List String) :
    v.at? (n :: ns) = none := by
  rw [at?, get?_of_not_isObj h]
  rfl

lemma at?_cons_eq_some_iff {n : String} {ns : List String} :
    base.at? (n :: ns) = some v ↔ ∃ x, base.get? n = some x ∧ x.at? ns = some v :=
  Option.bind_eq_some_iff

lemma isObj_of_get? {n : String} (h : base.get? n = some v) : base.isObj = true := by
  cases base <;> first | rfl | cases h

/-- Where two values hold something at the same path, the merged one holds what that merges to. -/
lemma at?_merge {base patch b p : Value} (hpatch : patch.WellFormed) {path : List String}
    (hb : base.at? path = some b) (hp : patch.at? path = some p) :
    (base.merge w patch).at? path = some (b.merge w p) := by
  induction path generalizing base patch with
  | nil =>
    cases hb
    cases hp
    rfl
  | cons n ns ih =>
    obtain ⟨x, hx, hxs⟩ := at?_cons_eq_some_iff.mp hb
    obtain ⟨y, hy, hys⟩ := at?_cons_eq_some_iff.mp hp
    obtain ⟨bs, rfl⟩ := isObj_iff.mp (isObj_of_get? hx)
    obtain ⟨ps, rfl⟩ := isObj_iff.mp (isObj_of_get? hy)
    refine at?_cons_eq_some_iff.mpr ⟨x.merge w y, ?_, ih (hpatch.of_get? hy) hxs hys⟩
    change Entries.get? (mergeFields w bs ps) n = _
    change Entries.get? bs n = _ at hx
    change Entries.get? ps n = _ at hy
    rw [get?_mergeFields hpatch.nodup_keys, hx, hy]

/-! ### The names of three layers -/

lemma keys_mergeFields_mergeFields (hr : rs.keys.Nodup) :
    Entries.keys (mergeFields w bs (mergeFields w rs cs))
      = Entries.keys (mergeFields w (mergeFields w bs rs) cs) := by
  have hrc : (Entries.keys (mergeFields w rs cs)).Nodup := nodup_keys_mergeFields hr
  rw [keys_mergeFields w bs, eraseDups_eq_self hrc, keys_mergeFields w rs, List.filter_append,
    keys_mergeFields w (mergeFields w bs rs), keys_mergeFields w bs, eraseDups_eq_self hr,
    List.append_assoc, List.filter_filter]
  congr 2
  refine List.filter_congr fun n _ => ?_
  by_cases hn : n ∈ bs.keys <;> simp [hn]

/-! ### The values of three layers -/

/-- What stands under a name that one of the layers lacks does not depend on what is merged first. -/
lemma mergeFields_mergeFields_iff (hb : bs.keys.Nodup) (hr : rs.keys.Nodup) (hc : cs.keys.Nodup) :
    mergeFields w bs (mergeFields w rs cs) = mergeFields w (mergeFields w bs rs) cs ↔
      ∀ n b r c, bs.get? n = some b → rs.get? n = some r → cs.get? n = some c →
        b.merge w (r.merge w c) = (b.merge w r).merge w c := by
  have hrc : (Entries.keys (mergeFields w rs cs)).Nodup := nodup_keys_mergeFields hr
  have hget (n : String) :
      Entries.get? (mergeFields w bs (mergeFields w rs cs)) n
          = Entries.get? (mergeFields w (mergeFields w bs rs) cs) n ↔
        ∀ b r c, bs.get? n = some b → rs.get? n = some r → cs.get? n = some c →
          b.merge w (r.merge w c) = (b.merge w r).merge w c := by
    rw [get?_mergeFields hrc, get?_mergeFields hc, get?_mergeFields hc, get?_mergeFields hr]
    cases bs.get? n <;> cases rs.get? n <;> cases cs.get? n <;> simp
  constructor
  · intro heq n
    exact (hget n).mp (congrArg (Entries.get? · n) heq)
  · intro h
    exact Entries.ext_of_nodup (nodup_keys_mergeFields hb) (keys_mergeFields_mergeFields hr)
      fun n => (hget n).mpr (h n)

lemma merge_of_not_isObj (h : v.isObj = false) (upper : Value) :
    v.merge .patch upper = upper := by
  cases upper <;> cases v <;> first | rfl | cases h

lemma merge_not_isObj (base : Value) (h : v.isObj = false) : base.merge .patch v = v := by
  cases v <;> first | rfl | cases h

/-- Does an upper patch leave nothing of a value wherever a lower one holds no object? -/
def Covers (base lower upper : Value) : Prop :=
  ∀ path b r c, base.at? path = some b → lower.at? path = some r → upper.at? path = some c →
    r.isObj = false → b.merge .patch c = c

lemma covers_of_not_isObj_lower (h : lower.isObj = false) :
    Covers base lower upper ↔ base.merge .patch upper = upper := by
  constructor
  · exact fun hcovers => hcovers [] base lower upper rfl rfl rfl h
  · rintro heq (_ | ⟨n, ns⟩) b r c hbase hr hupper -
    · cases hbase
      cases hupper
      exact heq
    · rw [at?_cons_of_not_isObj h] at hr
      cases hr

lemma covers_of_not_isObj_or (hlower : lower.isObj = true)
    (h : base.isObj = false ∨ upper.isObj = false) : Covers base lower upper := by
  rintro (_ | ⟨n, ns⟩) b r c hbase hr hupper hobj
  · cases hr
    cases hlower.symm.trans hobj
  · rcases h with h | h
    · rw [at?_cons_of_not_isObj h] at hbase
      cases hbase
    · rw [at?_cons_of_not_isObj h] at hupper
      cases hupper

lemma covers_obj_iff :
    Covers (obj bs) (obj rs) (obj cs) ↔
      ∀ n b r c, bs.get? n = some b → rs.get? n = some r → cs.get? n = some c → Covers b r c := by
  constructor
  · intro h n x y z hx hy hz ns b r c hbase hr hupper
    exact h (n :: ns) b r c (at?_cons_eq_some_iff.mpr ⟨x, hx, hbase⟩)
      (at?_cons_eq_some_iff.mpr ⟨y, hy, hr⟩) (at?_cons_eq_some_iff.mpr ⟨z, hz, hupper⟩)
  · rintro h (_ | ⟨n, ns⟩) b r c hbase hr hupper hobj
    · cases hr
      cases hobj
    · obtain ⟨x, hx, hbase⟩ := at?_cons_eq_some_iff.mp hbase
      obtain ⟨y, hy, hr⟩ := at?_cons_eq_some_iff.mp hr
      obtain ⟨z, hz, hupper⟩ := at?_cons_eq_some_iff.mp hupper
      exact h n x y z hx hy hz ns b r c hbase hr hupper hobj

/--
Merging two patches into a value one after the other gives what merging them into each other first
gives, exactly if the upper one leaves nothing of the value wherever the lower one holds something
else than an object.
-/
theorem merge_merge_iff {base lower upper : Value} (hb : base.WellFormed) (hl : lower.WellFormed)
    (hu : upper.WellFormed) :
    base.merge .patch (lower.merge .patch upper) = (base.merge .patch lower).merge .patch upper ↔
      Covers base lower upper := by
  by_cases hlower : lower.isObj = true
  case neg =>
    have hlower : lower.isObj = false := by simpa using hlower
    rw [merge_of_not_isObj hlower, merge_not_isObj base hlower, merge_of_not_isObj hlower,
      covers_of_not_isObj_lower hlower]
  by_cases hupper : upper.isObj = true
  case neg =>
    have hupper : upper.isObj = false := by simpa using hupper
    exact iff_of_true (by simp only [merge_not_isObj _ hupper])
      (covers_of_not_isObj_or hlower (.inr hupper))
  by_cases hbase : base.isObj = true
  case neg =>
    have hbase : base.isObj = false := by simpa using hbase
    exact iff_of_true (by simp only [merge_of_not_isObj hbase])
      (covers_of_not_isObj_or hlower (.inl hbase))
  obtain ⟨bs, rfl⟩ := isObj_iff.mp hbase
  obtain ⟨rs, hrs⟩ := isObj_iff.mp hlower
  obtain ⟨cs, rfl⟩ := isObj_iff.mp hupper
  -- what all three hold under a name is smaller, and merged in the same two ways
  have hentries (n : String) (b r c : Value) (hbn : Entries.get? bs n = some b)
      (hrn : Entries.get? rs n = some r) (hcn : Entries.get? cs n = some c) :
      b.merge .patch (r.merge .patch c) = (b.merge .patch r).merge .patch c ↔ Covers b r c :=
    merge_merge_iff (hb.of_get? hbn) ((hrs ▸ hl).of_get? hrn) (hu.of_get? hcn)
  subst hrs
  change obj (mergeFields .patch bs (mergeFields .patch rs cs))
    = obj (mergeFields .patch (mergeFields .patch bs rs) cs) ↔ _
  rw [obj.injEq, mergeFields_mergeFields_iff hb.nodup_keys hl.nodup_keys hu.nodup_keys,
    covers_obj_iff]
  constructor
  · intro h n b r c hbn hrn hcn
    exact (hentries n b r c hbn hrn hcn).mp (h n b r c hbn hrn hcn)
  · intro h n b r c hbn hrn hcn
    exact (hentries n b r c hbn hrn hcn).mpr (h n b r c hbn hrn hcn)
termination_by sizeOf lower
decreasing_by exact hrs ▸ sizeOf_lt_of_get? hrn

end ViewAssembly.Value
