import ViewAssembly.Override
import ViewAssembly.Proofs.Value.Same

/-!
# Bringing in objects by their keys

Objects that have a key are brought into a list key by key. All objects of one key are merged, in
their order, into the first element that has that key; if there is none, the first of them is added
at the end and the others are merged into it. Everything else in the list stays as it is, and where
it is (`upsert_by_keys`).
-/

namespace ViewAssembly.Override

open Value

/-- Is an object identified by a key? -/
def Keyed (o : Entries Value) : Prop := (Value.given? (.obj o) "key").isSome

def hasKeyOf (o : Entries Value) (e : Value) : Bool :=
  match o.get? "key" with
  | some k => hasSame "key" k e
  | none   => false

def sameKey (o p : Entries Value) : Bool := hasKeyOf o (.obj p)

/-- An element with objects merged into it, one after the other. -/
def mergedWith (e : Value) (os : List (Entries Value)) : Value :=
  os.foldl (fun v o => v.merge .patch (.obj o)) e

/-- The objects whose key none before them has. -/
def leaders : List (Entries Value) → List (Entries Value)
  | []      => []
  | o :: os => o :: (leaders os).filter (!sameKey o ·)

def ShareKey (d e : Value) : Prop := ∃ k, d.get? "key" = some k ∧ hasSame "key" k e = true

variable {d e x k kd ke : Value} {es : List Value} {o p : Entries Value}
  {os ps : List (Entries Value)}

/-! ### Keys -/

lemma exists_key_of_keyed (h : Keyed o) :
    ∃ k, o.get? "key" = some k ∧ identity? o = some ("key", k) := by
  obtain ⟨k, hk⟩ := Option.isSome_iff_exists.mp h
  refine ⟨k, (Option.filter_eq_some_iff.mp hk).1, ?_⟩
  rw [identity?, List.findSome?_cons, hk]
  rfl

lemma hasSame_iff : hasSame "key" k e = true ↔ ∃ ke, e.get? "key" = some ke ∧ ke.same k = true := by
  rw [hasSame]
  cases e.get? "key" <;> simp

lemma hasKeyOf_iff :
    hasKeyOf o e = true ↔ ∃ k ke, o.get? "key" = some k ∧ e.get? "key" = some ke ∧
      ke.same k = true := by
  rw [hasKeyOf]
  cases o.get? "key" <;> simp [hasSame_iff]

lemma proper_of_get? (he : e.Proper) (hk : e.get? "key" = some k) : k.Proper := by
  obtain ⟨fs, rfl⟩ := isObj_iff.mp (isObj_of_get? hk)
  exact he.of_get? hk

/-- Is the key of two elements the same as the same keys? -/
def KeysAgree (d e : Value) : Prop :=
  ∀ k : Value, k.Proper → hasSame "key" k d = hasSame "key" k e

lemma KeysAgree.hasKeyOf_eq (h : KeysAgree d e) (ho : (obj o).Proper) :
    hasKeyOf o d = hasKeyOf o e := by
  rw [hasKeyOf, hasKeyOf]
  cases hk : o.get? "key" with
  | none => rfl
  | some k => exact h k (ho.of_get? hk)

lemma keysAgree_of_samePart (hd : d.get? "key" = some kd) (he : e.get? "key" = some ke)
    (hkd : kd.Proper) (hke : ke.Proper) (h : kd.samePart ke = true) : KeysAgree d e := by
  intro k hk
  rw [hasSame, hasSame, hd, he]
  exact same_congr hkd hke hk h

/-- An element and an object whose key it has are alike, as for their keys. -/
lemma keysAgree_of_hasKeyOf (ho : (obj o).Proper) (he : e.Proper) (h : hasKeyOf o e = true) :
    KeysAgree (.obj o) e := by
  obtain ⟨k, ke, hk, hke, hsame⟩ := hasKeyOf_iff.mp h
  have hpart := (same_iff_samePart.mp hsame).1
  exact keysAgree_of_samePart hk hke (ho.of_get? hk) (proper_of_get? he hke)
    (samePart_symm (proper_of_get? he hke) (ho.of_get? hk) hpart)

lemma sameKey_comm (ho : (obj o).Proper) (hp : (obj p).Proper) : sameKey o p = sameKey p o := by
  have hsymm {o p : Entries Value} (ho : (obj o).Proper) (hp : (obj p).Proper)
      (h : hasKeyOf o (.obj p) = true) : hasKeyOf p (.obj o) = true := by
    obtain ⟨k, kp, hk, hkp, hsame⟩ := hasKeyOf_iff.mp h
    exact hasKeyOf_iff.mpr ⟨kp, k, hkp, hk, same_symm (hp.of_get? hkp) (ho.of_get? hk) hsame⟩
  rw [Bool.eq_iff_iff]
  exact ⟨hsymm ho hp, hsymm hp ho⟩

/-- Merging an object into an element that has its key does not change the key. -/
lemma keysAgree_merge (he : e.Proper) (ho : (obj o).Proper) (h : hasKeyOf o e = true) :
    KeysAgree e (e.merge .patch (.obj o)) := by
  obtain ⟨k, ke, hk, hke, hsame⟩ := hasKeyOf_iff.mp h
  obtain ⟨bs, rfl⟩ := isObj_iff.mp (isObj_of_get? hke)
  have hbs : Entries.get? bs "key" = some ke := hke
  have hpk := ho.of_get? hk
  have hpke := he.of_get? hbs
  have hpart := (same_iff_samePart.mp hsame).1
  have hmerged : (Value.merge .patch (obj bs) (obj o)).get? "key" = some (ke.merge .patch k) := by
    change Entries.get? (mergeFields .patch bs o) "key" = _
    rw [get?_mergeFields ho.nodup_keys, hk, hbs]
  have hpm := hpke.merge .patch hpk
  refine keysAgree_of_samePart hke hmerged hpke hpm ?_
  exact samePart_trans hpke hpk hpm hpart (samePart_symm hpm hpk (samePart_merge hpke hpk hpart))

/-! ### One object -/

lemma upsertOne_nil (ho : Keyed o) : upsertOne [] o = [.obj o] := by
  obtain ⟨k, -, hid⟩ := exists_key_of_keyed ho
  rw [upsertOne, hid]
  rfl

lemma upsertOne_cons (ho : Keyed o) (e : Value) (es : List Value) :
    upsertOne (e :: es) o
      = if hasKeyOf o e then e.merge .patch (.obj o) :: es else e :: upsertOne es o := by
  obtain ⟨k, hk, hid⟩ := exists_key_of_keyed ho
  rw [upsertOne, upsertOne, hid, hasKeyOf, hk]
  rfl

/-! ### Several objects -/

/-- The objects that have the key of the first element are all merged into it. -/
lemma upsert_cons_eq (he : e.Proper) (hos : ∀ o ∈ os, Keyed o ∧ (obj o).Proper) (es : List Value) :
    upsert (e :: es) os
      = mergedWith e (os.filter (hasKeyOf · e)) :: upsert es (os.filter (!hasKeyOf · e)) := by
  induction os generalizing e es with
  | nil => rfl
  | cons o os ih =>
    obtain ⟨⟨hkeyed, ho⟩, hos⟩ := List.forall_mem_cons.mp hos
    have hstep : upsert (e :: es) (o :: os) = upsert (upsertOne (e :: es) o) os := rfl
    rw [hstep, upsertOne_cons hkeyed]
    by_cases h : hasKeyOf o e = true
    · have hhere : (o :: os).filter (hasKeyOf · e) = o :: os.filter (hasKeyOf · e) :=
        List.filter_cons_of_pos h
      have hothers : (o :: os).filter (!hasKeyOf · e) = os.filter (!hasKeyOf · e) :=
        List.filter_cons_of_neg (by simpa using h)
      -- merging keeps the key of the element, so the objects behind are told apart as before
      have hagree : ∀ p ∈ os, hasKeyOf p (e.merge .patch (.obj o)) = hasKeyOf p e :=
        fun p hp => ((keysAgree_merge he ho h).hasKeyOf_eq (hos p hp).2).symm
      have hagree' : ∀ p ∈ os, (!hasKeyOf p (e.merge .patch (.obj o))) = !hasKeyOf p e :=
        fun p hp => congrArg (!·) (hagree p hp)
      rw [if_pos h, ih (he.merge .patch ho) hos, hhere, hothers, List.filter_congr hagree,
        List.filter_congr hagree']
      rfl
    · have hhere : (o :: os).filter (hasKeyOf · e) = os.filter (hasKeyOf · e) :=
        List.filter_cons_of_neg h
      have hothers : (o :: os).filter (!hasKeyOf · e) = o :: os.filter (!hasKeyOf · e) :=
        List.filter_cons_of_pos (by simpa using h)
      rw [if_neg h, ih he hos, hhere, hothers]
      rfl

lemma upsert_nil_cons (hos : ∀ p ∈ o :: os, Keyed p ∧ (obj p).Proper) :
    upsert [] (o :: os)
      = mergedWith (.obj o) (os.filter (sameKey o)) :: upsert [] (os.filter (!sameKey o ·)) := by
  obtain ⟨⟨hkeyed, ho⟩, hos⟩ := List.forall_mem_cons.mp hos
  have hstep : upsert [] (o :: os) = upsert (upsertOne [] o) os := rfl
  have hcomm : ∀ p ∈ os, hasKeyOf p (.obj o) = sameKey o p :=
    fun p hp => sameKey_comm (hos p hp).2 ho
  have hcomm' : ∀ p ∈ os, (!hasKeyOf p (.obj o)) = !sameKey o p :=
    fun p hp => congrArg (!·) (hcomm p hp)
  rw [hstep, upsertOne_nil hkeyed, upsert_cons_eq ho hos, List.filter_congr hcomm,
    List.filter_congr hcomm']

/-! ### The elements that were there -/

/-- Each element takes up the objects of which it is the first that has their key. -/
lemma getElem?_upsert_of_getElem? (hes : ∀ e ∈ es, e.Proper)
    (hos : ∀ o ∈ os, Keyed o ∧ (obj o).Proper) {i : Nat} (he : es[i]? = some e) :
    (upsert es os)[i]?
      = some (mergedWith e (os.filter fun o => es.findIdx (hasKeyOf o) == i)) := by
  induction es generalizing os i with
  | nil => cases he
  | cons d es ih =>
    obtain ⟨hd, hes⟩ := List.forall_mem_cons.mp hes
    rw [upsert_cons_eq hd hos]
    cases i with
    | zero =>
      obtain rfl := Option.some.inj he
      rw [List.getElem?_cons_zero]
      refine congrArg (fun qs => some (mergedWith d qs)) (List.filter_congr fun o _ => ?_)
      rw [List.findIdx_cons]
      cases hasKeyOf o d <;> rfl
    | succ i =>
      rw [List.getElem?_cons_succ, ih hes (fun o ho => hos o (List.mem_filter.mp ho).1) he,
        List.filter_filter]
      -- an object with the key of `d` is in neither list, and any other one finds its place one
      -- later
      refine congrArg (fun qs => some (mergedWith e qs)) (List.filter_congr fun o _ => ?_)
      rw [List.findIdx_cons]
      cases hasKeyOf o d <;> simp

/-- The objects whose key no element has are brought into an empty list. -/
lemma drop_length_upsert (hes : ∀ e ∈ es, e.Proper) (hos : ∀ o ∈ os, Keyed o ∧ (obj o).Proper) :
    (upsert es os).drop es.length = upsert [] (os.filter fun o => !es.any (hasKeyOf o)) := by
  induction es generalizing os with
  | nil => simp
  | cons d es ih =>
    obtain ⟨hd, hes⟩ := List.forall_mem_cons.mp hes
    rw [upsert_cons_eq hd hos, List.length_cons, List.drop_succ_cons,
      ih hes fun o ho => hos o (List.mem_filter.mp ho).1, List.filter_filter]
    refine congrArg (upsert []) (List.filter_congr fun o _ => ?_)
    rw [List.any_cons, Bool.not_or, Bool.and_comm]

/-! ### The elements that are added -/

lemma mem_of_mem_leaders (h : p ∈ leaders os) : p ∈ os := by
  induction os with
  | nil => cases h
  | cons o os ih =>
    rcases List.mem_cons.mp h with rfl | h
    · exact List.mem_cons_self
    · exact List.mem_cons_of_mem _ (ih (List.mem_filter.mp h).1)

/-- Leaving out all objects of some keys leaves out the leading ones of these keys. -/
lemma leaders_filter {q : Entries Value → Bool}
    (hq : ∀ o ∈ os, ∀ p ∈ os, sameKey o p = true → q o = q p) :
    leaders (os.filter q) = (leaders os).filter q := by
  induction os with
  | nil => rfl
  | cons o os ih =>
    have ih := ih fun a ha b hb => hq a (List.mem_cons_of_mem _ ha) b (List.mem_cons_of_mem _ hb)
    by_cases ho : q o = true
    · rw [List.filter_cons_of_pos ho, leaders, leaders, List.filter_cons_of_pos ho, ih,
        List.filter_filter, List.filter_filter]
      exact congrArg (o :: ·) (List.filter_congr fun p _ => Bool.and_comm _ _)
    · rw [List.filter_cons_of_neg ho, leaders, List.filter_cons_of_neg ho, ih, List.filter_filter]
      refine List.filter_congr fun p hp => ?_
      -- an object that is kept has not the key of one that is not
      cases hqp : q p with
      | false => rfl
      | true =>
        have hkey : sameKey o p = false := by
          rw [← Bool.not_eq_true]
          intro h
          have hmem := List.mem_cons_of_mem o (mem_of_mem_leaders hp)
          exact ho ((hq o List.mem_cons_self p hmem h).trans hqp)
        rw [hkey]
        rfl

section Leaders

variable (ho : (obj o).Proper) (hos : ∀ p ∈ os, (obj p).Proper)

include ho hos

/-- Behind an object, the objects of its key are what follows the first of that key. -/
lemma filter_sameKey_eq_tail :
    os.filter (sameKey o) = ((o :: os).filter (sameKey o)).tail := by
  by_cases hself : sameKey o o = true
  · rw [List.filter_cons_of_pos hself]
    rfl
  · -- an object that has not its own key shares it with none
    have hnone : os.filter (sameKey o) = [] := by
      refine List.filter_eq_nil_iff.mpr fun p hp h => hself ?_
      have hkey : hasKeyOf p (.obj o) = true := (sameKey_comm (hos p hp) ho).trans h
      exact ((keysAgree_of_hasKeyOf (hos p hp) ho hkey).hasKeyOf_eq ho).symm.trans h
    rw [List.filter_cons_of_neg hself, hnone]
    rfl

/-- Objects of another key are found whether or not those of one key have been left out. -/
lemma filter_sameKey_of_not_sameKey (hp : (obj p).Proper) (hop : sameKey o p = false) :
    (os.filter (!sameKey o ·)).filter (sameKey p) = (o :: os).filter (sameKey p) := by
  have hpo : ¬ sameKey p o = true := by
    rw [sameKey_comm hp ho, hop]
    decide
  rw [List.filter_cons_of_neg hpo, List.filter_filter]
  refine List.filter_congr fun q hq => ?_
  cases hpq : sameKey p q with
  | false => rfl
  | true =>
    have hoq : sameKey o q = false :=
      ((keysAgree_of_hasKeyOf hp (hos q hq) hpq).hasKeyOf_eq ho).symm.trans hop
    rw [hoq]
    rfl

end Leaders

/-- Into an empty list, the first object of each key is brought, with the others merged into it. -/
lemma upsert_nil_eq {os : List (Entries Value)} (hos : ∀ o ∈ os, Keyed o ∧ (obj o).Proper) :
    upsert [] os = (leaders os).map fun o => mergedWith (.obj o) (os.filter (sameKey o)).tail := by
  -- not an induction on the list: with the first object, all others of its key are taken out too
  match os with
  | [] => rfl
  | o :: os =>
    obtain ⟨⟨-, ho⟩, hos'⟩ := List.forall_mem_cons.mp hos
    have hproper : ∀ p ∈ os, (obj p).Proper := fun p hp => (hos' p hp).2
    have hleaders : leaders (os.filter (!sameKey o ·)) = (leaders os).filter (!sameKey o ·) := by
      refine leaders_filter fun p hp q hq hpq => congrArg (!·) ?_
      exact (keysAgree_of_hasKeyOf (hproper p hp) (hproper q hq) hpq).hasKeyOf_eq ho
    rw [upsert_nil_cons hos, upsert_nil_eq fun p hp => hos' p (List.mem_filter.mp hp).1,
      hleaders, leaders, List.map_cons, filter_sameKey_eq_tail ho hproper]
    refine congrArg (List.cons _) (List.map_congr_left fun p hp => ?_)
    obtain ⟨hmem, hkey⟩ := List.mem_filter.mp hp
    rw [filter_sameKey_of_not_sameKey ho hproper (hproper p (mem_of_mem_leaders hmem))
      (by simpa using hkey)]
termination_by os.length
decreasing_by exact Nat.lt_succ_of_le (List.length_filter_le _ _)

/-! ### Distinct keys -/

lemma shareKey_comm (hd : d.Proper) (he : e.Proper) (h : ShareKey d e) : ShareKey e d := by
  obtain ⟨kd, hkd, hsame⟩ := h
  obtain ⟨ke, hke, hsame⟩ := hasSame_iff.mp hsame
  exact ⟨ke, hke, hasSame_iff.mpr
    ⟨kd, hkd, same_symm (proper_of_get? he hke) (proper_of_get? hd hkd) hsame⟩⟩

lemma hasKeyOf_of_shareKey (h : ShareKey (.obj o) e) : hasKeyOf o e = true := by
  obtain ⟨k, hk, hsame⟩ := h
  have hk : o.get? "key" = some k := hk
  rw [hasKeyOf, hk]
  exact hsame

lemma ShareKey.of_keysAgree (hx : x.Proper) (h : ShareKey x e) (hagree : KeysAgree d e) :
    ShareKey x d := by
  obtain ⟨k, hk, hsame⟩ := h
  exact ⟨k, hk, (hagree k (proper_of_get? hx hk)).trans hsame⟩

/-- What is in a list after an object has been brought in. -/
lemma mem_upsertOne_cases (ho : Keyed o) (hx : x ∈ upsertOne es o) :
    x ∈ es ∨ x = .obj o ∨ ∃ d ∈ es, hasKeyOf o d = true ∧ x = d.merge .patch (.obj o) := by
  induction es with
  | nil =>
    rw [upsertOne_nil ho, List.mem_singleton] at hx
    exact .inr (.inl hx)
  | cons e es ih =>
    rw [upsertOne_cons ho] at hx
    by_cases h : hasKeyOf o e = true
    · rw [if_pos h] at hx
      rcases List.mem_cons.mp hx with rfl | hx
      · exact .inr (.inr ⟨e, List.mem_cons_self, h, rfl⟩)
      · exact .inl (List.mem_cons_of_mem _ hx)
    · rw [if_neg h] at hx
      rcases List.mem_cons.mp hx with rfl | hx
      · exact .inl List.mem_cons_self
      · rcases ih hx with hmem | rfl | ⟨d, hd, hkey, rfl⟩
        · exact .inl (List.mem_cons_of_mem _ hmem)
        · exact .inr (.inl rfl)
        · exact .inr (.inr ⟨d, List.mem_cons_of_mem _ hd, hkey, rfl⟩)

section Step

variable (ho : Keyed o ∧ (obj o).Proper) (hes : ∀ e ∈ es, e.Proper)

include ho hes

lemma proper_of_mem_upsertOne (hx : x ∈ upsertOne es o) : x.Proper := by
  rcases mem_upsertOne_cases ho.1 hx with hmem | rfl | ⟨d, hd, -, rfl⟩
  · exact hes x hmem
  · exact ho.2
  · exact (hes d hd).merge .patch ho.2

/-- An element that has not the key of an object keeps its key to itself. -/
lemma not_shareKey_of_mem_upsertOne (he : e.Proper) (hkey : hasKeyOf o e = false)
    (hshare : ∀ d ∈ es, ¬ ShareKey e d) (hx : x ∈ upsertOne es o) : ¬ ShareKey e x := by
  intro h
  rcases mem_upsertOne_cases ho.1 hx with hmem | rfl | ⟨d, hd, hkeyd, rfl⟩
  · exact hshare x hmem h
  · rw [hasKeyOf_of_shareKey (shareKey_comm he ho.2 h)] at hkey
    cases hkey
  · exact hshare d hd (h.of_keysAgree he (keysAgree_merge (hes d hd) ho.2 hkeyd))

/-- Bringing in an object keeps the keys distinct. -/
lemma pairwise_upsertOne (h : es.Pairwise fun d e => ¬ ShareKey d e) :
    (upsertOne es o).Pairwise fun d e => ¬ ShareKey d e := by
  induction es with
  | nil =>
    rw [upsertOne_nil ho.1]
    exact List.pairwise_singleton _ _
  | cons e es ih =>
    obtain ⟨he, hes⟩ := List.forall_mem_cons.mp hes
    obtain ⟨hhead, htail⟩ := List.pairwise_cons.mp h
    rw [upsertOne_cons ho.1]
    by_cases hkey : hasKeyOf o e = true
    · rw [if_pos hkey]
      refine List.pairwise_cons.mpr ⟨fun d hd hshare => hhead d hd ?_, htail⟩
      -- the merged element has the key of the one in whose place it stands
      have hback := shareKey_comm (he.merge .patch ho.2) (hes d hd) hshare
      exact shareKey_comm (hes d hd) he
        (hback.of_keysAgree (hes d hd) (keysAgree_merge he ho.2 hkey))
    · rw [if_neg hkey]
      refine List.pairwise_cons.mpr ⟨fun x hx => ?_, ih hes htail⟩
      exact not_shareKey_of_mem_upsertOne ho hes he (by simpa using hkey) hhead hx

end Step

lemma pairwise_upsert (hos : ∀ o ∈ os, Keyed o ∧ (obj o).Proper) (hes : ∀ e ∈ es, e.Proper)
    (h : es.Pairwise fun d e => ¬ ShareKey d e) :
    (upsert es os).Pairwise fun d e => ¬ ShareKey d e := by
  induction os generalizing es with
  | nil => exact h
  | cons o os ih =>
    obtain ⟨ho, hos⟩ := List.forall_mem_cons.mp hos
    exact ih hos (fun x hx => proper_of_mem_upsertOne ho hes hx) (pairwise_upsertOne ho hes h)

/-! ### The list as a whole -/

lemma hasKeyOf_eq_of_sameKey (ho : (obj o).Proper) (hp : (obj p).Proper) (he : e.Proper)
    (h : sameKey o p = true) : hasKeyOf o e = hasKeyOf p e := by
  have himp {o p : Entries Value} (ho : (obj o).Proper) (hp : (obj p).Proper)
      (h : sameKey p o = true) (hkey : hasKeyOf o e = true) : hasKeyOf p e = true :=
    ((keysAgree_of_hasKeyOf ho he hkey).hasKeyOf_eq hp).symm.trans h
  rw [Bool.eq_iff_iff]
  exact ⟨himp ho hp ((sameKey_comm hp ho).trans h), himp hp ho h⟩

/-- Objects of one key find the same element first. -/
lemma findIdx_hasKeyOf_eq (hes : ∀ e ∈ es, e.Proper) (ho : (obj o).Proper) (hp : (obj p).Proper)
    (h : sameKey o p = true) : es.findIdx (hasKeyOf o) = es.findIdx (hasKeyOf p) := by
  induction es with
  | nil => rfl
  | cons e es ih =>
    obtain ⟨he, hes⟩ := List.forall_mem_cons.mp hes
    rw [List.findIdx_cons, List.findIdx_cons, hasKeyOf_eq_of_sameKey ho hp he h, ih hes]

/-- Objects find the same element of a list if and only if they have the same key. -/
lemma findIdx_hasKeyOf_eq_iff (hes : ∀ e ∈ es, e.Proper) (ho : (obj o).Proper)
    (hp : (obj p).Proper) (he : es[es.findIdx (hasKeyOf o)]? = some e) :
    es.findIdx (hasKeyOf p) = es.findIdx (hasKeyOf o) ↔ sameKey o p = true := by
  refine ⟨fun hidx => ?_, fun h => (findIdx_hasKeyOf_eq hes ho hp h).symm⟩
  obtain ⟨hlt, rfl⟩ := List.getElem?_eq_some_iff.mp he
  have hkeyo : hasKeyOf o es[es.findIdx (hasKeyOf o)] = true := List.findIdx_getElem
  have hkeyp : hasKeyOf p es[es.findIdx (hasKeyOf o)] = true := by
    have hltp : es.findIdx (hasKeyOf p) < es.length := hidx ▸ hlt
    have hfound : hasKeyOf p es[es.findIdx (hasKeyOf p)] = true := List.findIdx_getElem
    simpa only [hidx] using hfound
  have hagree := keysAgree_of_hasKeyOf hp (hes _ (List.getElem_mem hlt)) hkeyp
  exact (hagree.hasKeyOf_eq ho).trans hkeyo

lemma length_le_length_upsert (hes : ∀ e ∈ es, e.Proper)
    (hos : ∀ o ∈ os, Keyed o ∧ (obj o).Proper) : es.length ≤ (upsert es os).length := by
  by_contra h
  have hlt : (upsert es os).length < es.length := Nat.lt_of_not_le h
  have hthere := getElem?_upsert_of_getElem? hes hos (List.getElem?_eq_getElem hlt)
  rw [List.getElem?_eq_none (Nat.le_refl _)] at hthere
  cases hthere

/-- Objects of one key are all brought in as new, or none of them is. -/
lemma any_hasKeyOf_eq (hes : ∀ e ∈ es, e.Proper) (ho : (obj o).Proper) (hp : (obj p).Proper)
    (h : sameKey o p = true) : es.any (hasKeyOf o) = es.any (hasKeyOf p) := by
  rw [Bool.eq_iff_iff, List.any_eq_true, List.any_eq_true, ← List.findIdx_lt_length,
    ← List.findIdx_lt_length, findIdx_hasKeyOf_eq hes ho hp h]

lemma drop_upsert_eq (hes : ∀ e ∈ es, e.Proper) (hos : ∀ o ∈ os, Keyed o ∧ (obj o).Proper) :
    (upsert es os).drop es.length
      = (leaders (os.filter fun o => !es.any (hasKeyOf o))).map
          fun o => mergedWith (.obj o) (os.filter (sameKey o)).tail := by
  rw [drop_length_upsert hes hos, upsert_nil_eq fun o ho => hos o (List.mem_filter.mp ho).1]
  refine List.map_congr_left fun o ho => ?_
  obtain ⟨hmem, hnew⟩ := List.mem_filter.mp (mem_of_mem_leaders ho)
  -- the objects of a new key are all among the objects that are new
  have hall : (os.filter fun p => !es.any (hasKeyOf p)).filter (sameKey o)
      = os.filter (sameKey o) := by
    rw [List.filter_filter]
    refine List.filter_congr fun p hp => ?_
    cases hkey : sameKey o p with
    | false => rfl
    | true =>
      rw [← any_hasKeyOf_eq hes (hos o hmem).2 (hos p hp).2 hkey, hnew]
      rfl
  rw [hall]

/--
Bringing keyed objects into a list keeps its elements in their places. The first element that has
the key of an object gets all objects of this key merged into it, in their order, and any other
element stays as it is. For each key that no element has, an element is added at the end: the first
object of this key, with the others merged into it. If the keys of the elements were distinct, they
stay so.
-/
theorem upsert_by_keys (hes : ∀ e ∈ es, e.Proper) (hos : ∀ o ∈ os, Keyed o ∧ (obj o).Proper) :
    es.length ≤ (upsert es os).length ∧
    (∀ o ∈ os, ∀ e, es[es.findIdx (hasKeyOf o)]? = some e →
      (upsert es os)[es.findIdx (hasKeyOf o)]?
        = some (mergedWith e (os.filter (sameKey o)))) ∧
    (∀ i < es.length, (∀ o ∈ os, es.findIdx (hasKeyOf o) ≠ i) → (upsert es os)[i]? = es[i]?) ∧
    (upsert es os).drop es.length
      = (leaders (os.filter fun o => !es.any (hasKeyOf o))).map
          (fun o => mergedWith (.obj o) (os.filter (sameKey o)).tail) ∧
    (es.Pairwise (fun d e => ¬ ShareKey d e) →
      (upsert es os).Pairwise fun d e => ¬ ShareKey d e) := by
  refine ⟨length_le_length_upsert hes hos, fun o ho e he => ?_, fun i hi hno => ?_,
    drop_upsert_eq hes hos, pairwise_upsert hos hes⟩
  · rw [getElem?_upsert_of_getElem? hes hos he]
    refine congrArg (fun qs => some (mergedWith e qs)) (List.filter_congr fun p hp => ?_)
    rw [Bool.eq_iff_iff, beq_iff_eq]
    exact findIdx_hasKeyOf_eq_iff hes (hos o ho).2 (hos p hp).2 he
  · have hnone : os.filter (fun o => es.findIdx (hasKeyOf o) == i) = [] :=
      List.filter_eq_nil_iff.mpr fun o ho h => hno o ho (beq_iff_eq.mp h)
    rw [getElem?_upsert_of_getElem? hes hos (List.getElem?_eq_getElem hi), hnone,
      List.getElem?_eq_getElem hi]
    rfl

/--
A truth value and a floating point number are the key of the element that has the number one. The
text before it is kept, and a new key is added once.
-/
theorem upsert_by_keys_one :
    let es : List Value := [.str "id", .obj [("key", .int 1), ("icon", .str "eye")], .obj []]
    let os : List (Entries Value) :=
      [[("key", .bool true), ("type", .str "text")], [("key", .str "new")],
        [("key", .float (.finite false (2 ^ 52) (-52)))], [("key", .str "new"), ("icon", .null)]]
    (∀ e ∈ es, e.Proper) ∧ (∀ o ∈ os, Keyed o ∧ (obj o).Proper) ∧
      (upsert es os)[0]? = some (.str "id") ∧
      (upsert es os)[1]? = some (.obj [("key", .float (.finite false (2 ^ 52) (-52))),
        ("icon", .str "eye"), ("type", .str "text")]) ∧
      (upsert es os).drop 3 = [.obj [("key", .str "new"), ("icon", .null)]] := by
  intro es os
  have hvalues : (arr es).Proper :=
    ⟨by simp [es, WellFormed, WellFormedElems, WellFormedFields, Entries.keys],
      by simp [es, Canonical, CanonicalElems, CanonicalFields]⟩
  have hobjects : (arr (os.map obj)).Proper :=
    ⟨by simp [os, WellFormed, WellFormedElems, WellFormedFields, Entries.keys],
      by simp [os, Canonical, CanonicalElems, CanonicalFields, Binary64.Canonical]⟩
  have hkeyed : ∀ o ∈ os, Keyed o := by
    simp only [os, List.forall_mem_cons]
    exact ⟨rfl, rfl, rfl, rfl, List.forall_mem_nil _⟩
  have hes : ∀ e ∈ es, e.Proper := proper_arr_iff.mp hvalues
  have hos : ∀ o ∈ os, Keyed o ∧ (obj o).Proper :=
    fun o ho => ⟨hkeyed o ho, proper_arr_iff.mp hobjects _ (List.mem_map_of_mem ho)⟩
  obtain ⟨-, hmerged, hkept, hadded, -⟩ := upsert_by_keys hes hos
  refine ⟨hes, hos, ?_, hmerged _ List.mem_cons_self _ rfl, hadded⟩
  refine hkept 0 (by decide) ?_
  simp only [es, os, List.forall_mem_cons]
  exact ⟨by decide, by decide, by decide, by decide, List.forall_mem_nil _⟩

end ViewAssembly.Override
