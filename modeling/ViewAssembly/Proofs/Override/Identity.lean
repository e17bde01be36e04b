import ViewAssembly.Proofs.Override.Upsert

/-!
# Objects that are told apart by texts

Objects that are brought into a list are told apart by texts under some names when each of them is
identified by a text under one of these names, or by nothing, and writes none of the other names.
Such objects come to lie at the same places when they are brought in again, so that the list stays
as it is (`settled_of_toldApart`).
-/

namespace ViewAssembly.Override

open Value

def textAt (name : String) (e : Value) : Option String := (e.get? name).bind Value.str?

/-- Is an object identified by a text, if at all, and does it write no other of these names? -/
structure ToldApart (names : List String) (o : Entries Value) : Prop where
  identified : ∀ n v, identity? o = some (n, v) → n ∈ names ∧ ∃ s, v = .str s
  keeps : ∀ n ∈ names, o.get? n = none ∨ ∀ m v, identity? o = some (m, v) → m = n

/-- Has an element no text by which it could be identified? -/
def Anonymous (e : Value) : Prop := textAt "key" e = none ∧ textAt "name" e = none

variable {names : List String} {n m s : String} {v e : Value} {o : Entries Value}
  {es fs : List Value} {os : List (Entries Value)} {i : Nat}

/-! ### What identifies an object -/

lemma get?_of_identity? (h : identity? o = some (n, v)) :
    o.get? n = some v ∧ (n = "key" ∨ n = "name") := by
  obtain ⟨name, hname, hgiven⟩ := List.exists_of_findSome?_eq_some h
  obtain ⟨w, hw, heq⟩ := Option.map_eq_some_iff.mp hgiven
  cases heq
  exact ⟨(Option.filter_eq_some_iff.mp hw).1, by simpa using hname⟩

lemma not_str_of_identity?_eq_none (h : identity? o = none) (hn : n = "key" ∨ n = "name") :
    o.get? n ≠ some (.str s) := by
  intro hget
  have hgiven := List.findSome?_eq_none_iff.mp h n (by simpa using hn)
  simp [Value.given?, Value.get?, Value.fields?, hget, Value.isNull] at hgiven

lemma textAt_obj (bs : Entries Value) : textAt n (.obj bs) = (bs.get? n).bind Value.str? := rfl

lemma textAt_eq_some_iff :
    textAt n e = some s ↔ ∃ bs : Entries Value, e = .obj bs ∧ bs.get? n = some (.str s) := by
  constructor
  · intro h
    obtain ⟨w, hw, hs⟩ := Option.bind_eq_some_iff.mp h
    cases e with
    | obj bs => cases w with
      | str t => cases hs; exact ⟨bs, rfl, hw⟩
      | _ => cases hs
    | _ => cases hw
  · rintro ⟨bs, rfl, hget⟩
    rw [textAt_obj, hget]
    rfl

lemma hasSame_str : hasSame n (.str s) e = (textAt n e == some s) := by
  rw [hasSame, textAt]
  cases e.get? n with
  | none => rfl
  | some w => cases w <;> rfl

lemma landing?_of_identity? (h : identity? o = some (n, .str s)) :
    landing? es o = some ((es.map (textAt n)).findIdx (· == some s)) := by
  have hp : hasSame n (.str s) = (· == some s) ∘ textAt n := funext fun _ => hasSame_str
  rw [landing?, h, List.findIdx_map, ← hp]

/-! ### What a step keeps -/

/-- An object that comes to lie on an element is identified by a text that this one has. -/
lemma textAt_of_landing? (ho : ToldApart names o) (h : landing? es o = some i)
    (he : es[i]? = some e) :
    ∃ n s, identity? o = some (n, .str s) ∧ textAt n e = some s := by
  have hi : i < es.length := (List.getElem?_eq_some_iff.mp he).1
  cases hid : identity? o with
  | none =>
    rw [landing?, hid] at h
    simp only at h
    split at h
    · cases h
    · cases h
      exact absurd hi (Nat.lt_irrefl _)
  | some nv =>
    obtain ⟨n, v⟩ := nv
    obtain ⟨-, s, rfl⟩ := ho.identified n v hid
    refine ⟨n, s, rfl, ?_⟩
    rw [landing?_of_identity? hid, Option.some.injEq] at h
    have hfound := ((List.findIdx_eq (by simpa using hi)).mp h).1
    rw [(List.getElem?_eq_some_iff.mp he).2.symm]
    simpa using hfound

/-- What comes to lie on an element leaves its text under any of the names. -/
lemma textAt_merge (ho : ToldApart names o) (hwf : (obj o).WellFormed) (hn : n ∈ names)
    (hid : identity? o = some (m, .str s)) (he : textAt m e = some s) :
    textAt n (e.merge .patch (.obj o)) = textAt n e := by
  obtain ⟨bs, rfl, hbs⟩ := textAt_eq_some_iff.mp he
  change textAt n (.obj (mergeFields .patch bs o)) = _
  rw [textAt_obj, textAt_obj, get?_mergeFields hwf.nodup_keys]
  rcases ho.keeps n hn with hnone | hsame
  · rw [hnone]
  · -- the object is identified under this name, by the text that is there
    obtain rfl := hsame m _ hid
    rw [(get?_of_identity? hid).1, hbs]
    rfl

/-- Bringing in an object keeps the texts that the elements have under the names. -/
lemma prefix_upsertOne (ho : ToldApart names o) (hwf : (obj o).WellFormed) (hn : n ∈ names) :
    es.map (textAt n) <+: (upsertOne es o).map (textAt n) := by
  refine List.prefix_iff_getElem?.mpr fun i hi => ?_
  rw [List.length_map] at hi
  rw [List.getElem?_map, getElem?_upsertOne, List.getElem_map]
  split
  · next hland =>
    have he := List.getElem?_eq_getElem hi
    obtain ⟨m, s, hid, hm⟩ := textAt_of_landing? ho hland he
    rw [he]
    exact congrArg some (textAt_merge ho hwf hn hid hm)
  · rw [List.getElem?_eq_getElem hi]
    rfl

lemma landing?_ne_of_anonymous (ho : ToldApart names o) (he : es[i]? = some e)
    (hanonymous : Anonymous e) : landing? es o ≠ some i := by
  intro hland
  obtain ⟨n, s, hid, hn⟩ := textAt_of_landing? ho hland he
  rcases (get?_of_identity? hid).2 with rfl | rfl
  · rw [hanonymous.1] at hn; cases hn
  · rw [hanonymous.2] at hn; cases hn

/-- Bringing in an object keeps the elements that have no text to be identified by. -/
lemma getElem?_upsertOne_of_anonymous (ho : ToldApart names o) (he : es[i]? = some e)
    (hanonymous : Anonymous e) : (upsertOne es o)[i]? = some e := by
  rw [getElem?_upsertOne, if_neg (landing?_ne_of_anonymous ho he hanonymous), he]

/-! ### What a run keeps -/

lemma prefix_upsert (hos : ∀ o ∈ os, ToldApart names o ∧ (obj o).WellFormed) (hn : n ∈ names) :
    es.map (textAt n) <+: (upsert es os).map (textAt n) := by
  induction os generalizing es with
  | nil => exact List.prefix_refl _
  | cons o os ih =>
    obtain ⟨ho, hwf⟩ := hos o List.mem_cons_self
    exact (prefix_upsertOne ho hwf hn).trans (ih fun p hp => hos p (List.mem_cons_of_mem _ hp))

lemma getElem?_upsert_of_anonymous (hos : ∀ o ∈ os, ToldApart names o ∧ (obj o).WellFormed)
    (he : es[i]? = some e) (hanonymous : Anonymous e) : (upsert es os)[i]? = some e := by
  induction os generalizing es with
  | nil => exact he
  | cons o os ih =>
    exact ih (fun p hp => hos p (List.mem_cons_of_mem _ hp))
      (getElem?_upsertOne_of_anonymous (hos o List.mem_cons_self).1 he hanonymous)

/-! ### Bringing the same objects in again -/

/-- An object that has come to lie at a place would come to lie there again. -/
lemma landing?_upsertOne (ho : ToldApart names o) (hwf : (obj o).WellFormed)
    (hid : identity? o = some (n, .str s)) (hland : landing? es o = some i) :
    landing? (upsertOne es o) o = some i ∧ i < (upsertOne es o).length := by
  have hn := (ho.identified n _ hid).1
  have hfirst : (es.map (textAt n)).findIdx (· == some s) = i := by
    simpa [landing?_of_identity? hid] using hland
  obtain ⟨e', he', htext⟩ : ∃ e', (upsertOne es o)[i]? = some e' ∧ textAt n e' = some s := by
    rw [getElem?_upsertOne, if_pos hland]
    refine ⟨_, rfl, ?_⟩
    -- the object was added as it is, or merged into an element that has its text
    cases he : es[i]? with
    | none => exact textAt_eq_some_iff.mpr ⟨o, rfl, (get?_of_identity? hid).1⟩
    | some e =>
      obtain ⟨m, t, hid', hm⟩ := textAt_of_landing? ho hland he
      obtain ⟨rfl, rfl⟩ : n = m ∧ s = t := by simpa [hid] using hid'
      exact (textAt_merge ho hwf hn hid hm).trans hm
  obtain ⟨hi, hget⟩ := List.getElem?_eq_some_iff.mp he'
  refine ⟨?_, hi⟩
  have hi' : i < ((upsertOne es o).map (textAt n)).length := by simpa using hi
  rw [landing?_of_identity? hid, (List.findIdx_eq hi').mpr ⟨by simp [hget, htext], fun j hj => ?_⟩]
  -- before that place all texts are as they were
  have hj' := Nat.lt_of_lt_of_le (hfirst ▸ hj) List.findIdx_le_length
  rw [← (prefix_upsertOne ho hwf hn).getElem hj']
  exact List.not_of_lt_findIdx (hfirst ▸ hj)

/-- Does a list have the same texts as another one, and its elements without such a text? -/
structure Recalls (names : List String) (fs es : List Value) : Prop where
  texts : ∀ n ∈ names, es.map (textAt n) = fs.map (textAt n)
  anonymous : ∀ (i : Nat) e, fs[i]? = some e → Anonymous e → es[i]? = some e

lemma anonymous_of_same (hid : identity? o = none) (h : e.same (.obj o) = true) : Anonymous e := by
  -- an element that has such a text denotes no object that lacks it
  have hnone : ∀ n, n = "key" ∨ n = "name" → textAt n e = none := by
    intro n hn
    by_contra hne
    obtain ⟨s, hs⟩ := Option.ne_none_iff_exists'.mp hne
    obtain ⟨bs, rfl, hbs⟩ := textAt_eq_some_iff.mp hs
    obtain ⟨w, hw, hsame⟩ := get?_of_sameFields (Bool.and_eq_true_iff.mp h).2 hbs
    obtain rfl := eq_str_of_samePart hsame
    exact not_str_of_identity?_eq_none hid hn hw
  exact ⟨hnone _ (.inl rfl), hnone _ (.inr rfl)⟩

/-- An object that nothing identifies is there after it has been brought in. -/
lemma exists_same_of_identity?_eq_none (hid : identity? o = none) (hwf : (obj o).WellFormed) :
    ∃ (j : Nat) (e : Value), (upsertOne es o)[j]? = some e ∧ e.same (.obj o) = true := by
  by_cases hany : es.any (·.same (.obj o)) = true
  · obtain ⟨e, hmem, hsame⟩ := List.any_eq_true.mp hany
    obtain ⟨j, hj, rfl⟩ := List.getElem_of_mem hmem
    refine ⟨j, es[j], ?_, hsame⟩
    simp [upsertOne, hid, hany]
  · refine ⟨es.length, .obj o, ?_, same_self hwf⟩
    simp [upsertOne, hid, hany]

section Again

variable (hos : ∀ p ∈ o :: os, ToldApart names p ∧ (obj p).WellFormed)
  (h : Recalls names (upsert es (o :: os)) fs)

include hos h

/-- An object that is identified comes to lie at the same place again. -/
lemma landing?_of_recalls (hid : identity? o = some (n, v)) :
    ∃ j, landing? es o = some j ∧ landing? fs o = some j ∧ j < fs.length := by
  obtain ⟨ho, hwf⟩ := hos o List.mem_cons_self
  obtain ⟨hn, s, rfl⟩ := ho.identified n v hid
  have hland : landing? es o = some ((es.map (textAt n)).findIdx (· == some s)) :=
    landing?_of_identity? hid
  obtain ⟨hland', hlt⟩ := landing?_upsertOne ho hwf hid hland
  have hprefix : (upsertOne es o).map (textAt n) <+: (upsert es (o :: os)).map (textAt n) :=
    prefix_upsert (fun p hp => hos p (List.mem_cons_of_mem _ hp)) hn
  rw [← h.texts n hn] at hprefix
  rw [landing?_of_identity? hid, Option.some.injEq] at hland'
  rw [← List.length_map (textAt n), ← hland'] at hlt
  have hfound := hprefix.findIdx_eq_of_findIdx_lt_length hlt
  refine ⟨_, hland, ?_, ?_⟩
  · rw [landing?_of_identity? hid, hfound, hland']
  · rw [← hland', ← List.length_map (textAt n)]
    exact Nat.lt_of_lt_of_le hlt hprefix.length_le

/-- An object that nothing identifies is not brought in again. -/
lemma landing?_eq_none_of_recalls (hid : identity? o = none) : landing? fs o = none := by
  obtain ⟨j, e, he, hsame⟩ : ∃ (j : Nat) (e : Value),
      (upsertOne es o)[j]? = some e ∧ e.same (.obj o) = true :=
    exists_same_of_identity?_eq_none hid (hos o List.mem_cons_self).2
  have hanonymous := anonymous_of_same hid hsame
  have hkept := getElem?_upsert_of_anonymous (fun p hp => hos p (List.mem_cons_of_mem _ hp)) he
    hanonymous
  have hmem := List.mem_of_getElem? (h.anonymous j e hkept hanonymous)
  simp only [landing?, hid]
  rw [if_pos (List.any_eq_true.mpr ⟨e, hmem, hsame⟩)]

lemma recalls_upsertOne : Recalls names (upsert es (o :: os)) (upsertOne fs o) := by
  obtain ⟨ho, hwf⟩ := hos o List.mem_cons_self
  refine ⟨fun n hn => ?_, fun i e he hanonymous =>
    getElem?_upsertOne_of_anonymous ho (h.anonymous i e he hanonymous) hanonymous⟩
  -- every object finds its element again, so nothing is added
  have hlength : (upsertOne fs o).length ≤ fs.length := by
    refine List.getElem?_eq_none_iff.mp ?_
    rw [getElem?_upsertOne, if_neg, List.getElem?_eq_none (Nat.le_refl _)]
    cases hid : identity? o with
    | none => simp [landing?_eq_none_of_recalls hos h hid]
    | some nv =>
      obtain ⟨j, -, hland, hj⟩ := landing?_of_recalls hos h hid
      rw [hland, Option.some.injEq]
      exact Nat.ne_of_lt hj
  rw [← h.texts n hn]
  exact ((prefix_upsertOne ho hwf hn).eq_of_length_le (by simpa using hlength)).symm

end Again

/-- Nothing arrives again at an element that has no text to be identified by. -/
lemma arrivals_of_anonymous (hos : ∀ o ∈ os, ToldApart names o ∧ (obj o).WellFormed)
    (h : Recalls names (upsert es os) fs) (he : (upsert es os)[i]? = some e)
    (hanonymous : Anonymous e) : arrivals i fs os = [] := by
  induction os generalizing es fs with
  | nil => rfl
  | cons o os ih =>
    rw [arrivals, if_neg (landing?_ne_of_anonymous (hos o List.mem_cons_self).1
      (h.anonymous i e he hanonymous) hanonymous)]
    exact ih (fun p hp => hos p (List.mem_cons_of_mem _ hp)) (recalls_upsertOne hos h) he

/-- At any other element the same objects arrive again. -/
lemma arrivals_of_not_anonymous (hos : ∀ o ∈ os, ToldApart names o ∧ (obj o).WellFormed)
    (h : Recalls names (upsert es os) fs)
    (hi : ∀ e, (upsert es os)[i]? = some e → ¬ Anonymous e) :
    arrivals i fs os = arrivals i es os := by
  induction os generalizing es fs with
  | nil => rfl
  | cons o os ih =>
    have hos' := fun p hp => hos p (List.mem_cons_of_mem _ hp)
    have hrest := ih hos' (recalls_upsertOne hos h) hi
    cases hid : identity? o with
    | some nv =>
      obtain ⟨j, hland, hland', -⟩ := landing?_of_recalls hos h hid
      rw [arrivals, arrivals, hland, hland', hrest]
    | none =>
      rw [arrivals, arrivals, landing?_eq_none_of_recalls hos h hid, if_neg (by simp), hrest,
        if_neg]
      -- where it has been added, there is an element without such a text
      intro hland
      obtain ⟨ho, hwf⟩ := hos o List.mem_cons_self
      have hnew : es[i]? = none := by
        by_contra hne
        obtain ⟨e, he⟩ := Option.ne_none_iff_exists'.mp hne
        obtain ⟨n, s, hid', -⟩ := textAt_of_landing? ho hland he
        rw [hid] at hid'
        cases hid'
      have hadded : (upsertOne es o)[i]? = some (.obj o) := by
        rw [getElem?_upsertOne, if_pos hland, hnew]
        rfl
      have hanonymous := anonymous_of_same hid (same_self hwf)
      have hkept : (upsert (upsertOne es o) os)[i]? = some (.obj o) :=
        getElem?_upsert_of_anonymous hos' hadded hanonymous
      exact hi _ hkept hanonymous

/-- Objects that are told apart by texts leave a list as it is when they are brought in again. -/
theorem settled_of_toldApart (hos : ∀ o ∈ os, ToldApart names o ∧ (obj o).WellFormed)
    (hes : ∀ e ∈ es, e.WellFormed) : Settled (upsert es os) os := by
  have hrecalls : Recalls names (upsert es os) (upsert es os) := ⟨fun _ _ => rfl, fun _ _ h _ => h⟩
  intro i
  -- at an element with a text to be identified by, the same objects arrive once more
  by_cases hi : ∃ e, (upsert es os)[i]? = some e ∧ Anonymous e
  · obtain ⟨e, he, hanonymous⟩ := hi
    rw [arrivals_of_anonymous hos hrecalls he hanonymous]
    rfl
  · have hi' : ∀ e, (upsert es os)[i]? = some e → ¬ Anonymous e :=
      fun e he hanonymous => hi ⟨e, he, hanonymous⟩
    rw [arrivals_of_not_anonymous hos hrecalls hi', getElem?_upsert]
    refine mergeAll_mergeAll (fun p hp => ?_) fun e he => hes e (List.mem_of_getElem? he)
    obtain ⟨o, ho, rfl⟩ := mem_of_mem_arrivals hp
    exact (hos o ho).2

end ViewAssembly.Override
