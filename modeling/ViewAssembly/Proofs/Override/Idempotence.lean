import ViewAssembly.Proofs.Override.Apply
import ViewAssembly.Proofs.Override.Identity
import ViewAssembly.Proofs.Override.Kind
import ViewAssembly.Proofs.Override.Select

/-!
# Applying an override twice

An override that is applied to its own outcome need not leave it as it is: texts that have taken the
place of a list are selected from themselves the second time, and objects that rename one another
come to lie elsewhere. `Settles` says exactly when the outcome stays (`apply_twice`). An override
whose texts stand in groups and whose objects are told apart by texts leaves its outcome as it is,
whatever it is applied to.
-/

namespace ViewAssembly.Override

open Value

variable {allows : String → Bool} {draft o : Entries Value}

/-! ### Entries -/

/-- The outcome stays as it is exactly when each of its entries does. -/
lemma apply_apply_iff (ho : o.keys.Nodup) :
    apply allows (apply allows draft o) o = apply allows draft o ↔
      ∀ e ∈ o, allows e.1 = true →
        overrideValue (overrideValue (draft.get? e.1) e.2) e.2
          = overrideValue (draft.get? e.1) e.2 := by
  -- what becomes of an entry does not depend on the others
  have hentry : ∀ (draft : Entries Value), ∀ e ∈ o, allows e.1 = true →
      (apply allows draft o).get? e.1 = overrideValue (draft.get? e.1) e.2 := by
    intro draft e he hallows
    rw [get?_apply ho, Entries.get?_of_mem ho he]
    simp only [hallows, if_true]
  constructor
  · intro h e he hallows
    rw [← hentry draft e he hallows, ← hentry _ e he hallows, h]
  · intro h
    refine apply_eq_self_of_forall fun e he hallows => ?_
    rw [hentry draft e he hallows]
    exact h e he hallows

/-! ### Lists -/

/-- Does what a list makes of an entry stay as it is when the list meets it again? -/
def SettlesList (draft : Option Value) (vs : List Value) : Prop :=
  match kind (.arr vs) with
  | .stringList => (∃ es, draft = some (.arr es)) ∨ Grouped (textsOf vs)
  | .objectList | .mixedList =>
    Settled (upsert (elemsOf draft) (objectsOf vs)) (objectsOf vs)
  | _ => True

lemma overrideList_twice_stringList_iff {vs : List Value} (h : kind (.arr vs) = .stringList)
    (draft : Option Value) :
    overrideList (some (overrideList draft vs)) vs = overrideList draft vs ↔
      (∃ es, draft = some (.arr es)) ∨ Grouped (textsOf vs) := by
  by_cases hlist : ∃ es, draft = some (.arr es)
  · obtain ⟨es, rfl⟩ := hlist
    rw [overrideList_stringList h, overrideList_stringList h]
    simp only [select_select, true_iff]
    exact .inl ⟨es, rfl⟩
  · -- the texts take the place of the list
    have htexts : overrideList draft vs = .arr vs := by
      rw [overrideList_stringList h]
      split
      · next es => exact absurd ⟨es, rfl⟩ hlist
      · rfl
    rw [htexts, overrideList_stringList h, or_iff_right hlist, ← select_texts_eq_iff,
      map_str_textsOf h]
    exact ⟨Value.arr.inj, congrArg Value.arr⟩

lemma overrideList_twice_iff (draft : Option Value) (vs : List Value) :
    overrideList (some (overrideList draft vs)) vs = overrideList draft vs ↔
      SettlesList draft vs := by
  rw [SettlesList]
  cases hkind : kind (.arr vs) with
  | stringList => exact overrideList_twice_stringList_iff hkind draft
  | objectList | mixedList =>
    rw [overrideList_objects (by simp [hkind]), overrideList_objects (by simp [hkind]),
      ← upsert_eq_self_iff]
    exact ⟨Value.arr.inj, congrArg Value.arr⟩
  | _ => simp [overrideList, hkind]

/-! ### Values -/

mutual

/-- Does what an override value makes of an entry stay as it is when the value meets it again? -/
def Settles (draft : Option Value) : Value → Prop
  | .obj o  => SettlesFields (fieldsOf draft) o
  | .arr vs => SettlesList draft vs
  | _       => True

/-- Does each entry of an override settle at the entry of its name? -/
def SettlesFields (draft : Entries Value) : List (String × Value) → Prop
  | []          => True
  | (k, v) :: o => Settles (draft.get? k) v ∧ SettlesFields draft o

end

lemma settlesFields_iff : SettlesFields draft o ↔ ∀ e ∈ o, Settles (draft.get? e.1) e.2 := by
  induction o with
  | nil => simp [SettlesFields]
  | cons e o ih => simp [SettlesFields, ih]

mutual

theorem overrideValue_twice_iff {v : Value} (hv : v.WellFormed) (draft : Option Value) :
    overrideValue (overrideValue draft v) v = overrideValue draft v ↔ Settles draft v := by
  match v with
  | .obj o =>
    have ho := wellFormed_obj_iff.mp hv
    have hfields := overrideFields_twice_iff ho.2 (fieldsOf draft)
    rw [Settles, settlesFields_iff, ← hfields]
    simp only [overrideValue, overrideFields_eq_apply, Option.some.injEq, Value.obj.injEq]
    exact (apply_apply_iff ho.1).trans (by simp)
  | .arr vs =>
    rw [Settles, ← overrideList_twice_iff]
    exact Option.some_inj
  | .null | .bool _ | .int _ | .float _ | .shown _ => exact iff_of_true rfl trivial
  | .str s =>
    refine iff_of_true ?_ trivial
    simp only [overrideValue]

theorem overrideFields_twice_iff {o : Entries Value} (ho : ∀ e ∈ o, e.2.WellFormed)
    (draft : Entries Value) :
    (∀ e ∈ o, overrideValue (overrideValue (draft.get? e.1) e.2) e.2
        = overrideValue (draft.get? e.1) e.2) ↔
      ∀ e ∈ o, Settles (draft.get? e.1) e.2 := by
  match o with
  | [] => simp
  | (k, v) :: o =>
    rw [List.forall_mem_cons, List.forall_mem_cons,
      overrideValue_twice_iff (ho (k, v) List.mem_cons_self),
      overrideFields_twice_iff (fun e he => ho e (List.mem_cons_of_mem _ he)) draft]

end

/-! ### Overrides that settle everywhere -/

/-- Do the texts of a list stand in groups, and are its objects told apart by texts? -/
def RegularList (vs : List Value) : Prop :=
  (kind (.arr vs) = .stringList → Grouped (textsOf vs)) ∧
    ∃ names, ∀ o ∈ objectsOf vs, ToldApart names o

mutual

/-- Is every list in an override value regular, elements of lists aside? -/
def Regular : Value → Prop
  | .obj o  => RegularFields o
  | .arr vs => RegularList vs
  | _       => True

def RegularFields : List (String × Value) → Prop
  | []          => True
  | (_, v) :: o => Regular v ∧ RegularFields o

end

lemma wellFormed_of_mem_objectsOf {vs : List Value} (hvs : ∀ v ∈ vs, v.WellFormed)
    {o : Entries Value} (ho : o ∈ objectsOf vs) : (Value.obj o).WellFormed := by
  obtain ⟨v, hv, hfields⟩ := List.mem_filterMap.mp ho
  cases v with
  | obj fs =>
    obtain rfl := Option.some.inj hfields
    exact hvs _ hv
  | _ => cases hfields

lemma wellFormed_of_mem_elemsOf {draft : Option Value} (hdraft : ∀ v, draft = some v → v.WellFormed)
    {e : Value} (he : e ∈ elemsOf draft) : e.WellFormed := by
  match draft with
  | some (.arr es) => exact wellFormed_arr_iff.mp (hdraft _ rfl) e he
  | none => cases he
  | some .null | some (.bool _) | some (.int _) | some (.float _) | some (.str _)
  | some (.obj _) | some (.shown _) => cases he

lemma wellFormed_fieldsOf {draft : Option Value} (hdraft : ∀ v, draft = some v → v.WellFormed) :
    (Value.obj (fieldsOf draft)).WellFormed := by
  match draft with
  | some (.obj fs) => exact hdraft _ rfl
  | none => exact wellFormed_obj_iff.mpr ⟨List.nodup_nil, nofun⟩
  | some .null | some (.bool _) | some (.int _) | some (.float _) | some (.str _)
  | some (.arr _) | some (.shown _) => exact wellFormed_obj_iff.mpr ⟨List.nodup_nil, nofun⟩

lemma settlesList_of_regular {draft : Option Value} {vs : List Value}
    (hdraft : ∀ v, draft = some v → v.WellFormed) (hvs : ∀ v ∈ vs, v.WellFormed)
    (h : RegularList vs) : SettlesList draft vs := by
  obtain ⟨hgrouped, names, hapart⟩ := h
  have hsettled : Settled (upsert (elemsOf draft) (objectsOf vs)) (objectsOf vs) :=
    settled_of_toldApart (fun o ho => ⟨hapart o ho, wellFormed_of_mem_objectsOf hvs ho⟩)
      fun e he => wellFormed_of_mem_elemsOf hdraft he
  rw [SettlesList]
  cases hkind : kind (.arr vs) with
  | stringList => exact .inr (hgrouped hkind)
  | objectList | mixedList => exact hsettled
  | _ => trivial

mutual

/-- A regular value settles wherever it is applied. -/
theorem settles_of_regular {v : Value} (hv : v.WellFormed) (h : Regular v) {draft : Option Value}
    (hdraft : ∀ w, draft = some w → w.WellFormed) : Settles draft v := by
  match v with
  | .obj o =>
    exact settlesFields_of_regular (wellFormed_obj_iff.mp hv).2 h (wellFormed_fieldsOf hdraft)
  | .arr vs => exact settlesList_of_regular hdraft (wellFormed_arr_iff.mp hv) h
  | .null | .bool _ | .int _ | .float _ | .str _ | .shown _ => trivial

theorem settlesFields_of_regular {o : Entries Value} (ho : ∀ e ∈ o, e.2.WellFormed)
    (h : RegularFields o) {draft : Entries Value} (hdraft : (Value.obj draft).WellFormed) :
    SettlesFields draft o := by
  match o with
  | [] => trivial
  | (k, v) :: o =>
    exact ⟨settles_of_regular (ho (k, v) List.mem_cons_self) h.1 fun w hw => hdraft.of_get? hw,
      settlesFields_of_regular (fun e he => ho e (List.mem_cons_of_mem _ he)) h.2 hdraft⟩

end

/--
Applying an override to its own outcome changes nothing exactly when each of its allowed entries
settles where it is applied. Regular entries do, whatever they are applied to.
-/
theorem apply_twice (allows : String → Bool) (draft o : ReadObject) :
    (apply allows (apply allows draft o) o = apply allows draft o ↔
        ∀ e ∈ o.val, allows e.1 = true → Settles (draft.val.get? e.1) e.2) ∧
      ((∀ e ∈ o.val, allows e.1 = true → Regular e.2) →
        apply allows (apply allows draft o) o = apply allows draft o) := by
  obtain ⟨draft, hdraft⟩ := draft
  obtain ⟨o, ho⟩ := o
  have hiff : apply allows (apply allows draft o) o = apply allows draft o ↔
      ∀ e ∈ o, allows e.1 = true → Settles (draft.get? e.1) e.2 := by
    rw [apply_apply_iff ho.nodup_keys]
    exact forall₃_congr fun e he _ => overrideValue_twice_iff (ho.of_mem he) _
  refine ⟨hiff, fun hregular => hiff.mpr fun e he hallows => ?_⟩
  exact settles_of_regular (ho.of_mem he) (hregular e he hallows) fun w hw => hdraft.of_get? hw

def listSection : Entries Value :=
  [("actions", .arr [.obj [("type", .str "a")], .obj [("type", .str "c")]]),
    ("fields", .arr [.obj [("key", .str "x"), ("v", .int 1)]])]

/-- An override that reorders the elements of one list and merges into those of the other. -/
def listOverride : Entries Value :=
  [("actions", .arr [.str "c", .str "a"]),
    ("fields", .arr [.str "x", .obj [("key", .str "x"), ("v", .int 2)],
      .obj [("divider", .bool true)]])]

lemma regular_listOverride : ∀ e ∈ listOverride, Regular e.2 := by
  have htexts : Grouped ["c", "a"] := fun u v w hs => absurd hs.length_le (by simp)
  have hapart : ∀ o ∈ [[("key", Value.str "x"), ("v", Value.int 2)], [("divider", .bool true)]],
      ToldApart ["key"] o := by
    intro o ho
    simp only [List.mem_cons, List.not_mem_nil, or_false] at ho
    rcases ho with rfl | rfl
    · have hid : identity? [("key", Value.str "x"), ("v", Value.int 2)]
          = some ("key", .str "x") := rfl
      refine ⟨fun n v h => ?_, fun n hn => .inr fun m v h => ?_⟩
      · cases hid.symm.trans h
        exact ⟨List.mem_cons_self, "x", rfl⟩
      · cases hid.symm.trans h
        exact (List.mem_singleton.mp hn).symm
    · have hid : identity? [("divider", Value.bool true)] = none := rfl
      exact ⟨fun n v h => (by cases hid.symm.trans h), fun n _ => .inr fun m v h => by
        cases hid.symm.trans h⟩
  intro e he
  simp only [listOverride, List.mem_cons, List.not_mem_nil, or_false] at he
  rcases he with rfl | rfl
  · exact ⟨fun _ => htexts, [], by simp [objectsOf, Value.fields?]⟩
  · exact ⟨fun h => (by cases h), ["key"], hapart⟩

theorem apply_twice_lists :
    (Value.obj listSection).WellFormed ∧ (Value.obj listOverride).WellFormed ∧
      apply (fun _ => true) (apply (fun _ => true) listSection listOverride) listOverride
        = apply (fun _ => true) listSection listOverride := by
  have hdraft : (Value.obj listSection).WellFormed := by
    simp [listSection, WellFormed, WellFormedFields, WellFormedElems]
  have ho : (Value.obj listOverride).WellFormed := by
    simp [listOverride, WellFormed, WellFormedFields, WellFormedElems]
  exact ⟨hdraft, ho, (apply_twice _ ⟨_, hdraft⟩ ⟨_, ho⟩).2 fun e he _ => regular_listOverride e he⟩

/-- A list with two texts that are the same and stand apart, where there is nothing to select. -/
theorem apply_twice_scattered :
    ∃ draft o : ReadObject,
      apply (fun _ => true) (apply (fun _ => true) draft o) o ≠ apply (fun _ => true) draft o := by
  refine ⟨⟨[], ?_⟩, ⟨[("actions", .arr [.str "edit", .str "view", .str "edit"])], ?_⟩, ?_⟩
  · simp [WellFormed, WellFormedFields]
  · simp [WellFormed, WellFormedFields, WellFormedElems]
  · intro h
    have hone : apply (fun _ => true) []
        [("actions", .arr [.str "edit", .str "view", .str "edit"])]
          = [("actions", .arr [.str "edit", .str "view", .str "edit"])] := by
      with_unfolding_all rfl
    have htwo : apply (fun _ => true) [("actions", .arr [.str "edit", .str "view", .str "edit"])]
        [("actions", .arr [.str "edit", .str "view", .str "edit"])]
          = [("actions", .arr [.str "edit", .str "edit", .str "view"])] := by
      with_unfolding_all rfl
    rw [hone, htwo] at h
    simp at h

end ViewAssembly.Override
