import ViewAssembly.Proofs.Value.Basic
import ViewAssembly.Yaml.Document

/-!
# The names in YAML documents

A name that a map gives twice is set twice, so the names of every object that a YAML text denotes
are distinct (`Denoted.nodup_keys`), and so are those of the objects inside it (`Denoted.of_mem`).
This says nothing about the names of a map that is shown as an object: there `1` and `"1"` are two
names that are written alike.
-/

namespace ViewAssembly.Yaml

variable {es : List (Value × Value)} {fs : Entries Value} {v : Value}

/-! ### Setting entries -/

/-- Do the names of these entries denote different things? -/
def NamesDiffer (es : List (Value × Value)) : Prop :=
  es.Pairwise fun e f => e.1.samePart f.1 = false

lemma NamesDiffer.setEntry (h : NamesDiffer es) (name v : Value) :
    NamesDiffer (setEntry es name v) := by
  rw [Yaml.setEntry]
  split
  · -- the entry is set in place, under the name that is there
    apply List.pairwise_map.mpr
    apply h.imp
    intro e f hef
    split_ifs <;> exact hef
  · next hnew =>
    refine List.pairwise_append.mpr ⟨h, List.pairwise_singleton _ _, ?_⟩
    intro e he f hf
    obtain rfl := List.mem_singleton.mp hf
    simpa using fun hsame => hnew (List.any_eq_true.mpr ⟨e, he, hsame⟩)

/-- What holds of the values of all entries and of a new value still holds when it is set. -/
lemma forall_setEntry {p : Value → Prop} (h : ∀ e ∈ es, p e.2) (name : Value) (hv : p v) :
    ∀ e ∈ setEntry es name v, p e.2 := by
  rw [setEntry]
  split
  · rintro _ hmem
    obtain ⟨e, he, rfl⟩ := List.mem_map.mp hmem
    by_cases hsame : e.1.samePart name = true
    · simpa [hsame] using hv
    · simpa [hsame] using h e he
  · simp only [List.forall_mem_append, List.forall_mem_singleton]
    exact ⟨h, hv⟩

/-- The entries of a map: each name once, with the value that is given last. -/
def settled (es : List (Value × Value)) : List (Value × Value) :=
  es.foldl (fun es e => setEntry es e.1 e.2) []

lemma namesDiffer_settled (es : List (Value × Value)) : NamesDiffer (settled es) := by
  apply List.foldlRecOn (motive := NamesDiffer)
  · exact List.Pairwise.nil
  · intro es h e _
    exact h.setEntry e.1 e.2

lemma forall_settled {p : Value → Prop} (h : ∀ e ∈ es, p e.2) : ∀ e ∈ settled es, p e.2 := by
  apply List.foldlRecOn (motive := fun es : List (Value × Value) => ∀ e ∈ es, p e.2)
  · nofun
  · intro es hes e he
    exact forall_setEntry hes e.1 (h e he)

def shownEntries (es : List (Value × Value)) : Entries Value :=
  es.map fun e => (nameText e.1, e.2)

/-- Names that are all texts are written as they are, hence differently. -/
lemma NamesDiffer.nodup_keys (h : NamesDiffer es) (htexts : ∀ e ∈ es, e.1.isStr = true) :
    (shownEntries es).keys.Nodup := by
  rw [shownEntries, Entries.keys, List.map_map]
  apply List.pairwise_map.mpr
  apply List.Pairwise.imp_of_mem _ h
  intro e f he hf hef
  obtain ⟨s, hs⟩ := Option.isSome_iff_exists.mp (htexts e he)
  obtain ⟨t, ht⟩ := Option.isSome_iff_exists.mp (htexts f hf)
  rw [Value.str?_eq_some_iff] at hs ht
  rw [hs, ht] at hef
  intro hst
  simp only [Function.comp_apply, hs, ht, nameText, Value.text] at hst
  subst hst
  simp [Value.samePart, Value.same] at hef

/-- A map is an object when its names are all texts, and shown as an object otherwise. -/
lemma ofEntries_eq (es : List (Value × Value)) :
    ofEntries es = if (settled es).all (·.1.isStr) then .obj (shownEntries (settled es))
      else .shown (.obj (shownEntries (settled es))) := rfl

lemma nodup_keys_of_ofEntries (h : ofEntries es = .obj fs) : fs.keys.Nodup := by
  rw [ofEntries_eq] at h
  split at h
  · next htexts =>
    cases h
    exact (namesDiffer_settled es).nodup_keys (List.all_eq_true.mp htexts)
  · cases h

lemma record?_ofEntries (es : List (Value × Value)) :
    (ofEntries es).record? = some (shownEntries (settled es)) := by
  rw [ofEntries_eq]
  split <;> rfl

/-! ### What nodes denote -/

/-- Is this what some node denotes? -/
def Denoted (v : Value) : Prop := ∃ node : Node, node.value? = some v

/-- A scalar is no object, and is shown as none. -/
lemma record?_of_scalar {kind : ScalarKind} {text : String} (h : kind.value? text = some v) :
    v.record? = none := by
  cases kind with
  | null | text =>
    cases h
    rfl
  | bool | int | float =>
    obtain ⟨x, -, rfl⟩ := Option.map_eq_some_iff.mp h
    rfl
  | moment =>
    obtain ⟨t, -, h⟩ := Option.bind_eq_some_iff.mp h
    split at h
    · cases h
      rfl
    · cases h
  | merge | value => cases h

open Node in
mutual

/-- The values in the entries of a map are what nodes denote. -/
lemma denoted_of_ownEntries? {entries : List (Node × Node)} {merged own : List (Value × Value)}
    (h : ownEntries? entries = some (merged, own)) : ∀ e ∈ merged ++ own, Denoted e.2 := by
  match entries with
  | [] =>
    rw [ownEntries?] at h
    cases h
    nofun
  | (k, v) :: rest =>
    rw [ownEntries?] at h
    split at h
    · obtain ⟨taken, htaken, h⟩ := Option.bind_eq_some_iff.mp h
      obtain ⟨⟨merged', own'⟩, hrest, h⟩ := Option.bind_eq_some_iff.mp h
      cases h
      rw [List.append_assoc]
      exact List.forall_mem_append.mpr
        ⟨denoted_of_takenEntries? htaken, denoted_of_ownEntries? hrest⟩
    · obtain ⟨name, -, h⟩ := Option.bind_eq_some_iff.mp h
      obtain ⟨w, hw, h⟩ := Option.bind_eq_some_iff.mp h
      obtain ⟨⟨merged', own'⟩, hrest, h⟩ := Option.bind_eq_some_iff.mp h
      cases h
      have hrest := denoted_of_ownEntries? hrest
      simp only [List.forall_mem_append, List.forall_mem_cons] at hrest ⊢
      exact ⟨hrest.1, ⟨v, hw⟩, hrest.2⟩

lemma denoted_of_takenEntries? {node : Node} {taken : List (Value × Value)}
    (h : node.takenEntries? = some taken) : ∀ e ∈ taken, Denoted e.2 := by
  match node with
  | .map tag entries =>
    rw [takenEntries?] at h
    obtain ⟨⟨merged, own⟩, hentries, rfl⟩ := Option.map_eq_some_iff.mp h
    exact denoted_of_ownEntries? hentries
  | .list tag elems =>
    rw [takenEntries?] at h
    exact denoted_of_takenElems? h
  | .scalar _ _ _ => simp [takenEntries?] at h

lemma denoted_of_takenElems? {elems : List Node} {taken : List (Value × Value)}
    (h : takenElems? elems = some taken) : ∀ e ∈ taken, Denoted e.2 := by
  match elems with
  | [] =>
    rw [takenElems?] at h
    cases h
    nofun
  | n :: ns =>
    rw [takenElems?] at h
    obtain ⟨first, hfirst, h⟩ := Option.bind_eq_some_iff.mp h
    obtain ⟨others, hothers, h⟩ := Option.bind_eq_some_iff.mp h
    cases h
    exact List.forall_mem_append.mpr ⟨denoted_of_takenElems? hothers, denoted_of_takenEntry? hfirst⟩

lemma denoted_of_takenEntry? {node : Node} {taken : List (Value × Value)}
    (h : takenEntry? node = some taken) : ∀ e ∈ taken, Denoted e.2 := by
  unfold takenEntry? at h
  match node with
  | .map tag entries =>
    obtain ⟨⟨merged, own⟩, hentries, rfl⟩ := Option.map_eq_some_iff.mp h
    exact denoted_of_ownEntries? hentries
  | .list _ _ | .scalar _ _ _ => cases h

end

/-- What a node denotes is no object, or it comes from entries whose values nodes denote. -/
lemma Denoted.record?_eq_none_or (h : Denoted v) :
    v.record? = none ∨ ∃ es, v = ofEntries es ∧ ∀ e ∈ es, Denoted e.2 := by
  obtain ⟨node, h⟩ := h
  cases node with
  | scalar tag text plain =>
    rw [Node.value?] at h
    obtain ⟨kind, -, h⟩ := Option.bind_eq_some_iff.mp h
    exact .inl (record?_of_scalar h)
  | list tag elems =>
    rw [Node.value?] at h
    split at h
    · obtain ⟨vs, -, rfl⟩ := Option.map_eq_some_iff.mp h
      exact .inl rfl
    · cases h
  | map tag entries =>
    rw [Node.value?] at h
    split at h
    · obtain ⟨⟨merged, own⟩, hentries, rfl⟩ := Option.map_eq_some_iff.mp h
      exact .inr ⟨merged ++ own, rfl, denoted_of_ownEntries? hentries⟩
    · cases h

/-- The names of an object that a node denotes are distinct. -/
theorem Denoted.nodup_keys (h : Denoted (.obj fs)) : fs.keys.Nodup := by
  rcases h.record?_eq_none_or with hnone | ⟨es, hes, -⟩
  · cases hnone
  · exact nodup_keys_of_ofEntries hes.symm

/-- The values of an object that a node denotes, or that is shown for it, are denoted by nodes. -/
theorem Denoted.of_mem (h : Denoted v) (hfs : v.record? = some fs) {e : String × Value}
    (he : e ∈ fs) : Denoted e.2 := by
  rcases h.record?_eq_none_or with hnone | ⟨es, rfl, hes⟩
  · rw [hnone] at hfs
    cases hfs
  · rw [record?_ofEntries] at hfs
    obtain rfl := Option.some.inj hfs
    obtain ⟨entry, hentry, rfl⟩ := List.mem_map.mp he
    exact forall_settled hes entry hentry

/-- What a text denotes is denoted by a node; a text without document is like an empty scalar. -/
theorem denoted_of_ofYaml? {text : String} (h : Value.ofYaml? text = some v) : Denoted v := by
  obtain ⟨tokens, -, h⟩ := Option.bind_eq_some_iff.mp h
  obtain ⟨document, -, h⟩ := Option.bind_eq_some_iff.mp h
  cases document with
  | none =>
    cases h
    exact ⟨.empty, rfl⟩
  | some node => exact ⟨node, h⟩

end ViewAssembly.Yaml
