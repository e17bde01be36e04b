import ViewAssembly.Json.Document
import ViewAssembly.Proofs.Value.Proper

/-!
# Values that are read from JSON

Every value that a JSON text denotes is proper: its objects have distinct names, and its numbers are
held in their canonical form (`Value.proper_of_ofJson?`). The reader keeps this of what it has read
so far, token by token.
-/

namespace ViewAssembly

open Value

namespace Json

variable {cs : List Char} {v : Value} {ts : List Token}

/-! ### Tokens -/

def Token.Proper : Token → Prop
  | .scalar v => v.Proper
  | _         => True

lemma proper_of_number? (h : number? cs = some v) : v.Proper := by
  have hint (n : Int) : (int n).Proper := ⟨trivial, trivial⟩
  have hfloat (negative : Bool) (digits : Nat) (e : Int) :
      (float (.ofDecimal negative digits e)).Proper :=
    ⟨trivial, Binary64.canonical_ofDecimal negative digits e⟩
  unfold number? at h
  dsimp only at h
  -- with and without a sign
  split at h
  all_goals
    split at h
    · cases h
    split at h
    · split at h
      · cases h
      · exact Option.some.inj h ▸ hint _
    · split at h
      · cases h
      · obtain ⟨e, -, h⟩ := Option.bind_eq_some_iff.mp h
        exact Option.some.inj h ▸ hfloat _ _ _
    · obtain ⟨e, -, h⟩ := Option.bind_eq_some_iff.mp h
      exact Option.some.inj h ▸ hfloat _ _ _

lemma proper_of_word? (h : word? cs = some v) : v.Proper := by
  unfold word? at h
  split at h <;> cases h <;> exact ⟨trivial, trivial⟩

/-- Tokens behind a proper one. -/
lemma forall_proper_of_map_cons {t : Token} {more : Option (List Token)}
    (h : more.map (t :: ·) = some ts) (ht : t.Proper)
    (hmore : ∀ {ts}, more = some ts → ∀ t ∈ ts, t.Proper) : ∀ t ∈ ts, t.Proper := by
  obtain ⟨rest, hrest, rfl⟩ := Option.map_eq_some_iff.mp h
  exact List.forall_mem_cons.mpr ⟨ht, hmore hrest⟩

theorem proper_of_tokens? (h : tokens? cs = some ts) : ∀ t ∈ ts, t.Proper := by
  fun_induction tokens? cs generalizing ts with
  | case1 =>
    obtain rfl := Option.some.inj h
    nofun
  | case2 c cs _ ih => exact ih h
  | case3 cs _ ih | case4 cs _ ih | case5 cs _ ih | case6 cs _ ih | case7 cs _ ih
  | case8 cs _ ih => exact forall_proper_of_map_cons h trivial ih
  | case9 cs units rest _ _ _ ih => exact forall_proper_of_map_cons h ⟨trivial, trivial⟩ ih
  | case10 => cases h
  | case11 c cs _ chars v hscalar =>
    rename_i ih
    dsimp only at h
    rw [hscalar] at h
    have hv : v.Proper := by
      rcases Option.or_eq_some_iff.mp hscalar with hword | ⟨-, hnumber⟩
      · exact proper_of_word? hword
      · exact proper_of_number? hnumber
    exact forall_proper_of_map_cons h hv ih
  | case12 c cs _ chars hscalar =>
    dsimp only at h
    rw [hscalar] at h
    cases h

/-! ### Documents -/

/-- Does an open container hold proper values only, under distinct names? -/
def Open.Proper : Open → Prop
  | .elems vs   => ∀ v ∈ vs, v.Proper
  | .fields es  => (obj es).Proper
  | .entry es _ => (obj es).Proper

lemma Open.proper_elems_nil : (Open.elems []).Proper := nofun

lemma Open.proper_elems_cons {vs : List Value} (hv : v.Proper) (h : (Open.elems vs).Proper) :
    (Open.elems (v :: vs)).Proper := List.forall_mem_cons.mpr ⟨hv, h⟩

def Next.Proper : Next → Prop
  | .ended v => v.Proper
  | _        => True

namespace State

/-- Has the reader read proper values only? -/
structure Proper (s : State) : Prop where
  containers : ∀ c ∈ s.containers, c.Proper
  next : s.next.Proper

variable {s s' : State} {t : Token} {containers : List Open}

lemma proper_of_begin (hcontainers : ∀ c ∈ containers, c.Proper) (ht : t.Proper)
    (h : begin containers t = some s) : s.Proper := by
  have hopened {c : Open} {next : Next} (h : opened containers c next = some s) (hc : c.Proper)
      (hnext : next.Proper) : s.Proper := by
    rw [opened] at h
    split at h
    · obtain rfl := Option.some.inj h
      exact ⟨List.forall_mem_cons.mpr ⟨hc, hcontainers⟩, hnext⟩
    · cases h
  cases t with
  | scalar v =>
    obtain rfl := Option.some.inj h
    exact ⟨hcontainers, ht⟩
  | openArr => exact hopened h Open.proper_elems_nil trivial
  | openObj => exact hopened h proper_obj_nil trivial
  | closeObj | closeArr | colon | comma => cases h

/-- What the reader can do with a token. -/
inductive Takes : State → Token → State → Prop
  | value {cs : List Open} {t : Token} {s : State} (h : begin cs t = some s) :
    Takes ⟨cs, .value⟩ t s
  | emptyArr {cs : List Open} :
    Takes ⟨.elems [] :: cs, .elemOrEnd⟩ .closeArr ⟨cs, .ended (.arr [])⟩
  | firstElem {cs : List Open} {t : Token} {s : State} (h : begin cs t = some s) :
    Takes ⟨cs, .elemOrEnd⟩ t s
  | emptyObj {cs : List Open} :
    Takes ⟨.fields [] :: cs, .nameOrEnd⟩ .closeObj ⟨cs, .ended (.obj [])⟩
  | firstName {cs : List Open} {n : String} :
    Takes ⟨cs, .nameOrEnd⟩ (.scalar (.str n)) ⟨cs, .colon n⟩
  | nextName {cs : List Open} {n : String} :
    Takes ⟨cs, .name⟩ (.scalar (.str n)) ⟨cs, .colon n⟩
  | colon {cs : List Open} {es : Entries Value} {n : String} :
    Takes ⟨.fields es :: cs, .colon n⟩ .colon ⟨.entry es n :: cs, .value⟩
  | afterElem {cs : List Open} {vs : List Value} {v : Value} :
    Takes ⟨.elems vs :: cs, .ended v⟩ .comma ⟨.elems (v :: vs) :: cs, .value⟩
  | lastElem {cs : List Open} {vs : List Value} {v : Value} :
    Takes ⟨.elems vs :: cs, .ended v⟩ .closeArr ⟨cs, .ended (.arr (v :: vs).reverse)⟩
  | afterEntry {cs : List Open} {es : Entries Value} {n : String} {v : Value} :
    Takes ⟨.entry es n :: cs, .ended v⟩ .comma ⟨.fields (es.put n v) :: cs, .name⟩
  | lastEntry {cs : List Open} {es : Entries Value} {n : String} {v : Value} :
    Takes ⟨.entry es n :: cs, .ended v⟩ .closeObj ⟨cs, .ended (.obj (es.put n v))⟩

lemma takes_of_step (h : s.step t = some s') : Takes s t s' := by
  unfold step at h
  split at h
  -- what starts a value, and what stands where an array may end
  · exact .value h
  · cases h; exact .emptyArr
  · exact .firstElem h
  -- names
  · cases h; exact .emptyObj
  · cases h; exact .firstName
  · cases h; exact .nextName
  · cases h; exact .colon
  -- what comes after a value that has ended
  · cases h; exact .afterElem
  · cases h; exact .lastElem
  · cases h; exact .afterEntry
  · cases h; exact .lastEntry
  · cases h

/-- Taking a token. -/
lemma Proper.step (hs : s.Proper) (ht : t.Proper) (h : s.step t = some s') : s'.Proper := by
  obtain ⟨hcontainers, hnext⟩ := hs
  cases takes_of_step h with
  | value h | firstElem h => exact proper_of_begin hcontainers ht h
  | firstName | nextName => exact ⟨hcontainers, trivial⟩
  | emptyArr => exact ⟨(List.forall_mem_cons.mp hcontainers).2, proper_arr_iff.mpr nofun⟩
  | emptyObj => exact ⟨(List.forall_mem_cons.mp hcontainers).2, proper_obj_nil⟩
  | colon =>
    obtain ⟨hfields, houter⟩ := List.forall_mem_cons.mp hcontainers
    exact ⟨List.forall_mem_cons.mpr ⟨hfields, houter⟩, trivial⟩
  | afterElem =>
    obtain ⟨hbefore, houter⟩ := List.forall_mem_cons.mp hcontainers
    have helems := Open.proper_elems_cons hnext hbefore
    exact ⟨List.forall_mem_cons.mpr ⟨helems, houter⟩, trivial⟩
  | lastElem =>
    obtain ⟨hbefore, houter⟩ := List.forall_mem_cons.mp hcontainers
    have helems := Open.proper_elems_cons hnext hbefore
    exact ⟨houter, proper_arr_iff.mpr fun v hv => helems v (List.mem_reverse.mp hv)⟩
  | afterEntry =>
    obtain ⟨hbefore, houter⟩ := List.forall_mem_cons.mp hcontainers
    exact ⟨List.forall_mem_cons.mpr ⟨hbefore.put hnext _, houter⟩, trivial⟩
  | lastEntry =>
    obtain ⟨hbefore, houter⟩ := List.forall_mem_cons.mp hcontainers
    exact ⟨houter, hbefore.put hnext _⟩

lemma Proper.foldlM_step (hs : s.Proper) (hts : ∀ t ∈ ts, t.Proper)
    (h : ts.foldlM State.step s = some s') : s'.Proper := by
  induction ts generalizing s with
  | nil =>
    obtain rfl := Option.some.inj h
    exact hs
  | cons t ts ih =>
    obtain ⟨ht, hts⟩ := List.forall_mem_cons.mp hts
    rw [List.foldlM_cons] at h
    obtain ⟨next, hnext, h⟩ := Option.bind_eq_some_iff.mp h
    exact ih (hs.step ht hnext) hts h

end State

end Json

/-- Every value that is read from JSON is proper. -/
theorem Value.proper_of_ofJson? {s : String} {v : Value} (h : Value.ofJson? s = some v) :
    v.Proper := by
  obtain ⟨ts, hts, h⟩ := Option.bind_eq_some_iff.mp h
  obtain ⟨state, hstate, hresult⟩ := Option.bind_eq_some_iff.mp h
  have hstart : Json.State.start.Proper := ⟨nofun, trivial⟩
  have hproper := hstart.foldlM_step (Json.proper_of_tokens? hts) hstate
  unfold Json.State.result? at hresult
  split at hresult
  · obtain rfl := Option.some.inj hresult
    exact hproper.next
  · cases hresult

/-! ### Reading well-formed values -/

def ReadValue.ofJson? (s : String) : Option ReadValue :=
  (Value.ofJson? s).pmap Subtype.mk fun _ h => (Value.proper_of_ofJson? h).wellFormed

lemma ReadValue.map_val_ofJson? (s : String) : (ofJson? s).map Subtype.val = Value.ofJson? s := by
  rw [ofJson?, Option.map_pmap]
  simp

def ReadObject.ofJson? (s : String) : Option ReadObject :=
  (ReadValue.ofJson? s).bind ReadValue.fields?

lemma ReadObject.map_val_ofJson? (s : String) :
    (ofJson? s).map Subtype.val = (Value.ofJson? s).bind Value.fields? := by
  rw [← ReadValue.map_val_ofJson?, ofJson?]
  cases ReadValue.ofJson? s with
  | none => rfl
  | some v => exact v.map_val_fields?

end ViewAssembly
