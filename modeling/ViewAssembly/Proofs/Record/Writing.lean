import Mathlib.Data.List.Basic
import ViewAssembly.Proofs.Entries
import ViewAssembly.Proofs.Record.Reading

/-!
# Records that are written out

A record is written with all its fields under their main names, followed by the entries that no
field takes. If none of these has the main name of a field, each field is read back from what was
written for it, and the other entries are left over again (`FieldName.unused_written`). What is left
over when a record is read is of that kind (`FieldName.besides_unused`).
-/

namespace ViewAssembly

namespace FieldName

variable {α : Type} {name : FieldName} {names : List FieldName} {fs declared extras : Entries Value}
  {reader : Value → Option α} {absent : Checked α} {v : Value} {a : α}

/-- A field is read from what stands under its main name. -/
lemma read_eq_ok_of_get? (h : fs.get? name.main = some v) (hv : reader v = some a) :
    name.read fs absent reader = .ok a := by
  rw [read, find?, h]
  simp [Checked.ofOption, hv]

/--
Can entries stand beside the fields of a record: are their names whole, and other ones than the main
names of the fields?
-/
def Besides (names : List FieldName) (extras : Entries Value) : Prop :=
  ∀ k ∈ extras.keys, Text.hasHalf k = false ∧ k ∉ names.map main

/-- What no field takes has no field's main name, for that would have been taken. -/
lemma besides_unused (hwhole : ∀ k ∈ fs.keys, Text.hasHalf k = false) :
    Besides names (unused names fs) := by
  intro k hk
  rw [unused, Entries.mem_keys_restrict] at hk
  obtain ⟨hmem, hunused⟩ := hk
  refine ⟨hwhole k hmem, fun hmain => ?_⟩
  obtain ⟨name, hname, rfl⟩ := List.mem_map.mp hmain
  obtain ⟨v, hv⟩ := Option.isSome_iff_exists.mp (Entries.isSome_get?_iff.mpr hmem)
  have hfind : name.find? fs = some (name.main, v) := by rw [find?, hv]
  have hused : name.main ∈ names.filterMap fun name => (name.find? fs).map Prod.fst :=
    List.mem_filterMap.mpr ⟨name, hname, by rw [hfind]; rfl⟩
  simp [hused] at hunused

/-- Where every field stands under its main name, the fields take these names and no others. -/
lemma filterMap_find?_eq (h : ∀ name ∈ names, name.main ∈ fs.keys) :
    (names.filterMap fun name => (name.find? fs).map Prod.fst) = names.map main := by
  rw [← List.filterMap_eq_map]
  apply List.filterMap_congr
  intro name hname
  obtain ⟨v, hv⟩ := Option.isSome_iff_exists.mp (Entries.isSome_get?_iff.mpr (h name hname))
  simp [find?, hv]

/-- Behind fields that are written under their main names, the other entries are left over. -/
lemma unused_written (hdeclared : declared.keys = names.map main) (h : Besides names extras) :
    unused names (declared ++ extras) = extras := by
  have hmem : ∀ name ∈ names, name.main ∈ Entries.keys (declared ++ extras) := by
    intro name hname
    rw [Entries.keys_append, hdeclared]
    exact List.mem_append_left _ (List.mem_map_of_mem hname)
  have hfields : declared.filter (fun e => !(names.map main).contains e.1) = [] := by
    rw [List.filter_eq_nil_iff]
    intro e he
    have hkey : e.1 ∈ names.map main := hdeclared ▸ List.mem_map_of_mem he
    simpa using hkey
  have hextras : extras.filter (fun e => !(names.map main).contains e.1) = extras := by
    rw [List.filter_eq_self]
    intro e he
    simpa using (h e.1 (List.mem_map_of_mem he)).2
  rw [unused, filterMap_find?_eq hmem, Entries.restrict, List.filter_append, hfields, hextras,
    List.nil_append]

/-- Fields that are written under whole names, and entries beside them, have whole names. -/
lemma whole_written (hnames : ∀ name ∈ names, Text.hasHalf name.main = false)
    (hdeclared : declared.keys = names.map main) (h : Besides names extras) :
    ∀ k ∈ Entries.keys (declared ++ extras), Text.hasHalf k = false := by
  intro k hk
  rw [Entries.keys_append, hdeclared, List.mem_append] at hk
  rcases hk with hmain | hextra
  · obtain ⟨name, hname, rfl⟩ := List.mem_map.mp hmain
    exact hnames name hname
  · exact (h k hextra).1

end FieldName

/-! ### Values that are written are read back -/

namespace Value

variable {α : Type} {reader : Value → Option α} {write : α → Value} {v : Value} {a : α}
  {es : Entries α}

/-- What suits a reader that does not take null suits a field that may be null. -/
lemma readOptional?_eq_some (hnull : reader null = none) (hv : reader v = some a) :
    readOptional? reader v = some (some a) := by
  cases v with
  | null => cases hnull.symm.trans hv
  | _ => exact congrArg (Option.map some) hv

/-- What a field is set to, other than null, suits its reader. -/
lemma reader_of_readOptional? (h : readOptional? reader v = some (some a)) :
    reader v = some a := by
  cases v with
  | null => cases h
  | _ =>
    obtain ⟨b, hb, heq⟩ := Option.map_eq_some_iff.mp h
    cases heq
    exact hb

lemma readFlag?_bool (b : Bool) : readFlag? (bool b) = some b := rfl

lemma fields?_obj (fs : Entries Value) : fields? (obj fs) = some fs := rfl

lemma readNames?_texts (ss : List String) : readNames? (arr (ss.map str)) = some ss := by
  change (ss.map str).mapM str? = some ss
  induction ss with
  | nil => rfl
  | cons s ss ih =>
    rw [List.map_cons, List.mapM_cons, ih]
    rfl

lemma readEntries?_written (h : ∀ e ∈ es, reader (write e.2) = some e.2) :
    readEntries? reader (obj (es.mapValues fun _ a => write a)) = some es := by
  change (es.map fun e => (e.1, write e.2)).mapM (fun e => (reader e.2).map (e.1, ·)) = some es
  induction es with
  | nil => rfl
  | cons e es ih =>
    obtain ⟨he, hes⟩ := List.forall_mem_cons.mp h
    rw [List.map_cons, List.mapM_cons, ih hes, he]
    rfl

/-- What is read from an object is read from values in it. -/
lemma exists_of_readEntries? (h : readEntries? reader v = some es) :
    ∀ e ∈ es, ∃ w, reader w = some e.2 := by
  obtain ⟨fs, -, hfs⟩ := Option.bind_eq_some_iff.mp h
  clear h
  induction fs generalizing es with
  | nil =>
    cases hfs
    exact List.forall_mem_nil _
  | cons f fs ih =>
    rw [List.mapM_cons] at hfs
    obtain ⟨e, he, hfs⟩ := Option.bind_eq_some_iff.mp hfs
    obtain ⟨rest, hrest, hes⟩ := Option.bind_eq_some_iff.mp hfs
    obtain ⟨a, ha, rfl⟩ := Option.map_eq_some_iff.mp he
    cases hes
    exact List.forall_mem_cons.mpr ⟨⟨f.2, ha⟩, ih hrest⟩

end Value

/-- A field that was read and is set was read from a value that suits its reader. -/
lemma FieldName.exists_of_read_eq_some {α : Type} {name : FieldName} {fs : Entries Value}
    {reader : Value → Option α} {a : α}
    (h : name.read fs (.ok none) (Value.readOptional? reader) = .ok (some a)) :
    ∃ v, reader v = some a := by
  rcases read_eq_ok_iff.mp h with ⟨-, hunset⟩ | ⟨_, v, -, hv⟩
  · cases hunset
  · exact ⟨v, Value.reader_of_readOptional? hv⟩

end ViewAssembly
