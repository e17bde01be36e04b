import Mathlib.Data.List.Induction
import ViewAssembly.Proofs.Folder
import ViewAssembly.Schema.Library
import ViewAssembly.Template.Library
import ViewAssembly.View.Library

/-!
# What a catalog answers from

A catalog is called while its folder changes. What it answers is what the folder holds at one moment
of the past: when the catalog was last told to load it again, or, if that never happened, when the
definitions were first needed (`Collection.Frozen`). This is so for component templates, model
schemas and view configs alike (`frozen_of_folders`).
-/

namespace ViewAssembly

variable {α Question Reply : Type}

/-- What can happen: the folder is another one from now on, or the catalog is called. -/
inductive Event (Question : Type) where
  | change (folder : Folder)
  | call (c : Call Question)

namespace Event

def folder (f : Folder) : Event Question → Folder
  | .change f' => f'
  | .call _    => f

def folderAfter (start : Folder) (events : List (Event Question)) : Folder :=
  events.foldl folder start

/-- Is the catalog told to load the folder again? -/
def IsReload : Event Question → Prop
  | .call .reload => True
  | _             => False

instance : DecidablePred (@IsReload Question)
  | .call .reload  => .isTrue trivial
  | .call .load    => .isFalse id
  | .call (.ask _) => .isFalse id
  | .change _      => .isFalse id

end Event

namespace Collection

variable (k : Collection α Question Reply) {start folder : Folder} {c : Catalog α}
  {events before after : List (Event Question)} {e : Event Question} {q : Question}

/-- Is the catalog called for something that takes the definitions? -/
def Needs : Event Question → Prop
  | .change _      => False
  | .call (.ask q) => k.concerns q = true
  | .call _        => True

instance : DecidablePred k.Needs
  | .change _      => .isFalse id
  | .call (.ask q) => inferInstanceAs (Decidable (k.concerns q = true))
  | .call .load    => .isTrue trivial
  | .call .reload  => .isTrue trivial

def step (s : Folder × Catalog α) (e : Event Question) : Folder × Catalog α :=
  (e.folder s.1, match e with
    | .change _ => s.2
    | .call c   => (k.call s.1 s.2 c).2)

/-- The folder, and the catalog that starts with nothing loaded, after some things happened. -/
def run (start : Folder) (events : List (Event Question)) : Folder × Catalog α :=
  events.foldl k.step (start, {})

def answer (start : Folder) (events : List (Event Question)) (q : Question) : Reply :=
  (k.ask (k.run start events).1 (k.run start events).2 q).1

/--
The folder as it was when the definitions were last loaded: at the last time that the catalog was
told to load it again, or else at the first time that the definitions were needed.
-/
inductive LoadedAt (start : Folder) (events : List (Event Question)) : Folder → Prop
  | reloaded {before after : List (Event Question)}
      (heq : events = before ++ .call .reload :: after) (hafter : ∀ e ∈ after, ¬ e.IsReload) :
      LoadedAt start events (Event.folderAfter start before)
  | first {before after : List (Event Question)} {e : Event Question}
      (heq : events = before ++ e :: after) (hbefore : ∀ e ∈ before, ¬ k.Needs e)
      (he : k.Needs e) (hafter : ∀ e ∈ after, ¬ e.IsReload) :
      LoadedAt start events (Event.folderAfter start before)

/-! ### One step -/

lemma isLoaded_load : (k.load folder c).isLoaded = true := by
  unfold load
  split_ifs with hloaded
  · exact hloaded
  · rfl
  · rfl

lemma load_of_isLoaded (h : c.isLoaded = true) : k.load folder c = c := if_pos h

/-- Nothing of what was loaded before stays. -/
lemma reload_eq (folder : Folder) (c : Catalog α) : k.reload folder c = k.load folder {} := rfl

lemma step_of_not_needs (h : ¬ k.Needs e) (f : Folder) (c : Catalog α) :
    k.step (f, c) e = (e.folder f, c) := by
  cases e with
  | change f' => rfl
  | call call =>
    cases call with
    | load => exact absurd trivial h
    | reload => exact absurd trivial h
    | ask q => simp only [step, call, ask, if_neg (show ¬ k.concerns q = true from h)]

lemma step_of_needs (h : k.Needs e) (f : Folder) :
    k.step (f, {}) e = (f, k.load f {}) := by
  cases e with
  | change f' => exact absurd h id
  | call call =>
    cases call with
    | load => rfl
    | reload => rfl
    | ask q => simp only [step, Event.folder, call, ask, if_pos (show k.concerns q = true from h)]

lemma step_of_isLoaded (hc : c.isLoaded = true) (h : ¬ e.IsReload) (f : Folder) :
    k.step (f, c) e = (e.folder f, c) := by
  cases e with
  | change f' => rfl
  | call call =>
    cases call with
    | load => simp only [step, call, k.load_of_isLoaded hc]
    | reload => exact absurd trivial h
    | ask q => simp only [step, call, ask, k.load_of_isLoaded hc, ite_self]

/-! ### Runs -/

lemma foldl_step_fst (f : Folder) (c : Catalog α) (events : List (Event Question)) :
    (events.foldl k.step (f, c)).1 = Event.folderAfter f events := by
  induction events generalizing f c with
  | nil => rfl
  | cons e events ih => exact ih (e.folder f) (k.step (f, c) e).2

lemma foldl_step_of_not_needs (h : ∀ e ∈ events, ¬ k.Needs e) (f : Folder) (c : Catalog α) :
    events.foldl k.step (f, c) = (Event.folderAfter f events, c) := by
  induction events generalizing f with
  | nil => rfl
  | cons e events ih =>
    rw [List.forall_mem_cons] at h
    rw [List.foldl_cons, k.step_of_not_needs h.1, ih h.2]
    rfl

/-- What was loaded stays as it is until the catalog is told to load the folder again. -/
lemma foldl_step_of_isLoaded (hc : c.isLoaded = true) (h : ∀ e ∈ events, ¬ e.IsReload)
    (f : Folder) : events.foldl k.step (f, c) = (Event.folderAfter f events, c) := by
  induction events generalizing f with
  | nil => rfl
  | cons e events ih =>
    rw [List.forall_mem_cons] at h
    rw [List.foldl_cons, k.step_of_isLoaded hc h.1, ih h.2]
    rfl

/-- After a step that loads the folder, the catalog is what a new one loads from that folder. -/
lemma run_snd_of_loads {f : Folder} (hload : (k.step (k.run start before) e).2 = k.load f {})
    (hafter : ∀ e ∈ after, ¬ e.IsReload) :
    (k.run start (before ++ e :: after)).2 = k.load f {} := by
  have hstep : k.step (k.run start before) e = ((k.step (k.run start before) e).1, k.load f {}) :=
    Prod.ext rfl hload
  rw [run, List.foldl_append, List.foldl_cons, ← run, hstep,
    k.foldl_step_of_isLoaded k.isLoaded_load hafter]

lemma run_snd_of_loadedAt (h : k.LoadedAt start events folder) :
    (k.run start events).2 = k.load folder {} := by
  cases h with
  | @reloaded before after heq hafter =>
    subst heq
    refine k.run_snd_of_loads ?_ hafter
    rw [← k.foldl_step_fst start {} before]
    exact k.reload_eq _ (k.run start before).2
  | @first before after e heq hbefore he hafter =>
    subst heq
    refine k.run_snd_of_loads ?_ hafter
    rw [run, k.foldl_step_of_not_needs hbefore, k.step_of_needs he]

variable {k} in
lemma LoadedAt.snoc (h : k.LoadedAt start events folder) (he : ¬ e.IsReload) :
    k.LoadedAt start (events ++ [e]) folder := by
  have hsnoc {after : List (Event Question)} (hafter : ∀ e' ∈ after, ¬ e'.IsReload) :
      ∀ e' ∈ after ++ [e], ¬ e'.IsReload :=
    List.forall_mem_append.2 ⟨hafter, List.forall_mem_singleton.2 he⟩
  cases h with
  | reloaded heq hafter => exact .reloaded (by rw [heq, List.append_assoc]; rfl) (hsnoc hafter)
  | first heq hbefore hneeds hafter =>
    exact .first (by rw [heq, List.append_assoc]; rfl) hbefore hneeds (hsnoc hafter)

/-- Either nothing was needed yet, or the folder was loaded at some moment. -/
lemma not_needs_or_loadedAt (start : Folder) (events : List (Event Question)) :
    (∀ e ∈ events, ¬ k.Needs e) ∨ ∃ folder, k.LoadedAt start events folder := by
  induction events using List.reverseRecOn with
  | nil => exact .inl nofun
  | append_singleton events e ih =>
    by_cases hreload : e.IsReload
    · have heq : events ++ [e] = events ++ .call .reload :: [] := by
        match e with
        | .call .reload => rfl
      exact .inr ⟨_, .reloaded heq nofun⟩
    · rcases ih with hnone | ⟨folder, hloaded⟩
      · by_cases he : k.Needs e
        · exact .inr ⟨_, .first rfl hnone he nofun⟩
        · exact .inl (List.forall_mem_append.2 ⟨hnone, List.forall_mem_singleton.2 he⟩)
      · exact .inr ⟨folder, hloaded.snoc hreload⟩

/-! ### Answers -/

/-- A catalog with nothing loaded answers from what it loads now. -/
lemma ask_empty (folder : Folder) (q : Question) :
    (k.ask folder {} q).1 = k.reply (k.load folder {}).definitions q := by
  cases hq : k.concerns q with
  | true => simp only [ask, hq, if_true]
  | false =>
    simp only [ask, hq, Bool.false_eq_true, if_false]
    exact k.reply_congr q hq _ _

/-- Asking is part of what happens: it loads the folder where that was not done before. -/
lemma answer_eq (start : Folder) (events : List (Event Question)) (q : Question) :
    k.answer start events q =
      k.reply (k.run start (events ++ [.call (.ask q)])).2.definitions q := by
  rw [run, List.foldl_append]
  rfl

/-! ### Files that hold no definition -/

/-- Does a file hold a definition? -/
def Holds (file : String × String) : Prop :=
  k.extension.toList.isSuffixOf file.1.toList = true ∧
    (k.entry? (Folder.stem file.1) file.2).isSome = true

/-- The definitions after one more file. -/
def takeInFile (definitions : Entries α) (file : String × String) : Entries α :=
  if k.extension.toList.isSuffixOf file.1.toList then
    k.takeIn definitions (Folder.stem file.1) file.2
  else definitions

/-- A file that holds no definition is passed over. -/
lemma takeInFile_of_not_holds {file : String × String} (h : ¬ k.Holds file)
    (definitions : Entries α) : k.takeInFile definitions file = definitions := by
  unfold takeInFile
  split_ifs with hextension
  · have hnone : k.entry? (Folder.stem file.1) file.2 = none := by
      rw [← Option.not_isSome_iff_eq_none]
      exact fun hsome => h ⟨hextension, hsome⟩
    simp only [takeIn, hnone]
  · rfl

lemma definitions_load (folder : Folder) :
    (k.load folder {}).definitions =
      (folder.withExtension k.extension).foldl (fun ds file => k.takeIn ds file.1 file.2) [] := by
  obtain ⟨_ | files⟩ := folder
  · rw [show (⟨none⟩ : Folder) = .missing from rfl, Folder.withExtension_missing]
    rfl
  · rfl

lemma definitions_load_ofFiles (files : Entries String) :
    (k.load (.ofFiles files) {}).definitions =
      (Folder.inOrder files).foldl k.takeInFile [] := by
  rw [definitions_load, Folder.withExtension_ofFiles, List.foldl_map, List.foldl_filter]
  rfl

/-- Leaving out files that hold no definition makes no difference. -/
lemma definitions_load_ofFiles_filter {keep : String × String → Bool} {files : Entries String}
    (h : ∀ file ∈ files, k.Holds file → keep file = true) :
    (k.load (.ofFiles (files.filter keep)) {}).definitions =
      (k.load (.ofFiles files) {}).definitions := by
  rw [definitions_load_ofFiles, definitions_load_ofFiles, Folder.inOrder_filter, List.foldl_filter]
  refine List.foldl_ext _ _ _ fun definitions file hfile => ?_
  split_ifs with hkeep
  · rfl
  · have hmem : file ∈ files := List.mem_mergeSort.1 hfile
    exact (k.takeInFile_of_not_holds (fun hholds => hkeep (h file hmem hholds)) definitions).symm

/-! ### The law -/

/--
A catalog answers from the folder as it was when the definitions were last loaded, as a new one
would that finds the folder so.
-/
structure Frozen (ofFolder : Folder → Entries α) : Prop where
  /-- A new catalog answers from the definitions in the folder. -/
  fresh : ∀ folder q, (k.ask folder {} q).1 = k.reply (ofFolder folder) q
  /-- The folder of the last loading decides what is answered. -/
  answer : ∀ start events q folder, k.LoadedAt start (events ++ [.call (.ask q)]) folder →
    k.answer start events q = (k.ask folder {} q).1
  /-- There was such a loading before an answer that takes the definitions. -/
  loaded : ∀ start events q, k.concerns q = true →
    ∃ folder, k.LoadedAt start (events ++ [.call (.ask q)]) folder
  /-- Every other answer is the same whatever the folder holds. -/
  unconcerned : ∀ start events q folder, k.concerns q = false →
    k.answer start events q = (k.ask folder {} q).1
  /-- A file that holds no definition could as well not be there. -/
  skips : ∀ (files : Entries String) (keep : String × String → Bool),
    (∀ file ∈ files, k.Holds file → keep file = true) →
    ofFolder (.ofFiles (files.filter keep)) = ofFolder (.ofFiles files)
  /-- A folder that is missing is like one without files. -/
  missing : ofFolder .missing = ofFolder (.ofFiles [])

lemma frozen_of_load {ofFolder : Folder → Entries α}
    (h : ∀ folder, (k.load folder {}).definitions = ofFolder folder) : k.Frozen ofFolder where
  fresh folder q := by rw [ask_empty, h]
  answer start events q folder hloaded := by
    rw [answer_eq, k.run_snd_of_loadedAt hloaded, ask_empty]
  loaded start events q hq := by
    refine (k.not_needs_or_loadedAt start (events ++ [.call (.ask q)])).resolve_left fun hnone => ?_
    exact hnone (.call (.ask q)) (by simp) hq
  unconcerned start events q folder hq := by
    rw [answer_eq, ask_empty]
    exact k.reply_congr q hq _ _
  skips files keep hkeep := by rw [← h, ← h, k.definitions_load_ofFiles_filter hkeep]
  missing := by
    rw [← h, ← h, definitions_load, definitions_load, Folder.withExtension_missing,
      Folder.withExtension_ofFiles_nil]

/-- Taking in the files one after the other is reading them all and adding what was found. -/
lemma definitions_load_eq_foldl {β : Type} (found : String × String → Option β)
    (add : Entries α → β → Entries α)
    (h : ∀ definitions file, k.takeIn definitions file.1 file.2 =
      ((found file).map (add definitions)).getD definitions) (folder : Folder) :
    (k.load folder {}).definitions =
      ((folder.withExtension k.extension).filterMap found).foldl add [] := by
  rw [definitions_load, List.foldl_filterMap]
  refine List.foldl_ext _ _ _ fun definitions file _ => ?_
  rw [h]
  cases found file <;> rfl

end Collection

/-- Templates, schemas and view configs are all answered from the folder of the last loading. -/
theorem frozen_of_folders :
    TemplateLibrary.collection.Frozen TemplateLibrary.ofFolder ∧
      SchemaLibrary.collection.Frozen SchemaLibrary.ofFolder ∧
      ViewLibrary.collection.Frozen ViewLibrary.ofFolder := by
  refine ⟨Collection.frozen_of_load _ fun folder => ?_,
    Collection.frozen_of_load _ fun folder => ?_, Collection.frozen_of_load _ fun folder => ?_⟩
  · refine Collection.definitions_load_eq_foldl _
      (fun file => TemplateLibrary.ofFile? file.1 file.2) TemplateLibrary.add
      (fun definitions file => ?_) folder
    simp only [Collection.takeIn, TemplateLibrary.collection]
    cases TemplateLibrary.ofFile? file.1 file.2 <;> rfl
  · refine Collection.definitions_load_eq_foldl _ (fun file => SchemaLibrary.ofText? file.2)
      SchemaLibrary.add (fun definitions file => ?_) folder
    simp only [Collection.takeIn, SchemaLibrary.collection]
    cases SchemaLibrary.ofText? file.2 <;> rfl
  · refine Collection.definitions_load_eq_foldl _
      (fun file => ((Value.ofJson? file.2).bind Value.fields?).map (file.1, ·))
      (fun library file => ViewLibrary.add library file.1 file.2)
      (fun definitions file => ?_) folder
    simp only [Collection.takeIn, ViewLibrary.collection]
    cases (Value.ofJson? file.2).bind Value.fields? <;> rfl

end ViewAssembly
