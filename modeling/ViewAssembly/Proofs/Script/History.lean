import Mathlib.Data.List.Induction
import ViewAssembly.Proofs.Folder
import ViewAssembly.Proofs.Script.Cache

/-!
# What a cache of scripts answers while the folder changes

Scripts are written and deleted while they are read through a cache. What is read is the text that
the file had when it was first read since the cache was cleared; a file that was not read since then
is read anew (`ScriptCache.answers_after`). A name that is too long to be looked up is no missing
file, but a failure of its own (`ScriptCache.read_tooLong`).
-/

namespace ViewAssembly

namespace Folder

def textOf? (f : Folder) (name : String) : Option String := (f.read? name).map normalizeLines

end Folder

namespace Script

variable {folder : Folder} {path text : String}

/-- What holds no slash is the last part of itself. -/
lemma baseName_eq_self (hslash : ∀ c ∈ path.toList, (c == '/') = false) (hempty : path ≠ "")
    (hpoint : path ≠ ".") : baseName path = path := by
  rw [baseName, Text.pieces_eq_singleton hslash, List.filter_cons_of_pos (by simp [hempty, hpoint])]
  rfl

lemma fileText_of_textOf? (h : folder.textOf? (baseName path) = some text) :
    fileText folder path = .ok text := by
  obtain ⟨written, hread, rfl⟩ := Option.map_eq_some_iff.1 h
  simp only [fileText, hread]

lemma fileText_of_textOf?_eq_none (h : folder.textOf? (baseName path) = none) :
    fileText folder path =
      .error (if folder.isTooLong (baseName path) then .nameTooLong else .noFile) := by
  simp only [fileText, Option.map_eq_none_iff.1 h]

lemma toOption_fileText (folder : Folder) (path : String) :
    (fileText folder path).toOption = folder.textOf? (baseName path) := by
  cases h : folder.textOf? (baseName path) with
  | some text => rw [fileText_of_textOf? h]; rfl
  | none => rw [fileText_of_textOf?_eq_none h]; rfl

end Script

namespace ScriptCache

/-- What can happen to a folder of scripts and to the cache of those that were read. -/
inductive Step where
  | write (path text : String)
  | delete (path : String)
  | read (path : String)
  | resolve (file function : String)
  | clear

namespace Step

/-- The folder after a step. What cannot be written or deleted is left as it is. -/
def folder (f : Folder) : Step → Folder
  | write path text => (f.write? path text).getD f
  | delete path     => (f.delete? path).getD f
  | _               => f

/-- The name of the file that a step asks for. -/
def asks? : Step → Option String
  | read path      => some (Script.baseName path)
  | resolve file _ => some (Script.baseName file)
  | _              => none

def folderAfter (start : Folder) (steps : List Step) : Folder := steps.foldl folder start

lemma folderAfter_snoc (start : Folder) (steps : List Step) (s : Step) :
    folderAfter start (steps ++ [s]) = s.folder (folderAfter start steps) := by
  rw [folderAfter, List.foldl_append]
  rfl

end Step

variable {start : Folder} {steps : List Step} {s : Step} {name text path : String}

/-- The folder and the cache after a step. -/
def step (state : Folder × ScriptCache) (s : Step) : Folder × ScriptCache :=
  (s.folder state.1, match s with
    | .read path             => (state.2.read state.1 path).2
    | .resolve file function => (state.2.resolve state.1 file function).2
    | .clear                 => state.2.clear
    | _                      => state.2)

def run (start : Folder) (steps : List Step) : Folder × ScriptCache :=
  steps.foldl step (start, {})

/-- Was there such a step, with what came before it, since the cache was last cleared? -/
def SinceClear (steps : List Step) (P : List Step → Step → Prop) : Prop :=
  ∃ before s after, steps = before ++ s :: after ∧ P before s ∧ Step.clear ∉ after

/-- Does a step ask for a file that is there with a text? -/
def Finds (start : Folder) (name text : String) (before : List Step) (s : Step) : Prop :=
  s.asks? = some name ∧ (Step.folderAfter start before).textOf? name = some text

/-- The text that a file had when it was first found since the cache was last cleared. -/
def FirstFound (start : Folder) (steps : List Step) (name text : String) : Prop :=
  SinceClear steps fun before s => Finds start name text before s ∧
    ∀ earlier, ¬ SinceClear before (Finds start name earlier)

/-! ### Steps since the cache was cleared -/

lemma sinceClear_nil (P : List Step → Step → Prop) : ¬ SinceClear [] P := by
  rintro ⟨before, s, after, heq, -⟩
  cases before <;> cases heq

lemma sinceClear_snoc (P : List Step → Step → Prop) :
    SinceClear (steps ++ [s]) P ↔ P steps s ∨ s ≠ .clear ∧ SinceClear steps P := by
  constructor
  · rintro ⟨before, s', after, heq, hP, hafter⟩
    -- the last step is the one in question, or it comes behind that one
    cases after using List.reverseRecOn with
    | nil =>
      obtain ⟨rfl, hs⟩ := List.append_inj' heq rfl
      cases hs
      exact .inl hP
    | append_singleton after last =>
      rw [← List.cons_append, ← List.append_assoc] at heq
      obtain ⟨hsteps, hs⟩ := List.append_inj' heq rfl
      cases hs
      rw [List.mem_append, not_or, List.mem_singleton] at hafter
      exact .inr ⟨fun h => hafter.2 h.symm, before, s', after, hsteps, hP, hafter.1⟩
  · rintro (hP | ⟨hs, before, s', after, rfl, hP, hafter⟩)
    · exact ⟨steps, s, [], rfl, hP, nofun⟩
    · refine ⟨before, s', after ++ [s], by rw [List.append_assoc]; rfl, hP, ?_⟩
      rw [List.mem_append, not_or, List.mem_singleton]
      exact ⟨hafter, fun h => hs h.symm⟩

lemma Finds.ne_clear {before : List Step} (h : Finds start name text before s) : s ≠ .clear := by
  rintro rfl
  cases h.1

/-- What was found at all was found a first time. -/
lemma exists_firstFound_iff (start : Folder) (steps : List Step) (name : String) :
    (∃ text, FirstFound start steps name text) ↔
      ∃ text, SinceClear steps (Finds start name text) := by
  induction steps using List.reverseRecOn with
  | nil => simp only [FirstFound, sinceClear_nil]
  | append_singleton steps s ih =>
    constructor
    · rintro ⟨text, before, s', after, heq, ⟨hfinds, -⟩, hafter⟩
      exact ⟨text, before, s', after, heq, hfinds, hafter⟩
    · rintro ⟨text, hsince⟩
      -- a text that was found before goes on being the first, since this step clears nothing
      by_cases hearlier : ∃ earlier, SinceClear steps (Finds start name earlier)
      · obtain ⟨first, hfirst⟩ := ih.2 hearlier
        have hs : s ≠ .clear := by
          rcases (sinceClear_snoc _).1 hsince with hfinds | ⟨hs, -⟩
          · exact hfinds.ne_clear
          · exact hs
        exact ⟨first, (sinceClear_snoc _).2 (.inr ⟨hs, hfirst⟩)⟩
      · rcases (sinceClear_snoc _).1 hsince with hfinds | ⟨-, hsteps⟩
        · exact ⟨text, (sinceClear_snoc _).2 (.inl ⟨hfinds, fun t ht => hearlier ⟨t, ht⟩⟩)⟩
        · exact absurd ⟨text, hsteps⟩ hearlier

/-! ### One step -/

lemma fst_read (cache : ScriptCache) (folder : Folder) (path : String) :
    (cache.read folder path).1 =
      match cache.texts.get? (Script.baseName path) with
      | some text => .ok text
      | none      => Script.fileText folder path := by
  cases hcached : cache.texts.get? (Script.baseName path) with
  | some text => simp only [read, hcached]
  | none => cases htext : Script.fileText folder path <;> simp only [read, hcached, htext]

/-- Reading a file adds its text where nothing is remembered under its name. -/
lemma get?_texts_read (cache : ScriptCache) (folder : Folder) (path name : String) :
    (cache.read folder path).2.texts.get? name =
      (cache.texts.get? name).or
        (if Script.baseName path = name then folder.textOf? name else none) := by
  cases hcached : cache.texts.get? (Script.baseName path) with
  | some text =>
    simp only [read, hcached]
    split_ifs with hname
    · rw [← hname, hcached, Option.some_or]
    · rw [Option.or_none]
  | none =>
    have htext := Script.toOption_fileText folder path
    cases hfile : Script.fileText folder path with
    | error failure =>
      rw [hfile] at htext
      simp only [read, hcached, hfile]
      split_ifs with hname
      · rw [← hname, hcached, ← htext]
        rfl
      · rw [Option.or_none]
    | ok text =>
      rw [hfile] at htext
      simp only [read, hcached, hfile, Entries.get?_put]
      split_ifs with hname
      · rw [← hname, hcached, ← htext]
        rfl
      · rw [Option.or_none]

lemma get?_texts_step (hs : s ≠ .clear) (folder : Folder) (cache : ScriptCache) (name : String) :
    (step (folder, cache) s).2.texts.get? name =
      (cache.texts.get? name).or (if s.asks? = some name then folder.textOf? name else none) := by
  cases s with
  | write path text => exact (Option.or_none ..).symm
  | delete path => exact (Option.or_none ..).symm
  | read path =>
    simp only [Step.asks?, Option.some.injEq]
    exact get?_texts_read cache folder path name
  | resolve file function =>
    simp only [Step.asks?, Option.some.injEq]
    exact get?_texts_read cache folder file name
  | clear => exact absurd rfl hs

/-! ### Runs -/

lemma run_snoc (start : Folder) (steps : List Step) (s : Step) :
    run start (steps ++ [s]) = step (run start steps) s := by
  rw [run, List.foldl_append]
  rfl

lemma fst_run (start : Folder) (steps : List Step) :
    (run start steps).1 = Step.folderAfter start steps := by
  induction steps using List.reverseRecOn with
  | nil => rfl
  | append_singleton steps s ih =>
    rw [run_snoc, Step.folderAfter_snoc, ← ih]
    rfl

/-- Remembered is what was first found since the cache was last cleared. -/
lemma get?_texts_run_iff (start : Folder) (steps : List Step) (name text : String) :
    (run start steps).2.texts.get? name = some text ↔ FirstFound start steps name text := by
  induction steps using List.reverseRecOn generalizing text with
  | nil => exact iff_of_false nofun (sinceClear_nil _)
  | append_singleton steps s ih =>
    -- that nothing is remembered says that no text is, so the hypothesis is needed for all of them
    have hnone : (run start steps).2.texts.get? name = none ↔
        ∀ earlier, ¬ SinceClear steps (Finds start name earlier) := by
      rw [← not_exists, ← exists_firstFound_iff, not_exists, Option.eq_none_iff_forall_ne_some]
      exact forall_congr' fun t => not_congr (ih t)
    rw [run_snoc, FirstFound, sinceClear_snoc, ← FirstFound, ← ih, ← hnone]
    by_cases hs : s = .clear
    · subst hs
      simp [step, clear, Finds, Step.asks?]
    · have hstep := get?_texts_step hs (run start steps).1 (run start steps).2 name
      rw [hstep, fst_run, Option.or_eq_some_iff, Option.ite_none_right_eq_some, or_comm,
        and_comm, and_iff_right hs]
      rfl

lemma plain_folderAfter (h : start.Plain) (steps : List Step) :
    (Step.folderAfter start steps).Plain := by
  induction steps using List.reverseRecOn with
  | nil => exact h
  | append_singleton steps s ih =>
    rw [Step.folderAfter_snoc]
    cases s with
    | write path text =>
      simp only [Step.folder]
      cases hwrite : (Step.folderAfter start steps).write? path text with
      | none => exact ih
      | some f => exact ih.write hwrite
    | delete path =>
      simp only [Step.folder]
      cases hdelete : (Step.folderAfter start steps).delete? path with
      | none => exact ih
      | some f => exact ih.delete hdelete
    | read path => exact ih
    | resolve file function => exact ih
    | clear => exact ih

/-! ### Answers -/

def answer (start : Folder) (steps : List Step) (path : String) :
    Except Script.ExtractionFailure String :=
  ((run start steps).2.read (run start steps).1 path).1

/--
What is read for a path after some steps. Only the last part of the path counts; it is the name of
the file.
-/
structure Answers (start : Folder) (steps : List Step) (path : String) : Prop where
  /-- A file that was found since the cache was cleared has the text that it had at first. -/
  remembered : ∀ text, FirstFound start steps (Script.baseName path) text →
    answer start steps path = .ok text
  /-- Another file has the text that it has now. -/
  current : (∀ text, ¬ FirstFound start steps (Script.baseName path) text) →
    ∀ text, (Step.folderAfter start steps).textOf? (Script.baseName path) = some text →
      answer start steps path = .ok text
  /-- A file that is not there is missing, unless its name is too long to be looked up. -/
  missing : (∀ text, ¬ FirstFound start steps (Script.baseName path) text) →
    (Step.folderAfter start steps).textOf? (Script.baseName path) = none →
      answer start steps path =
        .error (if (Step.folderAfter start steps).isTooLong (Script.baseName path)
          then .nameTooLong else .noFile)
  /-- All paths with the same last part are answered alike, also when a function is asked for. -/
  alike : ∀ path', Script.baseName path' = Script.baseName path →
    answer start steps path' = answer start steps path ∧
      ∀ function, ((run start steps).2.resolve (run start steps).1 path' function).1 =
        Script.resolveIn (answer start steps path) path' function
  /-- Every text is one that a file directly in the folder has or had. -/
  inside : ∀ text, answer start steps path = .ok text →
    Folder.fileName? (Script.baseName path) = some (Script.baseName path) ∧
      ∃ before, before <+: steps ∧
        (Step.folderAfter start before).textOf? (Script.baseName path) = some text

lemma answer_of_firstFound (h : FirstFound start steps (Script.baseName path) text) :
    answer start steps path = .ok text := by
  rw [answer, fst_read, (get?_texts_run_iff ..).2 h]

lemma answer_of_not_firstFound (h : ∀ text, ¬ FirstFound start steps (Script.baseName path) text) :
    answer start steps path = Script.fileText (Step.folderAfter start steps) path := by
  have hnone : (run start steps).2.texts.get? (Script.baseName path) = none :=
    Option.eq_none_iff_forall_ne_some.2 fun text hget => h text ((get?_texts_run_iff ..).1 hget)
  rw [answer, fst_read, hnone, fst_run]

lemma answer_congr {path' : String} (h : Script.baseName path' = Script.baseName path) :
    answer start steps path' = answer start steps path := by
  rw [answer, answer, fst_read, fst_read, h, Script.fileText_congr h]

/-- A text that was found at all was found in a file that had it. -/
lemma exists_textOf?_of_ok (h : answer start steps path = .ok text) :
    ∃ before, before <+: steps ∧
      (Step.folderAfter start before).textOf? (Script.baseName path) = some text := by
  by_cases hfound : ∃ first, FirstFound start steps (Script.baseName path) first
  · obtain ⟨first, hfirst⟩ := hfound
    rw [answer_of_firstFound hfirst] at h
    cases h
    obtain ⟨before, s, after, rfl, ⟨⟨-, htext⟩, -⟩, -⟩ := hfirst
    exact ⟨before, List.prefix_append _ _, htext⟩
  · rw [answer_of_not_firstFound (not_exists.1 hfound)] at h
    refine ⟨steps, List.prefix_rfl, ?_⟩
    rw [← Script.toOption_fileText, h]
    rfl

/--
Reading a script through the cache, whatever was written, deleted and read before. The folder holds
its files directly.
-/
theorem answers_after (hstart : start.Plain) (steps : List Step) (path : String) :
    Answers start steps path where
  remembered text h := answer_of_firstFound h
  current h text htext := by
    rw [answer_of_not_firstFound h]
    exact Script.fileText_of_textOf? htext
  missing h hnone := by
    rw [answer_of_not_firstFound h]
    exact Script.fileText_of_textOf?_eq_none hnone
  alike path' h := by
    refine ⟨answer_congr h, fun function => ?_⟩
    rw [← answer_congr h]
    rfl
  inside text h := by
    obtain ⟨before, hbefore, htext⟩ := exists_textOf?_of_ok h
    refine ⟨?_, before, hbefore, htext⟩
    obtain ⟨written, hread, -⟩ := Option.map_eq_some_iff.1 htext
    exact plain_folderAfter hstart before _ _ hread

def oneScript : Folder := .ofFiles [("f.js", "one")]

lemma plain_oneScript : oneScript.Plain := by
  intro name text hread
  simp only [oneScript, Folder.ofFiles, Folder.read?, Option.bind_some, Entries.get?_cons,
    Entries.get?_nil] at hread
  split_ifs at hread with hname
  subst hname
  exact Folder.fileName?_eq_self (by simp) (by simp) (by decide)

/-- A script that was deleted after it was read, asked for by another path. -/
theorem answers_after_deleted :
    oneScript.Plain ∧ answer oneScript [.read "f.js", .delete "f.js"] "lib/f.js" = .ok "one" := by
  refine ⟨plain_oneScript, (answers_after plain_oneScript _ _).remembered "one" ?_⟩
  exact ⟨[], .read "f.js", [.delete "f.js"], rfl,
    ⟨⟨by decide, by decide⟩, fun _ => sinceClear_nil _⟩, by simp⟩

def longName : String := String.ofList (List.replicate 256 'a')

lemma isTooLong_longName (files : Entries String) :
    (Folder.ofFiles files).isTooLong longName = true := by
  have hsize : Text.nativeSize? longName = some 256 := by
    unfold Text.nativeSize? longName
    simp only [String.toList_ofList]
    decide +kernel
  simp [Folder.isTooLong, Folder.ofFiles, hsize, Folder.maxNameBytes]

lemma baseName_longName : Script.baseName longName = longName := by
  have hchars : longName.toList = List.replicate 256 'a' := String.toList_ofList
  have hlength : longName.length = 256 := String.length_ofList.trans List.length_replicate
  have hslash : ∀ c ∈ longName.toList, (c == '/') = false := by
    intro c hc
    rw [hchars] at hc
    simp [List.eq_of_mem_replicate hc]
  refine Script.baseName_eq_self hslash ?_ ?_ <;> apply ne_of_apply_ne String.length
  · rw [hlength]
    decide
  · rw [hlength]
    decide

/-- A file of this name is not there and was never found, but that is not what is answered. -/
theorem read_tooLong :
    (∀ text, ¬ FirstFound (.ofFiles []) [] (Script.baseName longName) text) ∧
      (Folder.ofFiles []).textOf? (Script.baseName longName) = none ∧
      answer (.ofFiles []) [] longName = .error .nameTooLong := by
  have hnever : ∀ text, ¬ FirstFound (.ofFiles []) [] (Script.baseName longName) text :=
    fun _ => sinceClear_nil _
  refine ⟨hnever, rfl, ?_⟩
  rw [answer_of_not_firstFound hnever, Script.fileText_of_textOf?_eq_none rfl, baseName_longName]
  exact congrArg Except.error (if_pos (isTooLong_longName []))

end ScriptCache

end ViewAssembly
