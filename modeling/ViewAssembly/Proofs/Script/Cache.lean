import ViewAssembly.Proofs.Entries
import ViewAssembly.Script.Inline

/-!
# What a cache of scripts answers

A cache that was filled from a folder answers every question like the folder itself, whatever was
asked before (`ScriptCache.ofCache_after`).
-/

namespace ViewAssembly

namespace Script

/-- Which file a path names is said by its last part alone. -/
lemma fileText_congr {folder : Folder} {path path' : String} (h : baseName path = baseName path') :
    fileText folder path = fileText folder path' := by
  simp only [fileText, h]

end Script

namespace ScriptCache

variable {folder : Folder} {cache : ScriptCache}

/-- Every text in the cache is that of the file of its name. -/
def Mirrors (cache : ScriptCache) (folder : Folder) : Prop :=
  ∀ path text, cache.texts.get? (Script.baseName path) = some text →
    Script.fileText folder path = .ok text

lemma mirrors_empty (folder : Folder) : Mirrors {} folder := by
  intro path text h
  cases h

lemma read_of_mirrors (h : cache.Mirrors folder) (path : String) :
    (cache.read folder path).1 = Script.fileText folder path ∧
      (cache.read folder path).2.Mirrors folder := by
  cases hcached : cache.texts.get? (Script.baseName path) with
  | some text =>
    simp only [read, hcached]
    exact ⟨(h path text hcached).symm, h⟩
  | none =>
    cases htext : Script.fileText folder path with
    | error failure =>
      simpa only [read, hcached, htext, true_and] using h
    | ok text =>
      simp only [read, hcached, htext, true_and]
      intro path' text' hget
      simp only [Entries.get?_put] at hget
      split at hget
      · next hname =>
        cases hget
        rw [← Script.fileText_congr hname, htext]
      · exact h path' text' hget

lemma resolve_of_mirrors (h : cache.Mirrors folder) (file function : String) :
    (cache.resolve folder file function).1 = Script.resolve folder file function ∧
      (cache.resolve folder file function).2.Mirrors folder := by
  obtain ⟨hanswer, hcache⟩ := read_of_mirrors h file
  exact ⟨by simp only [resolve, Script.resolve, hanswer], hcache⟩

/-- The cache after some references were resolved one after the other, starting from nothing. -/
def after (folder : Folder) (refs : List (String × String)) : ScriptCache :=
  refs.foldl (fun cache ref => (cache.resolve folder ref.1 ref.2).2) {}

lemma mirrors_foldl (h : cache.Mirrors folder) (refs : List (String × String)) :
    (refs.foldl (fun cache ref => (cache.resolve folder ref.1 ref.2).2) cache).Mirrors folder := by
  induction refs generalizing cache with
  | nil => exact h
  | cons ref refs ih => exact ih (resolve_of_mirrors h ref.1 ref.2).2

lemma mirrors_after (folder : Folder) (refs : List (String × String)) :
    (after folder refs).Mirrors folder :=
  mirrors_foldl (mirrors_empty folder) refs

end ScriptCache

namespace FunctionSource

def ofCache (folder : Folder) (cache : ScriptCache) : FunctionSource :=
  some fun file function => (cache.resolve folder file function).1

/-- What was resolved before does not show in what a cache answers. -/
lemma ofCache_after (folder : Folder) (refs : List (String × String)) :
    ofCache folder (ScriptCache.after folder refs) = ofFolder folder := by
  refine congrArg some (funext fun file => funext fun function => ?_)
  exact (ScriptCache.resolve_of_mirrors (ScriptCache.mirrors_after folder refs) file function).1

end FunctionSource

end ViewAssembly
