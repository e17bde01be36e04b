import Mathlib.Data.List.Basic
import ViewAssembly.Folder
import ViewAssembly.Proofs.Entries
import ViewAssembly.Proofs.Sorting
import ViewAssembly.Proofs.Text.Pieces

/-!
# The files of a folder

Files are read in the order of their names. Leaving some of them out leaves the others in their
order (`Folder.inOrder_filter`). Writing and deleting files leaves every file directly in its folder
(`Folder.Plain`).
-/

namespace ViewAssembly

/-! ### Files in order -/

namespace Folder

def inOrder (files : Entries String) : Entries String := files.mergeSort fun a b => a.1 ≤ b.1

/-- Leaving out files leaves the others in their order. -/
lemma inOrder_filter (keep : String × String → Bool) (files : Entries String) :
    inOrder (files.filter keep) = (inOrder files).filter keep :=
  (filter_mergeSort (by simpa using fun _ _ _ => String.le_trans)
    (by simpa using fun _ _ => String.le_total _ _) keep files).symm

lemma withExtension_ofFiles (files : Entries String) (extension : String) :
    (ofFiles files).withExtension extension =
      ((inOrder files).filter fun file => extension.toList.isSuffixOf file.1.toList).map
        fun file => (stem file.1, file.2) := by
  rw [← inOrder_filter]
  rfl

@[simp] lemma withExtension_missing (extension : String) :
    missing.withExtension extension = [] := by
  simp [withExtension, missing]

@[simp] lemma withExtension_ofFiles_nil (extension : String) :
    (ofFiles []).withExtension extension = [] := by
  simp [withExtension, ofFiles]

end Folder

/-! ### Names of files -/

namespace Folder

variable {f g : Folder} {path name text : String}

/-- Is every file directly in the folder? -/
def Plain (f : Folder) : Prop := ∀ name text, f.read? name = some text → fileName? name = some name

lemma fileName?_eq_self (hslash : ∀ c ∈ name.toList, (c == '/') = false)
    (hcounts : (name ≠ "" && name ≠ ".") = true)
    (hpart : (name ≠ ".." && (Text.nativeSize? name).any (· ≤ maxNameBytes)) = true) :
    fileName? name = some name := by
  have hprefix : ¬ "/".isPrefixOf name = true := by
    rw [String.isPrefixOf, String.startsWith_string_iff]
    intro hstarts
    have := hslash '/' (hstarts.subset List.mem_cons_self)
    simp at this
  rw [fileName?, if_neg hprefix, Text.pieces_eq_singleton hslash, List.filter_cons,
    if_pos hcounts, List.filter_nil]
  exact if_pos hpart

/-- What a path names is named by itself as well. -/
lemma fileName?_self (h : fileName? path = some name) : fileName? name = some name := by
  unfold fileName? at h
  split_ifs at h
  split at h
  · next part hparts =>
    split_ifs at h with hpart
    cases h
    have hmem : name ∈ (Text.pieces '/' path).filter fun part => part ≠ "" && part ≠ "." := by
      rw [hparts]
      exact List.mem_cons_self
    obtain ⟨hpiece, hcounts⟩ := List.mem_filter.1 hmem
    obtain ⟨cs, hcs, rfl⟩ := List.mem_map.1 hpiece
    exact fileName?_eq_self (by simpa using Text.not_of_mem_cutAt hcs) hcounts hpart
  · cases h

lemma Plain.write (hf : f.Plain) (h : f.write? path text = some g) : g.Plain := by
  obtain ⟨_ | files⟩ := f
  · cases h
  · cases hname : fileName? path with
    | none => simp [write?, hname] at h
    | some name =>
      simp only [write?, hname, Option.bind_eq_bind, Option.bind_some, Option.ite_none_left_eq_some,
        Option.pure_def, Option.some.injEq] at h
      obtain ⟨-, rfl⟩ := h
      intro m t hm
      simp only [read?, Option.bind_some, Entries.get?_put] at hm
      split_ifs at hm with heq
      · subst heq
        exact fileName?_self hname
      · exact hf m t hm

lemma Plain.delete (hf : f.Plain) (h : f.delete? path = some g) : g.Plain := by
  obtain ⟨_ | files⟩ := f
  · cases h
  · cases hname : fileName? path with
    | none => simp [delete?, hname] at h
    | some name =>
      simp only [delete?, hname, Option.bind_eq_bind, Option.bind_some,
        Option.ite_none_right_eq_some, Option.pure_def, Option.some.injEq] at h
      obtain ⟨-, rfl⟩ := h
      intro m t hm
      simp only [read?, Option.bind_some, Entries.get?_erase] at hm
      split_ifs at hm with heq
      exact hf m t hm

end Folder

end ViewAssembly
