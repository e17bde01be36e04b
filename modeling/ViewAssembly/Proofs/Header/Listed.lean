import ViewAssembly.Proofs.Header.Order
import ViewAssembly.Proofs.Header.Resolvable
import ViewAssembly.Proofs.Header.Shape
import ViewAssembly.Proofs.Merge

/-!
# The headers in a list

The headers of a component are those of its columns and of the columns that its customizations
bring, each in its final form (`HeaderSource.mem_headers_iff`). Where all customizations are objects,
there always are headers (`Context.exists_headers`).
-/

namespace ViewAssembly

open Customizations

namespace Header

variable {lang name : String} {h : Header}

/-- The form in which a header is handed out: without its wish, and with its texts resolved. -/
def final (lang : String) (h : Header) : Header := resolveTexts lang (h.erase "order")

lemma get?_final_of_ne (horder : "order" ≠ name) (htitle : "title" ≠ name)
    (hlabel : "label" ≠ name) : (h.final lang).get? name = h.get? name := by
  rw [final, get?_resolveTexts_of_ne htitle hlabel, Entries.get?_erase, if_neg horder]

end Header

namespace HeaderSource

variable {s : HeaderSource} {token : String} {tokens : List String} {hs : List Header}

lemma nodup_of_foldlM_takeUp {ts all : List String} (h : ts.foldlM s.takeUp tokens = .ok all)
    (htokens : tokens.Nodup) : all.Nodup := by
  induction ts generalizing tokens with
  | nil =>
    cases h
    exact htokens
  | cons t ts ih =>
    rw [List.foldlM_cons] at h
    obtain ⟨next, hnext, h⟩ := bind_eq_ok_iff.mp h
    refine ih h ?_
    rcases takeUp_eq_ok_iff.mp hnext with ⟨-, rfl⟩ | ⟨-, -, rfl⟩ | ⟨ht, -, rfl⟩
    · exact htokens
    · exact htokens
    · refine List.nodup_append.mpr ⟨htokens, by simp, fun n hn m hm hnm => ht ?_⟩
      rw [← List.mem_singleton.mp hm, ← hnm]
      exact hn

/-- Which tokens have a header, and which headers make up the list that is put in order then. -/
lemma exists_found_of_headers (h : s.headers tokens = .ok hs) :
    ∃ found : Entries Header,
      hs.Perm (found.values.map (Header.final s.lang)) ∧ (tokens.Nodup → found.keys.Nodup) ∧
      ∀ t g, (t, g) ∈ found ↔
        (t ∈ tokens ∨ t ∈ s.customizations.tokens ∧ s.brings t = .ok true) ∧
          s.header? t = .ok (some g) := by
  obtain ⟨all, hall, h⟩ := bind_eq_ok_iff.mp h
  obtain ⟨each, heach, h⟩ := bind_eq_ok_iff.mp h
  cases h
  rw [addBrought_eq] at hall
  obtain ⟨found, hsub, hvalues, hmem⟩ := exists_found_of_mapM heach
  refine ⟨found, ?_, fun htokens => ?_, fun t g => ?_⟩
  · rw [Entries.values, hvalues]
    refine ((Header.arrange_perm _).map _).trans (.of_eq ?_)
    rw [List.map_map]
    rfl
  · exact (nodup_of_foldlM_takeUp hall htokens).sublist hsub
  · rw [hmem, mem_of_foldlM_takeUp hall]

/-- The headers in a list are those of its tokens and of the tokens that bring a column. -/
lemma mem_headers_iff {x : Header} (h : s.headers tokens = .ok hs) :
    x ∈ hs ↔ ∃ t g, (t ∈ tokens ∨ t ∈ s.customizations.tokens ∧ s.brings t = .ok true) ∧
      s.header? t = .ok (some g) ∧ x = g.final s.lang := by
  obtain ⟨found, hperm, -, hmem⟩ := exists_found_of_headers h
  rw [hperm.mem_iff, List.mem_map]
  constructor
  · rintro ⟨g, hg, rfl⟩
    obtain ⟨⟨t, g⟩, he, rfl⟩ := List.mem_map.mp hg
    obtain ⟨ht, hheader⟩ := (hmem t g).mp he
    exact ⟨t, g, ht, hheader, rfl⟩
  · rintro ⟨t, g, ht, hheader, rfl⟩
    exact ⟨g, List.mem_map.mpr ⟨(t, g), (hmem t g).mpr ⟨ht, hheader⟩, rfl⟩, rfl⟩

end HeaderSource

/-! ### Customizations that are objects -/

namespace Customizations

variable {c : Customizations} {token : String}

/-- Is everything that is said about columns an object? -/
def Plain (c : Customizations) : Prop := ∀ e ∈ c.block ++ c.component, e.2.isObj = true

/-- What is said about a column altogether; what is no object says nothing. -/
def merged (c : Customizations) (token : String) : Entries Value :=
  Value.mergeFields .patch (entriesFor c.block token) (entriesFor c.component token)

lemma Plain.of_eq_merged (h : c.Plain) (token : String) : c.of token = .obj (c.merged token) := by
  have hblock : said c.block token = .obj (entriesFor c.block token) :=
    said_eq_obj fun v hv => h (token, v) (List.mem_append_left _ (Entries.mem_of_get? hv))
  have hcomponent : said c.component token = .obj (entriesFor c.component token) :=
    said_eq_obj fun v hv => h (token, v) (List.mem_append_right _ (Entries.mem_of_get? hv))
  rw [Customizations.of, hblock, hcomponent]
  rfl

end Customizations

namespace Context

variable {ctx : Context} {c : Customizations} {hs : List Header}

lemma headers_eq (hc : ofValues ctx.blockCustomizations ctx.componentCustomizations = .ok c) :
    ctx.headers = (ctx.headerSource c.block c.component).headers ctx.columns := by
  rw [headers, hc]
  rfl

/-- There are headers wherever everything that is said about columns is an object. -/
lemma exists_headers (hc : ofValues ctx.blockCustomizations ctx.componentCustomizations = .ok c)
    (hplain : c.Plain) : ∃ hs, ctx.headers = .ok hs := by
  refine isOk_iff.mp ?_
  rw [headers_eq hc, HeaderSource.isOk_headers_iff]
  exact fun token _ => .inl (congrArg Value.isObj (hplain.of_eq_merged token))

end Context

end ViewAssembly
