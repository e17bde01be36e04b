import Mathlib.Data.List.Nodup
import ViewAssembly.Proofs.Header.Listed

/-!
# Columns that are shown

As long as no customization gives a column another name, the headers of a component are those of the
columns that it shows, each once (`Context.headers_of_shown_columns`): the listed columns of the
schema that are neither hidden nor left out in the language, and the columns that a customization
brings where the schema has none.
-/

namespace ViewAssembly

open Customizations

namespace Header

variable {lang name : String} {custom : Entries Value} {h : Header}

/-! ### What settling a header leaves alone -/

lemma get?_settleEditable_of_ne (heditable : "editable" ≠ name)
    (hinline : "inlineEditable" ≠ name) : h.settleEditable.get? name = h.get? name := by
  rw [settleEditable]
  split
  · rw [Entries.get?_put_of_ne _ _ hinline, Entries.get?_erase, if_neg heditable]
  · rfl

lemma get?_settleTitle_of_ne (htitle : "title" ≠ name) :
    (settleTitle custom h).get? name = h.get? name := by
  rw [settleTitle]
  split
  · rw [Entries.get?_putNew_of_ne _ _ htitle, Entries.get?_put_of_ne _ _ htitle]
  · rw [Entries.get?_putNew_of_ne _ _ htitle]

lemma get?_settleLanguage_of_ne (hlang : "lang" ≠ name) :
    (settleLanguage lang h).get? name = h.get? name := by
  have herase : (h.erase "lang").get? name = h.get? name := by
    rw [Entries.get?_erase, if_neg hlang]
  rw [settleLanguage]
  split
  · split
    · rw [Entries.get?_put_of_ne _ _ hlang, herase]
    · exact herase
  · rfl

lemma get?_key_settle : (settle lang custom h).get? "key" = h.get? "key" := by
  rw [settle, get?_settleLanguage_of_ne (by decide), get?_settleTitle_of_ne (by decide),
    get?_settleEditable_of_ne (by decide) (by decide)]

/-! ### Headers that are handed out -/

/--
What can be relied on in every header: it has a title, its texts are resolved, and it lists no
languages.
-/
structure Readable (h : Header) : Prop where
  title : ∃ s, h.get? "title" = some (.str s)
  label : ∀ v, h.get? "label" = some v → ∃ s, v = .str s
  lang : ∀ langs, h.get? "lang" ≠ some (.arr langs)

lemma get?_lang_settleLanguage (langs : List Value) :
    (settleLanguage lang h).get? "lang" ≠ some (.arr langs) := by
  rw [settleLanguage]
  split
  · split
    · rw [Entries.get?_put_self]
      nofun
    · rw [Entries.get?_erase, if_pos rfl]
      nofun
  · next hlang => exact hlang langs

lemma exists_title_resolveTexts : ∃ s, (h.resolveTexts lang).get? "title" = some (.str s) := by
  rw [resolveTexts]
  split
  · exact ⟨_, by rw [Entries.get?_put_of_ne _ _ (by decide), Entries.get?_put_self]⟩
  · exact ⟨_, Entries.get?_put_self ..⟩

lemma exists_label_resolveTexts {v : Value} (hv : (h.resolveTexts lang).get? "label" = some v) :
    ∃ s, v = .str s := by
  rw [resolveTexts] at hv
  split at hv
  · rw [Entries.get?_put_self] at hv
    cases hv
    exact ⟨_, rfl⟩
  · next hlabel => cases hlabel.symm.trans hv

lemma readable_final_settle : ((settle lang custom h).final lang).Readable where
  title := exists_title_resolveTexts
  label _ := exists_label_resolveTexts
  lang langs := by
    rw [get?_final_of_ne (by decide) (by decide) (by decide)]
    exact get?_lang_settleLanguage langs

end Header

/-! ### The header of a column -/

namespace HeaderSource

variable {s : HeaderSource} {token : String} {custom : Entries Value} {g : Header}

/--
Every header is a settled one. What the customization is merged into has the token as its key, and a
label that is added to the customization leaves its key alone.
-/
lemma exists_settle_of_header? (hof : s.customizations.of token = .obj custom)
    (h : s.header? token = .ok (some g)) :
    ∃ (base : Header) (labelled : Entries Value), base.get? "key" = some (.str token) ∧
      labelled.get? "key" = custom.get? "key" ∧
      g = Header.settle s.lang labelled (Value.mergeFields .patch base labelled) := by
  rw [header?] at h
  split at h
  · next column _ =>
    rw [schemaHeader, hof] at h
    split at h <;> cases h
    exact ⟨column.header token s.lang, custom, rfl, rfl, rfl⟩
  · obtain ⟨brought, -, h⟩ := bind_eq_ok_iff.mp h
    split at h
    · rw [broughtHeader, hof] at h
      split at h <;> cases h
      exact ⟨_, _, rfl, Entries.get?_putNew_of_ne custom _ (by decide), rfl⟩
    · cases h

lemma get?_key_of_header? (hof : s.customizations.of token = .obj custom)
    (hkey : custom.get? "key" = none) (h : s.header? token = .ok (some g)) :
    g.get? "key" = some (.str token) := by
  obtain ⟨base, labelled, hbase, hlabelled, rfl⟩ := exists_settle_of_header? hof h
  rw [Header.get?_key_settle, Value.get?_mergeFields_of_get?_eq_none (hlabelled.trans hkey), hbase]

lemma readable_of_header? (hof : s.customizations.of token = .obj custom)
    (h : s.header? token = .ok (some g)) : (g.final s.lang).Readable := by
  obtain ⟨base, labelled, -, -, rfl⟩ := exists_settle_of_header? hof h
  exact Header.readable_final_settle

end HeaderSource

/-! ### Customizations that leave names alone -/

namespace Customizations

variable {c : Customizations} {token name : String}

lemma get?_entriesFor_eq_none {es : Entries Value} (h : ∀ e ∈ es, e.2.get? name = none) :
    (entriesFor es token).get? name = none := by
  rw [entriesFor]
  cases hget : es.get? token with
  | none => rfl
  | some v =>
    have hv : v.get? name = none := h (token, v) (Entries.mem_of_get? hget)
    cases v with
    | obj fs => exact hv
    | _ => rfl

lemma get?_merged_eq_none (h : ∀ e ∈ c.block ++ c.component, e.2.get? name = none) :
    (c.merged token).get? name = none := by
  rw [merged, Value.get?_mergeFields_of_get?_eq_none]
  · exact get?_entriesFor_eq_none fun e he => h e (List.mem_append_left _ he)
  · exact get?_entriesFor_eq_none fun e he => h e (List.mem_append_right _ he)

end Customizations

lemma Token.nodup_ofValues (vs : List Value) : (ofValues vs).Nodup := nodup_eraseDups _

lemma nodup_columnsToShow {snapshot : Snapshot} (h : snapshot.keys.Nodup)
    (block component : Option (List Value)) : (columnsToShow snapshot block component).Nodup := by
  unfold columnsToShow
  split
  · exact Token.nodup_ofValues _
  · exact Token.nodup_ofValues _
  · exact h.filter _

/-! ### The columns of a component -/

namespace Context

variable {ctx : Context} {c : Customizations} {hs : List Header} {token : String}

/--
Does a component show a column? It shows one of the schema if it is listed, not hidden, and offered
in the language; and another one if it is listed or customized, and if what is said about it brings
a column and offers it in the language.
-/
def Shows (ctx : Context) (c : Customizations) (token : String) : Prop :=
  match ctx.snapshot.get? token with
  | some column =>
    token ∈ ctx.columns ∧ (column.hidden = false ∨ ctx.includeHidden = true) ∧
      column.admits ctx.lang = true
  | none        =>
    (token ∈ ctx.columns ∨ token ∈ c.tokens) ∧ Brings (c.merged token) ∧
      Language.admits (Language.declaredBy (.obj (c.merged token))) ctx.lang = true

lemma shows_iff (hplain : c.Plain) :
    ctx.Shows c token ↔
      (token ∈ ctx.columns ∨ token ∈ c.tokens ∧
        (ctx.headerSource c.block c.component).brings token = .ok true) ∧
      ∃ g, (ctx.headerSource c.block c.component).header? token = .ok (some g) := by
  have hof : (ctx.headerSource c.block c.component).customizations.of token
      = .obj (c.merged token) := hplain.of_eq_merged token
  rw [Shows, HeaderSource.exists_header?_iff hof, HeaderSource.brings, hof, Entries.has]
  simp only [headerSource]
  cases hcolumn : ctx.snapshot.get? token with
  | some column =>
    have hhidden : (column.hidden && !ctx.includeHidden) = false ↔
        column.hidden = false ∨ ctx.includeHidden = true := by
      cases column.hidden <;> simp
    simp only [hhidden]
    -- a token that the schema knows brings no column of its own
    refine and_congr_left fun _ => (or_iff_left ?_).symm
    rintro ⟨-, h⟩
    cases h
  | none =>
    refine and_congr_left fun hoffered => or_congr_right (and_iff_left ?_).symm
    rw [Option.isSome_none, bringsColumn_obj, Except.ok.injEq, Bool.or_eq_true]
    exact hoffered.1

/-- The names in the headers of a component, in some order. -/
lemma exists_keys_of_headers
    (hc : ofValues ctx.blockCustomizations ctx.componentCustomizations = .ok c)
    (hplain : c.Plain) (hkey : ∀ e ∈ c.block ++ c.component, e.2.get? "key" = none)
    (h : ctx.headers = .ok hs) :
    ∃ tokens : List String, (hs.map (·.get? "key")).Perm (tokens.map (some ∘ Value.str)) ∧
      (ctx.columns.Nodup → tokens.Nodup) ∧ ∀ t, t ∈ tokens ↔ ctx.Shows c t := by
  rw [headers_eq hc] at h
  obtain ⟨found, hperm, hnodup, hmem⟩ := HeaderSource.exists_found_of_headers h
  refine ⟨found.keys, (hperm.map _).trans (.of_eq ?_), hnodup, fun t => ?_⟩
  · rw [Entries.values, Entries.keys, List.map_map, List.map_map, List.map_map]
    refine List.map_congr_left fun e he => ?_
    have hheader := ((hmem e.1 e.2).mp he).2
    have hget := HeaderSource.get?_key_of_header? (hplain.of_eq_merged e.1)
      (get?_merged_eq_none hkey) hheader
    exact (Header.get?_final_of_ne (by decide) (by decide) (by decide)).trans hget
  · rw [shows_iff hplain, Entries.keys, List.mem_map]
    constructor
    · rintro ⟨⟨t, g⟩, he, rfl⟩
      obtain ⟨ht, hheader⟩ := (hmem t g).mp he
      exact ⟨ht, g, hheader⟩
    · rintro ⟨ht, g, hheader⟩
      exact ⟨(t, g), (hmem t g).mpr ⟨ht, hheader⟩, rfl⟩

/-- A component has the header of each column that it shows, once, and no other headers. -/
theorem headers_of_shown_columns
    (hc : ofValues ctx.blockCustomizations ctx.componentCustomizations = .ok c)
    (hplain : c.Plain) (hkey : ∀ e ∈ c.block ++ c.component, e.2.get? "key" = none)
    (hsnapshot : ctx.snapshot.keys.Nodup) :
    ∃ hs, ctx.headers = .ok hs ∧ (hs.map (·.get? "key")).Nodup ∧
      (∀ key, key ∈ hs.map (·.get? "key") ↔ ∃ token, ctx.Shows c token ∧ key = some (.str token)) ∧
      ∀ h ∈ hs, h.Readable := by
  obtain ⟨hs, hhs⟩ := exists_headers hc hplain
  obtain ⟨tokens, hperm, hnodup, hmem⟩ := exists_keys_of_headers hc hplain hkey hhs
  refine ⟨hs, hhs, ?_, fun key => ?_, fun h hh => ?_⟩
  · rw [hperm.nodup_iff]
    refine (hnodup (nodup_columnsToShow hsnapshot _ _)).map fun a b hab => ?_
    cases hab
    rfl
  · rw [hperm.mem_iff, List.mem_map]
    refine exists_congr fun token => and_congr (hmem token) ?_
    exact eq_comm
  · rw [headers_eq hc] at hhs
    obtain ⟨t, g, -, hheader, rfl⟩ := (HeaderSource.mem_headers_iff hhs).mp hh
    exact HeaderSource.readable_of_header? (hplain.of_eq_merged t) hheader

/-- A label is given to a column that the schema does not know. -/
def badgeCustomizations : Customizations := { block := [("badge", .obj [("label", .str "Badge")])] }

/-- A component with a column that is shown and one that is not. -/
def badgeContext : Context where
  snapshot := [("id", {}), ("secret", { hidden := true })]
  blockCustomizations := .obj badgeCustomizations.block

lemma plain_badgeCustomizations : badgeCustomizations.Plain := by
  intro e he
  obtain rfl := List.mem_singleton.mp he
  rfl

lemma get?_key_badgeCustomizations :
    ∀ e ∈ badgeCustomizations.block ++ badgeCustomizations.component, e.2.get? "key" = none := by
  intro e he
  obtain rfl := List.mem_singleton.mp he
  rfl

/-- The hidden column has no header, and the one that is brought has. -/
theorem headers_of_shown_columns_badge :
    ∃ hs, badgeContext.headers = .ok hs ∧ (hs.map (·.get? "key")).Nodup ∧
      some (.str "id") ∈ hs.map (·.get? "key") ∧ some (.str "badge") ∈ hs.map (·.get? "key") ∧
      some (.str "secret") ∉ hs.map (·.get? "key") := by
  have hc : ofValues badgeContext.blockCustomizations badgeContext.componentCustomizations
      = .ok badgeCustomizations := rfl
  obtain ⟨hs, hhs, hnodup, hmem, -⟩ :=
    headers_of_shown_columns hc plain_badgeCustomizations get?_key_badgeCustomizations (by decide)
  refine ⟨hs, hhs, hnodup, (hmem _).mpr ⟨"id", ⟨by decide, .inl rfl, rfl⟩, rfl⟩,
    (hmem _).mpr ⟨"badge", ⟨.inr List.mem_cons_self, .inl rfl, rfl⟩, rfl⟩, fun hsecret => ?_⟩
  obtain ⟨token, hshows, htoken⟩ := (hmem _).mp hsecret
  cases htoken
  have hshown : _ ∧ (true = false ∨ false = true) ∧ _ := hshows
  simp at hshown

end Context

end ViewAssembly
