import ViewAssembly.Proofs.Assembly.Outcome
import ViewAssembly.Proofs.Script.Cache

/-!
# Components are assembled independently

The section of a component depends on its template, on its override and on what all components
share. What else is requested or declared does not show in it, and neither does what the functions
of other components left in the cache of scripts (`Engine.section_independent`).
-/

namespace ViewAssembly.Engine

variable {a : Engine} {block : ViewBlock} {schema snapshot : Snapshot} {r : ViewRequest}

/-- What stands under a key is the section of its component. -/
lemma get?_sections {ctx : Context} {ts : Entries Template} {sections : Entries Value}
    (h : a.sections block ctx r ts = .ok sections) {key : String} {t : Template}
    (ht : ts.get? key = some t) :
    ∃ here, a.sectionOf block ctx r key t = .ok here ∧ sections.get? key = some here := by
  induction ts generalizing sections with
  | nil => cases ht
  | cons e ts ih =>
    obtain ⟨k, t'⟩ := e
    rw [sections_cons] at h
    obtain ⟨here, hhere, h⟩ := bind_eq_ok_iff.mp h
    obtain ⟨rest, hrest, h⟩ := bind_eq_ok_iff.mp h
    cases h
    rw [Entries.get?_cons] at ht
    by_cases hk : k = key
    · subst hk
      rw [if_pos rfl] at ht
      cases ht
      exact ⟨here, hhere, by simp⟩
    · rw [if_neg hk] at ht
      obtain ⟨there, hthere, hget⟩ := ih hrest ht
      exact ⟨there, hthere, by rw [Entries.get?_cons, if_neg hk, hget]⟩

/-- In a payload the section of a component stands under its key. -/
lemma get?_sections_of_assemble {p : Payload} (hp : a.assemble block schema r = .ok (.payload p))
    {key : String} (hk : key ∈ r.keys block) :
    ∃ snapshot t here, snapshotFor block schema r.blockName = .ok snapshot ∧
      a.templates.find? key = some t ∧
      a.sectionOf block (a.context block snapshot r) r key t = .ok here ∧
      p.sections.get? key = some here := by
  obtain ⟨-, hm, -, snapshot, hs, hpayload⟩ := assemble_eq_payload_iff.mp hp
  obtain ⟨t, ht⟩ := Option.isSome_iff_exists.mp (TemplateLibrary.isSome_find?_of_complete hm hk)
  have hget := TemplateLibrary.get?_ofPairs_pairs hm hk
  obtain ⟨here, hhere, hsection⟩ :=
    get?_sections (payload_eq_ok_iff.mp hpayload).1 (hget.trans ht)
  exact ⟨snapshot, t, here, hs, ht, hhere, hsection⟩

/-- Every section of a payload is that of a requested component. -/
lemma sectionOf_of_mem_sections {p : Payload} {key : String} {here : Value}
    (hp : a.assemble block schema r = .ok (.payload p)) (hhere : (key, here) ∈ p.sections) :
    key ∈ r.keys block ∧ ∃ snapshot t, snapshotFor block schema r.blockName = .ok snapshot ∧
      a.templates.find? key = some t ∧
      a.sectionOf block (a.context block snapshot r) r key t = .ok here := by
  have hkeys := keys_of_assemble hp
  have hkey : key ∈ r.keys block := by
    rw [← List.mem_eraseDups, ← hkeys]
    exact List.mem_map_of_mem hhere
  have hnodup : p.sections.keys.Nodup := by
    rw [hkeys]
    exact nodup_eraseDups _
  obtain ⟨snapshot, t, here', hs, ht, hsection, hget⟩ := get?_sections_of_assemble hp hkey
  obtain rfl : here' = here := Option.some.inj (hget.symm.trans (Entries.get?_of_mem hnodup hhere))
  exact ⟨hkey, snapshot, t, hs, ht, hsection⟩

/-- Keys of one kind have the same template. -/
lemma find?_congr {library : TemplateLibrary} {key other : String}
    (h : baseKey other = baseKey key) :
    library.find? other = library.find? key := by
  simp only [TemplateLibrary.find?, ComponentKind.ofKey?, h]

/-- Where several components can be assembled, each of them can be for itself. -/
lemma assemble_single {p : Payload} (hp : a.assemble block schema r = .ok (.payload p))
    {key : String} (hk : key ∈ r.keys block) {here : Value}
    (hhere : p.sections.get? key = some here) :
    a.assemble block schema { r with componentKeys := some [key] }
      = .ok (.payload { p with sections := [(key, here)] }) := by
  obtain ⟨snapshot, t, here', hs, ht, hsection, hget⟩ := get?_sections_of_assemble hp hk
  obtain rfl : here' = here := Option.some.inj (hget.symm.trans hhere)
  obtain ⟨h, -, hl, snapshot', hs', hpayload⟩ := assemble_eq_payload_iff.mp hp
  obtain rfl : snapshot' = snapshot := Except.ok.inj (hs'.symm.trans hs)
  obtain ⟨-, hheaders, hfilters, hpagination⟩ := payload_eq_ok_iff.mp hpayload
  have hm : a.templates.missing [key] = [] := by simp [TemplateLibrary.missing, ht]
  have hpairs : Entries.ofPairs (a.templates.pairs [key]) = [(key, t)] := by
    simp [TemplateLibrary.pairs, ht, Entries.ofPairs, Entries.put]
  refine assemble_eq_payload_iff.mpr ⟨h, hm, hl, snapshot', hs', ?_⟩
  refine payload_eq_ok_iff.mpr ⟨?_, hheaders, hfilters, hpagination⟩
  change a.sections block _ _ (Entries.ofPairs (a.templates.pairs [key])) = _
  rw [hpairs, sections_cons]
  exact bind_eq_ok_iff.mpr ⟨here', hsection, rfl⟩

/--
The section of a component is the same whether other components are requested with it or not. It is
also that of any component of its kind with an equal override, whatever else is declared beside
that one and requested with it; and whatever references a cache of scripts has resolved before, the
answer is the same.
-/
theorem section_independent {p : Payload} (hp : a.assemble block schema r = .ok (.payload p))
    {key : String} (hk : key ∈ r.keys block) :
    ∃ here, p.sections.get? key = some here ∧
      (∃ p', a.assemble block schema { r with componentKeys := some [key] } = .ok (.payload p') ∧
        p'.sections = [(key, here)]) ∧
      (∀ (components : Entries Value) (keys : List String) (other : String) (p' : Payload),
        a.assemble { block with components } schema { r with componentKeys := some keys }
            = .ok (.payload p') →
          other ∈ keys → baseKey other = baseKey key →
          components.get? other = block.components.get? key →
          p'.sections.get? other = some here) ∧
      ∀ folder refs, a.functions = .ofFolder folder →
        { a with functions := .ofCache folder (.after folder refs) }.assemble block schema r
          = .ok (.payload p) := by
  obtain ⟨snapshot, t, here, hs, ht, hsection, hhere⟩ := get?_sections_of_assemble hp hk
  refine ⟨here, hhere, ⟨_, assemble_single hp hk hhere, rfl⟩, ?_, ?_⟩
  · intro components keys other p' hp' hother hkind hoverride
    have hk' : other ∈ ViewRequest.keys { r with componentKeys := some keys }
        { block with components } := hother
    obtain ⟨snapshot', t', here', hs', ht', hsection', hhere'⟩ := get?_sections_of_assemble hp' hk'
    -- the columns and the context do not look at the components, the template only at the kind
    obtain rfl : snapshot' = snapshot := Except.ok.inj (hs'.symm.trans hs)
    obtain rfl : t' = t := Option.some.inj (ht'.symm.trans ((find?_congr hkind).trans ht))
    have hsame : ViewBlock.override { block with components } other = block.override key := by
      simp only [ViewBlock.override, hoverride]
    have heq : a.sectionOf { block with components } (a.context block snapshot' r)
        { r with componentKeys := some keys } other t'
          = a.sectionOf block (a.context block snapshot' r) r key t' := by
      simp only [sectionOf, hsame]
      rfl
    rw [hhere', Except.ok.inj (hsection'.symm.trans (heq.trans hsection))]
  · intro folder refs hf
    rw [FunctionSource.ofCache_after, ← hf]
    exact hp

/-- An engine that knows components of one kind, which consist of a single entry. -/
def denseEngine : Engine where
  templates := [("meta", ⟨.«meta», [("density", .str "compact")]⟩)]

def twoMetas : ViewBlock where
  components := [("meta", .obj []), ("meta2", .obj [])]
  lang := ["en"]

theorem section_independent_twoMetas :
    ∃ p, denseEngine.assemble twoMetas [] { lang := some "en" } = .ok (.payload p) ∧
      "meta" ∈ ViewRequest.keys { lang := some "en" } twoMetas ∧
      ∃ here, p.sections.get? "meta" = some here ∧ p.sections.get? "meta2" = some here := by
  have hp : denseEngine.assemble twoMetas [] { lang := some "en" }
      = .ok (.payload {
        sections := [
          ("meta", .obj [("density", .str "compact")]),
          ("meta2", .obj [("density", .str "compact")])] }) := by
    with_unfolding_all rfl
  have hk : "meta" ∈ ViewRequest.keys { lang := some "en" } twoMetas := List.mem_cons_self
  obtain ⟨here, hget, -, hother, -⟩ := section_independent hp hk
  exact ⟨_, hp, hk, here, hget, hother twoMetas.components ["meta", "meta2"] "meta2" _
    (by with_unfolding_all rfl) (by decide) (by decide) rfl⟩

end ViewAssembly.Engine
