import ViewAssembly.Proofs.Assembly.Independence

/-!
# Components that a block does not declare

A request may name components that the block does not declare. Where there is a template for one, it
is assembled as if the block declared it and overrode nothing. So the sections of a payload are
those of declared components exactly if the request names no others
(`Engine.sections_declared_iff`).
-/

namespace ViewAssembly

namespace ViewBlock

variable {b : ViewBlock} {key : String}

/-- A block that declares a component besides its own, and overrides nothing in it. -/
def declaring (b : ViewBlock) (key : String) : ViewBlock :=
  { b with components := b.components.put key (.obj []) }

/-- What is not declared is overridden by nothing already. -/
lemma override_declaring (h : key ∉ b.components.keys) (other : String) :
    (b.declaring key).override other = b.override other := by
  rw [override, override, declaring, Entries.get?_put]
  split
  · next hkey =>
    subst hkey
    rw [Entries.get?_eq_none_iff.mpr h]
    rfl
  · rfl

end ViewBlock

namespace Engine

variable {a : Engine} {block : ViewBlock} {schema : Snapshot} {r : ViewRequest} {key : String}

lemma sections_declaring (h : key ∉ block.components.keys) (ctx : Context)
    (ts : List (String × Template)) :
    a.sections (block.declaring key) ctx r ts = a.sections block ctx r ts := by
  induction ts with
  | nil => rfl
  | cons e ts ih =>
    rw [sections_cons, sections_cons, ih, sectionOf, sectionOf, ViewBlock.override_declaring h]
    rfl

/-- A request that names its components does not ask which of them are declared. -/
lemma assemble_declaring {keys : List String} (hkeys : r.componentKeys = some keys)
    (h : key ∉ block.components.keys) :
    a.assemble (block.declaring key) schema r = a.assemble block schema r := by
  have hrequested : r.keys (block.declaring key) = r.keys block := by
    rw [ViewRequest.keys, ViewRequest.keys, hkeys]
    rfl
  have hpayload (ctx : Context) (ts : Entries Template) :
      a.payload (block.declaring key) ctx r ts = a.payload block ctx r ts := by
    rw [payload, payload, sections_declaring h]
    rfl
  simp only [assemble, hrequested, hpayload]
  rfl

/--
The sections of a payload stand under the requested keys, each once. They are those of declared
components exactly if the request names no others; without a list of its own it names none. A
component that is requested and not declared is answered as if the block declared it and overrode
nothing.
-/
theorem sections_declared_iff {p : Payload} (hp : a.assemble block schema r = .ok (.payload p)) :
    p.sections.keys = (r.keys block).eraseDups ∧
      ((∀ key ∈ p.sections.keys, key ∈ block.components.keys) ↔
        ∀ keys, r.componentKeys = some keys → ∀ key ∈ keys, key ∈ block.components.keys) ∧
      ∀ key ∈ p.sections.keys, key ∉ block.components.keys →
        a.assemble (block.declaring key) schema r = .ok (.payload p) := by
  have hsections := keys_of_assemble hp
  have hmem (key : String) : key ∈ p.sections.keys ↔ key ∈ r.keys block := by
    rw [hsections, List.mem_eraseDups]
  refine ⟨hsections, ?_, ?_⟩
  · simp only [hmem]
    rw [ViewRequest.keys]
    cases r.componentKeys with
    | none => simp
    | some keys => simp
  · intro key hkey hundeclared
    rw [hmem, ViewRequest.keys] at hkey
    cases hkeys : r.componentKeys with
    | none =>
      rw [hkeys] at hkey
      exact absurd hkey hundeclared
    | some keys => rw [assemble_declaring hkeys hundeclared, hp]

def oneMeta : ViewBlock where
  components := [("meta", .obj [])]
  lang := ["en"]

def denseSection : Value := .obj [("density", .str "compact")]

/-- A request for what the block declares is answered by nothing else. -/
theorem sections_declared_iff_oneMeta :
    ∃ p, denseEngine.assemble oneMeta [] { lang := some "en", componentKeys := some ["meta"] }
        = .ok (.payload p) ∧
      p.sections = [("meta", denseSection)] ∧
      ∀ key ∈ p.sections.keys, key ∈ oneMeta.components.keys := by
  have hp : denseEngine.assemble oneMeta [] { lang := some "en", componentKeys := some ["meta"] }
      = .ok (.payload { sections := [("meta", denseSection)] }) := by with_unfolding_all rfl
  obtain ⟨-, hdeclared, -⟩ := sections_declared_iff hp
  refine ⟨_, hp, rfl, hdeclared.mpr ?_⟩
  rintro keys hkeys
  cases hkeys
  simp [oneMeta, Entries.keys]

/-- A component of a known kind is assembled although the block does not declare it. -/
theorem undeclared_section :
    ∃ p, denseEngine.assemble oneMeta [] { lang := some "en", componentKeys := some ["meta2"] }
        = .ok (.payload p) ∧
      "meta2" ∈ p.sections.keys ∧ "meta2" ∉ oneMeta.components.keys := by
  have hp : denseEngine.assemble oneMeta [] { lang := some "en", componentKeys := some ["meta2"] }
      = .ok (.payload { sections := [("meta2", denseSection)] }) := by with_unfolding_all rfl
  exact ⟨_, hp, List.mem_cons_self, by simp [oneMeta, Entries.keys]⟩

end Engine

end ViewAssembly
