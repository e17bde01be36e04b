import ViewAssembly.Proofs.Assembly.TopLevel

/-!
# No header of a payload says where it wants to stand

Headers can say so where columns are customized, in what a component overrides, and in a template.
The headers of a section are ordered after all of this, and ordering takes the wish off each of
them; inlining functions and localizing texts write no new names into a header. So of a payload no
header says where it wants to stand (`Engine.no_header_has_order`).
-/

namespace ViewAssembly

/-! ### Headers without a place -/

namespace Header

variable {source : FunctionSource} {lang : String} {known : List String} {v : Value}

lemma anyPlaced_arr_eq_false_iff {hs : List Value} :
    anyPlaced (.arr hs) = false ↔ ∀ h ∈ hs, h.get? "order" = none := by
  simp [anyPlaced, Value.elems?]

/-- A change that writes no wish into an element leaves a list without wishes. -/
lemma anyPlaced_map {f : Value → Value} {hs : List Value}
    (hf : ∀ v, v.get? "order" = none → (f v).get? "order" = none)
    (h : anyPlaced (.arr hs) = false) : anyPlaced (.arr (hs.map f)) = false := by
  rw [anyPlaced_arr_eq_false_iff] at h ⊢
  intro w hw
  obtain ⟨v, hv, rfl⟩ := List.mem_map.mp hw
  exact hf v (h v hv)

lemma anyPlaced_inlineFunctions (h : anyPlaced v = false) :
    anyPlaced (v.inlineFunctions source) = false := by
  cases v with
  | arr hs =>
    rw [Value.inlineFunctions, Value.inlineElems_eq_map]
    refine anyPlaced_map (fun w hw => ?_) h
    rw [Value.get?_inlineFunctions (by decide), hw]
    rfl
  | _ => rfl

lemma anyPlaced_localizeWith (h : anyPlaced v = false) :
    anyPlaced (v.localizeWith lang known) = false := by
  cases v with
  | arr hs =>
    rw [Value.localizeWith, Value.localizeElems_eq_map]
    refine anyPlaced_map (fun w hw => ?_) h
    rcases Value.get?_localizeWith lang known w "order" rfl with hget | hget
    · exact hget
    · rw [hget, hw]
      rfl
  | obj fs =>
    rw [Value.localizeWith]
    split <;> rfl
  | _ => rfl

end Header

namespace Engine

variable {a : Engine} {block : ViewBlock} {ctx : Context} {schema : Snapshot} {r : ViewRequest}

/-! ### What becomes of a draft -/

/-- A section is its draft, overridden, with its headers ordered, inlined and localized. -/
lemma exists_merged_of_component {languages : List String} {t : Template}
    {override : Entries Value} {here : Value}
    (h : a.component ctx languages t override = .ok here) :
    ∃ draft fs, t.resolve a.builders ctx = .ok draft ∧
      orderHeaders (a.applyOverride t draft override) = .ok fs ∧
      here = ((Value.obj fs).inlineFunctions a.functions).localize ctx.lang languages := by
  obtain ⟨draft, hdraft, h⟩ := bind_eq_ok_iff.mp h
  obtain ⟨fs, hfs, h⟩ := bind_eq_ok_iff.mp h
  obtain ⟨inlined, hinlined, h⟩ := bind_eq_ok_iff.mp h
  obtain rfl := Value.eq_inlineFunctions_of_inline hinlined
  cases h
  exact ⟨draft, fs, hdraft, hfs, rfl⟩

/-- Ordering writes nothing but a list of headers in place of another one. -/
lemma eq_or_put_of_orderHeaders {fs out : Entries Value} (h : orderHeaders fs = .ok out) :
    out = fs ∨ "headers" ∈ fs.keys ∧ ∃ hs, out = fs.put "headers" (.arr hs) := by
  rw [orderHeaders] at h
  split at h
  · next hs hget =>
    have hmem : "headers" ∈ fs.keys := by
      rw [← Entries.isSome_get?_iff, hget]
      rfl
    split at h
    · obtain ⟨arranged, -, h⟩ := bind_eq_ok_iff.mp h
      cases h
      exact .inr ⟨hmem, arranged, rfl⟩
    · cases h
      exact .inl rfl
  · cases h
    exact .inl rfl

lemma keys_of_orderHeaders {fs out : Entries Value} (h : orderHeaders fs = .ok out) :
    out.keys = fs.keys := by
  rcases eq_or_put_of_orderHeaders h with rfl | ⟨hmem, hs, rfl⟩
  · rfl
  · exact Entries.keys_put_of_mem _ hmem

lemma get?_of_orderHeaders {fs out : Entries Value} {n : String} (h : orderHeaders fs = .ok out)
    (hn : "headers" ≠ n) : out.get? n = fs.get? n := by
  rcases eq_or_put_of_orderHeaders h with rfl | ⟨-, hs, rfl⟩
  · rfl
  · exact Entries.get?_put_of_ne _ _ hn

/-! ### The headers of a section -/

/-- Whatever an override left under `headers`, no header wants a place once they are ordered. -/
lemma anyPlaced_of_orderHeaders {fs out : Entries Value} (h : orderHeaders fs = .ok out) :
    ∀ v, out.get? "headers" = some v → Header.anyPlaced v = false := by
  intro v hv
  rw [orderHeaders] at h
  split at h
  · next hs hget =>
    split at h
    · obtain ⟨arranged, harranged, h⟩ := bind_eq_ok_iff.mp h
      cases h
      rw [Entries.get?_put_self] at hv
      cases hv
      rw [Header.arrangeElems] at harranged
      split at harranged <;> cases harranged
      exact Header.anyPlaced_eq_false fun _ => Header.get?_order_of_mem_arrange
    · next hplaced =>
      cases h
      cases hget.symm.trans hv
      simpa using hplaced
  · next hnoList =>
    cases h
    cases v with
    | arr hs => exact absurd hv (hnoList hs)
    | _ => rfl

lemma anyPlaced_of_component {languages : List String} {t : Template} {override : Entries Value}
    {here v : Value} (h : a.component ctx languages t override = .ok here)
    (hv : here.get? "headers" = some v) : Header.anyPlaced v = false := by
  obtain ⟨draft, fs, -, hordered, rfl⟩ := exists_merged_of_component h
  rw [Value.localize] at hv
  -- what stands under `headers` at the end was inlined and localized from what stood there before
  rcases Value.get?_localizeWith ctx.lang (Value.knownLanguages ctx.lang languages)
    ((Value.obj fs).inlineFunctions a.functions) "headers" rfl with hnone | hsome
  · rw [hnone] at hv
    cases hv
  · rw [hsome, Value.get?_inlineFunctions (by decide), Option.map_map] at hv
    obtain ⟨w, hw, rfl⟩ := Option.map_eq_some_iff.mp hv
    apply Header.anyPlaced_localizeWith
    apply Header.anyPlaced_inlineFunctions
    exact anyPlaced_of_orderHeaders hordered w hw

lemma anyPlaced_of_sections {ts : List (String × Template)} {sections : Entries Value}
    (h : a.sections block ctx r ts = .ok sections) :
    ∀ e ∈ sections, ∀ v, e.2.get? "headers" = some v → Header.anyPlaced v = false := by
  induction ts generalizing sections with
  | nil =>
    cases h
    exact nofun
  | cons e ts ih =>
    rw [sections_cons] at h
    obtain ⟨here, hhere, h⟩ := bind_eq_ok_iff.mp h
    obtain ⟨rest, hrest, h⟩ := bind_eq_ok_iff.mp h
    cases h
    rw [List.forall_mem_cons]
    exact ⟨fun v hv => anyPlaced_of_component hhere hv, ih hrest⟩

/-! ### The headers of a payload -/

/-- The headers beside the sections are a list of which none wants a place. -/
lemma anyPlaced_of_headersBeside {v : Value} (h : a.headersBeside ctx = .ok (some v)) :
    ∃ hs, v = .arr hs ∧ Header.anyPlaced (.arr hs) = false := by
  rw [headersBeside] at h
  split at h
  · cases hheaders : ctx.headers with
    | error what =>
      rw [hheaders] at h
      cases h
    | ok hs =>
      rw [hheaders] at h
      cases h
      exact ⟨_, rfl, Context.anyPlaced_headers hheaders⟩
  · cases h

/--
No header of a payload says where it wants to stand: none of those beside the sections, and none in
the list of headers of any section. This is so whatever the customizations, the overrides, the
templates and the builders say about the places of headers.
-/
theorem no_header_has_order {p : Payload} (hp : a.assemble block schema r = .ok (.payload p)) :
    (∀ v, p.headers = some v → ∃ hs, v = .arr hs ∧ ∀ h ∈ hs, h.get? "order" = none) ∧
      ∀ key here hs, (key, here) ∈ p.sections → here.get? "headers" = some (.arr hs) →
        ∀ h ∈ hs, h.get? "order" = none := by
  obtain ⟨-, -, -, snapshot, -, hpayload⟩ := assemble_eq_payload_iff.mp hp
  obtain ⟨hsections, hheaders, -⟩ := payload_eq_ok_iff.mp hpayload
  constructor
  · intro v hv
    rw [hv] at hheaders
    obtain ⟨hs, rfl, hplaced⟩ := anyPlaced_of_headersBeside hheaders
    exact ⟨hs, rfl, Header.anyPlaced_arr_eq_false_iff.mp hplaced⟩
  · intro key here hs hmem hget
    apply Header.anyPlaced_arr_eq_false_iff.mp
    exact anyPlaced_of_sections hsections (key, here) hmem _ hget

/-- An engine that knows components of one kind and puts headers beside them. -/
def placingEngine : Engine where
  settings := { topLevelHeaders := true }
  templates := [("meta", ⟨.«meta», []⟩)]

/-- A block whose column wants a place, and so do the headers that its component brings. -/
def placedBlock : ViewBlock where
  components := [("meta", .obj [("headers", .arr [
    .obj [("key", .str "a"), ("order", .bool true)],
    .obj [("key", .str "b"), ("order", .int 0)]])])]
  columns := ["id"]
  columnCustomizations := [("id", [("order", .int 3)])]
  lang := ["en"]

/-- The headers of the component, in the order in which they want to stand. -/
def orderedHeaders : List Value := [.obj [("key", .str "b")], .obj [("key", .str "a")]]

set_option maxRecDepth 4000 in
/-- The wish for the first place is heard, and all wishes are taken off. -/
theorem no_header_has_order_placed :
    ∃ p hs, placingEngine.assemble placedBlock [("id", {})] { lang := some "en" }
        = .ok (.payload p) ∧
      p.headers = some (.arr hs) ∧ hs.length = 1 ∧ (∀ h ∈ hs, h.get? "order" = none) ∧
      p.sections = [("meta", .obj [("headers", .arr orderedHeaders)])] ∧
      ∀ h ∈ orderedHeaders, h.get? "order" = none := by
  have hp : placingEngine.assemble placedBlock [("id", {})] { lang := some "en" }
      = .ok (.payload {
        sections := [("meta", .obj [("headers", .arr orderedHeaders)])]
        headers := some (.arr [.obj [("key", .str "id"), ("title", .str "Id"),
          ("value", .str "id"), ("sortable", .bool false), ("hidden", .bool false),
          ("type", .str "string")]]) }) := by
    with_unfolding_all rfl
  obtain ⟨hbeside, hsections⟩ := no_header_has_order hp
  obtain ⟨hs, hhs, hnone⟩ := hbeside _ rfl
  cases hhs
  exact ⟨_, _, hp, rfl, rfl, hnone, rfl, hsections "meta" _ _ List.mem_cons_self rfl⟩

end Engine

end ViewAssembly
