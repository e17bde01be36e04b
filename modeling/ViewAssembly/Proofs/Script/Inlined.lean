import ViewAssembly.Proofs.Except
import ViewAssembly.Proofs.Script.History
import ViewAssembly.Proofs.Script.References

/-!
# Values whose functions are inlined

Inlining goes through a value until it reaches an object under the name `functions`, and resolves
the entries of that object one by one: an entry that leads nowhere is left out, whatever the others
are. Everything else stays as it is, and nothing is left to be inlined a second time
(`inlined_entrywise`). What stops the whole is a reference to a file whose name is too long to be
looked up, and nothing else.
-/

namespace ViewAssembly

/-! ### Names that are too long -/

namespace Script

lemma bracedBody_ne_nameTooLong (c : Cursor) : bracedBody c ≠ .error .nameTooLong := by
  rw [bracedBody]
  split <;> nofun

lemma candidateBody?_ne_nameTooLong (k : Candidate) :
    candidateBody? k ≠ some (.error .nameTooLong) := by
  intro h
  obtain ⟨c, -, hbody⟩ := Option.bind_eq_some_iff.mp h
  split at hbody
  · exact bracedBody_ne_nameTooLong c (Option.some.inj hbody)
  · split at hbody <;> cases hbody

/-- Whatever is wrong with a function in a script, the script was found. -/
lemma bodyOf_ne_nameTooLong (source name : String) : bodyOf source name ≠ .error .nameTooLong := by
  intro h
  cases hfind : (candidates source name).findSome? candidateBody? with
  | none =>
    rw [bodyOf, hfind] at h
    cases h
  | some body =>
    rw [bodyOf, hfind] at h
    obtain ⟨k, -, hk⟩ := List.exists_of_findSome?_eq_some hfind
    exact candidateBody?_ne_nameTooLong k (hk.trans (congrArg some h))

end Script

/-- What is refused is not found. -/
lemma FunctionSource.body?_of_refuses {source : FunctionSource} {file function : String}
    (h : source.refuses file function = true) : source.body? file function = none := by
  cases source with
  | none => rfl
  | some resolve =>
    rw [refuses, Option.any_some] at h
    rw [body?, Option.bind_some]
    cases hbody : resolve file function with
    | ok body => simp [hbody] at h
    | error e => rfl

/-- In a folder, what is refused is a file that is not there and could not be. -/
lemma FunctionSource.refuses_ofFolder_iff {folder : Folder} {file function : String} :
    (ofFolder folder).refuses file function = true ↔
      folder.textOf? (Script.baseName file) = none ∧
        folder.isTooLong (Script.baseName file) = true := by
  simp only [ofFolder, refuses, Option.any_some, Script.resolve, Script.resolveIn]
  cases htext : folder.textOf? (Script.baseName file) with
  | some text =>
    refine iff_of_false (fun h => ?_) fun h => by cases h.1
    rw [Script.fileText_of_textOf? htext] at h
    cases hbody : Script.bodyOf text function with
    | ok body => simp [hbody, Except.bind, Except.mapError] at h
    | error failure =>
      obtain rfl : failure = .nameTooLong := by simpa [hbody, Except.bind, Except.mapError] using h
      exact Script.bodyOf_ne_nameTooLong text function hbody
  | none =>
    rw [Script.fileText_of_textOf?_eq_none htext]
    by_cases hlong : folder.isTooLong (Script.baseName file) = true <;>
      simp [hlong, Except.bind, Except.mapError]

namespace Value

variable {source : FunctionSource} {v w x : Value} {refs fs : Entries Value} {s : Step}
  {way : List Step} {n : String}

/-! ### Steps in an inlined value -/

lemma isObj_inlineFunctions (source : FunctionSource) (v : Value) :
    (v.inlineFunctions source).isObj = v.isObj := by
  cases v <;> rfl

/-- What is no object of functions does not become one. -/
lemma IsOrdinary.inlineFunctions (h : IsOrdinary n v) :
    IsOrdinary n (v.inlineFunctions source) := by
  rw [isOrdinary_iff, isObj_inlineFunctions]
  exact isOrdinary_iff.mp h

/-- What inlining makes of the part to which a step leads. -/
def inlineBehind (source : FunctionSource) : Step → Value → Value
  | .name n  => inlineUnder source n
  | .place _ => inlineFunctions source

lemma inlineBehind_of_ordinary (h : s = .name "functions" → w.isObj = false) :
    inlineBehind source s w = w.inlineFunctions source := by
  cases s with
  | name n => exact inlineUnder_of_isOrdinary (isOrdinary_iff.mpr h)
  | place i => rfl

lemma step?_inlineFunctions (source : FunctionSource) (v : Value) (s : Step) :
    (v.inlineFunctions source).step? s = (v.step? s).map (inlineBehind source s) := by
  cases s with
  | name n =>
    cases v with
    | obj fs =>
      rw [inlineFunctions, step?_obj_name, inlineFields_eq_mapValues, Entries.get?_mapValues]
      rfl
    | _ => rfl
  | place i =>
    cases v with
    | arr vs =>
      rw [inlineFunctions, step?_arr_place, inlineElems_eq_map, List.getElem?_map]
      rfl
    | _ => rfl

lemma step?_inlineFunctions_of_ordinary (hs : v.step? s = some w)
    (h : s = .name "functions" → w.isObj = false) :
    (v.inlineFunctions source).step? s = some (w.inlineFunctions source) := by
  rw [step?_inlineFunctions, hs, Option.map_some, inlineBehind_of_ordinary h]

lemma step?_inlineFunctions_functions (h : v.step? (.name "functions") = some (obj refs)) :
    (v.inlineFunctions source).step? (.name "functions")
      = some (obj (inlineReferences source refs)) := by
  rw [step?_inlineFunctions, h]
  rfl

/-- A step in an inlined value leads to resolved functions, or to what is inlined itself. -/
lemma step?_inlineFunctions_cases (h : (v.inlineFunctions source).step? s = some x) :
    (∃ refs, s = .name "functions" ∧ v.get? "functions" = some (obj refs) ∧
        x = obj (inlineReferences source refs)) ∨
      ∃ w, v.step? s = some w ∧ (s = .name "functions" → w.isObj = false) ∧
        x = w.inlineFunctions source := by
  cases hs : v.step? s with
  | none =>
    rw [step?_inlineFunctions, hs] at h
    cases h
  | some w =>
    by_cases hfunctions : s = .name "functions" ∧ w.isObj = true
    · obtain ⟨rfl, hobj⟩ := hfunctions
      obtain ⟨refs, rfl⟩ := isObj_iff.mp hobj
      rw [step?_inlineFunctions_functions hs] at h
      exact .inl ⟨refs, rfl, hs, (Option.some.inj h).symm⟩
    · have hordinary : s = .name "functions" → w.isObj = false := by simpa using hfunctions
      rw [step?_inlineFunctions_of_ordinary hs hordinary] at h
      exact .inr ⟨w, rfl, hordinary, (Option.some.inj h).symm⟩

/-! ### Ways in an inlined value -/

lemma outline_inlineFunctions (v : Value) : (v.inlineFunctions source).outline = v.outline := by
  cases v with
  | arr vs => simp [inlineFunctions, outline, inlineElems_eq_map]
  | obj fs => simp [inlineFunctions, outline, keys_inlineFields]
  | _ => rfl

/-- Outside of the objects of functions, each part is inlined in its place. -/
lemma part?_inlineFunctions (h : v.AvoidsFunctions way) :
    (v.inlineFunctions source).part? way = (v.part? way).map (inlineFunctions source) := by
  induction way generalizing v with
  | nil => rfl
  | cons s way ih =>
    cases hs : v.step? s with
    | none =>
      rw [part?, part?, step?_inlineFunctions, hs]
      rfl
    | some w =>
      rw [part?_cons_of_step? hs, ← ih (h.of_step? hs),
        part?_cons_of_step? (step?_inlineFunctions_of_ordinary hs (h.not_isObj hs))]

lemma part?_inlineFunctions_of_leadsToFunctions (h : v.LeadsToFunctions way refs) :
    (v.inlineFunctions source).part? way = some (obj (inlineReferences source refs)) := by
  induction h with
  | here h => exact part?_cons_of_step? (step?_inlineFunctions_functions h) []
  | beyond hs hordinary _ ih =>
    rw [part?_cons_of_step? (step?_inlineFunctions_of_ordinary hs hordinary), ih]

lemma exists_str_of_mem_inlineReferences {e : String × Value}
    (h : e ∈ inlineReferences source refs) : ∃ body, e.2 = str body := by
  obtain ⟨ref, -, hbody⟩ := List.mem_filterMap.mp h
  obtain ⟨body, -, rfl⟩ := Option.map_eq_some_iff.mp hbody
  exact ⟨body, rfl⟩

/-- No way leads through the texts of an object of resolved functions. -/
lemma part?_inlineReferences_ne {out : Entries Value} (hway : way ≠ []) :
    (obj (inlineReferences source refs)).part? way ≠ some (obj out) := by
  intro h
  cases way with
  | nil => exact hway rfl
  | cons s way =>
    obtain ⟨x, hx, hout⟩ := part?_cons_eq_some_iff.mp h
    cases s with
    | name n =>
      obtain ⟨body, rfl⟩ := exists_str_of_mem_inlineReferences (Entries.mem_of_get? hx)
      cases way with
      | nil => cases hout
      | cons s way =>
        rw [part?_str_cons] at hout
        cases hout
    | place i => cases hx

/-- An object of functions in an inlined value stands where one stood before. -/
lemma exists_leadsToFunctions_of_part? {above : List Step} {out : Entries Value}
    (h : (v.inlineFunctions source).part? (above ++ [.name "functions"]) = some (obj out)) :
    ∃ refs, v.LeadsToFunctions (above ++ [.name "functions"]) refs ∧
      out = inlineReferences source refs := by
  -- the last step is the one into the object of functions, so the induction is on those above it
  induction above generalizing v with
  | nil =>
    obtain ⟨x, hx, hout⟩ := part?_cons_eq_some_iff.mp h
    obtain rfl : x = obj out := Option.some.inj hout
    rcases step?_inlineFunctions_cases hx with ⟨refs, -, hget, heq⟩ | ⟨w, hw, hordinary, heq⟩
    · cases heq
      exact ⟨refs, .here hget, rfl⟩
    -- what is inlined there would be an object only if it was one before
    · have hobj := isObj_inlineFunctions source w
      rw [← heq, hordinary rfl] at hobj
      cases hobj
  | cons s above ih =>
    obtain ⟨x, hx, hout⟩ := part?_cons_eq_some_iff.mp h
    rcases step?_inlineFunctions_cases hx with ⟨refs, -, -, rfl⟩ | ⟨w, hw, hordinary, rfl⟩
    -- above it there are no functions, since no way leads on from the text of one
    · have hway : above ++ [Step.name "functions"] ≠ [] :=
        List.append_ne_nil_of_right_ne_nil above (List.cons_ne_nil _ _)
      exact absurd hout (part?_inlineReferences_ne hway)
    · obtain ⟨refs, hleads, heq⟩ := ih hout
      exact ⟨refs, .beyond hw hordinary hleads, heq⟩

/-! ### One object of functions -/

/-- What becomes of the entries of an object of functions, each on its own. -/
structure Resolves (source : FunctionSource) (refs out : Entries Value) : Prop where
  texts : ∀ e ∈ out, e.2.isStr = true
  names : out.keys.Sublist refs.keys
  /-- A function that is written out is taken as it is. -/
  verbatim : ∀ n body, refs.get? n = some (str body) → out.get? n = some (str body)
  /-- A function in a file is there exactly if its body is found. -/
  found : ∀ n ref file function, refs.get? n = some ref → ref.get? "file" = some file →
    ref.get? "function" = some function →
      out.get? n = (source.body? file.text function.text).map str
  /-- What is neither is left out. -/
  dropped : ∀ n ref, refs.get? n = some ref → ref.isStr = false →
    ref.get? "file" = none ∨ ref.get? "function" = none → out.get? n = none

lemma get?_inlineReferences (hrefs : refs.keys.Nodup) (n : String) :
    Entries.get? (inlineReferences source refs) n
      = ((refs.get? n).bind (inlined? source)).map str := by
  induction refs with
  | nil => rfl
  | cons e refs ih =>
    obtain ⟨m, ref⟩ := e
    obtain ⟨hm, hrefs⟩ := List.nodup_cons.mp hrefs
    rw [inlineReferences_cons, Entries.get?_append, ih hrefs, Entries.get?_cons]
    by_cases hmn : m = n
    · -- the name comes only once
      subst hmn
      rw [if_pos rfl, Entries.get?_eq_none_iff.mpr hm, Option.bind_some]
      cases inlined? source ref <;> simp
    · rw [if_neg hmn]
      cases inlined? source ref <;> simp [Entries.get?_cons, hmn]

lemma keys_inlineReferences_sublist (source : FunctionSource) (refs : Entries Value) :
    (inlineReferences source refs).keys.Sublist refs.keys := by
  induction refs with
  | nil => exact .refl _
  | cons e refs ih =>
    obtain ⟨m, ref⟩ := e
    rw [inlineReferences_cons, Entries.keys_append]
    cases inlined? source ref with
    | none => exact ih.cons m
    | some body => exact ih.cons_cons m

lemma inlined?_of_not_isStr {ref : Value} (h : ref.isStr = false) :
    inlined? source ref
      = ref.reference?.bind fun (file, function) => source.body? file function := by
  cases ref with
  | str body => cases h
  | _ => rfl

lemma resolves_inlineReferences (hrefs : refs.keys.Nodup) :
    Resolves source refs (inlineReferences source refs) := by
  refine ⟨?texts, keys_inlineReferences_sublist source refs, ?verbatim, ?found, ?dropped⟩
  case texts =>
    intro e he
    obtain ⟨body, hbody⟩ := exists_str_of_mem_inlineReferences he
    rw [hbody]
    rfl
  case verbatim =>
    intro n body hn
    rw [get?_inlineReferences hrefs, hn]
    rfl
  case found =>
    intro n ref file function hn hfile hfunction
    have hstr : ref.isStr = false := by cases ref <;> first | rfl | cases hfile
    rw [get?_inlineReferences hrefs, hn, Option.bind_some, inlined?_of_not_isStr hstr,
      reference?_eq_some_iff.mpr ⟨file, function, hfile, hfunction, rfl, rfl⟩]
    rfl
  case dropped =>
    intro n ref hn hstr hlacks
    have hnone : ref.reference? = none := by
      refine Option.eq_none_iff_forall_ne_some.mpr fun r hr => ?_
      obtain ⟨f, g, hf, hg, -⟩ := reference?_eq_some_iff.mp hr
      rcases hlacks with h | h
      · cases h.symm.trans hf
      · cases h.symm.trans hg
    rw [get?_inlineReferences hrefs, hn, Option.bind_some, inlined?_of_not_isStr hstr, hnone]
    rfl

/-! ### Nothing is left to inline -/

mutual

theorem isInlined_inlineFunctions (source : FunctionSource) (v : Value) :
    (v.inlineFunctions source).isInlined = true := by
  match v with
  | arr vs => exact isInlinedElems_inlineElems source vs
  | obj fs => exact isInlinedFields_inlineFields source fs
  | null | bool _ | int _ | float _ | str _ | shown _ => rfl

theorem isInlinedElems_inlineElems (source : FunctionSource) (vs : List Value) :
    isInlinedElems (inlineElems source vs) = true := by
  match vs with
  | [] => rfl
  | v :: vs =>
    rw [inlineElems, isInlinedElems, isInlined_inlineFunctions source v,
      isInlinedElems_inlineElems source vs]
    rfl

theorem isInlinedFields_inlineFields (source : FunctionSource) (fs : List (String × Value)) :
    isInlinedFields (inlineFields source fs) = true := by
  match fs with
  | [] => rfl
  | (name, v) :: rest =>
    have hrest := isInlinedFields_inlineFields source rest
    -- only under this name an object stands for functions; anything else is walked through
    rcases isFunctions_or_isOrdinary name v with ⟨refs, rfl, rfl⟩ | hordinary
    · have htexts : (inlineReferences source refs).all (fun ref => ref.2.isStr) = true := by
        rw [List.all_eq_true]
        intro e he
        obtain ⟨body, hbody⟩ := exists_str_of_mem_inlineReferences he
        rw [hbody]
        rfl
      exact Bool.and_eq_true_iff.mpr ⟨htexts, hrest⟩
    · rw [inlineFields_cons hordinary, isInlinedFields_cons hordinary.inlineFunctions,
        isInlined_inlineFunctions source v, hrest]
      rfl

end

mutual

theorem references_eq_nil_of_isInlined {v : Value} (h : v.isInlined = true) :
    v.references = [] := by
  match v with
  | arr vs => exact referencesElems_eq_nil_of_isInlined h
  | obj fs => exact referencesFields_eq_nil_of_isInlined h
  | null | bool _ | int _ | float _ | str _ | shown _ => rfl

theorem referencesElems_eq_nil_of_isInlined {vs : List Value} (h : isInlinedElems vs = true) :
    referencesElems vs = [] := by
  match vs with
  | [] => rfl
  | v :: vs =>
    obtain ⟨hv, hvs⟩ := Bool.and_eq_true_iff.mp h
    rw [referencesElems, references_eq_nil_of_isInlined hv,
      referencesElems_eq_nil_of_isInlined hvs, List.append_nil]

theorem referencesFields_eq_nil_of_isInlined {fs : List (String × Value)}
    (h : isInlinedFields fs = true) : referencesFields fs = [] := by
  match fs with
  | [] => rfl
  | (name, v) :: rest =>
    rw [referencesFields_cons]
    rcases isFunctions_or_isOrdinary name v with ⟨refs, rfl, rfl⟩ | hordinary
    · obtain ⟨htexts, hrest⟩ := Bool.and_eq_true_iff.mp h
      have hnone : refs.filterMap (fun ref => ref.2.reference?) = [] :=
        List.filterMap_eq_nil_iff.mpr fun ref href =>
          reference?_of_isStr (List.all_eq_true.mp htexts ref href)
      rw [referencesFields_eq_nil_of_isInlined hrest, List.append_nil]
      exact hnone
    · rw [isInlinedFields_cons hordinary] at h
      obtain ⟨hv, hrest⟩ := Bool.and_eq_true_iff.mp h
      rw [referencesUnder_of_isOrdinary hordinary, references_eq_nil_of_isInlined hv,
        referencesFields_eq_nil_of_isInlined hrest, List.append_nil]

end

/-- What has been inlined stays as it is, whatever else functions are taken from. -/
lemma inline_inlineFunctions (source source' : FunctionSource) (v : Value) :
    (v.inlineFunctions source).inline source' = .ok (v.inlineFunctions source) := by
  have hinlined := isInlined_inlineFunctions source v
  rw [inline, references_eq_nil_of_isInlined hinlined]
  exact congrArg Except.ok (inlineFunctions_eq_self_iff.mpr hinlined)

/-! ### The whole -/

/-- What a value is after its functions were inlined. -/
structure InlinedFrom (source : FunctionSource) (v r : Value) : Prop where
  /-- Where no way goes through an object of functions, nothing changes. -/
  outside : ∀ way, v.AvoidsFunctions way → (r.part? way).map outline = (v.part? way).map outline
  /-- An object of functions is resolved in its place. -/
  resolved : ∀ way refs, v.LeadsToFunctions way refs →
    ∃ out, r.part? way = some (obj out) ∧ Resolves source refs out
  /-- There are no other objects of functions than these. -/
  origin : ∀ above out, r.part? (above ++ [.name "functions"]) = some (obj out) →
    ∃ refs, v.LeadsToFunctions (above ++ [.name "functions"]) refs ∧ Resolves source refs out
  again : ∀ source' : FunctionSource, r.inline source' = .ok r

lemma inlinedFrom_inlineFunctions (hv : v.WellFormed) (source : FunctionSource) :
    InlinedFrom source v (v.inlineFunctions source) := by
  have hresolves (way : List Step) (refs : Entries Value) (h : v.LeadsToFunctions way refs) :
      Resolves source refs (inlineReferences source refs) :=
    resolves_inlineReferences (hv.of_part? (part?_of_leadsToFunctions h)).nodup_keys
  refine ⟨?outside, ?resolved, ?origin, fun source' => inline_inlineFunctions source source' v⟩
  case outside =>
    intro way h
    rw [part?_inlineFunctions h, Option.map_map]
    exact congrArg (Option.map · _) (funext outline_inlineFunctions)
  case resolved =>
    intro way refs h
    exact ⟨_, part?_inlineFunctions_of_leadsToFunctions h, hresolves way refs h⟩
  case origin =>
    intro above out h
    obtain ⟨refs, hleads, rfl⟩ := exists_leadsToFunctions_of_part? h
    exact ⟨refs, hleads, hresolves _ refs hleads⟩

/--
Functions are inlined one by one, and only they are: each entry comes to what it leads to, or is
left out. The whole fails exactly if the source refuses a function that a reference names.
-/
theorem inlined_entrywise (v : ReadValue) (source : FunctionSource) :
    ((∃ r, v.val.inline source = .ok r) ↔
        ∀ file function, v.val.RefersTo file function → source.refuses file function = false) ∧
      (∀ what, v.val.inline source = .error what →
        ∃ file function, v.val.RefersTo file function ∧ source.refuses file function = true ∧
          what = .fileName file) ∧
      ∀ r, v.val.inline source = .ok r → InlinedFrom source v r := by
  obtain ⟨v, hv⟩ := v
  refine ⟨?succeeds, ?fails, ?inlined⟩
  case succeeds =>
    rw [← isOk_iff, isOk_inline_iff]
    constructor
    · intro h file function href
      exact h _ ((mem_references_iff_refersTo hv).mpr href)
    · rintro h ⟨file, function⟩ href
      exact h file function ((mem_references_iff_refersTo hv).mp href)
  case fails =>
    intro what h
    obtain ⟨file, function, rfl, href, hrefuses⟩ := exists_refuses_of_inline_eq_error h
    exact ⟨file, function, (mem_references_iff_refersTo hv).mp href, hrefuses, rfl⟩
  case inlined =>
    intro r h
    obtain rfl := eq_inlineFunctions_of_inline h
    exact inlinedFrom_inlineFunctions hv source

/-- A list in which functions are written out, looked for, or given as a number. -/
def scripted : Value :=
  arr [obj [("functions", obj [("title", str "one"), ("shape", int 5),
    ("save", obj [("file", str "f.js"), ("function", str "save")]),
    ("lost", obj [("file", str "f.js"), ("function", str "lost")])])]]

def saveOnly : FunctionSource := some fun file function =>
  if function = "save" then .ok "return 1" else .error ⟨file, function, .notFound⟩

theorem inlined_entrywise_scripted :
    scripted.WellFormed ∧ InlinedFrom saveOnly scripted
      (arr [obj [("functions", obj [("title", str "one"), ("save", str "return 1")])]]) := by
  have hwellFormed : scripted.WellFormed := by
    simp [scripted, WellFormed, WellFormedElems, WellFormedFields]
  exact ⟨hwellFormed, (inlined_entrywise ⟨_, hwellFormed⟩ saveOnly).2.2 _ rfl⟩

def savedIn (file : String) : Value :=
  obj [("functions", obj [("title", str "one"),
    ("save", obj [("file", str file), ("function", str "save")])])]

lemma wellFormed_savedIn (file : String) : (savedIn file).WellFormed := by
  simp [savedIn, WellFormed, WellFormedFields]

lemma inline_savedIn {file : String} (h : source.refuses file "save" = true) :
    (savedIn file).inline source = .error (.fileName file) := by
  have hreferences : (savedIn file).references = [(file, "save")] := rfl
  simp only [inline, hreferences, List.find?_cons, h]

/-- What is in a file of too long a name is not found, but that is not all that becomes of it. -/
theorem inline_longName :
    (savedIn ScriptCache.longName).WellFormed ∧
      FunctionSource.body? (.ofFolder (.ofFiles [])) ScriptCache.longName "save" = none ∧
      (savedIn ScriptCache.longName).inline (.ofFolder (.ofFiles []))
        = .error (.fileName ScriptCache.longName) := by
  have hlong : (Folder.ofFiles []).isTooLong (Script.baseName ScriptCache.longName) = true := by
    rw [ScriptCache.baseName_longName, ScriptCache.isTooLong_longName]
  have hrefuses : FunctionSource.refuses (.ofFolder (.ofFiles [])) ScriptCache.longName "save"
      = true := FunctionSource.refuses_ofFolder_iff.mpr ⟨rfl, hlong⟩
  exact ⟨wellFormed_savedIn _, FunctionSource.body?_of_refuses hrefuses, inline_savedIn hrefuses⟩

end Value

end ViewAssembly
