import Mathlib.Data.List.Basic
import ViewAssembly.Proofs.Language.Localize
import ViewAssembly.Proofs.Text.LetterCase

/-!
# What localizing replaces

Localizing a value replaces the objects in it that stand for texts, and nothing else
(`Value.localizes_localize`). Which objects these are depends on the languages that are known and
on the name under which an object stands. Each is replaced by one of its own texts, so that what
is left as it was had none of them (`Value.Localizes.eq_self_iff`).
-/

namespace ViewAssembly.Value

open ViewAssembly.Language Text

variable {lang s : String} {languages known : List String} {name? : Option String}
  {fs : Entries Value} {v w : Value}

/-! ### Objects that stand for texts -/

/-- Does an object have at least one entry, and only texts under language codes? -/
structure IsTextMap (fs : Entries Value) : Prop where
  ne_nil : fs ≠ []
  codes : ∀ e ∈ fs, isCode e.1 = true
  texts : ∀ e ∈ fs, ∃ s, e.2 = str s

/--
Does an object stand for a text, given the known languages and the name that it has in the object
around it, if it is in one?
-/
structure Resolvable (known : List String) (name? : Option String) (fs : Entries Value) : Prop where
  isTextMap : IsTextMap fs
  known_or_named : (∃ e ∈ fs, ∃ l ∈ known, lower l = lower e.1) ∨
    name? = some "label" ∨ name? = some "title"

lemma isPerLanguage_iff : (obj fs).isPerLanguage = true ↔ IsTextMap fs := by
  have htext (w : Value) : w.isStr = true ↔ ∃ s, w = str s := by
    cases w <;> simp [isStr, str?]
  rw [isPerLanguage, Bool.and_eq_true, List.all_eq_true]
  constructor
  · rintro ⟨hne, hall⟩
    refine ⟨by simpa using hne, fun e he => ?_, fun e he => ?_⟩
    · exact (Bool.and_eq_true_iff.mp (hall e he)).1
    · exact (htext e.2).mp (Bool.and_eq_true_iff.mp (hall e he)).2
  · rintro ⟨hne, hcodes, htexts⟩
    refine ⟨by simpa using hne, fun e he => ?_⟩
    rw [hcodes e he, (htext e.2).mpr (htexts e he)]
    rfl

/-- The known languages are compared in small letters, and so are those kept in small letters. -/
lemma map_lower_knownLanguages (lang : String) (languages : List String) :
    (knownLanguages lang languages).map lower = (languages ++ fallbacks ++ [lang]).map lower := by
  have hsmall : lower ∘ lower = lower := funext lower_lower
  simp [knownLanguages, hsmall, lower_lower]

lemma isTextFor_knownLanguages_iff :
    (obj fs).isTextFor (knownLanguages lang languages) = true ↔
      Resolvable (languages ++ fallbacks ++ [lang]) none fs := by
  rw [isTextFor, Bool.and_eq_true, isPerLanguage_iff, map_lower_knownLanguages]
  have hknown : ((obj fs).fields?.getD []).any (fun e =>
        ((languages ++ fallbacks ++ [lang]).map lower).contains (lower e.1)) = true ↔
      ∃ e ∈ fs, ∃ l ∈ languages ++ fallbacks ++ [lang], lower l = lower e.1 := by
    simp only [List.any_eq_true, List.contains_iff_mem, List.mem_map]
    rfl
  rw [hknown]
  constructor
  · rintro ⟨htexts, h⟩
    exact ⟨htexts, .inl h⟩
  · rintro ⟨htexts, h | h | h⟩
    · exact ⟨htexts, h⟩
    · cases h
    · cases h

/-! ### What an object says -/

/--
Is a text one of those of an object, and the one that stands under exactly the code of a language
if there is one?
-/
def Says (lang : String) (fs : Entries Value) (s : String) : Prop :=
  str s ∈ fs.values ∧ ∀ v, fs.get? lang = some v → v = str s

lemma IsTextMap.exists_of_get? (h : IsTextMap fs) {code : String} (hv : fs.get? code = some v) :
    ∃ s, v = str s := h.texts _ (Entries.mem_of_get? hv)

lemma says_textIn (h : IsTextMap fs) (lang : String) : Says lang fs (textIn fs lang) := by
  have hexact (w) (hw : fs.get? lang = some w) :
      (lookupCodes lang).findSome? (fun code => (fs.get? code).filter (!·.isNull)) = some w := by
    obtain ⟨s, rfl⟩ := h.exists_of_get? hw
    rw [lookupCodes, List.findSome?_cons, hw]
    rfl
  rw [textIn]
  cases hfound : (lookupCodes lang).findSome? fun code => (fs.get? code).filter (!·.isNull) with
  | some v =>
    obtain ⟨code, -, hcode⟩ := List.exists_of_findSome?_eq_some hfound
    have hv := (Option.filter_eq_some_iff.mp hcode).1
    obtain ⟨s, rfl⟩ := h.exists_of_get? hv
    refine ⟨List.mem_map_of_mem (Entries.mem_of_get? hv), fun w hw => ?_⟩
    exact (Option.some.inj (hfound.symm.trans (hexact w hw))).symm
  | none =>
    -- nothing stands under any of the codes, so that the first text is taken
    refine ⟨?_, fun w hw => ?_⟩
    · cases fs with
      | nil => exact absurd rfl h.ne_nil
      | cons e es =>
        obtain ⟨s, hs⟩ := h.texts e List.mem_cons_self
        have hvalues : Entries.values (e :: es) = str s :: Entries.values es := by
          rw [← hs]
          rfl
        rw [hvalues, List.find?_cons_of_pos rfl]
        exact List.mem_cons_self
    · cases hfound.symm.trans (hexact w hw)

/-! ### Localizing a value -/

/--
Is the second value what becomes of the first one when it is localized for a language, under its
name if it has one? An object that stands for a text is replaced by what it says. Any other object
keeps its names in their order, and a list keeps its length.
-/
inductive Localizes (lang : String) (known : List String) : Option String → Value → Value → Prop
  | text {name? : Option String} {fs : Entries Value} {s : String}
      (htext : Resolvable known name? fs) (hsaid : Says lang fs s) :
      Localizes lang known name? (obj fs) (str s)
  | obj {name? : Option String} {fs gs : Entries Value}
      (hplain : ¬ Resolvable known name? fs) (hkeys : gs.keys = fs.keys)
      (hentries : ∀ (i : ℕ) (e e' : String × Value), fs[i]? = some e → gs[i]? = some e' →
        Localizes lang known (some e.1) e.2 e'.2) :
      Localizes lang known name? (obj fs) (obj gs)
  | arr {name? : Option String} {vs ws : List Value} (hlength : ws.length = vs.length)
      (helems : ∀ (i : ℕ) (v w : Value), vs[i]? = some v → ws[i]? = some w →
        Localizes lang known none v w) :
      Localizes lang known name? (arr vs) (arr ws)
  | scalar {name? : Option String} {v : Value} (hobj : v.fields? = none) (harr : v.elems? = none) :
      Localizes lang known name? v v

/-- What becomes of a value under its name, if it has one. -/
def localizeUnder (lang : String) (known : List String) (name? : Option String) (v : Value) :
    Value :=
  if name?.any isTextName && v.isPerLanguage then str (v.resolve lang)
  else v.localizeWith lang known

/-- What is no object from language codes to texts is localized alike under every name. -/
lemma localizeUnder_of_isPerLanguage (h : v.isPerLanguage = false) :
    v.localizeUnder lang known name? = v.localizeWith lang known := by
  rw [localizeUnder, h, Bool.and_false]
  rfl

lemma localizeFields_eq_map (fs : Entries Value) :
    localizeFields lang known fs =
      fs.map fun e => (e.1, e.2.localizeUnder lang known (some e.1)) := by
  induction fs with
  | nil => rfl
  | cons e fs ih => rw [localizeFields, ih, List.map_cons]; rfl

lemma any_isTextName_iff :
    name?.any isTextName = true ↔ name? = some "label" ∨ name? = some "title" := by
  cases name? with
  | none => simp
  | some name => simp [isTextName]

/-- An object that stands for a text becomes what it says. -/
lemma localizeUnder_of_resolvable (h : Resolvable (languages ++ fallbacks ++ [lang]) name? fs) :
    (obj fs).localizeUnder lang (knownLanguages lang languages) name? = str (textIn fs lang) := by
  rw [localizeUnder]
  split_ifs with hnamed
  · rfl
  · rw [localizeWith, if_pos]
    refine isTextFor_knownLanguages_iff.mpr ⟨h.isTextMap, .inl ?_⟩
    refine h.known_or_named.resolve_right fun hname => hnamed ?_
    rw [any_isTextName_iff.mpr hname, isPerLanguage_iff.mpr h.isTextMap]
    rfl

/-- An object that stands for no text is localized entry by entry. -/
lemma localizeUnder_of_not_resolvable
    (h : ¬ Resolvable (languages ++ fallbacks ++ [lang]) name? fs) :
    (obj fs).localizeUnder lang (knownLanguages lang languages) name?
      = obj (localizeFields lang (knownLanguages lang languages) fs) := by
  rw [localizeUnder, if_neg, localizeWith, if_neg]
  · intro htext
    have hknown := isTextFor_knownLanguages_iff.mp htext
    refine h ⟨hknown.isTextMap, .inl (hknown.known_or_named.resolve_right ?_)⟩
    rintro (hname | hname)
    · cases hname
    · cases hname
  · intro hnamed
    obtain ⟨hname, htext⟩ := Bool.and_eq_true_iff.mp hnamed
    exact h ⟨isPerLanguage_iff.mp htext, .inr (any_isTextName_iff.mp hname)⟩

mutual

theorem localizes_localizeUnder (lang : String) (languages : List String) (name? : Option String)
    (v : Value) :
    Localizes lang (languages ++ fallbacks ++ [lang]) name? v
      (v.localizeUnder lang (knownLanguages lang languages) name?) := by
  match v with
  | obj fs =>
    by_cases htext : Resolvable (languages ++ fallbacks ++ [lang]) name? fs
    · rw [localizeUnder_of_resolvable htext]
      exact .text htext (says_textIn htext.isTextMap lang)
    · rw [localizeUnder_of_not_resolvable htext]
      refine .obj htext (keys_localizeFields _ _ fs) fun i e e' he he' => ?_
      rw [localizeFields_eq_map, List.getElem?_map, he] at he'
      cases he'
      exact localizes_entries lang languages fs e (List.mem_of_getElem? he)
  | arr vs =>
    rw [localizeUnder_of_isPerLanguage rfl, localizeWith, localizeElems_eq_map]
    refine .arr (List.length_map _) fun i v w hv hw => ?_
    rw [List.getElem?_map, hv] at hw
    cases hw
    exact localizes_elems lang languages vs v (List.mem_of_getElem? hv)
  | null | bool _ | int _ | float _ | str _ | shown _ =>
    rw [localizeUnder_of_isPerLanguage rfl]
    exact .scalar rfl rfl

theorem localizes_elems (lang : String) (languages : List String) (vs : List Value) :
    ∀ v ∈ vs, Localizes lang (languages ++ fallbacks ++ [lang]) none v
      (v.localizeWith lang (knownLanguages lang languages)) := by
  match vs with
  | [] => exact List.forall_mem_nil _
  | v :: vs =>
    exact List.forall_mem_cons.mpr
      ⟨localizes_localizeUnder lang languages none v, localizes_elems lang languages vs⟩

theorem localizes_entries (lang : String) (languages : List String)
    (fs : List (String × Value)) :
    ∀ e ∈ fs, Localizes lang (languages ++ fallbacks ++ [lang]) (some e.1) e.2
      (e.2.localizeUnder lang (knownLanguages lang languages) (some e.1)) := by
  match fs with
  | [] => exact List.forall_mem_nil _
  | (k, v) :: fs =>
    exact List.forall_mem_cons.mpr
      ⟨localizes_localizeUnder lang languages (some k) v, localizes_entries lang languages fs⟩

end

/-! ### What is left as it was -/

/-- Is there an object in a value that stands for a text? -/
inductive HoldsText (known : List String) : Option String → Value → Prop
  | here {name? : Option String} {fs : Entries Value} (htext : Resolvable known name? fs) :
      HoldsText known name? (obj fs)
  | entry {name? : Option String} {fs : Entries Value} {e : String × Value} (he : e ∈ fs)
      (hholds : HoldsText known (some e.1) e.2) : HoldsText known name? (obj fs)
  | elem {name? : Option String} {vs : List Value} {v : Value} (hv : v ∈ vs)
      (hholds : HoldsText known none v) : HoldsText known name? (arr vs)

lemma eq_of_getElem? {α : Type} {xs ys : List α} (hlength : ys.length = xs.length)
    (h : ∀ (i : ℕ) (x y : α), xs[i]? = some x → ys[i]? = some y → y = x) : ys = xs := by
  refine List.ext_getElem hlength fun i hy hx => ?_
  exact h i _ _ (List.getElem?_eq_getElem hx) (List.getElem?_eq_getElem hy)

/-- A value is left as it was exactly if there is no object in it that stands for a text. -/
theorem Localizes.eq_self_iff (h : Localizes lang known name? v w) :
    w = v ↔ ¬ HoldsText known name? v := by
  induction h with
  | text htext hsaid => exact iff_of_false nofun fun hnone => hnone (.here htext)
  | @obj name? fs gs hplain hkeys hentries ih =>
    constructor
    · intro heq hholds
      cases heq
      cases hholds with
      | here htext => exact hplain htext
      | @entry _ _ e he hholds =>
        obtain ⟨i, hi⟩ := List.mem_iff_getElem?.mp he
        exact (ih i e e hi hi).mp rfl hholds
    · intro hnone
      have hlength : gs.length = fs.length := by
        simpa [Entries.keys] using congrArg List.length hkeys
      -- the names are the same and in the same order, so only the values are left to compare
      refine congrArg Value.obj (eq_of_getElem? hlength fun i e e' he he' => ?_)
      have hname : e'.1 = e.1 := by
        have hkey := congrArg (·[i]?) hkeys
        simpa [Entries.keys, he, he'] using hkey
      have hvalue := (ih i e e' he he').mpr fun hholds =>
        hnone (.entry (List.mem_of_getElem? he) hholds)
      exact Prod.ext hname hvalue
  | @arr name? vs ws hlength helems ih =>
    constructor
    · intro heq hholds
      cases heq
      cases hholds with
      | @elem _ _ v hv hholds =>
        obtain ⟨i, hi⟩ := List.mem_iff_getElem?.mp hv
        exact (ih i v v hi hi).mp rfl hholds
    · intro hnone
      refine congrArg Value.arr (eq_of_getElem? hlength fun i v w hv hw => ?_)
      exact (ih i v w hv hw).mpr fun hholds => hnone (.elem (List.mem_of_getElem? hv) hholds)
  | scalar hobj harr =>
    refine iff_of_true rfl fun hholds => ?_
    cases hholds with
    | here => cases hobj
    | entry => cases hobj
    | elem => cases harr

/--
Localizing a value for a language replaces the objects in it that stand for texts, given the
languages that it is told, those that every text is expected to have, and the one in use. It leaves
the value as it was exactly if there are none.
-/
theorem localizes_localize (languages : List String) (lang : String) (v : Value) :
    Localizes lang (languages ++ fallbacks ++ [lang]) none v (v.localize lang languages) ∧
      (v.localize lang languages = v ↔
        ¬ HoldsText (languages ++ fallbacks ++ [lang]) none v) := by
  have hlocalizes := localizes_localizeUnder lang languages none v
  exact ⟨hlocalizes, hlocalizes.eq_self_iff⟩

/-- In a language that nobody knows, an object stands for a text under some names only. -/
example : (obj [("title", obj [("xx", str "A")]), ("name", obj [("xx", str "B")])]).localize "en" []
    = obj [("title", str "A"), ("name", obj [("xx", str "B")])] := rfl

end ViewAssembly.Value
