import Mathlib.Data.List.Induction
import ViewAssembly.Proofs.Section.Datalink

/-!
# The relations that a data link names

A data link names the fields of each relation once more, behind its columns: `with=a:x,y,b:z` asks
for `a.x`, `a.y` and `b.z`. Read back, these are the listed columns that name a field of a relation
(`Context.datalink_names_relations`).
-/

namespace ViewAssembly

/-! ### Tokens that name a field of a relation -/

namespace Token

variable {token relation field : String} {tokens : List String}

/-- The relation and the field that a token names, if it names a field behind its first point. -/
def relatedField? (token : String) : Option (String × String) :=
  (relation? token).filter (·.2 ≠ "")

/-- The relations that tokens name a field of, each as often as they do. -/
def relationsOf (tokens : List String) : List String :=
  (tokens.filterMap relatedField?).map Prod.fst

/-- The fields of a relation that tokens name, in their order. -/
def fieldsOf (relation : String) (tokens : List String) : List String :=
  ((tokens.filterMap relatedField?).filter (·.1 = relation)).map Prod.snd

lemma relatedField?_eq_some_iff :
    relatedField? token = some (relation, field) ↔
      (token = relation ++ "." ++ field ∧ '.' ∉ relation.toList) ∧ field ≠ "" := by
  have hseparator : ".".toList = ['.'] := rfl
  rw [relatedField?, Option.filter_eq_some_iff, relation?,
    Text.splitFirst?_eq_some_iff hseparator, decide_eq_true_iff]

lemma mem_fieldsOf_iff :
    field ∈ fieldsOf relation tokens ↔ ∃ t ∈ tokens, relatedField? t = some (relation, field) := by
  simp [fieldsOf]

lemma mem_relationsOf_iff :
    relation ∈ relationsOf tokens ↔ ∃ field, field ∈ fieldsOf relation tokens := by
  simp only [mem_fieldsOf_iff]
  simp only [relationsOf, List.mem_map, List.mem_filterMap, Prod.exists, exists_and_right,
    exists_eq_right]

lemma relationsOf_append_of_none (h : relatedField? token = none) (tokens : List String) :
    relationsOf (tokens ++ [token]) = relationsOf tokens := by
  simp [relationsOf, h]

lemma fieldsOf_append_of_none (h : relatedField? token = none) (relation : String)
    (tokens : List String) : fieldsOf relation (tokens ++ [token]) = fieldsOf relation tokens := by
  simp [fieldsOf, h]

lemma relationsOf_append_of_some (h : relatedField? token = some (relation, field))
    (tokens : List String) :
    relationsOf (tokens ++ [token]) = relationsOf tokens ++ [relation] := by
  simp [relationsOf, h]

lemma fieldsOf_append_of_some {r : String} (h : relatedField? token = some (r, field))
    (relation : String) (tokens : List String) :
    fieldsOf relation (tokens ++ [token])
      = if r = relation then fieldsOf relation tokens ++ [field]
        else fieldsOf relation tokens := by
  by_cases hr : r = relation <;> simp [fieldsOf, h, hr]

/-- The fields of a relation, with the relation before them, are the tokens that name them. -/
lemma map_fieldsOf (relation : String) (tokens : List String) :
    (fieldsOf relation tokens).map (relation ++ "." ++ ·)
      = tokens.filter fun t => (relatedField? t).any (·.1 = relation) := by
  induction tokens using List.reverseRecOn with
  | nil => rfl
  | append_singleton tokens t ih =>
    rw [List.filter_append, ← ih]
    cases hfield : relatedField? t with
    | none => simp [fieldsOf_append_of_none hfield, hfield]
    | some named =>
      obtain ⟨r, f⟩ := named
      rw [fieldsOf_append_of_some hfield]
      by_cases hr : r = relation
      · subst hr
        have ht : t = r ++ "." ++ f := (relatedField?_eq_some_iff.mp hfield).1.1
        simp [hfield, ← ht]
      · simp [hfield, hr]

end Token

/-! ### Noting relations -/

namespace Context

open Token

variable {rs : Entries (List String)} {tokens : List String} {token relation field : String}

/-- Are these the relations that tokens name, in their order, each with its distinct fields? -/
structure Notes (rs : Entries (List String)) (tokens : List String) : Prop where
  keys : rs.keys = (relationsOf tokens).eraseDups
  fields : ∀ relation, (rs.get? relation).getD [] = (fieldsOf relation tokens).eraseDups

lemma noteRelation_of_none (h : relatedField? token = none) : noteRelation rs token = rs := by
  rw [relatedField?, Option.filter_eq_none_iff] at h
  rw [noteRelation]
  split
  · next r f hrelation =>
    have hf : f = "" := by simpa using h (r, f) hrelation
    simp [hf]
  · rfl

lemma noteRelation_of_some (h : relatedField? token = some (relation, field)) :
    noteRelation rs token =
      if field ∈ (rs.get? relation).getD [] then rs
      else rs.put relation ((rs.get? relation).getD [] ++ [field]) := by
  rw [relatedField?, Option.filter_eq_some_iff] at h
  obtain ⟨hrelation, hfield⟩ := h
  have hfield : field ≠ "" := by simpa using hfield
  rw [noteRelation, hrelation]
  simp [hfield]

/-- Noting one more token. -/
lemma Notes.noteRelation (h : Notes rs tokens) (token : String) :
    Notes (noteRelation rs token) (tokens ++ [token]) := by
  cases hfield : relatedField? token with
  | none =>
    rw [noteRelation_of_none hfield]
    exact ⟨by rw [relationsOf_append_of_none hfield, h.keys],
      fun r => by rw [fieldsOf_append_of_none hfield, h.fields]⟩
  | some named =>
    obtain ⟨r, f⟩ := named
    rw [noteRelation_of_some hfield, h.fields]
    -- a field that is noted stands with its relation, and any other one is put behind its fields
    by_cases hnoted : f ∈ fieldsOf r tokens
    · rw [if_pos (List.mem_eraseDups.mpr hnoted)]
      refine ⟨?_, fun s => ?_⟩
      · rw [relationsOf_append_of_some hfield, eraseDups_append_singleton,
          if_pos (mem_relationsOf_iff.mpr ⟨f, hnoted⟩), h.keys]
      · rw [fieldsOf_append_of_some hfield, h.fields]
        split
        · next hs => rw [eraseDups_append_singleton, if_pos (hs ▸ hnoted)]
        · rfl
    · rw [if_neg (mt List.mem_eraseDups.mp hnoted)]
      refine ⟨?_, fun s => ?_⟩
      · rw [Entries.keys_put, h.keys, relationsOf_append_of_some hfield,
          eraseDups_append_singleton]
        simp only [List.mem_eraseDups]
      · rw [Entries.get?_put, fieldsOf_append_of_some hfield]
        split
        · next hs => rw [Option.getD_some, eraseDups_append_singleton, if_neg (hs ▸ hnoted), hs]
        · exact h.fields s

theorem notes_relations (tokens : List String) : Notes (relations tokens) tokens := by
  -- relations are noted token by token, so it is the last token that is taken off
  induction tokens using List.reverseRecOn with
  | nil => exact ⟨rfl, fun _ => rfl⟩
  | append_singleton tokens token ih =>
    rw [relations, List.foldl_append]
    exact ih.noteRelation token

/-- A relation that is noted comes with the fields that are named of it. -/
lemma snd_eq_of_mem_relations {e : String × List String} (he : e ∈ relations tokens) :
    e.2 = (fieldsOf e.1 tokens).eraseDups := by
  have hkeys : (relations tokens).keys.Nodup := by
    rw [(notes_relations tokens).keys]
    exact nodup_eraseDups _
  rw [← (notes_relations tokens).fields, Entries.get?_of_mem hkeys he, Option.getD_some]

def relatedColumns (rs : Entries (List String)) : List String :=
  rs.flatMap fun e => e.2.map (e.1 ++ "." ++ ·)

/--
Do relations, each with its fields, ask for the tokens that name a field of a relation? Each
relation is there once, in the order of the tokens, and so is each of the tokens; those of one
relation are in their order.
-/
structure AsksFor (rs : Entries (List String)) (tokens : List String) : Prop where
  keys : rs.keys = (relationsOf tokens).eraseDups
  nodup : (relatedColumns rs).Nodup
  mem_iff : ∀ t, t ∈ relatedColumns rs ↔ t ∈ tokens ∧ (relatedField? t).isSome
  sublist : ∀ e ∈ rs, (e.2.map (e.1 ++ "." ++ ·)).Sublist tokens

section AsksFor

variable (h : (tokens.filter fun t => (relatedField? t).isSome).Nodup)

include h

lemma nodup_filter_relatedField? (relation : String) :
    (tokens.filter fun t => (relatedField? t).any (·.1 = relation)).Nodup := by
  have hboth := h.filter fun t => (relatedField? t).any (·.1 = relation)
  rw [List.filter_filter] at hboth
  convert hboth using 3 with t
  cases relatedField? t <;> simp

lemma eq_fieldsOf_of_mem_relations {e : String × List String} (he : e ∈ relations tokens) :
    e.2 = fieldsOf e.1 tokens := by
  have hnodup : (fieldsOf e.1 tokens).Nodup := by
    refine List.Nodup.of_map (e.1 ++ "." ++ ·) ?_
    rw [map_fieldsOf]
    exact nodup_filter_relatedField? h e.1
  rw [snd_eq_of_mem_relations he, eraseDups_eq_self hnodup]

lemma relatedColumns_relations :
    relatedColumns (relations tokens)
      = (relationsOf tokens).eraseDups.flatMap fun r =>
          tokens.filter fun t => (relatedField? t).any (·.1 = r) := by
  rw [← (notes_relations tokens).keys, Entries.keys, List.flatMap_map]
  refine List.flatMap_congr fun e he => ?_
  rw [eq_fieldsOf_of_mem_relations h he, map_fieldsOf]

theorem asksFor_relations : AsksFor (relations tokens) tokens where
  keys := (notes_relations tokens).keys
  nodup := by
    rw [relatedColumns_relations h]
    refine List.nodup_flatMap.mpr ⟨fun r _ => nodup_filter_relatedField? h r, ?_⟩
    -- a token names one relation only, so it cannot stand under two of them
    refine (nodup_eraseDups _).imp fun {r s} hrs t hr hs => hrs ?_
    obtain ⟨-, hr⟩ := List.mem_filter.mp hr
    obtain ⟨-, hs⟩ := List.mem_filter.mp hs
    cases hfield : relatedField? t with
    | none => simp [hfield] at hr
    | some named =>
      simp only [hfield, Option.any_some, decide_eq_true_eq] at hr hs
      exact hr.symm.trans hs
  mem_iff t := by
    simp only [relatedColumns_relations h, List.mem_flatMap, List.mem_eraseDups, List.mem_filter]
    constructor
    · rintro ⟨r, -, ht, hr⟩
      exact ⟨ht, by cases hfield : relatedField? t <;> simp_all⟩
    · rintro ⟨ht, hsome⟩
      obtain ⟨⟨r, f⟩, hfield⟩ := Option.isSome_iff_exists.mp hsome
      have hr : r ∈ relationsOf tokens :=
        mem_relationsOf_iff.mpr ⟨f, mem_fieldsOf_iff.mpr ⟨t, ht, hfield⟩⟩
      exact ⟨r, hr, ht, by simp [hfield]⟩
  sublist e he := by
    rw [eq_fieldsOf_of_mem_relations h he, map_fieldsOf]
    exact List.filter_sublist

end AsksFor

end Context

/-! ### Reading relations back -/

namespace Text

variable {rs : Entries (List String)} {fields more : List String} {relation field : String}

/--
The relations that pieces of a list name, each with its fields, and the fields before the first of
them. A piece with a colon names a relation and its first field, and any other piece names one more
field of the relation before it.
-/
def readPieces : List String → List String × Entries (List String)
  | []            => ([], [])
  | piece :: more =>
    match splitFirst? ':' piece with
    | some (relation, field) => ([], (relation, field :: (readPieces more).1) :: (readPieces more).2)
    | none                   => (piece :: (readPieces more).1, (readPieces more).2)

/-- The relations that a comma list names, each with its fields, if it begins with a relation. -/
def readRelations? (s : String) : Option (Entries (List String)) :=
  match readPieces (pieces ',' s) with
  | ([], rs) => some rs
  | _        => none

/-- Relations as a comma list, each before its fields and with a colon behind it. -/
def relationList (rs : Entries (List String)) : String :=
  ",".intercalate (rs.map fun e => e.1 ++ ":" ++ ",".intercalate e.2)

lemma readPieces_append (h : ∀ f ∈ fields, ':' ∉ f.toList) :
    readPieces (fields ++ more) = (fields ++ (readPieces more).1, (readPieces more).2) := by
  induction fields with
  | nil => rfl
  | cons f fields ih =>
    obtain ⟨hf, hfields⟩ := List.forall_mem_cons.mp h
    rw [List.cons_append, readPieces, splitFirst?_eq_none hf, ih hfields]
    rfl

/-- Can a relation with its fields be read back from a comma list? -/
structure Listable (e : String × List String) : Prop where
  fields_ne_nil : e.2 ≠ []
  colon : ':' ∉ e.1.toList ∧ ∀ f ∈ e.2, ':' ∉ f.toList
  comma : ',' ∉ e.1.toList ∧ ∀ f ∈ e.2, ',' ∉ f.toList

lemma pieces_relation (hrelation : ',' ∉ relation.toList) (hfield : ',' ∉ field.toList)
    (hfields : ∀ f ∈ fields, ',' ∉ f.toList) :
    pieces ',' (relation ++ ":" ++ ",".intercalate (field :: fields))
      = (relation ++ ":" ++ field) :: fields := by
  have hfirst : ',' ∉ (relation ++ ":" ++ field).toList :=
    not_mem_append_append_iff.mpr ⟨hrelation, by decide, hfield⟩
  rw [← String.intercalate_cons_append]
  exact pieces_intercalate rfl (List.forall_mem_cons.mpr ⟨hfirst, hfields⟩) (by simp)

/-- The pieces of listed relations are read as the relations. -/
lemma readPieces_flatMap (h : ∀ e ∈ rs, Listable e) :
    readPieces (rs.flatMap fun e => pieces ',' (e.1 ++ ":" ++ ",".intercalate e.2)) = ([], rs) := by
  induction rs with
  | nil => rfl
  | cons e rs ih =>
    obtain ⟨he, hrs⟩ := List.forall_mem_cons.mp h
    obtain ⟨r, fs⟩ := e
    cases fs with
    | nil => exact absurd rfl he.fields_ne_nil
    | cons f fs =>
      obtain ⟨-, hcolons⟩ := List.forall_mem_cons.mp he.colon.2
      obtain ⟨hcomma, hcommas⟩ := List.forall_mem_cons.mp he.comma.2
      rw [List.flatMap_cons, pieces_relation he.comma.1 hcomma hcommas, List.cons_append,
        readPieces, splitFirst?_append rfl he.colon.1, readPieces_append hcolons, ih hrs,
        List.append_nil]

/-- Relations that are written as a comma list can be read back. -/
theorem readRelations?_relationList (hrs : rs ≠ []) (h : ∀ e ∈ rs, Listable e) :
    readRelations? (relationList rs) = some rs := by
  -- no comma stands in a name, so cutting the joined parts is cutting each of them
  have hpieces : pieces ',' (relationList rs)
      = rs.flatMap fun e => pieces ',' (e.1 ++ ":" ++ ",".intercalate e.2) := by
    rw [relationList, pieces_intercalate_eq_flatMap rfl (by simpa using hrs), List.flatMap_map]
  rw [readRelations?, hpieces, readPieces_flatMap h]

/-! ### Reading a query back -/

/-- A query is read as the parameters from which it is put together. -/
lemma parameters_intercalate {ps : Entries String} (hps : ps ≠ [])
    (h : ∀ p ∈ ps, '=' ∉ p.1.toList ∧ '&' ∉ p.1.toList ∧ '&' ∉ p.2.toList) :
    parameters ("&".intercalate (ps.map fun p => p.1 ++ "=" ++ p.2)) = ps := by
  have hparts : ∀ part ∈ ps.map fun p => p.1 ++ "=" ++ p.2, '&' ∉ part.toList := by
    rw [List.forall_mem_map]
    exact fun p hp => not_mem_append_append_iff.mpr ⟨(h p hp).2.1, by decide, (h p hp).2.2⟩
  rw [parameters, pieces_intercalate rfl hparts (by simpa using hps), List.filterMap_map]
  conv_rhs => rw [← List.filterMap_some (l := ps)]
  refine List.filterMap_congr fun p hp => ?_
  exact splitFirst?_append rfl (h p hp).1 p.2

lemma not_mem_toString_int (n : Int) : '&' ∉ (toString n).toList := by
  have hnat (m : Nat) : '&' ∉ m.repr.toList := by
    rw [Nat.repr_eq_ofList_toDigits, String.toList_ofList]
    intro h
    exact absurd (Nat.isDigit_of_mem_toDigits (by decide) (le_refl 10) h) (by decide)
  cases n with
  | ofNat m => exact hnat m
  | negSucc m =>
    change '&' ∉ ("-" ++ (m + 1).repr).toList
    rw [String.toList_append, List.mem_append]
    exact not_or.mpr ⟨by decide, hnat (m + 1)⟩

end Text

/-! ### The query of a data link -/

namespace Context

open Text Token

variable {ctx : Context} {rs : Entries (List String)} {tokens : List String}

def withParameter (rs : Entries (List String)) : Entries String :=
  if rs = [] then [] else [("with", relationList rs)]

def linkParameters (ctx : Context) : Entries String :=
  ("columns", ",".intercalate ctx.linkedTokens) ::
    (withParameter (relations ctx.linkedTokens) ++ [("per_page", toString ctx.perPage)])

lemma datalink_eq (ctx : Context) :
    ctx.datalink = ctx.dataAddress ctx.model ++ "?" ++
      "&".intercalate (ctx.linkParameters.map fun p => p.1 ++ "=" ++ p.2) := by
  have hcolumns : "?columns=" = "?" ++ ("columns" ++ "=") := rfl
  have hsize : "&per_page=" = "&" ++ ("per_page" ++ "=") := rfl
  rw [datalink, linkParameters, withParameter, hcolumns, hsize]
  cases relations ctx.linkedTokens with
  | nil =>
    simp only [withClause, if_true, List.nil_append, List.map_cons, List.map_nil,
      String.intercalate_cons_cons, String.intercalate_singleton, String.append_assoc,
      String.empty_append, -String.reduceAppend]
  | cons r rs =>
    have hwith : withClause (r :: rs) = "&" ++ ("with" ++ "=" ++ relationList (r :: rs)) := by
      rw [← String.append_assoc]
      rfl
    simp only [hwith, reduceCtorEq, if_false, List.cons_append, List.nil_append, List.map_cons,
      List.map_nil, String.intercalate_cons_cons, String.intercalate_singleton,
      String.append_assoc, -String.reduceAppend]

section Noted

variable {e : String × List String} (he : e ∈ relations tokens)

include he

lemma mem_snd_iff_of_mem_relations {field : String} :
    field ∈ e.2 ↔ field ∈ fieldsOf e.1 tokens := by
  rw [snd_eq_of_mem_relations he, List.mem_eraseDups]

lemma exists_mem_snd_of_mem_relations : ∃ field, field ∈ e.2 := by
  have hname : e.1 ∈ relationsOf tokens := by
    rw [← List.mem_eraseDups, ← (notes_relations tokens).keys]
    exact List.mem_map_of_mem he
  obtain ⟨f, hf⟩ := mem_relationsOf_iff.mp hname
  exact ⟨f, (mem_snd_iff_of_mem_relations he).mpr hf⟩

/-- A character that is in no token is in none of the names noted from them. -/
lemma not_mem_of_mem_relations {c : Char} (h : ∀ t ∈ tokens, c ∉ t.toList) :
    c ∉ e.1.toList ∧ ∀ f ∈ e.2, c ∉ f.toList := by
  have hboth : ∀ f ∈ e.2, c ∉ e.1.toList ∧ c ∉ f.toList := fun f hf => by
    obtain ⟨t, ht, hfield⟩ := mem_fieldsOf_iff.mp ((mem_snd_iff_of_mem_relations he).mp hf)
    have htoken := h t ht
    rw [(relatedField?_eq_some_iff.mp hfield).1.1, not_mem_append_append_iff] at htoken
    exact ⟨htoken.1, htoken.2.2⟩
  obtain ⟨f, hf⟩ := exists_mem_snd_of_mem_relations he
  exact ⟨(hboth f hf).1, fun f hf => (hboth f hf).2⟩

lemma listable_of_mem_relations (hcolon : ∀ t ∈ tokens, ':' ∉ t.toList)
    (hcomma : ∀ t ∈ tokens, ',' ∉ t.toList) : Listable e where
  fields_ne_nil := by
    obtain ⟨f, hf⟩ := exists_mem_snd_of_mem_relations he
    exact List.ne_nil_of_mem hf
  colon := not_mem_of_mem_relations he hcolon
  comma := not_mem_of_mem_relations he hcomma

end Noted

lemma not_mem_relationList_relations {c : Char} (hcomma : c ≠ ',') (hcolon : c ≠ ':')
    (h : ∀ t ∈ tokens, c ∉ t.toList) : c ∉ (relationList (relations tokens)).toList := by
  refine not_mem_intercalate (by simpa using hcomma) fun part hpart => ?_
  obtain ⟨e, he, rfl⟩ := List.mem_map.mp hpart
  obtain ⟨hname, hfields⟩ := not_mem_of_mem_relations he h
  exact not_mem_append_append_iff.mpr
    ⟨hname, by simpa using hcolon, not_mem_intercalate (by simpa using hcomma) hfields⟩

/-- Of the tokens that a data link lists, none that names a field of a relation is there twice. -/
lemma nodup_related_linkedTokens (ctx : Context) :
    (ctx.linkedTokens.filter fun t => (relatedField? t).isSome).Nodup := by
  have hcolumns : (ctx.columns.filter fun t => (relatedField? t).isSome).Nodup := by
    unfold columns columnsToShow
    split
    · exact (nodup_ofValues _).filter _
    · exact (nodup_ofValues _).filter _
    · -- the columns of the schema itself are those without a point
      rw [List.filter_filter, List.filter_eq_nil_iff.mpr]
      · exact List.nodup_nil
      · intro t _ h
        obtain ⟨hsome, hpoint⟩ := (Bool.and_eq_true _ _).mp h
        obtain ⟨⟨r, f⟩, hfield⟩ := Option.isSome_iff_exists.mp hsome
        have ht : t = r ++ "." ++ f := (relatedField?_eq_some_iff.mp hfield).1.1
        simp [isRelated, Text.holds, ht, String.toList_append] at hpoint
  exact hcolumns.sublist (List.filter_sublist.filter _)

lemma get?_with_linkParameters :
    ctx.linkParameters.get? "with"
      = if relations ctx.linkedTokens = [] then none
        else some (relationList (relations ctx.linkedTokens)) := by
  rw [linkParameters, withParameter]
  split <;> rfl

/-- Relations are noted if and only if a token names a field of one. -/
lemma relations_eq_nil_iff : relations tokens = [] ↔ ∀ t ∈ tokens, relatedField? t = none := by
  have hkeys := (notes_relations tokens).keys
  constructor
  · intro hnil t ht
    by_contra hfield
    obtain ⟨⟨r, f⟩, hfield⟩ := Option.ne_none_iff_exists'.mp hfield
    have hr : r ∈ relationsOf tokens :=
      mem_relationsOf_iff.mpr ⟨f, mem_fieldsOf_iff.mpr ⟨t, ht, hfield⟩⟩
    rw [← List.mem_eraseDups, ← hkeys, hnil] at hr
    cases hr
  · intro hnone
    have hrelations : relationsOf tokens = [] := by
      rw [relationsOf, List.filterMap_eq_nil_iff.mpr hnone]
      rfl
    rw [hrelations] at hkeys
    exact List.map_eq_nil_iff.mp hkeys

section Tokens

variable
  (htokens : ∀ t ∈ ctx.linkedTokens, t ≠ "" ∧ ',' ∉ t.toList ∧ '&' ∉ t.toList ∧ ':' ∉ t.toList)

include htokens

/-- No parameter of a data link has a character in it that parts parameters. -/
lemma not_mem_linkParameters :
    ∀ p ∈ ctx.linkParameters, '=' ∉ p.1.toList ∧ '&' ∉ p.1.toList ∧ '&' ∉ p.2.toList := by
  have hnames : ∀ n ∈ ["columns", "with", "per_page"], '=' ∉ n.toList ∧ '&' ∉ n.toList := by
    decide
  intro p hp
  rw [← and_assoc]
  rcases List.mem_cons.mp hp with rfl | hp
  · exact ⟨hnames "columns" (by simp),
      not_mem_intercalate (by decide) fun t ht => (htokens t ht).2.2.1⟩
  rcases List.mem_append.mp hp with hp | hp
  -- without relations there is no such parameter
  · rw [withParameter] at hp
    split at hp
    · cases hp
    · obtain rfl := List.mem_singleton.mp hp
      exact ⟨hnames "with" (by simp), not_mem_relationList_relations (by decide) (by decide)
        fun t ht => (htokens t ht).2.2.1⟩
  · obtain rfl := List.mem_singleton.mp hp
    exact ⟨hnames "per_page" (by simp), not_mem_toString_int _⟩

/-- The parameters of a data link are read back from its query. -/
lemma parameters_linkParameters :
    parameters ("&".intercalate (ctx.linkParameters.map fun p => p.1 ++ "=" ++ p.2))
      = ctx.linkParameters :=
  parameters_intercalate (List.cons_ne_nil _ _) (not_mem_linkParameters htokens)

/--
A data link names the relations of its columns. The clause with the relations is there if and only
if one of the listed columns names a field of a relation; read back, it asks for exactly these
columns, each once, relation by relation.
-/
theorem datalink_names_relations :
    ∃ query, ctx.datalink = ctx.dataAddress ctx.model ++ "?" ++ query ∧
      listedUnder query "columns" = ctx.linkedTokens ∧
      ((parameters query).get? "with" = none ↔
        ∀ t ∈ listedUnder query "columns", relatedField? t = none) ∧
      ∀ clause, (parameters query).get? "with" = some clause →
        ∃ rs, readRelations? clause = some rs ∧ AsksFor rs (listedUnder query "columns") := by
  have hparameters := parameters_linkParameters htokens
  have hlisted : listedUnder ("&".intercalate (ctx.linkParameters.map fun p => p.1 ++ "=" ++ p.2))
      "columns" = ctx.linkedTokens := by
    rw [listedUnder, hparameters]
    exact filter_pieces_intercalate fun t ht => ⟨(htokens t ht).1, (htokens t ht).2.1⟩
  refine ⟨_, datalink_eq ctx, hlisted, ?_⟩
  rw [hparameters, hlisted, get?_with_linkParameters]
  by_cases hrs : relations ctx.linkedTokens = []
  · rw [if_pos hrs]
    refine ⟨iff_of_true rfl (relations_eq_nil_iff.mp hrs), fun clause hclause => ?_⟩
    cases hclause
  · rw [if_neg hrs]
    refine ⟨iff_of_false (Option.some_ne_none _) (mt relations_eq_nil_iff.mpr hrs),
      fun clause hclause => ?_⟩
    obtain rfl := Option.some.inj hclause
    refine ⟨relations ctx.linkedTokens, readRelations?_relationList hrs fun e he => ?_,
      asksFor_relations (nodup_related_linkedTokens ctx)⟩
    exact listable_of_mem_relations he (fun t ht => (htokens t ht).2.2.2)
      fun t ht => (htokens t ht).2.1

end Tokens

/-- A schema with fields of two relations, one of them in two places, and a field without name. -/
def relatedContext : Context where
  snapshot := [("id", {}), ("user.name", {}), ("role.title", {}), ("user.home.city", {}),
    ("note.", {})]
  componentColumns := some [.str "id", .str "user.name", .str "role.title", .str "user.home.city",
    .str "note."]

/-- Both relations are named, once each; the field without name is not. -/
theorem datalink_names_relations_user :
    ∃ query clause rs, relatedContext.datalink = relatedContext.dataAddress "" ++ "?" ++ query ∧
      (parameters query).get? "with" = some clause ∧ readRelations? clause = some rs ∧
      rs.keys = ["user", "role"] ∧ "user.home.city" ∈ relatedColumns rs ∧
      "note." ∉ relatedColumns rs := by
  have hlinked : relatedContext.linkedTokens
      = ["id", "user.name", "role.title", "user.home.city", "note."] := by decide
  have htokens : ∀ t ∈ relatedContext.linkedTokens,
      t ≠ "" ∧ ',' ∉ t.toList ∧ '&' ∉ t.toList ∧ ':' ∉ t.toList := by
    rw [hlinked]
    decide
  obtain ⟨query, hdatalink, hlisted, hnone, hclause⟩ := datalink_names_relations htokens
  rw [hlisted, hlinked] at hnone hclause
  have hthere : (parameters query).get? "with" ≠ none := by
    rw [Ne, hnone]
    decide
  obtain ⟨clause, hwith⟩ := Option.ne_none_iff_exists'.mp hthere
  obtain ⟨rs, hrs, hasks⟩ := hclause clause hwith
  refine ⟨query, clause, rs, hdatalink, hwith, hrs, hasks.keys.trans (by decide), ?_, ?_⟩
  · exact (hasks.mem_iff _).mpr (by decide)
  · exact mt (hasks.mem_iff _).mp (by decide)

end Context

end ViewAssembly
