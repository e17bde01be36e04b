import ViewAssembly.Proofs.Header.Visible
import ViewAssembly.Proofs.Text.Pieces
import ViewAssembly.Section.Datalink

/-!
# What a data link asks for

Read back, the query of a data link lists the columns of the schema that are to be shown and are
offered in the language, in their order. Those of them that are not hidden are the columns of the
schema that have a header (`Context.datalink_lists_shown_columns`).
-/

namespace ViewAssembly

namespace Text

variable {name : String} {names : List String}

/-- The parameters of a query as they are written, each with what follows its first equals sign. -/
def parameters (query : String) : Entries String := (pieces '&' query).filterMap (splitFirst? '=')

/-- The names that a parameter of a query lists, with commas between them. -/
def listedUnder (query name : String) : List String :=
  (pieces ',' (((parameters query).get? name).getD "")).filter (· ≠ "")

lemma get?_parameters {value : String} (hequals : '=' ∉ name.toList) (hname : '&' ∉ name.toList)
    (hvalue : '&' ∉ value.toList) (rest : String) :
    (parameters (name ++ "=" ++ value ++ "&" ++ rest)).get? name = some value := by
  have hfirst : '&' ∉ (name ++ "=" ++ value).toList :=
    not_mem_append_append_iff.mpr ⟨hname, by decide, hvalue⟩
  rw [parameters, pieces_append rfl hfirst, List.filterMap_cons, splitFirst?_append rfl hequals]
  exact Entries.get?_cons_self ..

/-- A comma list of names, read back. -/
lemma filter_pieces_intercalate (hnames : ∀ n ∈ names, n ≠ "" ∧ ',' ∉ n.toList) :
    (pieces ',' (",".intercalate names)).filter (· ≠ "") = names := by
  by_cases hnil : names = []
  · subst hnil
    rfl
  · rw [pieces_intercalate rfl (fun n hn => (hnames n hn).2) hnil, List.filter_eq_self]
    exact fun n hn => by simpa using (hnames n hn).1

/-- A parameter that lists names, read back. -/
lemma listedUnder_eq (hequals : '=' ∉ name.toList) (hname : '&' ∉ name.toList)
    (hnames : ∀ n ∈ names, n ≠ "" ∧ ',' ∉ n.toList ∧ '&' ∉ n.toList) (rest : String) :
    listedUnder (name ++ "=" ++ ",".intercalate names ++ "&" ++ rest) name = names := by
  have hvalue : '&' ∉ (",".intercalate names).toList :=
    not_mem_intercalate (by decide) fun n hn => (hnames n hn).2.2
  rw [listedUnder, get?_parameters hequals hname hvalue, Option.getD_some]
  exact filter_pieces_intercalate fun n hn => ⟨(hnames n hn).1, (hnames n hn).2.1⟩

end Text

namespace Context

open Customizations

variable {ctx : Context} {c : Customizations} {token : String}

lemma withClause_cases (relations : Entries (List String)) :
    withClause relations = "" ∨ ∃ rest, withClause relations = "&" ++ rest := by
  cases relations with
  | nil => exact .inl rfl
  | cons r rs =>
    have hwith (s : String) : "&with=" ++ s = "&" ++ ("with=" ++ s) := by
      rw [← String.append_assoc]
      rfl
    exact .inr ⟨_, hwith _⟩

/-- The query of a data link begins with the columns. -/
lemma exists_datalink_eq (ctx : Context) :
    ∃ rest, ctx.datalink = ctx.dataAddress ctx.model ++ "?" ++
      ("columns" ++ "=" ++ ",".intercalate ctx.linkedTokens ++ "&" ++ rest) := by
  have hcolumns : "?columns=" = "?" ++ ("columns" ++ "=") := rfl
  have hsize : "&per_page=" = "&" ++ "per_page=" := rfl
  rw [datalink, hcolumns]
  rcases withClause_cases (relations ctx.linkedTokens) with hnone | ⟨rest, hrest⟩
  · refine ⟨"per_page=" ++ toString ctx.perPage, ?_⟩
    rw [hnone, hsize]
    simp only [String.append_assoc, String.empty_append]
  · refine ⟨rest ++ "&per_page=" ++ toString ctx.perPage, ?_⟩
    rw [hrest]
    simp only [String.append_assoc]

lemma mem_linkedTokens_iff :
    token ∈ ctx.linkedTokens ↔
      token ∈ ctx.columns ∧ ∃ column, ctx.snapshot.get? token = some column ∧
        column.admits ctx.lang = true := by
  rw [linkedTokens, List.mem_filter]
  cases ctx.snapshot.get? token <;> simp

/--
A data link lists the columns of the schema that are to be shown and are offered in the language,
and those that are not hidden among them are the ones that have a header.
-/
theorem datalink_lists_shown_columns
    (hc : ofValues ctx.blockCustomizations ctx.componentCustomizations = .ok c)
    (hplain : c.Plain) (hkey : ∀ e ∈ c.block ++ c.component, e.2.get? "key" = none)
    (htokens : ∀ t ∈ ctx.columns, t ≠ "" ∧ ',' ∉ t.toList ∧ '&' ∉ t.toList) :
    ∃ query hs, ctx.datalink = ctx.dataAddress ctx.model ++ "?" ++ query ∧
      Text.listedUnder query "columns"
        = ctx.columns.filter (fun t => (ctx.snapshot.get? t).any (·.admits ctx.lang)) ∧
      ctx.headers = .ok hs ∧
      ∀ t, t ∈ ctx.snapshot.keys ∧ some (.str t) ∈ hs.map (·.get? "key") ↔
        t ∈ Text.listedUnder query "columns" ∧
          ∃ column, ctx.snapshot.get? t = some column ∧
            (column.hidden = false ∨ ctx.includeHidden = true) := by
  obtain ⟨rest, hdatalink⟩ := exists_datalink_eq ctx
  obtain ⟨hs, hhs⟩ := exists_headers hc hplain
  obtain ⟨shown, hperm, -, hmem⟩ := exists_keys_of_headers hc hplain hkey hhs
  have hlisted : Text.listedUnder
      ("columns" ++ "=" ++ ",".intercalate ctx.linkedTokens ++ "&" ++ rest) "columns"
        = ctx.linkedTokens :=
    Text.listedUnder_eq (by decide) (by decide)
      (fun t ht => htokens t (mem_linkedTokens_iff.mp ht).1) rest
  have hlinked : ctx.linkedTokens
      = ctx.columns.filter fun t => (ctx.snapshot.get? t).any (·.admits ctx.lang) :=
    List.filter_congr fun t _ => by cases ctx.snapshot.get? t <;> rfl
  refine ⟨_, hs, hdatalink, hlisted.trans hlinked, hhs, fun t => ?_⟩
  have hkeys : some (Value.str t) ∈ hs.map (·.get? "key") ↔ ctx.Shows c t := by
    rw [hperm.mem_iff, List.mem_map, ← hmem]
    constructor
    · rintro ⟨t', ht', heq⟩
      cases heq
      exact ht'
    · exact fun ht => ⟨t, ht, rfl⟩
  rw [hlisted, mem_linkedTokens_iff, hkeys, Shows, ← Entries.isSome_get?_iff]
  cases ctx.snapshot.get? t with
  | none => simp
  | some column => simp [and_assoc, and_comm]

/-- The hidden column is fetched, but it has no header. -/
theorem datalink_lists_shown_columns_badge :
    ∃ query hs, badgeContext.datalink = badgeContext.dataAddress "" ++ "?" ++ query ∧
      Text.listedUnder query "columns" = ["id", "secret"] ∧ badgeContext.headers = .ok hs ∧
      some (.str "id") ∈ hs.map (·.get? "key") ∧ some (.str "secret") ∉ hs.map (·.get? "key") := by
  have hc : ofValues badgeContext.blockCustomizations badgeContext.componentCustomizations
      = .ok badgeCustomizations := rfl
  have hcolumns : badgeContext.columns = ["id", "secret"] := by decide
  have htokens : ∀ t ∈ badgeContext.columns, t ≠ "" ∧ ',' ∉ t.toList ∧ '&' ∉ t.toList := by
    rw [hcolumns]
    decide
  obtain ⟨query, hs, hdatalink, hlisted, hhs, hkeys⟩ :=
    datalink_lists_shown_columns hc plain_badgeCustomizations get?_key_badgeCustomizations htokens
  have hlisted : Text.listedUnder query "columns" = ["id", "secret"] := by
    rw [hlisted, hcolumns]
    rfl
  rw [hlisted] at hkeys
  refine ⟨query, hs, hdatalink, hlisted, hhs, ?_, fun hsecret => ?_⟩
  · exact ((hkeys "id").mpr ⟨by decide, {}, rfl, .inl rfl⟩).2
  · obtain ⟨-, column, hcolumn, hshown⟩ := (hkeys "secret").mp ⟨by decide, hsecret⟩
    cases hcolumn
    rcases hshown with h | h <;> cases h

end Context

end ViewAssembly
