import ViewAssembly.Section.Context

/-!
# Data links

The address from which a table takes its rows. It asks for the columns to show, as far as the schema
has them and offers them in the language, names the fields of each relation among them, and gives
the page size.
-/

namespace ViewAssembly.Context

/-- The tokens that a data link asks for. -/
def linkedTokens (ctx : Context) : List String :=
  ctx.columns.filter fun token =>
    ((ctx.snapshot.get? token).map (·.admits ctx.lang)).getD false

/-- Note a token's field under its relation, unless it is noted already. -/
def noteRelation (relations : Entries (List String)) (token : String) : Entries (List String) :=
  match Token.relation? token with
  | some (relation, field) =>
    let fields := (relations.get? relation).getD []
    if field = "" || fields.contains field then relations
    else relations.put relation (fields ++ [field])
  | none => relations

/-- The relations among tokens, each with its fields. -/
def relations (tokens : List String) : Entries (List String) := tokens.foldl noteRelation []

/-- The part of a data link that names the relations; there is none without relations. -/
def withClause (relations : Entries (List String)) : String :=
  match relations with
  | [] => ""
  | rs =>
    "&with=" ++ ",".intercalate (rs.map fun (name, fields) => name ++ ":" ++ ",".intercalate fields)

/-- The address from which a table takes its rows. -/
def datalink (ctx : Context) : String :=
  let tokens := ctx.linkedTokens
  ctx.dataAddress ctx.model ++ "?columns=" ++ ",".intercalate tokens
    ++ withClause (relations tokens) ++ "&per_page=" ++ toString ctx.perPage

end ViewAssembly.Context
