import ViewAssembly.Override
import ViewAssembly.Section.Buttons
import ViewAssembly.Section.Datalink
import ViewAssembly.Section.Fields
import ViewAssembly.Section.Filters
import ViewAssembly.Template.Basic

/-!
# Resolving a template

The draft of a component is its template with every directive carried out: parts that are on are
built where there is a builder of their name, parts that are off are left out, and the rest is
taken over. Objects are resolved inside by the same rules.
-/

namespace ViewAssembly

/-- A part of a component that can be built. -/
inductive Builder where
  | headers | fields | filters | pagination | datalink | buttons
deriving DecidableEq, Repr

namespace Builder

/-- Build a part for a kind of component; `name` is the name under which it is asked for. -/
def build (ctx : Context) (kind name : String) : Builder → Except Malformed Value
  | headers    => return .arr ((← ctx.headers).map .obj)
  | fields     => .ok (.arr ctx.fields)
  | filters    => .ok (.arr ctx.filters)
  | pagination => .ok ctx.pagination
  | datalink   => .ok (.str ctx.datalink)
  | buttons    => .ok (.arr ((Button.defaults kind name).map Button.toValue))

/-- The parts that can be built, by the names under which templates ask for them. -/
def byName : Entries Builder :=
  [("headers", headers), ("fields", fields), ("filters", filters), ("pagination", pagination),
    ("datalink", datalink), ("actions", buttons), ("buttons", buttons)]

end Builder

mutual

/-- Carry out one directive; `none` leaves the entry out. -/
def resolveDirective (builders : Entries Builder) (ctx : Context) (kind name : String) :
    Value → Except Malformed (Option Value)
  | .obj ds => return some (.obj (← resolveDirectives builders ctx kind ds))
  | .str s  =>
    if (Value.str s).saysOn then
      match builders.get? name with
      | some builder => return some (← builder.build ctx kind name)
      | none         => .ok (some (.str s))
    else if (Value.str s).saysOff then .ok none
    else .ok (some (.str s))
  | v => .ok (some v)

/-- Carry out the directives under their names. -/
def resolveDirectives (builders : Entries Builder) (ctx : Context) (kind : String) :
    List (String × Value) → Except Malformed (Entries Value)
  | []              => .ok []
  | (name, v) :: ds => do
    let entry ← resolveDirective builders ctx kind name v
    let rest ← resolveDirectives builders ctx kind ds
    return (entry.map (name, ·)).toList ++ rest

end

/-- The draft of a component. -/
def Template.resolve (t : Template) (builders : Entries Builder) (ctx : Context) :
    Except Malformed (Entries Value) :=
  resolveDirectives builders ctx t.kind.name t.directives

end ViewAssembly
