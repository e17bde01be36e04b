import ViewAssembly.Value

/-!
# Payloads

What a request for a view block is answered with: a section for every component, and beside them,
where the settings ask for it, headers, filters and pagination for the view as a whole. A block
that does not support the language of the request is answered with a message.
-/

namespace ViewAssembly

/-- The assembled components of a view block. -/
structure Payload where
  /-- The sections by the keys of their components. -/
  sections : Entries Value
  headers : Option Value := none
  filters : Option Value := none
  pagination : Option Value := none

/-- The answer to a request for a view block. -/
inductive Answer where
  | unsupported (lang : String)
  | payload (p : Payload)

namespace Payload

/-- The entries beside the sections. -/
def topLevel (p : Payload) : Entries Value :=
  [("headers", p.headers), ("filters", p.filters), ("pagination", p.pagination)].filterMap
    fun (name, v) => v.map (name, ·)

def toFields (p : Payload) : Entries Value := ("componentSettings", .obj p.sections) :: p.topLevel

end Payload

namespace Answer

/-- What is said when a block does not support a language. -/
def unsupportedMessage (lang : String) : String :=
  "Language '" ++ lang ++ "' not supported by view config"

def toValue : Answer → Value
  | unsupported lang => .obj [("message", .str (unsupportedMessage lang)), ("data", .arr [])]
  | payload p        => .obj p.toFields

end Answer

end ViewAssembly
