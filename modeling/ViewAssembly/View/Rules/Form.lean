import ViewAssembly.View.Rules.Column

/-!
# Rules on components

A reference to a function names a file and a function in it. A form may gather its fields in groups:
groups have distinct names and localized titles, and fields belong to groups that exist. Search
fields say where to submit to, and events are handled by functions that the form has.
-/

namespace ViewAssembly.Rule

/-! ### Functions -/

/-- A reference to a function is a text, or names a file and a function. -/
def functionRef (name : String) (ref : Value) (path : String) : Report :=
  match ref with
  | .str _  => .empty
  | .obj fs =>
    (if Entries.has fs "file" then .empty
      else .error path "function_requires_file"
        ("Function \"" ++ name ++ "\" is missing the \"file\" key (e.g. \"misc.js\")."))
      ++ (if Entries.has fs "function" then .empty
        else .error path "function_requires_function"
          ("Function \"" ++ name ++ "\" is missing the \"function\" key."))
  | _       =>
    .warning path "function_type"
      ("Function \"" ++ name ++ "\" should be either a string or an object with "
        ++ "\"file\" and \"function\" keys.")

def functionRefs (component : Value) (path : String) : Report :=
  .concat <| ((object? component "functions").getD []).map fun (name, ref) =>
    functionRef name ref (path ++ ".functions." ++ name)

/-! ### Forms -/

def placedObjects (v : Value) (name : String) : List (Value × Nat) :=
  ((list? v name).getD []).zipIdx.filter fun e => e.1.isObj

def elementPath (path list : String) (i : Nat) : String :=
  path ++ "." ++ list ++ "[" ++ toString i ++ "]"

/-- What an element is called in a message: the text under a name, or its place. -/
def calledBy (name : String) (v : Value) (i : Nat) : String :=
  ((v.get? name).map Value.text).getD ("index:" ++ toString i)

def groupNames (form : Value) : List String :=
  (placedObjects form "groups").filterMap fun e => (e.1.get? "name").map Value.text

def fieldGroups (form : Value) (path : String) : Report :=
  if (list? form "groups").isNone then .empty
  else
    .concat <| (placedObjects form "fields").map fun (field, i) =>
      match field.given? "group" with
      | none       => .empty
      | some group =>
        if (groupNames form).contains group.text then .empty
        else
          .warning (elementPath path "fields" i) "field_group_exists"
            ("Field \"" ++ calledBy "key" field i ++ "\" references group \"" ++ group.text
              ++ "\" which is not defined in \"groups\". Available groups: "
              ++ ", ".intercalate (groupNames form) ++ ".")

/-- Report the groups whose name is among `seen` or that of an earlier group. -/
def repeatedGroups (path : String) (seen : List String) : List (Value × Nat) → Report
  | []              => .empty
  | (group, i) :: gs =>
    match group.get? "name" with
    | none      => repeatedGroups path seen gs
    | some name =>
      (if seen.contains name.text then
          .warning (elementPath path "groups" i) "group_name_unique"
            ("Duplicate group name \"" ++ name.text ++ "\". Group names should be unique.")
        else .empty)
        ++ repeatedGroups path (name.text :: seen) gs

/-- The groups of a form have distinct names. -/
def distinctGroups (form : Value) (path : String) : Report :=
  repeatedGroups path [] (placedObjects form "groups")

/-- The title of a group is localized. -/
def groupTitle (group : Value) (i : Nat) (here : String) : Report :=
  let name := calledBy "name" group i
  match group.given? "title" with
  | none             =>
    .warning here "group_title_required"
      ("Group \"" ++ name ++ "\" is missing a \"title\". It should be a localized "
        ++ "object like \x7b\"en\": \"...\", \"dv\": \"...\"\x7d.")
  | some (.obj texts) =>
    let missing := ["en", "dv"].filter fun lang => !Entries.has texts lang
    if missing.isEmpty then .empty
    else
      .warning here "group_title_langs"
        ("Group \"" ++ name ++ "\" title is missing language(s): "
          ++ ", ".intercalate missing ++ ".")
  | some _           =>
    .warning here "group_title_localized"
      ("Group \"" ++ name ++ "\" title should be a localized object "
        ++ "\x7b\"en\": \"...\", \"dv\": \"...\"\x7d instead of a plain string.")

def groupTitles (form : Value) (path : String) : Report :=
  .concat <| (placedObjects form "groups").map fun (group, i) =>
    groupTitle group i (elementPath path "groups" i)

/-- Search fields say where to submit to. -/
def searchFields (form : Value) (path : String) : Report :=
  .concat <| (placedObjects form "fields").map fun (field, i) =>
    if lowerText field "inputType" ≠ "search"
        || ((field.filled? "submitUrl").map Value.isStr).getD false then .empty
    else
      .error (elementPath path "fields" i) "search_requires_submiturl"
        ("Field \"" ++ calledBy "key" field i ++ "\" has inputType "
          ++ "\"search\" but is missing \"submitUrl\".")

/-- Events are handled by functions of the form. -/
def eventHandlers (form : Value) (path : String) : Report :=
  let declared := ((object? form "functions").getD []).keys
  .concat <| (placedObjects form "fields").map fun (field, i) =>
    .concat <| ((object? field "events").getD []).map fun (event, handler) =>
      match handler with
      | .str name =>
        if declared.contains name then .empty
        else
          .warning (elementPath path "fields" i ++ ".events." ++ event) "event_handler_exists"
            ("Field \"" ++ calledBy "key" field i ++ "\" event \"" ++ event
              ++ "\" references handler \"" ++ name ++ "\" which is not defined in \"functions\".")
      | _ => .empty

def form (v : Value) (path : String) : Report :=
  fieldGroups v path ++ distinctGroups v path ++ groupTitles v path ++ searchFields v path
    ++ eventHandlers v path ++ functionRefs v path

end ViewAssembly.Rule
