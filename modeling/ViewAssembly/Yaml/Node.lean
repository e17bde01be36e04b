import ViewAssembly.Entries
import ViewAssembly.Yaml.Token

/-!
# The nodes of a YAML document

A document as a tree: scalars, lists and maps, each with the tag that it is given. An alias is
replaced by the node that its anchor names; that node must be complete by then. Where a node may be
missing, an empty scalar takes its place. A text holds at most one document.
-/

namespace ViewAssembly.Yaml

/-- A node of a document. -/
inductive Node where
  /-- A scalar; a plain one is written without quotes. -/
  | scalar (tag : Option String) (text : String) (plain : Bool)
  | list (tag : Option String) (elems : List Node)
  | map (tag : Option String) (entries : List (Node × Node))

namespace Node

/-- What stands where a node is missing. -/
def empty : Node := .scalar none "" true

end Node

/-- What the tags of the format itself start with. -/
def coreTag (kind : String) : String := "tag:yaml.org,2002:" ++ kind

def commonHandles : Entries String := [("!", "!"), ("!!", coreTag "")]

/-- What is left of a text, and what its nodes may refer to. -/
structure Outline where
  tokens : List Token
  handles : Entries String := []
  /-- The nodes by their anchors; the node of an anchor is missing until it is complete. -/
  anchors : Entries (Option Node) := []

/-- Reading from an outline. -/
abbrev Reading := StateT Outline Option

namespace Reading

/-! ### Tokens -/

def peek : Reading Token := do return ((← get).tokens.head?).getD .finish

def pass : Reading Unit := modify fun o => { o with tokens := o.tokens.drop 1 }

/-- Pass this token if it is next. -/
def passIf (t : Token) : Reading Bool := do
  let found := (← peek) == t
  if found then pass
  return found

/-- Pass this token, which must be next. -/
def expect (t : Token) : Reading Unit := do
  if !(← passIf t) then failure

/-- Read something unless one of these tokens is next: then it is missing. -/
def unlessAt (ts : List Token) (node : Reading Node) : Reading Node := do
  if ts.contains (← peek) then return .empty else node

/-! ### Properties -/

def fullTag (t : TagName) : Reading String := do
  match t.handle with
  | none        => return t.suffix
  | some handle =>
    match (← get).handles.get? handle with
    | some expansion => return expansion ++ t.suffix
    | none           => failure

def anchor? : Reading (Option String) := do
  match ← peek with
  | .anchor name => pass; return some name
  | _            => return none

def tag? : Reading (Option String) := do
  match ← peek with
  | .tag t => pass; return some (← fullTag t)
  | _      => return none

def properties : Reading (Option String × Option String) := do
  match ← anchor? with
  | some name => return (some name, ← tag?)
  | none      =>
    let tag ← tag?
    if tag.isSome then return (← anchor?, tag) else return (none, none)

/-- Note an anchor whose node is still to be read. No two nodes have one anchor. -/
def openAnchor (name : String) : Reading Unit := do
  if (← get).anchors.has name then failure
  modify fun o => { o with anchors := o.anchors.put name none }

def setAnchor (name : String) (n : Node) : Reading Unit :=
  modify fun o => { o with anchors := o.anchors.put name (some n) }

def anchored (name : String) : Reading Node := do
  match (← get).anchors.get? name with
  | some (some n) => return n
  | _             => failure

/-! ### Nodes -/

/-- The tokens before which an element of an indented list may be missing. -/
def afterElement : List Token := [.entry, .blockEnd]

/-- The tokens before which an element of a list that is not indented may be missing. -/
def afterLooseElement : List Token := [.entry, .name, .value, .blockEnd]

/-- The tokens before which a name or a value of an indented map may be missing. -/
def afterName : List Token := [.name, .value, .blockEnd]

/-- The tokens before which a name inside brackets may be missing. -/
def afterFlowName (close : Token) : List Token := [.value, .comma, close]

/-- The tokens before which a value inside brackets may be missing. -/
def afterFlowValue (close : Token) : List Token := [.comma, close]

mutual

/--
Read a node. A list whose elements are not indented may stand only where `loose` allows it, and
blocks only outside brackets. `limit` bounds the number of steps and `depth` that of collections
inside each other.
-/
def node (inFlow loose : Bool) (depth : Nat) : Nat → Reading Node
  | 0         => failure
  | limit + 1 => do
    match ← peek with
    | .alias name => pass; anchored name
    | _           =>
      let (anchor, tag) ← properties
      anchor.forM openAnchor
      let n ← content inFlow loose (anchor.isSome || tag.isSome) tag depth limit
      anchor.forM (setAnchor · n)
      return n
termination_by structural limit => limit

/-- Read the content of a node. It may be missing where the node has properties. -/
def content (inFlow loose optional : Bool) (tag : Option String) (depth : Nat) :
    Nat → Reading Node
  | 0         => failure
  | limit + 1 => do
    if depth = 0 then failure
    let depth := depth - 1
    match ← peek, inFlow, loose with
    | .scalar text plain, _, _ => pass; return .scalar tag text plain
    | .openList, _, _          => pass; return .list tag (← flowElems true depth limit)
    | .openMap, _, _           => pass; return .map tag (← flowEntries true depth limit)
    | .listStart, false, _     => pass; return .list tag (← elems depth limit)
    | .mapStart, false, _      => pass; return .map tag (← entries depth limit)
    | .entry, _, true          => return .list tag (← looseElems depth limit)
    | _, _, _                  => if optional then return .scalar tag "" true else failure
termination_by structural limit => limit

def elems (depth : Nat) : Nat → Reading (List Node)
  | 0         => failure
  | limit + 1 => do
    if ← passIf .entry then
      let n ← unlessAt afterElement (node false false depth limit)
      return n :: (← elems depth limit)
    else
      expect .blockEnd
      return []
termination_by structural limit => limit

def looseElems (depth : Nat) : Nat → Reading (List Node)
  | 0         => failure
  | limit + 1 => do
    if ← passIf .entry then
      let n ← unlessAt afterLooseElement (node false false depth limit)
      return n :: (← looseElems depth limit)
    else return []
termination_by structural limit => limit

def entries (depth : Nat) : Nat → Reading (List (Node × Node))
  | 0         => failure
  | limit + 1 => do
    if ← passIf .name then
      let k ← unlessAt afterName (node false true depth limit)
      let v ←
        if ← passIf .value then unlessAt afterName (node false true depth limit) else pure .empty
      return (k, v) :: (← entries depth limit)
    else
      expect .blockEnd
      return []
termination_by structural limit => limit

/-- Read the elements of a list in brackets. An element may be a map of one entry. -/
def flowElems (first : Bool) (depth : Nat) : Nat → Reading (List Node)
  | 0         => failure
  | limit + 1 => do
    if ← passIf .closeList then return []
    if !first then expect .comma
    if ← passIf .closeList then return []
    let n ←
      if ← passIf .name then do
        let (k, v) ← flowEntry .closeList depth limit
        pure (Node.map none [(k, v)])
      else node true false depth limit
    return n :: (← flowElems false depth limit)
termination_by structural limit => limit

/-- Read the entries of a map in brackets. An entry may be a name alone. -/
def flowEntries (first : Bool) (depth : Nat) : Nat → Reading (List (Node × Node))
  | 0         => failure
  | limit + 1 => do
    if ← passIf .closeMap then return []
    if !first then expect .comma
    if ← passIf .closeMap then return []
    let e ←
      if ← passIf .name then flowEntry .closeMap depth limit
      else do pure (← node true false depth limit, Node.empty)
    return e :: (← flowEntries false depth limit)
termination_by structural limit => limit

def flowEntry (close : Token) (depth : Nat) : Nat → Reading (Node × Node)
  | 0         => failure
  | limit + 1 => do
    let k ← unlessAt (afterFlowName close) (node true false depth limit)
    let v ←
      if ← passIf .value then unlessAt (afterFlowValue close) (node true false depth limit)
      else pure .empty
    return (k, v)
termination_by structural limit => limit

end

/-! ### Documents -/

/-- Read the directives before a document: the version, if given, and the handles of tags. -/
def directives (version : Option Nat) (handles : Entries String) :
    Nat → Reading (Entries String)
  | 0         => failure
  | limit + 1 => do
    match ← peek with
    | .directive (.version main) =>
      if version.isSome || main ≠ 1 then failure
      pass
      directives (some main) handles limit
    | .directive (.handle name expansion) =>
      if handles.has name then failure
      pass
      directives version (handles.put name expansion) limit
    | .directive .unknown => pass; directives version handles limit
    | _                   => return handles

def documentEnds : Nat → Reading Unit
  | 0         => return ()
  | limit + 1 => do if ← passIf .documentEnd then documentEnds limit

/-- The greatest number of collections inside each other. -/
def maxDepth : Nat := 480

/-- Read the only document of a text; a text may also hold none. -/
def document (limit : Nat) : Reading (Option Node) := do
  if (← peek) == .finish then return none
  let explicit := match ← peek with
    | .directive _ | .documentStart => true
    | _                             => false
  let own ← if explicit then directives none [] limit else pure []
  let added := commonHandles.filter fun e => !own.has e.1
  modify fun o => { o with handles := own ++ added }
  if explicit then expect .documentStart
  let n ←
    if explicit then
      match ← peek with
      | .directive _ | .documentStart | .documentEnd | .finish => pure Node.empty
      | _ => node false false maxDepth limit
    else node false false maxDepth limit
  documentEnds limit
  expect .finish
  return some n

end Reading

def documentOf? (ts : List Token) : Option (Option Node) :=
  ((Reading.document (4 * ts.length + 8)).run { tokens := ts }).map Prod.fst

end ViewAssembly.Yaml
