import ViewAssembly.Entries
import ViewAssembly.Number.Reading
import ViewAssembly.Text.LetterCase
import ViewAssembly.Text.Percent
import ViewAssembly.Text.Pieces
import ViewAssembly.Text.Surrogate

/-!
# Addresses

The address of a request: a path, and behind a question mark the parameters of a query. A scheme and
a host may stand before the path; they have to make sense, but do not change what is asked for.
Parts of a path that are one or two points lead nowhere and one part back.
-/

namespace ViewAssembly

/-- The address of a request. -/
structure Address where
  /-- The path, with nothing in it encoded any more. -/
  path : String
  /-- The query, as it is written. -/
  query : String := ""
deriving DecidableEq, Repr

namespace Address

/-! ### Parts of an address -/

/-- Take off the end what follows the first occurrence of a character, and the character. -/
def cut (separator : Char) (s : String) : String × Option String :=
  match Text.splitFirst? separator s with
  | some (before, after) => (before, some after)
  | none                 => (s, none)

/-- The path and the query in a text. What follows a hash mark belongs to neither. -/
def pathAndQuery (s : String) : String × String :=
  let (path, query) := cut '?' (cut '#' s).1
  (path, query.getD "")

def isSchemeChar (c : Char) : Bool := c.isAlphanum || c == '+' || c == '.' || c == '-'

/-- Take the scheme off the front; without one it is empty. -/
def splitScheme (s : String) : String × String :=
  match s.toList.span isSchemeChar with
  | (scheme, ':' :: cs) =>
    if scheme.head?.all Char.isAlpha then (String.ofList scheme, String.ofList cs) else ("", s)
  | _                   => ("", s)

/-- Take off the front what stands between two slashes and the path. -/
def splitAuthority (s : String) : String × String :=
  match s.toList with
  | '/' :: '/' :: cs =>
    let (authority, path) := cs.span (· != '/')
    (String.ofList authority, String.ofList path)
  | _                => ("", s)

/--
The name of the host in an authority, which may be empty. Behind a colon there may be the number of
a port and nothing else.
-/
def host? (authority : String) : Option String :=
  let (name, port) := cut ':' ((Text.pieces '@' authority).getLastD "")
  if port.all fun digits => digits.isEmpty || (Number.readInt digits).toOption.isSome then some name
  else none

/-! ### Paths -/

/-- Follow the parts of a path; `done` holds those that were followed, last first. -/
def follow (done : List String) : List String → List String
  | []            => done.reverse
  | "." :: parts  => follow done parts
  | ".." :: parts => follow (if done = [""] then done else done.drop 1) parts
  | part :: parts => follow (part :: done) parts

/-- A path without parts that are one or two points. -/
def withoutPoints (path : String) : String := "/".intercalate (follow [] (Text.pieces '/' path))

/--
The address with a path and a query as they are written. The path is decoded twice, where it is sent
and where it arrives.
-/
def ofWritten (path query : String) : Address :=
  let path := withoutPoints path
  ⟨if path.isEmpty then "/" else Text.percentDecoded (Text.percentDecoded path), query⟩

def withOneSlash (path : String) : String :=
  String.ofList ('/' :: path.toList.dropWhile (· == '/'))

/-! ### Reading addresses -/

def maxLength : Nat := 65536

/-- Can this character not stand in an address? -/
def isBarred (c : Char) : Bool := c.toNat < 0x20 || c == '\x7f' || (Text.half? c).isSome

/--
Read an address. With a scheme and a host it stands for itself; otherwise it is the path of a page
of the service.
-/
def ofText? (s : String) : Option Address := do
  if s.toList.any isBarred || maxLength < s.length then none
  let (written, query) := pathAndQuery s
  let (scheme, written) := splitScheme written
  let (authority, path) := splitAuthority written
  let host ← host? authority
  let isBare := scheme.isEmpty && authority.toList.all fun c => c == ':' || c == '@'
  if !scheme.isEmpty && !host.isEmpty then
    let isWeb := ["http", "https"].contains (Text.lower scheme)
    if isWeb && host.toList.head? != some '[' then return ofWritten path query else none
  else if isBare then
    if "//".isPrefixOf path || ":".isPrefixOf path then none
    else return ofWritten (withOneSlash path) query
  else return ofWritten (withOneSlash (withoutPoints path)) query

/-- The address that a path stands for when a client is sent to it together with a query. -/
def redirect (path query : String) : Address :=
  let (path, query) := pathAndQuery (if query.isEmpty then path else path ++ "?" ++ query)
  ofWritten path query

/-! ### Queries -/

/-- A piece of a query as text: a plus sign stands for a blank. -/
def decodedPiece (s : String) : String :=
  Text.percentDecoded (String.ofList (s.toList.map fun c => if c == '+' then ' ' else c))

/-- The parameters of a query. Of two with the same name the later one counts. -/
def parameters (a : Address) : Entries String :=
  .ofPairs <| ((Text.pieces '&' a.query).filter (· ≠ "")).map fun piece =>
    let (name, text) := cut '=' piece
    (decodedPiece name, decodedPiece (text.getD ""))

def withParameters? (a : Address) (ps : Entries String) : Option Address :=
  if ps.any fun p => Text.hasHalf p.1 || Text.hasHalf p.2 then none
  else
    let pieces := ps.map fun (name, text) =>
      Text.percentEncoded name ++ "=" ++ Text.percentEncoded text
    some { a with query := "&".intercalate pieces }

end Address

end ViewAssembly
