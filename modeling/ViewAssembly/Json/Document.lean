import ViewAssembly.Json.Token

/-!
# JSON documents

Reading a value from JSON tokens, one token at a time: the containers that are open are kept in a
list, innermost first, and each token either opens one, closes one or adds to the innermost. A
name that an object has twice keeps its first place and takes its last value.
-/

namespace ViewAssembly.Json

/-- A container that is still open, with what it holds so far. -/
inductive Open where
  | elems (before : List Value)
  | fields (before : Entries Value)
  | entry (before : Entries Value) (name : String)

/-- What has to come next. -/
inductive Next where
  | value
  | elemOrEnd
  | nameOrEnd
  | name
  | colon (name : String)
  | ended (v : Value)

/-- The reader between two tokens. -/
structure State where
  containers : List Open
  next : Next

namespace State

/-- The greatest number of containers inside each other. -/
def maxDepth : Nat := 980

/-- Open a container, unless too many are open. -/
def opened (containers : List Open) (c : Open) (next : Next) : Option State :=
  if containers.length < maxDepth then some ⟨c :: containers, next⟩ else none

/-- Take the token that starts a value. -/
def begin (containers : List Open) : Token → Option State
  | .scalar v => some ⟨containers, .ended v⟩
  | .openArr  => opened containers (.elems []) .elemOrEnd
  | .openObj  => opened containers (.fields []) .nameOrEnd
  | _         => none

def step : State → Token → Option State
  | ⟨cs, .value⟩, t                           => begin cs t
  | ⟨.elems [] :: cs, .elemOrEnd⟩, .closeArr  => some ⟨cs, .ended (.arr [])⟩
  | ⟨cs, .elemOrEnd⟩, t                       => begin cs t
  | ⟨.fields [] :: cs, .nameOrEnd⟩, .closeObj => some ⟨cs, .ended (.obj [])⟩
  | ⟨cs, .nameOrEnd⟩, .scalar (.str n)        => some ⟨cs, .colon n⟩
  | ⟨cs, .name⟩, .scalar (.str n)             => some ⟨cs, .colon n⟩
  | ⟨.fields es :: cs, .colon n⟩, .colon      => some ⟨.entry es n :: cs, .value⟩
  | ⟨.elems vs :: cs, .ended v⟩, .comma       => some ⟨.elems (v :: vs) :: cs, .value⟩
  | ⟨.elems vs :: cs, .ended v⟩, .closeArr    => some ⟨cs, .ended (.arr (v :: vs).reverse)⟩
  | ⟨.entry es n :: cs, .ended v⟩, .comma     =>
    some ⟨.fields (Entries.put es n v) :: cs, .name⟩
  | ⟨.entry es n :: cs, .ended v⟩, .closeObj  => some ⟨cs, .ended (.obj (Entries.put es n v))⟩
  | _, _                                      => none

/-- The reader before the first token. -/
def start : State := ⟨[], .value⟩

def result? : State → Option Value
  | ⟨[], .ended v⟩ => some v
  | _              => none

end State

def ofTokens? (ts : List Token) : Option Value :=
  (ts.foldlM State.step State.start).bind State.result?

end ViewAssembly.Json

namespace ViewAssembly

def Value.ofJson? (s : String) : Option Value := (Json.tokens? s.toList).bind Json.ofTokens?

end ViewAssembly
