import ViewAssembly.Text.Digit
import ViewAssembly.Text.Pieces

/-!
# Command-line arguments

What a command line asks for. An option may be shortened to a start that no other option has, and
may stand anywhere; the models stand together in one place. Behind `--` every argument is a model.
-/

namespace ViewAssembly.Command

/-- An option of the command line. -/
inductive Flag where
  | help
  | strict
  | json
deriving DecidableEq, Repr

/-- What an argument is. -/
inductive Word where
  | model (name : String)
  /-- The mark behind which every argument is a model. -/
  | divider
  | flag (f : Flag)
  /-- An option with a value, which no option takes. -/
  | valued
  /-- The start of more than one option. -/
  | ambiguous
  /-- An option that does not exist. -/
  | unknown
deriving DecidableEq, Repr

/-- What the checking of view configs is asked for. -/
structure Options where
  /-- The models to check; without any, all of them. -/
  models : List String := []
  /-- Do warnings count as failures? -/
  strict : Bool := false
  asJson : Bool := false
deriving DecidableEq, Repr

/-- What a command line asks for. -/
inductive Invocation where
  | check (o : Options)
  | help
  | unusable
deriving DecidableEq, Repr

namespace Flag

def name : Flag → String
  | help   => "--help"
  | strict => "--strict"
  | json   => "--json"

/-- The options whose names start so. -/
def startingWith (start : String) : List Flag :=
  [help, strict, json].filter fun f => start.toList.isPrefixOf f.name.toList

end Flag

namespace Word

/-! ### Single arguments -/

/-- Is this a negative number? A single line end behind it does not count. -/
def isNegativeNumber (s : String) : Bool :=
  match s.toList with
  | '-' :: cs =>
    let cs := if cs.getLast? == some '\n' then cs.dropLast else cs
    match cs.dropWhile Text.isDigit with
    | []              => !cs.isEmpty
    | '.' :: fraction => !fraction.isEmpty && fraction.all Text.isDigit
    | _               => false
  | _ => false

def ofUnknown (s : String) : Word :=
  if isNegativeNumber s || Text.holds s ' ' then model s else unknown

def ofLong (s : String) : Word :=
  let (start, value?) :=
    match Text.splitFirst? '=' s with
    | some (start, value) => (start, some value)
    | none                => (s, none)
  match Flag.startingWith start, value? with
  | [], _       => ofUnknown s
  | [f], none   => flag f
  | [_], some _ => valued
  | _, _        => ambiguous

/--
What an argument is that starts with the short form of `--help`, given what follows it: the letter
may be repeated, and an equals sign may stand before the repetition.
-/
def ofHelp (cs : List Char) : Word :=
  let more := match cs with
    | '=' :: c :: cs => c :: cs
    | cs             => cs
  if more.all (· == 'h') then flag .help else valued

def ofArgument (s : String) : Word :=
  match s.toList with
  | '-' :: '-' :: _  => ofLong s
  | '-' :: 'h' :: cs => ofHelp cs
  | '-' :: _ :: _    => ofUnknown s
  | _                => model s

/-! ### Rows of arguments -/

def ofArguments : List String → List Word
  | []           => []
  | "--" :: args => divider :: args.map model
  | s :: args    => ofArgument s :: ofArguments args

/-- Does this argument belong to the models? -/
def isPlace : Word → Bool
  | model _ | divider => true
  | _                 => false

def model? : Word → Option String
  | model name => some name
  | _          => none

/-- Do the models stand together in one place? -/
def together (ws : List Word) : Bool :=
  ((ws.dropWhile (!·.isPlace)).dropWhile isPlace).all (!·.isPlace)

end Word

namespace Invocation

/--
What a command line asks for. The first argument that asks for help, or gives a value to an option,
decides; after that no argument may be unknown, and the models must stand together.
-/
def ofArguments (args : List String) : Invocation :=
  let ws := Word.ofArguments args
  if ws.contains .ambiguous then unusable
  else
    match ws.find? fun w => w == .flag .help || w == .valued with
    | some (.flag _) => help
    | some _         => unusable
    | none           =>
      if ws.contains .unknown || !Word.together ws then unusable
      else
        check {
          models := ws.filterMap Word.model?
          strict := ws.contains (.flag .strict)
          asJson := ws.contains (.flag .json) }

end Invocation

end ViewAssembly.Command
