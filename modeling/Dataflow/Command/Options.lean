/-!
# Options of a command line

Options have a long name and may have a letter; those that are no flags take a
value, attached or as the next argument. An option is given once at most. What is
no option takes the next place of a positional argument; after two hyphens alone
everything does. Reading ends with the first argument that does not fit.
-/

namespace Dataflow

/-- An option. A flag takes no value; another option says which values it takes. -/
structure OptionSpec where
  name : String
  letter? : Option Char := none
  takes? : Option (String → Bool) := none

/-- What arguments may hold: options, and for each place of a positional argument the
texts that it takes. -/
structure ArgumentSpec where
  options : List OptionSpec := []
  places : List (String → Bool) := []

/-- Why reading a command line ends without a command. -/
inductive CommandStop where
  /-- The version is asked for. -/
  | version
  /-- Help is asked for. -/
  | help
  /-- The arguments are no command. -/
  | invalid
  deriving DecidableEq

/-- What an argument says. -/
inductive ArgumentItem where
  | flag (name : String)
  | value (name text : String)
  /-- The value of the option is the next argument. -/
  | pending (name : String)
  | unknown
  deriving DecidableEq

namespace ArgumentItem

/-- What a long option says, with its value after an equals sign if it has one. -/
def ofLong (specs : List OptionSpec) (text : List Char) : ArgumentItem :=
  let name := String.ofList (text.takeWhile (· != '='))
  match (specs.find? (·.name == name)).map (·.takes?), text.dropWhile (· != '=') with
  | some none, [] => .flag name
  | some (some _), [] => .pending name
  | some (some _), _ :: attached => .value name (String.ofList attached)
  | some none, _ :: _ | none, _ => .unknown

/-- What letters say: flags, and at the end an option with its value. -/
def ofLetters (specs : List OptionSpec) : List Char → List ArgumentItem
  | [] => []
  | c :: rest =>
    match specs.find? (·.letter? == some c) with
    | none => [.unknown]
    | some spec =>
      match spec.takes?, rest with
      | none, _ => .flag spec.name :: ofLetters specs rest
      | some _, [] => [.pending spec.name]
      | some _, '=' :: attached => [.value spec.name (String.ofList attached)]
      | some _, attached => [.value spec.name (String.ofList attached)]

/-- What an argument says; a positional one says nothing. -/
def ofArgument (specs : List OptionSpec) (argument : String) : List ArgumentItem :=
  match argument.toList with
  | '-' :: '-' :: text => [ofLong specs text]
  | '-' :: c :: rest => ofLetters specs (c :: rest)
  | _ => []

/-- The option that waits for its value at the end of some items. -/
def pending? (items : List ArgumentItem) : Option String :=
  match items.getLast? with
  | some (.pending name) => some name
  | _ => none

end ArgumentItem

/-- The arguments read so far. -/
structure Arguments where
  flags : List String := []
  values : List (String × String) := []
  positionals : List String := []

namespace Arguments

def value? (a : Arguments) (name : String) : Option String := a.values.lookup name

/-- Whether an option takes a value. -/
def accepts (specs : List OptionSpec) (name value : String) : Bool :=
  ((specs.find? (·.name == name)).bind (·.takes?)).any (· value)

/-- The arguments with one more item. -/
def add (specs : List OptionSpec) (a : Arguments) : ArgumentItem → Except CommandStop Arguments
  | .flag name =>
    if name = "version" then .error .version
    else if name = "help" then .error .help
    else if a.flags.contains name then .error .invalid
    else .ok { a with flags := a.flags ++ [name] }
  | .value name text =>
    if (a.value? name).isSome || !accepts specs name text then .error .invalid
    else .ok { a with values := a.values ++ [(name, text)] }
  | .pending _ | .unknown => .error .invalid

/-- The arguments with one more positional argument, if its place takes it. -/
def place (places : List (String → Bool)) (a : Arguments) (text : String) :
    Except CommandStop Arguments :=
  if places[a.positionals.length]?.any (· text) then
    .ok { a with positionals := a.positionals ++ [text] }
  else .error .invalid

/-- Whether an argument looks like an option. -/
def isOption (argument : String) : Bool := argument.startsWith "-" && argument != "-"

/-- Reads arguments up to the first positional one, or all of them. -/
def read (spec : ArgumentSpec) (toEnd : Bool) (a : Arguments) :
    List String → Except CommandStop (Arguments × List String)
  | [] => .ok (a, [])
  | argument :: rest =>
    if argument = "--" then
      if toEnd then do return (← rest.foldlM (place spec.places) a, []) else .error .invalid
    else
      match ArgumentItem.ofArgument spec.options argument with
      | [] =>
        if toEnd then do read spec toEnd (← place spec.places a argument) rest
        else .ok (a, argument :: rest)
      | item :: items =>
        match ArgumentItem.pending? (item :: items) with
        | none => do read spec toEnd (← (item :: items).foldlM (add spec.options) a) rest
        | some name => do
          let a ← (item :: items).dropLast.foldlM (add spec.options) a
          match rest with
          | [] => .error .invalid
          | text :: rest =>
            if isOption text then .error .invalid
            else do read spec toEnd (← add spec.options a (.value name text)) rest

end Arguments

end Dataflow
