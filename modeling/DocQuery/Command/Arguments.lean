/-! # Command-line arguments

There are two commands, `compile` and `explain`, and each takes one option, `--config`.
`Command.parse` reads the arguments from left to right.  A `--config` waits for its value
and is settled only when the next option or the end comes, so that an argument which cannot
be there at all is reported before a value that is missing, repeated or empty. -/
namespace DocQuery

/-- Why arguments make no command. -/
inductive UsageError where
  /-- There is no argument to go by. -/
  | nothing
  | help
  | version
  | unknownCommand
  | unknownArgument
  | badValue
  | repeated
  /-- A value for an option that takes none. -/
  | unwantedValue
  deriving DecidableEq

/-- What a command prints. -/
inductive Mode where
  | compile
  | explain
  deriving DecidableEq

/-- A command with the path of its configuration. -/
structure Command where
  mode : Mode
  config : String
  deriving DecidableEq

/-- Where the configuration is if nothing is said. -/
def Command.defaultConfig : String := "./docwire.json"

/-- The command of a name. -/
def Mode.ofName? : String → Option Mode
  | "compile" => some .compile
  | "explain" => some .explain
  | _ => none

/-! ### The shape of an argument -/

/-- What an argument looks like. -/
inductive Argument where
  /-- `--`, after which there are no options. -/
  | divider
  /-- `--name` or `--name=value`. -/
  | long (name : String) (value : Option String)
  /-- `-` and letters, of which the first decides. -/
  | short (letter : Char)
  /-- All else, a lone `-` included. -/
  | plain (text : String)
  deriving DecidableEq

/-- The shape of an argument. -/
def Argument.ofString (s : String) : Argument :=
  match s.toList with
  | ['-', '-'] => .divider
  | '-' :: '-' :: cs =>
      match cs.dropWhile (· ≠ '=') with
      | [] => .long (String.ofList cs) none
      | _ :: value => .long (String.ofList (cs.takeWhile (· ≠ '='))) (some (String.ofList value))
  | '-' :: c :: _ => .short c
  | _ => .plain s

/-! ### The options of a command -/

namespace Command

/-- What has been read of a command's options. -/
structure Options where
  /-- The settled value of `--config`. -/
  config : Option String := none
  /-- A `--config` to settle, with its value if that came. -/
  pending : Option (Option String) := none

namespace Options

/-- Settles a value of `--config`. -/
def settleValue (o : Options) (value : String) : Except UsageError Options :=
  if o.config.isSome then .error .repeated
  else if value = "" then .error .badValue
  else .ok { config := some value }

/-- Settles what is pending. -/
def settle (o : Options) : Except UsageError Options :=
  match o.pending with
  | none => .ok o
  | some none => .error .badValue
  | some (some value) => o.settleValue value

/-- Reads one argument before the divider. -/
def step (o : Options) : Argument → Except UsageError Options
  | .long "config" none => do
      let o ← o.settle
      pure { o with pending := some none }
  | .long "config" (some value) => do (← o.settle).settleValue value
  | .long "help" (some _) => .error .unwantedValue
  | .long "help" none | .short 'h' => do
      let _ ← o.settle
      .error .help
  | .plain text =>
      if o.pending = some none then .ok { o with pending := some (some text) }
      else .error .unknownArgument
  | .long .. | .short _ | .divider => .error .unknownArgument

/-- Reads the arguments of a command. -/
def read (o : Options) : List String → Except UsageError Options
  | [] => o.settle
  | s :: rest =>
      match Argument.ofString s with
      | .divider => if rest.isEmpty then o.settle else .error .unknownArgument
      | a => do (← o.step a).read rest

end Options

/-! ### Commands -/

/-- Whether a name is known at the top: a command, or the request for help. -/
def isKnown (name : String) : Bool := (Mode.ofName? name).isSome || name = "help"

/-- What comes of asking for help on names: help, if at most one name follows and is known. -/
def helpOn : List String → UsageError
  | [] => .help
  | [name] => if isKnown name then .help else .unknownCommand
  | _ => .unknownCommand

/-- What comes of arguments without options: no command can stand there. -/
def afterDivider : List String → UsageError
  | [] => .nothing
  | name :: _ => if isKnown name then .unknownArgument else .unknownCommand

/-- The command of arguments. -/
def parse : List String → Except UsageError Command
  | [] => .error .nothing
  | s :: rest =>
      match Argument.ofString s with
      | .divider => .error (afterDivider rest)
      | .long "help" none | .short 'h' => .error .help
      | .long "version" none | .short 'V' => .error .version
      | .long "help" (some _) | .long "version" (some _) => .error .unwantedValue
      | .long .. | .short _ => .error .unknownArgument
      | .plain name =>
          match Mode.ofName? name with
          | some mode => do
              let o ← Options.read {} rest
              pure { mode, config := o.config.getD defaultConfig }
          | none => .error (if name = "help" then helpOn rest else .unknownCommand)

example : parse ["compile", "--config", "a.json"] = .ok ⟨.compile, "a.json"⟩ := rfl
example : parse ["explain", "--config", "--bogus"] = .error .unknownArgument := rfl
example : parse ["explain", "--config", "--help"] = .error .badValue := rfl

end Command
end DocQuery
