import MustacheBuild.Build.Write

/-!
The arguments of the command line: a command, the paths it works on, and flags in any place. A
double dash ends the flags.
-/
namespace MustacheBuild.CommandLine

inductive Command where
  | render
  | check
  | diff
  deriving DecidableEq, Repr

/-- What is to be done with the templates. -/
inductive Task where
  | render (mode : WriteMode)
  | check
  | diff
  deriving DecidableEq, Repr

/-- What the user asks for. -/
inductive Request where
  | version
  | help
  | build (task : Task) (verbose : Bool) (paths : List Path)
  deriving DecidableEq, Repr

inductive UsageError where
  | missingCommand
  | unknownCommand (name : Text)
  | unknownFlag (flag : Text)
  | repeatedFlag (flag : Text)
  | missingPath
  | emptyPath
  | conflict
  deriving DecidableEq, Repr

/-- The flags that are told apart. -/
inductive Flag where
  | verbose
  | version
  | help
  | dryRun
  | force
  deriving DecidableEq, Repr

/-- The flags of an argument: a long flag, or single letters behind one dash. -/
inductive Argument where
  | endOfFlags
  | flags (written : List (Text × Option Flag))
  | word (text : Text)

def longFlag? (name : Text) : Option Flag :=
  match String.ofList name with
  | "verbose" => some .verbose
  | "version" => some .version
  | "help" => some .help
  | "dry-run" => some .dryRun
  | "force" => some .force
  | _ => none

def shortFlag? : Char → Option Flag
  | 'v' => some .verbose
  | 'V' => some .version
  | 'h' => some .help
  | _ => none

/-- A dash alone is a word. -/
def Argument.ofText : Text → Argument
  | ['-', '-'] => endOfFlags
  | '-' :: '-' :: name => flags [('-' :: '-' :: name, longFlag? name)]
  | ['-'] => word ['-']
  | '-' :: letters => flags (letters.map fun c => (['-', c], shortFlag? c))
  | t => word t

def command? (name : Text) : Option Command :=
  match String.ofList name with
  | "render" => some .render
  | "check" => some .check
  | "diff" => some .diff
  | _ => none

/-- Whether a flag may stand behind a command. -/
def Command.knows : Command → Flag → Bool
  | _, .verbose => true
  | _, .help => true
  | .render, .dryRun => true
  | .render, .force => true
  | _, _ => false

/-- Takes flags one by one: the flags taken so far, or an answer that ends the reading. -/
def takeFlags (known : Flag → Bool) (taken : List Flag) :
    List (Text × Option Flag) → Except UsageError (List Flag ⊕ Request)
  | [] => .ok (.inl taken)
  | (written, none) :: _ => .error (.unknownFlag written)
  | (written, some flag) :: rest =>
    if !known flag then .error (.unknownFlag written)
    else if flag = .version then .ok (.inr .version)
    else if flag = .help then .ok (.inr .help)
    else if taken.contains flag then .error (.repeatedFlag written)
    else takeFlags known (flag :: taken) rest

/-- The task of a command with the flags behind it. -/
def Command.task (command : Command) (taken : List Flag) : Task :=
  match command with
  | .render => .render (if taken.contains .dryRun then .dryRun
      else if taken.contains .force then .always else .ifChanged)
  | .check => .check
  | .diff => .diff

/-- The request of a command with the flags before and behind it, and its paths. -/
def finish (command : Command) (before taken : List Flag) (paths : List Path) :
    Except UsageError Request :=
  if paths.isEmpty then .error .missingPath
  else if paths.any (·.text.isEmpty) then .error .emptyPath
  else if taken.contains .dryRun && taken.contains .force then .error .conflict
  else .ok (.build (command.task taken) (before.contains .verbose || taken.contains .verbose) paths)

/-- Reads the arguments behind a command. An empty path is refused where it stands. -/
def readPaths (command : Command) (before taken : List Flag) (paths : List Path) :
    List Text → Except UsageError Request
  | [] => finish command before taken paths
  | t :: rest =>
    match Argument.ofText t with
    | .endOfFlags => finish command before taken (paths ++ rest.map Path.mk)
    | .word t =>
      if t.isEmpty then .error .emptyPath
      else readPaths command before taken (paths ++ [⟨t⟩]) rest
    | .flags written =>
      match takeFlags command.knows taken written with
      | .error e => .error e
      | .ok (.inr answer) => .ok answer
      | .ok (.inl taken) => readPaths command before taken paths rest

/-- Flags that may stand before the command. -/
def knownBefore : Flag → Bool
  | .verbose | .version | .help => true
  | _ => false

/-- Reads what follows the word for help: nothing, or the name of one command. -/
def readHelp : List Text → Except UsageError Request
  | [] => .ok .help
  | name :: rest =>
    if (command? name).isNone && name ≠ "help".toList then .error (.unknownCommand name)
    else match rest with
      | [] => .ok .help
      | other :: _ => .error (.unknownCommand other)

/-- Reads the arguments up to the command. -/
def readCommand (taken : List Flag) : List Text → Except UsageError Request
  | [] => .error .missingCommand
  | t :: rest =>
    match Argument.ofText t with
    | .endOfFlags => .error .missingCommand
    | .word name =>
      match command? name with
      | some command => readPaths command taken [] [] rest
      | none => if name = "help".toList then readHelp rest else .error (.unknownCommand name)
    | .flags written =>
      match takeFlags knownBefore taken written with
      | .error e => .error e
      | .ok (.inr answer) => .ok answer
      | .ok (.inl taken) => readCommand taken rest

def Request.ofArguments (arguments : List Text) : Except UsageError Request :=
  readCommand [] arguments

def UsageError.message : UsageError → String
  | missingCommand => "a command is missing"
  | unknownCommand name => s!"unknown command '{String.ofList name}'"
  | unknownFlag flag => s!"unexpected argument '{String.ofList flag}'"
  | repeatedFlag flag => s!"'{String.ofList flag}' is given more than once"
  | missingPath => "a path is missing"
  | emptyPath => "a path is empty"
  | conflict => "'--dry-run' cannot be used with '--force'"

end MustacheBuild.CommandLine
