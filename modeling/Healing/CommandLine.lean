/-
  The command line.

  Arguments are read from left to right.  Some options apply to the program, the others to its one
  command, which runs the server.

  1. **Commands** - `ServerOptions` and `Command`; `Ending`, how the program ends.
  2. **Options** - `ValueOption`, and `ServerOptions.set` with the value of an option.
  3. **Tokens** - `Token.ofText` tells options, flags and words apart.
  4. **Reading** - `readArguments`, in front of the command and behind it; `Command.ofArguments?`.
-/
import Healing.Reload
import Healing.Service
import Healing.Web.IpAddress

namespace Healing

/-! ## Commands -/

/-- How to run the server. -/
structure ServerOptions where
  /-- The files and folders of the settings. -/
  paths : List String := []
  listen : String := "0.0.0.0:9099"
  /-- How long an action is remembered, if not as the settings say. -/
  throttle : Option Duration := none
  /-- How often the status of jobs is asked for, if not as the settings say. -/
  jobStatusInterval : Option Duration := none
  /-- How often the files are read again; never, if it is zero. -/
  reloadInterval : Duration := defaultReloadInterval
deriving DecidableEq, Repr, Inhabited

/-- The file of the settings if none is named. -/
def defaultPath : String := "autoheal.yml"

/-- The files and folders that the settings are read from. -/
def ServerOptions.settingsPaths (o : ServerOptions) : List String :=
  if o.paths.isEmpty then [defaultPath] else o.paths

/-- What the program is asked to do. -/
inductive Command where
  | showHelp
  | showVersion
  | serve (options : ServerOptions)
deriving DecidableEq, Repr, Inhabited

/-- The name of the program. -/
def programName : String := "autoheal"

/-- What the program says about its version. -/
def versionText : String := programName ++ " " ++ Service.version ++ "\n"

/-- How the program ends. -/
inductive Ending where
  | success
  | failure
  /-- The arguments are not used as they should be. -/
  | usage
deriving DecidableEq, Repr, Inhabited

/-- The code for an ending. -/
def Ending.code : Ending → UInt8
  | .success => 0
  | .failure => 1
  | .usage => 2

/-! ## Options -/

/-- The options that have a value. -/
inductive ValueOption where
  | configFile
  | listen
  | throttleInterval
  | jobStatusInterval
  | reloadInterval
  | logFormat
deriving DecidableEq, Repr, Inhabited

/-- The option of a name. -/
def ValueOption.ofName? : String → Option ValueOption
  | "config-file" => some .configFile
  | "listen" => some .listen
  | "throttle-interval" => some .throttleInterval
  | "job-status-interval" => some .jobStatusInterval
  | "config-reload-interval" => some .reloadInterval
  | "log-format" => some .logFormat
  | _ => none

/-- Set an option, if its value is valid. -/
def ServerOptions.set (o : ServerOptions) (option : ValueOption) (value : String) :
    Option ServerOptions :=
  match option with
  | .configFile => if value.isEmpty then none else some { o with paths := o.paths ++ [value] }
  | .listen => if Web.isSocketAddress value then some { o with listen := value } else none
  | .throttleInterval =>
    (Duration.read value).toOption.map fun d => { o with throttle := some d }
  | .jobStatusInterval =>
    (Duration.readInterval value).toOption.map fun d => { o with jobStatusInterval := some d }
  | .reloadInterval => (Duration.read value).toOption.map fun d => { o with reloadInterval := d }
  | .logFormat => if ["text", "json"].contains value then some o else none

/-! ## Tokens -/

/-- An argument. -/
inductive Token where
  | word (text : String)
  /-- A name behind two hyphens, and what stands behind an equals sign. -/
  | long (name : String) (value : Option String)
  /-- Letters behind one hyphen. -/
  | short (letters : List Char)
  /-- Two hyphens alone: no options follow. -/
  | endOfOptions
deriving DecidableEq, Repr, Inhabited

/-- The token of an argument. -/
def Token.ofText (s : String) : Token :=
  match s.toList with
  | ['-', '-'] => .endOfOptions
  | '-' :: '-' :: cs =>
    let (name, r) := cs.span (· ≠ '=')
    .long (String.ofList name) (match r with
      | [] => none
      | _ :: value => some (String.ofList value))
  | '-' :: c :: cs => .short (c :: cs)
  | _ => .word s

/-! ## Reading -/

/-- What has been given already, of what can be given only once. -/
structure GivenOptions where
  options : List ValueOption := []
  verbose : Bool := false
deriving Inhabited

/-- Note that an option is given, unless it was given before; a path can be given again and
    again. -/
def GivenOptions.addOption (g : GivenOptions) (option : ValueOption) : Option GivenOptions :=
  if option = .configFile then some g
  else if g.options.contains option then none
  else some { g with options := option :: g.options }

/-- Note the flag for more messages, unless it was given before. -/
def GivenOptions.addVerbose (g : GivenOptions) : Option GivenOptions :=
  if g.verbose then none else some { g with verbose := true }

/-- What comes of letters behind a hyphen: a command that is carried out at once, or nothing yet. -/
def readLetters (inServer : Bool) : List Char → GivenOptions → Option (GivenOptions ⊕ Command)
  | [], g => some (.inl g)
  | c :: r, g =>
    if c = 'v' then g.addVerbose.bind (readLetters inServer r)
    else if c = 'h' then some (.inr .showHelp)
    else if c = 'V' && !inServer then some (.inr .showVersion)
    else none

/-- What comes of a flag with a long name. -/
def readFlag (inServer : Bool) (name : String) (g : GivenOptions) :
    Option (GivenOptions ⊕ Command) :=
  match name with
  | "verbose" => g.addVerbose.map .inl
  | "help" => some (.inr .showHelp)
  | "version" => if inServer then none else some (.inr .showVersion)
  | _ => none

/-- Take over the value of an option.  In front of the command there is only one that can be
    given. -/
def setOption (server : Option ServerOptions) (option : ValueOption) (value : String) :
    Option (Option ServerOptions) :=
  match server with
  | some o => (o.set option value).map some
  | none =>
    if option = .logFormat then (ServerOptions.set {} option value).map fun _ => none else none

/-- Whether an argument can be the value of an option in front of it. -/
def isValue (s : String) : Bool :=
  match Token.ofText s with
  | .word _ => true
  | _ => false

/-- The command for help about a command, if there is one of that name. -/
def readHelp : List String → Option Command
  | [] => some .showHelp
  | [name] => if name = "server" || name = "help" then some .showHelp else none
  | _ => none

/-- Read arguments; `server` holds the options of the command, once that has been read. -/
def readArguments : List String → GivenOptions → Option ServerOptions → Option Command
  | [], _, server => server.map .serve
  | s :: r, g, server =>
    match Token.ofText s with
    | .word w =>
      if server.isSome then none
      else if w = "server" then readArguments r {} (some {})
      else if w = "help" then readHelp r
      else none
    | .endOfOptions => if r.isEmpty then server.map .serve else none
    | .short letters =>
      match readLetters server.isSome letters g with
      | some (.inl g) => readArguments r g server
      | some (.inr command) => some command
      | none => none
    | .long name value =>
      match ValueOption.ofName? name, value, r with
      | some option, some value, r => do
        let g ← g.addOption option
        readArguments r g (← setOption server option value)
      | some option, none, value :: r =>
        if isValue value then do
          let g ← g.addOption option
          readArguments r g (← setOption server option value)
        else none
      | some _, none, [] => none
      | none, none, r =>
        match readFlag server.isSome name g with
        | some (.inl g) => readArguments r g server
        | some (.inr command) => some command
        | none => none
      | none, some _, _ => none

/-- The command that arguments stand for, if they are used as they should be. -/
def Command.ofArguments? (arguments : List String) : Option Command :=
  readArguments arguments {} none

end Healing
