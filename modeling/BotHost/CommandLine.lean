/-
# The command line

Two options, each with a value that may be given once: `--config` names the main file and
`--profile` the profile.  Options have a long and a short form; a value follows behind an
equals sign, directly behind the short form, or as the next argument unless that looks like
an option itself.
-/

namespace BotHost

/-- An option with a value. -/
inductive CommandOption where
  | config | profile
deriving DecidableEq

namespace CommandOption

/-- The name of an option. -/
def name : CommandOption → String
  | config => "config"
  | profile => "profile"

/-- The short form of an option. -/
def letter : CommandOption → Char
  | config => 'c'
  | profile => 'p'

/-- All options. -/
def all : List CommandOption := [config, profile]

/-- How an option is called in messages. -/
def usage (option : CommandOption) : String :=
  "--" ++ option.name ++ " <" ++ option.name.toUpper ++ ">"

end CommandOption

/-- What a command line asks for. -/
structure CommandLine where
  config : Option String
  profile : Option String
deriving DecidableEq

/-- Why a command line asks for nothing that can be done. -/
inductive CommandLineError where
  | help
  | unexpected (argument : String)
  | missingValue (option : CommandOption)
  | repeated (option : CommandOption)
deriving DecidableEq

namespace CommandLineError

/-- The first line of an error's wording. -/
def message : CommandLineError → String
  | help => ""
  | unexpected argument => "error: unexpected argument '" ++ argument ++ "' found"
  | missingValue option =>
    "error: a value is required for '" ++ option.usage ++ "' but none was supplied"
  | repeated option =>
    "error: the argument '" ++ option.usage ++ "' cannot be used multiple times"

end CommandLineError

namespace CommandLine

/-- The help text, line by line. -/
def help : List String :=
  ["Ping/echo bot on the Weft host", "", "Usage: echo-bot [OPTIONS]", "", "Options:",
    "  -c, --config <CONFIG>    Configuration file; searched for in the usual places when omitted",
    "  -p, --profile <PROFILE>  Configuration profile (overrides WEFT_PROFILE)",
    "  -h, --help               Print help"]

/-- A command line that asks for nothing in particular. -/
def empty : CommandLine := ⟨none, none⟩

/-- Give an option its value. -/
def set (line : CommandLine) (option : CommandOption) (value : String) :
    Except CommandLineError CommandLine :=
  let present :=
    match option with
    | .config => line.config
    | .profile => line.profile
  if present.isSome then .error (.repeated option)
  else
    match option with
    | .config => if value = "" then .error (.missingValue option) else
      .ok { line with config := some value }
    | .profile => .ok { line with profile := some value }

/-- An argument as it is written. -/
inductive Form where
  /-- An option with its value, if that is in the same argument. -/
  | option (option : CommandOption) (value : Option String)
  | help
  | endOfOptions
  /-- Nothing that is known, with how it is called in messages. -/
  | unknown (shown : String)

/-- Read an argument that stands where an option may. -/
def form (argument : String) : Form :=
  match argument.toList with
  | ['-', '-'] => .endOfOptions
  | '-' :: '-' :: rest =>
    let name := String.ofList (rest.takeWhile (· != '='))
    let behind := rest.dropWhile (· != '=')
    let value := if behind.isEmpty then none else some (String.ofList (behind.drop 1))
    match CommandOption.all.find? fun option => option.name == name, value with
    | some option, value => .option option value
    | none, none => if name = "help" then .help else .unknown argument
    | none, some _ => .unknown ("--" ++ name)
  | '-' :: letter :: rest =>
    match CommandOption.all.find? fun option => option.letter == letter with
    | some option =>
      match rest with
      | [] => .option option none
      | '=' :: value => .option option (some (String.ofList value))
      | value => .option option (some (String.ofList value))
    | none => if letter == 'h' then .help else .unknown (String.ofList ['-', letter])
  | _ => .unknown argument

/-- Whether an argument looks like an option and so is no value. -/
def looksLikeOption (argument : String) : Bool :=
  match argument.toList with
  | '-' :: _ :: _ => true
  | _ => false

/-- Read arguments, the options of `line` being given already. -/
def readFrom (line : CommandLine) : List String → Except CommandLineError CommandLine
  | [] => .ok line
  | argument :: rest =>
    match form argument with
    | .help => .error .help
    | .unknown shown => .error (.unexpected shown)
    | .endOfOptions =>
      match rest with
      | [] => .ok line
      | next :: _ => .error (.unexpected next)
    | .option option (some value) =>
      match line.set option value with
      | .error error => .error error
      | .ok line => readFrom line rest
    | .option option none =>
      match rest with
      | [] => .error (.missingValue option)
      | value :: rest =>
        if looksLikeOption value then
          match form value with
          | .unknown shown => .error (.unexpected shown)
          | _ => .error (.missingValue option)
        else
          match line.set option value with
          | .error error => .error error
          | .ok line => readFrom line rest

/-- Read a command line. -/
def read (arguments : List String) : Except CommandLineError CommandLine :=
  readFrom empty arguments

end CommandLine

end BotHost
