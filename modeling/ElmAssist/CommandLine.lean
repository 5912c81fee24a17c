/-
  The command line.

  `CommandLine.parse` reads the arguments from left to right.  The first request
  for help or for the version, or the first error, decides; otherwise the server
  is started with the options given.
-/
import ElmAssist.Project.PackageCache
import ElmAssist.Server.Dispatch

namespace ElmAssist.CommandLine

/-- The options of the server. -/
structure Options where
  logLevel : Option String := none
  noColor : Bool := false
  noFileLogging : Bool := false
  elmHome : Option String := none
  deriving DecidableEq, Repr

/-- What the arguments ask for. -/
inductive Request where
  /-- To print a text and stop. -/
  | print (text : String)
  /-- To start the server. -/
  | serve (options : Options)
  /-- Nothing sensible. -/
  | usageError
  deriving DecidableEq, Repr

/-- The help text. -/
def helpText : String :=
  "Language server offering completion for Elm projects\n\n" ++
  "Usage: elm-completion-server [OPTIONS]\n\n" ++
  "Options:\n" ++
  "      --log-level <LOG_LEVEL>  Log level for stderr (overrides RUST_LOG), e.g. \"debug\" or " ++
    "\"elm_completion_server=trace\"\n" ++
  "      --no-color               Disable ANSI colors in stderr logs\n" ++
  "      --no-file-logging        Do not write a session log file to the user cache directory\n" ++
  "      --elm-home <DIR>         Root of the Elm package cache (defaults to $ELM_HOME, then " ++
    "~/.elm)\n" ++
  "  -h, --help                   Print help\n" ++
  "  -V, --version                Print version\n"

/-- The text that names the version. -/
def versionText : String :=
  Server.serverName ++ " " ++ Server.serverVersion ++ "\n"

/-- A long option cut at its equals sign. -/
def splitOption (arg : String) : String × Option String :=
  let cs := arg.toList
  match cs.dropWhile (· != '=') with
  | [] => (arg, none)
  | _ :: value => (String.ofList (cs.takeWhile (· != '=')), some (String.ofList value))

/-- Whether an argument may be the value of the option in front of it: a lone
    hyphen may, anything else that starts with one may not. -/
def isValue (arg : String) : Bool :=
  !Text.begins arg "-" || arg == "-"

/-- Sets the value of an option, which may be given only once.  A directory is not
    empty. -/
def setValue (o : Options) (name value : String) : Option Options :=
  if name = "--log-level" then
    if o.logLevel.isSome then none else some { o with logLevel := some value }
  else if o.elmHome.isSome || value.isEmpty then none
  else some { o with elmHome := some value }

/-- Sets a switch, which may be given only once and takes no value. -/
def setSwitch (o : Options) (name : String) : Option Options :=
  if name = "--no-color" then if o.noColor then none else some { o with noColor := true }
  else if o.noFileLogging then none
  else some { o with noFileLogging := true }

/-- What a group of short options asks for. -/
def shortOption (arg : String) : Request :=
  if Text.begins arg "-h" then .print helpText
  else if Text.begins arg "-V" then .print versionText
  else .usageError

/-- Reads the arguments behind those that gave the options so far. -/
def parseFrom (o : Options) : List String → Request
  | [] => .serve o
  | arg :: rest =>
    let (name, value) := splitOption arg
    if arg == "--" then if rest.isEmpty then .serve o else .usageError
    else if name == "--help" then if value.isSome then .usageError else .print helpText
    else if name == "--version" then if value.isSome then .usageError else .print versionText
    else if name == "--no-color" || name == "--no-file-logging" then
      match value, setSwitch o name with
      | none, some o => parseFrom o rest
      | _, _ => .usageError
    else if name == "--log-level" || name == "--elm-home" then
      match value, rest with
      | some value, rest =>
        match setValue o name value with
        | some o => parseFrom o rest
        | none => .usageError
      | none, value :: rest =>
        if isValue value then
          match setValue o name value with
          | some o => parseFrom o rest
          | none => .usageError
        else .usageError
      | none, [] => .usageError
    else if Text.begins arg "-" && !Text.begins arg "--" then shortOption arg
    else .usageError

/-- Reads the arguments. -/
def parse (args : List String) : Request :=
  parseFrom {} args

/-- The exit code of a request that is not to serve, or of a server that has
    stopped. -/
def Request.exitCode : Request → UInt8
  | .usageError => 2
  | _ => 0

/-- The package cache that the options and the environment choose. -/
def packages (o : Options) (elmHome : Option String) (home : Option Path) : PackageCache :=
  match o.elmHome with
  | some root => { chosenRoot := some (.ofText root), home }
  | none => PackageCache.ofEnvironment elmHome home

end ElmAssist.CommandLine
