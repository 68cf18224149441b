import OfflineSite.Failure

namespace OfflineSite

/-- What the program is to do. -/
inductive Mode where
  /-- Serve the content root. -/
  | assets
  /-- Run the offline cache and its proxy. -/
  | proxy
  /-- Print the script of the browser's worker. -/
  | script
  deriving Repr, DecidableEq

/-- What a command line asks for. -/
structure Invocation where
  mode : Mode := .assets
  configPath : Option String := none
  deriving Repr, DecidableEq

/-- What is wrong with a command line. -/
inductive Misuse where
  | unknownArgument (text : String)
  | missingConfigPath
  deriving Repr, DecidableEq

/-- An argument where no value is expected. -/
inductive Argument where
  | mode (mode : Mode)
  /-- The next argument names the configuration file. -/
  | config
  | help
  | unknown (text : String)
  deriving Repr, DecidableEq

def Argument.ofText (text : String) : Argument :=
  if text = "offline" then mode .proxy
  else if text = "worker-script" then mode .script
  else if text = "--config" then config
  else if text = "-h" ∨ text = "--help" then help
  else unknown text

/-- What a command line comes to. -/
inductive Command where
  | run (invocation : Invocation)
  | help
  | misuse (fault : Misuse)
  deriving Repr, DecidableEq

namespace Command

/-- Reads the arguments that are left. What came before them is in `invocation`. -/
def scan (invocation : Invocation) : List String → Command
  | [] => run invocation
  | text :: rest =>
    match Argument.ofText text, rest with
    | .mode mode, rest => scan { invocation with mode } rest
    | .config, path :: rest => scan { invocation with configPath := some path } rest
    | .config, [] => misuse .missingConfigPath
    | .help, _ => help
    | .unknown text, _ => misuse (.unknownArgument text)
  termination_by arguments => arguments.length

/-- Arguments are read from left to right, and the first that cannot be taken, or asks for help,
decides. -/
def ofArguments (arguments : List String) : Command := scan {} arguments

end Command

/-- The lines of the help text. -/
def usage : List String :=
  ["Usage: fort-serve [MODE] [OPTIONS]",
   "",
   "Modes:",
   "  (default)           Serve the content root over HTTP",
   "  offline             Run the offline cache proxy in front of the origin",
   "  worker-script       Print the browser worker script (sw.js) to stdout",
   "",
   "Options:",
   "  --config <PATH>     Load settings from a TOML file",
   "  -h, --help          Show this help",
   "",
   "Logging is controlled by RUST_LOG (default: info)."]

/-- What is printed about a misuse. -/
def Misuse.lines : Misuse → List String
  | unknownArgument text => s!"Error: unknown argument '{text}'" :: usage
  | missingConfigPath => ["Error: --config requires a value"]

/-- How a run of the program ends. -/
inductive Ending where
  /-- It did what it was asked to, and printed a text. -/
  | finished (output : String)
  | helped
  | misused (fault : Misuse)
  | failed (cause : Failure)
  deriving Repr, DecidableEq

namespace Ending

/-- The number that the program returns. -/
def code : Ending → UInt32
  | finished _ | helped => 0
  | misused _ | failed _ => 1

/-- What is on standard output. -/
def output : Ending → String
  | finished output => output
  | _ => ""

/-- Lines, each of them ended. -/
def ended (lines : List String) : String := String.join (lines.map (· ++ "\n"))

/-- What is on standard error. An address that cannot be listened on is logged instead. -/
def errors : Ending → String
  | finished _ => ""
  | helped => ended usage
  | misused fault => ended fault.lines
  | failed (.bind _ _) => ""
  | failed cause => s!"Error: {cause.kind}({cause.text})\n"

end Ending

end OfflineSite
