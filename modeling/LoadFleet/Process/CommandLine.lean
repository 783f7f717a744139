/-!
# The command line

The program is called with options, a command and options of the command. Options take a value, and
may be given once. The word `help`, or `--help`, asks for the usage of the program or of a command.
-/

namespace LoadFleet

/-- What the program is asked to do. -/
inductive Command where
  /-- Run a plan, which may be given as a file. -/
  | run (plan : Option String)
  /-- Serve as a worker. -/
  | worker
  /-- Check that a worker is up, at an address that may be given. -/
  | healthcheck (endpoint : Option String)
  | version
  deriving DecidableEq

/-- A call of the program. -/
structure Invocation where
  /-- The configuration file. -/
  config : Option String
  command : Command
  deriving DecidableEq

/-- Why there is nothing to do after the command line was read. -/
inductive EarlyExit where
  /-- The usage was asked for. -/
  | usage (text : String)
  | refused (reason : String)
  deriving DecidableEq

namespace CommandLine

/-- The name of the program. -/
def program : String := "fleetbench"

/-- An option that takes a value. -/
structure Flag where
  short : Option String
  long : String
  valueName : String
  description : String

namespace Flag

/-- The spellings of an option. -/
def spellings (f : Flag) : List String := f.short.toList ++ [f.long]

/-- An option as the usage line shows it. -/
def summary (f : Flag) : String := s!"[{f.short.getD f.long} <{f.valueName}>]"

end Flag

/-- What there is to know about a command. -/
structure CommandInfo where
  name : String
  flags : List Flag
  description : String

/-- The option of the program itself. -/
def configFlag : Flag :=
  ⟨some "-c", "--config", "config", "path to the YAML configuration file"⟩

/-- The option of `run`. -/
def planFlag : Flag :=
  ⟨some "-p", "--plan", "plan",
    "path to a YAML file with the list of stages, replacing the stages of the configuration"⟩

/-- The option of `healthcheck`. -/
def endpointFlag : Flag :=
  ⟨none, "--endpoint", "endpoint", "base URL of the worker to probe"⟩

/-- The commands, in the order of the usage. -/
def commands : List CommandInfo :=
  [⟨"run", [planFlag], "run the benchmark plan against the configured workers"⟩,
    ⟨"worker", [], "serve a worker with an in-memory store over HTTP"⟩,
    ⟨"healthcheck", [endpointFlag],
      "check that a worker is up Probes the worker at the configured address unless an " ++
        "endpoint is given."⟩,
    ⟨"version", [], "print the fleetbench version"⟩]

/-! ### Usage -/

/-- The column at which descriptions start. -/
def descriptionColumn : Nat := 20

/-- The greatest width of a line. -/
def lineWidth : Nat := 80

/-- Fills a line with blanks up to the column of descriptions. -/
def indented (line : String) : String :=
  line ++ String.ofList (List.replicate (descriptionColumn - line.length) ' ')

/-- Appends words to a line, and starts a new one where it would get too long. -/
def wrap (line : String) : List String → List String
  | [] => [line]
  | word :: r =>
    if lineWidth < line.length + word.length + 1 then line :: wrap (indented "" ++ word) r
    else wrap (line ++ " " ++ word) r

/-- The lines that describe a name. -/
def described (name description : String) : List String :=
  match description.splitOn " " with
  | [] => ["  " ++ name]
  | word :: r => wrap (indented ("  " ++ name) ++ word) r

/-- The lines that describe options. -/
def flagLines (flags : List Flag) : List String :=
  flags.flatMap (fun f => described (", ".intercalate f.spellings) f.description) ++
    described "--help, help" "display usage information"

/-- The usage of the program. -/
def programUsage : String :=
  "\n".intercalate <|
    [s!"Usage: {program} {configFlag.summary} <command> [<args>]", "",
      "Distributed benchmark harness.", "", "Options:"] ++ flagLines [configFlag] ++
    ["", "Commands:"] ++ commands.flatMap (fun c => described c.name c.description) ++ [""]

/-- The usage of a command. -/
def CommandInfo.usage (c : CommandInfo) : String :=
  "\n".intercalate <|
    [" ".intercalate (["Usage:", program, c.name] ++ c.flags.map Flag.summary), "",
      c.description, "", "Options:"] ++ flagLines c.flags ++ [""]

/-! ### Reading -/

/-- What was found in a list of arguments. -/
structure Found where
  /-- The values of options by their long spelling. -/
  values : List (String × String)
  /-- Whether the usage was asked for. -/
  help : Bool
  /-- The command, and the arguments after it. -/
  command : Option (CommandInfo × List String)

/-- The words that ask for the usage. -/
def helpWords : List String := ["--help", "help"]

/-- Reads arguments up to the first command. Two dashes end the options. -/
def scan (flags : List Flag) (commands : List CommandInfo) (help ended : Bool)
    (values : List (String × String)) : List String → Except EarlyExit Found
  | [] => .ok ⟨values, help, none⟩
  | word :: r =>
    if helpWords.contains word && !ended then scan flags commands true ended values r
    else if word.startsWith "-" && !ended then
      if word = "--" then scan flags commands help true values r
      else if help then
        .error (.refused "Trailing arguments are not allowed after `help`.")
      else
        match flags.find? fun f => f.spellings.contains word, r with
        | none, _ => .error (.refused s!"Unrecognized argument: {word}")
        | some _, [] => .error (.refused s!"No value provided for option '{word}'.")
        | some f, value :: r =>
          if (values.lookup f.long).isSome then
            .error (.refused
              (s!"Error parsing option '{word}' with value '{value}': " ++
                "duplicate values provided"))
          else scan flags commands help ended ((f.long, value) :: values) r
    else
      match commands.find? fun c => c.name = word with
      | some c => .ok ⟨values, false, some (c, if help then "help" :: r else r)⟩
      | none => .error (.refused s!"Unrecognized argument: {word}")

/-- The command that a name and the values of its options stand for. -/
def commandOf (name : String) (values : List (String × String)) : Command :=
  match name with
  | "run" => .run (values.lookup planFlag.long)
  | "worker" => .worker
  | "healthcheck" => .healthcheck (values.lookup endpointFlag.long)
  | _ => .version

/-- Reads the arguments of a command. -/
def readCommand (c : CommandInfo) (args : List String) : Except EarlyExit Command := do
  let found ← scan c.flags [] false false [] args
  if found.help then throw (.usage c.usage)
  return commandOf c.name found.values

/-- The refusal of a call without a command. -/
def noCommand : String :=
  "One of the following subcommands must be present:\n" ++
    String.join (("help" :: commands.map (·.name)).map fun name => s!"    {name}\n")

/-- Reads the arguments of the program. -/
def read (args : List String) : Except EarlyExit Invocation := do
  let found ← scan [configFlag] commands false false [] args
  match found.command with
  | some (c, rest) =>
    return ⟨found.values.lookup configFlag.long, ← readCommand c rest⟩
  | none => throw (if found.help then .usage programUsage else .refused noCommand)

end CommandLine

end LoadFleet
