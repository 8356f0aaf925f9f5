import HouseStyle.Workspace

/-!
# The command line

Three commands: `infer` answers what a convention is for a file,
`conventions` lists the conventions, and `help` tells how the program is used.
Options with a value are written `--name value` or `--name=value`; those for
all commands may stand before or after the command, and the later place wins.
-/

namespace HouseStyle
namespace CommandLine

/-- A command that the usage text can be about. -/
inductive Topic where
  /-- The program as a whole. -/
  | program
  | infer
  | conventions
  | help
deriving DecidableEq, Repr

/-- Why reading the arguments stops before a command is known. -/
inductive Stop where
  | wrongUsage
  | version
  | help (topic : Topic)
deriving DecidableEq, Repr

/-- The options of all commands, as far as they are given. -/
structure Options where
  /-- The folder of the workspace. -/
  workspace : Option String
  /-- How much is logged. -/
  logLevel : Option String
  /-- Logs are written as JSON. -/
  logJson : Bool
deriving DecidableEq, Repr

/-- How much can be logged. -/
def logLevels : List String :=
  ["trace", "debug", "info", "warn", "error"]

namespace Options

/-- No option is given. -/
def empty : Options where
  workspace := none
  logLevel := none
  logJson := false

/-- Takes in an option with a value, which may be given once. -/
def take? (options : Options) (name value : String) : Option Options :=
  match name with
  | "workspace" =>
      if value = "" || options.workspace.isSome then none
      else some { options with workspace := some value }
  | "log-level" =>
      if !logLevels.contains value || options.logLevel.isSome then none
      else some { options with logLevel := some value }
  | _ => none

end Options

/-- The command that is being read. -/
inductive Stage where
  /-- None yet. -/
  | outer
  /-- The command `infer`, with its convention and its file as far as they are given. -/
  | infer (convention : Option Convention) (file : Option String)
  /-- The command `conventions`. -/
  | conventions
deriving DecidableEq, Repr

/-- The topic of the usage text that is asked for at a stage. -/
def Stage.topic : Stage → Topic
  | outer => .program
  | infer _ _ => .infer
  | conventions => .conventions

/-- What has been read of the arguments. -/
structure Draft where
  /-- The options before the command. -/
  before : Options
  /-- The options after the command. -/
  after : Options
  /-- The command. -/
  stage : Stage
  /-- No further argument is an option. -/
  isPlain : Bool
  /-- The latest option before the command, if its value has not been looked at yet. -/
  pending : Option (String × String)
deriving DecidableEq, Repr

/-- A request made on the command line. -/
inductive Request where
  /-- What is a convention for a file of a workspace, the working folder if none is given? -/
  | infer (workspace : Option String) (convention : Convention) (file : String)
  /-- Which conventions are there? -/
  | conventions
deriving DecidableEq, Repr

namespace Draft

/-- Nothing has been read. -/
def empty : Draft where
  before := .empty
  after := .empty
  stage := .outer
  isPlain := false
  pending := none

/-- The options at the place that is being read. -/
def options (draft : Draft) : Options :=
  match draft.stage with
  | .outer => draft.before
  | _ => draft.after

/-- Replaces the options at the place that is being read. -/
def setOptions (draft : Draft) (options : Options) : Draft :=
  match draft.stage with
  | .outer => { draft with before := options }
  | _ => { draft with after := options }

/-- The option needs a value where it is read. -/
def needsValue (draft : Draft) (name : String) : Bool :=
  match draft.stage with
  | .infer _ _ => ["workspace", "log-level", "file"].contains name
  | _ => ["workspace", "log-level"].contains name

/-- Takes in an option with a value, which may be given once in a place. -/
def takeValue (draft : Draft) (name value : String) : Except Stop Draft :=
  match draft.stage, name with
  | .infer convention none, "file" =>
      if value = "" then .error .wrongUsage
      else .ok { draft with stage := .infer convention (some value) }
  | _, _ =>
      match draft.options.take? name value with
      | some options => .ok (draft.setOptions options)
      | none => .error .wrongUsage

/-- Looks at the value of the latest option before the command. -/
def settle (draft : Draft) : Except Stop Draft :=
  match draft.pending with
  | none => .ok draft
  | some (name, value) =>
      match draft.before.take? name value with
      | some options => .ok { draft with before := options, pending := none }
      | none => .error .wrongUsage

/-- Before a further option is read at the same place, the one before it is looked at. -/
def settleHere (draft : Draft) : Except Stop Draft :=
  match draft.stage with
  | .outer => draft.settle
  | _ => .ok draft

/--
Takes in an option whose value stands apart.  Before the command, such a value
is only looked at when the next option is read, or when all else has been read.
-/
def takeApart (draft : Draft) (name value : String) : Except Stop Draft :=
  match draft.stage with
  | .outer => do
      return { ← draft.settle with pending := some (name, value) }
  | _ => draft.takeValue name value

/-- Takes in an option without a value. -/
def takeFlag (draft : Draft) (name : String) : Except Stop Draft :=
  match name with
  | "log-json" =>
      if draft.options.logJson then .error .wrongUsage
      else .ok (draft.setOptions { draft.options with logJson := true })
  | "help" => .error (.help draft.stage.topic)
  | "version" => .error (if draft.stage = .outer then .version else .wrongUsage)
  | _ => .error .wrongUsage

/-- Takes in a short option. -/
def takeShort (draft : Draft) (letter : Char) : Except Stop Draft :=
  if letter = 'h' then .error (.help draft.stage.topic)
  else if letter = 'V' && draft.stage = .outer then .error .version
  else .error .wrongUsage

/-- Takes in an argument that is no option. -/
def takePlain (draft : Draft) (argument : String) : Except Stop Draft :=
  match draft.stage with
  | .outer =>
      if draft.isPlain then .error .wrongUsage
      else if argument = "infer" then .ok { draft with stage := .infer none none }
      else if argument = "conventions" then .ok { draft with stage := .conventions }
      else .error .wrongUsage
  | .infer none file =>
      match Convention.ofName? argument with
      | some convention => .ok { draft with stage := .infer (some convention) file }
      | none => .error .wrongUsage
  | _ => .error .wrongUsage

/-- The command `help` is being read. -/
def isHelp (draft : Draft) (argument : String) : Bool :=
  draft.stage = .outer && argument = "help"

/-- The request that the arguments make. -/
def finish (draft : Draft) : Except Stop Request := do
  let draft ← draft.settle
  match draft.stage with
  | .infer (some convention) (some file) =>
      return .infer (draft.after.workspace.or draft.before.workspace) convention file
  | .conventions => return .conventions
  | _ => throw .wrongUsage

end Draft

/-- What the command `help` asks for: it takes the name of one command, or none. -/
def helpOn : List String → Stop
  | [] => .help .program
  | ["infer"] => .help .infer
  | ["conventions"] => .help .conventions
  | ["help"] => .help .help
  | _ => .wrongUsage

/-- An argument that cannot be the value of the option before it. -/
def looksLikeOption (argument : String) : Bool :=
  match argument.toList with
  | '-' :: _ :: _ => true
  | _ => false

/-- Reads the arguments from left to right. -/
def readFrom (draft : Draft) : List String → Except Stop Draft
  | [] => .ok draft
  | argument :: rest =>
      if draft.isPlain then do
        readFrom (← draft.takePlain argument) rest
      else
        match argument.toList with
        | ['-', '-'] => readFrom { draft with isPlain := true } rest
        | '-' :: '-' :: option =>
            match Text.cutFirst? '=' option with
            | some (name, value) => do
                let draft ← draft.settleHere
                readFrom (← draft.takeValue (String.ofList name) (String.ofList value)) rest
            | none =>
                if draft.needsValue (String.ofList option) then
                  match rest with
                  | [] => .error .wrongUsage
                  | value :: further =>
                      if looksLikeOption value then
                        .error .wrongUsage
                      else do
                        readFrom (← draft.takeApart (String.ofList option) value) further
                else do
                  let draft ← draft.settleHere
                  readFrom (← draft.takeFlag (String.ofList option)) rest
        | '-' :: letter :: _ => do
            let draft ← draft.settleHere
            readFrom (← draft.takeShort letter) rest
        | _ =>
            if draft.isHelp argument then
              .error (helpOn rest)
            else do
              readFrom (← draft.takePlain argument) rest

/-- The request that arguments make. -/
def read (arguments : List String) : Except Stop Request := do
  (← readFrom .empty arguments).finish

/-- How a run ends: its exit status and what it prints. -/
structure Ending where
  /-- The exit status. -/
  status : Nat
  /-- What is printed. -/
  output : String
deriving DecidableEq, Repr

/-- The name and the version of the program. -/
def versionLine : String :=
  "tugstyle 0.1.0\n"

/-- One line of a list in a usage text: a term in a column of a given width, and what it means. -/
def listLine (width : Nat) (term meaning : String) : String :=
  "  " ++ term ++ "".pushn ' ' (width - term.length) ++ "  " ++ meaning ++ "\n"

/-- A list in a usage text under a heading. -/
def listText (heading : String) (width : Nat) (entries : List (String × String)) : String :=
  "\n" ++ heading ++ ":\n" ++
    String.join (entries.map fun entry => listLine width entry.1 entry.2)

/-- The options of all commands in a usage text. -/
def commonOptions : List (String × String) :=
  [("    --workspace <WORKSPACE>", "Workspace root directory (default: current directory)"),
   ("    --log-level <LOG_LEVEL>",
    "Log level for tracing output [default: warn] [possible values: " ++
      String.intercalate ", " logLevels ++ "]"),
   ("    --log-json", "Emit logs as JSON lines"),
   ("-h, --help", "Print help")]

/-- The list of options in a usage text. -/
def optionsText (entries : List (String × String)) : String :=
  listText "Options" 27 entries

/-- How the program or one of its commands is used. -/
def usageText : Topic → String
  | .program =>
      "Infer unwritten source style conventions from the surrounding codebase\n\n" ++
        "Usage: tugstyle [OPTIONS] <COMMAND>\n" ++
        listText "Commands" 11
          [("infer", "Infer one convention for a source file"),
           ("conventions", "List the conventions tugstyle can infer"),
           ("help", "Print this message or the help of the given subcommand(s)")] ++
        optionsText (commonOptions ++ [("-V, --version", "Print version")])
  | .infer =>
      "Infer one convention for a source file\n\n" ++
        "Usage: tugstyle infer [OPTIONS] --file <FILE> <CONVENTION>\n" ++
        listText "Arguments" 12
          [("<CONVENTION>", "Convention name (see \x60tugstyle conventions\x60)")] ++
        optionsText
          (("    --file <FILE>", "Source file, absolute or relative to the workspace") ::
            commonOptions)
  | .conventions =>
      "List the conventions tugstyle can infer\n\n" ++
        "Usage: tugstyle conventions [OPTIONS]\n" ++ optionsText commonOptions
  | .help =>
      "Print this message or the help of the given subcommand(s)\n\n" ++
        "Usage: tugstyle help [COMMAND]...\n" ++
        listText "Arguments" 12 [("[COMMAND]...", "Print help for the subcommand(s)")]

/-- The end of a run that answers; one that breaks down prints nothing. -/
def ofAnswer : Except Failure Json → Ending
  | .ok report => ⟨0, report.document⟩
  | .error .crash => ⟨Failure.crash.code, ""⟩
  | .error failure => ⟨failure.code, (Report.ofFailure failure).document⟩

/-- Answers a request on a disk. -/
def answer
    (parser : Parser)
    (disk : Disk) : Request → Except Failure Json
  | .conventions => .ok Report.conventions
  | .infer workspace convention file =>
      let folder := (workspace.map Path.ofText).getD (Path.ofNames disk.workingFolder)
      (Workspace.infer parser disk false folder (Path.ofText file) convention).map Report.ofAnswer

/-- Runs the program on a disk with given arguments. -/
def run
    (parser : Parser)
    (disk : Disk)
    (arguments : List String) : Ending :=
  match read arguments with
  | .ok request => ofAnswer (answer parser disk request)
  | .error .wrongUsage => ⟨2, ""⟩
  | .error .version => ⟨0, versionLine⟩
  | .error (.help topic) => ⟨0, usageText topic⟩

end CommandLine
end HouseStyle
