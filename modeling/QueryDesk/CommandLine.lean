import QueryDesk.OData.Options
import QueryDesk.Query.Json
import QueryDesk.Settings.File

/-!
# The command line

`Command.ofArguments` reads what is asked for, `Command.outcome` says what comes of it. Files, settings and
the network are given to it as functions.
-/

namespace QueryDesk

/-- An option of a command. -/
structure OptionSpec where
  name : String
  short : Option Char
  takesValue : Bool
  /-- the values it takes -/
  accepts : String → Bool := fun _ => true

/-- What a command is given: help is asked for, or options with their values. -/
inductive Given
  | help
  | options (values : List (String × String))
  deriving DecidableEq, Repr

namespace OptionSpec

/-- Whether an argument is an option and cannot be the value of one. -/
def isOption (argument : String) : Bool := argument.toList.head? == some '-' && argument != "-"

/-- The name of a long option and the value that is attached to it. -/
def splitAttached (cs : List Char) : String × Option String :=
  match cs.dropWhile (· != '=') with
  | [] => (String.ofList cs, none)
  | _ :: value => (String.ofList (cs.takeWhile (· != '=')), some (String.ofList value))

/-- The value attached to a short option. An equality sign in front of it does not count. -/
def shortValue : List Char → Option String
  | [] => none
  | '=' :: value => some (String.ofList value)
  | value => some (String.ofList value)

/-- The option an argument names, with the value attached to it. -/
def named? (specs : List OptionSpec) (argument : String) : Option (OptionSpec × Option String) :=
  match argument.toList with
  | '-' :: '-' :: cs =>
    let (name, value) := splitAttached cs
    (specs.find? (·.name == name)).map (·, value)
  | '-' :: c :: cs => (specs.find? (·.short == some c)).map (·, shortValue cs)
  | _ => none

/-- Whether an argument asks for help. -/
def asksForHelp (argument : String) : Bool := argument == "--help" || argument.toList.take 2 == ['-', 'h']

/-- Reads the arguments of a command. An option may be given once. -/
def read (specs : List OptionSpec) (values : List (String × String)) : List String → Option Given
  | [] => some (.options values)
  | ["--"] => some (.options values)
  | a :: rest =>
    if asksForHelp a then some .help
    else
      match named? specs a with
      | none => none
      | some (spec, attached) =>
        if (values.lookup spec.name).isSome then none
        else if !spec.takesValue then
          if attached.isSome then none else read specs (values ++ [(spec.name, "")]) rest
        else
          match attached, rest with
          | some v, rest => if spec.accepts v then read specs (values ++ [(spec.name, v)]) rest else none
          | none, v :: rest =>
            if !isOption v && spec.accepts v then read specs (values ++ [(spec.name, v)]) rest else none
          | none, [] => none

end OptionSpec

/-- What the program is asked to do. -/
inductive Command
  /-- print something that is known -/
  | show (text : String)
  | serve (config : String)
  | compile (file : String) (page pageSize : Nat) (countOnly : Bool)
  /-- nothing was asked for -/
  | nothing
  deriving DecidableEq, Repr

namespace Command

/-- The number written in a text, from 1 to the largest of 32 bits. -/
def pageNumber? (s : String) : Option Nat :=
  (Setting.writtenNat? s).filter fun n => 1 ≤ n && n ≤ 4294967295

def serveOptions : List OptionSpec := [{ name := "config", short := some 'c', takesValue := true }]

def compileOptions : List OptionSpec :=
  [{ name := "file", short := some 'f', takesValue := true },
    { name := "page", short := none, takesValue := true, accepts := fun s => (pageNumber? s).isSome },
    { name := "page-size", short := none, takesValue := true,
      accepts := fun s => (pageNumber? s).isSome },
    { name := "count-only", short := none, takesValue := false }]

def lines (ls : List String) : String := "\n".intercalate ls

def help : String :=
  lines ["Builds and runs Dataverse queries through OData", "", "Usage: designer-cli [COMMAND]", "", "Commands:",
    "  serve    Run the query designer API",
    "  compile  Print the OData query string for a query definition",
    "  help     Print this message or the help of the given subcommand(s)", "", "Options:",
    "  -h, --help     Print help", "  -V, --version  Print version"]

def serveHelp : String :=
  lines ["Run the query designer API", "", "Usage: designer-cli serve [OPTIONS]", "", "Options:",
    "  -c, --config <FILE>  Sets a custom config file", "  -h, --help           Print help"]

def compileHelp : String :=
  lines ["Print the OData query string for a query definition", "",
    "Usage: designer-cli compile [OPTIONS] --file <FILE>", "", "Options:",
    "  -f, --file <FILE>            QueryDefinition JSON document",
    "      --page <page>            [default: 1]", "      --page-size <page-size>  [default: 50]",
    "      --count-only             ", "  -h, --help                   Print help"]

def helpHelp : String :=
  lines ["Print this message or the help of the given subcommand(s)", "",
    "Usage: designer-cli help [COMMAND]...", "", "Arguments:",
    "  [COMMAND]...  Print help for the subcommand(s)"]

def version : String := "Query Designer 0.1"

/-- The command to serve with the options given. -/
def serveWith : Given → Option Command
  | .help => some (.show serveHelp)
  | .options values => some (.serve ((values.lookup "config").getD "config/designer.toml"))

/-- The command to compile with the options given, of which the file is needed. -/
def compileWith : Given → Option Command
  | .help => some (.show compileHelp)
  | .options values => do
    let number (name : String) (default : Nat) : Nat := ((values.lookup name).bind pageNumber?).getD default
    return .compile (← values.lookup "file") (number "page" 1) (number "page-size" 50)
      (values.lookup "count-only").isSome

/-- The command of a list of arguments, unless they are not understood. -/
def ofArguments : List String → Option Command
  | [] | ["--"] => some .nothing
  | "serve" :: rest => (OptionSpec.read serveOptions [] rest).bind serveWith
  | "compile" :: rest => (OptionSpec.read compileOptions [] rest).bind compileWith
  | "help" :: rest =>
    [([], help), (["serve"], serveHelp), (["compile"], compileHelp), (["help"], helpHelp)].lookup rest
      |>.map .show
  | a :: _ =>
    if OptionSpec.asksForHelp a then some (.show help)
    else if a = "--version" ∨ a.toList.take 2 = ['-', 'V'] then some (.show version)
    else none

/-- What a run of the program leaves behind. -/
structure Outcome where
  code : Nat
  output : String
  errors : String
  deriving DecidableEq, Repr

/-- What a run needs from outside. -/
structure Surroundings where
  /-- the text of a file, or why it cannot be read -/
  fileText : String → Except String String
  /-- the settings in a file -/
  settings : String → Except SettingsFault Settings
  /-- answers requests at the configured place until it fails, and says why it did -/
  listen : Settings → Option String

/-- The failure of the service, if it ever ends. -/
def serveFailure (s : Surroundings) (config : String) : Option Error :=
  match s.settings config with
  | .error f => some f.toError
  | .ok settings => (s.listen settings).map .inputOutput

/-- The query string for the query in a file, or what is wrong with it. -/
def compileFile (s : Surroundings) (file : String) (page pageSize : Nat) (countOnly : Bool) :
    Except String String :=
  match s.fileText file with
  | .error why => .error ("reading query file " ++ file ++ ": " ++ why)
  | .ok text =>
    match Query.ofText text with
    | .error e => .error ("parsing query definition in " ++ file ++ ": " ++ e.message)
    | .ok q => .ok (q.compile page pageSize countOnly)

def outcome (s : Surroundings) : Command → Outcome
  | .show text => ⟨0, text, ""⟩
  | .nothing => ⟨1, "No subcommand specified. Use --help for usage information.", ""⟩
  | .serve config =>
    match serveFailure s config with
    | some e => ⟨1, "", "Query designer error: " ++ e.message⟩
    | none => ⟨0, "", ""⟩
  | .compile file page pageSize countOnly =>
    match compileFile s file page pageSize countOnly with
    | .ok text => ⟨0, text, ""⟩
    | .error message => ⟨1, "", "Compile error: " ++ message⟩

/-- What comes of arguments that are not understood. -/
def misuse : Outcome := ⟨2, "", "the arguments are not understood; try --help"⟩

/-- What a run with arguments leaves behind. -/
def run (s : Surroundings) (arguments : List String) : Outcome :=
  match ofArguments arguments with
  | some c => c.outcome s
  | none => misuse

end Command

end QueryDesk
