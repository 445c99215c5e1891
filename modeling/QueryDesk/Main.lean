import QueryDesk.CommandLine

/-!
# The program

Reads the files that the command names and prints what comes of it. Listening on the network is left to a
host that calls the service.
-/

open QueryDesk

namespace QueryDesk.Program

/-- A file that may not be there, as its text or the reason. -/
def readText (name : String) : IO (Except String String) := do
  try
    return .ok (← IO.FS.readFile name)
  catch e =>
    match e with
    | .noFileOrDirectory _ code _ => return .error ("No such file or directory (os error " ++ toString code ++ ")")
    | e => return .error (toString e)

/-- The environment variables that name a setting. -/
def overrides : IO (List (String × String)) := do
  let names :=
    ["SERVER__HOST", "SERVER__PORT", "DATAVERSE__API_VERSION", "DATAVERSE__AUTHORITY_HOST",
      "DATAVERSE__REQUEST_TIMEOUT_SECS", "DATAVERSE__CONNECT_TIMEOUT_SECS", "DATAVERSE__METADATA_CONCURRENCY",
      "QUERY__DEFAULT_PAGE_SIZE", "QUERY__MAX_PAGE_SIZE", "EXPORT__MAX_ROWS", "EXPORT__SHEET_NAME",
      "LOGGING__LEVEL", "LOGGING__JSON"].map ("APP_" ++ ·)
  names.filterMapM fun name => return (← IO.getEnv name).map (name, ·)

/-- The files a command may read, with the texts of those that are there. -/
def filesOf (command : Option Command) : IO (List (String × Except String String)) :=
  let names := match command with
    | some (.serve config) => config :: (Settings.candidates config).map Prod.fst
    | some (.compile file _ _ _) => [file]
    | _ => []
  names.mapM fun name => return (name, ← readText name)

end QueryDesk.Program

def main (arguments : List String) : IO UInt32 := do
  let files ← Program.filesOf (Command.ofArguments arguments)
  let overrides ← Program.overrides
  let outcome := Command.run
    { fileText := fun name => (files.lookup name).getD (.error "not read")
      settings := fun name =>
        Settings.load (fun n => (files.lookup n).bind Except.toOption) name overrides
      listen := fun _ => some "Function not implemented (os error 38)" }
    arguments
  if outcome.output != "" then IO.println outcome.output
  if outcome.errors != "" then IO.eprintln outcome.errors
  return outcome.code.toUInt32
