import QueryDesk.Error
import QueryDesk.Settings.Format
import QueryDesk.Settings.Override
import QueryDesk.Settings.Reader

/-!
# Settings files

`Settings.load` finds the file of a name, reads it in the format that its name ends in and puts environment
variables over it. A name that is not that of a file is tried again with the end of each format.
-/

namespace QueryDesk

/-- Why settings cannot be had. -/
inductive SettingsFault
  | noFile (name : String)
  | unknownFormat (name : String)
  | notADocument
  | unfit
  deriving DecidableEq, Repr

def SettingsFault.message : SettingsFault → String
  | .noFile name => "configuration file \"" ++ name ++ "\" not found"
  | .unknownFormat name => "configuration file \"" ++ name ++ "\" is not of a registered file format"
  | .notADocument => "the configuration file is not a document"
  | .unfit => "a setting has a value that does not fit"

def SettingsFault.toError (f : SettingsFault) : Error := .settings f.message

namespace Settings

/-- The settings of a text in a format, with environment variables put over them. -/
def ofText (format : SettingsFormat) (text : String) (overrides : List (String × String)) :
    Except SettingsFault Settings :=
  match format.read text with
  | none => .error .notADocument
  | some source =>
    let t := Setting.overlay (Setting.overlay (.table []) source) (Setting.ofVariables overrides)
    match ofTable? t with
    | none => .error .unfit
    | some s => .ok s

/-- The last part of a path. -/
def lastPart (path : List Char) : List Char := (path.reverse.takeWhile (· != '/')).reverse

/-- The format that a name ends in, behind its last point; a point in front begins no end. -/
def formatOf? (name : String) : Option SettingsFormat :=
  let cs := (lastPart name.toList).reverse
  match (cs.dropWhile (· != '.')).drop 1 with
  | [] => none
  | _ => SettingsFormat.extensions.lookup (String.ofList (cs.takeWhile (· != '.')).reverse)

/-- A path without the slashes, and the steps that stay where they are, at its end. -/
def withoutEndSteps : List Char → List Char
  | '/' :: rest => withoutEndSteps rest
  | '.' :: '/' :: rest => withoutEndSteps rest
  | cs => cs

/-- The names tried for a name that is not that of a file, with their formats. -/
def candidates (name : String) : List (String × SettingsFormat) :=
  let path := (withoutEndSteps name.toList.reverse).reverse
  if lastPart path ∈ [[], ['.'], ['.', '.']] then []
  else SettingsFormat.extensions.map fun (ending, format) => (String.ofList path ++ "." ++ ending, format)

/-- The text and the format of a settings file, where `files` has the texts of files. -/
def findFile (files : String → Option String) (name : String) : Except SettingsFault (String × SettingsFormat) :=
  match files name with
  | some text =>
    match formatOf? name with
    | some format => .ok (text, format)
    | none => .error (.unknownFormat name)
  | none =>
    match (candidates name).findSome? fun (n, format) => (files n).map (·, format) with
    | some found => .ok found
    | none => .error (.noFile name)

/-- The settings in a file, with environment variables put over them. -/
def load (files : String → Option String) (name : String) (overrides : List (String × String)) :
    Except SettingsFault Settings := do
  let (text, format) ← findFile files name
  ofText format text overrides

end Settings

end QueryDesk
