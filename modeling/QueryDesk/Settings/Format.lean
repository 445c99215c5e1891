import QueryDesk.Json.Decoder
import QueryDesk.Settings.Format.Ini
import QueryDesk.Settings.Format.Json5
import QueryDesk.Settings.Format.Ron
import QueryDesk.Settings.Format.Yaml.Reader
import QueryDesk.Toml.Document

/-!
# Formats of settings files

The format of a file is told from the last part of its name. Whatever the format, a text is read into the
settings at its top; a text whose value is no table has none.
-/

namespace QueryDesk

namespace Setting

mutual
/-- The value of a setting in TOML. Dates and times are texts. -/
def ofToml : Toml → Setting
  | .bool b => .bool b
  | .integer i => .integer i
  | .number x => .number x
  | .infinite negative => .infinite negative
  | .notANumber => .notANumber
  | .text s | .moment s => .text s
  | .list xs => .list (ofTomlItems xs)
  | .table ms => .table (ofTomlMembers ms)
termination_by structural t => t

def ofTomlItems : List Toml → List Setting
  | [] => []
  | x :: xs => ofToml x :: ofTomlItems xs
termination_by structural xs => xs

def ofTomlMembers : List (String × Toml) → List (String × Setting)
  | [] => []
  | (name, v) :: ms => (name, ofToml v) :: ofTomlMembers ms
termination_by structural ms => ms
end

mutual
/-- The value of a setting in JSON. An integer of more than 63 bits is a fraction. -/
def ofJson : Json → Setting
  | .null => .nothing
  | .bool b => .bool b
  | .number (.int i) =>
    if i < 9223372036854775808 then .integer i
    else match Double.nearest? false i.toNat 1 with
      | some x => .number x
      | none => .infinite false
  | .number (.double x) => .number x
  | .text s => .text s
  | .array xs => .list (ofJsonItems xs)
  | .object ms => .table (ofJsonMembers ms)
termination_by structural j => j

def ofJsonItems : List Json → List Setting
  | [] => []
  | x :: xs => ofJson x :: ofJsonItems xs
termination_by structural xs => xs

def ofJsonMembers : List (String × Json) → List (String × Setting)
  | [] => []
  | (name, v) :: ms => (name, ofJson v) :: ofJsonMembers ms
termination_by structural ms => ms
end

end Setting

/-- A format of settings files. -/
inductive SettingsFormat
  | toml
  | json
  | yaml
  | ini
  | ron
  | json5
  deriving DecidableEq, Repr

namespace SettingsFormat

/-- The ends of names and the formats they stand for. -/
def extensions : List (String × SettingsFormat) :=
  [("toml", toml), ("json", json), ("yaml", yaml), ("yml", yaml), ("ini", ini), ("ron", ron), ("json5", json5)]

/-- The settings in a text, each by the path to it, unless it is not of the format. -/
def read (format : SettingsFormat) (text : String) : Option (Named Setting) :=
  match format with
  | toml => (Toml.parse? text).map fun t => (Setting.ofToml t).members
  | json => (Json.parse text).toOption.map fun j => (Setting.ofJson j).members
  | yaml => (Setting.Yaml.parse? text).map Setting.members
  | ini => Setting.Ini.parse? text
  | ron => (Setting.Ron.parse? text).map Setting.members
  | json5 => (Setting.Json5.parse? text).map Setting.members

end SettingsFormat

end QueryDesk
