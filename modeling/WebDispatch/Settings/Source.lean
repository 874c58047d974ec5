import WebDispatch.Settings.Basic
import WebDispatch.Toml.Reader

/-!
# Layers of settings

Settings come from sources of different priority: texts given by the program, a file of tables,
variables of the environment. The sources are loaded in ascending order of priority, so that a
key keeps the text of the most important source that has it.

* `SettingSource.load` — the texts of one source;
* `Settings.ofSources` — all sources together.
-/

namespace WebDispatch

inductive SettingsError where
  /-- There is no such file. -/
  | missingFile
  /-- The file is no document of tables. -/
  | malformed
deriving DecidableEq, Repr

def SettingsError.message : SettingsError → String
  | .missingFile => "IO error: No such file or directory (os error 2)"
  | .malformed => "TOML error"

inductive SettingSource where
  /-- Texts given by the program. -/
  | memory (values : SettingValues)
  /-- A file by its path, with what it holds if it exists. -/
  | file (path : String) (content : Option String)
  /-- The variables whose names begin so, the rest of the name being the key. -/
  | environment (start : String) (vars : List (String × String))
deriving Repr

namespace SettingSource

/-- Sources of greater priority are loaded later. -/
def priority : SettingSource → Nat
  | .memory _ => 10
  | .file _ _ => 50
  | .environment _ _ => 100

def description : SettingSource → String
  | .memory values => "in-memory settings (" ++ toString values.size ++ " keys)"
  | .file path _ => "TOML file: " ++ path
  | .environment start _ => "environment variables (" ++ start ++ "*)"

def defaultStart : String := "CORNICE_"

def load : SettingSource → Except SettingsError SettingValues
  | .memory values => .ok values
  | .file _ none => .error .missingFile
  | .file _ (some content) =>
    match Toml.parse? content with
    | some table => .ok (.ofList (Toml.flatten table))
    | none => .error .malformed
  | .environment start vars =>
    .ok (.ofList (vars.filterMap fun (name, value) =>
      (Text.dropStart? start name).map fun key => (Text.lowercase key, value)))

end SettingSource

/-- The texts of sources, loaded one after the other onto those present. -/
def SettingValues.loadAll (values : SettingValues) :
    List SettingSource → Except SettingsError SettingValues
  | [] => .ok values
  | source :: rest =>
    match source.load with
    | .ok loaded => loadAll (values.insertAll loaded.toList) rest
    | .error e => .error e

/-- The settings that sources hold, given in any order. -/
def Settings.ofSources (sources : List SettingSource) : Except SettingsError Settings :=
  let ordered := sources.mergeSort fun a b => a.priority ≤ b.priority
  (SettingValues.loadAll {} ordered).map Settings.ofValues

end WebDispatch
