import Lineflow.Settings.Convert
import Lineflow.Settings.File

/-! # Settings

Settings come in layers: built-in values, a file in TOML or JSON, and environment variables. The
merged tree is then read into a record.
-/
namespace Lineflow

def Settings.ofLayers (layers : List (List (String × Setting))) :
    Except SettingsError Settings := do
  let lay (target : Setting) (layer : List (String × Setting)) := target.layOver layer
  let merged ← (layers.foldlM lay Setting.builtIn).mapError .badPath
  merged.toSettings

/-- Loads settings. The file is the one given, else the one that the environment names; with
`useVariables` off, other variables do not count. -/
def Settings.load {m : Type → Type} [Monad m] (files : Files m) (env : Environment)
    (path : Option String) (useVariables : Bool) : m (Except SettingsError Settings) := do
  let fromEnvironment := if useVariables then env.layer else []
  match path.or (env.lookup Environment.filePathName) with
  | none => return Settings.ofLayers [fromEnvironment]
  | some path =>
    match ← SettingsFile.find files path with
    | .error e => return .error e
    | .ok layer => return Settings.ofLayers [layer, fromEnvironment]

end Lineflow
