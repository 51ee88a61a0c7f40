import Lineflow.Files
import Lineflow.Json.Reader
import Lineflow.Settings.Error
import Lineflow.Text.Utf8

/-! # Settings files

A settings file is found by its path, or by its path with an extension more, and its extension tells
how to read it.
-/
namespace Lineflow

namespace SettingsFile

def extensions : List String := ["toml", "json", "yaml", "yml", "ini", "ron", "json5"]

/-- What follows the last point of a name that has a character before it. -/
def extension (path : String) : String :=
  let parts := ((pathParts path).getLast?.getD "").splitOn "."
  match parts with
  | [] | [_] => ""
  | ["", _] => ""
  | _ => parts.getLast?.getD ""

def withExtension? (path extension : String) : Option String :=
  let parts := pathParts path
  if parts.isEmpty || parts.getLast? == some ".." then none
  else
    let root := if path.startsWith "/" then "/" else ""
    some (root ++ "/".intercalate parts ++ "." ++ extension)

def layer? (origin extension text : String) : Option (List (String × Setting)) :=
  if extension = "toml" then (Toml.parse? text).map (Setting.ofTomlMembers origin)
  else if extension = "json" then
    match Json.parse text with
    | .ok (.obj members) => some (Setting.ofJsonMembers origin members)
    | _ => none
  else none

variable {m : Type → Type} [Monad m]

def load (files : Files m) (path : String) :
    m (Except SettingsError (List (String × Setting))) := do
  match ← files.read path with
  | .error _ => return .error (.fileNotFound path)
  | .ok content =>
    return do
      let some text := Text.ofUtf8? content | throw .notText
      let some layer := layer? ("/".intercalate (pathParts path)) (extension path) text
        | throw .malformed
      return layer

def firstFile? (files : Files m) : List String → m (Option String)
  | [] => return none
  | path :: paths => do
    if ← files.isFile path then return some path else firstFile? files paths

def find (files : Files m) (path : String) :
    m (Except SettingsError (List (String × Setting))) := do
  if ← files.isFile path then
    if extension path ∈ extensions then load files path else return .error (.unknownFormat path)
  else
    match ← firstFile? files (extensions.filterMap (withExtension? path)) with
    | some path => load files path
    | none => return .error (.fileNotFound path)

end SettingsFile

end Lineflow
