import Screenplay.Config.Document

/-!
# Layers of configurations

A configuration is loaded from up to three files.  Without the base there is
nothing to load.  A second file is merged over it and may define new names.  A
third one, the runtime layer, may only give new values to names that are defined by
then.  The first two may be missing or blank; the third may be missing.
-/

namespace Screenplay

/-- What is found under the path of a file. -/
inductive FileState where
  | absent
  | unreadable
  | text (content : String)
  deriving DecidableEq

/-- The state of a file with the given bytes, which have to be UTF-8. -/
def FileState.ofBytes (bytes : ByteArray) : FileState :=
  match String.fromUTF8? bytes with
  | none => .unreadable
  | some content => .text content

/-- The path of a file, with what is found there. -/
structure LayerFile where
  path : String
  state : FileState
  deriving DecidableEq

/-- The files of a configuration. -/
structure Layers where
  base : LayerFile
  gas : Option LayerFile := none
  runtime : Option LayerFile := none

namespace Layers

/-- Read a file that may be missing or blank. -/
def readOptional (file : LayerFile) : Except ConfigError (Option Config) :=
  match file.state with
  | .absent => .ok none
  | .unreadable => .error (.unreadable file.path)
  | .text content =>
      if Text.isBlankText content then .ok none else some <$> Config.ofText content

/-- Read a file that may be missing, but not blank. -/
def readRuntime (file : LayerFile) : Except ConfigError (Option Config) :=
  match file.state with
  | .absent => .ok none
  | .unreadable => .error (.unreadable file.path)
  | .text content =>
      if Text.isBlankText content then .error (.emptyFile file.path)
      else some <$> Config.ofText content

/-- Merge the second file over a configuration. -/
def applyGas (config : Config) (file : Option LayerFile) : Except ConfigError Config :=
  match file with
  | none => .ok config
  | some file => do
      match ← readOptional file with
      | none => return config
      | some layer => return config.merge layer

/-- Lay the third file over a configuration. -/
def applyRuntime (config : Config) (file : Option LayerFile) : Except ConfigError Config :=
  match file with
  | none => .ok config
  | some file => do
      match ← readRuntime file with
      | none => return config
      | some layer => config.override layer

/-- Load a configuration, if there is one. -/
def load (layers : Layers) : Except ConfigError (Option Config) := do
  match ← readOptional layers.base with
  | none => return none
  | some config => do
      let config ← applyGas config layers.gas
      some <$> applyRuntime config layers.runtime

end Layers

end Screenplay
