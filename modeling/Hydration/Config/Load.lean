/-
From a text or a file to a configuration. Variables are filled in before anything is read, so they
may stand for parts of the settings as well as for single values.
-/
import Hydration.Config.Check
import Hydration.Config.Placeholder

namespace Hydration

/-- What reading a file gave: its octets, or why there are none. -/
inductive FileContent where
  | octets (content : ByteArray)
  | notFound
  | isDirectory

namespace FileContent

/-- The text of a file, or why it has none. -/
def text : FileContent → Except String String
  | octets content =>
    match String.fromUTF8? content with
    | some text => .ok text
    | none => .error "stream did not contain valid UTF-8"
  | notFound => .error "No such file or directory (os error 2)"
  | isDirectory => .error "Is a directory (os error 21)"

end FileContent

namespace Config

/-- Reads a configuration. A blank text is one that says nothing. -/
def ofText (env : Environment) (text : String) : Except ConfigFault Config :=
  match interpolate env text with
  | .error names => .error (.missingVariables names)
  | .ok filled =>
    if Text.isAllBlank filled then .ok standard
    else
      match Settings.ofDocument (Yaml.Document.ofText filled.toList) with
      | .error fault => .error (.settings fault)
      | .ok settings => .ok settings.config

/-- Reads a configuration from a file, as it is written. -/
def ofFile (env : Environment) (content : FileContent) : Except ConfigFault Config :=
  match content.text with
  | .error text => .error (.file text)
  | .ok text => ofText env text

/-- Reads a configuration from a file, brings it into its effective form and checks it. -/
def load (env : Environment) (content : FileContent) : Except ConfigFault Config :=
  match ofFile env content with
  | .error fault => .error fault
  | .ok config => config.effective.check

end Config

end Hydration
