/-
What is wrong with a configuration. The names are looked at in order, each in its trimmed form: a
blank one is one fault, any other may be too long to match ever, and may repeat one before it. Then
come the two intervals that must not be zero.
-/
import Hydration.Config.Settings
import Hydration.Text.Cut

namespace Hydration

/-- Why there is no configuration, or why one is refused. -/
inductive ConfigFault where
  /-- The file could not be read. -/
  | file (text : String)
  /-- Variables without a value, as often as they are asked for. -/
  | missingVariables (names : List String)
  | settings (fault : SettingsFault)
  | blankName
  | repeatedName (name : String)
  | longName (name : String)
  | zeroSpan (field : Field)
  | other (text : String)
deriving DecidableEq

/-- The fault in words; how a settings text is unreadable is left out. -/
def ConfigFault.message : ConfigFault → String
  | file text => "Failed to read config file: " ++ text
  | missingVariables names => "Missing environment variables: " ++ Text.quoteList names
  | settings fault => "Failed to parse YAML: " ++ fault.message?.getD ""
  | blankName => "Crawler process names must not be empty"
  | repeatedName name => "Crawler process '" ++ name ++ "' is listed more than once"
  | longName name =>
    "Crawler process name '" ++ name ++ "' is longer than " ++ Text.decimal Config.maxNameBytes ++
      " bytes and can never match"
  | zeroSpan field => "Invalid duration for '" ++ field.name ++ "': must be greater than zero"
  | other text => "Invalid configuration: " ++ text

namespace Config

/-- The faults of a name in its trimmed form, given those before it. -/
def nameFaults (earlier : List String) (name : String) : List ConfigFault :=
  if name.isEmpty then [.blankName]
  else
    (if maxNameBytes < name.utf8ByteSize then [ConfigFault.longName name] else []) ++
      (if earlier.contains name then [ConfigFault.repeatedName name] else [])

/-- The faults of a list of names in their trimmed form. -/
def namesFaults (earlier : List String) : List String → List ConfigFault
  | [] => []
  | name :: names => nameFaults earlier name ++ namesFaults (name :: earlier) names

/-- An interval between two looks must not be zero. -/
def spanFaults (field : Field) (span : Span) : List ConfigFault :=
  if span.isZero then [.zeroSpan field] else []

/-- Everything that is wrong with a configuration. -/
def faults (config : Config) : List ConfigFault :=
  namesFaults [] (config.crawlers.map Text.trim) ++
    spanFaults .requestPoll config.requestPoll ++ spanFaults .drainPoll config.drainPoll

/-- A configuration without faults, or the first one. -/
def check (config : Config) : Except ConfigFault Config :=
  match config.faults with
  | [] => .ok config
  | fault :: _ => .error fault

end Config

end Hydration
