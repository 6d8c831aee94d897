/-
A configuration written out: as a settings text, which reads back as the same configuration, and as a
JSON object.
-/
import Hydration.Config.Basic
import Hydration.Config.Settings
import Hydration.Json.Text
import Hydration.Yaml.Writer

namespace Hydration.Config

/-- The fields that are a single word, in their order, with the word. -/
def words (config : Config) : List (Field × String) := [
  (.requestPoll, config.requestPoll.describe),
  (.drainInitial, config.drainInitial.describe),
  (.drainPoll, config.drainPoll.describe),
  (.onUnreachable, config.onUnreachable.name)]

/-- The list of crawlers as a settings text. -/
def crawlersText (config : Config) : String :=
  if config.crawlers.isEmpty then Field.crawlers.name ++ ": []\n"
  else
    Field.crawlers.name ++ ":\n" ++
      String.join (config.crawlers.map fun name => "- " ++ Yaml.Style.entry name)

/-- The configuration as a settings text. -/
def toYaml (config : Config) : String :=
  config.crawlersText ++
    String.join (config.words.map fun word => word.1.name ++ ": " ++ word.2 ++ "\n")

/-- The configuration as a JSON object. -/
def toJson (config : Config) : String :=
  Json.object ((Field.crawlers.name, Json.array (config.crawlers.map Json.string)) ::
    config.words.map fun word => (word.1.name, Json.string word.2))

end Hydration.Config
