/-
The tokens of the settings language, and the tags written in it. The lines of a text and their
indentation are gone: a block collection shows as a start and an end, and every key of a mapping has
a token in front.
-/

namespace Hydration.Yaml

/-- A tag, or a part of one. It is kept in octets, as escapes in it may spell anything. -/
structure Tag where
  octets : List UInt8
deriving DecidableEq

namespace Tag

def ofString (s : String) : Tag := ⟨s.toUTF8.toList⟩

/-- The tag as text, where its octets are one. -/
def text? (tag : Tag) : Option String := String.fromUTF8? ⟨tag.octets.toArray⟩

/-- The tag up to the first octet that is zero, where a tag ends. -/
def cut (tag : Tag) : Tag := ⟨tag.octets.takeWhile (· != 0)⟩

def append (start rest : Tag) : Tag := ⟨start.octets ++ rest.octets⟩

end Tag

/-- A scalar as it was read. Only a plain one may stand for something else than a text. -/
structure Scalar where
  text : String
  plain : Bool
deriving DecidableEq

inductive Token where
  | streamEnd
  | version (major minor : Nat)
  | tagDirective (handle : String) (start : Tag)
  | documentStart
  | documentEnd
  | blockSequenceStart
  | blockMappingStart
  | blockEnd
  | flowSequenceStart
  | flowSequenceEnd
  | flowMappingStart
  | flowMappingEnd
  | blockEntry
  | flowEntry
  | key
  | value
  | alias (name : String)
  | anchor (name : String)
  /-- A tag as it is written; what the handle stands for is known to the document. -/
  | tag (handle : String) (suffix : Tag)
  | scalar (scalar : Scalar)
deriving DecidableEq

end Hydration.Yaml
