/-
From tokens to events: the shape of a document as a sequence of scalars and of starts and ends of
collections, with the places filled in where a key or a value is left out.

The grammar is read by a machine with a stack. Each step gives exactly one event, so everything up to
a fault is known even when the tokens do not form a whole document. Anchors are replaced by numbers;
a number counts the names known so far, so it belongs to a name and not to a place.
-/
import Hydration.Yaml.Token

namespace Hydration.Yaml

-- ============================================================ events

inductive Event where
  | scalar (scalar : Scalar) (tag : Option Tag)
  | sequenceStart (tag : Option Tag)
  | sequenceEnd
  | mappingStart (tag : Option Tag)
  | mappingEnd
  | alias (anchor : Nat)
deriving DecidableEq

/-- What is written in front of a value. -/
structure Properties where
  anchor : Option String
  tag : Option Tag

-- ============================================================ the machine

/-- What is to be read next inside a document. -/
inductive Goal where
  | node (block indentless : Bool)
  | content
  | blockSequence
  | indentlessSequence
  | blockMappingKey
  | blockMappingValue
  | flowSequence (first : Bool)
  | pairKey
  | pairValue
  | pairEnd
  | flowMappingKey (first : Bool)
  | flowMappingValue
  | flowMappingNoValue
deriving DecidableEq

/-- One event, with the anchor in front of it, and where the machine goes on: the goals of what is
open around, and the tokens left. -/
structure Step where
  event : Event
  anchor : Option String
  goals : List Goal
  rest : List Token

/-- The handles a document declares, and what they stand for. -/
abbrev Handles := List (String × Tag)

namespace Event

def standardHandles : Handles := [("!", Tag.ofString "!"), ("!!", Tag.ofString "tag:yaml.org,2002:")]

/-- The tag that a written one stands for. -/
def resolveTag? (handles : Handles) (handle : String) (suffix : Tag) : Option Tag :=
  if handle.isEmpty then some suffix
  else (handles.lookup handle).map fun start => start.append suffix

/-- An empty plain scalar in the place of something left out. -/
def missing (goals : List Goal) (rest : List Token) : Step :=
  ⟨.scalar ⟨"", true⟩ none, none, goals, rest⟩

/-- Reads the properties of a value, in either order. -/
def properties? (handles : Handles) : List Token → Option (Properties × List Token)
  | .anchor name :: .tag handle suffix :: rest =>
    (resolveTag? handles handle suffix).map fun tag => (⟨some name, some tag⟩, rest)
  | .anchor name :: rest => some (⟨some name, none⟩, rest)
  | .tag handle suffix :: .anchor name :: rest =>
    (resolveTag? handles handle suffix).map fun tag => (⟨some name, some tag⟩, rest)
  | .tag handle suffix :: rest =>
    (resolveTag? handles handle suffix).map fun tag => (⟨none, some tag⟩, rest)
  | rest => some (⟨none, none⟩, rest)

/-- Reads a value behind its properties, or the beginning of one that is a collection. A value that has
properties may be left out. -/
def nodeWith? (block indentless : Bool) (goals : List Goal) (properties : Properties)
    (tokens : List Token) : Option Step :=
  let step (event : Event) (goals : List Goal) (rest : List Token) : Option Step :=
    some ⟨event, properties.anchor, goals, rest⟩
  let tag := properties.tag
  let leftOut :=
    if properties.anchor.isSome || tag.isSome then step (.scalar ⟨"", true⟩ tag) goals tokens
    else none
  match tokens with
  | [] => none
  | Token.scalar content :: rest => step (.scalar content tag) goals rest
  | .flowSequenceStart :: rest => step (.sequenceStart tag) (.flowSequence true :: goals) rest
  | .flowMappingStart :: rest => step (.mappingStart tag) (.flowMappingKey true :: goals) rest
  | .blockEntry :: _ =>
    if indentless then step (.sequenceStart tag) (.indentlessSequence :: goals) tokens else leftOut
  | .blockSequenceStart :: rest =>
    if block then step (.sequenceStart tag) (.blockSequence :: goals) rest else leftOut
  | .blockMappingStart :: rest =>
    if block then step (.mappingStart tag) (.blockMappingKey :: goals) rest else leftOut
  | _ => leftOut

/-- Reads a value, or the beginning of one that is a collection. The anchor of an alias is the one it
refers to. -/
def node? (handles : Handles) (block indentless : Bool) (goals : List Goal)
    (tokens : List Token) : Option Step :=
  match tokens with
  | .alias name :: rest => some ⟨.alias 0, some name, goals, rest⟩
  | _ =>
    match properties? handles tokens with
    | some (properties, rest) => nodeWith? block indentless goals properties rest
    | none => none

/-- Reads a value, unless one of the given tokens shows that it is left out. -/
def nodeUnless? (handles : Handles) (ends : Token → Bool) (block indentless : Bool)
    (goals : List Goal) (tokens : List Token) : Option Step :=
  match tokens with
  | [] => none
  | token :: _ =>
    if ends token then some (missing goals tokens)
    else node? handles block indentless goals tokens

-- ============================================================ the grammar

def endsEntry (token : Token) : Bool := token = .blockEntry || token = .blockEnd

def endsBlockPart (token : Token) : Bool := token = .key || token = .value || token = .blockEnd

def endsIndentlessEntry (token : Token) : Bool := token = .blockEntry || endsBlockPart token

def endsPairKey (token : Token) : Bool :=
  token = .value || token = .flowEntry || token = .flowSequenceEnd

def endsPairValue (token : Token) : Bool := token = .flowEntry || token = .flowSequenceEnd

def endsFlowKey (token : Token) : Bool :=
  token = .value || token = .flowEntry || token = .flowMappingEnd

def endsFlowValue (token : Token) : Bool := token = .flowEntry || token = .flowMappingEnd

/-- Whether a token cannot stand inside a document. -/
def endsDocument : Token → Bool
  | .version _ _ | .tagDirective _ _ | .documentStart | .documentEnd | .streamEnd => true
  | _ => false

/-- The comma in front of every entry of a flow collection but the first. -/
def afterComma? (first : Bool) (tokens : List Token) : Option (List Token) :=
  match first, tokens with
  | true, tokens => some tokens
  | false, .flowEntry :: rest => some rest
  | false, _ => none

/-- Reads an entry of a flow sequence; one with a key is a mapping of its own. -/
def flowSequenceEntry? (handles : Handles) (first : Bool) (goals : List Goal)
    (tokens : List Token) : Option Step :=
  match tokens with
  | .flowSequenceEnd :: rest => some ⟨.sequenceEnd, none, goals, rest⟩
  | _ =>
    let around := .flowSequence false :: goals
    match afterComma? first tokens with
    | none => none
    | some (.flowSequenceEnd :: rest) => some ⟨.sequenceEnd, none, goals, rest⟩
    | some (.key :: rest) => some ⟨.mappingStart none, none, .pairKey :: around, rest⟩
    | some tokens => node? handles false false around tokens

/-- Reads an entry of a flow mapping up to its value. -/
def flowMappingEntry? (handles : Handles) (first : Bool) (goals : List Goal)
    (tokens : List Token) : Option Step :=
  match tokens with
  | .flowMappingEnd :: rest => some ⟨.mappingEnd, none, goals, rest⟩
  | _ =>
    match afterComma? first tokens with
    | none => none
    | some (.flowMappingEnd :: rest) => some ⟨.mappingEnd, none, goals, rest⟩
    | some (.key :: rest) =>
      nodeUnless? handles endsFlowKey false false (.flowMappingValue :: goals) rest
    | some tokens => node? handles false false (.flowMappingNoValue :: goals) tokens

/-- Reads on towards a goal. -/
def step? (handles : Handles) (goal : Goal) (goals : List Goal) (tokens : List Token) :
    Option Step :=
  match goal, tokens with
  | _, [] => none
  | .pairEnd, tokens => some ⟨.mappingEnd, none, goals, tokens⟩
  | .flowMappingNoValue, tokens => some (missing (.flowMappingKey false :: goals) tokens)
  | .node block indentless, tokens => node? handles block indentless goals tokens
  | .content, tokens => nodeUnless? handles endsDocument true false goals tokens
  | .blockSequence, .blockEntry :: rest =>
    nodeUnless? handles endsEntry true false (.blockSequence :: goals) rest
  | .blockSequence, .blockEnd :: rest => some ⟨.sequenceEnd, none, goals, rest⟩
  | .blockSequence, _ => none
  | .indentlessSequence, .blockEntry :: rest =>
    nodeUnless? handles endsIndentlessEntry true false (.indentlessSequence :: goals) rest
  | .indentlessSequence, tokens => some ⟨.sequenceEnd, none, goals, tokens⟩
  | .blockMappingKey, .key :: rest =>
    nodeUnless? handles endsBlockPart true true (.blockMappingValue :: goals) rest
  | .blockMappingKey, .blockEnd :: rest => some ⟨.mappingEnd, none, goals, rest⟩
  | .blockMappingKey, _ => none
  | .blockMappingValue, .value :: rest =>
    nodeUnless? handles endsBlockPart true true (.blockMappingKey :: goals) rest
  | .blockMappingValue, tokens => some (missing (.blockMappingKey :: goals) tokens)
  | .flowSequence first, tokens => flowSequenceEntry? handles first goals tokens
  | .pairKey, token :: rest =>
    -- the token that shows the key to be empty is passed over with it
    if endsPairKey token then some (missing (.pairValue :: goals) rest)
    else node? handles false false (.pairValue :: goals) tokens
  | .pairValue, .value :: rest =>
    nodeUnless? handles endsPairValue false false (.pairEnd :: goals) rest
  | .pairValue, tokens => some (missing (.pairEnd :: goals) tokens)
  | .flowMappingKey first, tokens => flowMappingEntry? handles first goals tokens
  | .flowMappingValue, .value :: rest =>
    nodeUnless? handles endsFlowValue false false (.flowMappingKey false :: goals) rest
  | .flowMappingValue, tokens => some (missing (.flowMappingKey false :: goals) tokens)

end Event

end Hydration.Yaml
