/-
The first document of a text, as the events that could be read. A fault further on does not undo
them: whoever reads the document meets its own faults first, in the order of the text.
-/
import Hydration.Yaml.Event
import Hydration.Yaml.Token.Lexer

namespace Hydration.Yaml

structure Document where
  events : Array Event
  /-- Where the value with an anchor begins. Of two entries for one number the first counts. -/
  targets : List (Nat × Nat)
  /-- The document ends well, and no other one follows. -/
  whole : Bool

namespace Document

-- ============================================================ in front of the document

/-- What the directives declare. -/
structure Declarations where
  version : Bool
  handles : Handles

/-- Reads the directives. Each may be given once, and only two versions are known. -/
def directives? (declared : Declarations) : List Token → Option (Declarations × List Token)
  | .version major minor :: rest =>
    if declared.version || major ≠ 1 || (minor ≠ 1 && minor ≠ 2) then none
    else directives? { declared with version := true } rest
  | .tagDirective handle start :: rest =>
    if (declared.handles.lookup handle).isSome then none
    else directives? { declared with handles := declared.handles ++ [(handle, start)] } rest
  | rest => some (declared, rest)

/-- Where the first document begins: the handles it declares, what is to be read, and the tokens. A
text without any document gives nothing to read. -/
def opening? (tokens : List Token) : Option (Handles × List Goal × List Token) :=
  match tokens with
  | [] => none
  | .streamEnd :: _ => some ([], [], tokens)
  | .version _ _ :: _ | .tagDirective _ _ :: _ | .documentStart :: _ =>
    match directives? ⟨false, []⟩ tokens with
    | some (declared, .documentStart :: rest) =>
      some (declared.handles ++ Event.standardHandles, [.content], rest)
    | _ => none
  | _ => some (Event.standardHandles, [.node true false], tokens)

-- ============================================================ the document itself

/-- What has been read of a document, with the numbers of the anchors. -/
structure Reading where
  events : Array Event
  anchors : List (String × Nat)
  targets : List (Nat × Nat)

/-- Gives a name the number of names known so far. -/
def Reading.withAnchor (reading : Reading) (name : String) : Reading :=
  let number := reading.anchors.length
  { reading with
    anchors := (name, number) :: reading.anchors.filter fun anchor => anchor.1 != name
    targets := (number, reading.events.size) :: reading.targets }

/-- Adds the event of a step. An alias has to refer to a known name. -/
def Reading.add? (reading : Reading) (step : Step) : Option Reading :=
  match step.event, step.anchor with
  | .alias _, some name =>
    (reading.anchors.lookup name).map fun number =>
      { reading with events := reading.events.push (.alias number) }
  | event, some name =>
    let reading := reading.withAnchor name
    some { reading with events := reading.events.push event }
  | event, none => some { reading with events := reading.events.push event }

/-- What follows the document: nothing but marks of its end, and the end of the text. -/
def endsText : List Token → Bool
  | .documentEnd :: rest => endsText rest
  | .streamEnd :: _ => true
  | _ => false

def close (reading : Reading) (whole : Bool) : Document :=
  ⟨reading.events, reading.targets, whole⟩

/-- Steps through the tokens until nothing is left to be read. -/
def run (handles : Handles) : Nat → List Goal → List Token → Reading → Document
  | 0, _, _, reading => close reading false
  | _ + 1, [], tokens, reading => close reading (endsText tokens)
  | fuel + 1, goal :: goals, tokens, reading =>
    match Event.step? handles goal goals tokens with
    | none => close reading false
    | some step =>
      match reading.add? step with
      | none => close reading false
      | some reading => run handles fuel step.goals step.rest reading

/-- Reads a text. Every token gives at most four events. -/
def ofText (text : List Char) : Document :=
  let tokens := Token.ofText text
  let nothing : Reading := ⟨#[], [], []⟩
  match opening? tokens with
  | none => close nothing false
  | some (handles, goals, rest) => run handles (4 * tokens.length + 4) goals rest nothing

end Document

end Hydration.Yaml
