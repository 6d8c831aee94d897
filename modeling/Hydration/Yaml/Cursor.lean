/-
A place in a text: what is still to be read, how far the place is from the start, and its line and
column. The distance is measured in octets and a column in characters. A line break is one step,
however it is written.

A text is looked at in portions of a fixed number of octets, and a character that may not stand in a
text spoils the portion it lies in. What comes in front of that portion can still be read, and there the
text breaks off. Where an ordinary text ends it is known that nothing follows, and where this one breaks
off nothing is known: whatever cannot be decided without looking further is a fault.
-/
import Hydration.Yaml.Character

namespace Hydration.Yaml

-- ============================================================ portions

/-- Octets of a portion. A character that does not fit any more belongs to the next one. -/
def portionSize : Nat := 16384

/-- The portions in front of the spoilt one. Carries the room left in the portion under way, and its
characters, last first. -/
def soundFrom (room : Nat) (portion : List Char) : List Char → List Char
  | [] => portion.reverse
  | c :: rest =>
    if c.utf8Size ≤ room then
      if isAllowed c then soundFrom (room - c.utf8Size) (c :: portion) rest else []
    else
      portion.reverse ++
        if isAllowed c then soundFrom (portionSize - c.utf8Size) [c] rest else []

/-- The part of a text that is not spoilt. -/
def soundPart (text : List Char) : List Char := soundFrom portionSize [] text

-- ============================================================ places

structure Cursor where
  rest : List Char
  /-- The text breaks off behind the rest. -/
  broken : Bool
  /-- Octets read so far. -/
  index : Nat
  line : Nat
  column : Nat

namespace Cursor

/-- The place before the first character. -/
def start (text : List Char) : Cursor :=
  if text.all isAllowed then ⟨text, false, 0, 0, 0⟩ else ⟨soundPart text, true, 0, 0, 0⟩

-- ============================================================ looking

def peek? (cursor : Cursor) : Option Char := cursor.rest.head?

/-- The character some places further on. -/
def peekAt? (cursor : Cursor) (offset : Nat) : Option Char := cursor.rest[offset]?

def sees (cursor : Cursor) (c : Char) : Bool := cursor.peek? = some c

/-- The next so many characters can be looked at, or it is known that there are fewer. -/
def inSight (cursor : Cursor) (count : Nat) : Bool :=
  !cursor.broken || (cursor.rest.take count).length == count

/-- Some places further on stands white space, a line break or nothing more. -/
def gapAt (cursor : Cursor) (offset : Nat) : Bool := (cursor.peekAt? offset).all isGap

/-- A line that consists of three dashes or three dots, or begins with them and white space. -/
def atDocumentMark (cursor : Cursor) (mark : Char) : Bool :=
  cursor.column == 0 && cursor.rest.take 3 == [mark, mark, mark] && cursor.gapAt 3

/-- A mark that ends whatever is being read in the document. -/
def atDocumentEdge (cursor : Cursor) : Bool :=
  cursor.atDocumentMark '-' || cursor.atDocumentMark '.'

-- ============================================================ moving

/-- The octets that characters take up. -/
def width (cs : List Char) : Nat := cs.foldl (fun octets c => octets + c.utf8Size) 0

/-- Passes characters of one line. -/
def skip (cursor : Cursor) (count : Nat) : Cursor :=
  let passed := cursor.rest.take count
  { cursor with
    rest := cursor.rest.drop count
    index := cursor.index + width passed
    column := cursor.column + passed.length }

/-- The longest run of characters of one line that belong to a class. -/
def readWhile (cursor : Cursor) (belongs : Char → Bool) : List Char × Cursor :=
  let run := cursor.rest.takeWhile belongs
  (run, cursor.skip run.length)

def skipWhile (cursor : Cursor) (belongs : Char → Bool) : Cursor := (cursor.readWhile belongs).2

/-- Passes everything up to the end of the line. -/
def skipLine (cursor : Cursor) : Cursor := cursor.skipWhile fun c => !isBreak c

/-- The start of the next line, with the break between as a text sees it: the two Unicode separators
are kept, every other break is a line feed. -/
def readBreak? (cursor : Cursor) : Option (Char × Cursor) :=
  let next (rest passed : List Char) : Cursor :=
    { cursor with rest, index := cursor.index + width passed, line := cursor.line + 1, column := 0 }
  match cursor.rest with
  | '\r' :: '\n' :: rest => some ('\n', next rest ['\r', '\n'])
  | c :: rest =>
    if c = '\u2028' ∨ c = '\u2029' then some (c, next rest [c])
    else if isBreak c then some ('\n', next rest [c])
    else none
  | [] => none

end Cursor

end Hydration.Yaml
