/-
White space between the words of a scalar that may run over several lines. Inside one line it stays
as it is. Where lines end it is folded: the blanks around the breaks are dropped, a single break
becomes a space, and of several the first one goes.
-/
import Hydration.Yaml.Cursor

namespace Hydration.Yaml

structure Gap where
  /-- The blanks before the first break. -/
  blanks : List Char
  /-- The breaks, in order. -/
  breaks : List Char
  /-- The gap began in a new line, because the break before it was escaped. -/
  joined : Bool

namespace Gap

/-- No white space at all. -/
def empty : Gap := ⟨[], [], false⟩

/-- The gap reaches into another line. -/
def crossesLine (gap : Gap) : Bool := gap.joined || !gap.breaks.isEmpty

/-- What is left of the gap in the text. -/
def fold (gap : Gap) : List Char :=
  if gap.joined then gap.breaks
  else
    match gap.breaks with
    | [] => gap.blanks
    | ['\n'] => [' ']
    | '\n' :: more => more
    | breaks => breaks

/-- Adds a blank, which counts only before the first break. -/
def addBlank (gap : Gap) (c : Char) : Gap :=
  if gap.crossesLine then gap else { gap with blanks := gap.blanks ++ [c] }

/-- Reads on behind the white space already met. A tab that would stand in place of the indentation
of a continued line, in a column below `indent`, is refused. -/
def readFrom? (indent : Nat) : Nat → Gap → Cursor → Option (Gap × Cursor)
  | 0, gap, cursor => some (gap, cursor)
  | fuel + 1, gap, cursor =>
    match cursor.readBreak?, cursor.peek? with
    | some (c, next), _ => readFrom? indent fuel { gap with breaks := gap.breaks ++ [c] } next
    | none, some c =>
      if !isSpace c then some (gap, cursor)
      else if c = '\t' && gap.crossesLine && cursor.column < indent then none
      else readFrom? indent fuel (gap.addBlank c) (cursor.skip 1)
    | none, none => some (gap, cursor)

/-- Reads all white space up to the next word. -/
def read? (indent : Nat) (joined : Bool) (cursor : Cursor) : Option (Gap × Cursor) :=
  readFrom? indent cursor.rest.length ⟨[], [], joined⟩ cursor

end Gap

end Hydration.Yaml
