/-
Spans as people write them: a whole number and a unit, such as `200ms` or `5 H`. Reading forgives
blanks around the text and before the unit, and the size of letters. Writing takes the largest unit
that leaves no remainder, and drops what is less than a millisecond.
-/
import Hydration.Span.Basic
import Hydration.Text.Cut
import Hydration.Text.Lowercase

namespace Hydration

-- ============================================================ units

/-- The units in which a span is written. -/
inductive TimeUnit where
  | millisecond
  | second
  | minute
  | hour
deriving DecidableEq, Repr

namespace TimeUnit

def millis : TimeUnit → Nat
  | millisecond => 1
  | second => 1000
  | minute => 60 * 1000
  | hour => 3600 * 1000

def suffix : TimeUnit → String
  | millisecond => "ms"
  | second => "s"
  | minute => "m"
  | hour => "h"

/-- All units, in the order in which a text is tried for them: `ms` ends in the sign of another unit
and so comes first. -/
def all : List TimeUnit := [millisecond, second, minute, hour]

end TimeUnit

-- ============================================================ reading

/-- Why a text is no span. Each fault keeps the text as it was read: trimmed and in small letters. -/
inductive SpanFault where
  /-- No unit stands at the end. -/
  | unit (text : String)
  /-- What stands before the unit is no number of one word. -/
  | number (text : String)
  /-- The seconds do not fit a word. -/
  | range (text : String)
deriving DecidableEq, Repr

def SpanFault.message : SpanFault → String
  | unit text => "Invalid duration format: " ++ text
  | number text => "Invalid number in duration: " ++ text
  | range text => "Duration out of range: " ++ text

namespace Span

/-- The unit at the end of a text and what stands before it. -/
def splitUnit? (text : List Char) : Option (List Char × TimeUnit) :=
  TimeUnit.all.findSome? fun unit =>
    (Text.stripEnd? unit.suffix.toList text).map fun number => (number, unit)

/-- Reads a span. -/
def parse (s : String) : Except SpanFault Span :=
  let text := Text.lowercase (Text.trim s)
  match splitUnit? text.toList with
  | none => .error (.unit text)
  | some (number, unit) =>
    match Text.natBelow? Text.wordLimit (Text.trimChars number) with
    | none => .error (.number text)
    | some n =>
      match ofNanos? (n * unit.millis * nanosPerMilli) with
      | none => .error (.range text)
      | some span => .ok span

-- ============================================================ writing

/-- The largest unit of which a number of milliseconds is a whole multiple; zero is written in the
smallest. -/
def unitFor (millis : Nat) : TimeUnit :=
  if millis = 0 then .millisecond
  else if millis % TimeUnit.hour.millis = 0 then .hour
  else if millis % TimeUnit.minute.millis = 0 then .minute
  else if millis % TimeUnit.second.millis = 0 then .second
  else .millisecond

/-- Writes a span, cut to whole milliseconds. -/
def describe (span : Span) : String :=
  let unit := unitFor span.millis
  Text.decimal (span.millis / unit.millis) ++ unit.suffix

end Span

end Hydration
