/-
Scalars written so that they are read back as the same text. A text that would be taken for something
else is quoted, one of several lines becomes a block, and what cannot be shown is escaped between
double quotes. The lines of a list lie two columns deep.
-/
import Hydration.Yaml.Plain
import Hydration.Yaml.Character

namespace Hydration.Yaml

-- ============================================================ what a text is like

/-- Characters a text may show as they are: no controls but the line feed, and no byte order mark. -/
def isShown (c : Char) : Bool :=
  let n := c.toNat
  n == 0x0A || (0x20 ≤ n && n ≤ 0x7E) || (0xA0 ≤ n && n ≤ 0xD7FF) ||
    (0xE000 ≤ n && n ≤ 0xFFFD && n != 0xFEFF) || 0x10000 ≤ n

/-- What a look at all characters of a text finds. -/
structure Features where
  /-- More than one line. -/
  multiline : Bool
  /-- It has marks that could be taken for structure. -/
  marked : Bool
  /-- A character that has to be escaped. -/
  special : Bool
  leadingSpace : Bool
  leadingBreak : Bool
  trailingSpace : Bool
  trailingBreak : Bool
  /-- A break with a space behind it. -/
  breakSpace : Bool
  /-- A space with a break behind it. -/
  spaceBreak : Bool

namespace Features

/-- Whether a character at some place could be taken for structure in a block: some begin it only as
the first character, a colon only before white space and a number sign only behind it. -/
def isMark (first : Bool) (before after : Option Char) (c : Char) : Bool :=
  let followed := after.all isGap
  let preceded := before.all isGap
  if first then
    "#,[]\x7b\x7d&*!|>'\"%@`".toList.contains c || ((c = '?' || c = ':') && followed) ||
      (c = '-' && followed)
  else (c = ':' && followed) || (c = '#' && preceded)

/-- Whether some character behind the given one could be taken for structure. -/
def hasMark (before : Option Char) : List Char → Bool
  | [] => false
  | c :: rest => isMark before.isNone before rest.head? c || hasMark (some c) rest

/-- Whether a character of one class follows directly on one of another. -/
def follows (first second : Char → Bool) : List Char → Bool
  | a :: b :: rest => (first a && second b) || follows first second (b :: rest)
  | _ => false

def isBlankChar (c : Char) : Bool := c = ' '

/-- The features of a text. The marks of a document in front of it count as structure. -/
def ofText (cs : List Char) : Features where
  multiline := cs.any isBreak
  marked := ["---".toList, "...".toList].contains (cs.take 3) || hasMark none cs
  special := cs.any fun c => !isShown c
  leadingSpace := cs.head?.any isBlankChar
  leadingBreak := cs.head?.any isBreak
  trailingSpace := cs.getLast?.any isBlankChar
  trailingBreak := cs.getLast?.any isBreak
  breakSpace := follows isBreak isBlankChar cs
  spaceBreak := follows isBlankChar isBreak cs

/-- The text can stand as it is. -/
def allowsPlain (f : Features) : Bool :=
  !(f.leadingSpace || f.leadingBreak || f.trailingSpace || f.trailingBreak || f.breakSpace ||
    f.spaceBreak || f.special || f.multiline || f.marked)

/-- The text can stand between single quotes. -/
def allowsSingle (f : Features) : Bool := !(f.breakSpace || f.spaceBreak || f.special)

/-- The text can stand as a block. -/
def allowsBlock (f : Features) : Bool := !(f.trailingSpace || f.spaceBreak || f.special)

end Features

-- ============================================================ the styles

inductive Style where
  | plain
  | single
  | double
  | literal
deriving DecidableEq, Repr

namespace Style

/-- A plain scalar with this text would be read as something else than a text, or looks like it. -/
def isAmbiguous (s : String) : Bool :=
  Plain.isPaddedDigits s.toList ||
    match Plain.resolve s with
    | .text _ => false
    | _ => true

/-- The style of a text: the simplest one that keeps it. -/
def ofText (s : String) : Style :=
  let features := Features.ofText s.toList
  let quoted : Style := if features.allowsSingle then single else double
  if s.toList.contains '\n' then if features.allowsBlock then literal else double
  else if isAmbiguous s then quoted
  else if features.allowsPlain then plain
  else quoted

-- ============================================================ writing

def hexUpper (width n : Nat) : List Char :=
  let digits := (Nat.toDigits 16 n).map Char.toUpper
  List.replicate (width - digits.length) '0' ++ digits

/-- The short escapes of the double-quoted style. -/
def shortEscapes : List (Char × Char) := [
  ('\x00', '0'), ('\x07', 'a'), ('\x08', 'b'), ('\t', 't'), ('\n', 'n'), ('\x0b', 'v'),
  ('\x0c', 'f'), ('\r', 'r'), ('\x1b', 'e'), ('"', '"'), ('\\', '\\'), ('\u0085', 'N'),
  ('\u00a0', '_'), ('\u2028', 'L'), ('\u2029', 'P')]

/-- A character between double quotes. -/
def doubleChar (c : Char) : List Char :=
  if isShown c && !isBreak c && c != '"' && c != '\\' then [c]
  else
    match shortEscapes.lookup c with
    | some letter => ['\\', letter]
    | none =>
      let n := c.toNat
      if n ≤ 0xFF then '\\' :: 'x' :: hexUpper 2 n
      else if n ≤ 0xFFFF then '\\' :: 'u' :: hexUpper 4 n
      else '\\' :: 'U' :: hexUpper 8 n

/-- Text between single quotes, with its lines at an indentation. The first break of a run is doubled,
as a reader folds it. -/
def singleChars (indent : List Char) : Bool → List Char → List Char
  | inBreaks, [] => if inBreaks then indent else []
  | inBreaks, c :: rest =>
    if isBreak c then
      let extra := if !inBreaks && c = '\n' then ['\n'] else []
      extra ++ c :: singleChars indent true rest
    else
      let start := if inBreaks then indent else []
      let quoted := if c = '\'' then ['\'', '\''] else [c]
      start ++ quoted ++ singleChars indent false rest

/-- The lines of a literal block at an indentation; blank lines are not indented. -/
def literalChars (indent : List Char) : Bool → List Char → List Char
  | _, [] => []
  | lineStart, c :: rest =>
    if isBreak c then c :: literalChars indent true rest
    else (if lineStart then indent else []) ++ c :: literalChars indent false rest

/-- The hints behind the mark of a block: the indentation, where the text itself begins with white
space, and what becomes of the breaks at its end. -/
def literalHints (cs : List Char) : List Char :=
  let indent := if cs.head?.any fun c => c = ' ' || isBreak c then ['2'] else []
  let chomping := match cs.reverse with
    | [] => ['-']
    | last :: before =>
      if !isBreak last then ['-']
      else if before.head?.all isBreak then ['+']
      else []
  indent ++ chomping

/-- A text as an entry of a list, with the end of its line. -/
def entry (s : String) : String :=
  let cs := s.toList
  let indent := [' ', ' ']
  String.ofList <|
    match ofText s with
    | plain => cs ++ ['\n']
    | single => '\'' :: singleChars indent false cs ++ ['\'', '\n']
    | double => '"' :: cs.flatMap doubleChar ++ ['"', '\n']
    | literal =>
      '|' :: literalHints cs ++ '\n' :: literalChars indent true cs ++
        (if cs.getLast?.any isBreak then [] else ['\n'])

end Style

end Hydration.Yaml
