/-
Scalars, from the place where they begin to the text they stand for. Plain and quoted scalars are
words with gaps between them, and a gap that reaches over a line is folded. Block scalars are whole
lines below an indentation; their header says how the last breaks are treated.
-/
import Hydration.Yaml.Gap
import Hydration.Text.Numeral

namespace Hydration.Yaml

-- ============================================================ quoted scalars

/-- The quotes around a scalar. Only double ones know escapes. -/
inductive Quote where
  | single
  | double
deriving DecidableEq, Repr

namespace Quote

def mark : Quote → Char
  | single => '\''
  | double => '"'

/-- Escapes that stand for one character. -/
def escapes : List (Char × Char) := [
  ('0', '\x00'), ('a', '\x07'), ('b', '\x08'), ('t', '\t'), ('\t', '\t'), ('n', '\n'),
  ('v', '\x0b'), ('f', '\x0c'), ('r', '\r'), ('e', '\x1b'), (' ', ' '), ('"', '"'), ('/', '/'),
  ('\\', '\\'), ('N', '\u0085'), ('_', '\u00a0'), ('L', '\u2028'), ('P', '\u2029')]

/-- Escapes that are followed by so many hexadecimal digits. -/
def longEscapes : List (Char × Nat) := [('x', 2), ('u', 4), ('U', 8)]

/-- The character whose code point the digits give. -/
def codePoint? (digits : List Char) : Option Char :=
  match Text.natOfDigits? 16 digits with
  | some n => if n.isValidChar then some (Char.ofNat n) else none
  | none => none

/-- The escape behind a backslash: the character it stands for, and how long it is. -/
def escape? (rest : List Char) : Option (Char × Nat) :=
  match rest with
  | [] => none
  | letter :: digits =>
    match escapes.lookup letter, longEscapes.lookup letter with
    | some c, _ => some (c, 1)
    | none, some count =>
      if digits.length < count then none
      else (codePoint? (digits.take count)).map fun c => (c, count + 1)
    | none, none => none

/-- Reads a word and stops before white space or the closing quote, or behind a line break that is
escaped; the flag says that it was the latter. -/
def word? (quote : Quote) : Nat → Cursor → Option (List Char × Bool × Cursor)
  | 0, cursor => some ([], false, cursor)
  | fuel + 1, cursor =>
    let more (c : Char) (length : Nat) : Option (List Char × Bool × Cursor) :=
      (word? quote fuel (cursor.skip length)).map fun (text, rest) => (c :: text, rest)
    match quote, cursor.rest with
    | _, [] => some ([], false, cursor)
    | .single, '\'' :: '\'' :: _ => more '\'' 2
    | .double, '\\' :: rest =>
      match (cursor.skip 1).readBreak?, escape? rest with
      | some (_, next), _ => some ([], true, next)
      | none, some (c, length) => more c (length + 1)
      | none, none => none
    | _, c :: _ =>
      if isGap c || c = quote.mark then some ([], false, cursor) else more c 1

/-- Reads the words up to the closing quote. A mark of the document could stand in front of a word, so
that four characters have to be in sight there. At the end of a word it takes two to tell a quote
from a doubled one, but behind an escaped line break none is expected. -/
def wordsFrom? (quote : Quote) : Nat → Cursor → Option (List Char × Cursor)
  | 0, _ => none
  | fuel + 1, cursor =>
    if !cursor.inSight 4 || cursor.atDocumentEdge || cursor.rest.isEmpty then none
    else
      match word? quote cursor.rest.length cursor with
      | none => none
      | some (word, joined, afterWord) =>
        if !joined && !afterWord.inSight 2 then none
        else if afterWord.sees quote.mark then some (word, afterWord.skip 1)
        else
          match Gap.read? 0 joined afterWord with
          | none => none
          | some (gap, afterGap) =>
            (wordsFrom? quote fuel afterGap).map fun (words, close) =>
              (word ++ gap.fold ++ words, close)

/-- Reads a quoted scalar, from its opening quote on. -/
def read? (quote : Quote) (cursor : Cursor) : Option (List Char × Cursor) :=
  wordsFrom? quote cursor.rest.length (cursor.skip 1)

end Quote

-- ============================================================ plain scalars

/-- What surrounds a value: the open flow collections, and the indentation that its further lines
have to keep. -/
structure Surroundings where
  inFlow : Bool
  indent : Nat

namespace Plain

/-- A plain scalar ends before a colon that ends a key, and inside a flow collection before any of
its marks. -/
def endsWord (around : Surroundings) (c : Char) (rest : List Char) : Bool :=
  (c = ':' && rest.head?.all isGap) || (around.inFlow && isFlowMark c)

/-- Inside a flow collection a colon must not be followed directly by one of its marks. -/
def badColon (around : Surroundings) (c : Char) (rest : List Char) : Bool :=
  around.inFlow && c = ':' && rest.head?.any fun next => isFlowMark next || next = '?'

/-- Reads one word. -/
def word? (around : Surroundings) : List Char → Option (List Char)
  | [] => some []
  | c :: rest =>
    if isGap c then some []
    else if badColon around c rest then none
    else if endsWord around c rest then some []
    else (word? around rest).map (c :: ·)

/-- Reads the words behind a gap. Gives the text with the gaps folded, the place behind it, and
whether a line break was passed since the last word. In front of a word four characters have to be in
sight, two at its end, where a colon may stand, and one behind the last gap. -/
def wordsFrom? (around : Surroundings) :
    Nat → Gap → Cursor → Option (List Char × Bool × Cursor)
  | 0, gap, cursor => some ([], gap.crossesLine, cursor)
  | fuel + 1, gap, cursor =>
    if !cursor.inSight 4 then none
    else if cursor.atDocumentEdge || cursor.sees '#' then some ([], gap.crossesLine, cursor)
    else
      match word? around cursor.rest with
      | none => none
      | some [] => some ([], gap.crossesLine, cursor)
      | some word =>
        let text := gap.fold ++ word
        let afterWord := cursor.skip word.length
        if !afterWord.inSight 2 then none
        else if !(afterWord.peek?.any isGap) then some (text, false, afterWord)
        else
          match Gap.read? around.indent false afterWord with
          | none => none
          | some (next, afterGap) =>
            if !afterGap.inSight 1 then none
            else if !around.inFlow && afterGap.column < around.indent then
              some (text, next.crossesLine, afterGap)
            else
              (wordsFrom? around fuel next afterGap).map fun (words, rest) =>
                (text ++ words, rest)

/-- Reads a plain scalar. -/
def read? (around : Surroundings) (cursor : Cursor) : Option (List Char × Bool × Cursor) :=
  wordsFrom? around (cursor.rest.length + 1) Gap.empty cursor

end Plain

-- ============================================================ block scalars

/-- What becomes of the breaks at the end of a block scalar: none is kept, the first, or all. -/
inductive Chomping where
  | strip
  | clip
  | keep
deriving DecidableEq, Repr

/-- The line in front of a block scalar. -/
structure BlockHeader where
  /-- Breaks between lines stay as they are. -/
  literal : Bool
  chomping : Chomping
  /-- The indentation relative to the surroundings, where it is given. -/
  increment : Option Nat

namespace BlockHeader

def chomping? (cursor : Cursor) : Option (Chomping × Cursor) :=
  match cursor.peek? with
  | some '+' => some (.keep, cursor.skip 1)
  | some '-' => some (.strip, cursor.skip 1)
  | _ => none

def increment? (cursor : Cursor) : Option (Nat × Cursor) :=
  match cursor.peek? with
  | some c => if Text.isDigit c then some (c.toNat - '0'.toNat, cursor.skip 1) else none
  | none => none

/-- The two hints, in either order. -/
def hints (cursor : Cursor) : Option Chomping × Option Nat × Cursor :=
  match chomping? cursor with
  | some (chomping, next) =>
    match increment? next with
    | some (increment, last) => (some chomping, some increment, last)
    | none => (some chomping, none, next)
  | none =>
    match increment? cursor with
    | some (increment, next) =>
      match chomping? next with
      | some (chomping, last) => (some chomping, some increment, last)
      | none => (none, some increment, next)
    | none => (none, none, cursor)

/-- Reads the header and its line break. An indentation of zero is refused. -/
def read? (cursor : Cursor) : Option (BlockHeader × Cursor) :=
  let (chomping, increment, afterHints) := hints (cursor.skip 1)
  let afterBlanks := afterHints.skipWhile isSpace
  let lineEnd := if afterBlanks.sees '#' then afterBlanks.skipLine else afterBlanks
  if increment = some 0 then none
  else
    let header := ⟨cursor.sees '|', chomping.getD .clip, increment⟩
    match lineEnd.readBreak?, lineEnd.peek? with
    | some (_, next), _ => some (header, next)
    | none, none => some (header, lineEnd)
    | none, some _ => none

end BlockHeader

namespace Block

/-- Blank lines: passes spaces up to the indentation, where it is known, and line breaks. Gives the
breaks and the widest run of spaces; a tab in place of indentation is refused. -/
def blankLines? (indent : Option Nat) : Nat → Nat → Cursor → Option (List Char × Nat × Cursor)
  | 0, widest, cursor => some ([], widest, cursor)
  | fuel + 1, widest, cursor =>
    let spaces := (cursor.rest.takeWhile (· = ' ')).length
    let passed := match indent with
      | some indent => cursor.skip (min spaces (indent - cursor.column))
      | none => cursor.skip spaces
    let widest := max widest passed.column
    let inIndent := indent.all (passed.column < ·)
    if inIndent && passed.sees '\t' then none
    else
      match passed.readBreak? with
      | none => some ([], widest, passed)
      | some (c, next) =>
        (blankLines? indent fuel widest next).map fun (breaks, rest) => (c :: breaks, rest)

/-- The break between two lines of a folded scalar: it becomes a space, or goes where blank lines
follow. It stays where one of the lines begins with white space. -/
def joinLines (literal more : Bool) (lineBreak blankBreaks : List Char) : List Char :=
  if !literal && more && lineBreak.head? = some '\n' then
    if blankBreaks.isEmpty then [' '] else blankBreaks
  else lineBreak ++ blankBreaks

/-- Reads the lines of a block scalar. `flat` says whether the line before began without white space;
`lineBreak` is its break and `blankBreaks` are those of the blank lines behind it. -/
def linesFrom? (header : BlockHeader) (indent : Nat) :
    Nat → Bool → List Char → List Char → Cursor → Option (List Char × Cursor)
  | 0, _, _, _, _ => none
  | fuel + 1, flat, lineBreak, blankBreaks, cursor =>
    if cursor.column = indent ∧ cursor.rest ≠ [] then
      let startsFlat := !(cursor.peek?.any isSpace)
      let between := joinLines header.literal (flat && startsFlat) lineBreak blankBreaks
      let (line, lineEnd) := cursor.readWhile fun c => !isBreak c
      let (nextBreak, nextLine) := match lineEnd.readBreak? with
        | some (c, next) => ([c], next)
        | none => ([], lineEnd)
      match blankLines? (some indent) (nextLine.rest.length + 1) 0 nextLine with
      | none => none
      | some (breaks, _, next) =>
        (linesFrom? header indent fuel startsFlat nextBreak breaks next).map fun (text, last) =>
          (between ++ line ++ text, last)
    else
      match header.chomping with
      | .strip => some ([], cursor)
      | .clip => some (lineBreak, cursor)
      | .keep => some (lineBreak ++ blankBreaks, cursor)

/-- Reads a block scalar, from its mark on. `parent` is the indentation of the collection around it.
Without an indentation in the header the first line that is not blank gives it. -/
def read? (parent : Option Nat) (cursor : Cursor) : Option (List Char × Cursor) := do
  let (header, next) ← BlockHeader.read? cursor
  let indent := header.increment.map fun increment => parent.getD 0 + increment
  let (breaks, widest, first) ← blankLines? indent (next.rest.length + 1) 0 next
  let least := match parent with
    | some parent => parent + 1
    | none => 0
  let indent := indent.getD (max (max widest least) 1)
  linesFrom? header indent (first.rest.length + 1) true [] breaks first

end Block

end Hydration.Yaml
