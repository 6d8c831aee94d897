/-
Small letters for a whole text. All characters but two are mapped one by one; the dotted capital I
becomes an i with a dot above it, and a capital sigma is written as a final one at the end of a word.

A word ends where no letter with case follows, characters that merely stand inside words being
passed over; and the sigma must have such a letter before it, so that a lone sigma stays an
ordinary one.
-/
import Hydration.Text.LetterCase

namespace Hydration.Text

-- ============================================================ one character

/-- The small form of a character on its own. -/
def lowerChar (c : Char) : Char :=
  if c.toNat < 0x80 then c.toLower
  else
    match capitalRuns.findSome? (·.small? c.toNat) with
    | some n => Char.ofNat n
    | none => c

-- ============================================================ words

/-- Letters that have case. -/
def isCased (c : Char) : Bool :=
  c.isAlpha || casedRanges.any fun range => range.1 ≤ c.toNat && c.toNat ≤ range.2

/-- Characters that stand inside a word without ending it: apostrophes, full stops, accents. -/
def isCaselessMark (c : Char) : Bool :=
  caselessMarkRanges.any fun range => range.1 ≤ c.toNat && c.toNat ≤ range.2

/-- The first character that is no mark is a letter with case. -/
def startsCased (cs : List Char) : Bool :=
  match cs.dropWhile isCaselessMark with
  | c :: _ => isCased c
  | [] => false

/-- The small form of a capital sigma between `before`, which is read backwards, and `after`. -/
def lowerSigma (before after : List Char) : Char :=
  if startsCased before && !startsCased after then 'ς' else 'σ'

-- ============================================================ the whole text

/-- Writes the text in small letters; `before` holds the characters already passed, last first. -/
def lowerFrom (before : List Char) : List Char → List Char
  | [] => []
  | c :: after =>
    let small :=
      if c = 'Σ' then [lowerSigma before after]
      else if c = 'İ' then ['i', '\u0307']
      else [lowerChar c]
    small ++ lowerFrom (c :: before) after

/-- The text in small letters. -/
def lowercase (s : String) : String := String.ofList (lowerFrom [] s.toList)

end Hydration.Text
