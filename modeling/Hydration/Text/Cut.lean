/-
What is cut away from texts: a given beginning or end, the blanks on both sides, and what goes beyond
a number of bytes.

White space is meant in the sense of the Unicode property. Every text that people write by hand — a
span of time, the name of a process, a whole settings file — is trimmed by this one rule, so a no-break
space around a name counts as a blank and a zero-width space does not. A cut to a number of bytes never
splits a character: of a character that would reach past the limit nothing is kept, and neither is
anything behind it.
-/

namespace Hydration.Text

-- ============================================================ beginnings and ends

/-- What is left of a text behind a given beginning. -/
def stripStart? : List Char → List Char → Option (List Char)
  | [], rest => some rest
  | _ :: _, [] => none
  | c :: start, d :: rest => if c = d then stripStart? start rest else none

/-- What is left of a text before a given end. -/
def stripEnd? (ending text : List Char) : Option (List Char) :=
  (stripStart? ending.reverse text.reverse).map List.reverse

-- ============================================================ blanks

/-- The 25 characters with the White_Space property. -/
def isBlank (c : Char) : Bool :=
  let n := c.toNat
  (0x09 ≤ n && n ≤ 0x0D) || n == 0x20 || n == 0x85 || n == 0xA0 || n == 0x1680 ||
    (0x2000 ≤ n && n ≤ 0x200A) || n == 0x2028 || n == 0x2029 || n == 0x202F || n == 0x205F ||
    n == 0x3000

/-- Drops the blanks at both ends. -/
def trimChars (cs : List Char) : List Char :=
  ((cs.dropWhile isBlank).reverse.dropWhile isBlank).reverse

/-- Drops the blanks at both ends of a text. -/
def trim (s : String) : String := String.ofList (trimChars s.toList)

/-- A text is blank when nothing is left of it after trimming. -/
def isAllBlank (s : String) : Bool := s.toList.all isBlank

-- ============================================================ bytes

/-- Keeps characters as long as all of them together take at most `limit` bytes. -/
def takeBytes : Nat → List Char → List Char
  | _, [] => []
  | limit, c :: cs =>
    if c.utf8Size ≤ limit then c :: takeBytes (limit - c.utf8Size) cs else []

/-- The longest beginning of a text that takes at most `limit` bytes and ends between two
characters. -/
def truncate (limit : Nat) (s : String) : String := String.ofList (takeBytes limit s.toList)

end Hydration.Text
