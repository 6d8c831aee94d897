/-
What may stand in front of a value or of a whole document: anchors, aliases, tags and directives,
each read from the place where it begins.
-/
import Hydration.Yaml.Token
import Hydration.Yaml.Cursor
import Hydration.Text.Numeral

namespace Hydration.Yaml

-- ============================================================ anchors

/-- What may follow directly behind an anchor. -/
def followsAnchor (c : Char) : Bool := isGap c || "?:,]\x7d%@`".toList.contains c

/-- Reads the name of an anchor or alias behind its mark. -/
def readAnchor? (cursor : Cursor) : Option (String × Cursor) :=
  let (name, next) := (cursor.skip 1).readWhile isNameChar
  if name.isEmpty || !(next.peek?.all followsAnchor) then none
  else some (String.ofList name, next)

-- ============================================================ tags

namespace Tag

/-- The characters of a tag; the full form between angle brackets has three more. -/
def isTagChar (full : Bool) (c : Char) : Bool :=
  isNameChar c || ";/?:@&=+$.%!~*'()".toList.contains c || (full && ",[]".toList.contains c)

/-- The number of octets in a character that begins with this one. -/
def width? (octet : Nat) : Option Nat :=
  if octet < 0x80 then some 1
  else if octet / 0x20 = 0x06 then some 2
  else if octet / 0x10 = 0x0E then some 3
  else if octet / 0x08 = 0x1E then some 4
  else none

/-- An octet written as a percent sign and two hexadecimal digits. -/
def octet? : List Char → Option (Nat × List Char)
  | '%' :: high :: low :: rest =>
    (Text.natOfDigits? 16 [high, low]).map fun octet => (octet, rest)
  | _ => none

/-- The further octets of one escaped character. -/
def trail? : Nat → List Char → Option (List UInt8 × List Char)
  | 0, text => some ([], text)
  | count + 1, text =>
    match octet? text with
    | none => none
    | some (octet, rest) =>
      if octet / 0x40 = 0x02 then
        (trail? count rest).map fun (octets, last) => (UInt8.ofNat octet :: octets, last)
      else none

/-- The octets of one escaped character. -/
def escaped? (text : List Char) : Option (List UInt8 × List Char) := do
  let (first, rest) ← octet? text
  let width ← width? first
  let (octets, last) ← trail? (width - 1) rest
  some (UInt8.ofNat first :: octets, last)

/-- Reads the characters of a tag. -/
def chars? (full : Bool) : Nat → List Char → Option (List UInt8 × List Char)
  | 0, text => some ([], text)
  | fuel + 1, text =>
    match text with
    | [] => some ([], [])
    | c :: rest =>
      if !isTagChar full c then some ([], text)
      else
        let step := if c = '%' then escaped? text else some ([c.toUInt8], rest)
        match step with
        | none => none
        | some (octets, rest) =>
          (chars? full fuel rest).map fun (more, last) => (octets ++ more, last)

/-- Reads the characters of a tag from a place on. -/
def read? (full : Bool) (cursor : Cursor) : Option (Tag × Cursor) :=
  (chars? full cursor.rest.length cursor.rest).map fun (octets, rest) =>
    (⟨octets⟩, cursor.skip (cursor.rest.length - rest.length))

/-- Reads a handle: an exclamation mark, letters, and a second mark if there is one. -/
def readHandle? (cursor : Cursor) : Option (List Char × Cursor) :=
  if !cursor.sees '!' then none
  else
    let (name, next) := (cursor.skip 1).readWhile isNameChar
    if next.sees '!' then some ('!' :: name ++ ['!'], next.skip 1)
    else some ('!' :: name, next)

/-- A handle that stands for a declared beginning has a mark at both ends. -/
def isNamedHandle (handle : List Char) : Bool :=
  handle.length > 1 && handle.getLast? = some '!'

/-- Reads the tag of a value, up to white space. In a flow collection a comma may follow as well. A
tag that has to have characters may lose all of them again when it is cut. -/
def property? (inFlow : Bool) (cursor : Cursor) : Option (Token × Cursor) := do
  let (token, next) ←
    if cursor.peekAt? 1 = some '<' then do
      let (tag, next) ← read? true (cursor.skip 2)
      if tag.octets.isEmpty || !next.sees '>' then none
      else some (Token.tag "" tag.cut, next.skip 1)
    else do
      let (handle, next) ← readHandle? cursor
      let (tag, last) ← read? false next
      if isNamedHandle handle then
        if tag.octets.isEmpty then none else some (Token.tag (String.ofList handle) tag.cut, last)
      else
        let whole := (append (ofString (String.ofList (handle.drop 1))) tag).cut
        if whole.octets.isEmpty then some (Token.tag "" (ofString "!"), last)
        else some (Token.tag "!" whole, last)
  if next.gapAt 0 || (inFlow && next.sees ',') then some (token, next) else none

end Tag

-- ============================================================ directives

namespace Directive

/-- Reads a part of a version: one to nine digits. -/
def number? (cursor : Cursor) : Option (Nat × Cursor) :=
  let (digits, next) := cursor.readWhile Text.isDigit
  if digits.length > 9 then none
  else (Text.natOfDigits? 10 digits).map fun n => (n, next)

def version? (cursor : Cursor) : Option (Token × Cursor) := do
  let (major, next) ← number? (cursor.skipWhile isSpace)
  if !next.sees '.' then none
  else
    let (minor, last) ← number? (next.skip 1)
    some (.version major minor, last)

/-- The declaration of a handle and of what it stands for. -/
def tag? (cursor : Cursor) : Option (Token × Cursor) := do
  let (handle, next) ← Tag.readHandle? (cursor.skipWhile isSpace)
  if handle.length > 1 && handle.getLast? != some '!' then none
  else if !(next.peek?.any isSpace) then none
  else
    let (start, last) ← Tag.read? true (next.skipWhile isSpace)
    if start.octets.isEmpty || !last.gapAt 0 then none
    else some (.tagDirective (String.ofList handle) start.cut, last)

/-- Reads a directive and the rest of its line, which may hold a comment. A line break may have two
characters, which have to be in sight. -/
def read? (cursor : Cursor) : Option (Token × Cursor) := do
  let (name, next) := (cursor.skip 1).readWhile isNameChar
  if !next.gapAt 0 then none
  else
    let (token, last) ←
      if name = "YAML".toList then version? next
      else if name = "TAG".toList then tag? next
      else none
    let afterBlanks := last.skipWhile isSpace
    let lineEnd := if afterBlanks.sees '#' then afterBlanks.skipLine else afterBlanks
    if !lineEnd.inSight 2 then none
    else
      match lineEnd.readBreak?, lineEnd.peek? with
      | some (_, start), _ => some (token, start)
      | none, none => some (token, lineEnd)
      | none, some _ => none

end Directive

end Hydration.Yaml
