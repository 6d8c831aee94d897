/-
JSON texts: strings between double quotes, and objects, in one line or with a line for each member.
-/
import Hydration.Text.Quoted

namespace Hydration.Json

/-- The lower sixteen bits of a character in four hexadecimal digits. -/
def fourDigits (n : Nat) : List Char :=
  let digits := Text.hexDigits n
  List.replicate (4 - digits.length) '0' ++ digits

/-- A character inside a string. Only what must be escaped is. -/
def stringChar (c : Char) : List Char :=
  if c = '"' then ['\\', '"']
  else if c = '\\' then ['\\', '\\']
  else if c = '\x08' then ['\\', 'b']
  else if c = '\t' then ['\\', 't']
  else if c = '\n' then ['\\', 'n']
  else if c = '\x0c' then ['\\', 'f']
  else if c = '\r' then ['\\', 'r']
  else if c.toNat < 0x20 then '\\' :: 'u' :: fourDigits c.toNat
  else [c]

def string (s : String) : String :=
  String.ofList ('"' :: s.toList.flatMap stringChar ++ ['"'])

/-- An array of values that are written already. -/
def array (items : List String) : String := "[" ++ ",".intercalate items ++ "]"

/-- An object in one line. -/
def object (members : List (String × String)) : String :=
  "\x7b" ++ ",".intercalate (members.map fun member => string member.1 ++ ":" ++ member.2) ++ "\x7d"

/-- An object with a line for each member, two spaces deep. -/
def tallObject (members : List (String × String)) : String :=
  if members.isEmpty then "\x7b\x7d"
  else
    "\x7b\n" ++
      ",\n".intercalate (members.map fun member => "  " ++ string member.1 ++ ": " ++ member.2) ++
      "\n\x7d"

end Hydration.Json
