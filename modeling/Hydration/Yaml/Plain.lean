/-
What a plain scalar stands for when no text was asked for: nothing, a truth value, a number, or after
all a text.
-/
import Hydration.Text.Quoted
import Hydration.Text.Cut
import Hydration.Decimal.Layout

namespace Hydration.Yaml

/-- What was found where something else was expected. -/
inductive Found where
  | sequence
  | mapping
  | nothing
  | truth (value : Bool)
  | integer (n : Int)
  /-- A number of more than one word. -/
  | wideInteger (n : Int)
  | float (shown : String)
  | text (s : String)
deriving DecidableEq, Repr

/-- A whole number in decimal, with its sign. -/
def showInt (n : Int) : String := (if n < 0 then "-" else "") ++ Text.decimal n.natAbs

def Found.describe : Found → String
  | sequence => "sequence"
  | mapping => "map"
  | nothing => "unit value"
  | truth value => "boolean `" ++ (if value then "true" else "false") ++ "`"
  | integer n => "integer `" ++ showInt n ++ "`"
  | wideInteger n => "integer `" ++ showInt n ++ "` as " ++ (if n < 0 then "i128" else "u128")
  | float shown => "floating point `" ++ shown ++ "`"
  | text s => "string " ++ Text.quote s

namespace Plain

-- ============================================================ nothing, truth values

def isNull (s : String) : Bool := ["null", "Null", "NULL", "~"].contains s

def truth? (s : String) : Option Bool :=
  if ["true", "True", "TRUE"].contains s then some true
  else if ["false", "False", "FALSE"].contains s then some false
  else none

-- ============================================================ whole numbers

/-- Digits that begin with a superfluous zero; unless a tag asks for a float they are no number. -/
def isPaddedDigits (cs : List Char) : Bool :=
  let digits := match cs with
    | '-' :: rest | '+' :: rest => rest
    | _ => cs
  match digits with
  | '0' :: rest => !rest.isEmpty && rest.all Text.isDigit
  | _ => false

/-- The bases that a mark in front of the digits can choose. -/
def basis? : List Char → Option (Nat × List Char)
  | '0' :: 'x' :: rest => some (16, rest)
  | '0' :: 'o' :: rest => some (8, rest)
  | '0' :: 'b' :: rest => some (2, rest)
  | _ => none

/-- The magnitude of a whole number without its sign. -/
def magnitude? (cs : List Char) : Option Nat :=
  match basis? cs with
  | some (base, digits) => Text.natOfDigits? base digits
  | none => if isPaddedDigits cs then none else Text.natOfDigits? 10 cs

/-- A whole number of at most 128 bits. -/
def integer? (cs : List Char) : Option Int :=
  let n : Option Int := match cs with
    | '-' :: rest => (magnitude? rest).map fun n => -(n : Int)
    | '+' :: rest => (magnitude? rest).map Int.ofNat
    | _ => (magnitude? cs).map Int.ofNat
  n.bind fun n => if -(1 <<< 127 : Nat) ≤ n ∧ n < (1 <<< 128 : Nat) then some n else none

/-- A whole number as it is shown: wider ones are marked. -/
def foundInteger (n : Int) : Found :=
  if -(1 <<< 63 : Nat) ≤ n ∧ n < (1 <<< 64 : Nat) then .integer n else .wideInteger n

-- ============================================================ other numbers

/-- The exponent behind the digits, and whether the rest of the text is one. -/
def exponent? : List Char → Option Int
  | [] => some 0
  | c :: rest =>
    if c = 'e' ∨ c = 'E' then
      match rest with
      | '-' :: digits => (Text.natOfDigits? 10 digits).map fun n => -(n : Int)
      | '+' :: digits => (Text.natOfDigits? 10 digits).map Int.ofNat
      | digits => (Text.natOfDigits? 10 digits).map Int.ofNat
    else none

/-- The digits before and behind the point, as one number, the number of those behind it, and the
exponent. At least one digit is needed. -/
def decimal? (cs : List Char) : Option (Nat × Int) :=
  let whole := cs.takeWhile Text.isDigit
  let afterWhole := cs.dropWhile Text.isDigit
  let (fraction, rest) := match afterWhole with
    | '.' :: tail => (tail.takeWhile Text.isDigit, tail.dropWhile Text.isDigit)
    | _ => ([], afterWhole)
  match Text.natOfDigits? 10 (whole ++ fraction), exponent? rest with
  | some digits, some exponent => some (digits, exponent - fraction.length)
  | _, _ => none

/-- The magnitude nearest to a decimal number. One whose exponent is out of all proportion is told
from its size alone. -/
def nearest? (digits : Nat) (exponent : Int) : Option Decimal.Binary :=
  let size := (Text.decimal digits).length + exponent
  if digits = 0 ∨ size < -400 then some ⟨0, Decimal.Binary.leastExponent⟩
  else if 400 < size then none
  else Decimal.Binary.nearest? (digits * Nat.pow 10 exponent.toNat) (Nat.pow 10 (-exponent).toNat)

/-- A finite number, in the positional layout. -/
def finite? (cs : List Char) : Option String :=
  let (sign, unsigned) := match cs with
    | '-' :: rest => ("-", rest)
    | '+' :: rest => ("", rest)
    | _ => ("", cs)
  match decimal? unsigned with
  | none => none
  | some (digits, exponent) =>
    (nearest? digits exponent).map fun b => sign ++ (Decimal.shortest .up b).positional

/-- A number of any form, one of the infinities, or what is called no number. -/
def float? (s : String) : Option String :=
  if [".inf", ".Inf", ".INF", "+.inf", "+.Inf", "+.INF"].contains s then some "inf"
  else if ["-.inf", "-.Inf", "-.INF"].contains s then some "-inf"
  else if [".nan", ".NaN", ".NAN"].contains s then some "NaN"
  else finite? s.toList

-- ============================================================ together

/-- What a plain scalar stands for. -/
def resolve (s : String) : Found :=
  if s.isEmpty || isNull s then .nothing
  else if isPaddedDigits s.toList then .text s
  else
    match truth? s, integer? s.toList, float? s with
    | some value, _, _ => .truth value
    | none, some n, _ => foundInteger n
    | none, none, some shown => .float shown
    | none, none, none => .text s

end Plain

end Hydration.Yaml
