/-
32-bit words used as sets of flags: bit positions, and the text that shows a word by the names of
its bits.
-/
import Hydration.Text.Quoted

namespace Hydration.Bits

/-- The word with a single bit set. -/
def single (position : Nat) : UInt32 := UInt32.ofNat (1 <<< position)

/-- The word with the bits at the given positions set. -/
def ofPositions (positions : List Nat) : UInt32 :=
  positions.foldr (fun position word => single position ||| word) 0

/-- Whether the bit at a position is set. -/
def isSet (word : UInt32) (position : Nat) : Bool := word.toNat.testBit position

/-- A number in hexadecimal, with its mark in front. -/
def hex (n : Nat) : String := "0x" ++ String.ofList (Text.hexDigits n)

/-- Shows a word as `label(NAME | NAME | 0x…)`: the names of the set bits in the order of the table,
then the bits without a name as one hexadecimal number. An empty word is shown as zero. -/
def describe (label : String) (names : List (String × Nat)) (word : UInt32) : String :=
  let shown := (names.filter fun entry => isSet word entry.2).map (·.1)
  let rest := word &&& ~~~(ofPositions (names.map (·.2)))
  let parts := if rest = 0 then shown else shown ++ [hex rest.toNat]
  label ++ "(" ++ (if parts.isEmpty then hex 0 else " | ".intercalate parts) ++ ")"

end Hydration.Bits
