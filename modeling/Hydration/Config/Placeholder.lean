/-
Placeholders in a settings text: `${NAME}`, with or without a fallback. The text is cut from left to right
into single characters and placeholders; each placeholder then gives way to the variable it names,
to its own fallback, or is reported. What was filled in is never looked at again.
-/
import Hydration.Text.Numeral

namespace Hydration

/-- What the surroundings know of variables: the value of one that is set, as a text. -/
abbrev Environment := String → Option String

/-- A variable to be filled in, and the text that stands for it when it is not set. -/
structure Placeholder where
  name : String
  fallback : Option String
deriving DecidableEq, Repr

namespace Placeholder

-- ============================================================ reading

/-- The characters of a variable's name. -/
def isNameChar (c : Char) : Bool := c.isAlpha || Text.isDigit c || c = '_'

/-- What comes after the name: the closing brace, or a fallback that runs to the next one. Gives the
fallback and the rest of the text. -/
def ending? : List Char → Option (Option String × List Char)
  | '}' :: rest => some (none, rest)
  | ':' :: '-' :: rest =>
    match rest.dropWhile (· != '}') with
    | [] => none
    | _ :: after => some (some (String.ofList (rest.takeWhile (· != '}'))), after)
  | _ => none

/-- The placeholder at the beginning of a text, and the rest of the text. -/
def at? : List Char → Option (Placeholder × List Char)
  | '$' :: '{' :: text =>
    if (text.takeWhile isNameChar).head?.all Text.isDigit then none
    else
      (ending? (text.dropWhile isNameChar)).map fun ending =>
        (⟨String.ofList (text.takeWhile isNameChar), ending.1⟩, ending.2)
  | _ => none

theorem length_dropWhile_le (p : Char → Bool) (cs : List Char) :
    (cs.dropWhile p).length ≤ cs.length :=
  (List.dropWhile_suffix p).length_le

theorem length_of_ending? {text rest : List Char} {fallback : Option String}
    (h : ending? text = some (fallback, rest)) : rest.length < text.length := by
  unfold ending? at h
  split at h
  · simp only [Option.some.injEq, Prod.mk.injEq] at h
    simp [← h.2]
  · rename_i tail
    have shorter := length_dropWhile_le (· != '}') tail
    split at h
    · simp at h
    · rename_i hdrop
      simp only [Option.some.injEq, Prod.mk.injEq] at h
      rw [hdrop] at shorter
      simp only [← h.2, List.length_cons] at shorter ⊢
      omega
  · simp at h

/-- A placeholder takes up at least one character. -/
theorem length_of_at? {text rest : List Char} {p : Placeholder}
    (h : at? text = some (p, rest)) : rest.length < text.length := by
  unfold at? at h
  split at h
  · rename_i tail
    split at h
    · simp at h
    · obtain ⟨ending, found, same⟩ := Option.map_eq_some_iff.1 h
      have shorter := length_of_ending? found
      have := length_dropWhile_le isNameChar tail
      simp only [Prod.mk.injEq] at same
      simp only [← same.2, List.length_cons]
      omega
  · simp at h

end Placeholder

-- ============================================================ pieces of a text

/-- A piece of a settings text. -/
inductive Piece where
  | literal (c : Char)
  | placeholder (p : Placeholder)
deriving DecidableEq, Repr

namespace Piece

/-- Cuts a text into its pieces: at each place the placeholder that begins there, else the one
character. -/
def ofText (text : List Char) : List Piece :=
  match _h : Placeholder.at? text with
  | some (p, rest) => .placeholder p :: ofText rest
  | none =>
    match text with
    | [] => []
    | c :: rest => .literal c :: ofText rest
termination_by text.length
decreasing_by
  · exact Placeholder.length_of_at? ‹_›
  · simp

/-- The variable that has to be set for the piece and is not. -/
def missing? (env : Environment) : Piece → Option String
  | literal _ => none
  | placeholder p => if (env p.name).isNone && p.fallback.isNone then some p.name else none

/-- The text that a piece stands for. A variable that is set wins over the fallback, even when its
value is empty. -/
def fill (env : Environment) : Piece → List Char
  | literal c => [c]
  | placeholder p => (((env p.name).or p.fallback).getD "").toList

end Piece

/-- Fills in all placeholders of a text, or names every variable that is missing, in the order in
which the text asks for them. -/
def interpolate (env : Environment) (text : String) : Except (List String) String :=
  let pieces := Piece.ofText text.toList
  let missing := pieces.filterMap (Piece.missing? env)
  if missing.isEmpty then .ok (String.ofList (pieces.flatMap (Piece.fill env)))
  else .error missing

end Hydration
