/-
What becomes of the placeholders in a settings text.

# One way to cut a text

How a placeholder is written is said without a reader (`Placeholder.written`), and a text is cut from left to
right at the placeholders that stand in it (`Scan`): where one begins it is taken whole, and only where none
does is the one character a literal. There is exactly one way to do this (`scan_iff`), as no text
begins with two different placeholders; the reader finds it (`Placeholder.at?_iff`).

# Filling in

What the pieces give is said piece by piece: either all of them have a text (`Fills`), or some ask for a
variable that nobody set (`Lacks`). Values are set in as they are. So a placeholder in a value stays one, and
the cut that `Fills` speaks of is that of the text alone.
-/
import Hydration.Config.Placeholder
import Hydration.Proofs.Text.Cut
import Mathlib.Data.List.Basic
import Mathlib.Tactic.Tauto

namespace Hydration

-- ============================================================ how placeholders are written

namespace Placeholder

/-- Letters and the underscore, with which a name begins. -/
def BeginsName (c : Char) : Prop := 'A' ≤ c ∧ c ≤ 'Z' ∨ 'a' ≤ c ∧ c ≤ 'z' ∨ c = '_'

/-- Characters that go on with a name. -/
def GoesOn (c : Char) : Prop := BeginsName c ∨ '0' ≤ c ∧ c ≤ '9'

/-- A placeholder that can be written: its name is one, and its fallback does not close it. -/
structure WellFormed (p : Placeholder) : Prop where
  name : ∃ first rest, p.name.toList = first :: rest ∧ BeginsName first ∧ ∀ c ∈ rest, GoesOn c
  fallback : ∀ text, p.fallback = some text → '}' ∉ text.toList

/-- What is written behind the name. -/
def writtenEnding : Option String → List Char
  | none => ['}']
  | some text => ':' :: '-' :: (text.toList ++ ['}'])

/-- The placeholder as it stands in a text. -/
def written (p : Placeholder) : List Char :=
  '$' :: '{' :: (p.name.toList ++ writtenEnding p.fallback)

-- ============================================================ the reader finds what is written

theorem goesOn_iff {c : Char} : GoesOn c ↔ isNameChar c = true := by
  have halpha : c.isAlpha = (decide ('A' ≤ c ∧ c ≤ 'Z') || (decide ('a' ≤ c) && decide (c ≤ 'z'))) := rfl
  simp only [GoesOn, BeginsName, isNameChar, Text.isDigit, halpha, Bool.or_eq_true, Bool.and_eq_true,
    decide_eq_true_eq]
  tauto

theorem beginsName_iff {c : Char} : BeginsName c ↔ isNameChar c = true ∧ Text.isDigit c = false := by
  have hdigit : BeginsName c → Text.isDigit c = false := by
    intro h
    rw [Text.isDigit, Bool.and_eq_false_iff, decide_eq_false_iff_not, decide_eq_false_iff_not]
    simp only [BeginsName, Char.le_def, UInt32.le_iff_toNat_le] at h ⊢
    rcases h with h | h | rfl
    · right
      have := h.1
      simp at this ⊢
      omega
    · right
      have := h.1
      simp at this ⊢
      omega
    · decide
  rw [← goesOn_iff]
  constructor
  · intro h
    exact ⟨.inl h, hdigit h⟩
  · rintro ⟨h | h, hnot⟩
    · exact h
    · simp [Text.isDigit, h] at hnot

/-- What is written behind a name does not go on with it. -/
theorem stops_writtenEnding (fallback : Option String) (rest : List Char) :
    ∀ c, (writtenEnding fallback ++ rest).head? = some c → isNameChar c = false := by
  intro c hc
  cases fallback with
  | none =>
      cases hc
      decide
  | some inner =>
      cases hc
      decide

/-- The end of a placeholder is read exactly where it is written. -/
theorem ending?_iff {text rest : List Char} {fallback : Option String} :
    ending? text = some (fallback, rest) ↔
      (∀ inner, fallback = some inner → '}' ∉ inner.toList) ∧ text = writtenEnding fallback ++ rest := by
  constructor
  · intro h
    unfold ending? at h
    split at h
    · cases h
      exact ⟨nofun, rfl⟩
    · next inside =>
        split at h
        · cases h
        · next c after hdrop =>
            cases h
            obtain ⟨htext, hinner, hcloses⟩ := Text.cut_iff.1 ⟨rfl, hdrop⟩
            obtain rfl : c = '}' := by simpa using hcloses c rfl
            refine ⟨?_, ?_⟩
            · rintro inner ⟨⟩ hmem
              rw [String.toList_ofList] at hmem
              simpa using hinner _ hmem
            · rw [writtenEnding, String.toList_ofList]
              simpa using htext
    · cases h
  · rintro ⟨hinner, rfl⟩
    cases fallback with
    | none => rfl
    | some inner =>
        have hcut : (inner.toList ++ '}' :: rest).takeWhile (· != '}') = inner.toList ∧
            (inner.toList ++ '}' :: rest).dropWhile (· != '}') = '}' :: rest := by
          refine Text.cut_iff.2 ⟨rfl, ?_, ?_⟩
          · intro c hc
            rw [bne_iff_ne]
            rintro rfl
            exact hinner inner rfl hc
          · rintro c ⟨⟩
            rfl
        show ending? (':' :: '-' :: (inner.toList ++ ['}'] ++ rest)) = _
        rw [List.append_assoc, List.singleton_append, ending?, hcut.1, hcut.2, String.ofList_toList]

/-- A placeholder is read exactly where it is written. -/
theorem at?_iff {text rest : List Char} {p : Placeholder} :
    at? text = some (p, rest) ↔ p.WellFormed ∧ text = p.written ++ rest := by
  constructor
  · intro h
    unfold at? at h
    split at h
    · next inside =>
        split at h
        · cases h
        · next hfirst =>
            obtain ⟨⟨fallback, after⟩, hending, hsame⟩ := Option.map_eq_some_iff.1 h
            cases hsame
            obtain ⟨hinner, hdrop⟩ := ending?_iff.1 hending
            obtain ⟨htext, hname, -⟩ := Text.cut_iff.1 ⟨rfl, hdrop⟩
            refine ⟨⟨?_, hinner⟩, ?_⟩
            · cases hchars : inside.takeWhile isNameChar with
              | nil => simp [hchars] at hfirst
              | cons first others =>
                  rw [hchars] at hname hfirst
                  obtain ⟨hchar, hothers⟩ := List.forall_mem_cons.1 hname
                  have hdigit : Text.isDigit first = false := by simpa using hfirst
                  exact ⟨first, others, String.toList_ofList, beginsName_iff.2 ⟨hchar, hdigit⟩,
                    fun c hc => goesOn_iff.2 (hothers c hc)⟩
            · rw [written, String.toList_ofList]
              simpa using htext
    · cases h
  · rintro ⟨⟨⟨first, others, hname, hfirst, hothers⟩, hinner⟩, rfl⟩
    obtain ⟨hchar, hdigit⟩ := beginsName_iff.1 hfirst
    have hcut : (p.name.toList ++ (writtenEnding p.fallback ++ rest)).takeWhile isNameChar =
        p.name.toList ∧ (p.name.toList ++ (writtenEnding p.fallback ++ rest)).dropWhile isNameChar =
          writtenEnding p.fallback ++ rest := by
      refine Text.cut_iff.2 ⟨rfl, ?_, stops_writtenEnding p.fallback rest⟩
      rw [hname]
      exact List.forall_mem_cons.2 ⟨hchar, fun c hc => goesOn_iff.1 (hothers c hc)⟩
    have hending : ending? (writtenEnding p.fallback ++ rest) = some (p.fallback, rest) :=
      ending?_iff.2 ⟨hinner, rfl⟩
    show at? ('$' :: '{' :: (p.name.toList ++ writtenEnding p.fallback ++ rest)) = _
    rw [List.append_assoc, at?, hcut.1, hcut.2, hending, String.ofList_toList]
    simp [hname, hdigit]

theorem at?_eq_none_iff {text : List Char} :
    at? text = none ↔ ∀ p : Placeholder, p.WellFormed → ¬ p.written <+: text := by
  constructor
  · rintro h p hwell ⟨rest, rfl⟩
    cases h.symm.trans (at?_iff.2 ⟨hwell, rfl⟩)
  · intro h
    cases hat : at? text with
    | none => rfl
    | some found =>
        obtain ⟨hwell, rfl⟩ := at?_iff.1 hat
        exact absurd (List.prefix_append ..) (h _ hwell)

end Placeholder

-- ============================================================ the one way to cut a text

/-- A text that is cut from left to right: where a placeholder begins it is a piece, and elsewhere the one
character is. -/
inductive Scan : List Char → List Piece → Prop
  | nil : Scan [] []
  | placeholder {p : Placeholder} {rest : List Char} {pieces : List Piece} :
      p.WellFormed → Scan rest pieces → Scan (p.written ++ rest) (.placeholder p :: pieces)
  | literal {c : Char} {rest : List Char} {pieces : List Piece} :
      (∀ p : Placeholder, p.WellFormed → ¬ p.written <+: c :: rest) → Scan rest pieces →
        Scan (c :: rest) (.literal c :: pieces)

namespace Piece

theorem ofText_of_placeholder {text rest : List Char} {p : Placeholder}
    (h : Placeholder.at? text = some (p, rest)) : ofText text = .placeholder p :: ofText rest := by
  rw [ofText]
  split
  · next found after hfound =>
      cases hfound.symm.trans h
      rfl
  · next hnone => cases hnone.symm.trans h

theorem ofText_of_literal {c : Char} {rest : List Char} (h : Placeholder.at? (c :: rest) = none) :
    ofText (c :: rest) = .literal c :: ofText rest := by
  rw [ofText]
  split
  · next hfound => cases hfound.symm.trans h
  · rfl

theorem ofText_nil : ofText [] = [] := by
  rw [ofText]
  rfl

theorem scan_ofText (text : List Char) : Scan text (ofText text) := by
  induction hlength : text.length using Nat.strong_induction_on generalizing text with
  | _ length ih =>
      subst hlength
      cases hat : Placeholder.at? text with
      | some found =>
          obtain ⟨p, rest⟩ := found
          have hshorter := Placeholder.length_of_at? hat
          obtain ⟨hwell, htext⟩ := Placeholder.at?_iff.1 hat
          rw [ofText_of_placeholder hat, htext]
          exact .placeholder hwell (ih _ hshorter rest rfl)
      | none =>
          cases text with
          | nil =>
              rw [ofText_nil]
              exact .nil
          | cons c rest =>
              rw [ofText_of_literal hat]
              exact .literal (Placeholder.at?_eq_none_iff.1 hat) (ih _ (Nat.lt_succ_self _) rest rfl)

end Piece

/-- A text is cut in one way only, and that is how it is read. -/
theorem scan_iff {text : List Char} {pieces : List Piece} : Scan text pieces ↔ pieces = Piece.ofText text := by
  constructor
  · intro h
    induction h with
    | nil => exact Piece.ofText_nil.symm
    | placeholder hwell _ ih => rw [ih, Piece.ofText_of_placeholder (Placeholder.at?_iff.2 ⟨hwell, rfl⟩)]
    | literal hnone _ ih => rw [ih, Piece.ofText_of_literal (Placeholder.at?_eq_none_iff.2 hnone)]
  · rintro rfl
    exact Piece.scan_ofText text

-- ============================================================ filling in

/-- What pieces give when each of them has a text: a literal stands for itself, a placeholder for the value of its
variable, or for its fallback where the variable is not set. -/
inductive Fills (env : Environment) : List Piece → List Char → Prop
  | nil : Fills env [] []
  | literal {c : Char} {pieces : List Piece} {out : List Char} :
      Fills env pieces out → Fills env (.literal c :: pieces) (c :: out)
  | value {p : Placeholder} {value : String} {pieces : List Piece} {out : List Char} :
      env p.name = some value → Fills env pieces out →
        Fills env (.placeholder p :: pieces) (value.toList ++ out)
  | fallback {p : Placeholder} {inner : String} {pieces : List Piece} {out : List Char} :
      env p.name = none → p.fallback = some inner → Fills env pieces out →
        Fills env (.placeholder p :: pieces) (inner.toList ++ out)

/-- The names of variables that nobody set and for which a placeholder has no fallback, as often as they are
asked for and in this order. -/
inductive Lacks (env : Environment) : List Piece → List String → Prop
  | nil : Lacks env [] []
  | literal {c : Char} {pieces : List Piece} {names : List String} :
      Lacks env pieces names → Lacks env (.literal c :: pieces) names
  | served {p : Placeholder} {pieces : List Piece} {names : List String} :
      env p.name ≠ none ∨ p.fallback ≠ none → Lacks env pieces names →
        Lacks env (.placeholder p :: pieces) names
  | unset {p : Placeholder} {pieces : List Piece} {names : List String} :
      env p.name = none → p.fallback = none → Lacks env pieces names →
        Lacks env (.placeholder p :: pieces) (p.name :: names)

section

variable {env : Environment} {pieces : List Piece}

namespace Piece

theorem missing?_of_served {p : Placeholder} (h : env p.name ≠ none ∨ p.fallback ≠ none) :
    missing? env (.placeholder p) = none := by
  rw [missing?, if_neg]
  simpa [← Option.isSome_iff_ne_none, or_iff_not_imp_left] using h

theorem missing?_of_unset {p : Placeholder} (hvalue : env p.name = none) (hfallback : p.fallback = none) :
    missing? env (.placeholder p) = some p.name := by
  rw [missing?, hvalue, hfallback]
  rfl

theorem missing?_eq_none_iff {p : Placeholder} :
    missing? env (.placeholder p) = none ↔ (p.fallback = none → ∃ value, env p.name = some value) := by
  cases hvalue : env p.name with
  | some value => simp [missing?, hvalue]
  | none => cases hfallback : p.fallback <;> simp [missing?, hvalue, hfallback]

theorem fill_of_value {p : Placeholder} {value : String} (h : env p.name = some value) :
    fill env (.placeholder p) = value.toList := by
  rw [fill, h]
  rfl

theorem fill_of_fallback {p : Placeholder} {inner : String} (hvalue : env p.name = none)
    (hfallback : p.fallback = some inner) : fill env (.placeholder p) = inner.toList := by
  rw [fill, hvalue, hfallback]
  rfl

end Piece

theorem lacks_iff {names : List String} :
    Lacks env pieces names ↔ names = pieces.filterMap (Piece.missing? env) := by
  constructor
  · intro h
    induction h with
    | nil => rfl
    | literal _ ih => exact ih
    | served hserved _ ih => rw [List.filterMap_cons_none (Piece.missing?_of_served hserved), ih]
    | unset hvalue hfallback _ ih =>
        rw [List.filterMap_cons_some (Piece.missing?_of_unset hvalue hfallback), ih]
  · rintro rfl
    induction pieces with
    | nil => exact .nil
    | cons piece pieces ih =>
        cases piece with
        | literal c => exact .literal ih
        | placeholder p =>
            by_cases hserved : env p.name ≠ none ∨ p.fallback ≠ none
            · rw [List.filterMap_cons_none (Piece.missing?_of_served hserved)]
              exact .served hserved ih
            · obtain ⟨hvalue, hfallback⟩ := not_or.1 hserved
              have hvalue := not_not.1 hvalue
              have hfallback := not_not.1 hfallback
              rw [List.filterMap_cons_some (Piece.missing?_of_unset hvalue hfallback)]
              exact .unset hvalue hfallback ih

theorem fills_iff {out : List Char} :
    Fills env pieces out ↔
      pieces.filterMap (Piece.missing? env) = [] ∧ out = pieces.flatMap (Piece.fill env) := by
  constructor
  · intro h
    induction h with
    | nil => exact ⟨rfl, rfl⟩
    | literal _ ih =>
        obtain ⟨hnone, rfl⟩ := ih
        exact ⟨hnone, rfl⟩
    | value hvalue _ ih =>
        obtain ⟨hnone, rfl⟩ := ih
        refine ⟨?_, ?_⟩
        · rw [List.filterMap_cons_none (Piece.missing?_of_served (.inl (by simp [hvalue]))), hnone]
        · rw [List.flatMap_cons, Piece.fill_of_value hvalue]
    | fallback hvalue hfallback _ ih =>
        obtain ⟨hnone, rfl⟩ := ih
        refine ⟨?_, ?_⟩
        · rw [List.filterMap_cons_none (Piece.missing?_of_served (.inr (by simp [hfallback]))), hnone]
        · rw [List.flatMap_cons, Piece.fill_of_fallback hvalue hfallback]
  · rintro ⟨hnone, rfl⟩
    induction pieces with
    | nil => exact .nil
    | cons piece pieces ih =>
        rw [List.filterMap_eq_nil_iff] at hnone
        obtain ⟨hpiece, hpieces⟩ := List.forall_mem_cons.1 hnone
        have hrest := ih (List.filterMap_eq_nil_iff.2 hpieces)
        cases piece with
        | literal c => exact .literal hrest
        | placeholder p =>
            rw [List.flatMap_cons]
            cases hvalue : env p.name with
            | some value =>
                rw [Piece.fill_of_value hvalue]
                exact .value hvalue hrest
            | none =>
                cases hfallback : p.fallback with
                | some inner =>
                    rw [Piece.fill_of_fallback hvalue hfallback]
                    exact .fallback hvalue hfallback hrest
                | none => cases hpiece.symm.trans (Piece.missing?_of_unset hvalue hfallback)

end

-- ============================================================ the result

section

variable {env : Environment} {text : String}

theorem interpolate_of_complete
    (h : (Piece.ofText text.toList).filterMap (Piece.missing? env) = []) :
    interpolate env text = .ok (String.ofList ((Piece.ofText text.toList).flatMap (Piece.fill env))) := by
  unfold interpolate
  dsimp only
  rw [h]
  rfl

theorem interpolate_of_incomplete
    (h : (Piece.ofText text.toList).filterMap (Piece.missing? env) ≠ []) :
    interpolate env text = .error ((Piece.ofText text.toList).filterMap (Piece.missing? env)) := by
  unfold interpolate
  dsimp only
  rw [if_neg (by rwa [List.isEmpty_iff])]

theorem interpolate_ok_iff {filled : String} :
    interpolate env text = .ok filled ↔ Fills env (Piece.ofText text.toList) filled.toList := by
  rw [fills_iff]
  by_cases h : (Piece.ofText text.toList).filterMap (Piece.missing? env) = []
  · rw [interpolate_of_complete h, Except.ok.injEq, ← String.toList_inj, String.toList_ofList, eq_comm]
    exact (and_iff_right h).symm
  · rw [interpolate_of_incomplete h]
    exact iff_of_false nofun fun hfills => h hfills.1

theorem interpolate_error_iff {names : List String} :
    interpolate env text = .error names ↔ names ≠ [] ∧ Lacks env (Piece.ofText text.toList) names := by
  rw [lacks_iff]
  by_cases h : (Piece.ofText text.toList).filterMap (Piece.missing? env) = []
  · rw [interpolate_of_complete h, h]
    exact iff_of_false nofun fun hlacks => hlacks.1 hlacks.2
  · rw [interpolate_of_incomplete h, Except.error.injEq]
    constructor
    · rintro rfl
      exact ⟨h, rfl⟩
    · exact fun hlacks => hlacks.2.symm

theorem interpolate_isOk_iff :
    (∃ filled, interpolate env text = .ok filled) ↔
      ∀ p, .placeholder p ∈ Piece.ofText text.toList → p.fallback = none →
        ∃ value, env p.name = some value := by
  have hcomplete : (∃ filled, interpolate env text = .ok filled) ↔
      (Piece.ofText text.toList).filterMap (Piece.missing? env) = [] := by
    by_cases h : (Piece.ofText text.toList).filterMap (Piece.missing? env) = []
    · exact iff_of_true ⟨_, interpolate_of_complete h⟩ h
    · rw [interpolate_of_incomplete h]
      exact iff_of_false nofun h
  rw [hcomplete, List.filterMap_eq_nil_iff]
  constructor
  · intro h p hp
    exact Piece.missing?_eq_none_iff.1 (h _ hp)
  · intro h piece hpiece
    cases piece with
    | literal c => rfl
    | placeholder p => exact Piece.missing?_eq_none_iff.2 (h p hpiece)

theorem interpolate_congr {others : Environment}
    (h : ∀ p, .placeholder p ∈ Piece.ofText text.toList → others p.name = env p.name) :
    interpolate others text = interpolate env text := by
  have hmissing : (Piece.ofText text.toList).filterMap (Piece.missing? others) =
      (Piece.ofText text.toList).filterMap (Piece.missing? env) := by
    apply List.filterMap_congr
    intro piece hpiece
    cases piece with
    | literal c => rfl
    | placeholder p => simp only [Piece.missing?, h p hpiece]
  have hfill : (Piece.ofText text.toList).flatMap (Piece.fill others) =
      (Piece.ofText text.toList).flatMap (Piece.fill env) := by
    apply List.flatMap_congr
    intro piece hpiece
    cases piece with
    | literal c => rfl
    | placeholder p => simp only [Piece.fill, h p hpiece]
  unfold interpolate
  dsimp only
  rw [hmissing, hfill]

end

/-- What a settings text with these pieces gives in some surroundings. -/
structure FilledIn (env : Environment) (text : String) (pieces : List Piece) : Prop where
  ok_iff : ∀ filled, interpolate env text = .ok filled ↔ Fills env pieces filled.toList
  isOk_iff : (∃ filled, interpolate env text = .ok filled) ↔
    ∀ p, .placeholder p ∈ pieces → p.fallback = none → ∃ value, env p.name = some value
  error_iff : ∀ names, interpolate env text = .error names ↔ names ≠ [] ∧ Lacks env pieces names
  /-- Only the variables count for which the text asks. -/
  confined : ∀ others : Environment,
    (∀ p, .placeholder p ∈ pieces → others p.name = env p.name) →
      interpolate others text = interpolate env text

/-- Every text is cut into its placeholders and what stands between them in one way, and in any
surroundings these pieces are filled in or the variables named that are missing. -/
theorem interpolate_by_pieces (text : String) :
    ∃ pieces, Scan text.toList pieces ∧ (∀ others, Scan text.toList others → others = pieces) ∧
      ∀ env, FilledIn env text pieces := by
  refine ⟨Piece.ofText text.toList, scan_iff.2 rfl, fun others h => scan_iff.1 h, ?_⟩
  intro env
  exact {
    ok_iff := fun _ => interpolate_ok_iff
    isOk_iff := interpolate_isOk_iff
    error_iff := fun _ => interpolate_error_iff
    confined := fun _ h => interpolate_congr h }

end Hydration
