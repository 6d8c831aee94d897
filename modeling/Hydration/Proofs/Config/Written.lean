/-
A configuration written out asks for no variable, unless one of its names does.

# Marks

A placeholder begins with a dollar sign and a brace (`Unmarked`). A writer leaves a character as it is, puts
others in its place, or puts others in between, and those that it puts there are never one of the two
(`Respelled`). So there are no two such characters side by side in what is written, unless there were in what was
to be written (`Respelled.unmarked`).

The whole text is one of lines. Each of them is written from one name or word, and none begins with the brace, so
no mark comes about where two of them meet (`unmarked_toYaml`).
-/
import Hydration.Config.Dump
import Hydration.Proofs.Config.Placeholders
import Hydration.Proofs.Text.Numeral

namespace Hydration

-- ============================================================ texts without a mark

/-- No placeholder could begin anywhere in the text. -/
def Unmarked (cs : List Char) : Prop := ¬ ['$', '{'] <:+: cs

instance (cs : List Char) : Decidable (Unmarked cs) := inferInstanceAs (Decidable (¬ _))

section

variable {cs front rest : List Char} {c : Char}

theorem unmarked_cons : Unmarked (c :: cs) ↔ ¬ (c = '$' ∧ cs.head? = some '{') ∧ Unmarked cs := by
  have hstart : ['$', '{'] <+: c :: cs ↔ c = '$' ∧ cs.head? = some '{' := by
    rw [List.cons_prefix_cons, eq_comm]
    cases cs with
    | nil => simp
    | cons d ds => simp [eq_comm]
  unfold Unmarked
  rw [List.infix_cons_iff, hstart, not_or]

theorem unmarked_of_not_mem (h : '$' ∉ cs) : Unmarked cs := by
  intro hmark
  exact h (hmark.subset (List.mem_cons_self ..))

/-- No mark comes about where a text ends and the next one does not begin with the brace. -/
theorem Unmarked.append (hfront : Unmarked front) (hrest : Unmarked rest) (h : rest.head? ≠ some '{') :
    Unmarked (front ++ rest) := by
  induction front with
  | nil => exact hrest
  | cons c front ih =>
      obtain ⟨hfirst, hothers⟩ := unmarked_cons.1 hfront
      refine unmarked_cons.2 ⟨?_, ih hothers⟩
      cases front with
      | nil =>
          intro hmark
          exact h hmark.2
      | cons d front => exact hfirst

/-- Filling in changes nothing where no placeholder could begin. -/
theorem interpolate_of_unmarked {text : String} (h : Unmarked text.toList) (env : Environment) :
    interpolate env text = .ok text := by
  have hpieces : ∀ cs, Unmarked cs → Fills env (Piece.ofText cs) cs := by
    intro cs
    induction cs with
    | nil =>
        intro _
        rw [Piece.ofText_nil]
        exact .nil
    | cons c cs ih =>
        intro hcs
        have hnone : Placeholder.at? (c :: cs) = none := by
          rw [Placeholder.at?_eq_none_iff]
          intro p _ hbegins
          exact hcs ((List.prefix_append ['$', '{'] _).trans hbegins).isInfix
        rw [Piece.ofText_of_literal hnone]
        exact .literal (ih (unmarked_cons.1 hcs).2)
  exact interpolate_ok_iff.2 (hpieces _ h)

end

-- ============================================================ what writers do to a text

/-- A character that no mark has. -/
def Neutral (c : Char) : Prop := c ≠ '$' ∧ c ≠ '{'

instance (c : Char) : Decidable (Neutral c) := inferInstanceAs (Decidable (_ ∧ _))

/-- The second text is the first with neutral characters between its own and in the place of some of them. -/
inductive Respelled : List Char → List Char → Prop
  | done : Respelled [] []
  | kept (c : Char) {cs out : List Char} : Respelled cs out → Respelled (c :: cs) (c :: out)
  | replaced (c : Char) {d : Char} {cs out : List Char} : Neutral d → Respelled cs out →
      Respelled (c :: cs) (d :: out)
  | inserted {d : Char} {cs out : List Char} : Neutral d → Respelled cs out → Respelled cs (d :: out)

namespace Respelled

variable {cs cs' out out' extra : List Char}

/-- A mark is made of two characters that were kept, and nothing stands between them. -/
theorem unmarked_and_head (h : Respelled cs out) (hcs : Unmarked cs) :
    Unmarked out ∧ (out.head? = some '{' → cs.head? = some '{') := by
  induction h with
  | done => exact ⟨hcs, id⟩
  | kept c _ ih =>
      obtain ⟨hfirst, hrest⟩ := unmarked_cons.1 hcs
      obtain ⟨hout, hhead⟩ := ih hrest
      refine ⟨unmarked_cons.2 ⟨?_, hout⟩, id⟩
      intro hmark
      exact hfirst ⟨hmark.1, hhead hmark.2⟩
  | replaced c hd _ ih =>
      obtain ⟨hout, -⟩ := ih (unmarked_cons.1 hcs).2
      refine ⟨unmarked_cons.2 ⟨fun hmark => hd.1 hmark.1, hout⟩, ?_⟩
      intro hbrace
      exact absurd (Option.some.inj hbrace) hd.2
  | inserted hd _ ih =>
      obtain ⟨hout, -⟩ := ih hcs
      refine ⟨unmarked_cons.2 ⟨fun hmark => hd.1 hmark.1, hout⟩, ?_⟩
      intro hbrace
      exact absurd (Option.some.inj hbrace) hd.2

theorem unmarked (h : Respelled cs out) (hcs : Unmarked cs) : Unmarked out :=
  (h.unmarked_and_head hcs).1

theorem refl (cs : List Char) : Respelled cs cs := by
  induction cs with
  | nil => exact .done
  | cons c cs ih => exact .kept c ih

theorem insert (hextra : ∀ d ∈ extra, Neutral d) (h : Respelled cs out) : Respelled cs (extra ++ out) := by
  induction extra with
  | nil => exact h
  | cons d extra ih =>
      rw [List.forall_mem_cons] at hextra
      exact .inserted hextra.1 (ih hextra.2)

theorem append (h : Respelled cs out) (h' : Respelled cs' out') : Respelled (cs ++ cs') (out ++ out') := by
  induction h with
  | done => exact h'
  | kept c _ ih => exact .kept c ih
  | replaced c hd _ ih => exact .replaced c hd ih
  | inserted hd _ ih => exact .inserted hd ih

/-- Something is put between quotes, or other neutral characters. -/
theorem between {before after : List Char} (hbefore : ∀ d ∈ before, Neutral d)
    (h : Respelled cs out) (hafter : ∀ d ∈ after, Neutral d) : Respelled cs (before ++ out ++ after) := by
  have hend : Respelled [] after := by
    have hinserted := insert hafter .done
    rwa [List.append_nil] at hinserted
  have hall := (h.insert hbefore).append hend
  rwa [List.append_nil] at hall

end Respelled

-- ============================================================ the styles of a scalar

namespace Yaml.Style

theorem neutral_hexDigits (n : Nat) : ∀ c ∈ (Nat.toDigits 16 n).map Char.toUpper, Neutral c := by
  have hdigit : ∀ d < 16, Neutral (Nat.digitChar d).toUpper := by decide
  induction n using Nat.strong_induction_on with
  | _ n ih =>
      by_cases hn : n < 16
      · rw [Nat.toDigits_of_lt_base hn]
        simpa using hdigit n hn
      · rw [Nat.toDigits_of_base_le (by decide) (by omega), List.map_append]
        intro c hc
        rcases List.mem_append.1 hc with hfront | hlast
        · exact ih (n / 16) (by omega) c hfront
        · rw [List.map_singleton, List.mem_singleton] at hlast
          rw [hlast]
          exact hdigit _ (Nat.mod_lt n (by decide))

theorem neutral_hexUpper (width n : Nat) : ∀ c ∈ hexUpper width n, Neutral c := by
  intro c hc
  unfold hexUpper at hc
  rcases List.mem_append.1 hc with hzero | hdigit
  · rw [(List.mem_replicate.1 hzero).2]
    decide
  · exact neutral_hexDigits n c hdigit

/-- An escape puts a backslash in the place of a character, and neutral ones behind it. -/
theorem respelled_doubleChar (c : Char) : Respelled [c] (doubleChar c) := by
  have hescape : ∀ {letter : Char} {digits : List Char}, Neutral letter → (∀ d ∈ digits, Neutral d) →
      Respelled [c] ('\\' :: letter :: digits) := by
    intro letter digits hletter hdigits
    have hinserted := Respelled.insert hdigits .done
    rw [List.append_nil] at hinserted
    exact .replaced c (by decide) (.inserted hletter hinserted)
  unfold doubleChar
  split
  · exact .refl [c]
  · split
    · rename_i letter hlookup
      have hletters : ∀ e ∈ shortEscapes, Neutral e.2 := by decide
      obtain ⟨before, after, hentries, -⟩ := List.lookup_eq_some_iff.1 hlookup
      refine hescape (hletters (c, letter) ?_) nofun
      rw [hentries]
      exact List.mem_append_right _ (List.mem_cons_self ..)
    · dsimp only
      split
      · exact hescape (by decide) (neutral_hexUpper 2 _)
      · split
        · exact hescape (by decide) (neutral_hexUpper 4 _)
        · exact hescape (by decide) (neutral_hexUpper 8 _)

theorem respelled_double (cs : List Char) : Respelled cs (cs.flatMap doubleChar) := by
  induction cs with
  | nil => exact .done
  | cons c cs ih => exact (respelled_doubleChar c).append ih

variable {indent : List Char}

theorem respelled_single (hindent : ∀ d ∈ indent, Neutral d) (inBreaks : Bool) (cs : List Char) :
    Respelled cs (singleChars indent inBreaks cs) := by
  induction cs generalizing inBreaks with
  | nil =>
      unfold singleChars
      split
      · simpa using Respelled.insert hindent .done
      · exact .done
  | cons c cs ih =>
      unfold singleChars
      split
      · dsimp only
        refine .insert ?_ (.kept c (ih true))
        split
        · simp [Neutral]
        · exact nofun
      · dsimp only
        rw [List.append_assoc]
        refine .insert ?_ ?_
        · split
          · exact hindent
          · exact nofun
        · split
          · exact .inserted (by decide) (.replaced c (by decide) (ih false))
          · exact .kept c (ih false)

theorem respelled_literal (hindent : ∀ d ∈ indent, Neutral d) (lineStart : Bool) (cs : List Char) :
    Respelled cs (literalChars indent lineStart cs) := by
  induction cs generalizing lineStart with
  | nil => exact .done
  | cons c cs ih =>
      unfold literalChars
      split
      · exact .kept c (ih true)
      · refine .insert ?_ (.kept c (ih false))
        split
        · exact hindent
        · exact nofun

theorem neutral_literalHints (cs : List Char) : ∀ c ∈ literalHints cs, Neutral c := by
  intro c hc
  have hshown : c = '2' ∨ c = '-' ∨ c = '+' := by
    unfold literalHints at hc
    rcases List.mem_append.1 hc with hindent | hchomping
    · split at hindent
      · exact .inl (List.mem_singleton.1 hindent)
      · cases hindent
    · split at hchomping
      · exact .inr (.inl (List.mem_singleton.1 hchomping))
      · split at hchomping
        · exact .inr (.inl (List.mem_singleton.1 hchomping))
        · split at hchomping
          · exact .inr (.inr (List.mem_singleton.1 hchomping))
          · cases hchomping
  rcases hshown with rfl | rfl | rfl <;> decide

/-- Whatever its style, an entry is respelled only. -/
theorem respelled_entry (s : String) : Respelled s.toList (entry s).toList := by
  have hindent : ∀ d ∈ [' ', ' '], Neutral d := by simp [Neutral]
  unfold entry
  rw [String.toList_ofList]
  split
  · show Respelled s.toList ([] ++ s.toList ++ ['\n'])
    exact .between nofun (.refl s.toList) (by simp [Neutral])
  · show Respelled s.toList (['\''] ++ singleChars [' ', ' '] false s.toList ++ ['\'', '\n'])
    exact .between (by simp [Neutral]) (respelled_single hindent false s.toList) (by simp [Neutral])
  · show Respelled s.toList (['"'] ++ s.toList.flatMap doubleChar ++ ['"', '\n'])
    exact .between (by simp [Neutral]) (respelled_double s.toList) (by simp [Neutral])
  · refine .between ?_ (.inserted (by decide) (respelled_literal hindent true s.toList)) ?_
    · exact List.forall_mem_cons.2 ⟨by decide, neutral_literalHints s.toList⟩
    · split
      · exact nofun
      · simp [Neutral]

end Yaml.Style

-- ============================================================ the whole text

namespace Config

variable {config : Config}

/-- Nothing comes about between lines that do not begin with the brace. -/
theorem unmarked_join {lines : List String}
    (h : ∀ line ∈ lines, Unmarked line.toList ∧ line.toList.head? ≠ some '{') :
    Unmarked (String.join lines).toList ∧ (String.join lines).toList.head? ≠ some '{' := by
  induction lines with
  | nil => decide
  | cons line lines ih =>
      obtain ⟨hline, hothers⟩ := List.forall_mem_cons.1 h
      obtain ⟨hjoined, hhead⟩ := ih hothers
      rw [String.join_cons, String.toList_append]
      refine ⟨hline.1.append hjoined hhead, ?_⟩
      rw [List.head?_append]
      cases hfirst : line.toList.head? with
      | none => exact hhead
      | some c =>
          rw [hfirst] at hline
          exact hline.2

theorem unmarked_entryLine {name : String} (h : Unmarked name.toList) :
    Unmarked ("- " ++ Yaml.Style.entry name).toList ∧
      ("- " ++ Yaml.Style.entry name).toList.head? ≠ some '{' := by
  have hline : Respelled name.toList ("- ".toList ++ (Yaml.Style.entry name).toList) :=
    (Yaml.Style.respelled_entry name).insert (by simp [Neutral])
  rw [String.toList_append]
  refine ⟨hline.unmarked h, ?_⟩
  simp

theorem dollar_not_mem_describe (d : Span) : '$' ∉ d.describe.toList := by
  unfold Span.describe
  rw [String.toList_append, List.mem_append, not_or]
  constructor
  · intro hdigit
    exact absurd ((Text.numeral_decimal _).toNat_mem _ hdigit).1 (by decide)
  · cases Span.unitFor d.millis <;> decide

/-- The words are numbers with a unit, and the name of the policy. -/
theorem unmarked_wordLine {word : Field × String} (h : word ∈ config.words) :
    Unmarked (word.1.name ++ ": " ++ word.2 ++ "\n").toList ∧
      (word.1.name ++ ": " ++ word.2 ++ "\n").toList.head? ≠ some '{' := by
  have hword : '$' ∉ word.2.toList := by
    unfold words at h
    simp only [List.mem_cons, List.not_mem_nil, or_false] at h
    rcases h with rfl | rfl | rfl | rfl
    · exact dollar_not_mem_describe _
    · exact dollar_not_mem_describe _
    · exact dollar_not_mem_describe _
    · show '$' ∉ config.onUnreachable.name.toList
      cases config.onUnreachable <;> decide
  have hname : '$' ∉ word.1.name.toList ∧ word.1.name.toList ≠ [] ∧
      word.1.name.toList.head? ≠ some '{' := by
    cases word.1 <;> decide
  obtain ⟨hdollar, hsome, hhead⟩ := hname
  simp only [String.toList_append, List.append_assoc]
  constructor
  · apply unmarked_of_not_mem
    simp [hdollar, hword]
  · rwa [List.head?_append_of_ne_nil _ hsome]

theorem unmarked_crawlersText (h : ∀ name ∈ config.crawlers, Unmarked name.toList) :
    Unmarked config.crawlersText.toList := by
  have hname : '$' ∉ Field.crawlers.name.toList := by decide
  unfold crawlersText
  split
  · apply unmarked_of_not_mem
    simp [hname]
  · have hentries : ∀ line ∈ config.crawlers.map fun name => "- " ++ Yaml.Style.entry name,
        Unmarked line.toList ∧ line.toList.head? ≠ some '{' := by
      intro line hline
      obtain ⟨name, hmem, rfl⟩ := List.mem_map.1 hline
      exact unmarked_entryLine (h name hmem)
    obtain ⟨hjoined, hhead⟩ := unmarked_join hentries
    rw [String.toList_append]
    refine .append (unmarked_of_not_mem ?_) hjoined hhead
    simp [hname]

/-- A configuration asks for no variable, however its names are written. -/
theorem unmarked_toYaml (h : ∀ name ∈ config.crawlers, Unmarked name.toList) :
    Unmarked config.toYaml.toList := by
  have hwords : ∀ line ∈ config.words.map fun word => word.1.name ++ ": " ++ word.2 ++ "\n",
      Unmarked line.toList ∧ line.toList.head? ≠ some '{' := by
    intro line hline
    obtain ⟨word, hword, rfl⟩ := List.mem_map.1 hline
    exact unmarked_wordLine hword
  obtain ⟨hjoined, hhead⟩ := unmarked_join hwords
  unfold toYaml
  rw [String.toList_append]
  exact (unmarked_crawlersText h).append hjoined hhead

/-- It is never taken for a text that says nothing. -/
theorem not_blank_toYaml (config : Config) : Text.isAllBlank config.toYaml = false := by
  have hname : 'c' ∈ Field.crawlers.name.toList := by decide
  have hletter : 'c' ∈ config.toYaml.toList := by
    unfold toYaml crawlersText
    split <;> simp [hname]
  unfold Text.isAllBlank
  rw [List.all_eq_false]
  exact ⟨'c', hletter, by decide⟩

end Config

end Hydration
