/-
A configuration that is written out and read again.

# The data

What is written is a mapping of five fields (`Config.events`): the list of names, three spans and the policy. That
the settings language gives back such data as it was written is taken for granted here (`Document.Holds`); how the
scalars are quoted does not matter to a reader of settings, and neither does the environment, as nothing in the text
is a placeholder.

# What comes back

The names and the policy come back as they are, and the spans as far as a text can tell them
(`ofText_toYaml_iff`). So a configuration comes back exactly if its spans are whole milliseconds, as many of them
as a word counts or whole seconds (`Span.IsExact`).
-/
import Hydration.Config.Load
import Hydration.Proofs.Config.Written
import Hydration.Proofs.Span.Printed

namespace Hydration

open Yaml

-- ============================================================ the data of a configuration

namespace Yaml.Event

/-- The event but for the style of a scalar. -/
def unstyled : Event → Event
  | scalar s tag => scalar ⟨s.text, false⟩ tag
  | other => other

/-- A text without a tag. -/
def word (s : String) : Event := scalar ⟨s, false⟩ none

end Yaml.Event

/-- The data that is written. -/
def Config.events (config : Config) : List Event :=
  .mappingStart none :: .word Field.crawlers.name :: .sequenceStart none ::
    (config.crawlers.map .word ++ .sequenceEnd ::
      ((config.words.flatMap fun word => [.word word.1.name, .word word.2]) ++ [.mappingEnd]))

namespace Yaml.Document

/-- The document is a whole one with the data of a configuration. -/
structure Holds (document : Document) (config : Config) : Prop where
  events : document.events.toList.map Event.unstyled = config.events
  whole : document.whole = true

instance (document : Document) (config : Config) : Decidable (document.Holds config) :=
  decidable_of_iff
    (document.events.toList.map Event.unstyled = config.events ∧ document.whole = true)
    ⟨fun h => ⟨h.1, h.2⟩, fun h => ⟨h.events, h.whole⟩⟩

/-- From a position on, the document has these events. -/
def Goes (document : Document) (position : Nat) (events : List Event) : Prop :=
  (document.events.toList.map Event.unstyled).drop position = events

end Yaml.Document

-- ============================================================ reading on

namespace Yaml.Document.Goes

variable {document : Document} {position : Nat} {event : Event} {front rest : List Event} {s : String}

theorem tail (h : document.Goes position (event :: rest)) : document.Goes (position + 1) rest := by
  unfold Goes at h ⊢
  rw [← List.drop_drop, h]
  rfl

theorem append (h : document.Goes position (front ++ rest)) :
    document.Goes (position + front.length) rest := by
  unfold Goes at h ⊢
  rw [← List.drop_drop, h, List.drop_left]

theorem length_le (h : document.Goes position rest) : rest.length ≤ document.events.size := by
  rw [← h, List.length_drop, List.length_map, Array.length_toList]
  omega

theorem head (h : document.Goes position (event :: rest)) :
    ∃ found, document.events[position]? = some found ∧ found.unstyled = event := by
  have hget : (document.events.toList.map Event.unstyled)[position]? = some event := by
    rw [← List.head?_drop, h]
    rfl
  rw [List.getElem?_map, Array.getElem?_toList, Option.map_eq_some_iff] at hget
  exact hget

/-- At the place of a word stands a scalar, in one style or the other. -/
theorem word (h : document.Goes position (.word s :: rest)) :
    ∃ plain, document.events[position]? = some (.scalar ⟨s, plain⟩ none) := by
  obtain ⟨found, hfound, hunstyled⟩ := h.head
  cases found with
  | scalar scalar tag =>
      obtain ⟨text, plain⟩ := scalar
      obtain ⟨htext, rfl⟩ := Event.scalar.inj hunstyled
      obtain ⟨rfl, -⟩ := Scalar.mk.inj htext
      exact ⟨plain, hfound⟩
  | _ => cases hunstyled

/-- Any other event is just that one. -/
theorem mark (h : document.Goes position (event :: rest)) (hmark : ∀ s tag, event ≠ .scalar s tag) :
    document.events[position]? = some event := by
  obtain ⟨found, hfound, hunstyled⟩ := h.head
  cases found with
  | scalar s tag => exact absurd hunstyled.symm (hmark _ _)
  | _ => exact hunstyled ▸ hfound

end Yaml.Document.Goes

namespace Settings

variable {document : Document} {position : Nat} {rest : List Event} {s : String}

theorem event?_of_word (h : document.Goes position (.word s :: rest)) :
    ∃ plain, event? document position = some (.scalar ⟨s, plain⟩ none, position) := by
  obtain ⟨plain, hfound⟩ := h.word
  refine ⟨plain, ?_⟩
  unfold event?
  rw [hfound]

theorem text_of_word (h : document.Goes position (.word s :: rest)) (place : Option String)
    (expected : String) : text document place position expected = .ok s := by
  obtain ⟨plain, hevent⟩ := event?_of_word h
  unfold text
  rw [hevent]

theorem span_of_word (h : document.Goes position (.word s :: rest)) (place : String) :
    span document place position = (Span.parse s).mapError .span := by
  unfold span
  rw [text_of_word h]
  dsimp only [bind, Except.bind]
  cases Span.parse s <;> rfl

theorem choice_of_word {policy : UnreachablePolicy}
    (h : document.Goes position (.word policy.name :: rest)) (place : String) :
    choice document place position = .ok policy := by
  obtain ⟨plain, hevent⟩ := event?_of_word h
  unfold choice
  rw [hevent]
  cases policy <;> rfl

theorem textsFrom_of_words {names : List String}
    (h : document.Goes position (names.map .word ++ .sequenceEnd :: rest)) (place : String) {fuel : Nat}
    (hfuel : names.length < fuel) (index : Nat) :
    textsFrom document place fuel index position = .ok (names, position + names.length + 1) := by
  induction names generalizing position fuel index with
  | nil =>
      obtain ⟨fuel, rfl⟩ : ∃ more, fuel = more + 1 := ⟨fuel - 1, by omega⟩
      unfold textsFrom
      rw [h.mark nofun]
      rfl
  | cons name names ih =>
      obtain ⟨fuel, rfl⟩ : ∃ more, fuel = more + 1 := ⟨fuel - 1, by omega⟩
      obtain ⟨plain, hfound⟩ := h.word
      have hrest := ih h.tail (by simpa using hfuel) (index + 1)
      unfold textsFrom
      rw [hfound]
      dsimp only [bind, Except.bind]
      rw [text_of_word h]
      dsimp only
      rw [hrest, List.length_cons, Nat.add_right_comm position, Nat.add_assoc position]

theorem texts_of_words {names : List String}
    (h : document.Goes position (.sequenceStart none :: (names.map .word ++ .sequenceEnd :: rest)))
    (place : String) :
    texts document place position = .ok (names, position + 1 + names.length + 1) := by
  have hlength := h.length_le
  rw [List.length_cons, List.length_append, List.length_map, List.length_cons] at hlength
  have henough : names.length < document.events.size := by omega
  have hevent : event? document position = some (.sequenceStart none, position) := by
    unfold event?
    rw [h.mark nofun]
  unfold texts
  rw [hevent]
  dsimp only [bind, Except.bind]
  rw [textsFrom_of_words h.tail place henough 0]
  dsimp only
  rw [if_pos rfl]

-- ============================================================ field after field

theorem entriesFrom_field {field : Field} (h : document.Goes position (.word field.name :: rest))
    {settings : Settings} (hnew : settings.gives field = false) (fuel : Nat) :
    entriesFrom document (fuel + 1) settings position =
      (add document settings field field.name (position + 1)).bind fun added =>
        entriesFrom document fuel added.1 added.2 := by
  obtain ⟨plain, hfound⟩ := h.word
  have hfield : fieldAt document position = .ok (field, field.name) := by
    have hname : Field.ofName? field.name = some field := by cases field <;> decide
    unfold fieldAt
    rw [text_of_word h]
    dsimp only [bind, Except.bind]
    rw [hname]
    dsimp only
    rw [hfound]
  rw [entriesFrom, hfound]
  dsimp only [bind, Except.bind]
  rw [hfield]
  dsimp only
  rw [if_neg (by simp [hnew])]

theorem entriesFrom_end (h : document.Goes position (.mappingEnd :: rest)) (fuel : Nat)
    (settings : Settings) : entriesFrom document (fuel + 1) settings position = .ok settings := by
  rw [entriesFrom, h.mark nofun]

theorem entriesFrom_span {field : Field} {settings : Settings} {d : Span}
    (h : document.Goes position (.word field.name :: .word d.describe :: rest))
    (hnew : settings.gives field = false) (give : Span → Settings)
    (hadd : add document settings field field.name (position + 1) =
      (span document field.name (position + 1)).bind fun span => .ok (give span, position + 2))
    (fuel : Nat) :
    entriesFrom document (fuel + 1) settings position =
      ((Span.parse d.describe).mapError .span).bind fun span =>
        entriesFrom document fuel (give span) (position + 2) := by
  rw [entriesFrom_field h hnew, hadd, span_of_word h.tail]
  cases Span.parse d.describe <;> rfl

/-- The settings as they are read again, or the fault of the first span whose text is none. -/
def ofWritten (config : Config) : Except SettingsFault Settings :=
  ((Span.parse config.requestPoll.describe).mapError .span).bind fun requestPoll =>
    ((Span.parse config.drainInitial.describe).mapError .span).bind fun drainInitial =>
      ((Span.parse config.drainPoll.describe).mapError .span).bind fun drainPoll =>
        .ok ⟨some config.crawlers, some requestPoll, some drainInitial, some drainPoll,
          some config.onUnreachable⟩

theorem entriesFrom_words {config : Config}
    (h : document.Goes position
      ((config.words.flatMap fun word => [.word word.1.name, .word word.2]) ++ [.mappingEnd]))
    (fuel : Nat) :
    entriesFrom document (fuel + 5) ⟨some config.crawlers, none, none, none, none⟩ position =
      ofWritten config := by
  have hinitial := h.tail.tail
  have hpoll := hinitial.tail.tail
  have hpolicy := hpoll.tail.tail
  rw [entriesFrom_span h rfl _ rfl]
  refine congrArg _ (funext fun requestPoll => ?_)
  rw [entriesFrom_span hinitial rfl _ rfl]
  refine congrArg _ (funext fun drainInitial => ?_)
  rw [entriesFrom_span hpoll rfl _ rfl]
  refine congrArg _ (funext fun drainPoll => ?_)
  have hadd : ∀ settings : Settings,
      add document settings .onUnreachable Field.onUnreachable.name (position + 2 + 2 + 2 + 1) =
        .ok ({ settings with onUnreachable := some config.onUnreachable },
          position + 2 + 2 + 2 + 1 + 1) := by
    intro settings
    unfold add
    rw [choice_of_word hpolicy.tail]
    rfl
  rw [entriesFrom_field hpolicy rfl, hadd]
  exact entriesFrom_end hpolicy.tail.tail fuel _

/-- A document with the data of a configuration is read span by span. -/
theorem ofDocument_of_holds {config : Config} (h : document.Holds config) :
    ofDocument document = ofWritten config := by
  have hgoes : document.Goes 0 config.events := h.events
  have hlist := hgoes.tail.tail
  have hwords := hlist.tail.append.tail
  have hsize := hlist.length_le
  obtain ⟨fuel, hfuel⟩ : ∃ fuel, document.events.size = fuel + 5 + 1 := by
    refine ⟨document.events.size - 6, ?_⟩
    simp [Config.words] at hsize
    omega
  have hevent : event? document 0 = some (.mappingStart none, 0) := by
    unfold event?
    rw [hgoes.mark nofun]
  have hadd : add document empty .crawlers Field.crawlers.name (0 + 1 + 1) =
      .ok (⟨some config.crawlers, none, none, none, none⟩, 0 + 1 + 1 + 1 + config.crawlers.length + 1) := by
    unfold add
    rw [texts_of_words hlist]
    rfl
  rw [List.length_map] at hwords
  unfold ofDocument
  rw [hevent]
  dsimp only
  rw [hfuel, entriesFrom_field hgoes.tail rfl, hadd]
  show ((entriesFrom document (fuel + 5) _ _).bind fun settings =>
    if document.whole = true then .ok settings else .error .unreadable) = _
  rw [entriesFrom_words hwords, h.whole]
  cases ofWritten config <;> rfl

end Settings

-- ============================================================ what comes back

/-- Whole milliseconds, and as many as a word counts or whole seconds. -/
def Span.IsExact (d : Span) : Prop :=
  nanosPerMilli ∣ d.nanos ∧ (nanosPerSecond ∣ d.nanos ∨ d.millis < Text.wordLimit)

instance (d : Span) : Decidable d.IsExact := inferInstanceAs (Decidable (_ ∧ (_ ∨ _)))

theorem Span.isExact_iff {d : Span} : d.IsExact ↔ d.cut.Readable ∧ d.cut = d := by
  have hcut : nanosPerMilli ∣ d.nanos ↔ d.cut = d := by
    constructor
    · intro hwhole
      exact eq_of_nanos (Nat.div_mul_cancel hwhole)
    · intro hsame
      rw [← hsame]
      exact Nat.dvd_mul_left ..
  unfold IsExact
  rw [hcut, and_comm]
  refine and_congr_left fun hsame => ?_
  rw [hsame]
  rfl

/-- A span that is written comes back without what is less than a millisecond, if it comes back. -/
theorem Settings.reread_ok_iff {α : Type} {d : Span} {next : Span → Except SettingsFault α} {a : α} :
    (((Span.parse d.describe).mapError SettingsFault.span).bind next) = .ok a ↔
      d.cut.Readable ∧ next d.cut = .ok a := by
  by_cases hreadable : d.cut.Readable
  · rw [Span.parse_describe hreadable]
    exact (and_iff_right hreadable).symm
  · rw [Span.parse_describe_of_not_readable hreadable]
    exact iff_of_false nofun fun h => hreadable h.1

namespace Config

def spans (config : Config) : List Span :=
  [config.requestPoll, config.drainInitial, config.drainPoll]

/-- The configuration without what is less than a millisecond. -/
def cut (config : Config) : Config :=
  { config with
    requestPoll := config.requestPoll.cut
    drainInitial := config.drainInitial.cut
    drainPoll := config.drainPoll.cut }

theorem cut_eq_iff {config : Config} : config.cut = config ↔ ∀ span ∈ config.spans, span.cut = span := by
  obtain ⟨crawlers, requestPoll, drainInitial, drainPoll, onUnreachable⟩ := config
  simp [cut, spans]

variable {config : Config}

theorem ofText_toYaml (hnames : ∀ name ∈ config.crawlers, Unmarked name.toList)
    (hdocument : (Document.ofText config.toYaml.toList).Holds config) (env : Environment) :
    ofText env config.toYaml =
      ((Settings.ofWritten config).mapError .settings).map Settings.config := by
  unfold ofText
  rw [interpolate_of_unmarked (unmarked_toYaml hnames)]
  dsimp only
  rw [not_blank_toYaml, if_neg Bool.false_ne_true, Settings.ofDocument_of_holds hdocument]
  cases Settings.ofWritten config <;> rfl

theorem ofText_toYaml_iff (hnames : ∀ name ∈ config.crawlers, Unmarked name.toList)
    (hdocument : (Document.ofText config.toYaml.toList).Holds config) (env : Environment)
    {reloaded : Config} :
    ofText env config.toYaml = .ok reloaded ↔
      (∀ span ∈ config.spans, span.cut.Readable) ∧ reloaded = config.cut := by
  have hwritten : ∀ settings, Settings.ofWritten config = .ok settings ↔
      (∀ span ∈ config.spans, span.cut.Readable) ∧ settings = ⟨some config.crawlers,
        some config.requestPoll.cut, some config.drainInitial.cut, some config.drainPoll.cut,
        some config.onUnreachable⟩ := by
    intro settings
    unfold Settings.ofWritten
    rw [Settings.reread_ok_iff, Settings.reread_ok_iff, Settings.reread_ok_iff, Except.ok.injEq,
      @eq_comm _ _ settings]
    simp [spans, and_assoc]
  rw [ofText_toYaml hnames hdocument]
  cases hread : Settings.ofWritten config with
  | error fault =>
      refine iff_of_false nofun ?_
      intro h
      rw [(hwritten _).2 ⟨h.1, rfl⟩] at hread
      cases hread
  | ok settings =>
      obtain ⟨hreadable, rfl⟩ := (hwritten _).1 hread
      show Except.ok config.cut = Except.ok reloaded ↔ _
      rw [Except.ok.injEq, and_iff_right hreadable, eq_comm]

/-- What becomes of a configuration that is written and read again. -/
structure Reloads (config : Config) (env : Environment) : Prop where
  /-- The names and the policy are the same, and of the spans what is less than a millisecond is left out.
  Nothing comes back if one of them has too many milliseconds. -/
  back : ∀ reloaded, ofText env config.toYaml = .ok reloaded ↔
    (∀ span ∈ config.spans, span.cut.Readable) ∧ reloaded = config.cut
  same : ofText env config.toYaml = .ok config ↔ ∀ span ∈ config.spans, span.IsExact
  /-- So one that is valid is as valid as it was. -/
  valid : config.check = .ok config → (∀ span ∈ config.spans, span.IsExact) →
    ∃ reloaded, ofText env config.toYaml = .ok reloaded ∧ reloaded = config ∧
      reloaded.check = .ok reloaded

/-- A configuration whose names ask for no variable survives being written and read again exactly if its
spans are exact, whatever the environment. -/
theorem reloads (hnames : ∀ name ∈ config.crawlers, Unmarked name.toList)
    (hdocument : (Document.ofText config.toYaml.toList).Holds config) (env : Environment) :
    config.Reloads env := by
  have hsame : ofText env config.toYaml = .ok config ↔ ∀ span ∈ config.spans, span.IsExact := by
    rw [ofText_toYaml_iff hnames hdocument, eq_comm, cut_eq_iff, ← forall₂_and]
    simp only [Span.isExact_iff]
  refine ⟨fun reloaded => ofText_toYaml_iff hnames hdocument env, hsame, ?_⟩
  intro hvalid hexact
  exact ⟨config, hsame.2 hexact, rfl, hvalid⟩

end Config

namespace Quoted

/-- Names that do not stand as they are: one needs quotes, and the other one an escape. -/
def config : Config :=
  { Config.standard with crawlers := ["- mds", "mds\t"], requestPoll := .ofMillis 1500 }

theorem holds : (Document.ofText config.toYaml.toList).Holds config := by decide +kernel

theorem survives :
    Config.ofText (fun _ => some "mds") config.toYaml = .ok config ∧ config.check = .ok config := by
  have hreloads := Config.reloads (by decide +kernel) holds fun _ => some "mds"
  exact ⟨hreloads.same.2 (by decide +kernel), by decide +kernel⟩

end Quoted

namespace HalfMillisecond

/-- A valid configuration one of whose spans is no whole number of milliseconds. -/
def config : Config :=
  { Config.standard with crawlers := [], requestPoll := ⟨1_500_000, by decide⟩ }

theorem holds : (Document.ofText config.toYaml.toList).Holds config := by decide +kernel

/-- Every valid configuration that asks for no variable survives, whatever its spans. -/
def AlwaysSurvives : Prop :=
  ∀ (config : Config) (env : Environment), config.check = .ok config →
    (∀ name ∈ config.crawlers, Unmarked name.toList) →
    (Document.ofText config.toYaml.toList).Holds config → Config.ofText env config.toYaml = .ok config

theorem not_alwaysSurvives : ¬ AlwaysSurvives := by
  intro hsurvives
  have hnames : ∀ name ∈ config.crawlers, Unmarked name.toList := by decide +kernel
  have hsame := hsurvives config (fun _ => none) (by decide +kernel) hnames holds
  have hcut := ((Config.ofText_toYaml_iff hnames holds _).1 hsame).2
  have hpoll : config.requestPoll = config.cut.requestPoll := congrArg Config.requestPoll hcut
  exact absurd hpoll (by decide +kernel)

end HalfMillisecond

end Hydration
