/-
Settings read from a document. Every field may be left out, none may be given twice, and others are
refused. The entries are read in the order of the text, so of several faults the first one counts,
and a fault in a later line of the text itself comes last.
-/
import Hydration.Config.Basic
import Hydration.Yaml.Document
import Hydration.Yaml.Plain

namespace Hydration

open Yaml

-- ============================================================ fields

/-- The fields of a settings text. -/
inductive Field where
  | crawlers
  | requestPoll
  | drainInitial
  | drainPoll
  | onUnreachable
deriving DecidableEq, Repr

namespace Field

def all : List Field := [crawlers, requestPoll, drainInitial, drainPoll, onUnreachable]

def name : Field → String
  | crawlers => "crawlers"
  | requestPoll => "request_poll_interval"
  | drainInitial => "drain_initial_wait"
  | drainPoll => "drain_poll_interval"
  | onUnreachable => "on_provider_unreachable"

def ofName? (s : String) : Option Field := all.find? (·.name = s)

end Field

-- ============================================================ faults

/-- Why a text holds no settings. `place` is the way to a value that does not fit. -/
inductive SettingsFault where
  /-- The text is no single document, or breaks off. -/
  | unreadable
  | unknownField (name : String)
  | duplicateField (field : Field)
  /-- Something of another sort stands where a value or a name was expected. -/
  | wrongType (place : Option String) (found : Found) (expected : String)
  /-- A scalar has the right sort and does not fit. -/
  | wrongValue (place : Option String) (found : Found) (expected : String)
  | span (fault : SpanFault)
  | unknownChoice (place : Option String) (name : String)
deriving DecidableEq

namespace SettingsFault

def quoteName (s : String) : String := "`" ++ s ++ "`"

def atPlace (place : Option String) (text : String) : String :=
  match place with
  | some place => place ++ ": " ++ text
  | none => text

/-- The fault in words. How a text is unreadable is not told. -/
def message? : SettingsFault → Option String
  | unreadable => none
  | unknownField name =>
    some ("unknown field " ++ quoteName name ++ ", expected one of " ++
      ", ".intercalate (Field.all.map fun field => quoteName field.name))
  | duplicateField field => some ("duplicate field " ++ quoteName field.name)
  | wrongType place found expected =>
    some (atPlace place ("invalid type: " ++ found.describe ++ ", expected " ++ expected))
  | wrongValue place found expected =>
    some (atPlace place ("invalid value: " ++ found.describe ++ ", expected " ++ expected))
  | span fault => some fault.message
  | unknownChoice place name =>
    some (atPlace place ("unknown variant " ++ quoteName name ++ ", expected " ++
      quoteName UnreachablePolicy.allow.name ++ " or " ++ quoteName UnreachablePolicy.deny.name))

end SettingsFault

-- ============================================================ values

/-- The fields that a text gives. -/
structure Settings where
  crawlers : Option (List String)
  requestPoll : Option Span
  drainInitial : Option Span
  drainPoll : Option Span
  onUnreachable : Option UnreachablePolicy

namespace Settings

def empty : Settings := ⟨none, none, none, none, none⟩

def gives (settings : Settings) : Field → Bool
  | .crawlers => settings.crawlers.isSome
  | .requestPoll => settings.requestPoll.isSome
  | .drainInitial => settings.drainInitial.isSome
  | .drainPoll => settings.drainPoll.isSome
  | .onUnreachable => settings.onUnreachable.isSome

/-- The configuration of these settings; what they leave out is as usual. -/
def config (settings : Settings) : Config where
  crawlers := settings.crawlers.getD Config.standard.crawlers
  requestPoll := settings.requestPoll.getD Config.standard.requestPoll
  drainInitial := settings.drainInitial.getD Config.standard.drainInitial
  drainPoll := settings.drainPoll.getD Config.standard.drainPoll
  onUnreachable := settings.onUnreachable.getD Config.standard.onUnreachable

-- ============================================================ single events

/-- The event at a position, behind an alias the one it refers to, with its own position. -/
def event? (document : Document) (position : Nat) : Option (Event × Nat) :=
  match document.events[position]? with
  | some (.alias number) =>
    (document.targets.lookup number).bind fun target =>
      document.events[target]?.map fun event => (event, target)
  | some event => some (event, position)
  | none => none

/-- The standard tags that ask for a sort of scalar: what such a scalar is, or what it should be. -/
def taggedFound? (tag : Tag) (s : String) : Option (Except String Found) :=
  let core (name : String) : Bool := tag = Tag.ofString ("tag:yaml.org,2002:" ++ name)
  let orElse (found : Option Found) (expected : String) : Option (Except String Found) :=
    some (match found with
      | some found => .ok found
      | none => .error expected)
  if core "bool" then orElse ((Plain.truth? s).map .truth) "a boolean"
  else if core "int" then orElse ((Plain.integer? s.toList).map Plain.foundInteger) "an integer"
  else if core "float" then orElse ((Plain.float? s).map .float) "a float"
  else if core "null" then orElse (if Plain.isNull s then some .nothing else none) "null"
  else none

def isLocal (tag : Tag) : Bool := tag.octets.head? = some '!'.toUInt8

/-- The fault of a scalar that stands where a collection is expected. -/
def scalarFault (place : Option String) (scalar : Scalar) (tag : Option Tag) (expected : String) :
    SettingsFault :=
  let typed (found : Found) : SettingsFault := .wrongType place found expected
  match tag.bind (taggedFound? · scalar.text) with
  | some (.ok found) => typed found
  | some (.error wanted) => .wrongValue place (.text scalar.text) wanted
  | none =>
    if scalar.plain && tag.all isLocal then typed (Plain.resolve scalar.text)
    else typed (.text scalar.text)

/-- The fault of an event that does not fit. -/
def eventFault (place : Option String) (event : Event) (expected : String) : SettingsFault :=
  match event with
  | .scalar scalar tag => scalarFault place scalar tag expected
  | .sequenceStart _ => .wrongType place .sequence expected
  | .mappingStart _ => .wrongType place .mapping expected
  | _ => .unreadable

/-- The text of a scalar. Any scalar will do, whatever it looks like. -/
def text (document : Document) (place : Option String) (position : Nat) (expected : String) :
    Except SettingsFault String :=
  match event? document position with
  | some (.scalar scalar _, _) => .ok scalar.text
  | some (event, _) => .error (eventFault place event expected)
  | none => .error .unreadable

def isOmitted (scalar : Scalar) : Bool := scalar.plain && scalar.text.isEmpty

-- ============================================================ fields

/-- The texts from a position to the end of their sequence, and the position behind it. -/
def textsFrom (document : Document) (place : String) :
    Nat → Nat → Nat → Except SettingsFault (List String × Nat)
  | 0, _, _ => .error .unreadable
  | fuel + 1, index, position =>
    match document.events[position]? with
    | none => .error .unreadable
    | some .sequenceEnd => .ok ([], position + 1)
    | some _ => do
      let itsPlace := place ++ "[" ++ Text.decimal index ++ "]"
      let first ← text document (some itsPlace) position "a string"
      let (others, next) ← textsFrom document place fuel (index + 1) (position + 1)
      .ok (first :: others, next)

/-- A list of texts; a value left out is an empty list. Gives the position behind the value, which for
an alias is not the one behind what it refers to. -/
def texts (document : Document) (place : String) (position : Nat) :
    Except SettingsFault (List String × Nat) :=
  match event? document position with
  | none => .error .unreadable
  | some (.sequenceStart _, start) => do
    let (items, next) ← textsFrom document place document.events.size 0 (start + 1)
    .ok (items, if start = position then next else position + 1)
  | some (event, _) =>
    match event with
    | .scalar scalar _ =>
      if isOmitted scalar then .ok ([], position + 1)
      else .error (eventFault (some place) event "a sequence")
    | _ => .error (eventFault (some place) event "a sequence")

def span (document : Document) (place : String) (position : Nat) : Except SettingsFault Span := do
  let s ← text document (some place) position "a string"
  match Span.parse s with
  | .ok span => .ok span
  | .error fault => .error (.span fault)

/-- A tag may name the choice, with nothing behind it. An unknown name has a place only where the value
is an alias. -/
def taggedChoice (place name : String) (aliased : Bool) (event : Event) :
    Except SettingsFault UnreachablePolicy :=
  match UnreachablePolicy.ofName? name with
  | none => .error (.unknownChoice (if aliased then some place else none) name)
  | some choice =>
    match event with
    | .scalar scalar _ =>
      if scalar.plain && (scalar.text.isEmpty || Plain.isNull scalar.text) then .ok choice
      else .error (.wrongValue (some place) (.text scalar.text) "null")
    | _ => .error (eventFault (some place) event "unit")

/-- The name in a tag that begins with the mark: what follows it, or the mark if nothing does. -/
def tagName? (tag : Tag) : Option String :=
  if isLocal tag then (if tag.octets.length = 1 then tag else ⟨tag.octets.drop 1⟩).text? else none

def choice (document : Document) (place : String) (position : Nat) :
    Except SettingsFault UnreachablePolicy :=
  match event? document position with
  | none => .error .unreadable
  | some (event, start) =>
    let name? := match event with
      | .scalar _ tag | .sequenceStart tag | .mappingStart tag => tag.bind tagName?
      | _ => none
    match name?, event with
    | some name, _ => taggedChoice place name (start != position) event
    | none, .scalar scalar _ =>
      match UnreachablePolicy.ofName? scalar.text with
      | some choice => .ok choice
      | none => .error (.unknownChoice (some place) scalar.text)
    | none, _ => .error (eventFault (some place) event "a YAML tag starting with '!'")

/-- Adds the value of a field. Gives the position behind it. -/
def add (document : Document) (settings : Settings) (field : Field) (place : String)
    (position : Nat) : Except SettingsFault (Settings × Nat) :=
  match field with
  | .crawlers => do
    let (crawlers, next) ← texts document place position
    .ok ({ settings with crawlers := some crawlers }, next)
  | .requestPoll => do
    let span ← span document place position
    .ok ({ settings with requestPoll := some span }, position + 1)
  | .drainInitial => do
    let span ← span document place position
    .ok ({ settings with drainInitial := some span }, position + 1)
  | .drainPoll => do
    let span ← span document place position
    .ok ({ settings with drainPoll := some span }, position + 1)
  | .onUnreachable => do
    let choice ← choice document place position
    .ok ({ settings with onUnreachable := some choice }, position + 1)

-- ============================================================ the mapping

/-- The name of a field, and the way to its value: a name behind an alias is not shown. -/
def fieldAt (document : Document) (position : Nat) : Except SettingsFault (Field × String) := do
  let name ← text document none position "field identifier"
  match Field.ofName? name with
  | none => .error (.unknownField name)
  | some field =>
    match document.events[position]? with
    | some (.alias _) => .ok (field, "?")
    | _ => .ok (field, field.name)

/-- Reads the entries from a position to the end of the mapping. -/
def entriesFrom (document : Document) : Nat → Settings → Nat → Except SettingsFault Settings
  | 0, _, _ => .error .unreadable
  | fuel + 1, settings, position =>
    match document.events[position]? with
    | none => .error .unreadable
    | some .mappingEnd => .ok settings
    | some _ => do
      let (field, place) ← fieldAt document position
      if settings.gives field then .error (.duplicateField field)
      else
        let (settings, next) ← add document settings field place (position + 1)
        entriesFrom document fuel settings next

/-- Reads the settings of a document. A document with nothing in it gives none. -/
def ofDocument (document : Document) : Except SettingsFault Settings := do
  let settings ←
    match event? document 0 with
    | none => if document.whole then .ok empty else .error .unreadable
    | some (event, start) =>
      match event with
      | .mappingStart _ => entriesFrom document document.events.size empty (start + 1)
      | .scalar scalar _ =>
        if isOmitted scalar then .ok empty
        else .error (eventFault none event "struct ArbiterConfig")
      | _ => .error (eventFault none event "struct ArbiterConfig")
  if document.whole then .ok settings else .error .unreadable

end Settings

end Hydration
