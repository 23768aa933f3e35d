import Sysboost.ByteCodec.Unicode
import Sysboost.Core.Hex
import Sysboost.Json.Reader
import Mathlib.Data.List.Forall2

/-!
# Structured logging

One event is rendered as a JSON object on a line of its own.  Whatever its texts
are, the line has no control character and is read back as the event's members.
-/

namespace Sysboost.Platform

open Sysboost.Core ByteCodec

/-! ## Events -/

/-- Structured log severity. -/
inductive LogLevel where
  | trace
  | info
  | warn
  | error
deriving DecidableEq

/-- JSON-compatible primitive log value. -/
inductive LogValue where
  | text (value : String)
  | unsigned (value : UInt64)
  | bool (value : Bool)
deriving DecidableEq

/-- One stable key/value field. -/
structure LogField where
  key : String
  value : LogValue
deriving DecidableEq

/-- Structured operation event. -/
structure LogEvent where
  timestamp : Timestamp
  level : LogLevel
  component : String
  sessionId : Option SessionId
  mutationId : Option MutationId
  backendId : Option BackendId
  capabilityId : Option CapabilityId
  targetId : Option TargetId
  event : String
  outcome : String
  fields : List LogField
deriving DecidableEq

/-! ## Rendering -/

def levelName : LogLevel → String
  | .trace => "trace"
  | .info => "info"
  | .warn => "warn"
  | .error => "error"

/-- `char::is_control`: the C0 and C1 controls and the delete character. -/
def isControl (character : Char) : Bool :=
  character.toNat < 32 || 127 ≤ character.toNat && character.toNat < 160

/-- The format `{:04x}`. -/
def hex4 (value : Nat) : List Char :=
  (Nat.toDigits 16 value).leftpad 4 '0'

/-- What the loop of `push_string` pushes for a character. -/
def escape (character : Char) : String :=
  match character with
  | '"' => "\\\""
  | '\\' => "\\\\"
  | '\n' => "\\n"
  | '\r' => "\\r"
  | '\t' => "\\t"
  | character =>
      if isControl character then "\\u" ++ String.ofList (hex4 character.toNat)
      else String.singleton character

def pushString (output value : String) : String :=
  value.toList.foldl (fun output character => output ++ escape character) (output ++ "\"") ++ "\""

def pushField (output : String) (field : LogField) : String :=
  let output := pushString (output ++ ",") field.key ++ ":"
  match field.value with
  | .text value => pushString output value
  | .unsigned value => output ++ toString value.toNat
  | .bool value => output ++ if value then "true" else "false"

/-- The text of a session ID. -/
def displaySession (sessionId : SessionId) : String :=
  String.ofList (sessionId.toHex.map Char.ofUInt8)

def renderJson (event : LogEvent) : String :=
  let output := "\x7b\"timestamp_ms\":" ++ toString event.timestamp.asUnixMillis.toNat
  let output := pushString (output ++ ",\"level\":") (levelName event.level)
  let output := pushString (output ++ ",\"component\":") event.component
  let output := pushString (output ++ ",\"event\":") event.event
  let output := pushString (output ++ ",\"outcome\":") event.outcome
  let output := event.sessionId.elim output fun sessionId =>
    pushString (output ++ ",\"session_id\":") (displaySession sessionId)
  let output := event.mutationId.elim output fun mutationId =>
    output ++ ",\"mutation_id\":" ++ toString mutationId.get.toNat
  let output := event.backendId.elim output fun backendId =>
    pushString (output ++ ",\"backend_id\":") backendId.asStr
  let output := event.capabilityId.elim output fun capabilityId =>
    pushString (output ++ ",\"capability_id\":") capabilityId.asStr
  let output := event.targetId.elim output fun targetId =>
    pushString (output ++ ",\"target_id\":") targetId.asStr
  event.fields.foldl pushField output ++ "\x7d"

/-- What `emit` leaves in a writer that accepts every write. -/
def emit (written : String) (event : LogEvent) : String :=
  written ++ (renderJson event ++ "\n")

/-! ## Members -/

open Json

def LogValue.scalar : LogValue → Scalar
  | .text value => .text value
  | .unsigned value => .number value.toNat
  | .bool value => .bool value

/-- The members after the first one. -/
def LogEvent.later (event : LogEvent) : List (String × Scalar) :=
  [("level", Scalar.text (levelName event.level)), ("component", .text event.component),
    ("event", .text event.event), ("outcome", .text event.outcome)] ++
  (event.sessionId.map fun id => ("session_id", Scalar.text (displaySession id))).toList ++
  (event.mutationId.map fun id => ("mutation_id", Scalar.number id.get.toNat)).toList ++
  (event.backendId.map fun id => ("backend_id", Scalar.text id.asStr)).toList ++
  (event.capabilityId.map fun id => ("capability_id", Scalar.text id.asStr)).toList ++
  (event.targetId.map fun id => ("target_id", Scalar.text id.asStr)).toList ++
  event.fields.map fun field => (field.key, field.value.scalar)

/-- What an event says, in the order of its line. -/
def LogEvent.members (event : LogEvent) : List (String × Scalar) :=
  ("timestamp_ms", .number event.timestamp.asUnixMillis.toNat) :: event.later

def escapeAll (value : String) : List Char :=
  value.toList.flatMap fun character => (escape character).toList

def scalarText : Scalar → List Char
  | .text value => quoted (escapeAll value)
  | .number value => Nat.toDigits 10 value.toNat
  | .bool value => if value then "true".toList else "false".toList
  | .null => "null".toList

/-- The text of a member, as it is rendered. -/
def memberText (member : String × Scalar) : List Char :=
  quoted (escapeAll member.1) ++ ':' :: scalarText member.2

/-- The texts of members, each after a comma. -/
def laterText (members : List (String × Scalar)) : List Char :=
  (members.map memberText).flatMap (',' :: ·)

/-! ## What is rendered -/

theorem toList_pushString (output value : String) :
    (pushString output value).toList = output.toList ++ quoted (escapeAll value) := by
  have fold (symbols : List Char) (output : String) :
      (symbols.foldl (fun output character => output ++ escape character) output).toList =
        output.toList ++ symbols.flatMap fun character => (escape character).toList := by
    induction symbols generalizing output with
    | nil => simp
    | cons symbol rest ih => simp [ih]
  simp [pushString, fold, escapeAll, quoted]

/-- An output with members added to it. -/
def Adds (output output' : String) (members : List (String × Scalar)) : Prop :=
  output'.toList = output.toList ++ laterText members

theorem Adds.trans {output middle output' : String} {front back : List (String × Scalar)}
    (first : Adds output middle front) (second : Adds middle output' back) :
    Adds output output' (front ++ back) := by
  unfold Adds laterText at *
  simp [first, second]

theorem adds_text {output fixed key : String} (value : String)
    (fixes : fixed.toList = ',' :: (quoted (escapeAll key) ++ [':'])) :
    Adds output (pushString (output ++ fixed) value) [(key, .text value)] := by
  simp [Adds, laterText, memberText, scalarText, toList_pushString, fixes]

theorem adds_number {output fixed key : String} (value : Nat)
    (fixes : fixed.toList = ',' :: (quoted (escapeAll key) ++ [':'])) :
    Adds output (output ++ fixed ++ toString value) [(key, .number value)] := by
  simp [Adds, laterText, memberText, scalarText, fixes]

theorem adds_elim {α : Type} {output : String} {value : Option α} {next : α → String}
    {member : α → String × Scalar} (adds : ∀ value, Adds output (next value) [member value]) :
    Adds output (value.elim output next) (value.map member).toList := by
  cases value with
  | none => simp [Adds, laterText]
  | some value => exact adds value

theorem adds_fields (fields : List LogField) (output : String) :
    Adds output (fields.foldl pushField output)
      (fields.map fun field => (field.key, field.value.scalar)) := by
  induction fields generalizing output with
  | nil => simp [Adds, laterText]
  | cons field rest ih =>
      have first : Adds output (pushField output field) [(field.key, field.value.scalar)] := by
        unfold Adds laterText pushField
        cases field.value with
        | text value => simp [toList_pushString, memberText, LogValue.scalar, scalarText]
        | unsigned value => simp [toList_pushString, memberText, LogValue.scalar, scalarText]
        | bool value =>
            cases value with
            | true => simp [toList_pushString, memberText, LogValue.scalar, scalarText]
            | false => simp [toList_pushString, memberText, LogValue.scalar, scalarText]
      exact first.trans (ih _)

/-- The line of an event is an object with the texts of its members. -/
theorem toList_renderJson (event : LogEvent) :
    (renderJson event).toList =
      '\x7b' :: (memberText ("timestamp_ms", .number event.timestamp.asUnixMillis.toNat) ++
        (laterText event.later ++ ['\x7d'])) := by
  have first : ("\x7b\"timestamp_ms\":" ++ toString event.timestamp.asUnixMillis.toNat).toList =
      '\x7b' :: memberText ("timestamp_ms", .number event.timestamp.asUnixMillis.toNat) := by
    have fixed : "\x7b\"timestamp_ms\":".toList =
        '\x7b' :: (quoted (escapeAll "timestamp_ms") ++ [':']) := by
      decide
    simp [fixed, memberText, scalarText]
  have rendered : ∃ output, renderJson event = output ++ "\x7d" ∧
      Adds ("\x7b\"timestamp_ms\":" ++ toString event.timestamp.asUnixMillis.toNat) output
        event.later := by
    refine ⟨_, rfl, ?_⟩
    refine Adds.trans ?_ (adds_fields _ _)
    refine Adds.trans ?_ (adds_elim fun id => adds_text id.asStr (by decide))
    refine Adds.trans ?_ (adds_elim fun id => adds_text id.asStr (by decide))
    refine Adds.trans ?_ (adds_elim fun id => adds_text id.asStr (by decide))
    refine Adds.trans ?_ (adds_elim fun id => adds_number id.get.toNat (by decide))
    refine Adds.trans ?_ (adds_elim fun id => adds_text (displaySession id) (by decide))
    show Adds _ _ ([_] ++ [_] ++ [_] ++ [_])
    refine Adds.trans ?_ (adds_text event.outcome (by decide))
    refine Adds.trans ?_ (adds_text event.event (by decide))
    refine Adds.trans ?_ (adds_text event.component (by decide))
    exact adds_text (levelName event.level) (by decide)
  obtain ⟨output, same, later⟩ := rendered
  unfold Adds at later
  rw [same, String.toList_append, later, first]
  simp

/-! ## Reading it back -/

theorem codeUnit_hex4 : ∀ value < 160, (match hex4 value with
    | [first, second, third, fourth] => codeUnit first second third fourth
    | _ => none) = some value := by
  decide +kernel

/-- The escape of a character is read as this character. -/
theorem spells_escaped (character : Char) : Spells (escape character).toList [character] := by
  unfold escape
  split
  · exact spells_escape rfl
  · exact spells_escape rfl
  · exact spells_escape rfl
  · exact spells_escape rfl
  · exact spells_escape rfl
  next quote backslash line carriage tab =>
    split
    next control =>
      have small : character.toNat < 160 := by
        simp only [isControl, Bool.or_eq_true, Bool.and_eq_true, decide_eq_true_eq] at control
        omega
      have unit := codeUnit_hex4 _ small
      split at unit
      next first second third fourth digits =>
        have spells := spells_unit unit (.inl (by omega))
        rw [Char.ofNat_toNat] at spells
        simpa [digits] using spells
      · cases unit
    next visible =>
      simp only [isControl, Bool.or_eq_true, decide_eq_true_eq, not_or, not_lt] at visible
      rw [String.toList_singleton]
      exact spells_plain quote backslash visible.1

theorem spells_escapeAll (value : String) : Spells (escapeAll value) value.toList :=
  spells_flatMap spells_escaped value.toList

/-- A value that an event can have. -/
def Loggable : Scalar → Prop
  | .text _ | .bool _ => True
  | .number value => 0 ≤ value
  | .null => False

theorem shows_scalarText {value : Scalar} (loggable : Loggable value) :
    Shows (scalarText value) value := by
  cases value with
  | text value => exact shows_quoted (spells_escapeAll value)
  | number value =>
      have shows' := shows_natural value.toNat
      rwa [Int.toNat_of_nonneg loggable] at shows'
  | bool value => exact shows_bool value
  | null => exact loggable.elim

theorem showsMember_memberText {member : String × Scalar} (loggable : Loggable member.2) :
    ShowsMember (memberText member) member :=
  showsMember (spells_escapeAll member.1) (shows_scalarText loggable)

theorem loggable_later (event : LogEvent) : ∀ member ∈ event.later, Loggable member.2 := by
  intro member listed
  simp only [LogEvent.later, List.mem_append, List.mem_cons, List.not_mem_nil, or_false,
    Option.mem_toList, Option.map_eq_some_iff, List.mem_map] at listed
  rcases listed with ((((((same | same | same | same) | ⟨_, -, rfl⟩) | ⟨_, -, rfl⟩) |
    ⟨_, -, rfl⟩) | ⟨_, -, rfl⟩) | ⟨_, -, rfl⟩) | ⟨field, -, rfl⟩
  · rw [same]
    trivial
  · rw [same]
    trivial
  · rw [same]
    trivial
  · rw [same]
    trivial
  · trivial
  · exact Int.natCast_nonneg _
  · trivial
  · trivial
  · trivial
  · cases known : field.value with
    | text value => trivial
    | unsigned value => exact Int.natCast_nonneg _
    | bool value => trivial

/-- The members of an event are read back from its line. -/
theorem readObject_renderJson (event : LogEvent) :
    readObject (renderJson event) = some event.members := by
  have texts : List.Forall₂ ShowsMember (event.later.map memberText) event.later := by
    rw [List.forall₂_map_left_iff, List.forall₂_same]
    exact fun member listed => showsMember_memberText (loggable_later event member listed)
  have first : ShowsMember
      (memberText ("timestamp_ms", .number event.timestamp.asUnixMillis.toNat))
      ("timestamp_ms", .number event.timestamp.asUnixMillis.toNat) :=
    showsMember_memberText (Int.natCast_nonneg _)
  have read := readObject_text first texts
  rwa [← laterText, ← toList_renderJson, String.ofList_toList] at read

/-! ## One line for each event -/

/-- A text without a control character. -/
def Clean (text : List Char) : Prop :=
  ∀ character ∈ text, isControl character = false

instance (text : List Char) : Decidable (Clean text) :=
  List.decidableBAll _ _

theorem Clean.append {front back : List Char} (clean : Clean front) (clean' : Clean back) :
    Clean (front ++ back) := by
  intro character member
  rcases List.mem_append.mp member with member | member
  · exact clean character member
  · exact clean' character member

theorem Clean.cons {character : Char} {text : List Char} (visible : isControl character = false)
    (clean : Clean text) : Clean (character :: text) := by
  intro other member
  rcases List.mem_cons.mp member with rfl | member
  · exact visible
  · exact clean other member

theorem clean_escape (character : Char) : Clean (escape character).toList := by
  have digits : ∀ value < 160, Clean (hex4 value) := by
    decide +kernel
  unfold escape
  split
  · decide
  · decide
  · decide
  · decide
  · decide
  · split
    next control =>
      have small : character.toNat < 160 := by
        simp only [isControl, Bool.or_eq_true, Bool.and_eq_true, decide_eq_true_eq] at control
        omega
      have front : Clean "\\u".toList := by decide
      have back : Clean (String.ofList (hex4 character.toNat)).toList := by
        rw [String.toList_ofList]
        exact digits _ small
      rw [String.toList_append]
      exact front.append back
    next visible =>
      intro other member
      rw [String.toList_singleton, List.mem_singleton] at member
      rw [member]
      exact Bool.not_eq_true _ ▸ visible

theorem clean_quoted (value : String) : Clean (quoted (escapeAll value)) := by
  refine .cons rfl (.append ?_ (.cons rfl nofun))
  intro character member
  obtain ⟨symbol, -, member⟩ := List.mem_flatMap.mp member
  exact clean_escape symbol character member

theorem clean_scalarText (value : Scalar) : Clean (scalarText value) := by
  cases value with
  | text value => exact clean_quoted value
  | number value =>
      intro digit member
      have range : 48 ≤ digit.toNat ∧ digit.toNat ≤ 57 :=
        (toNat_toUInt8_of_isDigit
          (Nat.isDigit_of_mem_toDigits (by decide) (by decide) member)).2
      simp only [isControl, Bool.or_eq_false_iff, Bool.and_eq_false_iff, decide_eq_false_iff_not]
      omega
  | bool value =>
      cases value with
      | true => decide
      | false => decide
  | null => decide

theorem clean_memberText (member : String × Scalar) : Clean (memberText member) :=
  (clean_quoted member.1).append (.cons rfl (clean_scalarText member.2))

theorem clean_renderJson (event : LogEvent) : Clean (renderJson event).toList := by
  rw [toList_renderJson]
  refine .cons rfl ((clean_memberText _).append (.append ?_ (.cons rfl nofun)))
  intro character member
  obtain ⟨text, listed, member⟩ := List.mem_flatMap.mp member
  obtain ⟨other, -, rfl⟩ := List.mem_map.mp listed
  exact Clean.cons rfl (clean_memberText other) character member

theorem toList_foldl_emit (events : List LogEvent) (written : String) :
    (events.foldl emit written).toList =
      written.toList ++ events.flatMap fun event => (renderJson event).toList ++ ['\n'] := by
  induction events generalizing written with
  | nil => simp
  | cons event rest ih => simp [ih, emit]

/-- The lines of a log are those of its events, one for each. -/
theorem splitOn_foldl_emit (events : List LogEvent) :
    (events.foldl emit "").toList.splitOn '\n' =
      events.map (fun event => (renderJson event).toList) ++ [[]] := by
  rw [toList_foldl_emit, String.toList_empty, List.nil_append]
  induction events with
  | nil => rfl
  | cons event rest ih =>
      have absent : '\n' ∉ (renderJson event).toList := by
        intro member
        exact absurd (clean_renderJson event _ member) (by decide)
      rw [List.flatMap_cons, List.append_assoc, List.singleton_append,
        List.splitOn_append_cons_self, List.splitOn_eq_singleton absent, ih]
      rfl

/-- **Log lines cannot be forged.**  The line of an event has no control
character and is read as an object with exactly the members of the event, in
order; a log has one such line for each event. -/
theorem renderJson_unforgeable (event : LogEvent) :
    (∀ character ∈ (renderJson event).toList, isControl character = false) ∧
      readObject (renderJson event) = some event.members ∧
      ∀ events : List LogEvent, (events.foldl emit "").toList.splitOn '\n' =
        events.map (fun event => (renderJson event).toList) ++ [[]] :=
  ⟨clean_renderJson event, readObject_renderJson event, splitOn_foldl_emit⟩

end Sysboost.Platform
