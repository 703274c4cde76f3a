import SignalRelay.Log.Pattern
import SignalRelay.Log.Record

/-!
# Log filters

A filter is a list of directives between commas. Each allows records up to a level, either
everywhere or from the targets that start with a given text, and either all records or those that
have a given field; of the directives that apply to a record, the most specific one counts.

A directive is written `target[span{field=value}]=level`, where every part can be left out.
What a directive asks of spans or of values does not concern records outside of spans.
-/

namespace SignalRelay

/-- A directive: records from targets that start with `target`, and that have the field if one is
given, are allowed up to a rank of level, where zero allows none. -/
structure LogDirective where
  target : List Char
  field : Option (List Char)
  rank : Nat
  deriving DecidableEq, Repr

/-- The directives in force, the later ones first. -/
structure LogFilter where
  directives : List LogDirective
  deriving DecidableEq, Repr

/-! ### Levels -/

/-- The rank of a level: its name in letters of either case, or its number. -/
def LogLevel.rank? (s : List Char) : Option Nat :=
  match Text.unsigned? LogLevel.trace.rank s with
  | some n => some n
  | none =>
    let levels := [LogLevel.error, .warn, .info, .debug, .trace]
    let word := s.map Char.toUpper
    if word = "OFF".toList then some 0
    else (levels.find? fun level => level.text.toList == word).map LogLevel.rank

namespace LogDirective

/-! ### Fields -/

/-- Whether a text is a decimal number with a point or an exponent, or the word for a value that is
no number or infinite. -/
def isDecimal (s : List Char) : Bool :=
  if ["inf", "infinity", "nan"].contains (String.ofList (s.map Char.toLower)) then true
  else
    let (whole, s) := Text.takeDigits 10 s
    let (fraction, s) := match s with
      | '.' :: s => Text.takeDigits 10 s
      | _ => ([], s)
    let exponent := match s with
      | [] => true
      | 'e' :: '+' :: s | 'E' :: '+' :: s | 'e' :: '-' :: s | 'E' :: '-' :: s
      | 'e' :: s | 'E' :: s => (Text.natural? s).isSome
      | _ => false
    !(whole.isEmpty && fraction.isEmpty) && exponent

/-- Whether a field may be asked for a value: by a pattern, or by a number. Without a plus sign, a
number is a pattern as well. -/
def isValue : List Char → Bool
  | '+' :: s => isDecimal s
  | s => Pattern.isPattern s

/-- What a directive asks of a field: to be there, or to have a value. The value ends at a second
equals sign. -/
inductive FieldDemand where
  | present (name : List Char)
  | valued

def FieldDemand.parse? (s : List Char) : Option FieldDemand :=
  if s = [] then none
  else
    match s.dropWhile (· ≠ '=') with
    | [] => some (.present s)
    | _ :: value => if isValue (value.takeWhile (· ≠ '=')) then some .valued else none

/-! ### Reading -/

/-- Where the reading of a directive stands. Parts that have begun keep the place at which they
begin. -/
inductive Stage where
  | start
  | word
  | span (start : Nat)
  | field (start : Nat)
  | fieldsDone
  | spanDone
  | level (start : Nat)
  deriving DecidableEq, Repr

structure Draft where
  target : List Char
  /-- Whether spans of a certain name are asked for. -/
  inSpan : Bool
  demand : Option FieldDemand
  stage : Stage

/-- Whether a directive may start with a character, other than by the bracket of a span. -/
def mayStart (c : Char) : Bool := Text.isAlphanumeric c || "-:_".toList.contains c

/-- Splits a text after a number of bytes of its UTF-8 form; `none` inside a character and beyond
the end. -/
def splitBytes? : (n : Nat) → List Char → Option (List Char × List Char)
  | 0, s => some ([], s)
  | _ + 1, [] => none
  | n + 1, c :: s =>
    if c.utf8Size ≤ n + 1 then
      (splitBytes? (n + 1 - c.utf8Size) s).map fun (front, rest) => (c :: front, rest)
    else none

/-- Splitting loses nothing. -/
theorem append_of_splitBytes? {n : Nat} {s front rest : List Char}
    (h : splitBytes? n s = some (front, rest)) : front ++ rest = s := by
  induction s generalizing n front with
  | nil => cases n <;> simp_all [splitBytes?]
  | cons c s ih =>
    cases n with
    | zero => simp_all [splitBytes?]
    | succ n =>
      simp only [splitBytes?] at h
      split at h
      · simp only [Option.map_eq_some_iff, Prod.exists, Prod.mk.injEq] at h
        obtain ⟨front, rest, h, rfl, rfl⟩ := h
        simp [ih h]
      · cases h

/-- The part of a text in front of a place. -/
def upTo? (s : List Char) (stop : Nat) : Option (List Char) := (splitBytes? stop s).map Prod.fst

/-- The part of a text from a place on. -/
def from? (s : List Char) (start : Nat) : Option (List Char) := (splitBytes? start s).map Prod.snd

/-- The part of a text between two places. -/
def between? (s : List Char) (start stop : Nat) : Option (List Char) :=
  (from? s start).bind fun rest => upTo? rest (stop - start)

/-- Reads the character at a place of a directive, where places count bytes. The parts are taken out
of `whole`. -/
def Draft.next? (whole : List Char) (draft : Draft) (place : Nat) (c : Char) : Option Draft :=
  match draft.stage with
  | .start =>
    if c = '[' then some { draft with stage := .span (place + 1) }
    else if mayStart c then some { draft with stage := .word }
    else none
  | .word =>
    if c = '=' then
      (upTo? whole place).map fun target => { draft with target, stage := .level (place + 1) }
    else if c = '[' then
      (upTo? whole place).map fun target => { draft with target, stage := .span (place + 1) }
    else some draft
  | .span start =>
    if c = ']' then
      (between? whole start place).map fun _ => { draft with inSpan := true, stage := .spanDone }
    else if c = '\x7b' then
      (between? whole start place).map fun name =>
        { draft with inSpan := !name.isEmpty, stage := .field (place + 1) }
    else some draft
  | .field start =>
    if c = '\x7d' then
      ((between? whole start place).bind FieldDemand.parse?).map fun demand =>
        { draft with demand := some demand, stage := .fieldsDone }
    else some draft
  | .fieldsDone => if c = ']' then some { draft with stage := .spanDone } else none
  | .spanDone => if c = '=' then some { draft with stage := .level (place + 1) } else none
  | .level _ => some draft

def Draft.run? (whole : List Char) (draft : Draft) (place : Nat) : List Char → Option Draft
  | [] => some draft
  | c :: s => (draft.next? whole place c).bind fun draft => run? whole draft (place + c.utf8Size) s

/-- The directive that a draft comes to with a level; `some none` if it is bound to spans or to
values, and so applies to no record outside of spans. -/
def Draft.withRank (draft : Draft) (rank : Nat) : Option LogDirective :=
  if draft.inSpan then none
  else
    match draft.demand with
    | none => some ⟨draft.target, none, rank⟩
    | some (.present name) => some ⟨draft.target, some name, rank⟩
    | some .valued => none

/-- The directive that a draft comes to at its end. A word alone is a level or else a target. -/
def Draft.finish? (whole : List Char) (draft : Draft) : Option (Option LogDirective) :=
  match draft.stage with
  | .word =>
    match LogLevel.rank? whole with
    | some rank => some (some ⟨[], none, rank⟩)
    | none => some (some ⟨whole, none, LogLevel.trace.rank⟩)
  | .level start =>
    match from? whole start with
    | none => none
    | some [] => some (draft.withRank LogLevel.trace.rank)
    | some level => (LogLevel.rank? level).map draft.withRank
  | .spanDone => some (draft.withRank LogLevel.trace.rank)
  | .start | .span _ | .field _ | .fieldsDone => none

/-- Reads a directive. Blanks around it are passed over, but places are counted as if there were
none in front: then the parts are not what they seem, and a level is never one. -/
def parse? (s : List Char) : Option (Option LogDirective) :=
  (Draft.run? s ⟨[], false, none, .start⟩ 0 (Text.trimEnd (Text.trimStart s))).bind
    fun draft => draft.finish? s

/-! ### Effect -/

/-- Whether a directive applies to a record from a target. -/
def applies (target : List Char) (record : LogRecord) (directive : LogDirective) : Bool :=
  directive.target.isPrefixOf target &&
    match directive.field with
    | none => true
    | some name => record.fieldNames.contains (String.ofList name)

/-- Whether a directive is less specific than another one: by a shorter target, or else by its
field, where none comes first and others follow in their order. -/
def isLessSpecific (a b : LogDirective) : Bool :=
  if a.target.length = b.target.length then
    match a.field, b.field with
    | none, some _ => true
    | some x, some y => decide (x < y)
    | _, none => false
  else decide (a.target.length < b.target.length)

/-- The more specific of two directives, the first one when neither is. -/
def closer (a b : LogDirective) : LogDirective := if isLessSpecific a b then b else a

end LogDirective

namespace LogFilter

/-- Allows records of a level and of all graver ones. -/
def upTo (level : LogLevel) : LogFilter := ⟨[⟨[], none, level.rank⟩]⟩

/-- The directives between commas; `none` when one of them has no meaning. -/
def parse? (text : String) : Option LogFilter :=
  let parts := (text.splitOn ",").filter (· ≠ "")
  match parts.mapM fun part => LogDirective.parse? part.toList with
  | none => none
  | some [] => some (upTo .error)
  | some directives => some ⟨(directives.filterMap id).reverse⟩

/-- The directive that counts for a record from a target. -/
def directive? (filter : LogFilter) (target : String) (record : LogRecord) :
    Option LogDirective :=
  match filter.directives.filter (LogDirective.applies target.toList record) with
  | [] => none
  | directive :: rest => some (rest.foldl LogDirective.closer directive)

def allows (filter : LogFilter) (target : String) (record : LogRecord) : Bool :=
  (filter.directive? target record).any fun directive => record.level.rank ≤ directive.rank

end LogFilter

end SignalRelay
