import SignalRelay.Message.ClientId
import SignalRelay.Text.Blank

/-!
# Messages of the media endpoint

A message that starts with `SESSION ` reports on the session of one client: the word is followed by
the client's uid and the status, separated by white space. Every other message is an envelope that
is to be passed on.
-/

namespace SignalRelay

/-- What a report says about a client's session. -/
inductive SessionStatus where
  | bound
  | unbound
  deriving DecidableEq, Repr

namespace SessionStatus

def text : SessionStatus → String
  | bound => "BOUND"
  | unbound => "UNBOUND"

def inSession : SessionStatus → Bool
  | bound => true
  | unbound => false

def parse? (s : String) : Option SessionStatus :=
  if s = bound.text then some bound
  else if s = unbound.text then some unbound
  else none

end SessionStatus

/-- A session report, both parts as they were written: the client is looked up before the status is
judged. -/
structure SessionReport where
  clientUid : String
  status : String
  deriving DecidableEq, Repr

namespace SessionReport

def clientId? (report : SessionReport) : Option ClientId := ClientId.parse? report.clientUid

def status? (report : SessionReport) : Option SessionStatus := SessionStatus.parse? report.status

end SessionReport

/-- A message received from the media endpoint. -/
inductive MediaMessage where
  | session (report : SessionReport)
  | malformedSession
  | envelope (text : String)
  deriving DecidableEq, Repr

namespace MediaMessage

/-- What a session report starts with. -/
def sessionMark : String := "SESSION "

/-- Splits what follows the mark into the uid token and the rest, which keeps all its characters but
the blanks in front. -/
def splitReport? (s : List Char) : Option SessionReport :=
  match Text.splitToken? (Text.trimStart s) with
  | none => none
  | some (uid, rest) =>
    match Text.trimStart rest with
    | [] => none
    | status => some ⟨String.ofList uid, String.ofList status⟩

/-- Tells reports and envelopes apart. -/
def parse (msg : String) : MediaMessage :=
  match List.isPrefixOf? sessionMark.toList msg.toList with
  | none => envelope msg
  | some rest =>
    match splitReport? rest with
    | none => malformedSession
    | some report => session report

end MediaMessage

end SignalRelay
