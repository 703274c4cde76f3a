/-!
# Hellos

The first message of every connection says what the peer wants to be. It has to match exactly.
-/

namespace SignalRelay

/-- What a peer asks to be registered as. -/
inductive Hello where
  | client
  | media
  deriving DecidableEq, Repr

namespace Hello

def text : Hello → String
  | client => "REGISTER CLIENT"
  | media => "REGISTER MEDIA"

/-- Reads a hello; blanks around it are not forgiven. -/
def parse? (msg : String) : Option Hello :=
  if msg = client.text then some client
  else if msg = media.text then some media
  else none

theorem parse?_text (h : Hello) : parse? h.text = some h := by
  cases h <;> decide

theorem parse?_eq_some_iff {msg : String} {h : Hello} : parse? msg = some h ↔ msg = h.text := by
  constructor
  · intro hp
    unfold parse? at hp
    split at hp
    · next hc => exact hc.trans (congrArg text (Option.some.inj hp))
    · split at hp
      · next hm => exact hm.trans (congrArg text (Option.some.inj hp))
      · cases hp
  · rintro rfl
    exact parse?_text h

end Hello

end SignalRelay
