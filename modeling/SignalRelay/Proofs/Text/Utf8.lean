import Mathlib.Tactic.Common

/-!
# Texts as bytes

Bytes are the UTF-8 form of at most one text, and it is that text which they are read as.
-/

namespace SignalRelay

theorem fromUTF8?_eq_some_iff {bytes : ByteArray} {s : String} :
    String.fromUTF8? bytes = some s ↔ bytes = s.toUTF8 := by
  unfold String.fromUTF8?
  split
  · next valid =>
    rw [Option.some.injEq]
    constructor
    · rintro rfl
      rfl
    · rintro rfl
      rfl
  · next invalid =>
    constructor
    · intro h
      cases h
    · rintro rfl
      exact absurd s.isValidUTF8 invalid

end SignalRelay
