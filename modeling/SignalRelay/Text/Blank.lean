/-!
# White space

The characters with the Unicode property `White_Space`, and the two cuts of a text that depend on
them: dropping the blanks in front, and splitting off the first token.
-/

namespace SignalRelay.Text

/-- The characters with the Unicode property `White_Space`, in order. -/
def blanks : List Char :=
  ['\u0009', '\u000a', '\u000b', '\u000c', '\u000d', '\u0020', '\u0085', '\u00a0', '\u1680',
   '\u2000', '\u2001', '\u2002', '\u2003', '\u2004', '\u2005', '\u2006', '\u2007', '\u2008',
   '\u2009', '\u200a', '\u2028', '\u2029', '\u202f', '\u205f', '\u3000']

def isBlank (c : Char) : Bool := blanks.contains c

theorem isBlank_iff (c : Char) : isBlank c = true ↔ c ∈ blanks := by
  simp [isBlank]

theorem isBlank_of_isWhitespace {c : Char} (h : c.isWhitespace = true) : isBlank c = true := by
  simp only [Char.isWhitespace, Bool.or_eq_true, decide_eq_true_eq] at h
  rcases h with ((rfl | rfl) | rfl) | rfl <;> decide

example : blanks.length = 25 := rfl

example : blanks.Pairwise (· < ·) := by decide

/-! ### Cuts -/

def trimStart (s : List Char) : List Char := s.dropWhile isBlank

def trimEnd (s : List Char) : List Char := (trimStart s.reverse).reverse

/-- Splits before the first blank; `none` when there is no blank. -/
def splitToken? (s : List Char) : Option (List Char × List Char) :=
  match s.dropWhile (fun c => !isBlank c) with
  | [] => none
  | rest => some (s.takeWhile (fun c => !isBlank c), rest)

theorem append_of_splitToken? {s token rest : List Char} (h : splitToken? s = some (token, rest)) :
    token ++ rest = s := by
  unfold splitToken? at h
  split at h
  · simp at h
  · obtain ⟨rfl, rfl⟩ := by simpa using h
    exact List.takeWhile_append_dropWhile

end SignalRelay.Text
