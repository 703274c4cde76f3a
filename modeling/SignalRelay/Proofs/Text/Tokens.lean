import Mathlib.Data.List.TakeWhile
import Mathlib.Tactic.Common
import SignalRelay.Text.Blank

/-!
# Tokens

The tokens of a text are what stands between its blanks (`Text.tokens`). Both cuts of a text are
made at the border of a token: `trimStart` leaves a text that starts with one or is empty
(`Text.trimStart_spec`), and `splitToken?` takes the first one off a text that goes on behind it
(`Text.splitToken?_append`, `Text.splitToken?_spec`).
-/

namespace SignalRelay

/-! ### Marks in front -/

/-- What follows a mark is what has to be put behind it. -/
theorem isPrefixOf?_eq_some_iff {α : Type} [BEq α] [LawfulBEq α] {l s rest : List α} :
    List.isPrefixOf? l s = some rest ↔ s = l ++ rest := by
  induction l generalizing s with
  | nil => exact Option.some_inj
  | cons a l ih =>
    cases s with
    | nil =>
      have hnil : List.isPrefixOf? (a :: l) [] = none := rfl
      simp [hnil]
    | cons b s =>
      have hcons : List.isPrefixOf? (a :: l) (b :: s) =
        if a == b then List.isPrefixOf? l s else none := rfl
      rw [hcons]
      by_cases hab : a = b
      · simp [hab, ih]
      · simp [hab, Ne.symm hab]

namespace Text

/-! ### Kinds of texts -/

def Blanks (s : List Char) : Prop := ∀ c ∈ s, isBlank c = true

def Solid (s : List Char) : Prop := ∀ c ∈ s, isBlank c = false

/-- A text that starts with something other than a blank. -/
def StartsToken (s : List Char) : Prop := ∃ c ∈ s.head?, isBlank c = false

/-- A text that starts with a blank. -/
def StartsBlank (s : List Char) : Prop := ∃ c ∈ s.head?, isBlank c = true

def tokens (s : List Char) : List (List Char) := (s.splitOnP isBlank).filter (· ≠ [])

theorem StartsToken.ne_nil {s : List Char} (h : StartsToken s) : s ≠ [] := by
  rintro rfl
  obtain ⟨c, hc, -⟩ := h
  cases hc

theorem StartsBlank.ne_nil {s : List Char} (h : StartsBlank s) : s ≠ [] := by
  rintro rfl
  obtain ⟨c, hc, -⟩ := h
  cases hc

theorem StartsToken.append {s : List Char} (h : StartsToken s) (rest : List Char) :
    StartsToken (s ++ rest) := by
  obtain ⟨c, hc, hblank⟩ := h
  exact ⟨c, by simp [List.head?_append, Option.mem_def.1 hc], hblank⟩

theorem Solid.startsToken {s : List Char} (solid : Solid s) (nonempty : s ≠ []) :
    StartsToken s := by
  obtain ⟨c, t, rfl⟩ := List.exists_cons_of_ne_nil nonempty
  exact ⟨c, rfl, solid c List.mem_cons_self⟩

theorem not_startsToken_of_startsBlank {s : List Char} (blank : StartsBlank s) :
    ¬StartsToken s := by
  rintro ⟨c, hc, htoken⟩
  obtain ⟨d, hd, hblank⟩ := blank
  cases Option.mem_unique hc hd
  rw [hblank] at htoken
  cases htoken

theorem isBlank_of_isDigit {c : Char} (h : c.isDigit = true) : isBlank c = false := by
  have hblanks : blanks.all (fun b => !b.isDigit) = true := by decide
  cases hblank : isBlank c with
  | false => rfl
  | true =>
    have hdigit := List.all_eq_true.1 hblanks c ((isBlank_iff c).1 hblank)
    rw [h] at hdigit
    cases hdigit

/-! ### Blanks in front -/

theorem trimStart_append {gap s : List Char} (blanks : Blanks gap) (starts : StartsToken s) :
    trimStart (gap ++ s) = s := by
  obtain ⟨c, hc, hblank⟩ := starts
  obtain ⟨t, rfl⟩ := List.head?_eq_some_iff.1 hc
  rw [trimStart, List.dropWhile_append_of_pos blanks, List.dropWhile_cons_of_neg (by simp [hblank])]

/-- A text is the blanks in front and what is left without them, if anything. -/
theorem trimStart_spec (s : List Char) :
    ∃ gap, s = gap ++ trimStart s ∧ Blanks gap ∧
      (trimStart s = [] ∨ StartsToken (trimStart s)) := by
  refine ⟨s.takeWhile isBlank, List.takeWhile_append_dropWhile.symm,
    fun c hc => List.mem_takeWhile_imp hc, ?_⟩
  cases hrest : trimStart s with
  | nil => exact .inl rfl
  | cons c rest =>
    have hhead := List.head?_dropWhile_not isBlank s
    rw [← trimStart, hrest] at hhead
    exact .inr ⟨c, rfl, by simpa using hhead⟩

theorem eq_of_append_startsToken {gap gap' s s' : List Char} (blanks : Blanks gap)
    (blanks' : Blanks gap') (starts : StartsToken s) (starts' : StartsToken s')
    (h : gap ++ s = gap' ++ s') : gap = gap' ∧ s = s' := by
  have hrest : s = s' := by
    rw [← trimStart_append blanks starts, h, trimStart_append blanks' starts']
  subst hrest
  exact ⟨List.append_cancel_right h, rfl⟩

/-! ### The first token -/

theorem splitToken?_append {token gap s : List Char} (solid : ∀ c ∈ token, isBlank c = false)
    (blanks : Blanks gap) (nonempty : gap ≠ []) :
    splitToken? (token ++ (gap ++ s)) = some (token, gap ++ s) := by
  obtain ⟨c, gap, rfl⟩ := List.exists_cons_of_ne_nil nonempty
  have hc : isBlank c = true := blanks c List.mem_cons_self
  have hsolid : ∀ d ∈ token, (!isBlank d) = true := fun d hd => by simp [solid d hd]
  have hdrop : (token ++ (c :: gap ++ s)).dropWhile (fun c => !isBlank c) = c :: gap ++ s := by
    rw [List.dropWhile_append_of_pos hsolid, List.cons_append,
      List.dropWhile_cons_of_neg (by simp [hc])]
  have htake : (token ++ (c :: gap ++ s)).takeWhile (fun c => !isBlank c) = token := by
    rw [List.takeWhile_append_of_pos hsolid, List.cons_append,
      List.takeWhile_cons_of_neg (by simp [hc]), List.append_nil]
  rw [splitToken?, hdrop, htake]
  rfl

/-- There is nothing to split off before a blank in a text without blanks. -/
theorem solid_of_splitToken?_eq_none {s : List Char} (h : splitToken? s = none) : Solid s := by
  unfold splitToken? at h
  split at h
  · next hnil =>
    intro c hc
    simpa using List.dropWhile_eq_nil_iff.1 hnil c hc
  · cases h

theorem splitToken?_spec {s token rest : List Char} (h : splitToken? s = some (token, rest)) :
    s = token ++ rest ∧ Solid token ∧ StartsBlank rest := by
  refine ⟨(append_of_splitToken? h).symm, ?_⟩
  unfold splitToken? at h
  split at h
  · cases h
  · next hrest =>
    obtain ⟨rfl, rfl⟩ := by simpa using h
    refine ⟨fun c hc => by simpa using List.mem_takeWhile_imp hc, ?_⟩
    obtain ⟨c, t, hcons⟩ := List.exists_cons_of_ne_nil hrest
    have hhead := List.head?_dropWhile_not (fun c => !isBlank c) s
    rw [hcons] at hhead ⊢
    exact ⟨c, rfl, by simpa using hhead⟩

/-! ### All tokens -/

theorem tokens_nil : tokens [] = [] := rfl

theorem tokens_append_of_blanks {gap : List Char} (blanks : Blanks gap) (s : List Char) :
    tokens (gap ++ s) = tokens s := by
  induction gap with
  | nil => rfl
  | cons c gap ih =>
    obtain ⟨hc, hgap⟩ := List.forall_mem_cons.1 blanks
    rw [← ih hgap, tokens, List.cons_append, List.splitOnP_cons_eq_if_modifyHead, if_pos hc]
    rfl

theorem tokens_of_solid {token : List Char} (solid : Solid token) (nonempty : token ≠ []) :
    tokens token = [token] := by
  rw [tokens, List.splitOnP_eq_singleton solid, List.filter_cons_of_pos (by simpa using nonempty),
    List.filter_nil]

theorem tokens_append_of_solid {token rest : List Char} (solid : Solid token)
    (nonempty : token ≠ []) (starts : StartsBlank rest) :
    tokens (token ++ rest) = token :: tokens rest := by
  obtain ⟨c, hc, hblank⟩ := starts
  obtain ⟨t, rfl⟩ := List.head?_eq_some_iff.1 hc
  have hrest : tokens (c :: t) = tokens t :=
    tokens_append_of_blanks (List.forall_mem_singleton.2 hblank) t
  rw [hrest, tokens, List.splitOnP_append_cons_of_forall_mem solid c hblank, List.filter_cons,
    if_pos (by simpa using nonempty)]
  rfl

theorem length_tokens_le_one {s : List Char} (solid : Solid s) : (tokens s).length ≤ 1 := by
  by_cases hs : s = []
  · subst hs
    exact Nat.zero_le 1
  · rw [tokens_of_solid solid hs]
    exact Nat.le_refl 1

theorem length_tokens_pos {s : List Char} (starts : StartsToken s) : 0 < (tokens s).length := by
  cases hsplit : splitToken? s with
  | none =>
    rw [tokens_of_solid (solid_of_splitToken?_eq_none hsplit) starts.ne_nil]
    exact Nat.one_pos
  | some split =>
    obtain ⟨token, rest⟩ := split
    obtain ⟨rfl, solid, blank⟩ := splitToken?_spec hsplit
    have nonempty : token ≠ [] := by
      rintro rfl
      exact not_startsToken_of_startsBlank blank starts
    rw [tokens_append_of_solid solid nonempty blank]
    exact Nat.succ_pos _

end Text

end SignalRelay
