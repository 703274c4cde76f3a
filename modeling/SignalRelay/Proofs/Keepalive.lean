import Mathlib.Data.List.Basic
import SignalRelay.Keepalive

/-!
# When pings are sent

A call that waits sends a ping at the end of every window of silence that ends before its event
comes (`pingTimes`); an event that comes just then is earlier than the ping. Which event a call
returns and when does not depend on the pings, so successive calls return the events in order, each
when it comes. Without a writer the wait ends with the first window, and the event is kept.

Main statement: `Keepalive.receives_keep_time`.
-/

namespace SignalRelay.Keepalive

/-! ### Pings -/

/-- The times of the pings in a wait of a given length. -/
def pingTimes (window start wait : Nat) : List Nat :=
  (List.range ((wait - 1) / window)).map fun i => start + (i + 1) * window

section

variable {window start wait : Nat}

theorem length_pingTimes : (pingTimes window start wait).length = (wait - 1) / window := by
  simp [pingTimes]

theorem pingTimes_of_le (positive : 0 < window) (h : wait ≤ window) :
    pingTimes window start wait = [] := by
  have hnone : (wait - 1) / window = 0 := Nat.div_eq_of_lt (by omega)
  simp [pingTimes, hnone]

/-- After its first window a wait goes on like one that begins then. -/
theorem pingTimes_of_lt (positive : 0 < window) (h : window < wait) :
    pingTimes window start wait =
      (start + window) :: pingTimes window (start + window) (wait - window) := by
  have hcount : (wait - 1) / window = (wait - window - 1) / window + 1 := by
    rw [← Nat.add_div_right _ positive]
    congr 1
    omega
  rw [pingTimes, hcount, List.range_succ_eq_map, List.map_cons, List.map_map, pingTimes]
  congr 1
  · omega
  · apply List.map_congr_left
    intro i _
    show start + (i + 1 + 1) * window = start + window + (i + 1) * window
    rw [Nat.succ_mul (i + 1)]
    omega

/-- A ping is sent at the end of a window, and only before the wait is over. -/
theorem mem_pingTimes_iff (positive : 0 < window) {time : Nat} :
    time ∈ pingTimes window start wait ↔
      (∃ i, time = start + (i + 1) * window) ∧ time < start + wait := by
  have hlate : ∀ i, i < (wait - 1) / window ↔ (i + 1) * window < wait := by
    intro i
    rw [Nat.lt_iff_add_one_le, Nat.le_div_iff_mul_le positive]
    have : 0 < (i + 1) * window := Nat.mul_pos (by omega) positive
    omega
  simp only [pingTimes, List.mem_map, List.mem_range, hlate]
  constructor
  · rintro ⟨i, hi, rfl⟩
    exact ⟨⟨i, rfl⟩, by omega⟩
  · rintro ⟨⟨i, rfl⟩, hi⟩
    exact ⟨i, by omega, rfl⟩

end

/-! ### One call -/

/-- **What a call returns** that starts at a given time with these events to come: with a writer the
next event, when it comes, and pings until then; without one no pings, and the event only when it
comes within a window. -/
inductive Returns (window start : Nat) : (alive : Bool) → List TimedEvent → Receipt → Prop
  | closed (alive : Bool) : Returns window start alive [] ⟨.fault .closed, [], start, []⟩
  | event (e : TimedEvent) (rest : List TimedEvent) :
    Returns window start true (e :: rest)
      ⟨e.event, pingTimes window start (e.due - start), start + (e.due - start), rest⟩
  | unharmed {e : TimedEvent} (early : e.due - start ≤ window) (rest : List TimedEvent) :
    Returns window start false (e :: rest) ⟨e.event, [], start + (e.due - start), rest⟩
  | abandoned {e : TimedEvent} (late : window < e.due - start) (rest : List TimedEvent) :
    Returns window start false (e :: rest) ⟨.fault .closed, [], start + window, e :: rest⟩

theorem Returns.unique {window start : Nat} {alive : Bool} {events : List TimedEvent}
    {receipt receipt' : Receipt} (h : Returns window start alive events receipt)
    (h' : Returns window start alive events receipt') : receipt = receipt' := by
  cases h with
  | closed | event => cases h'; rfl
  | unharmed early =>
    cases h' with
    | unharmed => rfl
    | abandoned late => omega
  | abandoned late =>
    cases h' with
    | unharmed early => omega
    | abandoned => rfl

/-- A call leaves the events behind the first, unless it ends because there is no writer. -/
theorem Returns.rest_eq {window start : Nat} {alive : Bool} {e : TimedEvent}
    {rest : List TimedEvent} {receipt : Receipt}
    (returns : Returns window start alive (e :: rest) receipt)
    (received : receipt.event ≠ .fault .closed) : receipt.rest = rest := by
  cases returns with
  | event | unharmed => rfl
  | abandoned => exact absurd rfl received

section

variable {window : Nat} (positive : 0 < window)
include positive

theorem receive_alive (e : TimedEvent) (rest : List TimedEvent) (start : Nat) :
    receive window true (e :: rest) start =
      ⟨e.event, pingTimes window start (e.due - start), start + (e.due - start), rest⟩ := by
  -- every window that passes brings the event nearer
  induction hwait : e.due - start using Nat.strongRecOn generalizing start with
  | ind wait ih =>
    rw [receive]
    by_cases hdue : e.due ≤ start + window
    · have hmax : max start e.due = start + wait := by omega
      rw [dif_pos (.inl hdue), pingTimes_of_le positive (by omega), hmax]
    · have hlate : ¬(e.due ≤ start + window ∨ (window = 0 ∧ true = true)) := by omega
      have hlater := ih (wait - window) (by omega) (start + window) (by omega)
      have hlong : window < wait := by omega
      have hend : start + window + (wait - window) = start + wait := by omega
      rw [dif_neg hlate, dif_pos rfl, hlater, hend, pingTimes_of_lt positive hlong]

/-- **Every call returns as it should.** -/
theorem returns_receive (alive : Bool) (events : List TimedEvent) (start : Nat) :
    Returns window start alive events (receive window alive events start) := by
  cases events with
  | nil =>
    rw [receive]
    exact .closed alive
  | cons e rest =>
    cases alive with
    | true =>
      rw [receive_alive positive]
      exact .event e rest
    | false =>
      rw [receive]
      by_cases hdue : e.due ≤ start + window
      · have hmax : max start e.due = start + (e.due - start) := by omega
        rw [dif_pos (.inl hdue), hmax]
        exact .unharmed (by omega) rest
      · rw [dif_neg (by simpa using hdue), dif_neg (by simp)]
        exact .abandoned (by omega) rest

end

/-! ### Successive calls -/

/-- **A course of calls**: each starts when the one before returns, with the events that are left,
and the writer is gone from the call of number `gone` on. -/
inductive Course (window : Nat) (gone : Option Nat) :
    (number : Nat) → List TimedEvent → (start : Nat) → List Receipt → Prop
  | nil (number : Nat) (events : List TimedEvent) (start : Nat) :
    Course window gone number events start []
  | cons {number : Nat} {events : List TimedEvent} {start : Nat} {receipt : Receipt}
      {receipts : List Receipt}
      (returns : Returns window start (hasWriter gone number) events receipt)
      (later : Course window gone (number + 1) receipt.rest receipt.finished receipts) :
    Course window gone number events start (receipt :: receipts)

theorem Course.unique {window : Nat} {gone : Option Nat} {number : Nat} {events : List TimedEvent}
    {start : Nat} {receipts receipts' : List Receipt}
    (h : Course window gone number events start receipts)
    (h' : Course window gone number events start receipts')
    (length_eq : receipts.length = receipts'.length) : receipts = receipts' := by
  induction h generalizing receipts' with
  | nil => exact (List.length_eq_zero_iff.1 length_eq.symm).symm
  | cons returns _ ih =>
    cases h' with
    | nil => cases length_eq
    | cons returns' later' =>
      obtain rfl := returns.unique returns'
      rw [ih later' (Nat.succ.inj length_eq)]

theorem length_receives (window : Nat) (gone : Option Nat) (events : List TimedEvent)
    (now calls number : Nat) :
    (receives window gone events now calls number).length = calls := by
  induction calls generalizing events now number with
  | zero => rfl
  | succ calls ih => rw [receives, List.length_cons, ih]

theorem hasWriter_of_le {gone : Option Nat} {m n : Nat} (h : m ≤ n)
    (writer : hasWriter gone n = true) : hasWriter gone m = true := by
  cases gone with
  | none => rfl
  | some g =>
    have hn : n < g := of_decide_eq_true writer
    exact decide_eq_true (by omega)

section

variable {window : Nat} (positive : 0 < window)
include positive

theorem course_receives (gone : Option Nat) (events : List TimedEvent) (now calls number : Nat) :
    Course window gone number events now (receives window gone events now calls number) := by
  induction calls generalizing events now number with
  | zero => exact .nil number events now
  | succ calls ih => exact .cons (returns_receive positive _ events now) (ih _ _ _)

/-- With a writer, calls return one event after the other, each when it comes, or at once when it
came before. -/
theorem exists_receipt {gone : Option Nat} {calls i : Nat} {events : List TimedEvent}
    (ordered : events.Pairwise fun a b => a.due ≤ b.due) (now number : Nat) (h : i < calls)
    (writer : hasWriter gone (number + i) = true) :
    ∃ receipt, (receives window gone events now calls number)[i]? = some receipt ∧
      receipt.event = (events[i]?.map TimedEvent.event).getD (.fault .closed) ∧
      receipt.rest = events.drop (i + 1) ∧
      ∀ e, events[i]? = some e → receipt.finished = max now e.due := by
  induction i generalizing events now calls number with
  | zero =>
    obtain ⟨calls, rfl⟩ : ∃ n, calls = n + 1 := ⟨calls - 1, by omega⟩
    have hfirst : hasWriter gone number = true := writer
    rw [receives, hfirst]
    refine ⟨_, rfl, ?_⟩
    cases events with
    | nil => simp [receive]
    | cons first rest =>
      rw [receive_alive positive]
      refine ⟨rfl, rfl, ?_⟩
      rintro e he
      obtain rfl : first = e := by simpa using he
      show now + (first.due - now) = max now first.due
      omega
  | succ i ih =>
    obtain ⟨calls, rfl⟩ : ∃ n, calls = n + 1 := ⟨calls - 1, by omega⟩
    have hfirst : hasWriter gone number = true := hasWriter_of_le (by omega) writer
    have hlater : hasWriter gone (number + 1 + i) = true := hasWriter_of_le (by omega) writer
    rw [receives, hfirst]
    cases events with
    | nil => simpa [receive] using ih .nil now (number + 1) (by omega) hlater
    | cons first rest =>
      obtain ⟨hle, hrest⟩ := List.pairwise_cons.1 ordered
      obtain ⟨receipt, hat, hevent, hleft, hfinished⟩ :=
        ih hrest (now + (first.due - now)) (number + 1) (Nat.lt_of_succ_lt_succ h) hlater
      rw [receive_alive positive]
      refine ⟨receipt, hat, hevent, hleft, ?_⟩
      intro e he
      -- the call before has returned by the time at which this event comes
      have hdue : first.due ≤ e.due := hle e (List.mem_of_getElem? he)
      rw [hfinished e he]
      omega

end

/-! ### Main statement -/

/-- **Calls keep time and lose no event.** However many calls there are, each returns, and in the
way that `Returns` says: it takes as long as it waits for its event, or one window when that is too
long without a writer. As long as there is a writer, the calls return the events in order, each when
it comes, and `closed` after the last one, whatever the window is. The pings of a wait are sent at
the ends of its windows before the event comes, so there is none at the time of the event. -/
theorem receives_keep_time {window : Nat} (positive : 0 < window) {events : List TimedEvent}
    (ordered : events.Pairwise fun a b => a.due ≤ b.due) (gone : Option Nat) (now calls : Nat) :
    let receipts := receives window gone events now calls 0
    receipts.length = calls ∧
    Course window gone 0 events now receipts ∧
    (∀ i < calls, hasWriter gone i = true → ∃ receipt, receipts[i]? = some receipt ∧
      receipt.event = (events[i]?.map TimedEvent.event).getD (.fault .closed) ∧
      receipt.rest = events.drop (i + 1) ∧
      ∀ e, events[i]? = some e → receipt.finished = max now e.due) ∧
    ∀ start wait, (pingTimes window start wait).length = (wait - 1) / window ∧
      ∀ time, time ∈ pingTimes window start wait ↔
        (∃ i, time = start + (i + 1) * window) ∧ time < start + wait := by
  refine ⟨length_receives _ _ _ _ _ _, course_receives positive _ _ _ _ _, ?_, ?_⟩
  · intro i hi writer
    apply exists_receipt positive ordered now 0 hi
    rwa [Nat.zero_add]
  · intro start wait
    exact ⟨length_pingTimes, fun time => mem_pingTimes_iff positive⟩

/-- Three pings are sent before an event and none for one that comes at the end of a window; after
that the writer is gone, and the third call returns when its first window is over. -/
theorem receives_keep_time_of_late_hello :
    let more : TimedEvent := ⟨125, .message "more"⟩
    let gone : TimedEvent := ⟨200, .fault .closed⟩
    let events : List TimedEvent := [⟨95, .message "late hello"⟩, more, gone]
    0 < 30 ∧ events.Pairwise (fun a b => a.due ≤ b.due) ∧
    receives 30 (some 2) events 0 3 0 =
      [⟨.message "late hello", [30, 60, 90], 95, [more, gone]⟩, ⟨.message "more", [], 125, [gone]⟩,
       ⟨.fault .closed, [], 155, [gone]⟩] := by
  intro more gone events
  have positive : 0 < 30 := by decide
  have ordered : events.Pairwise fun a b => a.due ≤ b.due := by decide
  refine ⟨positive, ordered, ?_⟩
  obtain ⟨hlength, hcourse, -⟩ := receives_keep_time positive ordered (some 2) 0 3
  have hfirst : Returns 30 0 true events ⟨.message "late hello", [30, 60, 90], 95, [more, gone]⟩ :=
    .event ⟨95, .message "late hello"⟩ [more, gone]
  have hnone : pingTimes 30 95 (125 - 95) = [] := pingTimes_of_le positive (by decide)
  have hsecond : Returns 30 95 true [more, gone] ⟨.message "more", [], 125, [gone]⟩ :=
    hnone ▸ .event more [gone]
  have hthird : Returns 30 125 false [gone] ⟨.fault .closed, [], 155, [gone]⟩ :=
    .abandoned (by decide) []
  exact hcourse.unique (.cons hfirst (.cons hsecond (.cons hthird (.nil 3 _ _)))) hlength

end SignalRelay.Keepalive
