import SignalRelay.Proofs.Keepalive
import SignalRelay.Proofs.Timeline.Waiting

/-!
# Pings on a timeline

`Keepalive.receive` follows one wait of one connection; a timeline holds the windows of all sessions
that wait. Both come to the same: the end of its own window is to a session one round of
`Keepalive.receive`. So it receives what a receive returns, when it returns, after as many pings
(`Timeline.InWait.receives`), and while time passes it is sent the pings of a receive that goes on
(`Timeline.InWait.pings_advance`). From its beginning to its end a session is sent the pings of
receives that follow one another (`Timeline.session_follows`).
-/

namespace SignalRelay

/-- The event on a clock that shows a given time when the event's own clock starts. -/
def TimedEvent.after (start : Nat) (e : TimedEvent) : TimedEvent := { e with due := start + e.due }

namespace Timeline

variable {k since : Nat} {handle : Handle} {timeline : Timeline}

/-! ### Waits -/

theorem elapse_succ {run : Timeline → Bool} {bound : Nat} {window : Window}
    (running : run timeline = true) (next : nextWindow? timeline.windows = some window)
    (due : window.ends < bound)
    (goes : run ((timeline.atLeast window.ends).stimulate window.session .silence []).1 = true)
    (fuel : Nat) :
    elapse run bound (fuel + 1) timeline =
      ((elapse run bound fuel (timeline.expire window).1).1,
        (timeline.expire window).2 ++ (elapse run bound fuel (timeline.expire window).1).2) := by
  have hnext : (nextWindow? timeline.windows).filter (·.ends < bound) = some window :=
    Option.filter_eq_some_iff.2 ⟨next, decide_eq_true due⟩
  rw [elapse, if_pos running, hnext]
  exact if_pos goes

theorem elapse_last {run : Timeline → Bool} {bound : Nat} {window : Window}
    (running : run timeline = true) (next : nextWindow? timeline.windows = some window)
    (due : window.ends < bound)
    (stops : run ((timeline.atLeast window.ends).stimulate window.session .silence []).1 = false)
    (fuel : Nat) :
    elapse run bound (fuel + 1) timeline =
      (timeline.atLeast window.ends).stimulate window.session .silence [] := by
  have hnext : (nextWindow? timeline.windows).filter (·.ends < bound) = some window :=
    Option.filter_eq_some_iff.2 ⟨next, decide_eq_true due⟩
  rw [elapse, if_pos running, hnext]
  exact if_neg (Bool.not_eq_true _ ▸ stops)

/-- A session that does not wait any more when its event comes does not receive it. -/
theorem receive_of_stopped (timeline : Timeline) (draws : List ClientId) {start time : Nat}
    {e : TimedEvent} (htime : max timeline.now (start + e.due) = time) (rest : List TimedEvent)
    (stopped :
      (elapse (isWaiting · k) time (timeline.windowCount time) timeline).1.isWaiting k = false) :
    timeline.receive k draws start (e :: rest) =
      elapse (isWaiting · k) time (timeline.windowCount time) timeline := by
  simp only [receive, approach, htime, stopped, Bool.false_eq_true, if_false, accept,
    History.append_nothing]

theorem play_of_waiting {draws : List ClientId} {start : Nat} {e : TimedEvent}
    {rest : List TimedEvent}
    (waits : (timeline.receive k draws start (e :: rest)).1.isWaiting k = true) :
    let first := timeline.receive k draws start (e :: rest)
    let later := first.1.play k draws start rest
    timeline.play k draws start (e :: rest) = (later.1, first.2 ++ later.2) := by
  rw [play]
  exact if_pos waits

theorem play_of_not_waiting {draws : List ClientId} {start : Nat} {e : TimedEvent}
    {rest : List TimedEvent}
    (deaf : (timeline.receive k draws start (e :: rest)).1.isWaiting k = false) :
    timeline.play k draws start (e :: rest) = timeline.receive k draws start (e :: rest) := by
  rw [play]
  exact if_neg (Bool.not_eq_true _ ▸ deaf)

namespace InWait

open Keepalive (pingTimes pingTimes_of_le pingTimes_of_lt)

section

variable {bound : Nat} (wait : timeline.InWait k handle since)
include wait

/-- The session's own window ends before the bound only when its writer is at work. -/
theorem alive_of_due
    (lasts : timeline.relay.writers.alive handle = true ∨ bound ≤ since + timeline.keepalive)
    {window : Window} (h : window ∈ timeline.windows) (due : window.ends < bound)
    (own : window.session = k) : timeline.relay.writers.alive handle = true := by
  rw [wait.eq_of_mem h own] at due
  exact lasts.resolve_right (Nat.not_le_of_lt due)

variable (ticking : timeline.Ticking)
  (lasts : timeline.relay.writers.alive handle = true ∨ bound ≤ since + timeline.keepalive)
include ticking lasts

/-- **While windows go by, a session that waits is pinged** at the ends of its own. -/
theorem waited_of_passes {outcome : Timeline × History} (passes : Passes bound timeline outcome) :
    ∃ later, Waited k handle later (pingTimes timeline.keepalive since (bound - since)).length
      timeline outcome := by
  induction passes generalizing since with
  | done late =>
    have hbound : bound ≤ since + _ := late _ wait.mem_windows
    rw [pingTimes_of_le ticking.pos (by omega)]
    exact ⟨since, wait.nothing⟩
  | @step timeline last window later next due rest ih =>
    obtain ⟨hmem, hfirst⟩ := nextWindow?_spec next
    have writer := wait.alive_of_due lasts hmem due
    obtain ⟨-, ⟨-, first⟩ | ⟨rfl, first⟩⟩ := wait.expire ticking hmem writer
    · rw [first.writers, first.keepalive] at ih
      obtain ⟨final, waited⟩ := ih first.wait (ticking.expire hfirst) lasts
      have whole := first.append waited
      rw [Nat.zero_add] at whole
      exact ⟨final, whole⟩
    · -- the rest of the wait is one that begins when this window ends
      rw [first.writers, first.keepalive] at ih
      obtain ⟨final, waited⟩ := ih first.wait (ticking.expire hfirst) (.inl (writer rfl))
      have whole := first.append waited
      have hround : since + timeline.keepalive < bound := due
      have hlong : timeline.keepalive < bound - since := by omega
      rw [pingTimes_of_lt ticking.pos hlong, List.length_cons, Nat.sub_sub, Nat.add_comm _ 1]
      exact ⟨final, whole⟩

/-- A clock that runs while the session waits runs all the time, as long as its wait lasts. -/
theorem elapse_eq (fuel : Nat) :
    elapse (isWaiting · k) bound fuel timeline = elapse (fun _ => true) bound fuel timeline := by
  induction fuel generalizing timeline since with
  | zero => rfl
  | succ fuel ih =>
    cases hnext : (nextWindow? timeline.windows).filter (·.ends < bound) with
    | none => simp only [elapse, hnext, wait.waiting, if_true]
    | some window =>
      obtain ⟨hsome, hdue⟩ := Option.filter_eq_some_iff.1 hnext
      have hdue := of_decide_eq_true hdue
      obtain ⟨hmem, hfirst⟩ := nextWindow?_spec hsome
      have writer := wait.alive_of_due lasts hmem hdue
      obtain ⟨going, outcome⟩ := wait.expire ticking hmem writer
      rw [elapse_succ wait.waiting hsome hdue going, elapse_succ rfl hsome hdue rfl]
      rcases outcome with ⟨-, first⟩ | ⟨rfl, first⟩
      · rw [ih first.wait (ticking.expire hfirst) (by rwa [first.writers, first.keepalive])]
      · rw [ih first.wait (ticking.expire hfirst) (.inl (first.writers ▸ writer rfl))]

end

/-- Without a writer a wait is over with its first window. -/
theorem elapse_of_not_alive (wait : timeline.InWait k handle since)
    (dead : timeline.relay.writers.alive handle = false) (ticking : timeline.Ticking) {bound : Nat}
    (due : since + timeline.keepalive < bound) {fuel : Nat}
    (enough : totalLeft bound timeline ≤ fuel) (draws : List ClientId) :
    ∃ reached happened,
      Waited k handle since 0 timeline (reached, happened) ∧
      reached.now = since + timeline.keepalive ∧
      (reached.accept k (.fault .closed) draws).1.isWaiting k = false ∧
      elapse (isWaiting · k) bound fuel timeline =
        ((reached.accept k (.fault .closed) draws).1,
          happened ++ (reached.accept k (.fault .closed) draws).2) := by
  -- the session's own window is due, so the fuel does not run out before it has ended
  induction fuel generalizing timeline with
  | zero =>
    have late := upToDate_elapse (isWaiting · k) ticking.pos enough wait.waiting
    exact absurd (late _ wait.mem_windows) (Nat.not_le_of_lt due)
  | succ fuel ih =>
    have late := upToDate_elapse (isWaiting · k) ticking.pos enough
    cases hnext : (nextWindow? timeline.windows).filter (·.ends < bound) with
    | none =>
      rw [elapse, if_pos wait.waiting, hnext] at late
      exact absurd (late wait.waiting _ wait.mem_windows) (Nat.not_le_of_lt due)
    | some window =>
      obtain ⟨hsome, hdue⟩ := Option.filter_eq_some_iff.1 hnext
      have hdue := of_decide_eq_true hdue
      obtain ⟨hmem, hfirst⟩ := nextWindow?_spec hsome
      by_cases own : window.session = k
      · obtain rfl := wait.eq_of_mem hmem own
        have reached := wait.atLeast (since + timeline.keepalive)
        have hsilence := reached.stimulate_silence_of_not_alive dead draws
        have deaf := reached.isWaiting_accept_closed draws
        have hnow := Nat.max_eq_right (ticking.upcoming _ hmem)
        refine ⟨_, .nothing, ⟨reached, rfl, rfl, rfl⟩, hnow, deaf, ?_⟩
        rw [elapse_last wait.waiting hsome hdue (hsilence ▸ deaf)]
        exact hsilence
      · obtain ⟨going, ⟨-, first⟩ | ⟨rfl, -⟩⟩ := wait.expire ticking hmem (absurd · own)
        · have hlt := timeline.totalLeft_expire_lt ticking.pos hmem hdue
          obtain ⟨reached, happened, waited, hnow, deaf, helapse⟩ :=
            ih first.wait (by rwa [first.writers]) (ticking.expire hfirst)
              (by rwa [first.keepalive]) (by omega)
          refine ⟨reached, _ ++ happened, first.append waited, ?_, deaf, ?_⟩
          · rw [hnow, first.keepalive]
          · rw [elapse_succ wait.waiting hsome hdue going, helapse, History.append_assoc]
        · exact absurd rfl own

/-! ### Events -/

section

variable (wait : timeline.InWait k handle since) (event : Event) (draws : List ClientId)
include wait

theorem unpinged_accept : Unpinged k handle timeline (timeline.accept k event draws) := by
  rw [accept, if_pos wait.waiting]
  exact unpinged_stimulate wait.exclusive (by simp) draws

theorem now_accept : (timeline.accept k event draws).1.now = timeline.now := by
  rw [accept, if_pos wait.waiting]
  exact (timeline.stimulate_frame k (.event event) draws).1

end

/-- When a session waits again after an event, its wait begins at that time. -/
theorem waited_accept (wait : timeline.InWait k handle since) {event : Event}
    {draws : List ClientId} (again : (timeline.accept k event draws).1.isWaiting k = true) :
    Waited k handle timeline.now 0 timeline (timeline.accept k event draws) := by
  let settled := ((timeline.move k (.event event)).1.settle k draws).1
  have haccept : (timeline.accept k event draws).1 = settled.restart k :=
    congrArg Prod.fst (if_pos wait.waiting)
  obtain ⟨exclusive, hwriters, hpings⟩ := wait.unpinged_accept event draws
  obtain ⟨-, hnow, hkeepalive⟩ := settle_frame (timeline.move k (.event event)).1 k draws
  rw [haccept, relay_restart] at exclusive
  rw [haccept, isWaiting_restart] at again
  have begun := inWait_restart exclusive again
  rw [← haccept, hnow] at begun
  refine ⟨begun, hpings, hwriters, ?_⟩
  rw [haccept, (clock_restart settled k).2]
  exact hkeepalive

theorem waited_approach (wait : timeline.InWait k handle since) (ticking : timeline.Ticking)
    {time : Nat} (upcoming : timeline.now ≤ time)
    (lasts : timeline.relay.writers.alive handle = true ∨ time ≤ since + timeline.keepalive) :
    (approach (isWaiting · k) timeline time).1.now = time ∧
      ∃ later, Waited k handle later (pingTimes timeline.keepalive since (time - since)).length
        timeline (approach (isWaiting · k) timeline time) := by
  have passes := ticking.passes time
  obtain ⟨later, waited⟩ := wait.waited_of_passes ticking lasts passes
  have hnow := passes.now_le (Nat.le_succ time) upcoming
  rw [approach, wait.elapse_eq ticking lasts]
  dsimp only
  rw [if_pos waited.wait.waiting]
  exact ⟨Nat.max_eq_right hnow, later, waited.wait.atLeast time, waited.pings, waited.writers,
    waited.keepalive⟩

end InWait

/-! ### Receives -/

/-- What a receive on a timeline comes to: some time passes, in which the session is pinged, and
then an event is received. -/
def Receives (k : Nat) (handle : Handle) (draws : List ClientId) (receipt : Receipt)
    (start : Timeline) (outcome : Timeline × History) : Prop :=
  ∃ reached happened last,
    Waited k handle last receipt.pings.length start (reached, happened) ∧
    reached.now = receipt.finished ∧
    outcome = ((reached.accept k receipt.event draws).1,
      happened ++ (reached.accept k receipt.event draws).2)

/-- What happens on a timeline while the receives of a session follow one another: it is sent their
pings, and in the end the clock shows when the last of them returns. -/
structure Follows (k : Nat) (handle : Handle) (receipts : List Receipt)
    (outcome : Timeline × History) : Prop where
  pings : pingsFor handle outcome.2.sent = (receipts.flatMap Receipt.pings).length
  finished : receipts.getLast?.map Receipt.finished = some outcome.1.now
  exclusive : outcome.1.relay.Exclusive k handle

theorem Follows.cons {receipt : Receipt} {receipts : List Receipt} {first : History}
    {outcome : Timeline × History} (pings : pingsFor handle first.sent = receipt.pings.length)
    (later : Follows k handle receipts outcome) :
    Follows k handle (receipt :: receipts) (outcome.1, first ++ outcome.2) where
  pings := by
    rw [pingsFor_sent_append, pings, later.pings, List.flatMap_cons, List.length_append]
  finished := by
    obtain ⟨last, hlast, hfinished⟩ := Option.map_eq_some_iff.1 later.finished
    rw [List.getLast?_cons, hlast]
    exact congrArg some hfinished
  exclusive := later.exclusive

theorem Follows.dismiss {receipts : List Receipt} {outcome : Timeline × History}
    (follows : Follows k handle receipts outcome) :
    Follows k handle receipts
      ((outcome.1.dismiss k).1, outcome.2 ++ (outcome.1.dismiss k).2) where
  pings := by
    rw [pingsFor_sent_append, (unpinged_dismiss follows.exclusive).pings]
    exact follows.pings
  finished := by
    rw [(outcome.1.dismiss_frame k).2.1]
    exact follows.finished
  exclusive := (unpinged_dismiss follows.exclusive).exclusive

namespace Receives

variable {draws : List ClientId} {receipt : Receipt} {start : Timeline}
  {outcome : Timeline × History} (receives : Receives k handle draws receipt start outcome)
include receives

theorem pings : pingsFor handle outcome.2.sent = receipt.pings.length := by
  obtain ⟨reached, happened, last, waited, -, rfl⟩ := receives
  rw [pingsFor_sent_append, (waited.wait.unpinged_accept receipt.event draws).pings]
  exact waited.pings

theorem now : outcome.1.now = receipt.finished := by
  obtain ⟨reached, happened, last, waited, hnow, rfl⟩ := receives
  exact (waited.wait.now_accept receipt.event draws).trans hnow

theorem exclusive : outcome.1.relay.Exclusive k handle := by
  obtain ⟨reached, happened, last, waited, -, rfl⟩ := receives
  exact (waited.wait.unpinged_accept receipt.event draws).exclusive

theorem follows : Follows k handle [receipt] outcome where
  pings := by
    rw [List.flatMap_singleton]
    exact receives.pings
  finished := congrArg some receives.now.symm
  exclusive := receives.exclusive

theorem again (waits : outcome.1.isWaiting k = true) :
    Waited k handle receipt.finished receipt.pings.length start outcome := by
  obtain ⟨reached, happened, last, waited, hnow, rfl⟩ := receives
  rw [← hnow]
  exact waited.append (waited.wait.waited_accept waits)

theorem event_ne_closed (waits : outcome.1.isWaiting k = true) :
    receipt.event ≠ .fault .closed := by
  obtain ⟨reached, happened, last, waited, -, rfl⟩ := receives
  intro closed
  have deaf := waited.wait.isWaiting_accept_closed draws
  rw [← closed] at deaf
  exact Bool.false_ne_true (deaf.symm.trans waits)

end Receives

namespace InWait

open Keepalive (pingTimes pingTimes_of_le)

/-- A session that waits for its first event receives it. -/
theorem receives_first (wait : timeline.InWait k handle timeline.now) (ticking : timeline.Ticking)
    (draws : List ClientId) (start : Nat) {e : TimedEvent} {due : Nat} (hdue : start + e.due = due)
    (lasts : timeline.relay.writers.alive handle = true ∨ due - timeline.now ≤ timeline.keepalive)
    (rest others : List TimedEvent) :
    let pings := pingTimes timeline.keepalive timeline.now (due - timeline.now)
    Receives k handle draws ⟨e.event, pings, timeline.now + (due - timeline.now), others⟩ timeline
      (timeline.receive k draws start (e :: rest)) := by
  intro pings
  subst hdue
  let time := max timeline.now (start + e.due)
  have upcoming : timeline.now ≤ time := Nat.le_max_left _ _
  have hwait : time = timeline.now + (start + e.due - timeline.now) := by omega
  obtain ⟨hnow, last, waited⟩ :=
    wait.waited_approach ticking upcoming (lasts.imp_right fun early => by omega)
  rw [show time - timeline.now = start + e.due - timeline.now by omega] at waited
  exact ⟨_, _, last, waited, hnow.trans hwait, rfl⟩

/-- **A session on a timeline receives what a receive returns**, when it returns, after as many
pings. -/
theorem receives (wait : timeline.InWait k handle timeline.now) (ticking : timeline.Ticking)
    {alive : Bool} (writer : timeline.relay.writers.alive handle = alive) (draws : List ClientId)
    (start : Nat) (events : List TimedEvent) :
    let receipt := Keepalive.receive timeline.keepalive alive (events.map (·.after start))
      timeline.now
    Receives k handle draws receipt timeline (timeline.receive k draws start events) := by
  intro receipt
  have returns : Keepalive.Returns timeline.keepalive timeline.now alive
      (events.map (·.after start)) receipt :=
    Keepalive.returns_receive ticking.pos _ _ _
  clear_value receipt
  cases events with
  | nil =>
    cases returns with
    | closed => exact ⟨timeline, .nothing, timeline.now, wait.nothing, rfl, rfl⟩
  | cons e rest =>
    cases returns with
    | event => exact wait.receives_first ticking draws start rfl (.inl writer) rest _
    | unharmed early =>
      have early : start + e.due - timeline.now ≤ timeline.keepalive := early
      have first := wait.receives_first ticking draws start rfl (.inr early) rest
        (rest.map (·.after start))
      rw [pingTimes_of_le ticking.pos early] at first
      exact first
    | abandoned late =>
      -- the wait is over before the event comes, which is then not received
      let time := max timeline.now (start + e.due)
      have late : timeline.keepalive < start + e.due - timeline.now := late
      have due : timeline.now + timeline.keepalive < time := by omega
      have enough := ticking.totalLeft_le_windowCount time
      obtain ⟨reached, happened, waited, hnow, deaf, helapse⟩ :=
        wait.elapse_of_not_alive writer ticking due enough draws
      have stopped := timeline.receive_of_stopped draws rfl rest (by rwa [helapse])
      exact ⟨reached, happened, timeline.now, waited, hnow, stopped.trans helapse⟩

/-- **While time passes, a session is sent the pings of a receive** whose event comes later. -/
theorem pings_advance (wait : timeline.InWait k handle since) (ticking : timeline.Ticking)
    (alive : timeline.relay.writers.alive handle = true) (duration : Nat) (event : Event)
    (rest : List TimedEvent) :
    let receipt := Keepalive.receive timeline.keepalive true
      (⟨timeline.now + duration + 1, event⟩ :: rest) since
    ∃ last, Waited k handle last receipt.pings.length timeline (timeline.advance duration) := by
  intro receipt
  obtain ⟨reached, passes, hreached, -⟩ := passes_advance ticking duration
  obtain ⟨last, waited⟩ := wait.waited_of_passes ticking (.inl alive) passes
  have hpings : receipt.pings =
      pingTimes timeline.keepalive since (timeline.now + duration + 1 - since) :=
    congrArg Receipt.pings (Keepalive.receive_alive ticking.pos _ rest since)
  rw [hpings]
  exact ⟨last, hreached ▸ waited.wait.atLeast _, waited.pings, hreached ▸ waited.writers,
    hreached ▸ waited.keepalive⟩

/-! ### Sessions -/

/-- **A session on a timeline plays as receives go that follow one another.** -/
theorem plays {gone : Option Nat} (wait : timeline.InWait k handle timeline.now)
    (ticking : timeline.Ticking)
    (writer : ∀ n, timeline.relay.writers.alive handle = Keepalive.hasWriter gone n)
    (draws : List ClientId) (start number : Nat) (events : List TimedEvent) :
    ∃ calls, Follows k handle
      (Keepalive.receives timeline.keepalive gone (events.map (·.after start)) timeline.now calls
        number)
      (timeline.play k draws start events) := by
  induction events generalizing timeline number with
  | nil => exact ⟨1, (wait.receives ticking (writer number) draws start []).follows⟩
  | cons e rest ih =>
    let receipt := Keepalive.receive timeline.keepalive (Keepalive.hasWriter gone number)
      ((e :: rest).map (·.after start)) timeline.now
    have receives : Receives k handle draws receipt timeline
        (timeline.receive k draws start (e :: rest)) :=
      wait.receives ticking (writer number) draws start (e :: rest)
    cases waits : (timeline.receive k draws start (e :: rest)).1.isWaiting k with
    | false =>
      rw [play_of_not_waiting waits]
      exact ⟨1, receives.follows⟩
    | true =>
      -- the event was received, so the next receive goes on with the rest
      have hrest : receipt.rest = rest.map (·.after start) :=
        (Keepalive.returns_receive ticking.pos _ _ _).rest_eq (receives.event_ne_closed waits)
      have waited := receives.again waits
      have hnow := receives.now
      obtain ⟨calls, later⟩ := ih (hnow ▸ waited.wait)
        (ticking.receive k draws start (e :: rest)) (fun n => waited.writers ▸ writer n)
        (number + 1)
      rw [hnow, waited.keepalive, ← hrest] at later
      rw [play_of_waiting waits]
      exact ⟨calls + 1, later.cons receives.pings⟩

end InWait

/-- **A whole session is sent the pings of receives that follow one another**, and when it has been
removed the clock shows when the last of them returned. -/
theorem session_follows {gone : Option Nat} (timeline : Timeline) (ticking : timeline.Ticking)
    {handle : Handle}
    (fresh : ∀ {i own}, timeline.relay.handle? i = some own → own.outbox ≠ handle.outbox)
    (writer : ∀ n, timeline.relay.writers.alive handle = Keepalive.hasWriter gone n)
    (draws : List ClientId) (number : Nat) (events : List TimedEvent) :
    ∃ calls, Follows timeline.relay.sessions.length handle
      (Keepalive.receives timeline.keepalive gone (events.map (·.after timeline.now)) timeline.now
        calls number)
      (timeline.session handle draws events) := by
  let k := timeline.relay.sessions.length
  let opened : Timeline := { timeline with relay := timeline.relay.connect handle }
  let begun := (timeline.connect handle).1
  have hopened : opened.Ticking := ⟨ticking.pos, ticking.upcoming⟩
  obtain ⟨hnow, hkeepalive⟩ :
      begun.now = timeline.now ∧ begun.keepalive = timeline.keepalive := opened.clock_restart k
  have hwriters : begun.relay.writers = timeline.relay.writers := by
    have hrelay : begun.relay = opened.relay := relay_restart opened k
    rw [hrelay]
    rfl
  have wait : begun.InWait k handle begun.now := by
    rw [hnow]
    exact inWait_connect timeline fresh
  obtain ⟨calls, played⟩ := wait.plays (hopened.restart k) (fun n => hwriters ▸ writer n) draws
    begun.now number events
  -- when the connection is opened nothing is sent
  obtain ⟨pings, finished, exclusive⟩ := played.dismiss
  rw [← hnow, ← hkeepalive]
  exact ⟨calls, pings, finished, exclusive⟩

end Timeline

end SignalRelay
