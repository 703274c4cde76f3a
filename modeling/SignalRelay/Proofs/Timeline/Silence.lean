import SignalRelay.Proofs.Relay.Transcript
import SignalRelay.Proofs.Timeline.Alone
import SignalRelay.Proofs.Timeline.Passing

/-!
# Silence closes no connection

A window that goes by without an event leads to a ping, or, when the writer is gone, to the removal
of a peer that can be sent nothing any more. Either way no close frame gets into an outbox
(`Session.Course.calm`), and none does while time passes (`Timeline.InOrder.advance`). This takes
that windows run for sessions that wait, which is part of the invariant `Timeline.InOrder`.
-/

namespace SignalRelay

/-! ### Frames that close nothing -/

/-- No close frame is among what has been put into outboxes. -/
def Quiet (sent : List Delivery) : Prop := ∀ delivery ∈ sent, delivery.frame.isClose = false

theorem quiet_nil : Quiet [] := fun _ h => absurd h List.not_mem_nil

theorem Quiet.append {earlier later : List Delivery} (h : Quiet earlier) (h' : Quiet later) :
    Quiet (earlier ++ later) :=
  fun delivery hmem => (List.mem_append.1 hmem).elim (h delivery) (h' delivery)

theorem quiet_send (writers : Writers) (handle : Handle) {frame : Frame}
    (h : frame.isClose = false) : Quiet (writers.send handle frame) := by
  unfold Writers.send
  split
  · exact fun delivery hmem => List.mem_singleton.1 hmem ▸ h
  · exact quiet_nil

theorem Quiet.framesFor {sent : List Delivery} (quiet : Quiet sent) (outbox : Outbox) :
    ∀ frame ∈ framesFor outbox sent, frame.isClose = false := by
  intro frame h
  obtain ⟨delivery, hdelivery, rfl⟩ := List.mem_map.1 h
  exact quiet delivery (List.mem_of_mem_filter hdelivery)

/-! ### Sessions to which nothing comes -/

/-- A session waits, or it parts after its writer has gone away. -/
def Phase.IsCalm (phase : Phase) (alive : Bool) : Prop :=
  phase.isWaiting = true ∨ phase.isParting = true ∧ alive = false

/-- **Without an event, a session that is calm stays so**, and closes no connection. -/
theorem Session.Course.calm {writers : Writers} {registry left : Registry} {handle : Handle}
    {phase next : Phase} {stimulus : Stimulus} {sent : List Delivery}
    (course : Course writers registry handle phase stimulus next left sent)
    (eventless : ∀ event, stimulus ≠ .event event)
    (own : ∀ role, phase.role? = some role → registry.holder? role = some handle)
    (calm : phase.IsCalm (writers.alive handle)) :
    next.IsCalm (writers.alive handle) ∧ Quiet sent := by
  have parted : phase.isWaiting = false → writers.alive handle = false := fun busy => by
    rcases calm with waiting | ⟨-, dead⟩
    · cases busy.symm.trans waiting
    · exact dead
  -- what is taken out is the session's own entry, so the close frame goes nowhere
  have unheard : ∀ {role peer}, writers.alive handle = false → phase.role? = some role →
      registry.entry? role = some peer →
      writers.send peer.handle (.close CloseCode.normal "") = [] := by
    intro role peer dead hrole hpeer
    obtain ⟨entry, hentry, hhandle⟩ := Registry.holder?_eq_some_iff.1 (own role hrole)
    obtain rfl := Option.some.inj (hpeer.symm.trans hentry)
    rw [hhandle, Writers.send_of_not_alive dead]
  cases course with
  | received phase event => exact absurd rfl (eventless event)
  | pinged phase waiting => exact ⟨.inl waiting, quiet_send _ _ rfl⟩
  | gaveUp phase waiting dead =>
    exact ⟨.inr ⟨Phase.isParting_receive_closed waiting, dead⟩, quiet_nil⟩
  | ignored | passed => exact ⟨calm, quiet_nil⟩
  | refused | admittedClient | admittedMedia | forwarded | torn | reported | delivered | answered
  | silenced => rcases calm with h | ⟨h, -⟩ <;> cases h
  | disowned => exact ⟨.inr ⟨rfl, parted rfl⟩, quiet_nil⟩
  | removedClient id cause draws peer media entry =>
    rw [unheard (parted rfl) rfl entry]
    exact ⟨.inr ⟨rfl, parted rfl⟩, (quiet_send _ _ rfl).append quiet_nil⟩
  | strandedClient id cause draws peer entry =>
    rw [unheard (parted rfl) rfl entry]
    exact ⟨.inr ⟨rfl, parted rfl⟩, quiet_nil⟩
  | removedMedia cause draws media entry =>
    rw [unheard (parted rfl) rfl entry]
    exact ⟨.inr ⟨rfl, parted rfl⟩, quiet_nil⟩

namespace Relay

/-- A session of a relay that is calm. -/
def Calm (k : Nat) (relay : Relay) : Prop :=
  ∃ session, relay.sessions[k]? = some session ∧
    session.phase.IsCalm (relay.writers.alive session.handle)

/-- Steps without events close no connection, of a session that is calm. -/
theorem Calm.quiet_run {k : Nat} {relay : Relay} (calm : relay.Calm k) (faithful : relay.Faithful)
    {stimuli : List Stimulus} (eventless : ∀ event, .event event ∉ stimuli) :
    Quiet ((relay.trace (moves k stimuli)).flatMap Effects.sent) := by
  induction stimuli generalizing relay with
  | nil => exact quiet_nil
  | cons stimulus stimuli ih =>
    obtain ⟨session, present, calm⟩ := calm
    let move := session.step relay.writers relay.registry stimulus
    have course : Session.Course relay.writers relay.registry session.handle session.phase stimulus
        move.phase move.registry move.sent := session.course _ _ stimulus
    -- the step keeps the session calm, so the induction goes on
    obtain ⟨hcalm, hquiet⟩ := course.calm
      (fun event h => eventless event (h ▸ List.mem_cons_self)) (faithful.own present) calm
    have hfaithful := faithful.after (relay.course (.move k stimulus))
    have hafter : (relay.advance k session move.phase move.registry).sessions[k]? =
        some { session with phase := move.phase } := by
      rw [advance, getElem?_set_session present, if_pos rfl]
    rw [step_of_present present] at hfaithful
    rw [moves, List.map_cons, trace, step_of_present present, List.flatMap_cons]
    exact hquiet.append (ih ⟨_, hafter, hcalm⟩ hfaithful fun event h =>
      eventless event (List.mem_cons_of_mem _ h))

end Relay

/-! ### Windows of sessions that wait -/

theorem Relay.phase?_run_moves {relay : Relay} {k i : Nat} (hi : i ≠ k) {phase : Phase}
    (h : relay.phase? i = some phase) (stimuli : List Stimulus) :
    (relay.run (moves k stimuli)).phase? i = some phase := by
  induction stimuli generalizing relay with
  | nil => exact h
  | cons stimulus stimuli ih =>
    have other : (Action.move k stimulus).isOf i = false := beq_false_of_ne hi.symm
    exact ih ((relay.course (.move k stimulus)).phase?_of_not_isOf other h)

namespace Timeline

theorem isWaiting_iff {timeline : Timeline} {k : Nat} :
    timeline.isWaiting k = true ↔
      ∃ phase, timeline.relay.phase? k = some phase ∧ phase.isWaiting = true :=
  Option.any_eq_true ..

/-- **A timeline in order**: windows run for sessions that wait, and have not ended. -/
structure InOrder (timeline : Timeline) : Prop where
  ticking : timeline.Ticking
  faithful : timeline.relay.Faithful
  waiting : ∀ window ∈ timeline.windows, timeline.isWaiting window.session = true

/-- A window of a session that has been dealt with is an old one of another session, or has just
begun. -/
theorem of_mem_windows_restart {timeline : Timeline} {k : Nat} {window : Window}
    (h : window ∈ (timeline.restart k).windows) :
    (window ∈ timeline.windows ∧ window.session ≠ k) ∨
      (window = ⟨k, timeline.now + timeline.keepalive⟩ ∧ timeline.isWaiting k = true) := by
  unfold restart at h
  dsimp only at h
  split at h
  · next waits =>
    rcases List.mem_append.1 h with h | h
    · exact .inl (by simpa using h)
    · exact .inr ⟨List.mem_singleton.1 h, waits⟩
  · exact .inl (by simpa using h)

theorem isWaiting_restart (timeline : Timeline) (k i : Nat) :
    (timeline.restart k).isWaiting i = timeline.isWaiting i := by
  rw [isWaiting, isWaiting, relay_restart]

theorem clock_restart (timeline : Timeline) (k : Nat) :
    (timeline.restart k).now = timeline.now ∧
      (timeline.restart k).keepalive = timeline.keepalive := by
  unfold restart
  dsimp only
  split <;> exact ⟨rfl, rfl⟩

theorem Ticking.restart {timeline : Timeline} (ticking : timeline.Ticking) (k : Nat) :
    (timeline.restart k).Ticking := by
  obtain ⟨hnow, hkeepalive⟩ := timeline.clock_restart k
  refine ⟨hkeepalive ▸ ticking.pos, fun window h => ?_⟩
  rw [hnow]
  rcases of_mem_windows_restart h with ⟨old, -⟩ | ⟨rfl, -⟩
  · exact ticking.upcoming window old
  · exact Nat.le_add_right _ _

namespace InOrder

variable {timeline : Timeline} (order : timeline.InOrder)
include order

/-- Only the registry, the writers and sessions that have just begun may differ. -/
theorem withRelay {relay : Relay} (faithful : relay.Faithful)
    (kept : ∀ {k phase}, timeline.relay.phase? k = some phase → relay.phase? k = some phase) :
    ({ timeline with relay }).InOrder where
  ticking := ⟨order.ticking.pos, order.ticking.upcoming⟩
  faithful := faithful
  waiting window h := by
    obtain ⟨phase, hphase, waits⟩ := isWaiting_iff.1 (order.waiting window h)
    exact isWaiting_iff.2 ⟨phase, kept hphase, waits⟩

theorem atLeast {time : Nat} (h : ∀ window ∈ timeline.windows, time ≤ window.ends) :
    (timeline.atLeast time).InOrder :=
  ⟨order.ticking.setNow h, order.faithful, order.waiting⟩

theorem restart (k : Nat) : (timeline.restart k).InOrder := by
  refine ⟨order.ticking.restart k, ?_, fun window h => ?_⟩
  · rw [relay_restart]
    exact order.faithful
  · rw [isWaiting_restart]
    rcases of_mem_windows_restart h with ⟨old, -⟩ | ⟨rfl, waits⟩
    · exact order.waiting window old
    · exact waits

theorem stimulate (k : Nat) (stimulus : Stimulus) (draws : List ClientId) :
    (timeline.stimulate k stimulus draws).1.InOrder := by
  have leads : Leads k (fun _ => True) timeline (timeline.stimulate k stimulus draws) :=
    leads_stimulate timeline stimulus (fun _ _ => trivial) draws
  obtain ⟨stimuli, -, hrelay, -⟩ := leads
  refine ⟨order.ticking.stimulate k stimulus draws, ?_, fun window h => ?_⟩
  · rw [hrelay]
    exact Relay.run_invariant (P := Relay.Faithful) (fun course faithful => faithful.after course)
      order.faithful _
  · rw [fst_stimulate] at h hrelay ⊢
    rw [isWaiting_restart]
    rcases of_mem_windows_restart h with ⟨old, other⟩ | ⟨rfl, waits⟩
    · rw [(settle_frame _ k draws).1] at old
      obtain ⟨phase, hphase, waits⟩ := isWaiting_iff.1 (order.waiting window old)
      rw [relay_restart] at hrelay
      exact isWaiting_iff.2 ⟨phase, hrelay ▸ Relay.phase?_run_moves other hphase _, waits⟩
    · exact waits

theorem accept (k : Nat) (event : Event) (draws : List ClientId) :
    (timeline.accept k event draws).1.InOrder := by
  unfold Timeline.accept
  split
  · exact order.stimulate k _ draws
  · exact order

theorem dismiss (k : Nat) : (timeline.dismiss k).1.InOrder := by
  unfold Timeline.dismiss
  split
  · next leaves =>
    have course := timeline.relay.course (.move k (.turn []))
    refine ⟨⟨order.ticking.pos, order.ticking.upcoming⟩, order.faithful.after course,
      fun window h => ?_⟩
    obtain ⟨phase, hphase, waits⟩ := isWaiting_iff.1 (order.waiting window h)
    -- no window runs for the session that leaves
    have other : k ≠ window.session := by
      rintro rfl
      rw [hphase, Option.any_some] at leaves
      cases phase with
      | leaving => cases waits
      | awaitingHello | greeted | routing | handling | finished => cases leaves
    have kept := course.phase?_of_not_isOf (beq_false_of_ne other) hphase
    exact isWaiting_iff.2 ⟨phase, kept, waits⟩
  · exact order

theorem deliver (k : Nat) (event : Event) (draws : List ClientId) :
    (timeline.deliver k event draws).1.InOrder :=
  (order.accept k event draws).dismiss k

theorem expire {window : Window} (h : ∀ other ∈ timeline.windows, window.ends ≤ other.ends) :
    (timeline.expire window).1.InOrder :=
  ((order.atLeast h).stimulate window.session .silence []).dismiss window.session

/-- **A window that goes by closes no connection.** -/
theorem quiet_expire {window : Window} (h : window ∈ timeline.windows) :
    Quiet (timeline.expire window).2.sent := by
  have told : Leads window.session (fun _ => False) (timeline.atLeast window.ends) _ :=
    leads_stimulate _ .silence (fun _ h => by cases h) []
  have leads : Leads window.session (fun _ => False) (timeline.atLeast window.ends)
      (timeline.expire window) := told.append (leads_dismiss _)
  obtain ⟨stimuli, eventless, -, hsent⟩ := leads
  obtain ⟨phase, hphase, waits⟩ := isWaiting_iff.1 (order.waiting window h)
  obtain ⟨session, present, rfl⟩ := Option.map_eq_some_iff.1 hphase
  have calm : timeline.relay.Calm window.session := ⟨session, present, .inl waits⟩
  rw [hsent]
  exact calm.quiet_run order.faithful eventless

end InOrder

theorem Passes.inOrder {bound : Nat} {timeline : Timeline} {outcome : Timeline × History}
    (h : Passes bound timeline outcome) (order : timeline.InOrder) :
    outcome.1.InOrder ∧ Quiet outcome.2.sent := by
  induction h with
  | done => exact ⟨order, quiet_nil⟩
  | step next due rest ih =>
    obtain ⟨hmem, hfirst⟩ := nextWindow?_spec next
    obtain ⟨last, quiet⟩ := ih (order.expire hfirst)
    exact ⟨last, (order.quiet_expire hmem).append quiet⟩

/-- **While time passes no connection is closed.** -/
theorem InOrder.advance {timeline : Timeline} (order : timeline.InOrder) (duration : Nat) :
    (timeline.advance duration).1.InOrder ∧ Quiet (timeline.advance duration).2.sent := by
  obtain ⟨last, passes, hlast, -⟩ := passes_advance order.ticking duration
  obtain ⟨hpassed, quiet⟩ := passes.inOrder order
  rw [hlast]
  exact ⟨hpassed.atLeast fun window h => Nat.le_of_succ_le (passes.late window h), quiet⟩

end Timeline

end SignalRelay
