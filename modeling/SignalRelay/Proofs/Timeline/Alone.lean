import SignalRelay.Proofs.Relay.Visit
import SignalRelay.Proofs.Timeline.Windows

/-!
# A session that is alone

Whatever comes to a session leads through steps of this session (`Timeline.Leads`): it receives its
events, windows go by, and it has its turns. On a timeline where no window of another session is
running, no other session moves (`Timeline.Serves`). When a session has dealt with what has come to
it, it rests: it waits, it leaves, or it has ended. When there is nothing more to receive it does
not wait any more (`Timeline.parting_play`), and once it has been dismissed it has ended
(`Timeline.finished_dismiss`).
-/

namespace SignalRelay

/-! ### Turns -/

namespace Phase

/-- Whether a session will receive nothing more. -/
def isParting : Phase → Bool
  | leaving _ _ | finished _ => true
  | awaitingHello | greeted _ | routing _ | handling _ _ => false

variable {phase : Phase}

/-- A session that has nothing to do and waits for nothing is about to leave, or has left. -/
theorem isParting_of_idle (deaf : phase.isWaiting = false) (idle : phase.isBusy = false) :
    phase.isParting = true := by
  cases phase with
  | leaving | finished => rfl
  | awaitingHello | routing => cases deaf
  | greeted | handling => cases idle

theorem eq_finished (parting : phase.isParting = true) (stays : phase.isLeaving = false) :
    ∃ ending, phase = finished ending := by
  cases phase with
  | finished ending => exact ⟨ending, rfl⟩
  | leaving => cases stays
  | awaitingHello | greeted | routing | handling => cases parting

theorem isParting_receive_closed (waiting : phase.isWaiting = true) :
    (phase.receive (.fault .closed)).isParting = true := by
  cases phase with
  | awaitingHello | routing => rfl
  | greeted | handling | leaving | finished => cases waiting

theorem isBusy_of_isParting (parting : phase.isParting = true) : phase.isBusy = false := by
  cases phase with
  | leaving | finished => rfl
  | awaitingHello | greeted | routing | handling => cases parting

theorem isWaiting_of_isParting (parting : phase.isParting = true) : phase.isWaiting = false := by
  cases phase with
  | leaving | finished => rfl
  | awaitingHello | greeted | routing | handling => cases parting

/-- A session that waits for its peer has nothing else to do. -/
theorem idle_of_isWaiting (waiting : phase.isWaiting = true) :
    phase.isBusy = false ∧ phase.isLeaving = false := by
  cases phase with
  | awaitingHello | routing => exact ⟨rfl, rfl⟩
  | greeted | handling | leaving | finished => cases waiting

theorem receive_of_isParting (parting : phase.isParting = true) (event : Event) :
    phase.receive event = phase := by
  cases phase with
  | leaving | finished => rfl
  | awaitingHello | greeted | routing | handling => cases parting

end Phase

namespace Session.Course

variable {writers : Writers} {registry left : Registry} {handle : Handle} {phase next : Phase}
  {draws : List ClientId} {sent : List Delivery}

theorem isBusy (course : Course writers registry handle phase (.turn draws) next left sent) :
    next.isBusy = false := by
  cases course with
  | passed phase draws idle =>
    cases phase with
    | awaitingHello | routing | finished => rfl
    | greeted | handling | leaving => cases idle
  | refused | admittedClient | admittedMedia | forwarded | torn | reported | delivered | answered
  | silenced | disowned | removedClient | strandedClient | removedMedia => rfl

theorem eq_finished (course : Course writers registry handle phase (.turn draws) next left sent)
    (leaves : phase.isLeaving = true) : ∃ ending, next = .finished ending := by
  cases course with
  | passed phase draws idle =>
    cases phase with
    | leaving => cases idle
    | awaitingHello | greeted | routing | handling | finished => cases leaves
  | disowned | removedClient | strandedClient | removedMedia => exact ⟨_, rfl⟩
  | refused | admittedClient | admittedMedia | forwarded | torn | reported | delivered | answered
  | silenced => cases leaves

end Session.Course

namespace Timeline

/-! ### Steps of one session -/

/-- No window of another session is running. -/
def Alone (k : Nat) (timeline : Timeline) : Prop :=
  ∀ window ∈ timeline.windows, window.session = k

/-- **What one session does**: the timeline comes to be as after some steps of the session, in which
it receives certain events only, and the frames queued are those of these steps. -/
def Leads (k : Nat) (received : Event → Prop) (start : Timeline) (outcome : Timeline × History) :
    Prop :=
  ∃ stimuli : List Stimulus, (∀ event, .event event ∈ stimuli → received event) ∧
    outcome.1.relay = start.relay.run (Relay.moves k stimuli) ∧
    outcome.2.sent = (start.relay.trace (Relay.moves k stimuli)).flatMap Effects.sent

/-- A session rests when it has dealt with all that has come to it. -/
def Rests (k : Nat) (timeline : Timeline) : Prop :=
  ∃ phase, timeline.relay.phase? k = some phase ∧ phase.isBusy = false

/-- **What is done to a session that is alone**, and dealt with. -/
structure Serves (k : Nat) (received : Event → Prop) (start : Timeline)
    (outcome : Timeline × History) : Prop where
  steps : Leads k received start outcome
  alone : Alone k outcome.1
  rests : Rests k start → Rests k outcome.1

variable {k : Nat} {received : Event → Prop} {start next timeline : Timeline}

theorem exists_course {phase : Phase} (h : timeline.relay.phase? k = some phase)
    (stimulus : Stimulus) :
    ∃ next own left sent, (timeline.move k stimulus).1.relay.phase? k = some next ∧
      Session.Course timeline.relay.writers timeline.relay.registry own phase stimulus next left
        sent := by
  have moves : (Action.move k stimulus).isOf k = true := beq_self_eq_true k
  obtain ⟨_, own, next, left, heq, -, hnext, course⟩ :=
    (timeline.relay.course (.move k stimulus)).exists_step moves h
  cases heq
  exact ⟨next, own, left, _, hnext, course⟩

namespace Leads

theorem nothing (same : next.relay = start.relay) : Leads k received start (next, .nothing) :=
  ⟨[], fun _ h => absurd h List.not_mem_nil, same, rfl⟩

theorem append {first second : History} {last : Timeline}
    (earlier : Leads k received start (next, first))
    (later : Leads k received next (last, second)) :
    Leads k received start (last, first ++ second) := by
  obtain ⟨stimuli, hfirst, hrelay, hsent⟩ := earlier
  obtain ⟨stimuli', hsecond, hrelay', hsent'⟩ := later
  refine ⟨stimuli ++ stimuli', fun event h => ?_, ?_, ?_⟩
  · exact (List.mem_append.1 h).elim (hfirst event) (hsecond event)
  · rw [hrelay', hrelay, Relay.moves, Relay.moves, Relay.moves, List.map_append, Relay.run_append]
  · rw [Relay.moves, List.map_append, Relay.trace_append, List.flatMap_append]
    exact congrArg₂ _ hsent (hrelay ▸ hsent')

theorem of_relay {happened : History} (leads : Leads k received start (next, happened))
    {same : Timeline} (relay : same.relay = next.relay) :
    Leads k received start (same, happened) := by
  obtain ⟨stimuli, hreceived, hrelay, hsent⟩ := leads
  exact ⟨stimuli, hreceived, relay.trans hrelay, hsent⟩

end Leads

theorem leads_move (timeline : Timeline) (stimulus : Stimulus)
    (h : ∀ event, stimulus = .event event → received event) :
    Leads k received timeline (timeline.move k stimulus) := by
  refine ⟨[stimulus], fun event hevent => ?_, rfl, ?_⟩
  · exact h event (List.mem_singleton.1 hevent).symm
  · exact (List.append_nil _).symm

/-! ### Turns of one session -/

theorem leads_settle (timeline : Timeline) (draws : List ClientId) :
    Leads k received timeline (timeline.settle k draws) := by
  unfold settle
  split
  · exact leads_move timeline _ fun event h => by cases h
  · exact .nothing rfl

theorem leads_dismiss (timeline : Timeline) :
    Leads k received timeline (timeline.dismiss k) := by
  unfold dismiss
  split
  · exact leads_move timeline _ fun event h => by cases h
  · exact .nothing rfl

theorem relay_restart (timeline : Timeline) (k : Nat) :
    (timeline.restart k).relay = timeline.relay := by
  unfold restart
  dsimp only
  split <;> rfl

theorem leads_stimulate (timeline : Timeline) (stimulus : Stimulus)
    (h : ∀ event, stimulus = .event event → received event) (draws : List ClientId) :
    Leads k received timeline (timeline.stimulate k stimulus draws) := by
  have moved : Leads k received timeline (timeline.move k stimulus) :=
    leads_move timeline stimulus h
  have settled := moved.append (leads_settle (timeline.move k stimulus).1 draws)
  exact settled.of_relay (relay_restart _ k)

theorem settle_of_idle {phase : Phase} (h : timeline.relay.phase? k = some phase)
    (idle : phase.isBusy = false) (draws : List ClientId) :
    timeline.settle k draws = (timeline, .nothing) := by
  rw [settle, h, Option.any_some, idle]
  rfl

theorem phase?_settle {phase : Phase} (h : timeline.relay.phase? k = some phase)
    (draws : List ClientId) :
    ∃ next, (timeline.settle k draws).1.relay.phase? k = some next ∧ next.isBusy = false ∧
      (phase.isBusy = false → next = phase) := by
  unfold settle
  rw [h, Option.any_some]
  split
  · next busy =>
    obtain ⟨next, own, left, sent, hnext, course⟩ := exists_course h (.turn draws)
    exact ⟨next, hnext, course.isBusy, fun idle => absurd busy (by simp [idle])⟩
  · next idle => exact ⟨phase, h, Bool.not_eq_true _ ▸ idle, fun _ => rfl⟩

theorem alone_restart (alone : Alone k timeline) : Alone k (timeline.restart k) := by
  have hnone : timeline.windows.filter (·.session ≠ k) = [] := by
    rw [List.filter_eq_nil_iff]
    intro window h
    simp [alone window h]
  unfold restart
  dsimp only
  rw [hnone]
  split
  · exact fun window h => by rw [List.mem_singleton.1 h]
  · exact fun window h => absurd h List.not_mem_nil

theorem serves_stimulate (alone : Alone k timeline) (stimulus : Stimulus)
    (h : ∀ event, stimulus = .event event → received event) (draws : List ClientId) :
    Serves k received timeline (timeline.stimulate k stimulus draws) := by
  have settled : Alone k ((timeline.move k stimulus).1.settle k draws).1 := by
    rw [Alone, (settle_frame _ k draws).1]
    exact alone
  refine ⟨leads_stimulate timeline stimulus h draws, alone_restart settled, ?_⟩
  rintro ⟨phase, hphase, -⟩
  obtain ⟨middle, _, _, _, hmiddle, -⟩ := exists_course hphase stimulus
  obtain ⟨next, hnext, hidle, -⟩ := phase?_settle hmiddle draws
  rw [Rests, fst_stimulate, relay_restart]
  exact ⟨next, hnext, hidle⟩

theorem serves_dismiss (alone : Alone k timeline) :
    Serves k received timeline (timeline.dismiss k) := by
  refine ⟨leads_dismiss timeline, ?_, ?_⟩
  · rw [Alone, (timeline.dismiss_frame k).1]
    exact alone
  · rintro ⟨phase, hphase, idle⟩
    unfold dismiss
    split
    · obtain ⟨next, _, _, _, hnext, course⟩ := exists_course hphase (.turn [])
      exact ⟨next, hnext, course.isBusy⟩
    · exact ⟨phase, hphase, idle⟩

/-! ### Time and events -/

namespace Serves

theorem nothing (alone : Alone k timeline) : Serves k received timeline (timeline, .nothing) :=
  ⟨.nothing rfl, alone, id⟩

theorem append {first second : History} {last : Timeline}
    (earlier : Serves k received start (next, first))
    (later : Serves k received next (last, second)) :
    Serves k received start (last, first ++ second) :=
  ⟨earlier.steps.append later.steps, later.alone, later.rests ∘ earlier.rests⟩

theorem setNow {happened : History} (serves : Serves k received start (next, happened))
    (now : Nat) : Serves k received start ({ next with now }, happened) :=
  ⟨serves.steps.of_relay rfl, serves.alone, serves.rests⟩

end Serves

theorem serves_elapse (run : Timeline → Bool) (bound fuel : Nat) (alone : Alone k timeline) :
    Serves k received timeline (elapse run bound fuel timeline) := by
  induction fuel generalizing timeline with
  | zero => exact .nothing alone
  | succ fuel ih =>
    rw [elapse]
    split
    · cases hnext : (nextWindow? timeline.windows).filter (·.ends < bound) with
      | none => exact .nothing alone
      | some window =>
        obtain ⟨hwindow, -⟩ := Option.filter_eq_some_iff.1 hnext
        -- every window that ends is its own
        have hk : window.session = k := alone window (nextWindow?_spec hwindow).1
        have reached : Alone k { timeline with now := max timeline.now window.ends } := alone
        have silence : Serves k received { timeline with now := max timeline.now window.ends } _ :=
          serves_stimulate reached .silence (fun event h => by cases h) []
        have first : Serves k received timeline _ := ⟨silence.steps, silence.alone, silence.rests⟩
        simp only [hk]
        split
        · have told := first.append (serves_dismiss silence.alone)
          exact told.append (ih told.alone)
        · exact first
    · exact .nothing alone

theorem serves_approach (run : Timeline → Bool) (alone : Alone k timeline) (time : Nat) :
    Serves k received timeline (approach run timeline time) := by
  have serves : Serves k received timeline
      (elapse run time (timeline.windowCount time) timeline) := serves_elapse run time _ alone
  unfold approach
  dsimp only
  split
  · exact serves.setNow _
  · exact serves

theorem serves_accept (alone : Alone k timeline) {event : Event} (h : received event)
    (draws : List ClientId) : Serves k received timeline (timeline.accept k event draws) := by
  unfold accept
  split
  · exact serves_stimulate alone _ (fun other heq => by cases heq; exact h) draws
  · exact .nothing alone

/-- A session that does not wait, and has nothing to do, receives nothing more. -/
theorem Rests.parting (rests : Rests k timeline) (deaf : timeline.isWaiting k = false) :
    ∃ phase, timeline.relay.phase? k = some phase ∧ phase.isParting = true := by
  obtain ⟨phase, hphase, hidle⟩ := rests
  rw [isWaiting, hphase] at deaf
  exact ⟨phase, hphase, Phase.isParting_of_idle deaf hidle⟩

theorem parting_accept_closed (rests : Rests k timeline) (draws : List ClientId) :
    ∃ phase, (timeline.accept k (.fault .closed) draws).1.relay.phase? k = some phase ∧
      phase.isParting = true := by
  cases hwaits : timeline.isWaiting k with
  | false =>
    rw [accept, hwaits]
    exact rests.parting hwaits
  | true =>
    obtain ⟨phase, hphase, -⟩ := rests
    obtain ⟨middle, own, left, sent, hmiddle, course⟩ :=
      exists_course hphase (.event (.fault .closed))
    have hparting : middle.isParting = true := by
      cases course with
      | received =>
        rw [isWaiting, hphase] at hwaits
        exact Phase.isParting_receive_closed hwaits
    obtain ⟨next, hnext, -, same⟩ := phase?_settle hmiddle draws
    obtain rfl := same (Phase.isBusy_of_isParting hparting)
    rw [accept, hwaits, if_pos rfl, fst_stimulate, relay_restart]
    exact ⟨next, hnext, hparting⟩

theorem serves_receive (alone : Alone k timeline) (draws : List ClientId) (start : Nat)
    {events : List TimedEvent} (heard : ∀ e ∈ events, received e.event)
    (closed : received (.fault .closed)) :
    Serves k received timeline (timeline.receive k draws start events) := by
  cases events with
  | nil => exact serves_accept alone closed draws
  | cons e rest =>
    have waits : Serves k received timeline
        (approach (isWaiting · k) timeline (max timeline.now (start + e.due))) :=
      serves_approach _ alone _
    exact waits.append (serves_accept waits.alone (heard e List.mem_cons_self) draws)

/-- Whatever a session receives in the end is one of its events, or that its connection is closed.
-/
theorem serves_play (alone : Alone k timeline) (draws : List ClientId) (start : Nat)
    {events : List TimedEvent} (heard : ∀ e ∈ events, received e.event)
    (closed : received (.fault .closed)) :
    Serves k received timeline (timeline.play k draws start events) := by
  induction events generalizing timeline with
  | nil => exact serves_receive alone draws start heard closed
  | cons e rest ih =>
    have first : Serves k received timeline (timeline.receive k draws start (e :: rest)) :=
      serves_receive alone draws start heard closed
    rw [play]
    dsimp only
    split
    · exact first.append (ih first.alone fun e h => heard e (List.mem_cons_of_mem _ h))
    · exact first

/-- A session that is alone does not wait any more when it has received its events. -/
theorem parting_play (alone : Alone k timeline) (rests : Rests k timeline) (draws : List ClientId)
    (start : Nat) (events : List TimedEvent) :
    ∃ phase, (timeline.play k draws start events).1.relay.phase? k = some phase ∧
      phase.isParting = true := by
  induction events generalizing timeline with
  | nil => exact parting_accept_closed rests draws
  | cons e rest ih =>
    have first : Serves k (fun _ => True) timeline (timeline.receive k draws start (e :: rest)) :=
      serves_receive alone draws start (fun _ _ => trivial) trivial
    rw [play]
    dsimp only
    split
    · exact ih first.alone (first.rests rests)
    · next deaf => exact (first.rests rests).parting (Bool.not_eq_true _ ▸ deaf)

/-- **A session that is dismissed has ended.** -/
theorem finished_dismiss {phase : Phase} (h : timeline.relay.phase? k = some phase)
    (parting : phase.isParting = true) :
    ∃ ending, (timeline.dismiss k).1.relay.phase? k = some (.finished ending) := by
  unfold dismiss
  rw [h, Option.any_some]
  split
  · next leaves =>
    obtain ⟨next, own, left, sent, hnext, course⟩ := exists_course h (.turn [])
    obtain ⟨ending, rfl⟩ := course.eq_finished leaves
    exact ⟨ending, hnext⟩
  · next stays =>
    obtain ⟨ending, rfl⟩ := Phase.eq_finished parting (Bool.not_eq_true _ ▸ stays)
    exact ⟨ending, h⟩

end Timeline

end SignalRelay
