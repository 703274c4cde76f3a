import SignalRelay.Proofs.Timeline.Silence

/-!
# Windows of a session that waits

A session that waits has one window (`Timeline.InWait`), and other sessions move meanwhile. A window
that ends is nothing to it if it is another's; when its own ends it is sent a ping and waits on, or
its connection is over when its writer has gone away (`Timeline.InWait.expire`,
`Timeline.InWait.stimulate_silence_of_not_alive`). No other session has its outbox
(`Relay.Exclusive`), and what it receives itself brings it no ping (`Timeline.unpinged_stimulate`).
-/

namespace SignalRelay

/-! ### Who is sent pings -/

/-- How many pings are put into the outbox of a connection. -/
def pingsFor (handle : Handle) (sent : List Delivery) : Nat :=
  (framesFor handle.outbox sent).count .ping

theorem pingsFor_append (handle : Handle) (earlier later : List Delivery) :
    pingsFor handle (earlier ++ later) = pingsFor handle earlier + pingsFor handle later := by
  rw [pingsFor, framesFor_append, List.count_append]
  rfl

theorem pingsFor_sent_append (handle : Handle) (earlier later : History) :
    pingsFor handle (earlier ++ later).sent =
      pingsFor handle earlier.sent + pingsFor handle later.sent :=
  pingsFor_append handle earlier.sent later.sent

theorem pingsFor_send {frame : Frame} (h : frame ≠ .ping) (writers : Writers)
    (handle peer : Handle) : pingsFor handle (writers.send peer frame) = 0 :=
  List.count_eq_zero.2 fun hmem => h (Writers.of_mem_framesFor_send hmem).2.symm

/-- A step of a session pings nobody but its own peer, and only after a window of silence. -/
theorem Session.Course.pingsFor_eq_zero {writers : Writers} {registry left : Registry}
    {own handle : Handle} {phase next : Phase} {stimulus : Stimulus} {sent : List Delivery}
    (course : Course writers registry own phase stimulus next left sent)
    (apart : stimulus = .silence → own.outbox ≠ handle.outbox) : pingsFor handle sent = 0 := by
  cases course with
  | received | gaveUp | ignored | passed | torn | reported | silenced | disowned => rfl
  | pinged =>
    rw [pingsFor, Writers.framesFor_send_of_ne (apart rfl)]
    rfl
  | refused | admittedMedia | forwarded | delivered | answered | strandedClient | removedMedia =>
    exact pingsFor_send (by simp) _ _ _
  | admittedClient | removedClient =>
    rw [pingsFor_append, pingsFor_send (by simp), pingsFor_send (by simp)]

namespace Relay

/-- The session serves the connection, and no other session has its outbox. -/
structure Exclusive (relay : Relay) (k : Nat) (handle : Handle) : Prop where
  served : relay.handle? k = some handle
  apart : ∀ {i own}, relay.handle? i = some own → i ≠ k → own.outbox ≠ handle.outbox

/-- A session that is alone has its outbox to itself. -/
theorem exclusive_of_alone {relay : Relay} {handle : Handle}
    (alone : relay.sessions.map Session.handle = [handle]) : relay.Exclusive 0 handle := by
  have hserved : ∀ i, relay.handle? i = [handle][i]? := fun i => by
    rw [handle?, ← List.getElem?_map, alone]
  refine ⟨hserved 0, fun {i own} hi other => ?_⟩
  have habsent : relay.handle? i = none := by
    rw [hserved, List.getElem?_eq_none]
    exact Nat.pos_of_ne_zero other
  cases habsent.symm.trans hi

theorem handle?_connect (relay : Relay) (handle : Handle) {i : Nat}
    (h : i ≠ relay.sessions.length) : (relay.connect handle).handle? i = relay.handle? i := by
  rw [handle?, handle?, connect, List.getElem?_append]
  split
  · rfl
  · rw [List.getElem?_eq_none (by simp; omega), List.getElem?_eq_none (by omega)]

theorem handle?_step_move (relay : Relay) (i : Nat) (stimulus : Stimulus) (j : Nat) :
    (relay.step (.move i stimulus)).1.handle? j = relay.handle? j := by
  have h := (relay.course (.move i stimulus)).map_handle
  rw [show connections [.move i stimulus] = [] from rfl, List.append_nil] at h
  rw [handle?, handle?, ← List.getElem?_map, ← List.getElem?_map, h]

theorem writers_step_move (relay : Relay) (i : Nat) (stimulus : Stimulus) :
    (relay.step (.move i stimulus)).1.writers = relay.writers := by
  cases h : relay.sessions[i]? with
  | none => simp only [step, h]
  | some session => simp only [step, h]

variable {relay : Relay} {i k : Nat} {handle : Handle}

theorem Exclusive.step_move (exclusive : relay.Exclusive k handle) (i : Nat)
    (stimulus : Stimulus) : (relay.step (.move i stimulus)).1.Exclusive k handle where
  served := (handle?_step_move relay i stimulus k).trans exclusive.served
  apart h := exclusive.apart ((handle?_step_move relay i stimulus _).symm.trans h)

theorem Exclusive.pingsFor_eq_zero (exclusive : relay.Exclusive k handle) {action : Action}
    {after : Relay} {sent : List Delivery} (course : relay.Course action after sent)
    (other : action ≠ .move k .silence) : pingsFor handle sent = 0 := by
  cases course with
  | connected | abandoned | missed => rfl
  | moved i stimulus session next left _ present step =>
    refine step.pingsFor_eq_zero fun silent => ?_
    refine exclusive.apart (handle?_of_present present) fun own => other ?_
    rw [own, silent]

/-- The steps of another session change neither the writers nor who serves a connection, and ping
other peers. -/
theorem Exclusive.run_moves (exclusive : relay.Exclusive k handle) (other : i ≠ k)
    (stimuli : List Stimulus) :
    (relay.run (moves i stimuli)).Exclusive k handle ∧
      (relay.run (moves i stimuli)).writers = relay.writers ∧
      pingsFor handle ((relay.trace (moves i stimuli)).flatMap Effects.sent) = 0 := by
  induction stimuli generalizing relay with
  | nil => exact ⟨exclusive, rfl, rfl⟩
  | cons stimulus stimuli ih =>
    obtain ⟨later, hwriters, hpings⟩ := ih (exclusive.step_move i stimulus)
    have hfirst : pingsFor handle (relay.step (.move i stimulus)).2.sent = 0 :=
      exclusive.pingsFor_eq_zero (relay.course (.move i stimulus)) fun h =>
        other (Action.move.inj h).1
    refine ⟨later, hwriters.trans (relay.writers_step_move i stimulus), ?_⟩
    rw [moves, List.map_cons, trace, List.flatMap_cons, pingsFor_append, hfirst, Nat.zero_add]
    exact hpings

end Relay

namespace Timeline

/-! ### A session that waits -/

/-- **A session in a wait**: it waits for the peer of a connection of its own, and has one window,
which began at the given time. -/
structure InWait (timeline : Timeline) (k : Nat) (handle : Handle) (since : Nat) : Prop where
  exclusive : timeline.relay.Exclusive k handle
  waiting : timeline.isWaiting k = true
  window : timeline.windows.filter (·.session = k) = [⟨k, since + timeline.keepalive⟩]

variable {k i since : Nat} {handle : Handle} {timeline : Timeline}

theorem windows_restart_own (waiting : timeline.isWaiting k = true) :
    (timeline.restart k).windows.filter (·.session = k) =
      [⟨k, timeline.now + timeline.keepalive⟩] := by
  unfold restart
  dsimp only
  rw [if_pos waiting, List.filter_append, List.filter_filter]
  simp

theorem windows_restart_other (timeline : Timeline) (other : i ≠ k) :
    (timeline.restart i).windows.filter (·.session = k) =
      timeline.windows.filter (·.session = k) := by
  have hothers : (timeline.windows.filter (·.session ≠ i)).filter (·.session = k) =
      timeline.windows.filter (·.session = k) := by
    rw [List.filter_filter]
    refine List.filter_congr fun window _ => ?_
    by_cases h : window.session = k
    · simp [h, other.symm]
    · simp [h]
  unfold restart
  dsimp only
  split
  · rw [List.filter_append, hothers]
    simp [other]
  · exact hothers

/-- A wait begins when a session has dealt with something. -/
theorem inWait_restart (exclusive : timeline.relay.Exclusive k handle)
    (waiting : timeline.isWaiting k = true) :
    (timeline.restart k).InWait k handle timeline.now where
  exclusive := (relay_restart timeline k).symm ▸ exclusive
  waiting := (isWaiting_restart timeline k k).trans waiting
  window := by rw [windows_restart_own waiting, (clock_restart timeline k).2]

/-- The wait of a session begins with it. -/
theorem inWait_connect (timeline : Timeline)
    (fresh : ∀ {i own}, timeline.relay.handle? i = some own → own.outbox ≠ handle.outbox) :
    (timeline.connect handle).1.InWait timeline.relay.sessions.length handle timeline.now := by
  let k := timeline.relay.sessions.length
  let relay := timeline.relay.connect handle
  have present : relay.sessions[k]? = some ⟨handle, .awaitingHello⟩ := by
    simp [relay, k, Relay.connect]
  have exclusive : relay.Exclusive k handle := by
    refine ⟨Relay.handle?_of_present present, fun {i own} hi other => ?_⟩
    rw [Relay.handle?_connect timeline.relay handle other] at hi
    exact fresh hi
  have waiting : ({ timeline with relay } : Timeline).isWaiting k = true :=
    isWaiting_iff.2 ⟨.awaitingHello, Relay.phase?_of_present present, rfl⟩
  exact inWait_restart exclusive waiting

/-! ### Steps without a ping -/

/-- What happens while the session is not pinged: it has its outbox to itself still, and writers
are as they were. -/
structure Unpinged (k : Nat) (handle : Handle) (start : Timeline)
    (outcome : Timeline × History) : Prop where
  exclusive : outcome.1.relay.Exclusive k handle
  writers : outcome.1.relay.writers = start.relay.writers
  pings : pingsFor handle outcome.2.sent = 0

section

variable (exclusive : timeline.relay.Exclusive k handle)
include exclusive

theorem unpinged_move {stimulus : Stimulus} (loud : stimulus ≠ .silence) :
    Unpinged k handle timeline (timeline.move k stimulus) where
  exclusive := exclusive.step_move k stimulus
  writers := timeline.relay.writers_step_move k stimulus
  pings := exclusive.pingsFor_eq_zero (timeline.relay.course (.move k stimulus)) fun h =>
    loud (Action.move.inj h).2

theorem unpinged_settle (draws : List ClientId) :
    Unpinged k handle timeline (timeline.settle k draws) := by
  unfold settle
  split
  · exact unpinged_move exclusive (by simp)
  · exact ⟨exclusive, rfl, rfl⟩

theorem unpinged_dismiss : Unpinged k handle timeline (timeline.dismiss k) := by
  unfold dismiss
  split
  · exact unpinged_move exclusive (by simp)
  · exact ⟨exclusive, rfl, rfl⟩

theorem unpinged_stimulate {stimulus : Stimulus} (loud : stimulus ≠ .silence)
    (draws : List ClientId) :
    Unpinged k handle timeline (timeline.stimulate k stimulus draws) := by
  let moved := (timeline.move k stimulus).1
  have first : Unpinged k handle timeline (timeline.move k stimulus) :=
    unpinged_move exclusive loud
  have second : Unpinged k handle moved (moved.settle k draws) :=
    unpinged_settle first.exclusive draws
  have hrelay := relay_restart (moved.settle k draws).1 k
  refine ⟨?_, ?_, ?_⟩
  · rw [fst_stimulate, hrelay]
    exact second.exclusive
  · rw [fst_stimulate, hrelay]
    exact second.writers.trans first.writers
  · have happened : (timeline.stimulate k stimulus draws).2 =
        (timeline.move k stimulus).2 ++ (moved.settle k draws).2 := rfl
    rw [happened, pingsFor_sent_append, first.pings, second.pings]

end

/-! ### Windows that end -/

/-- **What a session sees of a time in which it waits**: its last window began at the given time,
and it has been sent that many pings. Writers are as they were. -/
structure Waited (k : Nat) (handle : Handle) (since pings : Nat) (start : Timeline)
    (outcome : Timeline × History) : Prop where
  wait : outcome.1.InWait k handle since
  pings : pingsFor handle outcome.2.sent = pings
  writers : outcome.1.relay.writers = start.relay.writers
  keepalive : outcome.1.keepalive = start.keepalive

theorem Waited.append {start : Timeline} {first second : Timeline × History} {later m n : Nat}
    (earlier : Waited k handle since m start first)
    (rest : Waited k handle later n first.1 second) :
    Waited k handle later (m + n) start (second.1, first.2 ++ second.2) where
  wait := rest.wait
  pings := by rw [pingsFor_sent_append, earlier.pings, rest.pings]
  writers := rest.writers.trans earlier.writers
  keepalive := rest.keepalive.trans earlier.keepalive

theorem settle_of_waiting (waiting : timeline.isWaiting k = true) (draws : List ClientId) :
    timeline.settle k draws = (timeline, .nothing) := by
  obtain ⟨phase, hphase, waits⟩ := isWaiting_iff.1 waiting
  exact settle_of_idle hphase (Phase.idle_of_isWaiting waits).1 draws

theorem dismiss_of_waiting (waiting : timeline.isWaiting k = true) :
    timeline.dismiss k = (timeline, .nothing) := by
  obtain ⟨phase, hphase, waits⟩ := isWaiting_iff.1 waiting
  rw [dismiss, hphase, Option.any_some, (Phase.idle_of_isWaiting waits).2]
  rfl

theorem expire_eq (timeline : Timeline) (window : Window) :
    let told := (timeline.atLeast window.ends).stimulate window.session .silence []
    timeline.expire window = ((told.1.dismiss window.session).1,
      told.2 ++ (told.1.dismiss window.session).2) := rfl

theorem Ticking.expire (ticking : timeline.Ticking) {window : Window}
    (first : ∀ other ∈ timeline.windows, window.ends ≤ other.ends) :
    (timeline.expire window).1.Ticking :=
  ((ticking.setNow first).stimulate window.session .silence []).dismiss window.session

namespace InWait

variable (wait : timeline.InWait k handle since)
include wait

theorem nothing : Waited k handle since 0 timeline (timeline, .nothing) := ⟨wait, rfl, rfl, rfl⟩

theorem atLeast (time : Nat) : (timeline.atLeast time).InWait k handle since :=
  ⟨wait.exclusive, wait.waiting, wait.window⟩

theorem mem_windows : ⟨k, since + timeline.keepalive⟩ ∈ timeline.windows :=
  List.mem_of_mem_filter (wait.window ▸ List.mem_singleton_self _)

theorem eq_of_mem {window : Window} (h : window ∈ timeline.windows) (own : window.session = k) :
    window = ⟨k, since + timeline.keepalive⟩ := by
  have hmem : window ∈ timeline.windows.filter (·.session = k) :=
    List.mem_filter.2 ⟨h, decide_eq_true own⟩
  rw [wait.window] at hmem
  exact List.mem_singleton.1 hmem

theorem waited_of_leads {outcome : Timeline × History} (other : i ≠ k)
    (leads : Leads i (fun _ => True) timeline outcome)
    (windows : outcome.1.windows.filter (·.session = k) = timeline.windows.filter (·.session = k))
    (keepalive : outcome.1.keepalive = timeline.keepalive) :
    Waited k handle since 0 timeline outcome := by
  obtain ⟨stimuli, -, hrelay, hsent⟩ := leads
  obtain ⟨exclusive, hwriters, hpings⟩ := wait.exclusive.run_moves other stimuli
  obtain ⟨phase, hphase, waits⟩ := isWaiting_iff.1 wait.waiting
  have hkept := Relay.phase?_run_moves other.symm hphase stimuli
  rw [← hrelay] at exclusive hwriters hkept
  refine ⟨⟨exclusive, isWaiting_iff.2 ⟨phase, hkept, waits⟩, ?_⟩, ?_, hwriters, keepalive⟩
  · rw [windows, keepalive, wait.window]
  · rw [hsent, hpings]

theorem stimulate_other (other : i ≠ k) (stimulus : Stimulus) (draws : List ClientId) :
    Waited k handle since 0 timeline (timeline.stimulate i stimulus draws) := by
  have leads : Leads i (fun _ => True) timeline (timeline.stimulate i stimulus draws) :=
    leads_stimulate timeline stimulus (fun _ _ => trivial) draws
  refine wait.waited_of_leads other leads ?_ (timeline.stimulate_frame i stimulus draws).2.1
  rw [fst_stimulate, windows_restart_other _ other, (settle_frame _ i draws).1]
  rfl

theorem dismiss_other (other : i ≠ k) : Waited k handle since 0 timeline (timeline.dismiss i) := by
  obtain ⟨hwindows, -, hkeepalive⟩ := timeline.dismiss_frame i
  exact wait.waited_of_leads other (leads_dismiss timeline) (hwindows ▸ rfl) hkeepalive

section

variable (alive : timeline.relay.writers.alive handle = true)
include alive

theorem move_silence :
    (timeline.move k .silence).1.isWaiting k = true ∧
      (timeline.move k .silence).2.sent = [⟨handle.outbox, .ping⟩] := by
  obtain ⟨phase, hphase, waits⟩ := isWaiting_iff.1 wait.waiting
  have relayCourse := timeline.relay.course (.move k .silence)
  obtain ⟨_, own, next, left, heq, hown, hnext, course⟩ :=
    relayCourse.exists_step (beq_self_eq_true k) hphase
  cases heq
  obtain rfl : own = handle := Option.some.inj (hown.symm.trans wait.exclusive.served)
  have hsent : (timeline.move k .silence).2.sent =
      (timeline.relay.step (.move k .silence)).2.sent := rfl
  generalize (timeline.relay.step (.move k .silence)).2.sent = sent at course hsent
  cases course with
  | pinged =>
    rw [hsent, Writers.send_of_alive alive]
    exact ⟨isWaiting_iff.2 ⟨phase, hnext, waits⟩, rfl⟩
  | gaveUp _ _ dead => cases alive.symm.trans dead
  | ignored _ busy => cases waits.symm.trans busy

/-- **After a window of silence a session is pinged**, and waits on. -/
theorem stimulate_silence :
    Waited k handle timeline.now 1 timeline (timeline.stimulate k .silence []) := by
  obtain ⟨waiting, hsent⟩ := wait.move_silence alive
  have hsettle := settle_of_waiting waiting []
  have exclusive : (timeline.move k .silence).1.relay.Exclusive k handle :=
    wait.exclusive.step_move k .silence
  have hstimulate : timeline.stimulate k .silence [] =
      ((timeline.move k .silence).1.restart k, (timeline.move k .silence).2) := by
    simp only [stimulate, hsettle, History.append_nothing]
  rw [hstimulate]
  refine ⟨inWait_restart exclusive waiting, ?_, ?_, (clock_restart _ k).2⟩
  · rw [hsent]
    simp [pingsFor, framesFor]
  · rw [relay_restart]
    exact timeline.relay.writers_step_move k .silence

end

theorem isWaiting_accept_closed (draws : List ClientId) :
    (timeline.accept k (.fault .closed) draws).1.isWaiting k = false := by
  obtain ⟨phase, hphase, waits⟩ := isWaiting_iff.1 wait.waiting
  have rests : Rests k timeline := ⟨phase, hphase, (Phase.idle_of_isWaiting waits).1⟩
  obtain ⟨next, hnext, parting⟩ := parting_accept_closed rests draws
  rw [isWaiting, hnext]
  exact Phase.isWaiting_of_isParting parting

/-- To a session without a writer, a window of silence is what the end of its connection is. -/
theorem stimulate_silence_of_not_alive (dead : timeline.relay.writers.alive handle = false)
    (draws : List ClientId) :
    timeline.stimulate k .silence [] = timeline.accept k (.fault .closed) draws := by
  obtain ⟨phase, hphase, waits⟩ := isWaiting_iff.1 wait.waiting
  obtain ⟨⟨own, phase⟩, present, rfl⟩ := Option.map_eq_some_iff.1 hphase
  obtain rfl : own = handle :=
    Option.some.inj ((Relay.handle?_of_present present).symm.trans wait.exclusive.served)
  -- without a writer a window of silence and the end of the connection are the same step
  have hmove : timeline.move k .silence = timeline.move k (.event (.fault .closed)) := by
    simp only [move, Relay.step, present, Session.step, Session.keepAlive, waits, dead, if_true,
      Bool.false_eq_true, if_false]
  obtain ⟨next, own, left, sent, hnext, course⟩ := exists_course hphase (.event (.fault .closed))
  have parting : next.isParting = true := by
    cases course with
    | received => exact Phase.isParting_receive_closed waits
  -- the session has nothing to deal with then, so it does not matter what it draws
  have hsettle := settle_of_idle hnext (Phase.isBusy_of_isParting parting)
  have haccept : timeline.accept k (.fault .closed) draws =
      timeline.stimulate k (.event (.fault .closed)) draws := if_pos wait.waiting
  rw [haccept]
  simp only [stimulate, hmove, hsettle]

/-- **What a window that ends is to a session that waits**: nothing if it is the window of another
session, and one round of its wait if it is its own, as long as its writer is at work. -/
theorem expire (ticking : timeline.Ticking) {window : Window} (h : window ∈ timeline.windows)
    (lasts : window.session = k → timeline.relay.writers.alive handle = true) :
    ((timeline.atLeast window.ends).stimulate window.session .silence []).1.isWaiting k = true ∧
      (window.session ≠ k ∧ Waited k handle since 0 timeline (timeline.expire window) ∨
        window = ⟨k, since + timeline.keepalive⟩ ∧
          Waited k handle (since + timeline.keepalive) 1 timeline (timeline.expire window)) := by
  have reached := wait.atLeast window.ends
  rw [expire_eq]
  by_cases own : window.session = k
  · have told := reached.stimulate_silence (lasts own)
    have hnow : (timeline.atLeast window.ends).now = window.ends :=
      Nat.max_eq_right (ticking.upcoming window h)
    -- a session has one window, and this is it
    obtain rfl := wait.eq_of_mem h own
    rw [hnow] at told
    dsimp only
    rw [dismiss_of_waiting told.wait.waiting, History.append_nothing]
    exact ⟨told.wait.waiting,
      .inr ⟨rfl, told.wait, told.pings, told.writers, told.keepalive⟩⟩
  · have told := reached.stimulate_other own .silence []
    have rest := told.wait.dismiss_other own
    have whole := told.append rest
    exact ⟨told.wait.waiting, .inl ⟨own, whole.wait, whole.pings, whole.writers, whole.keepalive⟩⟩

end InWait

end Timeline

end SignalRelay
