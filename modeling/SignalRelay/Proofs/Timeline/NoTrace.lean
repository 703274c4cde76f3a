import SignalRelay.Proofs.Timeline.Alone

/-!
# A session leaves no trace

A connection is opened on a relay where nobody else moves, and its session runs from beginning to
end. Whatever it receives and whenever, and whoever is registered, it comes to its end, and the
registry is what it was before; only a session that was registered as the media endpoint may have
changed flags, those on which it has reported (`Timeline.session_leaves_no_trace`).
-/

namespace SignalRelay.Timeline

/-- A relay on which nobody moves. -/
def still (registry : Registry) (writers : Writers) (keepalive now : Nat) : Timeline :=
  ⟨⟨registry, writers, []⟩, keepalive, now, []⟩

section

variable (registry : Registry) (writers : Writers) (keepalive now : Nat) (handle : Handle)

/-- The session has begun, and nobody else has. -/
theorem begun_still :
    let begun := ((still registry writers keepalive now).connect handle).1
    begun.relay = ⟨registry, writers, [⟨handle, .awaitingHello⟩]⟩ ∧ Alone 0 begun ∧
      Rests 0 begun := by
  let opened : Timeline :=
    ⟨⟨registry, writers, [⟨handle, .awaitingHello⟩]⟩, keepalive, now, []⟩
  have hbegun : ((still registry writers keepalive now).connect handle).1 = opened.restart 0 := rfl
  have alone : Alone 0 opened := fun window h => absurd h List.not_mem_nil
  have hrelay : (opened.restart 0).relay = opened.relay := relay_restart opened 0
  rw [hbegun]
  exact ⟨hrelay, alone_restart alone, .awaitingHello, congrArg (Relay.phase? · 0) hrelay, rfl⟩

theorem ticking_still (pos : 0 < keepalive) :
    ((still registry writers keepalive now).connect handle).1.Ticking := by
  refine ⟨pos, fun window h => ?_⟩
  rw [List.mem_singleton.1 h]
  exact Nat.le_add_right _ _

/-- What a whole session comes to, as a run of its steps. -/
theorem exists_run_session (draws : List ClientId) (events : List TimedEvent) :
    let opened : Relay := ⟨registry, writers, [⟨handle, .awaitingHello⟩]⟩
    let outcome := (still registry writers keepalive now).session handle draws events
    (∃ ending, outcome.1.relay.phase? 0 = some (.finished ending)) ∧
    ∃ stimuli : List Stimulus,
      (∀ text, .event (.message text) ∈ stimuli → ∃ e ∈ events, e.event = .message text) ∧
      outcome.1.relay = opened.run (Relay.moves 0 stimuli) ∧
      outcome.2.sent = (opened.trace (Relay.moves 0 stimuli)).flatMap Effects.sent := by
  obtain ⟨hrelay, alone, rests⟩ := begun_still registry writers keepalive now handle
  have played :
      Serves 0 (fun event => (∃ e ∈ events, e.event = event) ∨ event = .fault .closed) _ _ :=
    serves_play alone draws now (fun e he => .inl ⟨e, he, rfl⟩) (.inr rfl)
  obtain ⟨phase, hphase, parting⟩ := parting_play alone rests draws now events
  obtain ⟨stimuli, heard, hrun, hsent⟩ := (played.append (serves_dismiss played.alone)).steps
  rw [hrelay] at hrun hsent
  refine ⟨finished_dismiss hphase parting, stimuli, fun text h => ?_, hrun, hsent⟩
  rcases heard _ h with h | h
  · exact h
  · cases h

end

/-! ### Main statement -/

/-- **A session leaves no trace.** Take any registry and any writers, and a connection whose number
no registered connection has. Run its session alone, with a keepalive of at least one time unit, any
draws, and any events at any times. No wait of the session is cut short, and it comes to its end.
The ids, all handles, and the media slot are as they were. Unless the session was registered as the
media endpoint the registry is the same; otherwise a flag differs only if one of the messages of the
session reports on its client. Whoever was registered is registered in every state on the way, and
is sent no close frame. -/
theorem session_leaves_no_trace {registry : Registry} {handle : Handle}
    (fresh : ∀ role own, registry.holder? role = some own → own.id ≠ handle.id)
    (numbered : registry.Numbered [handle]) {keepalive : Nat} (pos : 0 < keepalive)
    (writers : Writers) (now : Nat) (draws : List ClientId) (events : List TimedEvent) :
    let opened : Relay := ⟨registry, writers, [⟨handle, .awaitingHello⟩]⟩
    let begun := ((still registry writers keepalive now).connect handle).1
    let outcome := (still registry writers keepalive now).session handle draws events
    let left := outcome.1.relay.registry
    begun.WaitsOut 0 draws now events ∧
    ∃ ending stimuli, outcome.1.relay.phase? 0 = some (.finished ending) ∧
      outcome.1.relay = opened.run (Relay.moves 0 stimuli) ∧
      left.ids = registry.ids ∧ left.holder? = registry.holder? ∧ left.media = registry.media ∧
      (ending.role? ≠ some .media → left = registry) ∧
      (∀ id, left.inSession? id ≠ registry.inSession? id → ∃ e ∈ events, ∃ msg status,
        e.event = .message msg ∧ (MediaMessage.parse msg).statusOf? id = some status) ∧
      ∀ role own, registry.holder? role = some own →
        (∀ earlier, earlier <+: stimuli →
          (opened.run (Relay.moves 0 earlier)).registry.holder? role = some own) ∧
        ∀ code reason, .close code reason ∉ framesFor own.outbox outcome.2.sent := by
  intro opened begun outcome left
  refine ⟨(ticking_still registry writers keepalive now handle pos).waitsOut 0 draws now events, ?_⟩
  obtain ⟨⟨ending, hending⟩, stimuli, heard, hrun, hsent⟩ :=
    exists_run_session registry writers keepalive now handle draws events
  have hpresent : opened.sessions[0]? = some ⟨handle, .awaitingHello⟩ := rfl
  -- what the session has been told are the texts among its events
  let told : String → Prop := fun text => ∃ e ∈ events, e.event = .message text
  have visit : Session.Visit registry handle told .awaitingHello opened.registry := .arriving rfl
  obtain ⟨⟨last, hlast, ended⟩, hclose⟩ := Relay.visit_run hpresent visit heard
  rw [← hrun] at hlast ended
  rw [← hsent] at hclose
  obtain rfl : last = .finished ending := by
    rw [Relay.phase?_of_present hlast] at hending
    exact Option.some.inj hending
  obtain ⟨hholder, hmedia, hsame, marked⟩ := ended.finished
  refine ⟨ending, stimuli, hending, hrun, registry.ids_congr hholder, hholder, hmedia, hsame,
    fun id h => ?_, fun role own hown => ⟨fun earlier hearlier => ?_, ?_⟩⟩
  · obtain ⟨msg, status, ⟨e, he, hmsg⟩, hstatus⟩ := marked.flags id h
    exact ⟨e, he, msg, status, hmsg, hstatus⟩
  · obtain ⟨⟨phase, -, visited⟩, -⟩ := Relay.visit_run hpresent visit
      fun text h => heard text (hearlier.subset h)
    exact visited.holder? hown
  · -- an outbox that is shared would have the same number behind it
    refine hclose own.outbox fun hout => fresh role own hown ?_
    exact numbered own handle (.inr ⟨role, hown⟩) (.inl List.mem_cons_self) hout

/-- A session of the media endpoint that reports on a client, is silent for a while, and breaks off.
-/
theorem session_leaves_no_trace_of_report :
    let client : Handle := ⟨2, .v4 ⟨127, 0, 0, 1⟩ 9002, 2⟩
    let registry := (Registry.empty 7).insert 3 (.new client)
    let handle : Handle := ⟨9, .v4 ⟨127, 0, 0, 1⟩ 9009, 9⟩
    let events : List TimedEvent :=
      [⟨5, .message "REGISTER MEDIA"⟩, ⟨10, .message "SESSION 3 BOUND"⟩, ⟨75, .fault (.broken "")⟩]
    ∃ outcome, outcome = (still registry .allAlive 30 0).session handle [] events ∧
    outcome.1.relay.registry.holder? = registry.holder? ∧
    registry.inSession? 3 = some false ∧ outcome.1.relay.registry.inSession? 3 = some true ∧
    outcome.2.sent = [⟨9, .text "REGISTERED"⟩, ⟨9, .ping⟩, ⟨9, .ping⟩, ⟨9, .close 1000 ""⟩] ∧
    ∀ code reason, .close code reason ∉ framesFor client.outbox outcome.2.sent := by
  intro client registry handle events
  have only : ∀ role own, registry.holder? role = some own → role = .client 3 ∧ own = client := by
    intro role own h
    rw [Registry.holder?_insert, Function.update_apply] at h
    split at h
    · next hrole => exact ⟨hrole, (Option.some.inj h).symm⟩
    · rw [Registry.holder?_empty] at h
      cases h
  have fresh : ∀ role own, registry.holder? role = some own → own.id ≠ handle.id := by
    intro role own h
    rw [(only role own h).2]
    decide
  have numbered : registry.Numbered [handle] := by
    rintro a b (ha | ⟨role, ha⟩) (hb | ⟨role', hb⟩) hout
    · rw [List.mem_singleton.1 ha, List.mem_singleton.1 hb]
    · rw [List.mem_singleton.1 ha, (only _ _ hb).2] at hout
      cases hout
    · rw [List.mem_singleton.1 hb, (only _ _ ha).2] at hout
      cases hout
    · rw [(only _ _ ha).2, (only _ _ hb).2]
  have pos : 0 < 30 := by omega
  obtain ⟨-, ending, stimuli, -, -, -, hholder, -, -, -, hothers⟩ :=
    session_leaves_no_trace fresh numbered pos .allAlive 0 [] events
  have hclient : registry.holder? (.client 3) = some client := by
    rw [Registry.holder?_insert, Function.update_self]
    rfl
  have hclose := (hothers _ _ hclient).2
  refine ⟨_, rfl, hholder, ?_, ?_, ?_, hclose⟩
  · decide +kernel
  · decide +kernel
  · decide +kernel

end SignalRelay.Timeline
