import SignalRelay.Proofs.Server.Receiving
import SignalRelay.Proofs.Server.Visits
import SignalRelay.Proofs.Timeline.Pinging

/-!
# The encoding of frames does not show

Two lists of visits that differ in the encoding of texts, and in frames that are passed over, lead
to the same server and put the same frames into outboxes (`Server.run_eq_of_recoded`). The frames
that are passed over may come at any time: while time passes, they cut its passing into several
visits (`Visit.Recoded`). The moments of the two runs correspond to each other
(`Visit.Recoded.exists_beginning`, `Visit.Recoded.exists_upTo`). The keepalive of a server is that
of a single receive: while time passes, its sessions are sent the same pings
(`Server.pingsFor_receive_wait`).
-/

namespace SignalRelay

namespace Visit

/-- **The same visits in other frames**: texts may be carried by other frames, frames that are
passed over may be added anywhere, also while time passes. -/
inductive Recoded : List Visit → List Visit → Prop
  | nil : Recoded [] []
  | same {visits recoded : List Visit} (visit : Visit) (rest : Recoded visits recoded) :
    Recoded (visit :: visits) (visit :: recoded)
  | carried {frame other : Incoming} {s : String} {visits recoded : List Visit} (name : String)
      (uid : Option ClientId) (h : frame.Carries s) (h' : other.Carries s)
      (rest : Recoded visits recoded) :
    Recoded (.frame name frame uid :: visits) (.frame name other uid :: recoded)
  | ignored {frame : Incoming} {visits recoded : List Visit} (name : String)
      (uid : Option ClientId) (h : frame.Ignored) (rest : Recoded visits recoded) :
    Recoded visits (.frame name frame uid :: recoded)
  | paused {visits recoded : List Visit} (a b : Nat) (rest : Recoded (.wait b :: visits) recoded) :
    Recoded (.wait (a + b) :: visits) (.wait a :: recoded)

/-- The visits up to some moment, which may be one in which time passes. -/
inductive UpTo : List Visit → List Visit → Prop
  | now (visits : List Visit) : UpTo [] visits
  | later {earlier visits : List Visit} (visit : Visit) (rest : UpTo earlier visits) :
    UpTo (visit :: earlier) (visit :: visits)
  | meanwhile (a b : Nat) (visits : List Visit) : UpTo [.wait a] (.wait (a + b) :: visits)

namespace Recoded

variable {visits recoded : List Visit}

/-- Every beginning of the visits is recoded by a beginning of the others. -/
theorem exists_beginning (h : Recoded visits recoded) {earlier : List Visit}
    (hearlier : earlier <+: visits) : ∃ other, other <+: recoded ∧ Recoded earlier other := by
  induction h generalizing earlier with
  | nil => exact ⟨[], List.nil_prefix, List.prefix_nil.1 hearlier ▸ .nil⟩
  | same visit rest ih =>
    rcases List.prefix_cons_iff.1 hearlier with rfl | ⟨tail, rfl, htail⟩
    · exact ⟨[], List.nil_prefix, .nil⟩
    · obtain ⟨other, hother, hrecoded⟩ := ih htail
      exact ⟨_, List.cons_prefix_cons.2 ⟨rfl, hother⟩, .same visit hrecoded⟩
  | carried name uid h h' rest ih =>
    rcases List.prefix_cons_iff.1 hearlier with rfl | ⟨tail, rfl, htail⟩
    · exact ⟨[], List.nil_prefix, .nil⟩
    · obtain ⟨other, hother, hrecoded⟩ := ih htail
      exact ⟨_, List.cons_prefix_cons.2 ⟨rfl, hother⟩, .carried name uid h h' hrecoded⟩
  | ignored name uid h rest ih =>
    obtain ⟨other, hother, hrecoded⟩ := ih hearlier
    exact ⟨_, List.cons_prefix_cons.2 ⟨rfl, hother⟩, .ignored name uid h hrecoded⟩
  | paused a b rest ih =>
    rcases List.prefix_cons_iff.1 hearlier with rfl | ⟨tail, rfl, htail⟩
    · exact ⟨[], List.nil_prefix, .nil⟩
    · obtain ⟨other, hother, hrecoded⟩ := ih (List.cons_prefix_cons.2 ⟨rfl, htail⟩)
      exact ⟨_, List.cons_prefix_cons.2 ⟨rfl, hother⟩, .paused a b hrecoded⟩

/-- Every beginning of the others recodes the visits up to some moment. -/
theorem exists_upTo (h : Recoded visits recoded) {other : List Visit} (hother : other <+: recoded) :
    ∃ earlier, UpTo earlier visits ∧ Recoded earlier other := by
  induction h generalizing other with
  | nil => exact ⟨[], .now _, List.prefix_nil.1 hother ▸ .nil⟩
  | same visit rest ih =>
    rcases List.prefix_cons_iff.1 hother with rfl | ⟨tail, rfl, htail⟩
    · exact ⟨[], .now _, .nil⟩
    · obtain ⟨earlier, hearlier, hrecoded⟩ := ih htail
      exact ⟨_, .later visit hearlier, .same visit hrecoded⟩
  | carried name uid h h' rest ih =>
    rcases List.prefix_cons_iff.1 hother with rfl | ⟨tail, rfl, htail⟩
    · exact ⟨[], .now _, .nil⟩
    · obtain ⟨earlier, hearlier, hrecoded⟩ := ih htail
      exact ⟨_, .later _ hearlier, .carried name uid h h' hrecoded⟩
  | ignored name uid h rest ih =>
    rcases List.prefix_cons_iff.1 hother with rfl | ⟨tail, rfl, htail⟩
    · exact ⟨[], .now _, .nil⟩
    · obtain ⟨earlier, hearlier, hrecoded⟩ := ih htail
      exact ⟨earlier, hearlier, .ignored name uid h hrecoded⟩
  | paused a b rest ih =>
    rcases List.prefix_cons_iff.1 hother with rfl | ⟨tail, rfl, htail⟩
    · exact ⟨[], .now _, .nil⟩
    · obtain ⟨earlier, hearlier, hrecoded⟩ := ih htail
      -- the first portion of the time has passed; how much of the second one has?
      cases hearlier with
      | now => exact ⟨_, .meanwhile a b _, .same (.wait a) hrecoded⟩
      | later visit rest => exact ⟨_, .later _ rest, .paused a b hrecoded⟩
      | meanwhile c d =>
        refine ⟨[.wait (a + c)], ?_, .paused a c hrecoded⟩
        rw [← Nat.add_assoc]
        exact .meanwhile (a + c) d _

end Recoded

end Visit

namespace Server

variable {server : Server}

theorem run_cons (server : Server) (visit : Visit) (visits : List Visit) :
    server.run (visit :: visits) =
      (((server.receive visit).1.run visits).1,
        (server.receive visit).2.queued ++ ((server.receive visit).1.run visits).2) := rfl

/-- **Visits in other frames come to the same**: one server, and the same frames in outboxes. -/
theorem run_eq_of_recoded {visits recoded : List Visit} (h : Visit.Recoded visits recoded)
    (order : server.timeline.InOrder) : server.run recoded = server.run visits := by
  -- the server changes along the visits, and stays in order, which the portions of time need
  induction h generalizing server with
  | nil => rfl
  | same visit rest ih => rw [run_cons, run_cons, ih (inOrder_receive order visit)]
  | carried name uid h h' rest ih =>
    rw [run_cons, run_cons, receive_congr (h'.event?.trans h.event?.symm),
      ih (inOrder_receive order _)]
  | ignored name uid h rest ih =>
    obtain ⟨hserver, hqueued⟩ := receive_of_passed h.event? server name uid
    rw [run_cons, hserver, hqueued, ih order]
    rfl
  | paused a b rest ih =>
    cases hfirst : server.receive (.wait a) with
    | mk middle first =>
      cases hsecond : middle.receive (.wait b) with
      | mk last second =>
        have later : middle.timeline.InOrder := by
          have h := inOrder_receive order (.wait a)
          rwa [hfirst] at h
        obtain ⟨hlast, hqueued⟩ := receive_wait_add order hfirst hsecond
        rw [run_cons, hfirst, ih later, run_cons, hsecond, run_cons, hlast, hqueued,
          List.append_assoc]

/-- While time passes, a session that waits is sent the pings of a receive whose event comes later.
-/
theorem pingsFor_receive_wait {k since : Nat} {handle : Handle}
    (wait : server.timeline.InWait k handle since) (ticking : server.timeline.Ticking)
    (alive : server.timeline.relay.writers.alive handle = true) (duration : Nat) (event : Event) :
    let later : TimedEvent := ⟨server.timeline.now + duration + 1, event⟩
    pingsFor handle (server.receive (.wait duration)).2.queued =
      (Keepalive.receive server.timeline.keepalive true [later] since).pings.length := by
  intro later
  obtain ⟨last, waited⟩ := wait.pings_advance ticking alive duration event []
  exact waited.pings

/-- **The encoding of frames does not show.** Receives return the texts that the frames carry, up to
the fault at the end; a keepalive around them changes nothing in that, and pings as if the events
alone came. Visits in other frames, between which frames are passed over, lead a server through the
same states: registry, sessions and their endings, clock and windows, open connections; and the same
frames are put into the same outboxes, pings included. Settings have no window of length zero. -/
theorem frame_encoding_is_invisible {keepaliveSecs : UInt64} (settled : keepaliveSecs ≠ 0)
    (maxClients : ClientId) (reach : Reach) :
    (∀ frames, (∃ texts fault, Incoming.Yields frames texts fault) ∧
      ∀ texts fault, Incoming.Yields frames texts fault ↔
        Incoming.receives (texts.length + 1) frames = Incoming.results texts fault) ∧
    (∀ (window : Nat) (pos : 0 < window) (ends : Nat) (arrivals : List Arrival) (now calls : Nat),
      (Arrival.awaits window pos none ends arrivals now calls 0).map Reception.event =
        Incoming.receives calls (arrivals.map Arrival.frame) ∧
      (Arrival.Ordered ends arrivals → ∀ gone,
        (Arrival.awaits window pos gone ends arrivals now calls 0).map Reception.outcome =
          (Keepalive.receives window gone (Arrival.timedEvents ends arrivals) now calls 0).map
            Receipt.outcome)) ∧
    ∀ visits recoded, Visit.Recoded visits recoded →
      let start := new maxClients keepaliveSecs reach
      start.run recoded = start.run visits ∧
      (∀ earlier, earlier <+: visits →
        ∃ other, other <+: recoded ∧ start.run other = start.run earlier) ∧
      ∀ other, other <+: recoded →
        ∃ earlier, Visit.UpTo earlier visits ∧ start.run other = start.run earlier := by
  refine ⟨fun frames => ?_, fun window pos ends arrivals now calls => ?_,
    fun visits recoded h => ?_⟩
  · exact ⟨Incoming.exists_yields frames, fun texts fault => Incoming.receives_eq_iff.symm⟩
  · refine ⟨Arrival.map_event_awaits pos ends now arrivals calls 0, fun ordered gone => ?_⟩
    exact Arrival.awaits_spec pos ordered (.inl rfl) gone calls 0
  · have order := inOrder_new maxClients settled reach
    refine ⟨run_eq_of_recoded h order, fun earlier hearlier => ?_, fun other hother => ?_⟩
    · obtain ⟨other, hother, hrecoded⟩ := h.exists_beginning hearlier
      exact ⟨other, hother, run_eq_of_recoded hrecoded order⟩
    · obtain ⟨earlier, hearlier, hrecoded⟩ := h.exists_upTo hother
      exact ⟨earlier, hearlier, run_eq_of_recoded hrecoded order⟩

/-- A media endpoint that registers, by a text or its bytes, and sends a pong shortly before its
first window ends. The pings that it is sent are those of a receive. -/
theorem frame_encoding_is_invisible_of_silence :
    let start := new 7 1 .listening
    let opening : Visit := .connect "media" "/ws" (.v4 ⟨127, 0, 0, 1⟩ 9001)
    let visits := [opening, .frame "media" (.text "REGISTER MEDIA") none, .wait 2500]
    let recoded := [opening, .frame "media" (.binary "REGISTER MEDIA".toUTF8) none, .wait 900,
      .frame "media" .pong none, .wait 1600]
    let registered := (start.run [opening, .frame "media" (.text "REGISTER MEDIA") none]).1
    let arrivals : List Arrival := [⟨0, .text "REGISTER MEDIA"⟩, ⟨900, .pong⟩]
    let events : List TimedEvent := [⟨0, .message "REGISTER MEDIA"⟩, ⟨2500, .fault .closed⟩]
    (1 : UInt64) ≠ 0 ∧ Visit.Recoded visits recoded ∧ start.run recoded = start.run visits ∧
      (start.run visits).2 = [⟨1, .text "REGISTERED"⟩, ⟨1, .ping⟩, ⟨1, .ping⟩] ∧
      pingsFor ⟨1, .v4 ⟨127, 0, 0, 1⟩ 9001, 1⟩ (registered.receive (.wait 2500)).2.queued =
        (Keepalive.receive 1000 true [⟨2501, .fault .closed⟩] 0).pings.length ∧
      Arrival.Ordered 2500 arrivals ∧
      (Arrival.awaits 1000 (by decide) none 2500 arrivals 0 2 0).map Reception.outcome =
        (Keepalive.receives 1000 none events 0 2 0).map Receipt.outcome := by
  intro start opening visits recoded registered arrivals events
  have h : Visit.Recoded visits recoded :=
    .same opening (.carried _ none (.text _) (.binary _)
      (.paused 900 1600 (.ignored _ none .pong (.same (.wait 1600) .nil))))
  have settled : (1 : UInt64) ≠ 0 := by decide
  have ordered : Arrival.Ordered 2500 arrivals := by
    simp [Arrival.Ordered, arrivals]
  obtain ⟨-, hawaits, hruns⟩ := frame_encoding_is_invisible settled 7 .listening
  refine ⟨settled, h, (hruns visits recoded h).1, ?_, ?_, ordered, ?_⟩
  · decide +kernel
  · have alone : registered.timeline.relay.sessions.map Session.handle =
        [⟨1, .v4 ⟨127, 0, 0, 1⟩ 9001, 1⟩] := by decide +kernel
    have wait : registered.timeline.InWait 0 ⟨1, .v4 ⟨127, 0, 0, 1⟩ 9001, 1⟩ 0 :=
      ⟨Relay.exclusive_of_alone alone, by decide +kernel, by decide +kernel⟩
    have ticking : registered.timeline.Ticking := ⟨by decide +kernel, by decide +kernel⟩
    exact pingsFor_receive_wait wait ticking (by decide +kernel) 2500 (.fault .closed)
  · exact (hawaits 1000 (by decide) 2500 arrivals 0 2).2 ordered none

end Server

end SignalRelay
