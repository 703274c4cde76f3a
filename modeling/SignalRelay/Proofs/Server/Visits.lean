import SignalRelay.Proofs.Timeline.Silence
import SignalRelay.Server.Basic

/-!
# What visits come to

A server stays in order over all visits (`Server.inOrder_receive`). Two kinds of visits are followed
further: while time passes no connection ends, so time may pass in several visits
(`Server.receive_wait_add`); and a frame that is passed over changes nothing
(`Server.receive_of_passed`).
-/

namespace SignalRelay

/-! ### Timelines in order -/

/-- The capacity says nothing about who is registered. -/
theorem Registry.holder?_withCapacity (registry : Registry) (capacity : Nat) :
    ({ registry with capacity } : Registry).holder? = registry.holder? := by
  funext role
  cases role <;> rfl

theorem Registry.holder?_offer (registry : Registry) (uid : Option ClientId) :
    (registry.offer uid).1.holder? = registry.holder? := by
  unfold offer
  split
  · rfl
  · split
    · rfl
    · exact registry.holder?_withCapacity 0

namespace Timeline

theorem inOrder_empty (maxClients : ClientId) {keepalive : Nat} (pos : 0 < keepalive) :
    (empty maxClients keepalive).InOrder where
  ticking := ⟨pos, fun _ h => absurd h List.not_mem_nil⟩
  faithful := Relay.faithful_empty maxClients
  waiting _ h := absurd h List.not_mem_nil

namespace InOrder

variable {timeline : Timeline} (order : timeline.InOrder)
include order

theorem withRegistry {registry : Registry}
    (same : registry.holder? = timeline.relay.registry.holder?) :
    (timeline.withRegistry registry).InOrder :=
  order.withRelay (order.faithful.of_kept id rfl same) id

theorem offering {α : Type} (uid : Option ClientId) {act : Timeline → List ClientId → Timeline × α}
    (acts : ∀ {offered : Timeline} (draws), offered.InOrder → (act offered draws).1.InOrder) :
    (timeline.offering uid act).1.InOrder := by
  have offered := order.withRegistry (timeline.relay.registry.holder?_offer uid)
  exact (acts _ offered).withRegistry (Registry.holder?_withCapacity _ _)

theorem connect (handle : Handle) : (timeline.connect handle).1.InOrder := by
  have course := timeline.relay.course (.connect handle)
  have connected := order.withRelay (order.faithful.after course) fun h =>
    course.phase?_of_not_isOf rfl h
  exact connected.restart _

theorem abandon (outbox : Outbox) :
    ({ timeline with relay := (timeline.relay.step (.abandon outbox)).1 }).InOrder := by
  have course := timeline.relay.course (.abandon outbox)
  exact order.withRelay (order.faithful.after course) fun h => course.phase?_of_not_isOf rfl h

end InOrder

end Timeline

/-! ### Servers in order -/

namespace Server

variable {server : Server}

theorem inOrder_new (maxClients : ClientId) {keepaliveSecs : UInt64} (h : keepaliveSecs ≠ 0)
    (reach : Reach) : (new maxClients keepaliveSecs reach).timeline.InOrder := by
  refine Timeline.inOrder_empty maxClients (Nat.mul_pos ?_ (by omega))
  exact Nat.pos_of_ne_zero fun hzero => h (UInt64.toNat_inj.1 hzero)

section

variable (order : server.timeline.InOrder)
include order

theorem inOrder_settle (welcome : Welcome) (left : Option String) (happened : History) :
    (server.settle welcome left happened).1.timeline.InOrder := by
  unfold settle
  dsimp only
  generalize List.filter _ _ = finished
  induction finished generalizing server with
  | nil => exact order
  | cons ended finished ih => exact ih (order.abandon ended.1.handle.outbox)

theorem inOrder_pass (socket : Socket) (frame : Incoming) (uid : Option ClientId) :
    (server.pass socket frame uid).1.timeline.InOrder := by
  unfold pass
  split
  · exact order
  · exact order.offering uid fun draws offered => offered.deliver _ _ draws

/-- **A server stays in order.** -/
theorem inOrder_receive (visit : Visit) : (server.receive visit).1.timeline.InOrder := by
  -- frames and time go by the timeline; the other visits leave it as it is or add a session
  cases visit with
  | connect name path address =>
    simp only [receive]
    split
    · exact order
    · unfold connect
      split
      · exact order
      · exact inOrder_settle (order.connect _) _ _ _
  | frame name frame uid =>
    simp only [receive]
    split
    · exact order
    · next socket _ => exact inOrder_settle (inOrder_pass order socket frame uid) _ _ _
  | leave name frame =>
    simp only [receive]
    split
    · exact order
    · next socket _ => exact inOrder_settle (inOrder_pass order socket frame none) _ _ _
  | request request =>
    simp only [receive]
    split
    · exact order
    · split <;> exact order
  | wait duration => exact inOrder_settle (order.advance duration).1 _ _ _
  | shutdown => exact order

end

/-! ### Visits that end no connection -/

theorem closes_eq_any (frames : List Frame) : closes frames = frames.any Frame.isClose := rfl

theorem closes_shown {frames : List Frame} (h : ∀ frame ∈ frames, frame.isClose = false) :
    closes (shown frames) = false := by
  have hwritten : written frames = frames := by
    have happend := written_append h []
    rwa [List.append_nil, written, List.append_nil] at happend
  rw [closes_eq_any, shown, hwritten, List.any_eq_false]
  intro frame hframe
  rw [h frame (List.mem_of_mem_filter hframe)]
  exact Bool.false_ne_true

/-- Where no close frame has been queued, no connection is over. -/
theorem settle_of_quiet {happened : History} (quiet : Quiet happened.sent) (server : Server)
    (welcome : Welcome) : (server.settle welcome none happened).1 = server := by
  unfold settle
  dsimp only
  rw [List.filter_eq_nil_iff.2]
  · rfl
  · intro entry hentry
    obtain ⟨socket, -, rfl⟩ := List.mem_map.1 hentry
    simp [closes_shown (quiet.framesFor socket.handle.outbox)]

theorem receive_wait (order : server.timeline.InOrder) (duration : Nat) :
    (server.receive (.wait duration)).1 =
        { server with timeline := (server.timeline.advance duration).1 } ∧
      (server.receive (.wait duration)).2.queued = (server.timeline.advance duration).2.sent :=
  ⟨settle_of_quiet (order.advance duration).2 _ _, rfl⟩

/-- **It makes no difference in how many visits time passes.** -/
theorem receive_wait_add (order : server.timeline.InOrder) {a b : Nat} {middle last : Server}
    {first second : Account} (hfirst : server.receive (.wait a) = (middle, first))
    (hsecond : middle.receive (.wait b) = (last, second)) :
    (server.receive (.wait (a + b))).1 = last ∧
      (server.receive (.wait (a + b))).2.queued = first.queued ++ second.queued := by
  have later : middle.timeline.InOrder := by
    have h := inOrder_receive order (.wait a)
    rwa [hfirst] at h
  obtain ⟨hmiddle, hqueued⟩ := receive_wait order a
  obtain ⟨hlast, hqueued'⟩ := receive_wait later b
  obtain ⟨hboth, hqueuedBoth⟩ := receive_wait order (a + b)
  rw [hfirst] at hmiddle hqueued
  rw [hsecond] at hlast hqueued'
  cases hbefore : server.timeline.advance a with
  | mk before sent =>
    simp only [hbefore] at hmiddle hqueued
    subst hmiddle
    cases hafter : before.advance b with
    | mk after sent' =>
      simp only [hafter] at hlast hqueued'
      have hadd := Timeline.advance_add order.ticking hbefore hafter
      rw [hboth, hqueuedBoth, hadd, hlast, hqueued, hqueued']
      exact ⟨rfl, rfl⟩

/-- **A frame that is passed over changes nothing**, wherever it comes from. -/
theorem receive_of_passed {frame : Incoming} (h : frame.event? = none) (server : Server)
    (name : String) (uid : Option ClientId) :
    (server.receive (.frame name frame uid)).1 = server ∧
      (server.receive (.frame name frame uid)).2.queued = [] := by
  have passed : ∀ socket, server.pass socket frame uid = (server, .nothing) := fun socket => by
    rw [pass, h]
  simp only [receive]
  split
  · exact ⟨rfl, rfl⟩
  · rw [passed]
    exact ⟨settle_of_quiet quiet_nil server .done, rfl⟩

/-- All that counts of a frame is its event. -/
theorem receive_congr {frame other : Incoming} (h : frame.event? = other.event?) (server : Server)
    (name : String) (uid : Option ClientId) :
    server.receive (.frame name frame uid) = server.receive (.frame name other uid) := by
  simp only [receive, pass, h]

end Server

end SignalRelay
