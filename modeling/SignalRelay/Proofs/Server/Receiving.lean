import Mathlib.Data.List.Basic
import SignalRelay.Proofs.Text.Utf8
import SignalRelay.Server.Incoming

/-!
# What receives return

The frames of a peer come down to texts and the fault after them (`Incoming.Yields`), which is what
successive receives return (`Incoming.receives_eq_iff`). A receive that waits with a keepalive is
dropped and begun anew at the end of every window, with the frames that it has passed over gone. All
the same its result is that of a plain receive (`Arrival.receive_map_frame`), also over many calls
(`Arrival.map_event_awaits`), and its pings are those of a receive to which only the events come
(`Arrival.await_spec`).
-/

namespace SignalRelay

namespace Incoming

/-! ### Frames -/

/-- A frame carries a text: as it is, or its UTF-8 bytes. -/
inductive Carries : Incoming → String → Prop
  | text (s : String) : Carries (.text s) s
  | binary (s : String) : Carries (.binary s.toUTF8) s

inductive Ignored : Incoming → Prop
  | ping : Ignored .ping
  | pong : Ignored .pong
  | garbled (bytes : ByteArray) (h : ∀ s : String, bytes ≠ s.toUTF8) : Ignored (.binary bytes)

/-- A frame after which there is nothing to receive. -/
inductive Stops : Incoming → TransportFault → Prop
  | close : Stops .close .closed
  | failed (cause : String) : Stops (.failed cause) (.broken cause)

variable {frame : Incoming}

theorem Carries.event? {s : String} (h : frame.Carries s) : frame.event? = some (.message s) := by
  cases h with
  | text => rfl
  | binary =>
    rw [Incoming.event?, fromUTF8?_eq_some_iff.2 rfl]
    rfl

theorem Ignored.event? (h : frame.Ignored) : frame.event? = none := by
  cases h with
  | ping | pong => rfl
  | garbled bytes h =>
    rw [Incoming.event?, Option.map_eq_none_iff, Option.eq_none_iff_forall_ne_some]
    exact fun s hs => h s (fromUTF8?_eq_some_iff.1 hs)

theorem Stops.event? {fault : TransportFault} (h : frame.Stops fault) :
    frame.event? = some (.fault fault) := by
  cases h <;> rfl

theorem carries_or_ignored_or_stops (frame : Incoming) :
    (∃ s, frame.Carries s) ∨ frame.Ignored ∨ ∃ fault, frame.Stops fault := by
  cases frame with
  | text s => exact .inl ⟨s, .text s⟩
  | binary bytes =>
    by_cases h : ∃ s : String, bytes = s.toUTF8
    · obtain ⟨s, rfl⟩ := h
      exact .inl ⟨s, .binary s⟩
    · exact .inr (.inl (.garbled bytes fun s hs => h ⟨s, hs⟩))
  | ping => exact .inr (.inl .ping)
  | pong => exact .inr (.inl .pong)
  | close => exact .inr (.inr ⟨_, .close⟩)
  | failed cause => exact .inr (.inr ⟨_, .failed cause⟩)

/-! ### Receives -/

/-- **What frames come down to**: the texts of those that carry one, up to the first that stops the
connection, and the fault that this is. The end of the stream counts as closing it. -/
inductive Yields : List Incoming → List String → TransportFault → Prop
  | ended : Yields [] [] .closed
  | stopped {frame : Incoming} {fault : TransportFault} (h : frame.Stops fault)
      (frames : List Incoming) : Yields (frame :: frames) [] fault
  | message {frame : Incoming} {s : String} {frames : List Incoming} {texts : List String}
      {fault : TransportFault} (h : frame.Carries s) (rest : Yields frames texts fault) :
    Yields (frame :: frames) (s :: texts) fault
  | ignored {frame : Incoming} {frames : List Incoming} {texts : List String}
      {fault : TransportFault} (h : frame.Ignored) (rest : Yields frames texts fault) :
    Yields (frame :: frames) texts fault

theorem exists_yields (frames : List Incoming) : ∃ texts fault, Yields frames texts fault := by
  induction frames with
  | nil => exact ⟨[], _, .ended⟩
  | cons frame frames ih =>
    obtain ⟨texts, fault, rest⟩ := ih
    rcases frame.carries_or_ignored_or_stops with ⟨s, h⟩ | h | ⟨fault, h⟩
    · exact ⟨_, _, .message h rest⟩
    · exact ⟨_, _, .ignored h rest⟩
    · exact ⟨_, _, .stopped h frames⟩

/-- The results of a session's receives: messages, and a fault at last. -/
def results (texts : List String) (fault : TransportFault) : List Event :=
  texts.map .message ++ [.fault fault]

theorem Yields.receives_eq {frames : List Incoming} {texts : List String} {fault : TransportFault}
    (h : Yields frames texts fault) :
    receives (texts.length + 1) frames = results texts fault := by
  induction h with
  | ended => rfl
  | stopped h frames =>
    rw [receives, receive_of_event h.event?]
    rfl
  | message h rest ih =>
    rw [receives, receive_of_event h.event?]
    exact congrArg _ ih
  | ignored h rest ih =>
    rw [receives, receive_of_passed h.event?]
    exact ih

theorem yields_of_receives_eq {frames : List Incoming} {texts : List String}
    {fault : TransportFault} (h : receives (texts.length + 1) frames = results texts fault) :
    Yields frames texts fault := by
  induction frames generalizing texts with
  | nil =>
    cases texts with
    | nil =>
      cases h
      exact .ended
    | cons => cases h
  | cons frame frames ih =>
    rcases frame.carries_or_ignored_or_stops with ⟨s, hframe⟩ | hframe | ⟨stop, hframe⟩
    · rw [receives, receive_of_event hframe.event?] at h
      cases texts with
      | nil => cases h
      | cons text texts =>
        obtain ⟨hs, hrest⟩ := List.cons.inj h
        cases hs
        exact .message hframe (ih hrest)
    · rw [receives, receive_of_passed hframe.event?] at h
      exact .ignored hframe (ih h)
    · rw [receives, receive_of_event hframe.event?] at h
      cases texts with
      | nil =>
        cases h
        exact .stopped hframe frames
      | cons => cases h

/-- **Receives return what the frames come down to.** -/
theorem receives_eq_iff {frames : List Incoming} {texts : List String} {fault : TransportFault} :
    receives (texts.length + 1) frames = results texts fault ↔ Yields frames texts fault :=
  ⟨yields_of_receives_eq, Yields.receives_eq⟩

end Incoming

/-! ### Receives with a keepalive -/

/-- What is seen of a receive: the event, the times of the pings, and the time at which it returns.
-/
def Receipt.outcome (receipt : Receipt) : Event × List Nat × Nat :=
  (receipt.event, receipt.pings, receipt.finished)

def Reception.outcome (reception : Reception) : Event × List Nat × Nat :=
  (reception.event, reception.pings, reception.finished)

theorem Reception.outcome_eq_iff {reception : Reception} {receipt : Receipt} :
    reception.outcome = receipt.outcome ↔ reception.event = receipt.event ∧
      reception.pings = receipt.pings ∧ reception.finished = receipt.finished := by
  rw [outcome, Receipt.outcome, Prod.mk.injEq, Prod.mk.injEq]

namespace Keepalive

theorem receive_of_due {window now due : Nat} (h : due ≤ now + window) (alive : Bool)
    (event : Event) (later : List TimedEvent) :
    receive window alive (⟨due, event⟩ :: later) now = ⟨event, [], max now due, later⟩ := by
  rw [receive, dif_pos (.inl h)]

theorem receive_of_late {window now : Nat} (pos : 0 < window) {events : List TimedEvent}
    (some : events ≠ []) (late : ∀ e ∈ events, now + window < e.due) (alive : Bool) :
    receive window alive events now =
      if alive then
        let later := receive window alive events (now + window)
        { later with pings := (now + window) :: later.pings }
      else ⟨.fault .closed, [], now + window, events⟩ := by
  cases events with
  | nil => exact absurd rfl some
  | cons e rest =>
    have hlate : ¬(e.due ≤ now + window ∨ (window = 0 ∧ alive = true)) := by
      have := late e List.mem_cons_self
      omega
    rw [receive, dif_neg hlate]
    cases alive <;> rfl

end Keepalive

namespace Arrival

/-- The events that come in time. -/
def timedEvents (ends : Nat) (arrivals : List Arrival) : List TimedEvent :=
  (arrivals.filterMap fun arrival => arrival.frame.event?.map (⟨arrival.due, ·⟩)) ++
    [⟨ends, .fault .closed⟩]

/-- Frames come one after the other, before the stream ends. -/
def Ordered (ends : Nat) (arrivals : List Arrival) : Prop :=
  (arrivals.map due ++ [ends]).Pairwise (· ≤ ·)

section

variable {ends deadline now time : Nat} {arrival : Arrival} {arrivals rest : List Arrival}
  {event : Event}

theorem Ordered.tail (h : Ordered ends (arrival :: arrivals)) : Ordered ends arrivals :=
  (List.pairwise_cons.1 h).2

theorem timedEvents_of_passed (h : arrival.frame.event? = none) :
    timedEvents ends (arrival :: arrivals) = timedEvents ends arrivals := by
  simp [timedEvents, h]

theorem timedEvents_of_event (h : arrival.frame.event? = some event) :
    timedEvents ends (arrival :: arrivals) = ⟨arrival.due, event⟩ :: timedEvents ends arrivals := by
  simp [timedEvents, h]

theorem timedEvents_ne_nil : timedEvents ends arrivals ≠ [] := by
  simp [timedEvents]

theorem Ordered.le_due (h : Ordered ends (arrival :: arrivals)) :
    ∀ e ∈ timedEvents ends arrivals, arrival.due ≤ e.due := by
  intro e he
  refine (List.pairwise_cons.1 h).1 e.due ?_
  rcases List.mem_append.1 he with he | he
  · obtain ⟨later, hlater, hevent⟩ := List.mem_filterMap.1 he
    obtain ⟨event, -, rfl⟩ := Option.map_eq_some_iff.1 hevent
    exact List.mem_append_left _ (List.mem_map_of_mem hlater)
  · rw [List.mem_singleton.1 he]
    exact List.mem_append_right _ List.mem_cons_self

/-- The events that are still to come with some frames: when the stream has ended, the end of it may
have been received. -/
def Announces (ends time : Nat) (arrivals : List Arrival) (events : List TimedEvent) : Prop :=
  events = timedEvents ends arrivals ∨ arrivals = [] ∧ events = [] ∧ ends ≤ time

/-- A receive that returns in time returns the first event. -/
theorem receiveBy_eq_some (ordered : Ordered ends arrivals)
    (h : receiveBy ends deadline arrivals now = (some event, time, rest)) :
    ∃ due later, timedEvents ends arrivals = ⟨due, event⟩ :: later ∧ due ≤ deadline ∧
      time = max now due ∧ Ordered ends rest ∧ Announces ends time rest later := by
  induction arrivals generalizing now with
  | nil =>
    rw [receiveBy] at h
    split at h
    · next hends =>
      cases h
      exact ⟨ends, [], rfl, hends, rfl, ordered, .inr ⟨rfl, rfl, Nat.le_max_right _ _⟩⟩
    · cases h
  | cons arrival arrivals ih =>
    rw [receiveBy] at h
    split at h
    · next hdue =>
      split at h
      · next hpassed =>
        obtain ⟨due, later, htimed, hle, htime, hrest, hlater⟩ := ih ordered.tail h
        -- a frame that is passed over moves the clock, but no further than the event behind it
        have hfirst : arrival.due ≤ due :=
          ordered.le_due ⟨due, event⟩ (htimed ▸ List.mem_cons_self)
        refine ⟨due, later, (timedEvents_of_passed hpassed).trans htimed, hle, ?_, hrest, hlater⟩
        rw [htime, Nat.max_assoc, Nat.max_eq_right hfirst]
      · next hevent =>
        cases h
        exact ⟨_, _, timedEvents_of_event hevent, hdue, rfl, ordered.tail, .inl rfl⟩
    · cases h

/-- A receive that is dropped has passed over frames only; the first event comes later. -/
theorem receiveBy_eq_none (ordered : Ordered ends arrivals)
    (h : receiveBy ends deadline arrivals now = (none, time, rest)) :
    time = deadline ∧ Ordered ends rest ∧ timedEvents ends rest = timedEvents ends arrivals ∧
      ∀ e ∈ timedEvents ends arrivals, deadline < e.due := by
  induction arrivals generalizing now with
  | nil =>
    rw [receiveBy] at h
    split at h
    · cases h
    · next hlate =>
      cases h
      refine ⟨rfl, ordered, rfl, fun e he => ?_⟩
      rw [List.mem_singleton.1 he]
      exact Nat.lt_of_not_le hlate
  | cons arrival arrivals ih =>
    rw [receiveBy] at h
    split at h
    · split at h
      · next hpassed =>
        rw [timedEvents_of_passed hpassed]
        exact ih ordered.tail h
      · cases h
    · next hlate =>
      cases h
      -- the frame at the head is late, and no event comes before it
      refine ⟨rfl, ordered, rfl, fun e he => Nat.lt_of_lt_of_le (Nat.lt_of_not_le hlate) ?_⟩
      cases hevent : arrival.frame.event? with
      | none =>
        rw [timedEvents_of_passed hevent] at he
        exact ordered.le_due e he
      | some event =>
        rw [timedEvents_of_event hevent] at he
        rcases List.mem_cons.1 he with rfl | he
        · exact Nat.le_refl _
        · exact ordered.le_due e he

/-- What a receive has done when it is over: it has returned the next event, or has passed over
frames only. -/
theorem receive_of_receiveBy {returned : Option Event}
    (h : receiveBy ends deadline arrivals now = (returned, time, rest)) :
    Incoming.receive (arrivals.map frame) =
      returned.elim (Incoming.receive (rest.map frame)) fun event => (event, rest.map frame) := by
  induction arrivals generalizing now with
  | nil =>
    rw [receiveBy] at h
    split at h <;> (cases h; rfl)
  | cons arrival arrivals ih =>
    rw [receiveBy] at h
    split at h
    · split at h
      · next hpassed =>
        rw [List.map_cons, Incoming.receive_of_passed hpassed]
        exact ih h
      · next hevent =>
        cases h
        exact Incoming.receive_of_event hevent _
    · cases h
      rfl

end

/-! #### One receive -/

section

variable {window : Nat} (pos : 0 < window) {alive : Bool} {ends now : Nat}
  {arrivals : List Arrival}

/-- **Frames that are passed over restart no window**: a receive on frames returns, with the same
pings and at the same time, what it returns when the events alone come. -/
theorem await_spec (ordered : Ordered ends arrivals) :
    let reception := await window pos alive ends arrivals now
    let receipt := Keepalive.receive window alive (timedEvents ends arrivals) now
    reception.outcome = receipt.outcome ∧ Ordered ends reception.rest ∧
      Announces ends reception.finished reception.rest receipt.rest := by
  fun_induction await window pos alive ends arrivals now with
  | case1 arrivals now event time rest h =>
    obtain ⟨due, later, hevents, hdue, htime, hrest, hlater⟩ := receiveBy_eq_some ordered h
    rw [hevents, Keepalive.receive_of_due hdue]
    exact ⟨by rw [htime]; rfl, hrest, hlater⟩
  | case2 arrivals now time rest h halive later ih =>
    obtain ⟨rfl, hrest, hevents, hlate⟩ := receiveBy_eq_none ordered h
    obtain ⟨houtcome, hordered, hlater⟩ := ih hrest
    rw [hevents] at houtcome hlater
    rw [Keepalive.receive_of_late pos timedEvents_ne_nil hlate, if_pos halive]
    obtain ⟨hevent, hpings, hfinished⟩ := Reception.outcome_eq_iff.1 houtcome
    refine ⟨Reception.outcome_eq_iff.2 ⟨hevent, ?_, hfinished⟩, hordered, hlater⟩
    exact congrArg (_ :: ·) hpings
  | case3 arrivals now time rest h halive =>
    obtain ⟨rfl, hrest, hevents, hlate⟩ := receiveBy_eq_none ordered h
    rw [Keepalive.receive_of_late pos timedEvents_ne_nil hlate, if_neg halive]
    exact ⟨rfl, hrest, .inl hevents.symm⟩

/-- The same of a receive on a stream that may have ended. -/
theorem await_of_announces {events : List TimedEvent} (ordered : Ordered ends arrivals)
    (announced : Announces ends now arrivals events) :
    let reception := await window pos alive ends arrivals now
    let receipt := Keepalive.receive window alive events now
    reception.outcome = receipt.outcome ∧ Ordered ends reception.rest ∧
      Announces ends reception.finished reception.rest receipt.rest := by
  rcases announced with rfl | ⟨rfl, rfl, hends⟩
  · exact await_spec pos ordered
  · have hnow : max now ends = now := Nat.max_eq_left hends
    have hreceive : receiveBy ends (now + window) [] now = (some (.fault .closed), now, []) := by
      rw [receiveBy, if_pos (Nat.le_trans hends (Nat.le_add_right _ _)), hnow]
    rw [await, Keepalive.receive]
    split
    · next h =>
      cases hreceive.symm.trans h
      exact ⟨rfl, ordered, .inr ⟨rfl, rfl, hends⟩⟩
    · next h => cases hreceive.symm.trans h

theorem awaits_spec {events : List TimedEvent} (ordered : Ordered ends arrivals)
    (announced : Announces ends now arrivals events) (gone : Option Nat) (calls number : Nat) :
    (awaits window pos gone ends arrivals now calls number).map Reception.outcome =
      (Keepalive.receives window gone events now calls number).map Receipt.outcome := by
  induction calls generalizing arrivals events now number with
  | zero => rfl
  | succ calls ih =>
    rw [awaits, Keepalive.receives]
    obtain ⟨houtcome, hordered, hlater⟩ := await_of_announces pos ordered announced
    have hfinished := (Reception.outcome_eq_iff.1 houtcome).2.2
    rw [List.map_cons, List.map_cons, houtcome, ← hfinished]
    exact congrArg _ (ih hordered hlater (number + 1))

/-- **A receive that is dropped and begun anew loses nothing**: with a writer at work, it returns
what a plain receive on the frames returns, and leaves the same frames. -/
theorem receive_map_frame (ends now : Nat) (arrivals : List Arrival) :
    let reception := await window pos true ends arrivals now
    Incoming.receive (arrivals.map frame) = (reception.event, reception.rest.map frame) := by
  generalize halive : true = alive
  fun_induction await window pos alive ends arrivals now with
  | case1 arrivals now event time rest h => exact receive_of_receiveBy h
  | case2 arrivals now time rest h _ later ih => exact (receive_of_receiveBy h).trans ih
  | case3 arrivals now time rest h dead => exact absurd halive.symm dead

theorem map_event_awaits (ends now : Nat) (arrivals : List Arrival) (calls number : Nat) :
    (awaits window pos none ends arrivals now calls number).map Reception.event =
      Incoming.receives calls (arrivals.map frame) := by
  induction calls generalizing arrivals now number with
  | zero => rfl
  | succ calls ih =>
    rw [awaits, Incoming.receives, receive_map_frame pos ends now arrivals, List.map_cons, ih]
    rfl

end

end Arrival

end SignalRelay
