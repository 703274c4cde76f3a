import SignalRelay.Proofs.Relay.Course

/-!
# The moments of a run

A run is cut into moments: an action together with the relay on which it acts. What every action
keeps, a run keeps (`Relay.run_invariant`), and so it holds at all of its moments
(`Relay.invariant_of_mem_moments`).
-/

namespace SignalRelay

/-- An action of a run, and the relay on which it acts. -/
structure Moment where
  before : Relay
  action : Action

namespace Moment

def after (moment : Moment) : Relay := (moment.before.step moment.action).1

def sent (moment : Moment) : List Delivery := (moment.before.step moment.action).2.sent

theorem course (moment : Moment) : moment.before.Course moment.action moment.after moment.sent :=
  moment.before.course moment.action

def queue (outbox : Outbox) (moments : List Moment) : List Frame :=
  moments.flatMap fun moment => framesFor outbox moment.sent

theorem queue_append (outbox : Outbox) (earlier later : List Moment) :
    queue outbox (earlier ++ later) = queue outbox earlier ++ queue outbox later :=
  List.flatMap_append

theorem queue_filter_cons (p : Moment → Bool) (outbox : Outbox) (moment : Moment)
    (moments : List Moment) :
    queue outbox ((moment :: moments).filter p) =
      framesFor outbox (if p moment then moment.sent else []) ++
        queue outbox (moments.filter p) := by
  by_cases h : p moment
  · rw [List.filter_cons_of_pos h, if_pos h]
    rfl
  · rw [List.filter_cons_of_neg h, if_neg h]
    rfl

end Moment

namespace Relay

def moments (relay : Relay) : List Action → List Moment
  | [] => []
  | action :: actions => ⟨relay, action⟩ :: moments (relay.step action).1 actions

theorem moments_append (relay : Relay) (earlier later : List Action) :
    relay.moments (earlier ++ later) =
      relay.moments earlier ++ (relay.run earlier).moments later := by
  induction earlier generalizing relay with
  | nil => rfl
  | cons action earlier ih => exact congrArg _ (ih _)

theorem moments_append_singleton (relay : Relay) (earlier : List Action) (action : Action) :
    relay.moments (earlier ++ [action]) = relay.moments earlier ++ [⟨relay.run earlier, action⟩] :=
  moments_append relay earlier [action]

theorem moments_take (relay : Relay) (actions : List Action) (n : Nat) :
    relay.moments (actions.take n) = (relay.moments actions).take n := by
  induction actions generalizing relay n with
  | nil => rw [List.take_nil, moments, List.take_nil]
  | cons action actions ih =>
    cases n with
    | zero => rfl
    | succ n => exact congrArg _ (ih _ n)

theorem run_append_singleton (relay : Relay) (earlier : List Action) (action : Action) :
    relay.run (earlier ++ [action]) = ((relay.run earlier).step action).1 :=
  run_append relay earlier [action]

theorem length_moments (relay : Relay) (actions : List Action) :
    (relay.moments actions).length = actions.length := by
  induction actions generalizing relay with
  | nil => rfl
  | cons action actions ih => exact congrArg (· + 1) (ih _)

theorem exists_of_mem_moments {relay : Relay} {actions : List Action} {moment : Moment}
    (h : moment ∈ relay.moments actions) :
    ∃ earlier later, actions = earlier ++ moment.action :: later ∧
      moment.before = relay.run earlier ∧ moment.after.run later = relay.run actions := by
  induction actions generalizing relay with
  | nil => cases h
  | cons action actions ih =>
    rcases List.mem_cons.1 h with rfl | h
    · exact ⟨[], actions, rfl, rfl, rfl⟩
    · obtain ⟨earlier, later, rfl, hbefore, hafter⟩ := ih h
      exact ⟨action :: earlier, later, rfl, hbefore, hafter⟩

/-! ### What every action keeps -/

/-- What every action of a certain kind keeps, a run of such actions keeps. -/
theorem run_invariant_of_forall {P : Relay → Prop} {Q : Moment → Prop}
    (step : ∀ moment, Q moment → P moment.before → P moment.after) {relay : Relay}
    (start : P relay) {actions : List Action} (h : ∀ moment ∈ relay.moments actions, Q moment) :
    P (relay.run actions) := by
  induction actions generalizing relay with
  | nil => exact start
  | cons action actions ih =>
    rw [moments, List.forall_mem_cons] at h
    exact ih (step _ h.1 start) h.2

theorem run_invariant {P : Relay → Prop}
    (step : ∀ {relay action after sent}, relay.Course action after sent → P relay → P after)
    {relay : Relay} (start : P relay) (actions : List Action) : P (relay.run actions) :=
  run_invariant_of_forall (Q := fun _ => True) (fun moment _ => step moment.course) start
    fun _ _ => trivial

theorem invariant_of_mem_moments {P : Relay → Prop}
    (step : ∀ {relay action after sent}, relay.Course action after sent → P relay → P after)
    {relay : Relay} (start : P relay) {actions : List Action} {moment : Moment}
    (h : moment ∈ relay.moments actions) : P moment.before := by
  obtain ⟨earlier, later, -, hbefore, -⟩ := exists_of_mem_moments h
  rw [hbefore]
  exact run_invariant step start earlier

variable {relay : Relay} {actions : List Action}

theorem handle?_run {i : Nat} {handle : Handle} (h : relay.handle? i = some handle)
    (actions : List Action) : (relay.run actions).handle? i = some handle :=
  run_invariant (P := fun relay => relay.handle? i = some handle) (fun course => course.handle?) h
    actions

theorem reaches_run (relay : Relay) (actions : List Action) (i : Nat) :
    (relay.stage i).Reaches ((relay.run actions).stage i) :=
  run_invariant (P := fun other => (relay.stage i).Reaches (other.stage i))
    (fun course h => h.trans (course.reaches i)) (.refl _) actions

theorem role?_run_of_append {earlier later : List Action} {i : Nat} {role other : Role}
    (began : relay.role? i = some role)
    (stays : (relay.run (earlier ++ later)).role? i = some other) :
    (relay.run earlier).role? i = some role := by
  have hearlier := reaches_run relay earlier i
  have hlater := reaches_run (relay.run earlier) later i
  rw [run_append, role?_eq_some_iff] at stays
  rw [role?_eq_some_iff] at began
  rw [began] at hearlier
  rw [stays] at hlater
  exact role?_eq_some_iff.2 (hearlier.eq_registered hlater)

/-- A session that has a role after a run has got it in one of the actions. -/
theorem exists_registration {i : Nat} {role : Role} (free : relay.role? i = none)
    (registered : (relay.run actions).role? i = some role) :
    ∃ earlier action later, actions = earlier ++ [action] ++ later ∧
      (relay.run earlier).role? i = none ∧
      (relay.run (earlier ++ [action])).role? i = some role := by
  induction actions generalizing relay with
  | nil =>
    rw [run, free] at registered
    cases registered
  | cons action actions ih =>
    cases hnext : (relay.step action).1.role? i with
    | none =>
      obtain ⟨earlier, last, later, rfl, hbefore, hafter⟩ := ih hnext registered
      exact ⟨action :: earlier, last, later, rfl, hbefore, hafter⟩
    | some other =>
      -- it keeps the role that it has got, so that is the one it has in the end
      have hreaches := reaches_run (relay.step action).1 actions i
      rw [role?_eq_some_iff.1 hnext, show (relay.step action).1.run actions =
        relay.run (action :: actions) from rfl, role?_eq_some_iff.1 registered] at hreaches
      refine ⟨[], action, actions, rfl, free, ?_⟩
      rcases hreaches.eq_or_eq_gone with h | h
      · cases h
        exact hnext
      · cases h

theorem alive_of_run {handle : Handle} (h : (relay.run actions).writers.alive handle = true) :
    relay.writers.alive handle = true := by
  induction actions generalizing relay with
  | nil => exact h
  | cons action actions ih => exact (relay.course action).alive (ih h)

section

variable {moment : Moment} (h : moment ∈ relay.moments actions)
include h

theorem reaches_before (i : Nat) : (relay.stage i).Reaches (moment.before.stage i) := by
  obtain ⟨earlier, later, -, hbefore, -⟩ := exists_of_mem_moments h
  rw [hbefore]
  exact reaches_run relay earlier i

theorem reaches_after (i : Nat) : (moment.after.stage i).Reaches ((relay.run actions).stage i) := by
  obtain ⟨earlier, later, -, -, hafter⟩ := exists_of_mem_moments h
  rw [← hafter]
  exact reaches_run moment.after later i

/-- A session that has a role before a run and one after it has the same role all the time. -/
theorem role?_of_mem_moments {i : Nat} {role other : Role} (began : relay.role? i = some role)
    (stays : (relay.run actions).role? i = some other) :
    moment.before.role? i = some role ∧ moment.after.role? i = some role := by
  rw [role?_eq_some_iff] at began stays
  have hbefore := reaches_before h i
  have hstep := moment.course.reaches i
  have hafter := reaches_after h i
  rw [began] at hbefore
  rw [stays] at hafter
  rw [role?_eq_some_iff, role?_eq_some_iff]
  exact ⟨hbefore.eq_registered (hstep.trans hafter), (hbefore.trans hstep).eq_registered hafter⟩

/-- A session that has a role before a run has it until it has none any more. -/
theorem role?_of_mem_moments_or {i : Nat} {role : Role} (began : relay.role? i = some role) :
    moment.before.role? i = some role ∨
      moment.before.role? i = none ∧ moment.after.role? i = none := by
  rw [role?_eq_some_iff] at began
  have hbefore := reaches_before h i
  rw [began] at hbefore
  rcases hbefore.eq_or_eq_gone with hrole | hgone
  · exact Or.inl (role?_eq_some_iff.2 hrole)
  · have hstep := moment.course.reaches i
    rw [hgone] at hstep
    exact Or.inr ⟨role?_eq_none_iff.2 (Or.inr hgone), role?_eq_none_iff.2 (Or.inr hstep.eq_gone)⟩

/-- A session that is still to arrive after a run has no role all the time. -/
theorem role?_eq_none_of_arriving {i : Nat} (waits : (relay.run actions).stage i = .arriving) :
    moment.before.role? i = none ∧ moment.after.role? i = none := by
  have hafter := reaches_after h i
  rw [waits] at hafter
  have hstep := moment.course.reaches i
  rw [hafter.eq_arriving] at hstep
  exact ⟨role?_eq_none_iff.2 (Or.inl hstep.eq_arriving),
    role?_eq_none_iff.2 (Or.inl hafter.eq_arriving)⟩

theorem handle?_of_before {i : Nat} {handle : Handle}
    (hi : moment.before.handle? i = some handle) :
    (relay.run actions).handle? i = some handle := by
  obtain ⟨earlier, later, -, -, hafter⟩ := exists_of_mem_moments h
  rw [← hafter]
  exact handle?_run (moment.course.handle? hi) later

theorem alive_before {handle : Handle}
    (alive : (relay.run actions).writers.alive handle = true) :
    moment.before.writers.alive handle = true := by
  obtain ⟨earlier, later, -, -, hafter⟩ := exists_of_mem_moments h
  rw [← hafter] at alive
  exact moment.course.alive (alive_of_run alive)

end

end Relay

/-! ### Connections -/

/-- The connections that are opened in a run, in order. -/
def connections (actions : List Action) : List Handle :=
  actions.filterMap fun
    | .connect handle => some handle
    | .move _ _ | .abandon _ => none

/-- Every connection has a number of its own, and an outbox that is made together with it. -/
structure WellNumbered (actions : List Action) : Prop where
  ids : (connections actions).Pairwise fun a b => a.id ≠ b.id
  outboxes : ∀ a ∈ connections actions, ∀ b ∈ connections actions,
    a.outbox = b.outbox → a.id = b.id

namespace Relay

theorem Course.map_handle {relay after : Relay} {action : Action} {sent : List Delivery}
    (course : relay.Course action after sent) :
    after.sessions.map Session.handle =
      relay.sessions.map Session.handle ++ connections [action] := by
  cases course with
  | connected handle => rw [connect, List.map_append]; rfl
  | abandoned | missed => exact (List.append_nil _).symm
  | moved k stimulus session next left _ present step =>
    obtain ⟨hk, hget⟩ := List.getElem?_eq_some_iff.1 present
    refine List.ext_getElem? fun i => ?_
    rw [show connections [.move k stimulus] = [] from rfl, List.append_nil, List.getElem?_map,
      List.getElem?_map, advance, getElem?_set_session present]
    by_cases hi : i = k
    · rw [if_pos hi, hi, present]
      rfl
    · rw [if_neg hi]

/-- The sessions of a run serve its connections, in order. -/
theorem map_handle_run (relay : Relay) (actions : List Action) :
    (relay.run actions).sessions.map Session.handle =
      relay.sessions.map Session.handle ++ connections actions := by
  induction actions generalizing relay with
  | nil => exact (List.append_nil _).symm
  | cons action actions ih =>
    have hcons : connections (action :: actions) = connections [action] ++ connections actions :=
      List.filterMap_append (l := [action])
    rw [run, ih, (relay.course action).map_handle, List.append_assoc, hcons]

theorem handle?_run_empty (maxClients : ClientId) (actions : List Action) (i : Nat) :
    ((empty maxClients).run actions).handle? i = (connections actions)[i]? := by
  rw [handle?, ← List.getElem?_map, map_handle_run]
  rfl

end Relay

/-- No two sessions of a run share an outbox. -/
theorem WellNumbered.eq_of_outbox_eq {actions : List Action} (numbered : WellNumbered actions)
    {maxClients : ClientId} {i j : Nat} {a b : Handle}
    (hi : ((Relay.empty maxClients).run actions).handle? i = some a)
    (hj : ((Relay.empty maxClients).run actions).handle? j = some b)
    (h : a.outbox = b.outbox) : i = j := by
  rw [Relay.handle?_run_empty] at hi hj
  have hid := numbered.outboxes a (List.mem_of_getElem? hi) b (List.mem_of_getElem? hj) h
  obtain ⟨hi', rfl⟩ := List.getElem?_eq_some_iff.1 hi
  obtain ⟨hj', rfl⟩ := List.getElem?_eq_some_iff.1 hj
  rcases Nat.lt_trichotomy i j with hlt | heq | hgt
  · exact absurd hid (List.pairwise_iff_getElem.1 numbered.ids i j hi' hj' hlt)
  · exact heq
  · exact absurd hid.symm (List.pairwise_iff_getElem.1 numbered.ids j i hj' hi' hgt)

end SignalRelay
