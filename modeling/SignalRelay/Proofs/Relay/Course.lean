import SignalRelay.Proofs.Session.Course
import SignalRelay.Relay.Basic

/-!
# What an action on a relay comes to

`Relay.Course` lists the courses of an action; the one of a session's step refers to
`Session.Course`. A session only ever moves on: it arrives, is registered in one role, and is gone
(`Stage.Reaches`), and it serves the same connection all the time.
-/

namespace SignalRelay

/-- Whether an action is a step of the given session. -/
def Action.isOf (session : Nat) : Action → Bool
  | .move k _ => k == session
  | .connect _ | .abandon _ => false

/-! ### Stages -/

/-- How far a session has come, as far as the registry is concerned. -/
inductive Stage where
  | arriving
  | registered (role : Role)
  | gone
  deriving DecidableEq

/-- Whether a session can come from one stage to another. -/
def Stage.Reaches (a b : Stage) : Prop := a = .arriving ∨ b = .gone ∨ a = b

namespace Stage.Reaches

theorem refl (a : Stage) : a.Reaches a := Or.inr (Or.inr rfl)

theorem trans {a b c : Stage} (hab : a.Reaches b) (hbc : b.Reaches c) : a.Reaches c := by
  rcases hab with rfl | rfl | rfl
  · exact Or.inl rfl
  · rcases hbc with hb | rfl | rfl
    · cases hb
    · exact Or.inr (Or.inl rfl)
    · exact Or.inr (Or.inl rfl)
  · exact hbc

theorem eq_arriving {a : Stage} (h : a.Reaches .arriving) : a = .arriving := by
  rcases h with h | h | h
  · exact h
  · cases h
  · exact h

theorem eq_gone {b : Stage} (h : Stage.gone.Reaches b) : b = .gone := by
  rcases h with h | h | h
  · cases h
  · exact h
  · exact h.symm

theorem eq_or_eq_gone {b : Stage} {role : Role} (h : (Stage.registered role).Reaches b) :
    b = .registered role ∨ b = .gone := by
  rcases h with h | h | h
  · cases h
  · exact Or.inr h
  · exact Or.inl h.symm

/-- Between two moments at which a session has a role, it has that role all the time. -/
theorem eq_registered {b : Stage} {role other : Role} (h : (Stage.registered role).Reaches b)
    (h' : b.Reaches (.registered other)) : b = .registered role := by
  rcases h.eq_or_eq_gone with rfl | rfl
  · rfl
  · cases h'.eq_gone

end Stage.Reaches

namespace Phase

def stage : Phase → Stage
  | awaitingHello | greeted _ => .arriving
  | routing role | handling role _ | leaving role _ => .registered role
  | finished _ => .gone

theorem role?_eq_some_iff {phase : Phase} {role : Role} :
    phase.role? = some role ↔ phase.stage = .registered role := by
  cases phase <;> simp [role?, stage]

theorem reaches_receive (phase : Phase) (event : Event) :
    phase.stage.Reaches (phase.receive event).stage := by
  rcases phase with _ | _ | role | ⟨role, msg⟩ | ⟨role, cause⟩ | ending
  · exact Or.inl rfl
  · exact Or.inl rfl
  · rcases event with text | (_ | cause)
    · exact .refl _
    · exact .refl _
    · exact .refl _
  · exact .refl _
  · exact .refl _
  · exact .refl _

theorem role?_receive (phase : Phase) (event : Event) :
    (phase.receive event).role? = phase.role? := by
  rcases phase with _ | _ | role | ⟨role, msg⟩ | ⟨role, cause⟩ | ending <;>
    rcases event with text | (_ | cause) <;> rfl

end Phase

/-- A step of a session never leads back to an earlier stage. -/
theorem Session.Course.reaches {writers : Writers} {registry left : Registry} {handle : Handle}
    {phase next : Phase} {stimulus : Stimulus} {sent : List Delivery}
    (course : Course writers registry handle phase stimulus next left sent) :
    phase.stage.Reaches next.stage := by
  cases course with
  | received | gaveUp => exact phase.reaches_receive _
  | pinged | ignored | passed => exact .refl _
  | refused | admittedClient | admittedMedia => exact Or.inl rfl
  | forwarded | torn | reported | delivered | answered | silenced => exact .refl _
  | disowned | removedClient | strandedClient | removedMedia => exact Or.inr (Or.inl rfl)

/-! ### Sessions of a relay -/

namespace Relay

variable (relay : Relay)

/-- The connection that a session serves. -/
def handle? (session : Nat) : Option Handle := relay.sessions[session]?.map Session.handle

def role? (session : Nat) : Option Role := (relay.phase? session).bind Phase.role?

/-- The stage of a session; one that has not begun is yet to arrive. -/
def stage (session : Nat) : Stage := ((relay.phase? session).map Phase.stage).getD .arriving

variable {relay}

theorem role?_eq_some_iff {session : Nat} {role : Role} :
    relay.role? session = some role ↔ relay.stage session = .registered role := by
  unfold role? stage
  cases relay.phase? session with
  | none => simp
  | some phase => exact Phase.role?_eq_some_iff

theorem role?_eq_none_iff {session : Nat} :
    relay.role? session = none ↔
      relay.stage session = .arriving ∨ relay.stage session = .gone := by
  cases hstage : relay.stage session with
  | arriving | gone =>
    simp only [true_or, or_true, iff_true]
    rw [Option.eq_none_iff_forall_ne_some]
    intro role h
    rw [role?_eq_some_iff, hstage] at h
    cases h
  | registered role => simp [role?_eq_some_iff.2 hstage]

section

variable {k : Nat} {session : Session} (present : relay.sessions[k]? = some session)
include present

theorem handle?_of_present : relay.handle? k = some session.handle := by
  rw [handle?, present, Option.map_some]

theorem phase?_of_present : relay.phase? k = some session.phase := by
  rw [phase?, present, Option.map_some]

theorem role?_of_present : relay.role? k = session.phase.role? := by
  rw [role?, phase?_of_present present, Option.bind_some]

end

theorem exists_handle?_of_role? {session : Nat} {role : Role}
    (h : relay.role? session = some role) : ∃ handle, relay.handle? session = some handle := by
  unfold role? phase? at h
  unfold handle?
  cases hs : relay.sessions[session]? with
  | none => simp [hs] at h
  | some served => exact ⟨served.handle, rfl⟩

/-- The relay with one more session, for a connection that has just been opened. -/
def connect (relay : Relay) (handle : Handle) : Relay :=
  { relay with sessions := relay.sessions ++ [⟨handle, .awaitingHello⟩] }

/-- The relay after a step of a session that leaves the given phase and registry. -/
def advance (relay : Relay) (k : Nat) (session : Session) (next : Phase) (left : Registry) :
    Relay :=
  { relay with
    registry := left
    sessions := relay.sessions.set k { session with phase := next } }

/-- **The courses of an action** on a relay: the relay that it leaves and the frames that it queues.
-/
inductive Course (relay : Relay) : Action → Relay → List Delivery → Prop
  | connected (handle : Handle) :
    Course relay (.connect handle) (relay.connect handle) []
  | abandoned (outbox : Outbox) :
    Course relay (.abandon outbox) { relay with writers := relay.writers.abandon outbox } []
  | missed (k : Nat) (stimulus : Stimulus) (absent : relay.sessions[k]? = none) :
    Course relay (.move k stimulus) relay []
  | moved (k : Nat) (stimulus : Stimulus) (session : Session) (next : Phase) (left : Registry)
      (sent : List Delivery) (present : relay.sessions[k]? = some session)
      (step : Session.Course relay.writers relay.registry session.handle session.phase stimulus next
        left sent) :
    Course relay (.move k stimulus) (relay.advance k session next left) sent

theorem course (relay : Relay) (action : Action) :
    relay.Course action (relay.step action).1 (relay.step action).2.sent := by
  cases action with
  | connect handle => exact .connected handle
  | abandon outbox => exact .abandoned outbox
  | move k stimulus =>
    cases hs : relay.sessions[k]? with
    | none =>
      simp only [step, hs]
      exact .missed k stimulus hs
    | some session =>
      simp only [step, hs]
      exact .moved k stimulus session _ _ _ hs (session.course _ _ stimulus)

theorem getElem?_set_session {sessions : List Session} {k : Nat} {session : Session}
    (h : sessions[k]? = some session) (moved : Session) (i : Nat) :
    (sessions.set k moved)[i]? = if i = k then some moved else sessions[i]? := by
  obtain ⟨hk, -⟩ := List.getElem?_eq_some_iff.1 h
  rw [List.getElem?_set]
  by_cases hi : k = i
  · rw [if_pos hi, if_pos hk, if_pos hi.symm]
  · rw [if_neg hi, if_neg (Ne.symm hi)]

theorem phase?_advance {k : Nat} {session : Session} (h : relay.sessions[k]? = some session)
    (next : Phase) (left : Registry) (i : Nat) :
    (relay.advance k session next left).phase? i =
      if i = k then some next else relay.phase? i := by
  rw [phase?, advance, getElem?_set_session h]
  by_cases hi : i = k
  · rw [if_pos hi, if_pos hi]
    rfl
  · rw [if_neg hi, if_neg hi]
    rfl

theorem phase?_connect (handle : Handle) (i : Nat) :
    (relay.connect handle).phase? i =
      if i = relay.sessions.length then some .awaitingHello else relay.phase? i := by
  rw [phase?, phase?, connect, List.getElem?_append, List.getElem?_singleton]
  rcases Nat.lt_trichotomy i relay.sessions.length with hi | hi | hi
  · rw [if_pos hi, if_neg (by omega)]
  · rw [if_neg (by omega), if_pos (by omega), if_pos hi]
    rfl
  · rw [if_neg (by omega), if_neg (by omega), if_neg (by omega),
      List.getElem?_eq_none (by omega)]

theorem phase?_length : relay.phase? relay.sessions.length = none := by
  simp [phase?]

namespace Course

variable {after : Relay} {action : Action} {sent : List Delivery}

theorem handle? (course : relay.Course action after sent) {i : Nat} {handle : Handle}
    (h : relay.handle? i = some handle) : after.handle? i = some handle := by
  obtain ⟨served, hs, rfl⟩ := Option.map_eq_some_iff.1 h
  have hi : i < relay.sessions.length := (List.getElem?_eq_some_iff.1 hs).1
  cases course with
  | connected other =>
    simp only [Relay.handle?, connect, List.getElem?_append_left hi, hs, Option.map_some]
  | abandoned | missed => exact h
  | moved k stimulus session next left _ present step =>
    simp only [Relay.handle?, advance, getElem?_set_session present]
    by_cases hk : i = k
    · subst hk
      rw [if_pos rfl, Option.map_some, ← Option.some.inj (present.symm.trans hs)]
    · rw [if_neg hk, hs, Option.map_some]

theorem phase?_of_not_isOf (course : relay.Course action after sent) {i : Nat}
    (h : action.isOf i = false) {phase : Phase}
    (hi : relay.phase? i = some phase) : after.phase? i = some phase := by
  cases course with
  | connected other =>
    rw [phase?_connect, if_neg, hi]
    rintro rfl
    rw [phase?_length] at hi
    cases hi
  | abandoned | missed => exact hi
  | moved k stimulus session next left _ present step =>
    have hk : k ≠ i := by simpa [Action.isOf] using h
    rw [phase?_advance present, if_neg hk.symm, hi]

/-- A session that begins with an action awaits its hello. -/
theorem eq_awaitingHello (course : relay.Course action after sent) {i : Nat}
    (hi : relay.phase? i = none) {phase : Phase} (h : after.phase? i = some phase) :
    phase = .awaitingHello := by
  cases course with
  | connected other =>
    rw [phase?_connect] at h
    split at h
    · exact (Option.some.inj h).symm
    · cases hi.symm.trans h
  | abandoned | missed => cases hi.symm.trans h
  | moved k stimulus session next left _ present step =>
    have hne : i ≠ k := by
      rintro rfl
      cases hi.symm.trans (phase?_of_present present)
    rw [phase?_advance present, if_neg hne] at h
    cases hi.symm.trans h

/-- A step of a session that exists is the step of that session. -/
theorem exists_step (course : relay.Course action after sent) {i : Nat}
    (moves : action.isOf i = true) {phase : Phase} (h : relay.phase? i = some phase) :
    ∃ stimulus own next left, action = .move i stimulus ∧ relay.handle? i = some own ∧
      after.phase? i = some next ∧
      Session.Course relay.writers relay.registry own phase stimulus next left sent := by
  cases course with
  | connected | abandoned => cases moves
  | missed k stimulus absent =>
    obtain rfl : k = i := by simpa [Action.isOf] using moves
    rw [phase?, absent] at h
    cases h
  | moved k stimulus session next left _ present step =>
    obtain rfl : k = i := by simpa [Action.isOf] using moves
    rw [phase?_of_present present] at h
    obtain rfl := Option.some.inj h
    exact ⟨stimulus, session.handle, next, left, rfl, handle?_of_present present,
      (phase?_advance present next left k).trans (if_pos rfl), step⟩

theorem sent_of_absent (course : relay.Course action after sent) {i : Nat}
    (moves : action.isOf i = true) (absent : relay.phase? i = none) : sent = [] := by
  cases course with
  | connected | abandoned | missed => rfl
  | moved k stimulus session next left _ present step =>
    obtain rfl : k = i := by simpa [Action.isOf] using moves
    rw [phase?_of_present present] at absent
    cases absent

theorem reaches (course : relay.Course action after sent) (i : Nat) :
    (relay.stage i).Reaches (after.stage i) := by
  cases course with
  | connected other =>
    simp only [stage, phase?_connect]
    by_cases hi : i = relay.sessions.length
    · subst hi
      rw [if_pos rfl, phase?_length]
      exact .refl _
    · rw [if_neg hi]
      exact .refl _
  | abandoned | missed => exact .refl _
  | moved k stimulus session next left _ present step =>
    simp only [stage, phase?_advance present]
    by_cases hi : i = k
    · subst hi
      rw [if_pos rfl, phase?, present]
      exact step.reaches
    · rw [if_neg hi]
      exact .refl _

theorem stage_eq_arriving (course : relay.Course action after sent) {i : Nat} {role : Role}
    (free : relay.role? i = none) (registered : after.role? i = some role) :
    relay.stage i = .arriving := by
  rcases role?_eq_none_iff.1 free with h | h
  · exact h
  · have hreaches := course.reaches i
    rw [h, role?_eq_some_iff.1 registered] at hreaches
    cases hreaches.eq_gone

theorem stage_eq_gone (course : relay.Course action after sent) {i : Nat} {role : Role}
    (had : relay.role? i = some role) (lost : after.role? i = none) : after.stage i = .gone := by
  have hreaches := course.reaches i
  rw [role?_eq_some_iff.1 had] at hreaches
  rcases hreaches.eq_or_eq_gone with h | h
  · rw [role?_eq_some_iff.2 h] at lost
    cases lost
  · exact h

theorem alive (course : relay.Course action after sent) {handle : Handle}
    (h : after.writers.alive handle = true) : relay.writers.alive handle = true := by
  cases course with
  | abandoned outbox =>
    simp only [Writers.alive, Writers.abandon, List.contains_cons, Bool.not_eq_true',
      Bool.or_eq_false_iff] at h ⊢
    exact h.2
  | connected | missed | moved => exact h

end Course

end Relay

end SignalRelay
