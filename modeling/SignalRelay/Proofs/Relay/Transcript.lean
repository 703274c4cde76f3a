import SignalRelay.Message.Envelope
import SignalRelay.Message.Notice
import SignalRelay.Proofs.Relay.Course

/-!
# What is queued for a peer, in order

An outbox reads in one of a few ways, which go by the phase that its session is in (`Transcript`):
pings, then the welcome, then what is passed on, then the close frame. It stays a transcript when
only what this order allows is added (`Grows`, `Transcript.append`). The close frame is the last
one, so that a writer which stops there (`written`) leaves nothing behind.
-/

namespace SignalRelay

/-! ### The order of frames -/

/-- The notice that a peer gets when it is registered. -/
def Role.welcome : Role → Notice
  | client id => .assignedUid id
  | media => .registered

/-- What a registered peer may get after its welcome: pings and texts, a client only envelopes that
name it. -/
def Role.Gets : Role → Frame → Prop
  | client _, .ping | media, .ping => True
  | client id, .text text => Envelope.target text = .client id
  | media, .text _ => True
  | client _, .close _ _ | media, .close _ _ => False

theorem Role.gets_ping (role : Role) : role.Gets .ping := by
  cases role <;> trivial

theorem Role.not_gets_close {role : Role} {code : UInt16} {reason : String} :
    ¬ role.Gets (.close code reason) := by
  cases role <;> exact id

/-- **The transcript of a session**: the frames that have been queued for its peer when it is in the
given phase. -/
inductive Transcript : Phase → List Frame → Prop
  | arriving (n : Nat) (phase : Phase) (fresh : phase.stage = .arriving) :
    Transcript phase (List.replicate n .ping)
  | lost (n : Nat) (fault : TransportFault) :
    Transcript (.finished (.unregistered (.transport fault))) (List.replicate n .ping)
  | refused (n : Nat) (error : RegistrationError) (reason : String)
      (due : error.reason? = some reason) :
    Transcript (.finished (.unregistered error))
      (List.replicate n .ping ++ [.close CloseCode.protocolError reason])
  | registered (n : Nat) (phase : Phase) (role : Role) (frames : List Frame)
      (has : phase.role? = some role) (gets : ∀ frame ∈ frames, role.Gets frame) :
    Transcript phase (List.replicate n .ping ++ .text role.welcome.render :: frames)
  | removed (n : Nat) (role : Role) (cause : Departure) (removal : Except SignalError Unit)
      (frames : List Frame) (gets : ∀ frame ∈ frames, role.Gets frame) :
    Transcript (.finished (.left role cause removal))
      (List.replicate n .ping ++ .text role.welcome.render :: frames ++
        [.close CloseCode.normal ""])

/-- Whether a session has been refused or removed, so that its peer is to go. -/
def Phase.isDismissed : Phase → Bool
  | finished (.unregistered error) => error.reason?.isSome
  | finished (.left _ _ _) => true
  | awaitingHello | greeted _ | routing _ | handling _ _ | leaving _ _ => false

theorem Phase.stage_of_isDismissed {phase : Phase} (h : phase.isDismissed = true) :
    phase.stage = .gone := by
  cases phase with
  | finished => rfl
  | awaitingHello | greeted | routing | handling | leaving => cases h

theorem Phase.isDismissed_eq_false {phase : Phase} (h : phase.stage ≠ .gone) :
    phase.isDismissed = false :=
  Bool.eq_false_iff.2 fun hphase => h (stage_of_isDismissed hphase)

/-! ### What a transcript says about close frames -/

def Frame.isClose : Frame → Bool
  | close _ _ => true
  | text _ | ping => false

theorem written_append {frames : List Frame} (h : ∀ frame ∈ frames, frame.isClose = false)
    (rest : List Frame) : written (frames ++ rest) = frames ++ written rest := by
  induction frames with
  | nil => rfl
  | cons frame frames ih =>
    rw [List.forall_mem_cons] at h
    cases frame with
    | close code reason => cases h.1
    | text text => exact congrArg (Frame.text text :: ·) (ih h.2)
    | ping => exact congrArg (Frame.ping :: ·) (ih h.2)

theorem eq_nil_of_written {before after : List Frame} {code : UInt16} {reason : String}
    (h : written (before ++ .close code reason :: after) = before ++ .close code reason :: after) :
    after = [] := by
  induction before with
  | nil =>
    rw [List.nil_append, written, List.cons.injEq] at h
    exact h.2.symm
  | cons frame before ih =>
    cases frame with
    | close other cause =>
      rw [List.cons_append, written, List.cons.injEq] at h
      cases before <;> cases h.2
    | text text =>
      rw [List.cons_append, written, List.cons.injEq] at h
      exact ih h.2
    | ping =>
      rw [List.cons_append, written, List.cons.injEq] at h
      exact ih h.2

namespace Transcript

theorem isClose_of_replicate {n : Nat} {frame : Frame} (h : frame ∈ List.replicate n Frame.ping) :
    frame.isClose = false := by
  rw [List.eq_of_mem_replicate h]
  rfl

theorem isClose_of_gets {role : Role} {frame : Frame} (h : role.Gets frame) :
    frame.isClose = false := by
  cases frame with
  | close => exact absurd h Role.not_gets_close
  | text | ping => rfl

theorem isClose_of_welcomed {n : Nat} {role : Role} {frames : List Frame}
    (gets : ∀ frame ∈ frames, role.Gets frame) :
    ∀ frame ∈ List.replicate n Frame.ping ++ .text role.welcome.render :: frames,
      frame.isClose = false := by
  intro frame hframe
  rcases List.mem_append.1 hframe with hping | hframe
  · exact isClose_of_replicate hping
  · rcases List.mem_cons.1 hframe with rfl | hframe
    · rfl
    · exact isClose_of_gets (gets frame hframe)

/-- A transcript ends in a close frame when its session is dismissed, and has no other one. -/
theorem exists_body {phase : Phase} {frames : List Frame} (transcript : Transcript phase frames) :
    ∃ body last, frames = body ++ last ∧ (∀ frame ∈ body, frame.isClose = false) ∧
      (phase.isDismissed = true ∧ (∃ code reason, last = [.close code reason]) ∨
        phase.isDismissed = false ∧ last = []) := by
  cases transcript with
  | arriving n phase fresh =>
    refine ⟨_, [], (List.append_nil _).symm, fun frame => isClose_of_replicate, Or.inr ⟨?_, rfl⟩⟩
    exact Phase.isDismissed_eq_false (by simp [fresh])
  | lost n fault =>
    exact ⟨_, [], (List.append_nil _).symm, fun frame => isClose_of_replicate, Or.inr ⟨rfl, rfl⟩⟩
  | refused n error reason due =>
    refine ⟨_, _, rfl, fun frame => isClose_of_replicate, Or.inl ⟨?_, _, _, rfl⟩⟩
    rw [Phase.isDismissed, due]
    rfl
  | registered n phase role frames has gets =>
    refine ⟨_, [], (List.append_nil _).symm, isClose_of_welcomed gets, Or.inr ⟨?_, rfl⟩⟩
    exact Phase.isDismissed_eq_false (by simp [Phase.role?_eq_some_iff.1 has])
  | removed n role cause removal frames gets =>
    exact ⟨_, _, rfl, isClose_of_welcomed gets, Or.inl ⟨rfl, _, _, rfl⟩⟩

variable {phase : Phase} {frames : List Frame} (transcript : Transcript phase frames)
include transcript

theorem written_eq : written frames = frames := by
  obtain ⟨body, last, rfl, hbody, ⟨-, code, reason, rfl⟩ | ⟨-, rfl⟩⟩ := transcript.exists_body
  · exact written_append hbody _
  · exact written_append hbody _

theorem exists_close_iff :
    (∃ code reason, .close code reason ∈ frames) ↔ phase.isDismissed = true := by
  obtain ⟨body, last, rfl, hbody, ⟨hphase, code, reason, rfl⟩ | ⟨hphase, rfl⟩⟩ :=
    transcript.exists_body
  · simp only [hphase, iff_true]
    exact ⟨code, reason, List.mem_append_right _ List.mem_cons_self⟩
  · simp only [hphase, Bool.false_eq_true, iff_false]
    rintro ⟨code, reason, hclose⟩
    rw [List.append_nil] at hclose
    cases hbody _ hclose

end Transcript

/-! ### How a transcript grows -/

/-- What an action may add to the outbox of a session that it leads from one phase to another. -/
inductive Grows : Phase → Phase → List Frame → Prop
  | kept (phase : Phase) : Grows phase phase []
  | received (phase : Phase) (event : Event) : Grows phase (phase.receive event) []
  | pinged (phase : Phase) (fresh : phase.stage = .arriving) : Grows phase phase [.ping]
  | refused (hello reason : String) (error : RegistrationError)
      (due : error.reason? = some reason) :
    Grows (.greeted hello) (.finished (.unregistered error))
      [.close CloseCode.protocolError reason]
  | admitted (hello : String) (role : Role) :
    Grows (.greeted hello) (.routing role) [.text role.welcome.render]
  | got (phase next : Phase) (role : Role) (frames : List Frame) (had : phase.role? = some role)
      (has : next.role? = some role) (gets : ∀ frame ∈ frames, role.Gets frame) :
    Grows phase next frames
  | removed (role : Role) (cause : Departure) (removal : Except SignalError Unit) :
    Grows (.leaving role cause) (.finished (.left role cause removal))
      [.close CloseCode.normal ""]

theorem Grows.eq_nil_of_gone {phase next : Phase} {frames : List Frame}
    (grows : Grows phase next frames) (gone : phase.stage = .gone) : frames = [] := by
  cases grows with
  | kept | received => rfl
  | pinged _ fresh =>
    rw [gone] at fresh
    cases fresh
  | refused | admitted | removed => cases gone
  | got _ _ role _ had =>
    rw [Phase.role?_eq_some_iff, gone] at had
    cases had

/-- A receive adds nothing to a transcript, but may make the end of it final. -/
theorem Transcript.receive {phase : Phase} {frames : List Frame}
    (transcript : Transcript phase frames) (event : Event) :
    Transcript (phase.receive event) frames := by
  cases transcript with
  | arriving n phase fresh =>
    cases phase with
    | awaitingHello =>
      cases event with
      | message hello => exact .arriving n _ rfl
      | fault fault => exact .lost n fault
    | greeted hello => exact .arriving n _ rfl
    | routing | handling | leaving | finished => cases fresh
  | lost n fault => exact .lost n fault
  | refused n error reason due => exact .refused n error reason due
  | registered n phase role frames has gets =>
    exact .registered n _ role frames ((phase.role?_receive event).trans has) gets
  | removed n role cause removal frames gets => exact .removed n role cause removal frames gets

/-- **A transcript that grows stays one.** -/
theorem Transcript.append {phase next : Phase} {frames more : List Frame}
    (transcript : Transcript phase frames) (grows : Grows phase next more) :
    Transcript next (frames ++ more) := by
  -- the phase that a transcript ends in says how it can grow; the other cases do not arise
  cases grows with
  | kept =>
    rw [List.append_nil]
    exact transcript
  | received phase event =>
    rw [List.append_nil]
    exact transcript.receive event
  | pinged phase fresh =>
    cases transcript with
    | arriving n =>
      rw [← List.replicate_succ']
      exact .arriving (n + 1) _ fresh
    | registered n phase role frames has =>
      rw [Phase.role?_eq_some_iff, fresh] at has
      cases has
    | lost | refused | removed => cases fresh
  | refused hello reason error due =>
    cases transcript with
    | arriving n => exact .refused n error reason due
    | registered n phase role frames has => cases has
  | admitted hello role =>
    cases transcript with
    | arriving n => exact .registered n _ role [] rfl (by simp)
    | registered n phase role frames has => cases has
  | got phase next role more had has gets =>
    cases transcript with
    | arriving n phase fresh =>
      rw [Phase.role?_eq_some_iff, fresh] at had
      cases had
    | lost | refused | removed => cases had
    | registered n phase other frames hother hgets =>
      obtain rfl := Option.some.inj (had.symm.trans hother)
      rw [List.append_assoc, List.cons_append]
      exact .registered n _ role _ has (List.forall_mem_append.2 ⟨hgets, gets⟩)
  | removed role cause removal =>
    cases transcript with
    | arriving n phase fresh => cases fresh
    | registered n phase other frames has gets =>
      cases has
      exact .removed n role cause removal frames gets

end SignalRelay
