import SignalRelay.Proofs.Timeline.Windows

/-!
# Time passes in any portions

`Timeline.Passes` says what it means that all windows that end before a bound go by, without the
bound on their number that `Timeline.elapse` needs. It determines its outcome, and windows that go
by until one bound and then until a later one have gone by until the later one. So it makes no
difference in how many portions time passes (`Timeline.advance_add`).
-/

namespace SignalRelay

/-! ### Histories -/

namespace History

theorem append_assoc (first second third : History) :
    first ++ second ++ third = first ++ (second ++ third) :=
  congrArg₂ History.mk (List.append_assoc ..) (List.append_assoc ..)

theorem append_nothing (happened : History) : happened ++ nothing = happened :=
  congrArg₂ History.mk (List.append_nil _) (List.append_nil _)

end History

namespace Timeline

/-! ### The clock -/

/-- The timeline at some time, or as it is when its clock shows a later one. -/
def atLeast (timeline : Timeline) (time : Nat) : Timeline :=
  { timeline with now := max timeline.now time }

section

variable (timeline : Timeline)

theorem atLeast_of_le {time : Nat} (h : time ≤ timeline.now) :
    timeline.atLeast time = timeline := by
  rw [atLeast, Nat.max_eq_left h]

theorem atLeast_atLeast {time later : Nat} (h : time ≤ later) :
    (timeline.atLeast time).atLeast later = timeline.atLeast later := by
  simp only [atLeast, Nat.max_assoc, Nat.max_eq_right h]

/-- What comes of the end of a window: its session is told, and removed when that makes it leave. -/
def expire (window : Window) : Timeline × History :=
  let (next, first) := (timeline.atLeast window.ends).stimulate window.session .silence []
  let (last, second) := next.dismiss window.session
  (last, first ++ second)

theorem expire_frame (window : Window) :
    (timeline.expire window).1.now = max timeline.now window.ends ∧
      (timeline.expire window).1.keepalive = timeline.keepalive := by
  let reached := timeline.atLeast window.ends
  obtain ⟨hnow, hkeepalive, -⟩ := reached.stimulate_frame window.session .silence []
  obtain ⟨-, hnow', hkeepalive'⟩ :=
    (reached.stimulate window.session .silence []).1.dismiss_frame window.session
  exact ⟨hnow'.trans hnow, hkeepalive'.trans hkeepalive⟩

theorem totalLeft_expire_lt {bound : Nat} (pos : 0 < timeline.keepalive) {window : Window}
    (running : window ∈ timeline.windows) (due : window.ends < bound) :
    totalLeft bound (timeline.expire window).1 < totalLeft bound timeline := by
  let told := ((timeline.atLeast window.ends).stimulate window.session .silence []).1
  have hlt : totalLeft bound told < totalLeft bound timeline :=
    totalLeft_stimulate_lt pos running due .silence []
  rw [← totalLeft_dismiss told window.session] at hlt
  exact hlt

theorem expire_atLeast {time : Nat} {window : Window} (h : time ≤ window.ends) :
    (timeline.atLeast time).expire window = timeline.expire window := by
  rw [expire, atLeast_atLeast timeline h, expire]

end

/-! ### Windows that go by -/

/-- **All windows that end before `bound` go by**, one after the other. -/
inductive Passes (bound : Nat) : Timeline → Timeline × History → Prop
  | done {timeline : Timeline} (late : ∀ window ∈ timeline.windows, bound ≤ window.ends) :
    Passes bound timeline (timeline, .nothing)
  | step {timeline last : Timeline} {window : Window} {later : History}
    (next : nextWindow? timeline.windows = some window) (due : window.ends < bound)
    (rest : Passes bound (timeline.expire window).1 (last, later)) :
    Passes bound timeline (last, (timeline.expire window).2 ++ later)

theorem passes_elapse {bound : Nat} {timeline : Timeline} (pos : 0 < timeline.keepalive)
    {fuel : Nat} (enough : totalLeft bound timeline ≤ fuel) :
    Passes bound timeline (elapse (fun _ => true) bound fuel timeline) := by
  induction fuel generalizing timeline with
  | zero => exact .done (upToDate_elapse (fun _ => true) pos enough rfl)
  | succ fuel ih =>
    have late := upToDate_elapse (fun _ => true) pos enough rfl
    rw [elapse, if_pos rfl] at late ⊢
    cases hnext : (nextWindow? timeline.windows).filter (·.ends < bound) with
    | none =>
      rw [hnext] at late
      exact .done late
    | some window =>
      obtain ⟨hsome, hdue⟩ := Option.filter_eq_some_iff.1 hnext
      have hdue := of_decide_eq_true hdue
      have hlt := timeline.totalLeft_expire_lt pos (nextWindow?_spec hsome).1 hdue
      have hpos : 0 < (timeline.expire window).1.keepalive :=
        (timeline.expire_frame window).2.symm ▸ pos
      exact .step hsome hdue (ih hpos (by omega))

theorem Ticking.passes {timeline : Timeline} (ticking : timeline.Ticking) (bound : Nat) :
    Passes bound timeline
      (Timeline.elapse (fun _ => true) bound (timeline.windowCount bound) timeline) :=
  passes_elapse ticking.pos (ticking.totalLeft_le_windowCount bound)

namespace Passes

variable {bound : Nat} {timeline middle : Timeline} {outcome : Timeline × History}
  {first : History}

theorem unique {other : Timeline × History} (h : Passes bound timeline outcome)
    (h' : Passes bound timeline other) : outcome = other := by
  induction h generalizing other with
  | done late =>
    cases h' with
    | done => rfl
    | step next due => exact absurd (late _ (nextWindow?_spec next).1) (Nat.not_le_of_lt due)
  | step next due rest ih =>
    cases h' with
    | done late => exact absurd (late _ (nextWindow?_spec next).1) (Nat.not_le_of_lt due)
    | step next' due' rest' =>
      obtain rfl := Option.some.inj (next.symm.trans next')
      obtain ⟨rfl, rfl⟩ := Prod.mk.inj (ih rest')
      rfl

theorem trans {later : Nat} (hle : bound ≤ later) (h : Passes bound timeline (middle, first))
    (h' : Passes later middle outcome) : Passes later timeline (outcome.1, first ++ outcome.2) := by
  generalize heq : (middle, first) = reached at h
  induction h generalizing first with
  | done late =>
    obtain ⟨rfl, rfl⟩ := Prod.mk.inj heq
    exact h'
  | step next due rest ih =>
    obtain ⟨rfl, rfl⟩ := Prod.mk.inj heq
    rw [History.append_assoc]
    exact .step next (Nat.lt_of_lt_of_le due hle) (ih rfl)

theorem late (h : Passes bound timeline outcome) :
    ∀ window ∈ outcome.1.windows, bound ≤ window.ends := by
  induction h with
  | done late => exact late
  | step next due rest ih => exact ih

theorem le_now (h : Passes bound timeline outcome) : timeline.now ≤ outcome.1.now := by
  induction h with
  | done => exact Nat.le_refl _
  | step next due rest ih =>
    rw [(expire_frame _ _).1] at ih
    exact Nat.le_trans (Nat.le_max_left _ _) ih

theorem now_le {time : Nat} (h : Passes bound timeline outcome) (hbound : bound ≤ time + 1)
    (hle : timeline.now ≤ time) : outcome.1.now ≤ time := by
  induction h with
  | done => exact hle
  | step next due rest ih =>
    refine ih ?_
    rw [(expire_frame _ _).1]
    exact Nat.max_le.2 ⟨hle, Nat.le_of_lt_succ (Nat.lt_of_lt_of_le due hbound)⟩

/-- As long as no window has ended it makes no difference whether the clock has been set. -/
theorem of_atLeast {time : Nat} (h : Passes bound (timeline.atLeast time) outcome)
    (upcoming : ∀ window ∈ timeline.windows, time ≤ window.ends) :
    ∃ last, Passes bound timeline (last, outcome.2) ∧
      last.atLeast time = outcome.1.atLeast time := by
  cases h with
  | done late => exact ⟨timeline, .done late, (atLeast_atLeast timeline (Nat.le_refl time)).symm⟩
  | step next due rest =>
    have hexpire := timeline.expire_atLeast (upcoming _ (nextWindow?_spec next).1)
    rw [hexpire] at rest ⊢
    exact ⟨_, .step next due rest, rfl⟩

end Passes

/-! ### Time -/

variable {timeline : Timeline}

/-- When time has passed, the windows have gone by that end until then. -/
theorem passes_advance (ticking : timeline.Ticking) (duration : Nat) :
    ∃ last, Passes (timeline.now + duration + 1) timeline (last, (timeline.advance duration).2) ∧
      (timeline.advance duration).1 = last.atLeast (timeline.now + duration) ∧
      (timeline.advance duration).1.now = timeline.now + duration := by
  let time := timeline.now + duration
  let reached := elapse (fun _ => true) time (timeline.windowCount time) timeline
  let next := reached.1.atLeast time
  have hadvance : timeline.advance duration = (next.catchUp.1, reached.2 ++ next.catchUp.2) := rfl
  have first : Passes time timeline reached := ticking.passes time
  have hnow : next.now = time :=
    Nat.max_eq_right (first.now_le (Nat.le_succ time) (Nat.le_add_right _ _))
  have hnext : next.Ticking := (ticking.elapse _ time _).setNow first.late
  have second : Passes (next.now + 1) next next.catchUp := hnext.passes (next.now + 1)
  rw [hnow] at second
  have hlast : next.catchUp.1.now = time :=
    Nat.le_antisymm (second.now_le (Nat.le_refl _) (Nat.le_of_eq hnow)) (hnow ▸ second.le_now)
  obtain ⟨last, hpasses, hset⟩ := second.of_atLeast first.late
  rw [hadvance]
  refine ⟨last, first.trans (Nat.le_succ time) hpasses, ?_, hlast⟩
  rw [hset, atLeast_of_le _ (Nat.le_of_eq hlast.symm)]

theorem Ticking.advance (ticking : timeline.Ticking) (duration : Nat) :
    (timeline.advance duration).1.Ticking := by
  have reached := ticking.approach (fun _ => true) (timeline.now + duration)
  exact reached.elapse _ _ _

/-- **It makes no difference in how many portions time passes.** -/
theorem advance_add (ticking : timeline.Ticking) {a b : Nat} {middle last : Timeline}
    {first second : History} (hfirst : timeline.advance a = (middle, first))
    (hsecond : middle.advance b = (last, second)) :
    timeline.advance (a + b) = (last, first ++ second) := by
  obtain ⟨reached, hreached, hmiddle, hnow⟩ := passes_advance ticking a
  obtain ⟨final, hfinal, hlast, -⟩ := passes_advance (ticking.advance a) b
  obtain ⟨whole, hwhole, heq, -⟩ := passes_advance ticking (a + b)
  rw [hnow, Nat.add_assoc timeline.now a b] at hfinal hlast
  simp only [hfirst] at hreached hmiddle hfinal hlast
  simp only [hsecond] at hfinal hlast
  -- the clock that is set between the portions changes nothing for the windows that are left
  rw [hmiddle] at hfinal
  obtain ⟨unset, hunset, hset⟩ :=
    hfinal.of_atLeast fun window h => Nat.le_of_succ_le (hreached.late window h)
  have hle : timeline.now + a ≤ timeline.now + (a + b) := by omega
  have both := hreached.trans (Nat.succ_le_succ hle) hunset
  obtain ⟨rfl, hhistory⟩ := Prod.mk.inj (hwhole.unique both)
  have hsame : whole.atLeast (timeline.now + (a + b)) = final.atLeast (timeline.now + (a + b)) := by
    rw [← atLeast_atLeast whole hle, hset, atLeast_atLeast final hle]
  exact Prod.ext (heq.trans (hsame.trans hlast.symm)) hhistory

end Timeline

end SignalRelay
