import Mathlib.Algebra.GroupWithZero.Nat
import Mathlib.Algebra.Order.BigOperators.Group.List
import Mathlib.Algebra.Order.Group.Nat
import SignalRelay.Proofs.Relay.Moments
import SignalRelay.Relay.Timeline

/-!
# Windows go by one after the other

`Timeline.elapse` deals with a bounded number of windows. With windows of at least one time unit the
bound is never met: when a window ends, the next one of its session ends later by the length of a
window, so the number of windows still to end (`Timeline.windowsLeft`) goes down. What `elapse`
leaves is up to date (`Timeline.UpToDate`): the clock is not to run any more, or all windows that
are running end later. So no wait of a session is cut short
(`Timeline.Ticking.waitsOut`).
-/

namespace SignalRelay.Timeline

/-! ### The next window -/

theorem nextWindow?_eq_none_iff {windows : List Window} :
    nextWindow? windows = none ↔ windows = [] := by
  cases windows with
  | nil => simp [nextWindow?]
  | cons head windows =>
    rw [nextWindow?]
    cases nextWindow? windows with
    | none => simp
    | some other =>
      dsimp only
      split <;> simp

/-- The next window is one of those that are running, and none of them ends before it. -/
theorem nextWindow?_spec {windows : List Window} {next : Window}
    (h : nextWindow? windows = some next) :
    next ∈ windows ∧ ∀ window ∈ windows, next.ends ≤ window.ends := by
  induction windows generalizing next with
  | nil => cases h
  | cons head windows ih =>
    rw [nextWindow?] at h
    cases htail : nextWindow? windows with
    | none =>
      rw [htail] at h
      cases h
      simp [nextWindow?_eq_none_iff.1 htail]
    | some other =>
      obtain ⟨hmem, hle⟩ := ih htail
      simp only [htail] at h
      -- of two windows that end together the one in front comes first
      split at h
      · next hearlier =>
        cases h
        refine ⟨List.mem_cons_self, List.forall_mem_cons.2 ⟨Nat.le_refl _, fun window hw => ?_⟩⟩
        exact Nat.le_trans hearlier (hle window hw)
      · cases h
        exact ⟨List.mem_cons_of_mem _ hmem, List.forall_mem_cons.2 ⟨by omega, hle⟩⟩

/-! ### What a step of a session does to the windows -/

theorem fst_stimulate (timeline : Timeline) (k : Nat) (stimulus : Stimulus)
    (draws : List ClientId) :
    (timeline.stimulate k stimulus draws).1 =
      ((timeline.move k stimulus).1.settle k draws).1.restart k := rfl

section

variable (timeline : Timeline) (k : Nat)

/-- A turn of a session takes no time, and starts no window. -/
theorem settle_frame (draws : List ClientId) :
    let settled := (timeline.settle k draws).1
    settled.windows = timeline.windows ∧ settled.now = timeline.now ∧
      settled.keepalive = timeline.keepalive := by
  unfold settle
  split <;> exact ⟨rfl, rfl, rfl⟩

theorem dismiss_frame :
    let dismissed := (timeline.dismiss k).1
    dismissed.windows = timeline.windows ∧ dismissed.now = timeline.now ∧
      dismissed.keepalive = timeline.keepalive := by
  unfold dismiss
  split <;> exact ⟨rfl, rfl, rfl⟩

/-- Whatever comes to a session, its window begins anew, or there is none any more. -/
theorem stimulate_frame (stimulus : Stimulus) (draws : List ClientId) :
    let next := (timeline.stimulate k stimulus draws).1
    next.now = timeline.now ∧ next.keepalive = timeline.keepalive ∧
      (next.windows = timeline.windows.filter (·.session ≠ k) ∨
        next.windows = timeline.windows.filter (·.session ≠ k) ++
          [⟨k, timeline.now + timeline.keepalive⟩]) := by
  obtain ⟨hwindows, hnow, hkeepalive⟩ := settle_frame (timeline.move k stimulus).1 k draws
  simp only [fst_stimulate, restart]
  split
  · exact ⟨hnow, hkeepalive, .inr (by rw [hwindows, hnow, hkeepalive]; rfl)⟩
  · exact ⟨hnow, hkeepalive, .inl (by rw [hwindows]; rfl)⟩

end

/-! ### Windows still to end -/

/-- How many windows of one session end before `bound`, from the given one on. -/
def windowsLeft (keepalive bound : Nat) (window : Window) : Nat :=
  (bound - window.ends + (keepalive - 1)) / keepalive

variable {keepalive bound : Nat} {window : Window}

theorem le_ends_of_windowsLeft (pos : 0 < keepalive) (h : windowsLeft keepalive bound window = 0) :
    bound ≤ window.ends := by
  rw [windowsLeft, Nat.div_eq_zero_iff_lt pos] at h
  omega

theorem windowsLeft_lt (pos : 0 < keepalive) (due : window.ends < bound) {later : Window}
    (h : window.ends + keepalive ≤ later.ends) :
    windowsLeft keepalive bound later < windowsLeft keepalive bound window := by
  by_cases hlater : bound ≤ later.ends
  · have hnone : windowsLeft keepalive bound later = 0 := Nat.div_eq_of_lt (by omega)
    rw [hnone]
    exact Nat.div_pos (by omega) pos
  · rw [windowsLeft, windowsLeft, Nat.lt_iff_add_one_le, ← Nat.add_div_right _ pos]
    exact Nat.div_le_div_right (by omega)

theorem windowsLeft_le {now : Nat} (pos : 0 < keepalive) (h : now ≤ window.ends) :
    windowsLeft keepalive bound window ≤ (bound - now) / keepalive + 1 := by
  rw [windowsLeft, ← Nat.add_div_right _ pos]
  exact Nat.div_le_div_right (by omega)

/-- How many windows end before `bound`, those that have not begun yet included. -/
def totalLeft (bound : Nat) (timeline : Timeline) : Nat :=
  (timeline.windows.map (windowsLeft timeline.keepalive bound)).sum

/-- A session has one window at a time. -/
theorem sum_filter_add_le {windows : List Window} (h : window ∈ windows) (f : Window → Nat) :
    ((windows.filter (·.session ≠ window.session)).map f).sum + f window ≤
      (windows.map f).sum := by
  induction windows with
  | nil => cases h
  | cons head windows ih =>
    rcases List.mem_cons.1 h with rfl | h
    · have hle : ((windows.filter (·.session ≠ window.session)).map f).sum ≤ (windows.map f).sum :=
        (List.filter_sublist.map f).sum_le_sum fun _ _ => Nat.zero_le _
      rw [List.filter_cons_of_neg (by simp), List.map_cons, List.sum_cons]
      omega
    · have hle := ih h
      rw [List.map_cons, List.sum_cons, List.filter_cons]
      split
      · rw [List.map_cons, List.sum_cons]
        omega
      · omega

/-- When a window has ended, fewer are left. -/
theorem totalLeft_stimulate_lt {timeline : Timeline} (pos : 0 < timeline.keepalive)
    (running : window ∈ timeline.windows) (due : window.ends < bound) (stimulus : Stimulus)
    (draws : List ClientId) :
    let reached := { timeline with now := max timeline.now window.ends }
    totalLeft bound (reached.stimulate window.session stimulus draws).1 <
      totalLeft bound timeline := by
  intro reached
  obtain ⟨-, hkeepalive, hwindows⟩ := reached.stimulate_frame window.session stimulus draws
  have hle := sum_filter_add_le running (windowsLeft timeline.keepalive bound)
  have hlater : window.ends + timeline.keepalive ≤ reached.now + timeline.keepalive :=
    Nat.add_le_add_right (Nat.le_max_right _ _) _
  -- the window that begins when this one ends leaves one less to end
  have hlt : windowsLeft timeline.keepalive bound
      ⟨window.session, reached.now + timeline.keepalive⟩ <
      windowsLeft timeline.keepalive bound window := windowsLeft_lt pos due hlater
  have hsame : reached.keepalive = timeline.keepalive ∧ reached.windows = timeline.windows :=
    ⟨rfl, rfl⟩
  rw [totalLeft, totalLeft, hkeepalive, hsame.1]
  rw [hsame.1, hsame.2] at hwindows
  rcases hwindows with h | h
  · rw [h]
    omega
  · rw [h, List.map_append, List.sum_append, List.map_singleton, List.sum_singleton]
    omega

theorem totalLeft_dismiss (timeline : Timeline) (k : Nat) :
    totalLeft bound (timeline.dismiss k).1 = totalLeft bound timeline := by
  obtain ⟨hwindows, -, hkeepalive⟩ := timeline.dismiss_frame k
  rw [totalLeft, totalLeft, hwindows, hkeepalive]

/-! ### Waiting -/

/-- **Up to date**: as long as the clock is to run, no running window ends before `bound`. -/
def UpToDate (run : Timeline → Bool) (bound : Nat) (timeline : Timeline) : Prop :=
  run timeline = true → ∀ window ∈ timeline.windows, bound ≤ window.ends

/-- Windows have a length, and those that are running have not ended. -/
structure Ticking (timeline : Timeline) : Prop where
  pos : 0 < timeline.keepalive
  upcoming : ∀ window ∈ timeline.windows, timeline.now ≤ window.ends

/-- A bound on the number of windows that is large enough is never met. -/
theorem upToDate_elapse (run : Timeline → Bool) {timeline : Timeline}
    (pos : 0 < timeline.keepalive) {fuel : Nat} (enough : totalLeft bound timeline ≤ fuel) :
    UpToDate run bound (elapse run bound fuel timeline).1 := by
  induction fuel generalizing timeline with
  | zero =>
    rw [elapse]
    intro _ window (hwindow : window ∈ timeline.windows)
    -- every window that is due counts for one at least, so none is
    have hmem := List.mem_map_of_mem (f := windowsLeft timeline.keepalive bound) hwindow
    have hle := List.single_le_sum (fun _ _ => Nat.zero_le _) _ hmem
    rw [totalLeft] at enough
    exact le_ends_of_windowsLeft pos (by omega)
  | succ fuel ih =>
    rw [elapse]
    split
    · cases hnext : (nextWindow? timeline.windows).filter (·.ends < bound) with
      | none =>
        intro _ window hwindow
        obtain ⟨next, hsome⟩ : ∃ next, nextWindow? timeline.windows = some next := by
          rw [← Option.ne_none_iff_exists', Ne, nextWindow?_eq_none_iff]
          exact List.ne_nil_of_mem hwindow
        have hlate : ¬next.ends < bound := by simpa [hsome] using hnext
        exact Nat.le_trans (Nat.not_lt.1 hlate) ((nextWindow?_spec hsome).2 window hwindow)
      | some window =>
        obtain ⟨hsome, hdue⟩ := Option.filter_eq_some_iff.1 hnext
        -- this window uses up one unit of fuel, and one of those left
        have hlt := totalLeft_stimulate_lt pos (nextWindow?_spec hsome).1 (of_decide_eq_true hdue)
          .silence []
        have hkeepalive := ({ timeline with now := max timeline.now window.ends }).stimulate_frame
          window.session .silence []
        dsimp only at hlt hkeepalive ⊢
        split
        · refine ih ?_ ?_
          · rw [(dismiss_frame _ _).2.2, hkeepalive.2.1]
            exact pos
          · rw [totalLeft_dismiss]
            omega
        · next stopped => exact fun h => absurd h stopped
    · next stopped => exact fun h => absurd h stopped

namespace Ticking

variable {timeline : Timeline} (ticking : timeline.Ticking)
include ticking

theorem stimulate (k : Nat) (stimulus : Stimulus) (draws : List ClientId) :
    (timeline.stimulate k stimulus draws).1.Ticking := by
  obtain ⟨hnow, hkeepalive, hwindows⟩ := timeline.stimulate_frame k stimulus draws
  refine ⟨hkeepalive ▸ ticking.pos, fun window h => ?_⟩
  rw [hnow]
  have old : window ∈ timeline.windows.filter (·.session ≠ k) → timeline.now ≤ window.ends :=
    fun h => ticking.upcoming window (List.mem_of_mem_filter h)
  rcases hwindows with hw | hw
  · exact old (hw ▸ h)
  · rw [hw, List.mem_append, List.mem_singleton] at h
    rcases h with h | rfl
    · exact old h
    · exact Nat.le_add_right _ _

theorem dismiss (k : Nat) : (timeline.dismiss k).1.Ticking := by
  obtain ⟨hwindows, hnow, hkeepalive⟩ := timeline.dismiss_frame k
  refine ⟨hkeepalive ▸ ticking.pos, fun window h => ?_⟩
  rw [hnow]
  exact ticking.upcoming window (hwindows ▸ h)

/-- The clock may run until the next window ends. -/
theorem setNow {time : Nat} (h : ∀ window ∈ timeline.windows, time ≤ window.ends) :
    ({ timeline with now := max timeline.now time }).Ticking :=
  ⟨ticking.pos, fun window hw => Nat.max_le.2 ⟨ticking.upcoming window hw, h window hw⟩⟩

theorem elapse (run : Timeline → Bool) (bound fuel : Nat) :
    (Timeline.elapse run bound fuel timeline).1.Ticking := by
  induction fuel generalizing timeline with
  | zero => exact ticking
  | succ fuel ih =>
    rw [Timeline.elapse]
    split
    · cases hnext : (nextWindow? timeline.windows).filter (·.ends < bound) with
      | none => exact ticking
      | some window =>
        obtain ⟨hsome, -⟩ := Option.filter_eq_some_iff.1 hnext
        have told :=
          (ticking.setNow (nextWindow?_spec hsome).2).stimulate window.session .silence []
        dsimp only
        split
        · exact ih (told.dismiss window.session)
        · exact told
    · exact ticking

theorem totalLeft_le_windowCount (bound : Nat) :
    totalLeft bound timeline ≤ timeline.windowCount bound := by
  have hle : ∀ n ∈ timeline.windows.map (windowsLeft timeline.keepalive bound),
      n ≤ (bound - timeline.now) / timeline.keepalive + 1 := by
    intro n hn
    obtain ⟨window, hwindow, rfl⟩ := List.mem_map.1 hn
    exact windowsLeft_le ticking.pos (ticking.upcoming window hwindow)
  have hsum := List.sum_le_card_nsmul _ _ hle
  rw [List.length_map] at hsum
  exact hsum

/-- **There is time for as many windows as there are.** -/
theorem upToDate (run : Timeline → Bool) (bound : Nat) :
    UpToDate run bound (Timeline.elapse run bound (timeline.windowCount bound) timeline).1 :=
  upToDate_elapse run ticking.pos (ticking.totalLeft_le_windowCount bound)

theorem approach (run : Timeline → Bool) (time : Nat) :
    (Timeline.approach run timeline time).1.Ticking := by
  have elapsed := ticking.elapse run time (timeline.windowCount time)
  have upToDate := ticking.upToDate run time
  unfold Timeline.approach
  dsimp only
  split
  · next going => exact elapsed.setNow (upToDate going)
  · exact elapsed

theorem accept (k : Nat) (event : Event) (draws : List ClientId) :
    (timeline.accept k event draws).1.Ticking := by
  unfold Timeline.accept
  split
  · exact ticking.stimulate k _ draws
  · exact ticking

theorem receive (k : Nat) (draws : List ClientId) (start : Nat) (events : List TimedEvent) :
    (timeline.receive k draws start events).1.Ticking := by
  cases events with
  | nil => exact ticking.accept k _ draws
  | cons e rest =>
    have waited := ticking.approach (isWaiting · k) (max timeline.now (start + e.due))
    exact waited.accept k e.event draws

end Ticking

/-- **No wait is cut short**: before each of its events comes, a session has dealt with all windows
that end before, or does not wait any more. -/
def WaitsOut (k : Nat) (draws : List ClientId) (start : Nat) : List TimedEvent → Timeline → Prop
  | [], _ => True
  | e :: rest, timeline =>
    let time := max timeline.now (start + e.due)
    let waited := elapse (isWaiting · k) time (timeline.windowCount time) timeline
    let next := (timeline.receive k draws start (e :: rest)).1
    UpToDate (isWaiting · k) time waited.1 ∧
      (next.isWaiting k = true → WaitsOut k draws start rest next)

theorem Ticking.waitsOut {timeline : Timeline} (ticking : timeline.Ticking) (k : Nat)
    (draws : List ClientId) (start : Nat) (events : List TimedEvent) :
    WaitsOut k draws start events timeline := by
  induction events generalizing timeline with
  | nil => trivial
  | cons e rest ih =>
    exact ⟨ticking.upToDate _ _, fun _ => ih (ticking.receive k draws start (e :: rest))⟩

end SignalRelay.Timeline
