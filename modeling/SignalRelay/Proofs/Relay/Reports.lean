import SignalRelay.Proofs.Message.Report
import SignalRelay.Proofs.Relay.ClientDelivery

/-!
# What the media endpoint reports on a client

The flag of a client tells whether it is in a session. It is down when the client is registered, and
a turn in which a media endpoint's message is dealt with sets it as the message reports
(`Moment.report?`). No other turn changes it: neither messages that are refused or passed on, nor
reports on other clients, nor who else comes and goes. So the flag says what the last report since
the registration says, whichever media endpoints the reports are from.

Main statement: `Relay.in_session_iff_last_report`.
-/

namespace SignalRelay

/-! ### Reports -/

theorem Phase.mediaMessage?_of_idle {phase : Phase} (h : phase.isPending = false) :
    phase.mediaMessage? = none := by
  cases phase with
  | awaitingHello | routing | finished => rfl
  | greeted | handling | leaving => cases h

/-- What is reported on a client at a moment. -/
def Moment.report? (id : ClientId) (moment : Moment) : Option SessionStatus :=
  moment.mediaMessage?.bind fun msg => (MediaMessage.parse msg).statusOf? id

theorem Moment.report?_turn {relay : Relay} {k : Nat} {phase : Phase}
    (h : relay.phase? k = some phase) (draws : List ClientId) (id : ClientId) :
    report? id ⟨relay, .move k (.turn draws)⟩ =
      phase.mediaMessage?.bind fun msg => (MediaMessage.parse msg).statusOf? id := by
  simp only [report?, mediaMessage?, h, Option.bind_some]

/-! ### The flag of a client -/

/-- Whether a client is in a session, when there is such a client. -/
def Registry.inSession? (registry : Registry) (id : ClientId) : Option Bool :=
  (registry.client? id).map Peer.inSession

/-- The flag after what is reported, if anything is. -/
def SessionStatus.amend (flag : Bool) : Option SessionStatus → Bool
  | none => flag
  | some status => status.inSession

theorem SessionStatus.amend_false_iff {report? : Option SessionStatus} :
    amend false report? = true ↔ report? = some .bound := by
  rcases report? with _ | _ | _ <;> simp [amend, inSession]

namespace Registry

variable {registry : Registry}

theorem inSession?_insert_of_ne {id other : ClientId} (h : id ≠ other) (peer : Peer) :
    (registry.insert other peer).inSession? id = registry.inSession? id := by
  rw [inSession?, client?_insert, if_neg h]
  rfl

theorem inSession?_removeClient_of_ne {id other : ClientId} (h : id ≠ other) :
    (registry.removeClient other).inSession? id = registry.inSession? id := by
  rw [inSession?, client?_removeClient, if_neg h]
  rfl

theorem inSession?_setInSession (id other : ClientId) (flag : Bool) :
    (registry.setInSession other flag).inSession? id =
      if id = other then (registry.inSession? id).map fun _ => flag
      else registry.inSession? id := by
  rw [inSession?, client?_setInSession]
  by_cases h : id = other
  · rw [if_pos h, if_pos h, h, inSession?, Option.map_map, Option.map_map]
    rfl
  · rw [if_neg h, if_neg h]
    rfl

theorem inSession?_setMedia {peer : Peer} {registered : Registry}
    (h : registry.setMedia peer = .ok registered) (id : ClientId) :
    registered.inSession? id = registry.inSession? id := by
  rw [(registry.eq_of_setMedia_eq_ok h).2]
  rfl

end Registry

/-- **The flag of a client in a step.** As long as somebody is registered under an id, the flag
follows the reports on it. -/
theorem Relay.Course.inSession? {relay after : Relay} {action : Action} {sent : List Delivery}
    (course : relay.Course action after sent) {n : ClientId}
    (there : relay.registry.client? n ≠ none) (still : after.registry.client? n ≠ none) :
    after.registry.inSession? n =
      (relay.registry.inSession? n).map
        (SessionStatus.amend · (Moment.report? n ⟨relay, action⟩)) := by
  have kept : ∀ flag : Option Bool, flag = flag.map (SessionStatus.amend · none) := by
    intro flag
    cases flag <;> rfl
  cases course with
  | connected | abandoned => exact kept _
  | missed k stimulus absent =>
    have hreport : Moment.report? n ⟨relay, .move k stimulus⟩ = none := by
      cases stimulus with
      | event | silence => rfl
      | turn draws =>
        simp only [Moment.report?, Moment.mediaMessage?, phase?, absent, Option.map_none,
          Option.bind_none]
    rw [hreport]
    exact kept _
  | moved k stimulus session next left sent present step =>
    have hturn := fun draws => Moment.report?_turn (phase?_of_present present) draws n
    obtain ⟨own, phase⟩ := session
    dsimp only at step hturn
    dsimp only [advance] at still ⊢
    cases step with
    | received | pinged | gaveUp | ignored => exact kept _
    | passed _ draws idle =>
      rw [hturn, Phase.mediaMessage?_of_idle idle]
      exact kept _
    | refused | forwarded | torn | disowned =>
      rw [hturn]
      exact kept _
    | admittedClient hello draws media id asked hmedia drawn =>
      have hne : n ≠ id := by
        rintro rfl
        exact there (Registry.client?_of_allocate _ drawn)
      rw [hturn, Registry.inSession?_insert_of_ne hne]
      exact kept _
    | admittedMedia hello draws left asked set =>
      rw [hturn, Registry.inSession?_setMedia set]
      exact kept _
    | reported msg draws report id status parsed named hpresent told =>
      rw [hturn, Registry.inSession?_setInSession]
      by_cases hid : n = id
      · subst hid
        have hstatus := MediaMessage.statusOf?_eq_some_iff.2 ⟨report, parsed, named, told⟩
        rw [if_pos rfl, Phase.mediaMessage?, Option.bind_some, hstatus]
        rfl
      · have hstatus : (MediaMessage.parse msg).statusOf? n = none := by
          rw [parsed, MediaMessage.statusOf?, named, if_neg]
          simpa using Ne.symm hid
        rw [if_neg hid, Phase.mediaMessage?, Option.bind_some, hstatus]
        exact kept _
    | delivered msg draws id peer parsed named hpresent =>
      rw [hturn, Phase.mediaMessage?, Option.bind_some, parsed]
      exact kept _
    | answered msg draws error rejected | silenced msg draws error rejected =>
      -- a message that is refused reports nothing on a client that is registered
      have hnone : (MediaMessage.parse msg).statusOf? n = none := by
        by_contra hsome
        obtain ⟨status, hstatus⟩ := Option.ne_none_iff_exists'.1 hsome
        rw [Routing.handleMediaMessage_of_statusOf? hstatus there] at rejected
        cases rejected
      rw [hturn, Phase.mediaMessage?, Option.bind_some, hnone]
      exact kept _
    | removedClient id | strandedClient id =>
      have hne : n ≠ id := by
        rintro rfl
        rw [Registry.client?_removeClient, if_pos rfl] at still
        exact still rfl
      rw [hturn, Registry.inSession?_removeClient_of_ne hne]
      exact kept _
    | removedMedia =>
      rw [hturn]
      exact kept _

namespace Relay

/-! ### Runs -/

/-- The flag of a client follows the last of the reports on it. -/
theorem inSession?_run {relay : Relay} {actions : List Action} {n : ClientId}
    (facts : ∀ moment ∈ relay.moments actions,
      moment.before.registry.client? n ≠ none ∧ moment.after.registry.client? n ≠ none) :
    (relay.run actions).registry.inSession? n =
      (relay.registry.inSession? n).map
        (SessionStatus.amend ·
          ((relay.moments actions).filterMap (Moment.report? n)).getLast?) := by
  induction actions generalizing relay with
  | nil => cases h : relay.registry.inSession? n <;> simp [run, moments, SessionStatus.amend, h]
  | cons action actions ih =>
    rw [moments, List.forall_mem_cons] at facts
    obtain ⟨⟨there, still⟩, hrest⟩ := facts
    have hstep := (relay.course action).inSession? there still
    rw [run, ih hrest, hstep, Option.map_map, moments]
    congr 1
    funext flag
    cases hreport : Moment.report? n ⟨relay, action⟩ with
    | none =>
      rw [List.filterMap_cons_none hreport]
      rfl
    | some status =>
      rw [List.filterMap_cons_some hreport, List.getLast?_cons, Function.comp_apply]
      cases ((relay.step action).1.moments actions |>.filterMap (Moment.report? n)).getLast? <;> rfl

theorem inSession?_of_admission {relay after : Relay} {action : Action} {sent : List Delivery}
    (course : relay.Course action after sent) {c : Nat} {n : ClientId}
    (free : relay.role? c = none) (registered : after.role? c = some (.client n)) :
    after.registry.inSession? n = some false := by
  obtain ⟨draws, own, media, -, -, -, -, hleft, -⟩ := course.admission free registered
  rw [hleft, Registry.inSession?, Registry.client?_insert, if_pos rfl]
  rfl

theorem client?_of_mem_moments {maxClients : ClientId} {earlier later : List Action} {c : Nat}
    {id : ClientId} (began : ((empty maxClients).run earlier).role? c = some (.client id))
    (stays : (((empty maxClients).run earlier).run later).role? c = some (.client id))
    {moment : Moment} (h : moment ∈ ((empty maxClients).run earlier).moments later) :
    moment.before.registry.client? id ≠ none ∧ moment.after.registry.client? id ≠ none := by
  have hmem : moment ∈ (empty maxClients).moments (earlier ++ later) := by
    rw [moments_append]
    exact List.mem_append_right _ h
  have faithful := faithful_of_mem_moments hmem
  obtain ⟨hbefore, hafter⟩ := role?_of_mem_moments h began stays
  obtain ⟨entry, hentry, -⟩ := faithful.exists_entry hbefore
  obtain ⟨entry', hentry', -⟩ := (faithful.after moment.course).exists_entry hafter
  exact ⟨Option.ne_none_iff_exists'.2 ⟨entry, hentry⟩,
    Option.ne_none_iff_exists'.2 ⟨entry', hentry'⟩⟩

/-! ### Main statement -/

/-- **A client is in a session iff the last report on it says so.** Take any client that is
registered in a state that sessions can reach. Its session was registered in one of the turns
before, and has been since. Its flag is up iff there is a last one among the reports on its id in
the messages of media endpoints that were dealt with since then, and it says that the client is
bound. At every moment since then the flag goes by what is reported on the id at this very moment,
and stays as it is when nothing is. -/
theorem in_session_iff_last_report {maxClients : ClientId} {actions : List Action}
    {id : ClientId} {peer : Peer}
    (present : ((empty maxClients).run actions).registry.client? id = some peer) :
    ∃ earlier c draws later, actions = earlier ++ [Action.move c (.turn draws)] ++ later ∧
      let start := (empty maxClients).run (earlier ++ [Action.move c (.turn draws)])
      ((empty maxClients).run earlier).role? c = none ∧
      start.role? c = some (.client id) ∧
      ((empty maxClients).run actions).role? c = some (.client id) ∧
      ((empty maxClients).run actions).handle? c = some peer.handle ∧
      (peer.inSession = true ↔
        ((start.moments later).filterMap (Moment.report? id)).getLast? = some .bound) ∧
      ∀ moment ∈ start.moments later,
        moment.after.registry.inSession? id =
          (moment.before.registry.inSession? id).map
            (SessionStatus.amend · (moment.report? id)) := by
  obtain ⟨c, registered, hhandle⟩ := (faithful_run maxClients actions).holder
    (Registry.holder?_of_client? present)
  have fresh : (empty maxClients).role? c = none := by simp [role?, phase?, empty]
  obtain ⟨earlier, action, later, rfl, free, began⟩ := exists_registration fresh registered
  have admitted := began
  rw [run_append_singleton] at admitted
  have course := ((empty maxClients).run earlier).course action
  obtain ⟨draws, -, -, rfl, -⟩ := course.admission free admitted
  refine ⟨earlier, c, draws, later, rfl, free, began, registered, hhandle, ?_⟩
  rw [run_append] at registered present
  -- the flag is down when the client is registered, and follows the reports from there
  have hstart : ((empty maxClients).run
      (earlier ++ [Action.move c (.turn draws)])).registry.inSession? id = some false := by
    rw [run_append_singleton]
    exact inSession?_of_admission course free admitted
  refine ⟨?_, fun moment hmoment => ?_⟩
  · have hflag := inSession?_run fun moment => client?_of_mem_moments began registered
    rw [hstart, Registry.inSession?, present, Option.map_some, Option.map_some,
      Option.some.injEq] at hflag
    rw [hflag, SessionStatus.amend_false_iff]
  · obtain ⟨there, still⟩ := client?_of_mem_moments began registered hmoment
    exact moment.course.inSession? there still

/-- A report, one that is refused, and one on somebody else. -/
def reporting : List Action :=
  ["SESSION 3 BOUND", "SESSION 3 UNBOUND ", "SESSION 4 UNBOUND"].flatMap fun msg =>
    [.move 0 (.event (.message msg)), .move 0 (.turn [])]

/-- A client that is reported on. The report raises its flag, and the other two messages leave it as
it is. -/
theorem in_session_iff_last_report_of_call :
    let start := (empty 7).run (opening ++ [.move 1 (.turn [3])])
    start.registry.inSession? 3 = some false ∧
    (start.run reporting).registry.inSession? 3 = some true ∧
    ((start.moments reporting).filterMap (Moment.report? 3)).getLast? = some .bound ∧
    ∀ moment ∈ start.moments reporting, ∀ msg ∈ ["SESSION 3 UNBOUND ", "SESSION 4 UNBOUND"],
      moment.mediaMessage? = some msg →
        moment.before.registry.inSession? 3 = some true ∧
        moment.after.registry.inSession? 3 = some true := by
  intro start
  let actions := opening ++ [Action.move 1 (.turn [3])] ++ reporting
  have present : ((empty 7).run actions).registry.client? 3 =
      some ⟨⟨2, .v4 ⟨127, 0, 0, 1⟩ 9002, 2⟩, true⟩ := by decide +kernel
  have raised : (start.run reporting).registry.inSession? 3 = some true := by
    rw [← run_append, Registry.inSession?, present]
    rfl
  obtain ⟨earlier, c, draws, later, cut, free, began, registered, -, hflag, hstep⟩ :=
    in_session_iff_last_report present
  -- the client's session is registered in one turn only, so this is where the run is cut
  obtain rfl : c = 1 := (faithful_run 7 actions).unique registered (by decide +kernel)
  have once : ∀ n < actions.length, ((empty 7).run (actions.take n)).role? 1 = none →
      ((empty 7).run (actions.take (n + 1))).role? 1 = some (.client 3) → n = opening.length := by
    decide +kernel
  have htake : actions.take earlier.length = earlier := by
    rw [cut, List.append_assoc, List.take_left]
  have hnext : actions.take (earlier.length + 1) = earlier ++ [.move 1 (.turn draws)] := by
    rw [cut, List.take_left' (by simp)]
  have hlt : earlier.length < actions.length := by
    rw [cut, List.length_append, List.length_append, List.length_singleton]
    omega
  have hplace : earlier.length = opening.length :=
    once _ hlt (htake.symm ▸ free) (hnext.symm ▸ began)
  obtain ⟨hhead, rfl⟩ := List.append_inj cut (by simp [hplace])
  rw [← hhead] at hflag hstep
  have silent : ∀ moment ∈ start.moments reporting,
      ∀ msg ∈ ["SESSION 3 UNBOUND ", "SESSION 4 UNBOUND"], moment.mediaMessage? = some msg →
        moment.before.registry.inSession? 3 = some true ∧ moment.report? 3 = none := by
    decide +kernel
  refine ⟨by decide +kernel, raised, hflag.1 rfl, fun moment hmoment msg hmsg hsays => ?_⟩
  obtain ⟨hbefore, hnone⟩ := silent moment hmoment msg hmsg hsays
  refine ⟨hbefore, ?_⟩
  rw [hstep moment hmoment, hbefore, hnone]
  rfl

end Relay

end SignalRelay
