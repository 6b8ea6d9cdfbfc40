import RtmClient.Session.Invariant

/-!
# The read loop, the keepalive loop and shutdown

`ask_for_read` and `arm_ping_timer` each start a chain of completion handlers that reissues
itself.  The read chain ends on an aborted read, which is the only way to `Stopped`, and on
any other error or an unparsable frame, after which it never runs again; the keepalive chain
ends on a failed ping.  Neither chain looks at the other, and the wait handler of the
keepalive chain looks at neither its error code nor the client state.  So `stop` finishes only
when a read is outstanding: after a read chain that ended on an error, before `stop` or after
it, the session stays `PendingStopped`.
-/

namespace RtmClient

namespace SecureClient

/-!
# Shutdown
-/

/-- `PendingStopped` with no read outstanding and no batch whose end issues one: no completion
can finish the shutdown. -/
def Stuck (s : SecureClient) : Prop :=
  s.clientState = .pendingStopped ∧ s.reads = 0 ∧ s.batch = none

theorem Stuck.step {s t : SecureClient} {i : Input} {e : List Effect} (hs : Stuck s)
    (hen : s.Enabled i) (h : s.step i = .ok (t, e)) :
    Stuck t ∧ t.subscriptions = s.subscriptions := by
  obtain ⟨hps, hreads, hb⟩ := hs
  cases i with
  | start outcome =>
      obtain ⟨ret, hs', -⟩ := step_start h
      exact absurd (start_ok hs').1 (by simp [hps])
  | stop =>
      obtain ⟨ret, hs', -⟩ := step_stop h
      exact absurd (stop_ok hs').1 (by simp [hps])
  | publish => obtain ⟨rfl, -⟩ := publish_ok h; exact ⟨⟨hps, hreads, hb⟩, rfl⟩
  | subscribeChannel =>
      rcases subscribeChannel_ok h with ⟨-, rfl, -⟩ | ⟨hrun, -⟩
      · exact ⟨⟨hps, hreads, hb⟩, rfl⟩
      · simp [hps] at hrun
  | unsubscribe =>
      rcases unsubscribe_ok h with ⟨-, rfl, -⟩ | ⟨hrun, -⟩
      · exact ⟨⟨hps, hreads, hb⟩, rfl⟩
      · simp [hps] at hrun
  | readDone => exact absurd hen (by simp [Enabled, hreads])
  | waitDone => obtain ⟨rfl, -⟩ := step_waitDone h; exact ⟨⟨hps, hreads, hb⟩, rfl⟩
  | pingDone =>
      rcases step_pingDone h with ⟨-, rfl, -⟩ | ⟨-, rfl, -⟩ | ⟨-, rfl, -⟩ <;>
        exact ⟨⟨hps, hreads, hb⟩, rfl⟩
  | dataReturned => exact absurd hb hen

theorem Stuck.run {s s' : SecureClient} {tr : List (Input × List Effect)} (hs : Stuck s)
    (h : Run s tr s') : Stuck s' ∧ s'.subscriptions = s.subscriptions := by
  induction h with
  | nil => exact ⟨hs, rfl⟩
  | cons hen hstep _ ih =>
      obtain ⟨ht, hsub⟩ := hs.step hen hstep
      exact ⟨(ih ht).1, (ih ht).2.trans hsub⟩

theorem pendingStopped_finishes_only_on_abort :
    (∀ s, Reachable s -> s.clientState = .stopped ->
      s.reads = 0 ∧ s.subscriptions.entries = []) ∧
    (∀ s, Reachable s -> s.clientState = .pendingStopped -> 0 < s.reads ->
      exists t, s.step (.readDone .aborted) = .ok (t, []) ∧
        t.clientState = .stopped ∧ t.reads = 0 ∧ t.subscriptions.entries = []) ∧
    (∀ s tr s', Stuck s -> Run s tr s' -> Stuck s' ∧ s'.subscriptions = s.subscriptions) := by
  refine ⟨fun s hs hst => reachable_stopped hs hst, fun s hs hps hreads => ?_,
    fun s tr s' hs h => hs.run h⟩
  have hle := (reachableUnder_stoppedEmpty hs).1.readsLeOne
  refine ⟨{ s.readTaken with clientState := .stopped, subscriptions := .empty }, ?_, rfl,
    by simp [readTaken]; omega, rfl⟩
  simp [step, readDone, hps, readTaken]

/-- The session after `start`, a read that fails while `Running`, and `stop`; or after `start`,
`stop`, and a read that fails with an error other than `operation_aborted`. -/
def haltedThenStopped : SecureClient :=
  { clientState := .pendingStopped, requestId := 0, subscriptions := .empty, reads := 0,
    waits := 1, pings := 0 }

/-- The read loop halted by a failed read before `stop`, or by a read failing with another
error than `operation_aborted` after it: the session is `PendingStopped` with no read
outstanding, and no run from there reaches `Stopped`. -/
theorem haltedThenStopped_stuck :
    Run init [(.start .opened, []), (.readDone .failed, [.onError .asioError]),
        (.stop true true, [])] haltedThenStopped ∧
      Run init [(.start .opened, []), (.stop true true, []), (.readDone .failed, [])]
        haltedThenStopped ∧
      ∀ tr s, Run haltedThenStopped tr s ->
        s.clientState = .pendingStopped ∧ s.subscriptions = haltedThenStopped.subscriptions :=
  ⟨.cons trivial rfl <| .cons (by decide) rfl <| .cons trivial rfl <| .nil _,
    .cons trivial rfl <| .cons trivial rfl <| .cons (by decide) rfl <| .nil _,
    fun _ _ h => have hs := (Stuck.run ⟨rfl, rfl, rfl⟩ h); ⟨hs.1.1, hs.2⟩⟩

/-!
# Connection-fatal reports
-/

/-- The connection-fatal reports among a step's effects. -/
def fatalReports (e : List Effect) : Nat :=
  e.countP fun x =>
    match x with
    | .onError err => err.isConnectionFatal
    | _ => false

end SecureClient

/-- A completion of the read chain. -/
def Input.isRead : Input -> Bool
  | .readDone _ => true
  | _ => false

/-- A completion of a ping of the keepalive chain. -/
def Input.isPing : Input -> Bool
  | .pingDone _ => true
  | _ => false

/-- A `start` whose connection opens, which arms a new keepalive chain. -/
def Input.isOpen : Input -> Bool
  | .start .opened => true
  | _ => false

namespace SecureClient

/-- The connection-fatal reports made by the steps of a trace that `fromLoop` selects. -/
def loopReports (fromLoop : Input -> Bool) : List (Input × List Effect) -> Nat
  | [] => 0
  | (i, e) :: rest => (if fromLoop i then fatalReports e else 0) + loopReports fromLoop rest

/-- The successful starts of a trace. -/
def opens : List (Input × List Effect) -> Nat
  | [] => 0
  | (i, _) :: rest => (if i.isOpen then 1 else 0) + opens rest

/-- The keepalive chains alive: waits on the timer and pings in flight. -/
def chains (s : SecureClient) : Nat := s.waits + s.pings

@[simp] theorem fatalReports_nil : fatalReports [] = 0 := rfl

@[simp] theorem fatalReports_onError (err : ClientError) :
    fatalReports [.onError err] = if err.isConnectionFatal then 1 else 0 := by
  cases err <;> rfl

theorem fatalReports_of_isOnData {e : List Effect} (h : ∀ x ∈ e, x.isOnData) :
    fatalReports e = 0 :=
  List.countP_eq_zero.2 fun x hx => by have := h x hx; cases x <;> simp_all [Effect.isOnData]

theorem fatalReports_sublist {e e' : List Effect} (h : List.Sublist e e') :
    fatalReports e ≤ fatalReports e' :=
  h.countP_le _

theorem processInput_fatalReports {r r' : Registry} {d : Document} {e : List Effect}
    (h : r.processInput d = .ok (r', e)) : fatalReports e = 0 := by
  rcases Registry.processInput_ok h with ⟨-, ⟨-, hd⟩ | ⟨-, rfl⟩⟩ | ⟨response, id, -, -, ha⟩
  · exact fatalReports_of_isOnData (Registry.deliver_isOnData hd)
  · rfl
  · obtain ⟨-, -, -, -, -, rfl⟩ := Registry.answer_ok ha
    cases response <;> rfl

/-- The read chain has halted: no read is outstanding and none can be issued again. -/
def Halted (s : SecureClient) : Prop := s.reads = 0 ∧ s.clientState ≠ .stopped ∧ s.batch = none

theorem Halted.step {s t : SecureClient} {i : Input} {e : List Effect} (hs : Halted s)
    (hen : s.Enabled i) (h : s.step i = .ok (t, e)) : Halted t := by
  obtain ⟨hreads, hst, hb⟩ := hs
  cases i with
  | start outcome =>
      obtain ⟨ret, hs', -⟩ := step_start h
      exact absurd (start_ok hs').1 hst
  | stop =>
      obtain ⟨ret, hs', -⟩ := step_stop h
      obtain ⟨-, rfl⟩ := stop_ok hs'
      exact ⟨hreads, by simp, hb⟩
  | publish => obtain ⟨rfl, -⟩ := publish_ok h; exact ⟨hreads, hst, hb⟩
  | subscribeChannel =>
      rcases subscribeChannel_ok h with ⟨-, rfl, -⟩ | ⟨hrun, rfl, -⟩
      · exact ⟨hreads, hst, hb⟩
      · exact ⟨hreads, by simp [hrun], hb⟩
  | unsubscribe =>
      rcases unsubscribe_ok h with ⟨-, rfl, -⟩ | ⟨hrun, -, -, -, rfl, -⟩
      · exact ⟨hreads, hst, hb⟩
      · exact ⟨hreads, by simp [hrun], hb⟩
  | readDone => exact absurd hen (by simp [Enabled, hreads])
  | waitDone => obtain ⟨rfl, -⟩ := step_waitDone h; exact ⟨hreads, hst, hb⟩
  | pingDone =>
      rcases step_pingDone h with ⟨-, rfl, -⟩ | ⟨-, rfl, -⟩ | ⟨-, rfl, -⟩ <;> exact ⟨hreads, hst, hb⟩
  | dataReturned => exact absurd hb hen

theorem readDone_fatalReports {s t : SecureClient} {outcome : ReadOutcome} {e : List Effect}
    (hl : LoopInv s) (hb : s.batch = none) (hen : 0 < s.reads)
    (h : s.readDone outcome = .ok (t, e)) :
    fatalReports e ≤ 1 ∧ (fatalReports e = 1 -> Halted t) := by
  have hle := hl.readsLeOne
  rcases readDone_ok h with ⟨-, -, rfl, rfl⟩ | ⟨-, rfl, rfl⟩ | ⟨-, rfl, rfl⟩ | ⟨d, u, e₀, -, hu, hc⟩
  · simp
  · by_cases hrun : s.clientState = .running
    · simp only [hrun, if_true, fatalReports_onError]
      exact ⟨le_rfl, fun _ => ⟨by simp [readTaken]; omega, by simp [readTaken, hrun], hb⟩⟩
    · simp [hrun]
  · refine ⟨le_rfl, fun _ => ⟨by simp [readTaken]; omega, fun hst => ?_, hb⟩⟩
    exact absurd (hl.stoppedIdle hst) (by omega)
  · obtain ⟨r', hr', -⟩ := processInput_ok hu
    have he : e = (u.continueRead d e₀).2 := congrArg Prod.snd hc
    have hle := fatalReports_sublist (continueRead_sublist u d e₀)
    rw [processInput_fatalReports hr', ← he] at hle
    omega

theorem step_fatalReports {s t : SecureClient} {i : Input} {e : List Effect} (hl : LoopInv s)
    (h : s.step i = .ok (t, e)) (hread : i.isRead = false) (hping : i.isPing = false) :
    fatalReports e = 0 := by
  cases i with
  | start => obtain ⟨-, -, rfl⟩ := step_start h; rfl
  | stop => obtain ⟨-, -, rfl⟩ := step_stop h; rfl
  | publish => obtain ⟨-, rfl | rfl⟩ := publish_ok h <;> rfl
  | subscribeChannel =>
      rcases subscribeChannel_ok h with ⟨-, -, rfl⟩ | ⟨-, -, rfl⟩ <;> rfl
  | unsubscribe =>
      rcases unsubscribe_ok h with ⟨-, -, rfl⟩ | ⟨-, -, -, -, -, rfl⟩ <;> rfl
  | readDone => cases hread
  | waitDone => obtain ⟨-, rfl⟩ := step_waitDone h; rfl
  | pingDone => cases hping
  | dataReturned =>
      have he : e = s.deliverNext.2 := congrArg Prod.snd (step_dataReturned h)
      have hle := fatalReports_sublist (deliverNext_sublist s)
      rw [fatalReports_of_isOnData hl.batchOnData, ← he] at hle
      omega

theorem Run.readReports {s s' : SecureClient} {tr : List (Input × List Effect)}
    (hl : LoopInv s) (h : Run s tr s') :
    loopReports Input.isRead tr ≤ 1 ∧ (Halted s -> loopReports Input.isRead tr = 0) := by
  induction h with
  | nil => exact ⟨Nat.zero_le _, fun _ => rfl⟩
  | @cons s t s' i e rest hen hstep _ ih =>
      have ih := ih (hl.step hen hstep)
      cases i with
      | readDone outcome =>
          obtain ⟨hle, hhalt⟩ := readDone_fatalReports hl hen.1 hen.2 hstep
          simp only [loopReports, Input.isRead, if_true]
          refine ⟨?_, fun hs => absurd hen.2 (by simp [hs.1])⟩
          by_cases hone : fatalReports e = 1
          · rw [hone, ih.2 (hhalt hone)]
          · have : fatalReports e = 0 := by omega
            rw [this]; exact Nat.zero_add _ ▸ ih.1
      | _ =>
          simp only [loopReports, Input.isRead, Bool.false_eq_true, if_false, Nat.zero_add]
          exact ⟨ih.1, fun hs => ih.2 (hs.step hen hstep)⟩

theorem step_pingReports {s t : SecureClient} {i : Input} {e : List Effect}
    (hen : s.Enabled i) (h : s.step i = .ok (t, e)) :
    (if i.isPing then fatalReports e else 0) + chains t ≤
      chains s + (if i.isOpen then 1 else 0) := by
  cases i with
  | start outcome =>
      obtain ⟨ret, hs', -⟩ := step_start h
      obtain ⟨-, ⟨rfl, rfl, -⟩ | ⟨rfl, -, rfl⟩⟩ := start_ok hs' <;>
        simp [chains, Input.isOpen, Input.isPing]; omega
  | stop =>
      obtain ⟨ret, hs', -⟩ := step_stop h
      obtain ⟨-, rfl⟩ := stop_ok hs'
      simp [chains, Input.isPing, Input.isOpen]
  | publish => obtain ⟨rfl, -⟩ := publish_ok h; simp [Input.isPing, Input.isOpen]
  | subscribeChannel =>
      rcases subscribeChannel_ok h with ⟨-, rfl, -⟩ | ⟨-, rfl, -⟩ <;>
        simp [chains, Input.isPing, Input.isOpen]
  | unsubscribe =>
      rcases unsubscribe_ok h with ⟨-, rfl, -⟩ | ⟨-, -, -, -, rfl, -⟩ <;>
        simp [chains, Input.isPing, Input.isOpen]
  | readDone =>
      rcases readDone_ok h with ⟨-, -, rfl, -⟩ | ⟨-, rfl, -⟩ | ⟨-, rfl, -⟩ | ⟨d, u, e₀, -, hu, hc⟩
      rotate_right
      · obtain ⟨r', -, rfl⟩ := processInput_ok hu
        rw [show t = _ from congrArg Prod.fst hc]
        simp [chains, readTaken, Input.isPing, Input.isOpen]
      all_goals simp [chains, readTaken, Input.isPing, Input.isOpen]
  | waitDone =>
      have hen : 0 < s.waits := hen.2
      obtain ⟨rfl, -⟩ := step_waitDone h
      simp [chains, Input.isPing, Input.isOpen]; omega
  | dataReturned =>
      rw [show t = _ from congrArg Prod.fst (step_dataReturned h)]
      simp [chains, Input.isPing, Input.isOpen]
  | pingDone =>
      have hen : 0 < s.pings := hen.2
      rcases step_pingDone h with ⟨-, rfl, rfl⟩ | ⟨-, rfl, rfl⟩ | ⟨-, rfl, rfl⟩
      · simp [chains, Input.isPing, Input.isOpen]
      · have :
            fatalReports (if s.clientState = .running then [.onError .asioError] else []) ≤ 1 := by
          split <;> simp [ClientError.isConnectionFatal]
        simp [chains, Input.isPing, Input.isOpen]; omega
      · simp [chains, Input.isPing, Input.isOpen]; omega

theorem Run.pingReports {s s' : SecureClient} {tr : List (Input × List Effect)}
    (h : Run s tr s') : loopReports Input.isPing tr + chains s' ≤ chains s + opens tr := by
  induction h with
  | nil => simp [loopReports, opens]
  | @cons s t s' i e rest hen hstep _ ih =>
      have hstep := step_pingReports hen hstep
      simp only [loopReports, opens]
      omega

theorem Run.fatalReports_split {s s' : SecureClient} {tr : List (Input × List Effect)}
    (hl : LoopInv s) (h : Run s tr s') :
    loopReports (fun _ => true) tr = loopReports Input.isRead tr + loopReports Input.isPing tr := by
  induction h with
  | nil => rfl
  | @cons s t s' i e rest hen hstep _ ih =>
      simp only [loopReports, if_true, ih (hl.step hen hstep)]
      cases i with
      | readDone => simp [Input.isRead, Input.isPing]; omega
      | pingDone => simp [Input.isRead, Input.isPing]; omega
      | _ => rw [step_fatalReports hl hstep rfl rfl]; simp [Input.isRead, Input.isPing]

/-- Over every run of one session, the read chain reports a connection-fatal error at most
once, each successful `start` adds one keepalive chain that reports at most once, and no other
step reports one. -/
theorem connectionFatal_reports_per_loop {tr : List (Input × List Effect)} {s : SecureClient}
    (h : Run init tr s) :
    loopReports Input.isRead tr ≤ 1 ∧ loopReports Input.isPing tr ≤ opens tr ∧
      loopReports (fun _ => true) tr =
        loopReports Input.isRead tr + loopReports Input.isPing tr := by
  refine ⟨(h.readReports loopInv_init).1, ?_, h.fatalReports_split loopInv_init⟩
  have := h.pingReports
  simp only [chains, init] at this
  omega

theorem readFailure_reports_per_loop :
    loopReports Input.isRead [(.start .opened, []), (.readDone .failed, [.onError .asioError])] ≤ 1 ∧
    loopReports Input.isPing [(.start .opened, []), (.readDone .failed, [.onError .asioError])] ≤
      opens [(.start .opened, []), (.readDone .failed, [.onError .asioError])] ∧
    loopReports (fun _ => true) [(.start .opened, []), (.readDone .failed, [.onError .asioError])] =
      loopReports Input.isRead [(.start .opened, []), (.readDone .failed, [.onError .asioError])] +
        loopReports Input.isPing [(.start .opened, []), (.readDone .failed, [.onError .asioError])] :=
  connectionFatal_reports_per_loop
    (s := { clientState := .running, requestId := 0, subscriptions := .empty, reads := 0,
            waits := 1, pings := 0 })
    (.cons trivial rfl <| .cons (by decide) rfl <| .nil _)

/-- A read that fails while `Running`, then a ping that fails while still `Running`: the
session's error callback gets two connection-fatal reports. -/
theorem read_then_ping_failure_reports_twice :
    Run init
      [(.start .opened, []), (.waitDone, [.ping]), (.readDone .failed, [.onError .asioError]),
        (.pingDone .failed, [.onError .asioError])]
      { clientState := .running, requestId := 0, subscriptions := .empty, reads := 0, waits := 0,
        pings := 0 } ∧
    loopReports (fun _ => true)
      [(.start .opened, []), (.waitDone, [.ping]), (.readDone .failed, [.onError .asioError]),
        (.pingDone .failed, [.onError .asioError])] = 2 :=
  ⟨.cons trivial rfl <| .cons (by decide) rfl <| .cons (by decide) rfl <|
    .cons (by decide) rfl <| .nil _, rfl⟩

/-!
# The keepalive after `stop`
-/

/-- After `start` and `stop`, the wait that `stop` cancelled still completes into a ping,
counted and sent while `PendingStopped`. -/
theorem ping_after_stop :
    Run init [(.start .opened, []), (.stop true true, [])]
      { clientState := .pendingStopped, requestId := 0, subscriptions := .empty, reads := 1,
        waits := 1, pings := 0 } ∧
    SecureClient.step
      { clientState := .pendingStopped, requestId := 0, subscriptions := .empty, reads := 1,
        waits := 1, pings := 0 } .waitDone =
      .ok ({ clientState := .pendingStopped, requestId := 0, subscriptions := .empty,
             reads := 1, waits := 0, pings := 1 }, [.ping]) :=
  ⟨.cons trivial rfl <| .cons trivial rfl <| .nil _, rfl⟩

/-!
# Outstanding operations
-/

/-- After every run from construction the session has at most one read outstanding, none once
`Stopped`, and no more keepalive chains, waits on the ping timer and pings in flight, than
successful starts: a session started once never has two pings in flight. -/
theorem outstanding_operations {tr : List (Input × List Effect)} {s : SecureClient}
    (h : Run init tr s) :
    s.reads ≤ 1 ∧ (s.clientState = .stopped -> s.reads = 0) ∧ s.waits + s.pings ≤ opens tr := by
  have hl := (reachableUnder_stoppedEmpty (Run.reachable ReachableUnder.init h)).1
  have hp := h.pingReports
  simp only [chains, init] at hp
  exact ⟨hl.readsLeOne, hl.stoppedIdle, by omega⟩

theorem restarted_two_pings :
    let tr : List (Input × List Effect) :=
      [(.start .opened, []), (.stop true true, []), (.readDone .aborted, []),
        (.start .opened, []), (.waitDone, [.ping]), (.waitDone, [.ping])]
    let s : SecureClient :=
      { clientState := .running, requestId := 0, subscriptions := .empty, reads := 1, waits := 0,
        pings := 2 }
    Run init tr s ∧ s.pings = 2 ∧
      (s.reads ≤ 1 ∧ (s.clientState = .stopped -> s.reads = 0) ∧ s.waits + s.pings ≤ opens tr) := by
  intro tr s
  have h : Run init tr s := .cons trivial rfl <| .cons trivial rfl <| .cons (by decide) rfl <|
    .cons trivial rfl <| .cons (by decide) rfl <| .cons (by decide) rfl <| .nil _
  exact ⟨h, rfl, outstanding_operations h⟩

end SecureClient

end RtmClient
