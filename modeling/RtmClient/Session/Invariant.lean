import RtmClient.Session.Steps

/-!
# Reachable states of the session

The states a `secure_client` reaches from its constructor by steps the event loop can run,
and the invariants that hold in all of them.  The read loop keeps at most one read
outstanding, none once `Stopped` and none while its handler delivers a batch; under the two
caller obligations of `Admissible`, the registry records always agree with their keys and with
the request counter.
-/

namespace RtmClient

namespace SecureClient

/-- The calls the registry invariant assumes: a request id is issued only while fewer than
`2^64 - 2` have been, so that the counter never reaches `UINT64_MAX`. -/
def Admissible (s : SecureClient) : Input -> Prop
  | .subscribeChannel .. => s.clientState = .running -> s.requestId.toNat + 1 < 2 ^ 64 - 1
  | .unsubscribe _ => s.clientState = .running -> s.requestId.toNat + 1 < 2 ^ 64 - 1
  | _ => True

/-- The states reached from a new session by enabled steps that the caller admits and that
end without a failing `CHECK` or `ABORT`. -/
inductive ReachableUnder (admissible : SecureClient -> Input -> Prop) : SecureClient -> Prop
  | init : ReachableUnder admissible init
  | step {s s' : SecureClient} {i : Input} {e : List Effect} :
      ReachableUnder admissible s -> s.Enabled i -> admissible s i ->
      s.step i = .ok (s', e) -> ReachableUnder admissible s'

/-- The states reached whatever the session is called with. -/
def Reachable (s : SecureClient) : Prop := ReachableUnder (fun _ _ => True) s

/-!
# The read loop
-/

/-- At most one read is outstanding, and none while `Stopped`; a read handler that delivers a
batch of `on_data` calls issues its read only once the batch is done, and none delivers while
`Stopped`. -/
structure LoopInv (s : SecureClient) : Prop where
  readsLeOne : s.reads ≤ 1
  stoppedIdle : s.clientState = .stopped -> s.reads = 0
  batchUnread : s.batch ≠ none -> s.reads = 0
  stoppedNoBatch : s.clientState = .stopped -> s.batch = none
  batchOnData : ∀ x ∈ s.batch.getD [], x.isOnData

theorem loopInv_init : LoopInv init :=
  ⟨by decide, fun _ => rfl, fun h => absurd rfl h, fun _ => rfl, fun _ h => nomatch h⟩

theorem LoopInv.of_eq {s t : SecureClient} (hs : LoopInv s) (hc : t.clientState = s.clientState)
    (hr : t.reads = s.reads) (hb : t.batch = s.batch) : LoopInv t :=
  ⟨hr ▸ hs.readsLeOne, fun h => hr ▸ hs.stoppedIdle (hc ▸ h),
    fun h => hr ▸ hs.batchUnread (hb ▸ h), fun h => hb ▸ hs.stoppedNoBatch (hc ▸ h),
    hb ▸ hs.batchOnData⟩

theorem LoopInv.of_not_stopped {s t : SecureClient} (hs : LoopInv s)
    (hc : t.clientState ≠ .stopped) (hr : t.reads = s.reads) (hb : t.batch = s.batch) :
    LoopInv t :=
  ⟨hr ▸ hs.readsLeOne, fun h => absurd h hc, fun h => hr ▸ hs.batchUnread (hb ▸ h),
    fun h => absurd h hc, hb ▸ hs.batchOnData⟩

theorem LoopInv.of_no_batch {t : SecureClient} (hb : t.batch = none) (hr : t.reads ≤ 1)
    (hst : t.clientState = .stopped -> t.reads = 0) : LoopInv t :=
  ⟨hr, hst, fun h => absurd hb h, fun _ => hb, by simp [hb]⟩

theorem LoopInv.of_delivering {t : SecureClient} (hc : t.clientState ≠ .stopped)
    (hr : t.reads = 0) (hb : ∀ x ∈ t.batch.getD [], x.isOnData) : LoopInv t :=
  ⟨by omega, fun h => absurd h hc, fun _ => hr, fun h => absurd h hc, hb⟩

theorem LoopInv.step {s s' : SecureClient} {i : Input} {e : List Effect} (hs : LoopInv s)
    (hen : s.Enabled i) (h : s.step i = .ok (s', e)) : LoopInv s' := by
  cases i with
  | start outcome =>
      obtain ⟨ret, hs', -⟩ := step_start h
      obtain ⟨hst, ⟨-, rfl, -⟩ | ⟨-, -, rfl⟩⟩ := start_ok hs'
      · exact hs
      · exact .of_no_batch (hs.stoppedNoBatch hst) (by simp [hs.stoppedIdle hst]) (by simp)
  | stop =>
      obtain ⟨ret, hs', -⟩ := step_stop h
      obtain ⟨-, rfl⟩ := stop_ok hs'
      exact hs.of_not_stopped (by simp) rfl rfl
  | publish => obtain ⟨rfl, -⟩ := publish_ok h; exact hs
  | subscribeChannel =>
      rcases subscribeChannel_ok h with ⟨-, rfl, -⟩ | ⟨hrun, rfl, -⟩
      · exact hs
      · exact hs.of_eq rfl rfl rfl
  | unsubscribe =>
      rcases unsubscribe_ok h with ⟨-, rfl, -⟩ | ⟨hrun, -, -, -, rfl, -⟩
      · exact hs
      · exact hs.of_eq rfl rfl rfl
  | readDone outcome =>
      obtain ⟨hb, hen⟩ : s.batch = none ∧ 0 < s.reads := hen
      have h1 := hs.readsLeOne
      have hrun : s.clientState ≠ .stopped := fun hst => absurd (hs.stoppedIdle hst) (by omega)
      rcases readDone_ok h with ⟨-, -, rfl, -⟩ | ⟨-, rfl, -⟩ | ⟨-, rfl, -⟩ | ⟨d, t, e₀, -, ht, hc⟩
      · exact .of_no_batch hb (by simp [readTaken]; omega) (fun _ => by simp [readTaken]; omega)
      · exact .of_no_batch hb (by simp [readTaken]; omega) (fun h => absurd h hrun)
      · exact .of_no_batch hb (by simp [readTaken]; omega) (fun h => absurd h hrun)
      · obtain ⟨r', hr', rfl⟩ := processInput_ok ht
        have hs' : s' = (continueRead { s.readTaken with subscriptions := r' } d e₀).1 :=
          congrArg Prod.fst hc
        subst hs'
        have hst : (continueRead { s.readTaken with subscriptions := r' } d e₀).1.clientState ≠
            .stopped := by simpa [readTaken] using hrun
        rcases continueRead_reads { s.readTaken with subscriptions := r' } d e₀ hb with
          ⟨hb', hrd⟩ | ⟨hb', hrd⟩
        · exact .of_no_batch hb' (by rw [hrd]; simp [readTaken]; omega) (fun h => absurd h hst)
        · refine .of_delivering hst (by rw [hrd]; simp [readTaken]; omega) fun x hx => ?_
          obtain ⟨hd, hx⟩ := continueRead_batch { s.readTaken with subscriptions := r' } d e₀ hb hx
          exact (Registry.processInput_data hr' hd).2 x hx
  | waitDone => obtain ⟨rfl, -⟩ := step_waitDone h; exact hs.of_eq rfl rfl rfl
  | pingDone outcome =>
      rcases step_pingDone h with ⟨-, rfl, -⟩ | ⟨-, rfl, -⟩ | ⟨-, rfl, -⟩ <;> exact hs.of_eq rfl rfl rfl
  | dataReturned =>
      have hen : s.batch ≠ none := hen
      have h0 := hs.batchUnread hen
      have hrun : s.clientState ≠ .stopped := fun hst => hen (hs.stoppedNoBatch hst)
      have hs' : s' = s.deliverNext.1 := congrArg Prod.fst (step_dataReturned h)
      subst hs'
      rcases deliverNext_cases s with ⟨hb, -⟩ | ⟨-, hd⟩ | ⟨x, rest, -, hd⟩
      · exact absurd hb hen
      · rw [hd]; exact .of_no_batch rfl (by simp [h0]) (fun h => absurd h hrun)
      · exact .of_delivering (by simpa using hrun) (by simp [hd, h0])
          fun y hy => hs.batchOnData y (deliverNext_batch s hy)

/-!
# The registry
-/

/-- What holds of the records of a reachable registry, against the request counter. -/
structure RecordsInv (requestId : UInt64) (r : Registry) : Prop where
  /-- Every key is its record's channel. -/
  keyChannel : ∀ e ∈ r.entries, e.2.channel = e.1
  /-- A pending record waits on an id already issued. -/
  pendingIssued : ∀ e ∈ r.entries,
    e.2.status = .pendingSubscribe ∨ e.2.status = .pendingUnsubscribe ->
      1 ≤ e.2.pendingRequestId.toNat ∧ e.2.pendingRequestId.toNat ≤ requestId.toNat
  /-- A current record waits on nothing. -/
  currentIdle : ∀ e ∈ r.entries, e.2.status = .current -> e.2.pendingRequestId = UINT64_MAX
  /-- No two records wait on the same id. -/
  pendingUnique : ∀ a ∈ r.entries, ∀ b ∈ r.entries,
    a.2.pendingRequestId = b.2.pendingRequestId -> a.2.pendingRequestId ≠ UINT64_MAX -> a = b

/-- The registry invariant of a session: its records, and an empty registry while
`Stopped`. -/
structure RegistryInvariant (s : SecureClient) : Prop where
  records : RecordsInv s.requestId s.subscriptions
  stoppedEmpty : s.clientState = .stopped -> s.subscriptions.entries = []

namespace RecordsInv

variable {n : UInt64} {r : Registry}

theorem empty : RecordsInv n Registry.empty :=
  ⟨by simp, by simp, by simp, by simp⟩

theorem mono {n' : UInt64} {r' : Registry} (h : RecordsInv n r)
    (hsub : ∀ e ∈ r'.entries, e ∈ r.entries) (hn : n.toNat ≤ n'.toNat) : RecordsInv n' r' :=
  ⟨fun e he => h.keyChannel e (hsub e he),
    fun e he hst => (h.pendingIssued e (hsub e he) hst).imp id (fun h' => by omega),
    fun e he => h.currentIdle e (hsub e he),
    fun a ha b hb => h.pendingUnique a (hsub a ha) b (hsub b hb)⟩

theorem pending_ne_next (h : RecordsInv n r) (hn : n.toNat + 1 < 2 ^ 64 - 1) :
    ∀ e ∈ r.entries, e.2.pendingRequestId ≠ n + 1 := by
  intro e he heq
  have hsucc := UInt64.toNat_add_one (n := n) (by omega)
  rw [← heq] at hsucc
  cases hst : e.2.status with
  | current =>
      have := UInt64.eq_max_iff.mp (h.currentIdle e he hst)
      omega
  | pendingSubscribe => have := h.pendingIssued e he (.inl hst); omega
  | pendingUnsubscribe => have := h.pendingIssued e he (.inr hst); omega

theorem emplace {k : String} {sub : Handle} {callbacks : Callbacks} (h : RecordsInv n r)
    (hn : n.toNat + 1 < 2 ^ 64 - 1) :
    RecordsInv (n + 1) (r.emplace k (pendingRecord k sub callbacks (n + 1))) := by
  have hfresh := h.pending_ne_next hn
  have hsucc := UInt64.toNat_add_one (n := n) (by omega)
  constructor
  · intro e he
    rcases Registry.mem_emplace.mp he with he | ⟨rfl, -⟩
    · exact h.keyChannel e he
    · rfl
  · intro e he hst
    rcases Registry.mem_emplace.mp he with he | ⟨rfl, -⟩
    · have := h.pendingIssued e he hst; omega
    · simp only [pendingRecord]; omega
  · intro e he hst
    rcases Registry.mem_emplace.mp he with he | ⟨rfl, -⟩
    · exact h.currentIdle e he hst
    · cases hst
  · intro a ha b hb hab hmax
    rcases Registry.mem_emplace.mp ha with ha | ⟨rfl, -⟩ <;>
      rcases Registry.mem_emplace.mp hb with hb | ⟨rfl, -⟩
    · exact h.pendingUnique a ha b hb hab hmax
    · exact absurd hab (hfresh a ha)
    · exact absurd hab.symm (hfresh b hb)
    · rfl

theorem modify_unsubscribe {k : String} (h : RecordsInv n r)
    (hn : n.toNat + 1 < 2 ^ 64 - 1) :
    RecordsInv (n + 1) (r.modify k (toPendingUnsubscribe (n + 1))) := by
  have hfresh := h.pending_ne_next hn
  have hsucc := UInt64.toNat_add_one (n := n) (by omega)
  constructor
  · intro e he
    rcases Registry.mem_modify.mp he with ⟨v, hv, rfl⟩ | ⟨he, -⟩
    · exact h.keyChannel (k, v) hv
    · exact h.keyChannel e he
  · intro e he hst
    rcases Registry.mem_modify.mp he with ⟨v, hv, rfl⟩ | ⟨he, -⟩
    · simp only [toPendingUnsubscribe]; omega
    · have := h.pendingIssued e he hst; omega
  · intro e he hst
    rcases Registry.mem_modify.mp he with ⟨v, hv, rfl⟩ | ⟨he, -⟩
    · cases hst
    · exact h.currentIdle e he hst
  · intro a ha b hb hab hmax
    rcases Registry.mem_modify.mp ha with ⟨v, hv, rfl⟩ | ⟨ha, -⟩ <;>
      rcases Registry.mem_modify.mp hb with ⟨w, hw, rfl⟩ | ⟨hb, -⟩
    · cases Registry.eq_of_mem_of_mem hv hw rfl; rfl
    · exact absurd hab.symm (hfresh b hb)
    · exact absurd hab (hfresh a ha)
    · exact h.pendingUnique a ha b hb hab hmax

theorem modify_current {k : String} (h : RecordsInv n r) :
    RecordsInv n (r.modify k toCurrent) := by
  constructor
  · intro e he
    rcases Registry.mem_modify.mp he with ⟨v, hv, rfl⟩ | ⟨he, -⟩
    · exact h.keyChannel (k, v) hv
    · exact h.keyChannel e he
  · intro e he hst
    rcases Registry.mem_modify.mp he with ⟨v, hv, rfl⟩ | ⟨he, -⟩
    · simp [toCurrent] at hst
    · exact h.pendingIssued e he hst
  · intro e he hst
    rcases Registry.mem_modify.mp he with ⟨v, hv, rfl⟩ | ⟨he, -⟩
    · rfl
    · exact h.currentIdle e he hst
  · intro a ha b hb hab hmax
    rcases Registry.mem_modify.mp ha with ⟨v, hv, rfl⟩ | ⟨ha, -⟩
    · exact absurd rfl hmax
    rcases Registry.mem_modify.mp hb with ⟨w, hw, rfl⟩ | ⟨hb, -⟩
    · exact absurd hab hmax
    · exact h.pendingUnique a ha b hb hab hmax

theorem answered {response : Response} {key : String} (h : RecordsInv n r) :
    RecordsInv n (SecureClient.answered r response key) := by
  cases response
  case subscribeOk => exact h.modify_current
  all_goals exact h.mono (fun e he => (Registry.mem_erase.mp he).1) le_rfl

end RecordsInv

theorem stoppedEmpty_step {s s' : SecureClient} {i : Input} {e : List Effect} (hl : LoopInv s)
    (hs : s.clientState = .stopped -> s.subscriptions.entries = []) (hen : s.Enabled i)
    (h : s.step i = .ok (s', e)) : s'.clientState = .stopped -> s'.subscriptions.entries = [] := by
  cases i with
  | start outcome =>
      obtain ⟨ret, hs', -⟩ := step_start h
      obtain ⟨-, ⟨-, rfl, -⟩ | ⟨-, -, rfl⟩⟩ := start_ok hs'
      · exact hs
      · simp
  | stop =>
      obtain ⟨ret, hs', -⟩ := step_stop h
      obtain ⟨-, rfl⟩ := stop_ok hs'
      simp
  | publish => obtain ⟨rfl, -⟩ := publish_ok h; exact hs
  | subscribeChannel =>
      rcases subscribeChannel_ok h with ⟨-, rfl, -⟩ | ⟨hrun, rfl, -⟩
      · exact hs
      · simp [hrun]
  | unsubscribe =>
      rcases unsubscribe_ok h with ⟨-, rfl, -⟩ | ⟨hrun, -, -, -, rfl, -⟩
      · exact hs
      · simp [hrun]
  | readDone outcome =>
      rcases readDone_ok h with ⟨-, -, rfl, -⟩ | ⟨-, rfl, -⟩ | ⟨-, rfl, -⟩ | ⟨d, t, e₀, -, ht, hc⟩
      · exact fun _ => rfl
      · exact hs
      · exact hs
      · have hs' : s' = (t.continueRead d e₀).1 := congrArg Prod.fst hc
        obtain ⟨r', -, rfl⟩ := processInput_ok ht
        subst hs'
        intro hst
        have : s.reads = 0 := hl.stoppedIdle (by simpa [readTaken] using hst)
        exact absurd hen (by simp [Enabled, this])
  | waitDone => obtain ⟨rfl, -⟩ := step_waitDone h; exact hs
  | pingDone outcome =>
      rcases step_pingDone h with ⟨-, rfl, -⟩ | ⟨-, rfl, -⟩ | ⟨-, rfl, -⟩ <;> exact hs
  | dataReturned =>
      have hs' : s' = s.deliverNext.1 := congrArg Prod.fst (step_dataReturned h)
      subst hs'
      simpa using hs

theorem RegistryInvariant.step {s s' : SecureClient} {i : Input} {e : List Effect}
    (hs : RegistryInvariant s) (hl : LoopInv s) (hen : s.Enabled i) (hadm : Admissible s i)
    (h : s.step i = .ok (s', e)) : RegistryInvariant s' := by
  refine ⟨?_, stoppedEmpty_step hl hs.stoppedEmpty hen h⟩
  rcases step_registry h with ⟨hn, hr⟩ | ⟨-, hn, hr⟩ | ⟨_, _, _, _, rfl, hrun, hn, hr⟩ |
    ⟨_, _, _, rfl, hrun, -, hn, hr⟩ | ⟨_, _, _, _, _, -, -, -, -, -, hn, hr⟩ <;> rw [hn, hr]
  · exact hs.records
  · exact RecordsInv.empty
  · exact hs.records.emplace (hadm hrun)
  · exact hs.records.modify_unsubscribe (hadm hrun)
  · exact hs.records.answered

theorem reachableUnder_stoppedEmpty {admissible : SecureClient -> Input -> Prop}
    {s : SecureClient} (h : ReachableUnder admissible s) :
    LoopInv s ∧ (s.clientState = .stopped -> s.subscriptions.entries = []) := by
  induction h with
  | init => exact ⟨loopInv_init, fun _ => rfl⟩
  | step _ hen _ hstep ih => exact ⟨ih.1.step hen hstep, stoppedEmpty_step ih.1 ih.2 hen hstep⟩

/-- Every state the session reaches under its caller obligations satisfies the registry
invariant. -/
theorem reachable_registryInvariant {s : SecureClient} (h : ReachableUnder Admissible s) :
    RegistryInvariant s := by
  induction h with
  | init => exact ⟨RecordsInv.empty, fun _ => rfl⟩
  | step hr hen hadm hstep ih => exact ih.step (reachableUnder_stoppedEmpty hr).1 hen hadm hstep

/-!
# Runs
-/

/-- A run of the session from `s` to `s'`: each step taken, with the effects it had. -/
inductive Run : SecureClient -> List (Input × List Effect) -> SecureClient -> Prop
  | nil (s : SecureClient) : Run s [] s
  | cons {s t s' : SecureClient} {i : Input} {e : List Effect}
      {rest : List (Input × List Effect)} :
      s.Enabled i -> s.step i = .ok (t, e) -> Run t rest s' -> Run s ((i, e) :: rest) s'

theorem Run.append {s t s' : SecureClient} {tr tr' : List (Input × List Effect)}
    (h : Run s tr t) (h' : Run t tr' s') : Run s (tr ++ tr') s' := by
  induction h with
  | nil => exact h'
  | cons hen hstep _ ih => exact .cons hen hstep (ih h')

theorem Run.reachable {s s' : SecureClient} {tr : List (Input × List Effect)}
    (hs : Reachable s) (h : Run s tr s') : Reachable s' := by
  induction h with
  | nil => exact hs
  | cons hen hstep _ ih => exact ih (.step hs hen trivial hstep)

theorem reachable_stopped {s : SecureClient} (h : Reachable s)
    (hst : s.clientState = .stopped) : s.reads = 0 ∧ s.subscriptions.entries = [] :=
  have key := reachableUnder_stoppedEmpty h
  ⟨key.1.stoppedIdle hst, key.2 hst⟩

/-- The session after `start` and one `subscribe_channel`. -/
def subscribedOnce : SecureClient :=
  { clientState := .running, requestId := 1, reads := 1, waits := 1, pings := 0,
    subscriptions := Registry.empty.emplace "a" (pendingRecord "a" ⟨1⟩ ⟨1⟩ 1) }

theorem subscribedOnce_registryInvariant :
    ReachableUnder Admissible subscribedOnce ∧ RegistryInvariant subscribedOnce :=
  have hr : ReachableUnder Admissible subscribedOnce :=
    .step (i := .subscribeChannel "a" ⟨1⟩ ⟨1⟩ none)
      (.step (i := .start .opened) .init trivial trivial rfl) trivial (fun _ => by decide) rfl
  ⟨hr, reachable_registryInvariant hr⟩

end SecureClient

end RtmClient
