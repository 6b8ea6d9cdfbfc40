import RtmClient.Session

/-!
# What one step of the session can do

One lemma per operation says everything a successful call of it can do to the state, so
that the invariants of the later modules never unfold the operations again.
-/

namespace RtmClient

theorem UInt64.toNat_add_one {n : UInt64} (h : n.toNat + 1 < 2 ^ 64) :
    (n + 1).toNat = n.toNat + 1 :=
  Nat.mod_eq_of_lt h

theorem UInt64.eq_max_iff {n : UInt64} : n = UINT64_MAX ↔ n.toNat = 2 ^ 64 - 1 :=
  ⟨fun h => h ▸ rfl, fun h => UInt64.toNat.inj h⟩

namespace SecureClient

/-- The record `subscribe_channel` creates. -/
def pendingRecord (channel : String) (sub : Handle) (callbacks : Callbacks) (id : UInt64) :
    SubscriptionImpl :=
  { channel, sub, callbacks, status := .pendingSubscribe, pendingRequestId := id }

/-- The update `unsubscribe` makes to the record it finds. -/
def toPendingUnsubscribe (id : UInt64) (r : SubscriptionImpl) : SubscriptionImpl :=
  { r with pendingRequestId := id, status := .pendingUnsubscribe }

/-- The update `rtm/subscribe/ok` makes to the record it matches. -/
def toCurrent (r : SubscriptionImpl) : SubscriptionImpl :=
  { r with pendingRequestId := UINT64_MAX, status := .current }

/-- The registry after a matched response: confirmed, or erased. -/
def answered (r : Registry) (response : Response) (key : String) : Registry :=
  match response with
  | .subscribeOk => r.modify key toCurrent
  | _ => r.erase key

theorem whenRunning_ok {s : SecureClient} {body : Except Failure (SecureClient × List Effect)}
    {p : SecureClient × List Effect} (h : s.whenRunning body = .ok p) :
    (s.clientState = .pendingStopped ∧ p = (s, [])) ∨
      (s.clientState = .running ∧ body = .ok p) := by
  unfold whenRunning at h
  split at h
  · exact .inl ⟨‹_›, (Except.ok.inj h).symm⟩
  · exact .inr ⟨‹_›, h⟩
  · cases h

theorem subscribeChannel_ok {s s' : SecureClient} {channel : String} {sub : Handle}
    {callbacks : Callbacks} {options : Option SubscriptionOptions} {e : List Effect}
    (h : s.subscribeChannel channel sub callbacks options = .ok (s', e)) :
    (s.clientState = .pendingStopped ∧ s' = s ∧ e = []) ∨
      (s.clientState = .running ∧
        s' = { s with
          requestId := s.requestId + 1
          subscriptions := s.subscriptions.emplace channel
            (pendingRecord channel sub callbacks (s.requestId + 1)) } ∧
        e = [.write (.subscribe
          { id := s.requestId + 1
            channel := channel
            age := options.bind fun o => o.history.age
            count := options.bind fun o => o.history.count })]) := by
  rcases whenRunning_ok h with ⟨hs, hp⟩ | ⟨hs, hp⟩
  · cases hp; exact .inl ⟨hs, rfl, rfl⟩
  · cases hp; exact .inr ⟨hs, rfl, rfl⟩

theorem unsubscribe_ok {s s' : SecureClient} {sub : Handle} {e : List Effect}
    (h : s.unsubscribe sub = .ok (s', e)) :
    (s.clientState = .pendingStopped ∧ s' = s ∧ e = []) ∨
      (s.clientState = .running ∧ exists key v, s.subscriptions.findSub sub = some (key, v) ∧
        s' = { s with
          requestId := s.requestId + 1
          subscriptions := s.subscriptions.modify key (toPendingUnsubscribe (s.requestId + 1)) } ∧
        e = [.write (.unsubscribe { id := s.requestId + 1, channel := key })]) := by
  rcases whenRunning_ok h with ⟨hs, hp⟩ | ⟨hs, hp⟩
  · cases hp; exact .inl ⟨hs, rfl, rfl⟩
  · refine .inr ⟨hs, ?_⟩
    split at hp
    · cases hp
    · cases hp; exact ⟨_, _, ‹_›, rfl, rfl⟩

end SecureClient

namespace Registry

theorem answer_ok {r r' : Registry} {response : Response} {id : UInt64} {e : List Effect}
    (h : r.answer response id = .ok (r', e)) :
    exists key v, r.findPending id = some (key, v) ∧ v.status = response.required ∧
      r' = SecureClient.answered r response key ∧ e = response.report.toList.map .onError := by
  unfold answer at h
  split at h
  · cases h
  · rename_i key v hfind
    split at h
    · cases h
    · refine ⟨key, v, hfind, of_not_not ‹_›, ?_⟩
      cases response <;> cases h <;> exact ⟨rfl, rfl⟩

theorem deliver_ok {r : Registry} {d : Document} {e : List Effect} (h : r.deliver d = .ok e) :
    exists channel v, d.subscriptionId = some channel ∧ r.find channel = some v ∧
      ((v.status = .pendingUnsubscribe ∧ e = []) ∨
        (v.status = .current ∧ exists messages, d.messages = some messages ∧
          e = messages.map (.onData v.callbacks v.sub))) := by
  unfold deliver at h
  rcases hc : d.subscriptionId with _ | channel <;> simp only [hc] at h
  · cases h
  rcases hv : r.find channel with _ | v <;> simp only [hv] at h
  · cases h
  rcases hs : v.status <;> simp only [hs] at h
  · cases h
  · rcases hm : d.messages with _ | messages <;> simp only [hm] at h
    · cases h
    · cases h; exact ⟨channel, v, rfl, hv, .inr ⟨hs, messages, rfl, rfl⟩⟩
  · cases h; exact ⟨channel, v, rfl, hv, .inl ⟨hs, rfl⟩⟩

theorem deliver_isOnData {r : Registry} {d : Document} {e : List Effect}
    (h : r.deliver d = .ok e) : ∀ x ∈ e, x.isOnData := by
  obtain ⟨-, -, -, -, ⟨-, rfl⟩ | ⟨-, ms, -, rfl⟩⟩ := deliver_ok h
  · intro x hx; cases hx
  · intro x hx
    obtain ⟨m, -, rfl⟩ := List.mem_map.1 hx
    rfl

theorem answerDocument_ok {r r' : Registry} {response : Response} {d : Document}
    {e : List Effect} (h : r.answerDocument response d = .ok (r', e)) :
    exists id, d.id = some id ∧ r.answer response id = .ok (r', e) := by
  unfold answerDocument at h
  split at h
  · cases h
  · exact ⟨_, ‹_›, h⟩

theorem processInput_ok {r r' : Registry} {d : Document} {e : List Effect}
    (h : r.processInput d = .ok (r', e)) :
    (r' = r ∧ (d.action = some "rtm/subscription/data" ∧ r.deliver d = .ok e ∨
        d.action = some "rtm/subscription/error" ∧ e = [.onError .subscriptionError])) ∨
      exists response id, d.action = some response.action ∧ d.id = some id ∧
        r.answer response id = .ok (r', e) := by
  unfold processInput at h
  cases hobj : d.isObject
  · simp only [hobj] at h
    cases h
  rcases haction : d.action with _ | action
  · simp only [hobj, haction] at h
    cases h
  have hanswer : forall response, action = response.action ->
      r.answerDocument response d = .ok (r', e) ->
      exists response id, some action = some response.action ∧ d.id = some id ∧
        r.answer response id = .ok (r', e) :=
    fun response hr h => ⟨response, (answerDocument_ok h).imp fun _ h => ⟨congrArg some hr, h⟩⟩
  simp only [hobj, haction, Bool.not_true, Bool.false_eq_true, if_false] at h
  by_cases h1 : action = "rtm/subscription/data"
  · rw [if_pos h1] at h
    rcases hd : r.deliver d with f | e' <;> rw [hd] at h <;> cases h
    exact .inl ⟨rfl, .inl ⟨by rw [h1], rfl⟩⟩
  rw [if_neg h1] at h
  by_cases h2 : action = "rtm/subscribe/ok"
  · exact .inr (hanswer .subscribeOk h2 (by rwa [if_pos h2] at h))
  rw [if_neg h2] at h
  by_cases h3 : action = "rtm/subscribe/error"
  · exact .inr (hanswer .subscribeError h3 (by rwa [if_pos h3] at h))
  rw [if_neg h3] at h
  by_cases h4 : action = "rtm/unsubscribe/ok"
  · exact .inr (hanswer .unsubscribeOk h4 (by rwa [if_pos h4] at h))
  rw [if_neg h4] at h
  by_cases h5 : action = "rtm/unsubscribe/error"
  · exact .inr (hanswer .unsubscribeError h5 (by rwa [if_pos h5] at h))
  rw [if_neg h5] at h
  by_cases h6 : action = "rtm/subscription/error"
  · rw [if_pos h6] at h
    cases h
    exact .inl ⟨rfl, .inr ⟨by rw [h6], rfl⟩⟩
  rw [if_neg h6] at h
  cases h

theorem processInput_onData {r r' : Registry} {d : Document} {e : List Effect} {cb : Callbacks}
    {sub : Handle} {m : Payload} (h : r.processInput d = .ok (r', e)) (hm : .onData cb sub m ∈ e) :
    exists c v, d.action = some "rtm/subscription/data" ∧ d.subscriptionId = some c ∧
      r.find c = some v ∧ v.status = .current ∧ v.sub = sub ∧ v.callbacks = cb := by
  rcases processInput_ok h with ⟨-, ⟨hd, hdel⟩ | ⟨-, rfl⟩⟩ | ⟨response, id, -, -, ha⟩
  · obtain ⟨c, v, hc, hv, ⟨-, rfl⟩ | ⟨hcur, ms, -, rfl⟩⟩ := deliver_ok hdel
    · cases hm
    · obtain ⟨_, -, ⟨⟩⟩ := List.mem_map.mp hm
      exact ⟨c, v, hd, hc, hv, hcur, rfl, rfl⟩
  · simp at hm
  · obtain ⟨-, -, -, -, -, rfl⟩ := answer_ok ha
    cases response <;> simp [Response.report] at hm

theorem processInput_data {r r' : Registry} {d : Document} {e : List Effect}
    (h : r.processInput d = .ok (r', e)) (hd : d.action = some "rtm/subscription/data") :
    r' = r ∧ ∀ x ∈ e, x.isOnData := by
  rcases processInput_ok h with ⟨rfl, ⟨-, hdel⟩ | ⟨hse, -⟩⟩ | ⟨response, id, hact, -, -⟩
  · exact ⟨rfl, deliver_isOnData hdel⟩
  · rw [hd] at hse; simp at hse
  · rw [hd] at hact; cases response <;> simp [Response.action] at hact

end Registry

namespace SecureClient

theorem processInput_ok {s s' : SecureClient} {d : Document} {e : List Effect}
    (h : s.processInput d = .ok (s', e)) :
    exists r', s.subscriptions.processInput d = .ok (r', e) ∧
      s' = { s with subscriptions := r' } := by
  unfold processInput at h
  rcases hp : s.subscriptions.processInput d with f | ⟨r', e'⟩ <;> rw [hp] at h <;> cases h
  exact ⟨r', rfl, rfl⟩

theorem processInput_clientState (s : SecureClient) (d : Document) (cs : ClientState) :
    ({ s with clientState := cs } : SecureClient).processInput d =
      (s.processInput d).map fun p => ({ p.1 with clientState := cs }, p.2) := by
  unfold processInput
  cases s.subscriptions.processInput d <;> rfl

theorem start_ok {s s' : SecureClient} {outcome : StartOutcome} {ret : Option ClientError}
    (h : s.start outcome = .ok (s', ret)) :
    s.clientState = .stopped ∧
      ((outcome = .failed ∧ s' = s ∧ ret = some .asioError) ∨
        (outcome = .opened ∧ ret = none ∧
          s' = { s with clientState := .running, waits := s.waits + 1, reads := s.reads + 1 })) := by
  unfold start at h
  split at h
  · cases h
  · refine ⟨of_not_not ‹_›, ?_⟩
    cases outcome <;> cases h
    · exact .inl ⟨rfl, rfl, rfl⟩
    · exact .inr ⟨rfl, rfl, rfl⟩

theorem stop_ok {s s' : SecureClient} {cancelled closed : Bool} {ret : Option ClientError}
    (h : s.stop cancelled closed = .ok (s', ret)) :
    s.clientState = .running ∧ s' = { s with clientState := .pendingStopped } := by
  unfold stop at h
  split at h
  · cases h
  · cases h; exact ⟨of_not_not ‹_›, rfl⟩

theorem publish_ok {s s' : SecureClient} {channel : String} {message : Payload}
    {hasCallbacks : Bool} {refcount : Nat} {e : List Effect}
    (h : s.publish channel message hasCallbacks refcount = .ok (s', e)) :
    s' = s ∧ (e = [] ∨ e = [.write (.publish channel message)]) := by
  unfold publish at h
  split at h
  · cases h
  · rcases whenRunning_ok h with ⟨-, hp⟩ | ⟨-, hp⟩
    · cases hp; exact ⟨rfl, .inl rfl⟩
    · split at hp
      · cases hp
      · cases hp; exact ⟨rfl, .inr rfl⟩

/-- The state a read completion leaves before its handler runs. -/
def readTaken (s : SecureClient) : SecureClient := { s with reads := s.reads - 1 }

theorem deliverNext_cases (s : SecureClient) :
    (s.batch = none ∧ s.deliverNext = (s, [])) ∨
      (s.batch = some [] ∧ s.deliverNext = ({ s with batch := none, reads := s.reads + 1 }, [])) ∨
      (exists x rest, s.batch = some (x :: rest) ∧
        s.deliverNext = ({ s with batch := some rest }, [x])) := by
  unfold deliverNext
  split
  · exact .inl ⟨‹_›, rfl⟩
  · exact .inr (.inl ⟨‹_›, rfl⟩)
  · exact .inr (.inr ⟨_, _, ‹_›, rfl⟩)

section Fields

variable (s : SecureClient) (d : Document) (e : List Effect)

@[simp] theorem deliverNext_clientState : s.deliverNext.1.clientState = s.clientState := by
  unfold deliverNext; split <;> rfl

@[simp] theorem deliverNext_requestId : s.deliverNext.1.requestId = s.requestId := by
  unfold deliverNext; split <;> rfl

@[simp] theorem deliverNext_subscriptions : s.deliverNext.1.subscriptions = s.subscriptions := by
  unfold deliverNext; split <;> rfl

@[simp] theorem deliverNext_waits : s.deliverNext.1.waits = s.waits := by
  unfold deliverNext; split <;> rfl

@[simp] theorem deliverNext_pings : s.deliverNext.1.pings = s.pings := by
  unfold deliverNext; split <;> rfl

theorem deliverNext_sublist : List.Sublist s.deliverNext.2 (s.batch.getD []) := by
  rcases deliverNext_cases s with ⟨-, h⟩ | ⟨-, h⟩ | ⟨x, rest, hb, h⟩ <;> rw [h]
  · exact List.nil_sublist _
  · exact List.nil_sublist _
  · rw [hb]; exact (List.nil_sublist rest).cons₂ x

theorem deliverNext_batch {x : Effect} (hx : x ∈ s.deliverNext.1.batch.getD []) :
    x ∈ s.batch.getD [] := by
  rcases deliverNext_cases s with ⟨-, h⟩ | ⟨-, h⟩ | ⟨y, rest, hb, h⟩ <;> rw [h] at hx
  · exact hx
  · cases hx
  · rw [hb]; exact List.mem_cons_of_mem _ hx

theorem continueRead_eq : s.continueRead d e =
    if d.action = some "rtm/subscription/data" then { s with batch := some e }.deliverNext
    else (s.askForRead, e) := rfl

@[simp] theorem continueRead_clientState : (s.continueRead d e).1.clientState = s.clientState := by
  rw [continueRead_eq]; split <;> simp [askForRead]

@[simp] theorem continueRead_requestId : (s.continueRead d e).1.requestId = s.requestId := by
  rw [continueRead_eq]; split <;> simp [askForRead]

@[simp] theorem continueRead_subscriptions :
    (s.continueRead d e).1.subscriptions = s.subscriptions := by
  rw [continueRead_eq]; split <;> simp [askForRead]

@[simp] theorem continueRead_waits : (s.continueRead d e).1.waits = s.waits := by
  rw [continueRead_eq]; split <;> simp [askForRead]

@[simp] theorem continueRead_pings : (s.continueRead d e).1.pings = s.pings := by
  rw [continueRead_eq]; split <;> simp [askForRead]

theorem continueRead_sublist : List.Sublist (s.continueRead d e).2 e := by
  rw [continueRead_eq]
  split
  · exact deliverNext_sublist _
  · exact List.Sublist.refl e

theorem continueRead_batch (hb : s.batch = none) {x : Effect}
    (hx : x ∈ (s.continueRead d e).1.batch.getD []) :
    d.action = some "rtm/subscription/data" ∧ x ∈ e := by
  rw [continueRead_eq] at hx
  split at hx
  · exact ⟨‹_›, deliverNext_batch _ hx⟩
  · simp [askForRead, hb] at hx

theorem continueRead_reads (hb : s.batch = none) :
    ((s.continueRead d e).1.batch = none ∧ (s.continueRead d e).1.reads = s.reads + 1) ∨
      ((s.continueRead d e).1.batch ≠ none ∧ (s.continueRead d e).1.reads = s.reads) := by
  rw [continueRead_eq]
  split
  · rcases deliverNext_cases { s with batch := some e } with ⟨h, -⟩ | ⟨-, h⟩ | ⟨x, rest, -, h⟩
    · cases h
    · exact .inl (by simp [h])
    · exact .inr (by simp [h])
  · exact .inl ⟨hb, rfl⟩

end Fields

theorem readDone_ok {s s' : SecureClient} {outcome : ReadOutcome} {e : List Effect}
    (h : s.readDone outcome = .ok (s', e)) :
    (outcome = .aborted ∧ s.clientState = .pendingStopped ∧
        s' = { s.readTaken with clientState := .stopped, subscriptions := .empty } ∧ e = []) ∨
      (outcome = .failed ∧ s' = s.readTaken ∧
        e = if s.clientState = .running then [.onError .asioError] else []) ∨
      (outcome = .received none ∧ s' = s.readTaken ∧ e = [.onError .invalidMessage]) ∨
      (exists d t e₀, outcome = .received (some d) ∧ s.readTaken.processInput d = .ok (t, e₀) ∧
        (s', e) = t.continueRead d e₀) := by
  unfold readDone at h
  dsimp only at h
  split at h
  · split at h
    · cases h
    · cases h; exact .inl ⟨rfl, of_not_not ‹_›, rfl, rfl⟩
  · cases h; exact .inr (.inl ⟨rfl, rfl, rfl⟩)
  · cases h; exact .inr (.inr (.inl ⟨rfl, rfl, rfl⟩))
  · rename_i d
    rcases hp : (readTaken s).processInput d with f | ⟨t, e₀⟩
    · simp only [readTaken] at hp; simp [hp, Except.map] at h
    · simp only [readTaken] at hp; simp only [hp, Except.map, Except.ok.injEq] at h
      exact .inr (.inr (.inr ⟨d, t, e₀, rfl, by simpa [readTaken] using hp, h.symm⟩))

theorem step_start {s s' : SecureClient} {outcome : StartOutcome} {e : List Effect}
    (h : s.step (.start outcome) = .ok (s', e)) :
    exists ret, s.start outcome = .ok (s', ret) ∧ e = [] := by
  simp only [step] at h
  rcases hs : s.start outcome with f | ⟨t, ret⟩ <;> simp [hs, Except.map] at h
  exact ⟨ret, by rw [h.1], h.2⟩

theorem step_stop {s s' : SecureClient} {cancelled closed : Bool} {e : List Effect}
    (h : s.step (.stop cancelled closed) = .ok (s', e)) :
    exists ret, s.stop cancelled closed = .ok (s', ret) ∧ e = [] := by
  simp only [step] at h
  rcases hs : s.stop cancelled closed with f | ⟨t, ret⟩ <;> simp [hs, Except.map] at h
  exact ⟨ret, by rw [h.1], h.2⟩

theorem step_waitDone {s s' : SecureClient} {e : List Effect}
    (h : s.step .waitDone = .ok (s', e)) :
    s' = { s with waits := s.waits - 1, pings := s.pings + 1 } ∧ e = [.ping] := by
  simp only [step, waitDone, Except.ok.injEq, Prod.mk.injEq] at h
  exact ⟨h.1.symm, h.2.symm⟩

theorem step_dataReturned {s s' : SecureClient} {e : List Effect}
    (h : s.step .dataReturned = .ok (s', e)) : (s', e) = s.deliverNext :=
  (Except.ok.inj h).symm

theorem step_pingDone {s s' : SecureClient} {outcome : PingOutcome} {e : List Effect}
    (h : s.step (.pingDone outcome) = .ok (s', e)) :
    (outcome = .aborted ∧ s' = { s with pings := s.pings - 1 } ∧ e = []) ∨
      (outcome = .failed ∧ s' = { s with pings := s.pings - 1 } ∧
        e = if s.clientState = .running then [.onError .asioError] else []) ∨
      (outcome = .sent ∧ s' = { s with pings := s.pings - 1, waits := s.waits + 1 } ∧
        e = []) := by
  simp only [step, pingDone, Except.ok.injEq] at h
  cases outcome <;> simp only [Prod.mk.injEq] at h <;> obtain ⟨rfl, rfl⟩ := h
  · exact .inl ⟨rfl, rfl, rfl⟩
  · exact .inr (.inl ⟨rfl, rfl, rfl⟩)
  · exact .inr (.inr ⟨rfl, rfl, rfl⟩)

theorem step_registry {s t : SecureClient} {i : Input} {e : List Effect}
    (h : s.step i = .ok (t, e)) :
    (t.requestId = s.requestId ∧ t.subscriptions = s.subscriptions) ∨
    (i = .readDone .aborted ∧ t.requestId = s.requestId ∧ t.subscriptions = .empty) ∨
    (exists channel sub callbacks options, i = .subscribeChannel channel sub callbacks options ∧
      s.clientState = .running ∧ t.requestId = s.requestId + 1 ∧
      t.subscriptions =
        s.subscriptions.emplace channel (pendingRecord channel sub callbacks (s.requestId + 1))) ∨
    (exists sub key v, i = .unsubscribe sub ∧ s.clientState = .running ∧
      s.subscriptions.findSub sub = some (key, v) ∧ t.requestId = s.requestId + 1 ∧
      t.subscriptions = s.subscriptions.modify key (toPendingUnsubscribe (s.requestId + 1))) ∨
    (exists d response id key v, i = .readDone (.received (some d)) ∧
      d.action = some response.action ∧ d.id = some id ∧
      s.subscriptions.findPending id = some (key, v) ∧ v.status = response.required ∧
      t.requestId = s.requestId ∧ t.subscriptions = answered s.subscriptions response key) := by
  cases i with
  | start =>
      obtain ⟨ret, hs', -⟩ := step_start h
      obtain ⟨-, ⟨-, rfl, -⟩ | ⟨-, -, rfl⟩⟩ := start_ok hs' <;> exact .inl ⟨rfl, rfl⟩
  | stop =>
      obtain ⟨ret, hs', -⟩ := step_stop h
      obtain ⟨-, rfl⟩ := stop_ok hs'
      exact .inl ⟨rfl, rfl⟩
  | publish => obtain ⟨rfl, -⟩ := publish_ok h; exact .inl ⟨rfl, rfl⟩
  | subscribeChannel =>
      rcases subscribeChannel_ok h with ⟨-, rfl, -⟩ | ⟨hrun, rfl, -⟩
      · exact .inl ⟨rfl, rfl⟩
      · exact .inr (.inr (.inl ⟨_, _, _, _, rfl, hrun, rfl, rfl⟩))
  | unsubscribe =>
      rcases unsubscribe_ok h with ⟨-, rfl, -⟩ | ⟨hrun, key, v, hf, rfl, -⟩
      · exact .inl ⟨rfl, rfl⟩
      · exact .inr (.inr (.inr (.inl ⟨_, key, v, rfl, hrun, hf, rfl, rfl⟩)))
  | readDone outcome =>
      rcases readDone_ok h with
        ⟨rfl, -, rfl, -⟩ | ⟨-, rfl, -⟩ | ⟨-, rfl, -⟩ | ⟨d, u, e₀, rfl, hu, hc⟩
      · exact .inr (.inl ⟨rfl, rfl, rfl⟩)
      · exact .inl ⟨rfl, rfl⟩
      · exact .inl ⟨rfl, rfl⟩
      · obtain ⟨r', hr', rfl⟩ := processInput_ok hu
        have ht := congrArg Prod.fst hc
        simp only at ht
        subst ht
        rcases Registry.processInput_ok hr' with ⟨rfl, -⟩ | ⟨response, id, hact, hid, ha⟩
        · exact .inl ⟨by simp [readTaken], by simp [readTaken]⟩
        · obtain ⟨key, v, hf, hst, rfl, -⟩ := Registry.answer_ok ha
          exact .inr (.inr (.inr (.inr
            ⟨d, response, id, key, v, rfl, hact, hid, hf, hst, by simp [readTaken], by simp [readTaken]⟩)))
  | waitDone => obtain ⟨rfl, -⟩ := step_waitDone h; exact .inl ⟨rfl, rfl⟩
  | dataReturned =>
      have ht : t = s.deliverNext.1 := congrArg Prod.fst (step_dataReturned h)
      exact .inl ⟨by simp [ht], by simp [ht]⟩
  | pingDone =>
      rcases step_pingDone h with ⟨-, rfl, -⟩ | ⟨-, rfl, -⟩ | ⟨-, rfl, -⟩ <;> exact .inl ⟨rfl, rfl⟩

theorem step_batch {s t : SecureClient} {i : Input} {e : List Effect} (h : s.step i = .ok (t, e))
    (hread : ∀ o, i ≠ .readDone o) (hturn : i ≠ .dataReturned) : t.batch = s.batch := by
  cases i with
  | start =>
      obtain ⟨ret, hs', -⟩ := step_start h
      obtain ⟨-, ⟨-, rfl, -⟩ | ⟨-, -, rfl⟩⟩ := start_ok hs' <;> rfl
  | stop => obtain ⟨ret, hs', -⟩ := step_stop h; obtain ⟨-, rfl⟩ := stop_ok hs'; rfl
  | publish => obtain ⟨rfl, -⟩ := publish_ok h; rfl
  | subscribeChannel => rcases subscribeChannel_ok h with ⟨-, rfl, -⟩ | ⟨-, rfl, -⟩ <;> rfl
  | unsubscribe => rcases unsubscribe_ok h with ⟨-, rfl, -⟩ | ⟨-, -, -, -, rfl, -⟩ <;> rfl
  | readDone o => exact absurd rfl (hread o)
  | waitDone => obtain ⟨rfl, -⟩ := step_waitDone h; rfl
  | pingDone => rcases step_pingDone h with ⟨-, rfl, -⟩ | ⟨-, rfl, -⟩ | ⟨-, rfl, -⟩ <;> rfl
  | dataReturned => exact absurd rfl hturn

end SecureClient

end RtmClient
