import RtmClient.Resilient.Restart

/-!
# The replay list over runs

No handler of the decorator shortens its replay list: `restart` and the effects it absorbs keep
it, and `unsubscribe` compacts it in place, so over a run the list holds one entry per
`subscribe_channel` call.  A handle that was unsubscribed keeps its entry, so a channel that was
unsubscribed and subscribed again is named twice.  Replaying such a list subscribes the channel
twice on the new session, which keeps the record of the first request: no record waits on the
second request's id, and the server's `rtm/subscribe/ok` for it makes the session `ABORT`.
-/

namespace RtmClient

namespace ResilientClient

/-- A call of `subscribe_channel`. -/
def Input.isSubscribeChannel : Input -> Bool
  | .subscribeChannel .. => true
  | _ => false

/-- The `subscribe_channel` calls of a trace. -/
def subscribeCalls : List (Input × List Event) -> Nat
  | [] => 0
  | (i, _) :: rest => (if i.isSubscribeChannel then 1 else 0) + subscribeCalls rest

theorem bind_eq_ok {α β : Type} {x : Except Failure α} {f : α -> Except Failure β} {b : β} :
    x >>= f = .ok b ↔ exists a, x = .ok a ∧ f a = .ok b := by
  cases x <;> simp [bind, Except.bind]

theorem map_eq_ok {α β : Type} {x : Except Failure α} {f : α -> β} {b : β} :
    x.map f = .ok b ↔ exists a, x = .ok a ∧ f a = b := by
  cases x <;> simp [Except.map]

theorem complete_ok {r t : ResilientClient} {i : RtmClient.Input} {o : StartOutcome}
    {ev : List Event} (h : r.complete i o = .ok (t, ev)) :
    exists s s' e, r.client = some s ∧ s.step i = .ok (s', e) ∧
      ({ r with client := some s' } : ResilientClient).absorb o e = .ok (t, ev) ∧
      (usesAfterError i = none ∨ e.any Effect.isOnError = false) := by
  unfold complete at h
  split at h
  · cases h
  · rename_i s hs
    obtain ⟨⟨s', e⟩, hstep, h⟩ := bind_eq_ok.1 h
    obtain ⟨q, ha, h⟩ := bind_eq_ok.1 h
    refine ⟨s, s', e, hs, hstep, ?_⟩
    split at h
    · split at h
      · cases h
      · cases h; exact ⟨ha, .inr (Bool.eq_false_iff.2 ‹_›)⟩
    · cases h; exact ⟨ha, .inl ‹_›⟩

theorem staleComplete_ok {r t : ResilientClient} {i : RtmClient.Input} {ev : List Event}
    (h : r.staleComplete i = .ok (t, ev)) :
    staleAccess i = none ∧ t = { r with stale := { r.stale with pings := r.stale.pings - 1 } } ∧
      ev = [] := by
  unfold staleComplete at h
  split at h
  · cases h
  · cases h; exact ⟨‹_›, rfl, rfl⟩

theorem length_replayWrites (n : UInt64) (subs : List SubscriptionInfo) :
    (replayWrites n subs).length = subs.length := by
  induction subs generalizing n with
  | nil => rfl
  | cons si rest ih => simp [replayWrites, ih]

theorem restart_subscriptions {r t : ResilientClient} {o : StartOutcome} {ev : List Event}
    (h : r.restart o = .ok (t, ev)) : t.subscriptions = r.subscriptions := by
  unfold restart at h
  split at h
  · cases h
    rfl
  · split at h
    · cases h
    · cases h
      rfl
    · obtain ⟨_, -, he⟩ := map_eq_ok.1 h
      cases he
      rfl

theorem onEffect_subscriptions {r t : ResilientClient} {o : StartOutcome} {x : Effect}
    {ev : List Event} (h : r.onEffect o x = .ok (t, ev)) : t.subscriptions = r.subscriptions := by
  cases x
  case onError =>
    obtain ⟨_, hr, he⟩ := map_eq_ok.1 h
    cases he
    exact restart_subscriptions hr
  all_goals cases h; rfl

theorem absorb_subscriptions {o : StartOutcome} {e : List Effect} :
    ∀ {r t : ResilientClient} {ev : List Event}, r.absorb o e = .ok (t, ev) ->
      t.subscriptions = r.subscriptions := by
  induction e with
  | nil => intro r t ev h; cases h; rfl
  | cons x rest ih =>
    intro r t ev h
    simp only [absorb, bind_eq_ok] at h
    obtain ⟨⟨r₁, ev₁⟩, hx, _, hr, he⟩ := h
    cases he
    exact (ih hr).trans (onEffect_subscriptions hx)

theorem step_subscriptions_length {r t : ResilientClient} {i : Input} {ev : List Event}
    (h : r.step i = .ok (t, ev)) :
    t.subscriptions.length = r.subscriptions.length + if i.isSubscribeChannel then 1 else 0 := by
  cases i with
  | start outcome =>
    obtain ⟨_, hs, he⟩ := map_eq_ok.1 h
    cases he
    obtain ⟨_, -, rfl⟩ := map_eq_ok.1 hs
    rfl
  | stop cancelled closed =>
    obtain ⟨_, hs, he⟩ := map_eq_ok.1 h
    cases he
    unfold stop at hs
    split at hs
    · cases hs
    · obtain ⟨_, -, rfl⟩ := map_eq_ok.1 hs
      rfl
  | publish => simp [forward_subscriptions h, Input.isSubscribeChannel]
  | subscribeChannel => simp [forward_subscriptions h, Input.isSubscribeChannel]
  | unsubscribe => simp [(unsubscribe_replay_list h).2, Input.isSubscribeChannel]
  | complete i o =>
    obtain ⟨_, _, _, -, -, ha, -⟩ := complete_ok h
    simp [absorb_subscriptions ha, Input.isSubscribeChannel]
  | stale i =>
    obtain ⟨-, rfl, -⟩ := staleComplete_ok h
    simp [Input.isSubscribeChannel]

theorem Run.subscriptions_length {r r' : ResilientClient} {tr : List (Input × List Event)}
    (h : Run r tr r') : r'.subscriptions.length = r.subscriptions.length + subscribeCalls tr := by
  induction h with
  | nil => rfl
  | cons _ hstep _ ih =>
    rw [ih, step_subscriptions_length hstep, subscribeCalls]
    omega

/-- Over every run from construction, the replay list holds one entry per `subscribe_channel`
call, whatever was unsubscribed or restarted since; a restart whose new session opens writes
one `rtm/subscribe` for each of them. -/
theorem replays_every_subscribe_call {tr : List (Input × List Event)} {r : ResilientClient}
    (h : Run init tr r) :
    r.subscriptions.length = subscribeCalls tr ∧
      (r.started -> exists t, r.restart .opened =
          .ok (r.replaceClient t, (replayWrites 0 r.subscriptions).map .effect) ∧
        (replayWrites 0 r.subscriptions).length = subscribeCalls tr) := by
  have hl : r.subscriptions.length = subscribeCalls tr := by
    simpa [init] using h.subscriptions_length
  refine ⟨hl, fun hs => ?_⟩
  obtain ⟨t, ht, -⟩ := restart_opened hs
  exact ⟨t, ht, by rw [length_replayWrites, hl]⟩

theorem unsubscribed_both_replayed :
    let tr : List (Input × List Event) :=
      [(.start .opened, []),
        (.subscribeChannel "a" ⟨1⟩ ⟨1⟩ none,
          [.effect (.write (.subscribe { id := 1, channel := "a" }))]),
        (.subscribeChannel "b" ⟨2⟩ ⟨2⟩ none,
          [.effect (.write (.subscribe { id := 2, channel := "b" }))]),
        (.unsubscribe ⟨1⟩, [.effect (.write (.unsubscribe { id := 3, channel := "a" }))]),
        (.unsubscribe ⟨2⟩, [.effect (.write (.unsubscribe { id := 4, channel := "b" }))])]
    exists r, Run init tr r ∧ r.started = true ∧ subscribeCalls tr = 2 ∧
      (r.subscriptions.length = subscribeCalls tr ∧
        (r.started -> exists t, r.restart .opened =
            .ok (r.replaceClient t, (replayWrites 0 r.subscriptions).map .effect) ∧
          (replayWrites 0 r.subscriptions).length = subscribeCalls tr)) := by
  intro tr
  have h : Run init tr _ := .cons trivial rfl <| .cons trivial rfl <| .cons trivial rfl <|
    .cons trivial rfl <| .cons trivial rfl <| .nil _
  exact ⟨_, h, rfl, rfl, replays_every_subscribe_call h⟩

/-! ## Replaying a channel twice -/

theorem replay_cons {s t : SecureClient} {si : SubscriptionInfo} {rest : List SubscriptionInfo}
    {w : List Effect} (hs : s.clientState = .running) (h : replay s (si :: rest) = .ok (t, w)) :
    exists w', replay { s with
        requestId := s.requestId + 1
        subscriptions := s.subscriptions.emplace si.channel
          (SecureClient.pendingRecord si.channel si.sub si.callbacks (s.requestId + 1)) } rest =
        .ok (t, w') ∧ w = replayWrites s.requestId [si] ++ w' := by
  simp only [replay, subscribeChannel_running hs, bind_eq_ok] at h
  obtain ⟨a, ha, ⟨t', w'⟩, hr, he⟩ := h
  cases ha
  cases he
  exact ⟨w', hr, rfl⟩

theorem replay_append {s t : SecureClient} {l₁ l₂ : List SubscriptionInfo} {w : List Effect}
    (h : replay s (l₁ ++ l₂) = .ok (t, w)) (hs : s.clientState = .running) :
    exists s₁ w₁ w₂, replay s l₁ = .ok (s₁, w₁) ∧ replay s₁ l₂ = .ok (t, w₂) ∧ w = w₁ ++ w₂ := by
  induction l₁ generalizing s w with
  | nil => exact ⟨s, [], w, rfl, h, rfl⟩
  | cons si rest ih =>
    obtain ⟨w', hr, rfl⟩ := replay_cons hs h
    obtain ⟨s₁, w₁, w₂, h₁, h₂, rfl⟩ := ih hr hs
    refine ⟨s₁, replayWrites s.requestId [si] ++ w₁, w₂, ?_, h₂, (List.append_assoc _ _ _).symm⟩
    simp only [replay, subscribeChannel_running hs, bind, Except.bind, h₁]

theorem replay_records {s t : SecureClient} {subs : List SubscriptionInfo} {w : List Effect}
    (h : replay s subs = .ok (t, w)) (hs : s.clientState = .running)
    (hlen : s.requestId.toNat + subs.length < 2 ^ 64) :
    t.clientState = .running ∧ t.requestId.toNat = s.requestId.toNat + subs.length ∧
      (∀ e ∈ s.subscriptions.entries, e ∈ t.subscriptions.entries) ∧
      (∀ e ∈ t.subscriptions.entries, e ∈ s.subscriptions.entries ∨
        (s.requestId.toNat < e.2.pendingRequestId.toNat ∧
          e.2.pendingRequestId.toNat ≤ t.requestId.toNat)) ∧
      ∀ si ∈ subs, si.channel ∈ t.subscriptions.keys := by
  induction subs generalizing s w with
  | nil =>
    cases h
    exact ⟨hs, rfl, fun _ he => he, fun _ he => .inl he, fun _ hsi => nomatch hsi⟩
  | cons si rest ih =>
    obtain ⟨w', hr, -⟩ := replay_cons hs h
    simp only [List.length_cons] at hlen
    have hid : (s.requestId + 1).toNat = s.requestId.toNat + 1 :=
      UInt64.toNat_add_one (by omega)
    obtain ⟨hrun, hn, hkeep, hnew, hkeys⟩ := ih hr hs (by simp only [hid]; omega)
    simp only [hid] at hn hnew
    refine ⟨hrun, by simp only [hn, List.length_cons]; omega,
      fun e he => hkeep e (Registry.mem_emplace.2 (.inl he)), fun e he => ?_, fun si' hsi' => ?_⟩
    · rcases hnew e he with he | ⟨hlo, hhi⟩
      · rcases Registry.mem_emplace.1 he with he | ⟨rfl, -⟩
        · exact .inl he
        · exact .inr ⟨by simp [SecureClient.pendingRecord, hid], by
            simp only [SecureClient.pendingRecord, hid, hn]; omega⟩
      · exact .inr ⟨by omega, hhi⟩
    · rcases List.mem_cons.1 hsi' with rfl | hsi'
      · obtain ⟨v, hv⟩ := Registry.mem_keys.1 (Registry.mem_keys_emplace _ si'.channel
          (SecureClient.pendingRecord si'.channel si'.sub si'.callbacks (s.requestId + 1)))
        exact Registry.mem_keys.2 ⟨v, hkeep _ hv⟩
      · exact hkeys si' hsi'

theorem restart_opened_eq {r : ResilientClient} (h : r.started) :
    r.restart .opened =
      (replay { factory with clientState := .running, reads := 1, waits := 1 } r.subscriptions).map
        fun p => (r.replaceClient p.1, p.2.map .effect) := by
  simp only [restart, h, Bool.not_true, Bool.false_eq_true, ↓reduceIte]
  rfl

theorem replay_shadowed {s t : SecureClient} {y : SubscriptionInfo} {post : List SubscriptionInfo}
    {w : List Effect} (h : replay s (y :: post) = .ok (t, w)) (hs : s.clientState = .running)
    (hlen : s.requestId.toNat + (post.length + 1) < 2 ^ 64)
    (hkey : y.channel ∈ s.subscriptions.keys)
    (hle : ∀ e ∈ s.subscriptions.entries, e.2.pendingRequestId.toNat ≤ s.requestId.toNat) :
    (exists w', w = replayWrites s.requestId [y] ++ w') ∧
      ∀ e ∈ t.subscriptions.entries, e.2.pendingRequestId ≠ s.requestId + 1 := by
  obtain ⟨w', hr, hw⟩ := replay_cons hs h
  have hid : (s.requestId + 1).toNat = s.requestId.toNat + 1 := UInt64.toNat_add_one (by omega)
  obtain ⟨-, -, -, hnew, -⟩ := replay_records hr hs (by simp only [hid]; omega)
  refine ⟨⟨w', hw⟩, fun e he heq => ?_⟩
  have heq := congrArg UInt64.toNat heq
  rcases hnew e he with he | ⟨hlo, -⟩
  · rcases Registry.mem_emplace.1 he with he | ⟨-, hnot⟩
    · have := hle e he
      omega
    · exact hnot hkey
  · simp only [hid] at hlo
    omega

/-- A replay list that names a channel in an entry `y` after an entry `x`, as it does after a
handle was unsubscribed and its channel subscribed again: a restart whose new session opens
writes an `rtm/subscribe` for `y` that no record of the new session waits on, since the record
of `x` keeps the channel, and the server's `rtm/subscribe/ok` for it makes the session
`ABORT`. -/
theorem replay_repeated_channel_aborts {r : ResilientClient}
    {pre mid post : List SubscriptionInfo} {x y : SubscriptionInfo} (h : r.started)
    (hsubs : r.subscriptions = pre ++ x :: mid ++ y :: post) (hch : y.channel = x.channel)
    (hlen : r.subscriptions.length < 2 ^ 64) :
    exists t q, r.restart .opened =
        .ok (r.replaceClient t, (replayWrites 0 r.subscriptions).map .effect) ∧
      .write (.subscribe q) ∈ replayWrites 0 r.subscriptions ∧ q.channel = x.channel ∧
      t.processInput { action := some "rtm/subscribe/ok", id := some q.id } =
        .error (.abort "got unexpected subscribe confirmation") := by
  set s₀ : SecureClient := { factory with clientState := .running, reads := 1, waits := 1 }
  have h0 : s₀.requestId = 0 := rfl
  have h00 : factory.requestId.toNat = 0 := rfl
  obtain ⟨t, ht, -, -⟩ := replay_ok (s := s₀) rfl r.subscriptions
  have hrestart := restart_opened_eq h
  rw [ht] at hrestart
  rw [hsubs, h0] at ht
  rw [hsubs] at hlen
  simp only [List.length_append, List.length_cons] at hlen
  -- the entries up to `x` leave a record on the channel, waiting on an id issued so far
  obtain ⟨sA, wA, wB, hA, hB, hw⟩ := replay_append ht rfl
  obtain ⟨hArun, hAn, -, hAnew, hAkeys⟩ := replay_records hA rfl (by
    simp only [h0, h00, List.length_append, List.length_cons]
    omega)
  simp only [h0, h00, List.length_append, List.length_cons] at hAn
  obtain ⟨⟨wT, hwB⟩, hnone⟩ := replay_shadowed hB hArun (by omega)
    (hch ▸ hAkeys x (by simp))
    fun e he => (hAnew e he).elim (fun he => absurd he (List.not_mem_nil e)) And.right
  refine ⟨t, { id := sA.requestId + 1, channel := y.channel
               age := y.options.bind fun o => o.history.age
               count := y.options.bind fun o => o.history.count },
    hrestart, ?_, hch, ?_⟩
  · rw [hsubs, hw, hwB]
    simp [replayWrites]
  · simp [SecureClient.processInput, Registry.processInput, Registry.answerDocument,
      Registry.answer, Registry.findPending_eq_none hnone, Response.unexpected, Except.map]

theorem resubscribed_channel_aborts :
    let tr : List (Input × List Event) :=
      [(.start .opened, []),
        (.subscribeChannel "a" ⟨1⟩ ⟨1⟩ none,
          [.effect (.write (.subscribe { id := 1, channel := "a" }))]),
        (.complete (.readDone (.received (some { action := some "rtm/subscribe/ok", id := some 1 })))
          .opened, []),
        (.unsubscribe ⟨1⟩, [.effect (.write (.unsubscribe { id := 2, channel := "a" }))]),
        (.complete
          (.readDone (.received (some { action := some "rtm/unsubscribe/ok", id := some 2 })))
          .opened, []),
        (.subscribeChannel "a" ⟨2⟩ ⟨2⟩ none,
          [.effect (.write (.subscribe { id := 3, channel := "a" }))])]
    let r : ResilientClient :=
      { client := some
          { clientState := .running, requestId := 3, reads := 1, waits := 1, pings := 0,
            subscriptions := ⟨[("a",
              { channel := "a", sub := ⟨2⟩, callbacks := ⟨2⟩, status := .pendingSubscribe,
                pendingRequestId := 3 })], List.pairwise_singleton _ _⟩ }
        started := true
        subscriptions := [⟨"a", ⟨1⟩, ⟨1⟩, none⟩, ⟨"a", ⟨2⟩, ⟨2⟩, none⟩] }
    Run init tr r ∧ r.started = true ∧
      r.subscriptions = [] ++ ⟨"a", ⟨1⟩, ⟨1⟩, none⟩ :: [] ++ ⟨"a", ⟨2⟩, ⟨2⟩, none⟩ :: [] ∧
      r.subscriptions.length < 2 ^ 64 ∧
      exists t q, r.restart .opened =
          .ok (r.replaceClient t, (replayWrites 0 r.subscriptions).map .effect) ∧
        .write (.subscribe q) ∈ replayWrites 0 r.subscriptions ∧ q.channel = "a" ∧
        t.processInput { action := some "rtm/subscribe/ok", id := some q.id } =
          .error (.abort "got unexpected subscribe confirmation") := by
  intro tr r
  have hsubs : r.subscriptions =
      [] ++ ⟨"a", ⟨1⟩, ⟨1⟩, none⟩ :: [] ++ ⟨"a", ⟨2⟩, ⟨2⟩, none⟩ :: [] := rfl
  have hlen : r.subscriptions.length < 2 ^ 64 := by simp [r]
  exact ⟨.cons trivial rfl <| .cons trivial rfl <| .cons (by decide) rfl <| .cons trivial rfl <|
      .cons (by decide) rfl <| .cons trivial rfl <| .nil _,
    rfl, hsubs, hlen, replay_repeated_channel_aborts rfl hsubs rfl hlen⟩

end ResilientClient

end RtmClient
