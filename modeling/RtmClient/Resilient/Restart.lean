import RtmClient.Resilient

/-!
# Restarts of the composed client

What the decorator does with the errors its session reports, and what a restart replays.
Every error the session reports restarts the decorator, the request-scoped ones included: the
session is destroyed, and a new session is given the whole replay list.  The request-scoped
errors are reported from inside `process_input`, whose read handler goes on using the destroyed
session once the restart returns.  A handle that was unsubscribed is still in the replay list.
-/

namespace RtmClient

namespace ResilientClient

/-- The requests a replay writes for a replay list, numbered from `n + 1` on. -/
def replayWrites (n : UInt64) : List SubscriptionInfo -> List Effect
  | [] => []
  | si :: rest =>
      .write (.subscribe
        { id := n + 1
          channel := si.channel
          age := si.options.bind fun o => o.history.age
          count := si.options.bind fun o => o.history.count }) :: replayWrites (n + 1) rest

/-- A record that replaying an entry of `subs` made. -/
def Replayed (subs : List SubscriptionInfo) (e : Entry) : Prop :=
  ∃ si ∈ subs, e.1 = si.channel ∧ e.2.sub = si.sub ∧ e.2.callbacks = si.callbacks ∧
    e.2.status = .pendingSubscribe

theorem subscribeChannel_running {s : SecureClient} (hs : s.clientState = .running)
    (si : SubscriptionInfo) :
    s.subscribeChannel si.channel si.sub si.callbacks si.options =
      .ok ({ s with
          requestId := s.requestId + 1
          subscriptions := s.subscriptions.emplace si.channel
            (SecureClient.pendingRecord si.channel si.sub si.callbacks (s.requestId + 1)) },
        replayWrites s.requestId [si]) := by
  simp only [SecureClient.subscribeChannel, SecureClient.whenRunning, hs]
  rfl

theorem replay_ok {s : SecureClient} (hs : s.clientState = .running)
    (subs : List SubscriptionInfo) :
    exists t, replay s subs = .ok (t, replayWrites s.requestId subs) ∧
      t.clientState = .running ∧
      ∀ e ∈ t.subscriptions.entries, e ∈ s.subscriptions.entries ∨ Replayed subs e := by
  induction subs generalizing s with
  | nil => exact ⟨s, rfl, hs, fun e he => .inl he⟩
  | cons si rest ih =>
    obtain ⟨t, ht, hrun, hmem⟩ := ih (s := { s with
      requestId := s.requestId + 1
      subscriptions := s.subscriptions.emplace si.channel
        (SecureClient.pendingRecord si.channel si.sub si.callbacks (s.requestId + 1)) }) hs
    refine ⟨t, ?_, hrun, fun e he => ?_⟩
    · simp only [replay, subscribeChannel_running hs, bind, Except.bind, ht]
      rfl
    · rcases hmem e he with he | ⟨si', hsi', h⟩
      · rcases Registry.mem_emplace.1 he with he | ⟨rfl, -⟩
        · exact .inl he
        · exact .inr ⟨si, List.mem_cons_self _ _, rfl, rfl, rfl, rfl⟩
      · exact .inr ⟨si', List.mem_cons_of_mem _ hsi', h⟩

theorem restart_opened {r : ResilientClient} (h : r.started) :
    exists t, r.restart .opened =
        .ok (r.replaceClient t, (replayWrites 0 r.subscriptions).map .effect) ∧
      t.clientState = .running ∧ ∀ e ∈ t.subscriptions.entries, Replayed r.subscriptions e := by
  obtain ⟨t, ht, hrun, hmem⟩ :=
    replay_ok (s := { factory with clientState := .running, reads := 1, waits := 1 }) rfl
      r.subscriptions
  refine ⟨t, ?_, hrun, fun e he => (hmem e he).resolve_left (by simp [factory, SecureClient.init,
    Registry.empty_entries])⟩
  simp only [restart, h, Bool.not_true, Bool.false_eq_true, ↓reduceIte]
  exact congrArg (Except.map _) ht

theorem absorb_of_no_error (r : ResilientClient) (o : StartOutcome) {e : List Effect}
    (h : ∀ err, .onError err ∉ e) : r.absorb o e = .ok (r, e.map .effect) := by
  induction e with
  | nil => rfl
  | cons x rest ih =>
    have hrest := ih fun err hm => h err (List.mem_cons_of_mem _ hm)
    cases x
    case onError err => exact absurd (List.mem_cons_self _ _) (h err)
    all_goals simp only [absorb, onEffect, bind, Except.bind, hrest]; rfl

theorem complete_of_error {r : ResilientClient} {s t : SecureClient} {i : RtmClient.Input}
    {err : ClientError} (o : StartOutcome) (hu : usesAfterError i = none) (hr : r.client = some s)
    (h : s.step i = .ok (t, [.onError err])) :
    r.step (.complete i o) =
      (({ r with client := some t } : ResilientClient).restart o).map fun p => (p.1, .restart :: p.2) := by
  simp only [step, complete, hr, h, bind, Except.bind, absorb, onEffect, hu]
  cases ({ r with client := some t } : ResilientClient).restart o <;> simp [Except.map]

theorem complete_of_no_error {r : ResilientClient} {s t : SecureClient} {i : RtmClient.Input}
    {e : List Effect} (o : StartOutcome) (hr : r.client = some s) (h : s.step i = .ok (t, e))
    (he : ∀ err, .onError err ∉ e) :
    r.step (.complete i o) = .ok ({ r with client := some t }, e.map .effect) := by
  have hany : e.any Effect.isOnError = false :=
    List.any_eq_false.2 fun x hx => by cases x <;> simp_all [Effect.isOnError]
  simp only [step, complete, hr, h, bind, Except.bind, absorb_of_no_error _ o he]
  split <;> simp [hany]

theorem complete_error_inside {r : ResilientClient} {s t : SecureClient} {d : Document}
    {e : List Effect} (o : StartOutcome) (hr : r.client = some s)
    (h : s.step (.readDone (.received (some d))) = .ok (t, e)) (herr : ∃ err, .onError err ∈ e) :
    ∃ f, r.step (.complete (.readDone (.received (some d))) o) = .error f ∧
      ∀ q, ({ r with client := some t } : ResilientClient).absorb o e = .ok q ->
        f = .useAfterFree (if d.action = some "rtm/subscription/error" then "_ws" else "_subscriptions") := by
  obtain ⟨err, hm⟩ := herr
  have hany : e.any Effect.isOnError = true := List.any_eq_true.2 ⟨_, hm, rfl⟩
  simp only [step, complete, hr, h, bind, Except.bind, usesAfterError, hany, if_true]
  cases ha : ({ r with client := some t } : ResilientClient).absorb o e with
  | error f => exact ⟨f, rfl, fun _ hq => by cases hq⟩
  | ok q => exact ⟨_, rfl, fun _ _ => rfl⟩

theorem errorResponse_reports {s t : SecureClient} {d : Document} {e : List Effect}
    (h : s.step (.readDone (.received (some d))) = .ok (t, e))
    (hd : d.action = some "rtm/subscribe/error" ∨ d.action = some "rtm/unsubscribe/error" ∨
      d.action = some "rtm/subscription/error") :
    exists err, e = [.onError err] := by
  unfold SecureClient.step at h
  rcases SecureClient.readDone_ok h with ⟨hc, -⟩ | ⟨hc, -⟩ | ⟨hc, -⟩ | ⟨d', t', e₀, hc, hp, he⟩
  all_goals cases hc
  have hnd : d.action ≠ some "rtm/subscription/data" := by rcases hd with hd | hd | hd <;> simp [hd]
  rw [SecureClient.continueRead_eq, if_neg hnd] at he
  cases he
  obtain ⟨r', hr', -⟩ := SecureClient.processInput_ok hp
  rcases Registry.processInput_ok hr' with ⟨-, ⟨hdata, -⟩ | ⟨-, rfl⟩⟩ | ⟨response, id, hact, -, ha⟩
  · exact absurd hdata hnd
  · exact ⟨_, rfl⟩
  · obtain ⟨-, -, -, -, -, rfl⟩ := Registry.answer_ok ha
    rw [hact] at hd
    cases response <;> simp [Response.action, Response.report] at hd ⊢

theorem errorResponse_fails {r : ResilientClient} {s t : SecureClient} {d : Document}
    {e : List Effect} (o : StartOutcome) (hr : r.client = some s)
    (h : s.step (.readDone (.received (some d))) = .ok (t, e))
    (hd : d.action = some "rtm/subscribe/error" ∨ d.action = some "rtm/unsubscribe/error" ∨
      d.action = some "rtm/subscription/error") :
    ∃ f, r.step (.complete (.readDone (.received (some d))) o) = .error f := by
  obtain ⟨err, rfl⟩ := errorResponse_reports h hd
  obtain ⟨f, hf, -⟩ := complete_error_inside o hr h ⟨err, List.mem_singleton_self _⟩
  exact ⟨f, hf⟩

/-! ## Runs of the composed client -/

/-- The decorator after `start` and a subscription of handle 1 to `"a"` that the server has
not answered yet. -/
def awaitingA : ResilientClient :=
  { client := some
      { clientState := .running, requestId := 1, reads := 1, waits := 1, pings := 0,
        subscriptions := ⟨[("a",
          { channel := "a", sub := ⟨1⟩, callbacks := ⟨1⟩, status := .pendingSubscribe,
            pendingRequestId := 1 })], List.pairwise_singleton _ _⟩ }
    started := true
    subscriptions := [{ channel := "a", sub := ⟨1⟩, callbacks := ⟨1⟩, options := none }] }

/-- A server that rejects the subscription to `"a"`: `process_input` reports the rejection to
the decorator, whose `restart` destroys the session, and the read handler then erases the
record from the destroyed session. -/
theorem rejected_subscribe_use_after_free :
    Run init
      [(.start .opened, []),
        (.subscribeChannel "a" ⟨1⟩ ⟨1⟩ none,
          [.effect (.write (.subscribe { id := 1, channel := "a" }))])]
      awaitingA ∧
    awaitingA.step (.complete (.readDone (.received (some
        { action := some "rtm/subscribe/error", id := some 1 }))) .opened) =
      .error (.useAfterFree "_subscriptions") :=
  ⟨.cons trivial rfl <| .cons trivial rfl <| .nil _, rfl⟩

/-- Subscribing handle 1 to `"a"`, unsubscribing it, and a read error: the restart subscribes
handle 1 to `"a"` again, from the entry `unsubscribe` left in the replay list. -/
theorem unsubscribed_handle_replayed :
    Run init
      [(.start .opened, []),
        (.subscribeChannel "a" ⟨1⟩ ⟨1⟩ none,
          [.effect (.write (.subscribe { id := 1, channel := "a" }))]),
        (.unsubscribe ⟨1⟩, [.effect (.write (.unsubscribe { id := 2, channel := "a" }))]),
        (.complete (.readDone .failed) .opened,
          [.restart, .effect (.write (.subscribe { id := 1, channel := "a" }))])]
      { awaitingA with stale := { waits := 1 } } :=
  .cons trivial rfl <| .cons trivial rfl <| .cons trivial rfl <| .cons (by decide) rfl <| .nil _

theorem forward_subscriptions {r r' : ResilientClient}
    {call : SecureClient -> Except Failure (SecureClient × List Effect)} {ev : List Event}
    (h : r.forward call = .ok (r', ev)) : r'.subscriptions = r.subscriptions := by
  unfold forward at h
  split at h
  · cases h
  · rcases hc : call _ with f | ⟨s, e⟩ <;> rw [hc] at h <;> cases h
    rfl

theorem unsubscribe_replay_list {r r' : ResilientClient} {sub : Handle} {ev : List Event}
    (h : r.unsubscribe sub = .ok (r', ev)) :
    r'.subscriptions.take (r.subscriptions.filter fun si => !decide (si.sub = sub)).length =
        r.subscriptions.filter (fun si => !decide (si.sub = sub)) ∧
      r'.subscriptions.length = r.subscriptions.length := by
  unfold unsubscribe at h
  rcases hf : r.forward (fun s => s.unsubscribe sub) with f | ⟨t, e⟩ <;> rw [hf] at h <;> cases h
  rw [forward_subscriptions hf]
  exact ⟨removeIf_take _ _ _, length_removeIf _ _ _⟩

/- Subscribing handles 1 and 2 to `"a"` and `"b"`, unsubscribing handle 1, and a read error:
`remove_if` moved the entry of `"b"` to the front and left its moved-from copy, whose channel
is empty, in the last slot, so the restart subscribes handle 2 to `"b"` and to `""`. -/
example :
    exists r, Run init
      [(.start .opened, []),
        (.subscribeChannel "a" ⟨1⟩ ⟨1⟩ none,
          [.effect (.write (.subscribe { id := 1, channel := "a" }))]),
        (.subscribeChannel "b" ⟨2⟩ ⟨2⟩ none,
          [.effect (.write (.subscribe { id := 2, channel := "b" }))]),
        (.unsubscribe ⟨1⟩, [.effect (.write (.unsubscribe { id := 3, channel := "a" }))]),
        (.complete (.readDone .failed) .opened,
          [.restart, .effect (.write (.subscribe { id := 1, channel := "b" })),
            .effect (.write (.subscribe { id := 2, channel := "" }))])] r :=
  ⟨_, .cons trivial rfl <| .cons trivial rfl <| .cons trivial rfl <| .cons trivial rfl <|
    .cons (by decide) rfl <| .nil _⟩

end ResilientClient

end RtmClient
