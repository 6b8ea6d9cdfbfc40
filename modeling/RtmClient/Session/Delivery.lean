import RtmClient.Session.Invariant

/-!
# Delivery of data to subscribers

`on_data` is called from one place, the loop of the `rtm/subscription/data` branch of
`process_input`, once per message, for the record that was `Current` when the frame was read.
A record becomes `Current` only through the `rtm/subscribe/ok` that matches the id of its
pending subscribe request, and a record that `unsubscribe` has made `PendingUnsubscribe` never
becomes `Current` again, so once a handle is unsubscribed outside a batch no later frame is
delivered to it.

The loop checks the record's status once, before its first message.  A callback that calls
`unsubscribe` or `stop` between two messages does not end the batch: the rest of it is still
delivered, to a record that is no longer `Current`.  `process_input` does not look at the
client state either, so a frame read before `stop` closed the socket is delivered after it.
-/

namespace RtmClient

namespace SecureClient

theorem step_onData {s t : SecureClient} {i : Input} {e : List Effect} {cb : Callbacks}
    {sub : Handle} {m : Payload} (h : s.step i = .ok (t, e)) (hm : .onData cb sub m ∈ e) :
    (exists d c v, i = .readDone (.received (some d)) ∧ d.subscriptionId = some c ∧
      s.subscriptions.find c = some v ∧ v.status = .current ∧ v.sub = sub ∧
      v.callbacks = cb) ∨
    (i = .dataReturned ∧ .onData cb sub m ∈ s.batch.getD []) := by
  cases i with
  | start => obtain ⟨-, -, rfl⟩ := step_start h; cases hm
  | stop => obtain ⟨-, -, rfl⟩ := step_stop h; cases hm
  | publish => obtain ⟨-, rfl | rfl⟩ := publish_ok h <;> simp at hm
  | subscribeChannel =>
      rcases subscribeChannel_ok h with ⟨-, -, rfl⟩ | ⟨-, -, rfl⟩ <;> simp at hm
  | unsubscribe =>
      rcases unsubscribe_ok h with ⟨-, -, rfl⟩ | ⟨-, key, v, -, -, rfl⟩ <;> simp at hm
  | readDone outcome =>
      rcases readDone_ok h with ⟨-, -, -, rfl⟩ | ⟨-, -, rfl⟩ | ⟨-, -, rfl⟩ | ⟨d, u, e₀, rfl, hu, hc⟩
      · cases hm
      · split at hm <;> simp at hm
      · simp at hm
      · obtain ⟨r', hr', rfl⟩ := processInput_ok hu
        rw [show e = _ from congrArg Prod.snd hc] at hm
        obtain ⟨c, v, -, hc, hv, hcur, hsub, hcb⟩ :=
          Registry.processInput_onData hr' ((continueRead_sublist _ d e₀).subset hm)
        exact .inl ⟨d, c, v, rfl, hc, hv, hcur, hsub, hcb⟩
  | waitDone => obtain ⟨-, rfl⟩ := step_waitDone h; simp at hm
  | pingDone =>
      rcases step_pingDone h with ⟨-, -, rfl⟩ | ⟨-, -, rfl⟩ | ⟨-, -, rfl⟩
      · cases hm
      · split at hm <;> simp at hm
      · cases hm
  | dataReturned =>
      rw [show e = _ from congrArg Prod.snd (step_dataReturned h)] at hm
      exact .inr ⟨rfl, (deliverNext_sublist s).subset hm⟩

theorem step_current {s t : SecureClient} {i : Input} {e : List Effect} {c : String}
    {v' : SubscriptionImpl} (h : s.step i = .ok (t, e)) (hv' : (c, v') ∈ t.subscriptions.entries)
    (hcur : v'.status = .current) :
    (c, v') ∈ s.subscriptions.entries ∨
      exists v d id, (c, v) ∈ s.subscriptions.entries ∧ v.status = .pendingSubscribe ∧
        v.pendingRequestId = id ∧ i = .readDone (.received (some d)) ∧
        d.action = some "rtm/subscribe/ok" ∧ d.id = some id := by
  rcases step_registry h with ⟨-, hr⟩ | ⟨-, -, hr⟩ | ⟨_, _, _, _, -, -, -, hr⟩ |
    ⟨_, key, _, -, -, -, -, hr⟩ | ⟨d, response, id, key, v, rfl, hact, hid, hf, hst, -, hr⟩ <;>
    rw [hr] at hv'
  · exact .inl hv'
  · simp [Registry.empty_entries] at hv'
  · rcases Registry.mem_emplace.mp hv' with hv' | ⟨he, -⟩
    · exact .inl hv'
    · cases he; cases hcur
  · rcases Registry.mem_modify.mp hv' with ⟨w, -, he⟩ | ⟨hv', -⟩
    · cases he; simp [toPendingUnsubscribe] at hcur
    · exact .inl hv'
  · cases response with
    | subscribeOk =>
        rcases Registry.mem_modify.mp hv' with ⟨w, hw, he⟩ | ⟨hv', -⟩
        · obtain ⟨hvin, hpend⟩ := Registry.findPending_some hf
          cases he
          cases congrArg Prod.snd (Registry.eq_of_mem_of_mem hw hvin rfl)
          exact .inr ⟨v, d, id, hw, hst, hpend, rfl, hact, hid⟩
        · exact .inl hv'
    | _ => exact .inl (Registry.mem_erase.mp hv').1

/-- Every record owned by `sub` is being unsubscribed, and the batch being delivered holds no
call for `sub`. -/
structure Retired (sub : Handle) (s : SecureClient) : Prop where
  records : ∀ e ∈ s.subscriptions.entries, e.2.sub = sub -> e.2.status = .pendingUnsubscribe
  batch : ∀ cb m, .onData cb sub m ∉ s.batch.getD []

theorem Retired.sub_ne {sub : Handle} {s : SecureClient} {c : String} {v : SubscriptionImpl}
    (hr : Retired sub s) (hv : s.subscriptions.find c = some v) (hcur : v.status = .current) :
    v.sub ≠ sub := fun hsub => by
  have := hr.records _ (Registry.find_some hv) hsub
  rw [hcur] at this; cases this

theorem Retired.records_step {sub : Handle} {s t : SecureClient} {i : Input} {e : List Effect}
    (hr : Retired sub s) (h : s.step i = .ok (t, e))
    (hnew : ∀ c cb o, i ≠ .subscribeChannel c sub cb o) :
    ∀ e ∈ t.subscriptions.entries, e.2.sub = sub -> e.2.status = .pendingUnsubscribe := by
  rcases step_registry h with ⟨-, hr'⟩ | ⟨-, -, hr'⟩ | ⟨c, sub', cb, o, rfl, -, -, hr'⟩ |
    ⟨_, key, _, -, -, -, -, hr'⟩ | ⟨_, response, _, key, v, -, -, -, hf, hst, -, hr'⟩ <;>
    rw [hr'] <;> intro x hx hxs
  · exact hr.records x hx hxs
  · simp [Registry.empty_entries] at hx
  · rcases Registry.mem_emplace.mp hx with hx | ⟨rfl, -⟩
    · exact hr.records x hx hxs
    · cases (show sub' = sub from hxs)
      exact absurd rfl (hnew c cb o)
  · rcases Registry.mem_modify.mp hx with ⟨w, -, rfl⟩ | ⟨hx, -⟩
    · rfl
    · exact hr.records x hx hxs
  · cases response with
    | subscribeOk =>
        rcases Registry.mem_modify.mp hx with ⟨w, hw, rfl⟩ | ⟨hx, -⟩
        · cases congrArg Prod.snd
            (Registry.eq_of_mem_of_mem hw (Registry.findPending_some hf).1 rfl)
          have := hr.records _ hw hxs
          rw [hst] at this; cases this
        · exact hr.records x hx hxs
    | _ => exact hr.records x (Registry.mem_erase.mp hx).1 hxs

theorem Retired.step {sub : Handle} {s t : SecureClient} {i : Input} {e : List Effect}
    (hr : Retired sub s) (hen : s.Enabled i) (h : s.step i = .ok (t, e))
    (hnew : ∀ c cb o, i ≠ .subscribeChannel c sub cb o) :
    Retired sub t ∧ ∀ cb m, .onData cb sub m ∉ e := by
  have hnone : ∀ cb m, .onData cb sub m ∉ e := by
    intro cb m hm
    rcases step_onData h hm with ⟨-, c, v, -, -, hv, hcur, hsub, -⟩ | ⟨-, hb⟩
    · exact hr.sub_ne hv hcur hsub
    · exact hr.batch cb m hb
  refine ⟨⟨hr.records_step h hnew, fun cb m hm => ?_⟩, hnone⟩
  by_cases hturn : i = .dataReturned
  · subst hturn
    rw [show t = _ from congrArg Prod.fst (step_dataReturned h)] at hm
    exact hr.batch cb m (deliverNext_batch s hm)
  by_cases hread : ∃ o, i = .readDone o
  · obtain ⟨o, rfl⟩ := hread
    have hb : s.batch = none := hen.1
    rcases readDone_ok h with ⟨-, -, rfl, -⟩ | ⟨-, rfl, -⟩ | ⟨-, rfl, -⟩ | ⟨d, u, e₀, rfl, hu, hc⟩
    all_goals try simp [readTaken, hb] at hm
    obtain ⟨r', hr', rfl⟩ := processInput_ok hu
    rw [show t = _ from congrArg Prod.fst hc] at hm
    obtain ⟨-, hm⟩ := continueRead_batch { s.readTaken with subscriptions := r' } d e₀ hb hm
    obtain ⟨c, v, -, -, hv, hcur, hsub, -⟩ := Registry.processInput_onData hr' hm
    exact hr.sub_ne hv hcur hsub
  · push_neg at hread
    rw [step_batch h hread hturn] at hm
    exact hr.batch cb m hm

theorem Retired.run {sub : Handle} {s s' : SecureClient} {tr : List (Input × List Effect)}
    (hr : Retired sub s) (h : Run s tr s')
    (hnew : ∀ x ∈ tr, ∀ c cb o, x.1 ≠ .subscribeChannel c sub cb o) :
    ∀ x ∈ tr, ∀ cb m, .onData cb sub m ∉ x.2 := by
  induction h with
  | nil => intro x hx; cases hx
  | @cons s t s' i e rest hen hstep _ ih =>
      obtain ⟨ht, hnone⟩ := hr.step hen hstep (hnew (i, e) (List.mem_cons_self _ _))
      intro x hx
      rcases List.mem_cons.mp hx with rfl | hx
      · exact hnone
      · exact ih ht (fun y hy => hnew y (List.mem_cons_of_mem _ hy)) x hx

theorem unsubscribe_retires {sub : Handle} {s t : SecureClient} {e : List Effect}
    (hrun : s.clientState = .running) (hb : s.batch = none)
    (hone : ∀ a ∈ s.subscriptions.entries, ∀ b ∈ s.subscriptions.entries,
      a.2.sub = sub -> b.2.sub = sub -> a = b)
    (h : s.unsubscribe sub = .ok (t, e)) : Retired sub t := by
  rcases unsubscribe_ok h with ⟨hps, -⟩ | ⟨-, key, v, hfind, rfl, -⟩
  · rw [hrun] at hps; cases hps
  · obtain ⟨hv, hvs⟩ := Registry.findSub_some hfind
    refine ⟨fun x hx hxs => ?_, by simp [hb]⟩
    rcases Registry.mem_modify.mp hx with ⟨w, -, rfl⟩ | ⟨hx, hxk⟩
    · rfl
    · exact absurd (congrArg Prod.fst (hone x hx _ hv hxs hvs)) hxk

theorem unsubscribe_ends_delivery {sub : Handle} {s t : SecureClient} {e : List Effect}
    {tr : List (Input × List Effect)} {s' : SecureClient}
    (hrun : s.clientState = .running) (hb : s.batch = none)
    (hone : ∀ a ∈ s.subscriptions.entries, ∀ b ∈ s.subscriptions.entries,
      a.2.sub = sub -> b.2.sub = sub -> a = b)
    (h : s.unsubscribe sub = .ok (t, e)) (hr : Run t tr s')
    (hnew : ∀ x ∈ tr, ∀ c cb o, x.1 ≠ .subscribeChannel c sub cb o) :
    ∀ x ∈ tr, ∀ cb m, .onData cb sub m ∉ x.2 :=
  (unsubscribe_retires hrun hb hone h).run hr hnew

/-- The session after `start`, a subscription to `"a"` confirmed by the server, an
`unsubscribe` and a `stop` made by the data callback between the messages of one batch, and the
end of that batch. -/
def unsubscribedInBatch : SecureClient :=
  { clientState := .pendingStopped, requestId := 2, reads := 1, waits := 1, pings := 0,
    subscriptions :=
      ⟨[("a",
        { channel := "a", sub := ⟨1⟩, callbacks := ⟨1⟩, status := .pendingUnsubscribe,
          pendingRequestId := 2 })], List.pairwise_singleton _ _⟩ }

/-- The session after `start`, a subscription to `"a"` confirmed by the server, and `stop`,
with the read that completed before the socket was closed still outstanding. -/
def confirmedThenStopped : SecureClient :=
  { clientState := .pendingStopped, requestId := 1, reads := 1, waits := 1, pings := 0,
    subscriptions :=
      ⟨[("a", { channel := "a", sub := ⟨1⟩, callbacks := ⟨1⟩, status := .current })],
        List.pairwise_singleton _ _⟩ }

/-- A batch of three messages for handle 1, whose data callback calls `unsubscribe` after the
first and `stop` after the second: the second and third are still delivered to handle 1.  And a
frame read before `stop` closed the socket is delivered after `stop`. -/
theorem data_after_unsubscribe_delivered :
    Run init
      [(.start .opened, []),
        (.subscribeChannel "a" ⟨1⟩ ⟨1⟩ none, [.write (.subscribe { id := 1, channel := "a" })]),
        (.readDone (.received (some { action := some "rtm/subscribe/ok", id := some 1 })), []),
        (.readDone (.received (some
            { action := some "rtm/subscription/data", subscriptionId := some "a",
              messages := some [⟨"m1"⟩, ⟨"m2"⟩, ⟨"m3"⟩] })),
          [.onData ⟨1⟩ ⟨1⟩ ⟨"m1"⟩]),
        (.unsubscribe ⟨1⟩, [.write (.unsubscribe { id := 2, channel := "a" })]),
        (.dataReturned, [.onData ⟨1⟩ ⟨1⟩ ⟨"m2"⟩]),
        (.stop true true, []),
        (.dataReturned, [.onData ⟨1⟩ ⟨1⟩ ⟨"m3"⟩]),
        (.dataReturned, [])]
      unsubscribedInBatch ∧
    Run init
      [(.start .opened, []),
        (.subscribeChannel "a" ⟨1⟩ ⟨1⟩ none, [.write (.subscribe { id := 1, channel := "a" })]),
        (.readDone (.received (some { action := some "rtm/subscribe/ok", id := some 1 })), []),
        (.stop true true, []),
        (.readDone (.received (some
            { action := some "rtm/subscription/data", subscriptionId := some "a",
              messages := some [⟨"m"⟩] })),
          [.onData ⟨1⟩ ⟨1⟩ ⟨"m"⟩])]
      { confirmedThenStopped with reads := 0, batch := some [] } :=
  ⟨.cons trivial rfl <| .cons trivial rfl <| .cons (by decide) rfl <| .cons (by decide) rfl <|
      .cons trivial rfl <| .cons (by decide) rfl <| .cons trivial rfl <| .cons (by decide) rfl <|
      .cons (by decide) rfl <| .nil _,
    .cons trivial rfl <| .cons trivial rfl <| .cons (by decide) rfl <| .cons trivial rfl <|
      .cons (by decide) rfl <| .nil _⟩

end SecureClient

end RtmClient
