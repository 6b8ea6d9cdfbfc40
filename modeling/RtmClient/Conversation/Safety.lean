import RtmClient.Conversation

/-!
# Correlation safety of a conversation

Under the confirmed rules every document the session reads is processed without a failing
`CHECK` or an `ABORT`.  The invariant is per channel.  A channel's lane is the session's record
for it, the requests about it that the server has not read, the messages about it that the
session has not read, and whether the server has it subscribed; every lane is in one of seven
shapes, from `idle` through a subscription's request, answer and confirmation to its
unsubscribe request and answer.  Each step moves one lane to a next shape and leaves the
others as they were.  Together with the registry invariant, which makes pending ids unique,
this matches every answer to the record that sent its request.

Under the stated rules both promises are too weak: an unsubscribe before the confirmation
overwrites the pending id the confirmation carries, and data the server still sends after an
`rtm/unsubscribe/error` arrives for an erased record.
-/

namespace RtmClient

namespace Conversation

open SecureClient (RecordsInv)

/-- Messages that are all data. -/
def AllData (ds : List ServerMessage) : Prop :=
  ∀ m ∈ ds, exists channel messages, m = .data channel messages

/-- The shapes of one channel's lane: the session's record, the requests the server has not
read, the messages the session has not read, and whether the server has it subscribed. -/
inductive Lane : Option SubscriptionImpl -> List Request -> List ServerMessage -> Bool -> Prop
  | idle : Lane none [] [] false
  | requested {v : SubscriptionImpl} {q : SubscribeRequest} :
      v.status = .pendingSubscribe -> v.pendingRequestId = q.id ->
      Lane (some v) [.subscribe q] [] false
  | accepted {v : SubscriptionImpl} {q : SubscribeRequest} {ds : List ServerMessage} :
      v.status = .pendingSubscribe -> v.pendingRequestId = q.id -> AllData ds ->
      Lane (some v) [] (.subscribeAnswer q true :: ds) true
  | rejected {v : SubscriptionImpl} {q : SubscribeRequest} :
      v.status = .pendingSubscribe -> v.pendingRequestId = q.id ->
      Lane (some v) [] [.subscribeAnswer q false] false
  | current {v : SubscriptionImpl} {ds : List ServerMessage} :
      v.status = .current -> AllData ds -> Lane (some v) [] ds true
  | leaving {v : SubscriptionImpl} {q : UnsubscribeRequest} {ds : List ServerMessage} :
      v.status = .pendingUnsubscribe -> v.pendingRequestId = q.id -> AllData ds ->
      Lane (some v) [.unsubscribe q] ds true
  | left {v : SubscriptionImpl} {q : UnsubscribeRequest} {ds : List ServerMessage}
      {accepted : Bool} :
      v.status = .pendingUnsubscribe -> v.pendingRequestId = q.id -> AllData ds ->
      Lane (some v) [] (ds ++ [.unsubscribeAnswer q accepted]) false

/-- The lane of the channel `ch`. -/
def lane (c : Conversation) (ch : String) : Prop :=
  Lane (c.client.subscriptions.find ch) (c.toServer.filter (·.channel = ch))
    (c.toClient.filter (·.channel = ch)) (decide (ch ∈ c.subscribed))

/-- The invariant of a conversation under the confirmed rules. -/
structure Safe (c : Conversation) : Prop where
  running : c.client.clientState = .running
  bounded : c.client.requestId.toNat < 2 ^ 64 - 1
  records : RecordsInv c.client.requestId c.client.subscriptions
  lanes : ∀ ch, c.lane ch

theorem allData_append {ds ds' : List ServerMessage} (h : AllData ds) (h' : AllData ds') :
    AllData (ds ++ ds') := fun m hm => (List.mem_append.1 hm).elim (h m) (h' m)

theorem allData_data (channel : String) (messages : List Payload) :
    AllData [.data channel messages] := fun _ hm => ⟨channel, messages, List.mem_singleton.1 hm⟩

theorem lane_of_eq {c c' : Conversation} {ch : String} (h : c.lane ch)
    (hf : c'.client.subscriptions.find ch = c.client.subscriptions.find ch)
    (hq : c'.toServer.filter (·.channel = ch) = c.toServer.filter (·.channel = ch))
    (hm : c'.toClient.filter (·.channel = ch) = c.toClient.filter (·.channel = ch))
    (hsrv : ch ∈ c'.subscribed ↔ ch ∈ c.subscribed) : c'.lane ch := by
  unfold lane
  rwa [hf, hq, hm, decide_eq_decide.2 hsrv]

theorem filter_append_other {α : Type} {p : α -> Bool} (l : List α) {x : α} (hx : p x = false) :
    (l ++ [x]).filter p = l.filter p := by
  simp [hx]

theorem filter_append_self {α : Type} {p : α -> Bool} (l : List α) {x : α} (hx : p x = true) :
    (l ++ [x]).filter p = l.filter p ++ [x] := by
  simp [hx]

/-- A lane's record after the session processes the answer to its pending request. -/
def afterAnswer (response : Response) (v : SubscriptionImpl) : Option SubscriptionImpl :=
  match response with
  | .subscribeOk => some (SecureClient.toCurrent v)
  | _ => none

/-! ## One lane

Each kind of step moves the lane it touches from one shape to the next. -/

namespace Lane

variable {rec : Option SubscriptionImpl} {reqs : List Request} {msgs : List ServerMessage}
  {srv : Bool}

theorem of_none (h : Lane none reqs msgs srv) : reqs = [] ∧ msgs = [] ∧ srv = false := by
  cases h
  exact ⟨rfl, rfl, rfl⟩

theorem of_current {v : SubscriptionImpl} (h : Lane (some v) reqs msgs srv)
    (hv : v.status = .current) : reqs = [] ∧ srv = true ∧ AllData msgs := by
  cases h
  case current hds => exact ⟨rfl, rfl, hds⟩
  all_goals simp_all

theorem serve {q : Request} {rest : List Request} (h : Lane rec (q :: rest) msgs srv) :
    (exists v q', rec = some v ∧ q = .subscribe q' ∧ rest = [] ∧ msgs = [] ∧ srv = false ∧
      v.status = .pendingSubscribe ∧ v.pendingRequestId = q'.id) ∨
    (exists v q', rec = some v ∧ q = .unsubscribe q' ∧ rest = [] ∧ srv = true ∧
      v.status = .pendingUnsubscribe ∧ v.pendingRequestId = q'.id ∧ AllData msgs) := by
  cases h with
  | requested hst hid => exact .inl ⟨_, _, rfl, rfl, rfl, rfl, rfl, hst, hid⟩
  | leaving hst hid hds => exact .inr ⟨_, _, rfl, rfl, rfl, rfl, hst, hid, hds⟩

theorem send (h : Lane rec reqs msgs true) {m : ServerMessage} (hm : AllData [m]) :
    Lane rec reqs (msgs ++ [m]) true := by
  cases h with
  | accepted hst hid hds => exact .accepted hst hid (allData_append hds hm)
  | current hst hds => exact .current hst (allData_append hds hm)
  | leaving hst hid hds => exact .leaving hst hid (allData_append hds hm)

theorem read {m : ServerMessage} {rest : List ServerMessage} (h : Lane rec reqs (m :: rest) srv) :
    (exists v, rec = some v ∧ (v.status = .current ∨ v.status = .pendingUnsubscribe) ∧
      (exists channel messages, m = .data channel messages) ∧ Lane rec reqs rest srv) ∨
    (exists v response, rec = some v ∧
      m.document = { action := some response.action, id := some v.pendingRequestId } ∧
      v.status = response.required ∧ Lane (afterAnswer response v) reqs rest srv) := by
  generalize hm : m :: rest = msgs at h
  cases h with
  | idle => cases hm
  | requested => cases hm
  | accepted hst hid hds =>
    cases hm
    exact .inr ⟨_, .subscribeOk, rfl, by rw [hid]; rfl, hst, .current rfl hds⟩
  | rejected hst hid =>
    cases hm
    exact .inr ⟨_, .subscribeError, rfl, by rw [hid]; rfl, hst, .idle⟩
  | current hst hds =>
    subst hm
    exact .inl ⟨_, rfl, .inl hst, hds m (List.mem_cons_self _ _),
      .current hst fun x hx => hds x (List.mem_cons_of_mem _ hx)⟩
  | leaving hst hid hds =>
    subst hm
    exact .inl ⟨_, rfl, .inr hst, hds m (List.mem_cons_self _ _),
      .leaving hst hid fun x hx => hds x (List.mem_cons_of_mem _ hx)⟩
  | @left v q ds accepted hst hid hds =>
    cases ds with
    | nil =>
      cases hm
      cases accepted
      · exact .inr ⟨_, .unsubscribeError, rfl, by rw [hid]; rfl, hst, .idle⟩
      · exact .inr ⟨_, .unsubscribeOk, rfl, by rw [hid]; rfl, hst, .idle⟩
    | cons d ds =>
      cases hm
      exact .inl ⟨_, rfl, .inr hst, hds _ (List.mem_cons_self _ _),
        .left hst hid fun x hx => hds x (List.mem_cons_of_mem _ hx)⟩

end Lane

/-! ## Reading a message -/

theorem find_answered_self {r : Registry} {ch : String} {v : SubscriptionImpl}
    (response : Response) (hv : r.find ch = some v) :
    (SecureClient.answered r response ch).find ch = afterAnswer response v := by
  cases response
  case subscribeOk => exact Registry.find_modify_self hv
  all_goals exact Registry.find_erase_self r ch

theorem find_answered_ne {r : Registry} {ch ch' : String} (response : Response) (h : ch' ≠ ch) :
    (SecureClient.answered r response ch).find ch' = r.find ch' := by
  cases response
  case subscribeOk => exact Registry.find_modify_ne h
  all_goals exact Registry.find_erase_ne h

theorem processInput_answer {r : Registry} {response : Response} {id : UInt64} {ch : String}
    {v : SubscriptionImpl} (hf : r.findPending id = some (ch, v))
    (hst : v.status = response.required) :
    r.processInput { action := some response.action, id := some id } =
      .ok (SecureClient.answered r response ch, response.report.toList.map .onError) := by
  cases response <;>
    simp [Registry.processInput, Response.action, Registry.answerDocument, Registry.answer, hf,
      hst, SecureClient.answered, Response.report]
  rfl

theorem processInput_data_eq {r : Registry} {ch : String} {v : SubscriptionImpl}
    (ms : List Payload) (hv : r.find ch = some v) :
    r.processInput (ServerMessage.data ch ms).document =
      match v.status with
      | .current => .ok (r, ms.map (.onData v.callbacks v.sub))
      | .pendingUnsubscribe => .ok (r, [])
      | .pendingSubscribe =>
          .error (.check "sub.status == Current || sub.status == PendingUnsubscribe") := by
  simp only [Registry.processInput, ServerMessage.document, Registry.deliver, hv]
  cases v.status <;> rfl

theorem processInput_data {r : Registry} {ch : String} {v : SubscriptionImpl} (ms : List Payload)
    (hv : r.find ch = some v) (hst : v.status = .current ∨ v.status = .pendingUnsubscribe) :
    exists e, r.processInput (ServerMessage.data ch ms).document = .ok (r, e) := by
  rw [processInput_data_eq ms hv]
  rcases hst with hst | hst <;> rw [hst] <;> exact ⟨_, rfl⟩

theorem Safe.lane_head {c : Conversation} {m : ServerMessage} {rest : List ServerMessage}
    (hs : c.Safe) (hC : c.toClient = m :: rest) :
    Lane (c.client.subscriptions.find m.channel) (c.toServer.filter (·.channel = m.channel))
      (m :: rest.filter (·.channel = m.channel)) (decide (m.channel ∈ c.subscribed)) := by
  have hl := hs.lanes m.channel
  unfold lane at hl
  rwa [hC, List.filter_cons_of_pos (by simp)] at hl

theorem Safe.findPending {c : Conversation} {ch : String} {v : SubscriptionImpl}
    {response : Response} (hs : c.Safe) (hv : c.client.subscriptions.find ch = some v)
    (hst : v.status = response.required) :
    c.client.subscriptions.findPending v.pendingRequestId = some (ch, v) := by
  have hmem := Registry.find_some hv
  have hpending : v.status = .pendingSubscribe ∨ v.status = .pendingUnsubscribe := by
    cases response <;> simp_all [Response.required]
  have hle := (hs.records.pendingIssued _ hmem hpending).2
  have hmax : v.pendingRequestId ≠ UINT64_MAX := fun h => by
    have := UInt64.eq_max_iff.1 h
    have := hs.bounded
    simp only at hle
    omega
  exact Registry.findPending_of_mem hmem fun a ha hid =>
    hs.records.pendingUnique a ha _ hmem hid (hid ▸ hmax)

theorem Safe.read {c : Conversation} {m : ServerMessage} {rest : List ServerMessage}
    (hs : c.Safe) (hC : c.toClient = m :: rest) :
    exists r' e, c.client.subscriptions.processInput m.document = .ok (r', e) ∧
      ({ c with client := { c.client with subscriptions := r' }, toClient := rest } :
        Conversation).Safe := by
  have hl := hs.lane_head hC
  have hothers : ∀ ch, ch ≠ m.channel ->
      (rest.filter (·.channel = ch)) = c.toClient.filter (·.channel = ch) := fun ch hch => by
    rw [hC, List.filter_cons_of_neg (by simpa using Ne.symm hch)]
  rcases hl.read with ⟨v, hv, hst, ⟨ch, ms, rfl⟩, hl'⟩ | ⟨v, response, hv, hdoc, hst, hl'⟩
  · obtain ⟨e, he⟩ := processInput_data ms hv hst
    refine ⟨_, e, he, hs.running, hs.bounded, hs.records, fun ch' => ?_⟩
    by_cases hch : ch' = ch
    · subst hch
      exact hl'
    · exact lane_of_eq (hs.lanes ch') rfl rfl (hothers ch' hch) Iff.rfl
  · refine ⟨SecureClient.answered _ response m.channel, _,
      hdoc ▸ processInput_answer (hs.findPending hv hst) hst, hs.running, hs.bounded,
      hs.records.answered, fun ch' => ?_⟩
    by_cases hch : ch' = m.channel
    · subst hch
      unfold lane
      rw [find_answered_self response hv]
      exact hl'
    · exact lane_of_eq (hs.lanes ch') (find_answered_ne response hch) rfl (hothers ch' hch)
        Iff.rfl

theorem Safe.answer_matched {c : Conversation} {m : ServerMessage} {rest : List ServerMessage}
    (hs : c.Safe) (hC : c.toClient = m :: rest) {response : Response} {id : UInt64}
    (hd : m.document = { action := some response.action, id := some id }) :
    exists v, c.client.subscriptions.findPending id = some (m.channel, v) ∧
      v.status = response.required := by
  rcases (hs.lane_head hC).read with ⟨-, -, -, ⟨ch, ms, rfl⟩, -⟩ | ⟨v, response', hv, hdoc, hst, -⟩
  · cases response <;> simp [ServerMessage.document, Response.action] at hd
  · rw [hd] at hdoc
    simp only [Document.mk.injEq, Option.some.injEq, true_and, and_true] at hdoc
    obtain ⟨hact, rfl⟩ := hdoc
    cases Response.action_injective hact
    exact ⟨v, hs.findPending hv hst, hst⟩

/-! ## The server -/

theorem Safe.serve {c : Conversation} {q : Request} {rest : List Request} (hs : c.Safe)
    (hS : c.toServer = q :: rest) (accepted : Bool) :
    ({ c with
        toServer := rest
        toClient := c.toClient ++ (Rules.confirmed.serve c.subscribed accepted q).1.toList
        subscribed := (Rules.confirmed.serve c.subscribed accepted q).2 } : Conversation).Safe := by
  refine ⟨hs.running, hs.bounded, hs.records, fun ch => ?_⟩
  have hl := hs.lanes q.channel
  unfold lane at hl
  rw [hS, List.filter_cons_of_pos (by simp)] at hl
  by_cases hch : ch = q.channel
  · subst hch
    unfold lane
    rcases hl.serve with ⟨v, q', hv, rfl, hrest, hmsgs, hsrv, hst, hid⟩ |
      ⟨v, q', hv, rfl, hrest, hsrv, hst, hid, hds⟩
    · simp only [Rules.serve, Option.toList, hv, hrest]
      rw [filter_append_self _ (by simp [ServerMessage.channel, Request.channel]), hmsgs]
      cases accepted
      · have : q'.channel ∉ c.subscribed := by simpa [Request.channel] using hsrv
        simpa [this, Request.channel] using Lane.rejected hst hid
      · simpa [Request.channel] using @Lane.accepted _ _ [] hst hid (fun _ h => nomatch h)
    · simp only [Rules.serve, Option.toList, hv, hrest, Rules.confirmed, Bool.or_true, ↓reduceIte]
      rw [filter_append_self _ (by simp [ServerMessage.channel, Request.channel])]
      simpa [Request.channel] using @Lane.left _ _ _ accepted hst hid hds
  · refine lane_of_eq (hs.lanes ch) rfl ?_ ?_ ?_
    · rw [hS, List.filter_cons_of_neg (by simpa using Ne.symm hch)]
    · cases q <;> simp only [Request.channel] at hch <;>
        simp [Rules.serve, ServerMessage.channel, Ne.symm hch]
    · cases q <;> simp only [Request.channel] at hch <;> cases accepted <;>
        simp [Rules.serve, Rules.confirmed, hch]

theorem Safe.send {c : Conversation} {channel : String} (hs : c.Safe) (hch : channel ∈ c.subscribed)
    (messages : List Payload) :
    ({ c with toClient := c.toClient ++ [.data channel messages] } : Conversation).Safe := by
  refine ⟨hs.running, hs.bounded, hs.records, fun ch => ?_⟩
  by_cases h : ch = channel
  · subst h
    have hl := hs.lanes ch
    unfold lane at hl ⊢
    rw [decide_eq_true hch] at hl ⊢
    rw [filter_append_self _ (by simp [ServerMessage.channel])]
    exact hl.send (allData_data ch messages)
  · exact lane_of_eq (hs.lanes ch) rfl rfl
      (filter_append_other _ (by simp [ServerMessage.channel, Ne.symm h])) Iff.rfl

/-! ## The caller -/

theorem Safe.subscribe {c : Conversation} {channel : String} {sub : Handle}
    {callbacks : Callbacks} {options : Option SubscriptionOptions} {s : SecureClient}
    {e : List Effect} (hs : c.Safe)
    (ha : Rules.confirmed.Allows c.client (.subscribeChannel channel sub callbacks options))
    (h : c.client.subscribeChannel channel sub callbacks options = .ok (s, e)) :
    ({ c with client := s, toServer := c.toServer ++ written e } : Conversation).Safe := by
  obtain ⟨hnot, hbound⟩ := ha
  rcases SecureClient.subscribeChannel_ok h with ⟨hps, -⟩ | ⟨-, rfl, rfl⟩
  · exact absurd (hs.running.symm.trans hps) (by decide)
  refine ⟨hs.running, by rw [UInt64.toNat_add_one (by omega)]; omega,
    hs.records.emplace hbound, fun ch => ?_⟩
  by_cases hch : ch = channel
  · subst hch
    have hnone : c.client.subscriptions.find ch = none :=
      Option.eq_none_iff_forall_not_mem.2 fun v hv =>
        hnot (Registry.mem_keys.2 ⟨v, Registry.find_some (Option.mem_def.1 hv)⟩)
    have hl := hs.lanes ch
    unfold lane at hl ⊢
    rw [hnone] at hl
    obtain ⟨hreqs, hmsgs, hsrv⟩ := hl.of_none
    rw [Registry.find_emplace_self hnot, hmsgs, hsrv]
    rw [written_write, filter_append_self _ (by simp [Request.channel]), hreqs]
    exact .requested rfl rfl
  · refine lane_of_eq (hs.lanes ch) (Registry.find_emplace_ne hch) ?_ rfl Iff.rfl
    exact filter_append_other _ (by simp [Request.channel, Ne.symm hch])

theorem Safe.unsubscribe {c : Conversation} {sub : Handle} {s : SecureClient} {e : List Effect}
    (hs : c.Safe) (ha : Rules.confirmed.Allows c.client (.unsubscribe sub))
    (h : c.client.unsubscribe sub = .ok (s, e)) :
    ({ c with client := s, toServer := c.toServer ++ written e } : Conversation).Safe := by
  obtain ⟨⟨key, v, hfind, hcur⟩, hbound⟩ := ha
  rcases SecureClient.unsubscribe_ok h with ⟨hps, -⟩ | ⟨-, key', v', hfind', rfl, rfl⟩
  · exact absurd (hs.running.symm.trans hps) (by decide)
  rw [hfind] at hfind'
  cases hfind'
  have hv : c.client.subscriptions.find key = some v :=
    Registry.find_eq_some_iff.2 (Registry.findSub_some hfind).1
  refine ⟨hs.running, by rw [UInt64.toNat_add_one (by omega)]; omega,
    hs.records.modify_unsubscribe hbound, fun ch => ?_⟩
  by_cases hch : ch = key
  · subst hch
    have hl := hs.lanes ch
    unfold lane at hl ⊢
    rw [hv] at hl
    obtain ⟨hreqs, hsrv, hds⟩ := hl.of_current (by simpa [Rules.confirmed] using hcur)
    rw [Registry.find_modify_self hv, hsrv]
    rw [written_write, filter_append_self _ (by simp [Request.channel]), hreqs]
    exact .leaving rfl rfl hds
  · refine lane_of_eq (hs.lanes ch) (Registry.find_modify_ne hch) ?_ rfl Iff.rfl
    exact filter_append_other _ (by simp [Request.channel, Ne.symm hch])

/-! ## Runs -/

theorem safe_start : start.Safe :=
  ⟨rfl, by decide, RecordsInv.empty, fun _ => .idle⟩

theorem Safe.step {c c' : Conversation} (hs : c.Safe) (h : Step Rules.confirmed c c') :
    c'.Safe := by
  cases h with
  | @call i s e ha hstep =>
    cases i
    case subscribeChannel => exact hs.subscribe ha hstep
    case unsubscribe => exact hs.unsubscribe ha hstep
    all_goals exact ha.elim
  | serve accepted hS => exact hs.serve hS accepted
  | send channel messages hch => exact hs.send hch messages
  | @read m rest s e hC hp =>
    obtain ⟨r', e', hr, hsafe⟩ := hs.read hC
    simp only [SecureClient.processInput, hr, Except.map, Except.ok.injEq, Prod.mk.injEq] at hp
    rw [← hp.1]
    exact hsafe

theorem reachable_safe {c : Conversation} (h : Reachable Rules.confirmed c) : c.Safe := by
  induction h with
  | start => exact safe_start
  | step _ hstep ih => exact ih.step hstep

/-! ## Every read of a conversation

Under the confirmed rules every document the session reads is processed without a failing
`CHECK` or an `ABORT`, and every answer finds the record that sent its request. -/

theorem confirmed_reads_succeed {c : Conversation} (h : Reachable Rules.confirmed c)
    {m : ServerMessage} {rest : List ServerMessage} (hC : c.toClient = m :: rest) :
    (exists s e, c.client.processInput m.document = .ok (s, e)) ∧
    ∀ (response : Response) id, m.document = { action := some response.action, id := some id } ->
      exists v, c.client.subscriptions.findPending id = some (m.channel, v) ∧
        v.status = response.required := by
  have hs := reachable_safe h
  obtain ⟨r', e, hr, -⟩ := hs.read hC
  exact ⟨⟨_, e, by rw [SecureClient.processInput, hr]; rfl⟩,
    fun _ _ hd => hs.answer_matched hC hd⟩

theorem subscribeOk_read :
    let c : Conversation :=
      { client :=
          { clientState := .running, requestId := 1, reads := 1, waits := 1, pings := 0,
            subscriptions := ⟨[("a",
              { channel := "a", sub := ⟨1⟩, callbacks := ⟨1⟩, status := .pendingSubscribe,
                pendingRequestId := 1 })], List.pairwise_singleton _ _⟩ }
        toServer := []
        toClient := [.subscribeAnswer { id := 1, channel := "a" } true]
        subscribed := ["a"] }
    let m : ServerMessage := .subscribeAnswer { id := 1, channel := "a" } true
    Reachable Rules.confirmed c ∧
      (exists s e, c.client.processInput m.document = .ok (s, e)) ∧
      ∀ (response : Response) id, m.document = { action := some response.action, id := some id } ->
        exists v, c.client.subscriptions.findPending id = some ("a", v) ∧
          v.status = response.required :=
  have hr := Reachable.step (.step .start
    (.call (i := .subscribeChannel "a" ⟨1⟩ ⟨1⟩ none) ⟨by decide, by decide⟩ rfl)) (.serve true rfl)
  ⟨hr, confirmed_reads_succeed hr rfl⟩

/-- Under the stated rules a read can fail.  An unsubscribe before the confirmation moves the
record's pending id on, so the confirmation finds no record; and data the server sends after
an `rtm/unsubscribe/error`, which erased the record, finds none either. -/
theorem stated_rules_fail :
    (exists c m rest, Reachable Rules.stated c ∧ c.toClient = m :: rest ∧
      c.client.processInput m.document =
        .error (.abort "got unexpected subscribe confirmation")) ∧
    (exists c m rest, Reachable Rules.stated c ∧ c.toClient = m :: rest ∧
      c.client.processInput m.document = .error (.check "it != _subscriptions.end()")) :=
  ⟨⟨_, _, _,
    .step (.step (.step .start
      (.call (i := .subscribeChannel "a" ⟨1⟩ ⟨1⟩ none) ⟨by decide, by decide⟩ rfl))
      (.call (i := .unsubscribe ⟨1⟩) ⟨⟨"a", _, rfl, by decide⟩, by decide⟩ rfl))
      (.serve true rfl),
    rfl, rfl⟩,
  ⟨_, _, _,
    .step (.step (.step (.step (.step (.step (.step .start
      (.call (i := .subscribeChannel "a" ⟨1⟩ ⟨1⟩ none) ⟨by decide, by decide⟩ rfl))
      (.serve true rfl)) (.read rfl rfl))
      (.call (i := .unsubscribe ⟨1⟩) ⟨⟨"a", _, rfl, by decide⟩, by decide⟩ rfl))
      (.serve false rfl)) (.read rfl rfl))
      (.send "a" [⟨"m"⟩] (by decide)),
    rfl, rfl⟩⟩

end Conversation

end RtmClient
