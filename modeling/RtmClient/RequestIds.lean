import RtmClient.Conversation.Safety
import Mathlib.Data.List.Nodup

/-!
# Request ids

`subscribe_channel` and `unsubscribe` take the id of the request they write from
`++_request_id`, a `uint64_t` member that no other code writes and nothing resets: a
`secure_client` that is stopped and started again keeps counting.  So the requests of a run
carry the successors of the counter, one per request, in the order they are written, modulo
`2^64`.  A new session writes the ids `1, 2, ...`; its `(2^64 - 1)`-th request carries
`UINT64_MAX`, the value `rtm/subscribe/ok` leaves in a `Current` record, and after that the
ids wrap and repeat.

Callers and servers that keep every promise of the conversation get there.  A channel
subscribed and unsubscribed, each request answered with `*/ok`, leaves the registry as it
found it and advances the counter by two.  When the counter reaches `UINT64_MAX` on the
`rtm/unsubscribe` of such a channel while a channel ordered before it is `Current`, the
server's answer is matched to the `Current` record and the session fails its `CHECK`.
-/

namespace RtmClient

/-- The ids of the `rtm/subscribe` and `rtm/unsubscribe` requests among a step's effects, in
the order they are written. -/
def requestIds (e : List Effect) : List UInt64 :=
  e.filterMap fun
    | .write (.subscribe q) => some q.id
    | .write (.unsubscribe q) => some q.id
    | _ => none

/-- The request ids a trace writes, in order. -/
def writtenIds : List (Input × List Effect) -> List UInt64
  | [] => []
  | (_, e) :: rest => requestIds e ++ writtenIds rest

/-- The `k` ids that `++_request_id` yields from the counter value `n`, in order. -/
def issued (n : UInt64) : Nat -> List UInt64
  | 0 => []
  | k + 1 => (n + 1) :: issued (n + 1) k

theorem writtenIds_append (tr tr' : List (Input × List Effect)) :
    writtenIds (tr ++ tr') = writtenIds tr ++ writtenIds tr' := by
  induction tr with
  | nil => rfl
  | cons x rest ih =>
    obtain ⟨i, e⟩ := x
    rw [List.cons_append, writtenIds, writtenIds, ih, List.append_assoc]

theorem requestIds_onError (errs : List ClientError) : requestIds (errs.map .onError) = [] := by
  induction errs with
  | nil => rfl
  | cons _ _ ih => exact ih

theorem requestIds_of_isOnData {e : List Effect} (h : ∀ x ∈ e, x.isOnData) : requestIds e = [] :=
  List.filterMap_eq_nil_iff.2 fun x hx => by have := h x hx; cases x <;> simp_all [Effect.isOnData]

theorem requestIds_sublist {e e' : List Effect} (h : List.Sublist e e') (he' : requestIds e' = []) :
    requestIds e = [] :=
  List.sublist_nil.1 (he' ▸ h.filterMap _)

/-! ## The counter in numeral form -/

theorem UInt64.toNat_succ (n : UInt64) : (n + 1).toNat = (n.toNat + 1) % 2 ^ 64 := rfl

theorem toNat_issued (n : UInt64) (k : Nat) :
    (issued n k).map UInt64.toNat = (List.range k).map fun j => (n.toNat + j + 1) % 2 ^ 64 := by
  induction k generalizing n with
  | zero => rfl
  | succ k ih =>
    rw [issued, List.map_cons, ih, List.range_succ_eq_map, List.map_cons, List.map_map,
      UInt64.toNat_succ]
    congr 1
    refine List.map_congr_left fun j _ => ?_
    simp only [Function.comp_apply]
    omega

theorem mem_issued {n x : UInt64} {k : Nat} :
    x ∈ issued n k ↔ ∃ j < k, x.toNat = (n.toNat + j + 1) % 2 ^ 64 := by
  rw [← List.mem_map_of_injective (fun _ _ => UInt64.toNat.inj), toNat_issued]
  simp only [List.mem_map, List.mem_range]
  exact exists_congr fun j => and_congr_right fun _ => eq_comm

theorem nodup_issued {n : UInt64} {k : Nat} : (issued n k).Nodup ↔ k ≤ 2 ^ 64 := by
  rw [← List.nodup_map_iff (fun _ _ => UInt64.toNat.inj), toNat_issued,
    List.nodup_map_iff_inj_on (List.nodup_range k)]
  simp only [List.mem_range]
  constructor
  · intro h
    by_contra hk
    have := h 0 (by omega) (2 ^ 64) (by omega) (by omega)
    omega
  · intro hk x hx y hy hxy
    omega

theorem issued_zero_fresh_iff (k : Nat) :
    ((issued 0 k).Nodup ∧ UINT64_MAX ∉ issued 0 k) ↔ k < 2 ^ 64 - 1 := by
  rw [nodup_issued, mem_issued]
  have hmax : UINT64_MAX.toNat = 2 ^ 64 - 1 := rfl
  have hzero : (0 : UInt64).toNat = 0 := rfl
  simp only [hmax, hzero, not_exists, not_and]
  constructor
  · rintro ⟨-, h⟩
    by_contra hk
    exact h (2 ^ 64 - 2) (by omega) (by omega)
  · intro hk
    exact ⟨by omega, fun j hj => by omega⟩

/-! ## One step, and a run -/

namespace SecureClient

theorem processInput_requestIds {r r' : Registry} {d : Document} {e : List Effect}
    (h : r.processInput d = .ok (r', e)) : requestIds e = [] := by
  rcases Registry.processInput_ok h with ⟨-, ⟨-, hd⟩ | ⟨-, rfl⟩⟩ | ⟨response, id, -, -, ha⟩
  · exact requestIds_of_isOnData (Registry.deliver_isOnData hd)
  · rfl
  · obtain ⟨-, -, -, -, -, rfl⟩ := Registry.answer_ok ha
    exact requestIds_onError _

theorem step_requestIds {s t : SecureClient} {i : Input} {e : List Effect} (hl : LoopInv s)
    (h : s.step i = .ok (t, e)) :
    (requestIds e = [] ∧ t.requestId = s.requestId) ∨
      (requestIds e = [s.requestId + 1] ∧ t.requestId = s.requestId + 1) := by
  cases i with
  | start =>
      obtain ⟨ret, hs', rfl⟩ := step_start h
      obtain ⟨-, ⟨-, rfl, -⟩ | ⟨-, -, rfl⟩⟩ := start_ok hs' <;> exact .inl ⟨rfl, rfl⟩
  | stop =>
      obtain ⟨ret, hs', rfl⟩ := step_stop h
      obtain ⟨-, rfl⟩ := stop_ok hs'
      exact .inl ⟨rfl, rfl⟩
  | publish => obtain ⟨rfl, rfl | rfl⟩ := publish_ok h <;> exact .inl ⟨rfl, rfl⟩
  | subscribeChannel =>
      rcases subscribeChannel_ok h with ⟨-, rfl, rfl⟩ | ⟨-, rfl, rfl⟩
      · exact .inl ⟨rfl, rfl⟩
      · exact .inr ⟨rfl, rfl⟩
  | unsubscribe =>
      rcases unsubscribe_ok h with ⟨-, rfl, rfl⟩ | ⟨-, -, -, -, rfl, rfl⟩
      · exact .inl ⟨rfl, rfl⟩
      · exact .inr ⟨rfl, rfl⟩
  | readDone =>
      refine .inl ?_
      rcases readDone_ok h with ⟨-, -, rfl, rfl⟩ | ⟨-, rfl, rfl⟩ | ⟨-, rfl, rfl⟩ |
        ⟨d, u, e₀, -, hu, hc⟩
      · exact ⟨rfl, rfl⟩
      · exact ⟨by split <;> rfl, rfl⟩
      · exact ⟨rfl, rfl⟩
      · obtain ⟨r', hr', rfl⟩ := processInput_ok hu
        rw [show t = _ from congrArg Prod.fst hc, show e = _ from congrArg Prod.snd hc]
        exact ⟨requestIds_sublist (continueRead_sublist _ d e₀) (processInput_requestIds hr'),
          by simp [readTaken]⟩
  | waitDone => obtain ⟨rfl, rfl⟩ := step_waitDone h; exact .inl ⟨rfl, rfl⟩
  | pingDone =>
      refine .inl ?_
      rcases step_pingDone h with ⟨-, rfl, rfl⟩ | ⟨-, rfl, rfl⟩ | ⟨-, rfl, rfl⟩
      · exact ⟨rfl, rfl⟩
      · exact ⟨by split <;> rfl, rfl⟩
      · exact ⟨rfl, rfl⟩
  | dataReturned =>
      have hd := step_dataReturned h
      rw [show t = _ from congrArg Prod.fst hd, show e = _ from congrArg Prod.snd hd]
      exact .inl ⟨requestIds_sublist (deliverNext_sublist s)
        (requestIds_of_isOnData hl.batchOnData), by simp⟩

theorem Run.writtenIds_issued {s s' : SecureClient} {tr : List (Input × List Effect)}
    (hl : LoopInv s) (h : Run s tr s') :
    writtenIds tr = issued s.requestId (writtenIds tr).length := by
  induction h with
  | nil => rfl
  | cons hen hstep _ ih =>
    have ih := ih (hl.step hen hstep)
    rcases step_requestIds hl hstep with ⟨he, ht⟩ | ⟨he, ht⟩
    · rw [writtenIds, he, List.nil_append, ← ht]
      exact ih
    · rw [writtenIds, he, List.singleton_append, List.length_cons, issued, ← ht, ← ih]

/-- In every run of a new session, the `rtm/subscribe` and `rtm/unsubscribe` requests carry
the ids `1, 2, ...` modulo `2^64`, in the order they are written; they are pairwise distinct
and none is `UINT64_MAX` exactly when fewer than `2^64 - 1` of them have been written. -/
theorem requestIds_fresh_iff {s : SecureClient} {tr : List (Input × List Effect)}
    (h : Run init tr s) :
    writtenIds tr = issued 0 (writtenIds tr).length ∧
      ((writtenIds tr).Nodup ∧ UINT64_MAX ∉ writtenIds tr ↔
        (writtenIds tr).length < 2 ^ 64 - 1) := by
  have hids : writtenIds tr = issued 0 (writtenIds tr).length := h.writtenIds_issued loopInv_init
  have key := issued_zero_fresh_iff (writtenIds tr).length
  rw [← hids] at key
  exact ⟨hids, key⟩

/-! ## Subscriptions that keep every promise -/

/-- A `Running` session as `start` leaves it, with its read and one wait of the ping timer
outstanding, the counter at `n` and the registry `r`. -/
def runningWith (n : UInt64) (r : Registry) : SecureClient :=
  { clientState := .running, requestId := n, subscriptions := r, reads := 1, waits := 1,
    pings := 0 }

/-- `subscribe_channel(c, h)` without options from the counter value `n`, and the server's
`rtm/subscribe/ok` for it. -/
def subscription (c : String) (h : Handle) (cb : Callbacks) (n : UInt64) :
    List (Input × List Effect) :=
  let q : SubscribeRequest := { id := n + 1, channel := c }
  [(.subscribeChannel c h cb none, [.write (.subscribe q)]),
    (.readDone (.received (some (ServerMessage.subscribeAnswer q true).document)), [])]

/-- `unsubscribe(h)` of the subscription to `c` from the counter value `n`, and the server's
`rtm/unsubscribe/ok` for it. -/
def unsubscription (c : String) (h : Handle) (n : UInt64) : List (Input × List Effect) :=
  let q : UnsubscribeRequest := { id := n + 1, channel := c }
  [(.unsubscribe h, [.write (.unsubscribe q)]),
    (.readDone (.received (some (ServerMessage.unsubscribeAnswer q true).document)), [])]

/-- `k` lives of a subscription to `c`, one after the other, from the counter value `n`. -/
def lifecycles (c : String) (h : Handle) (cb : Callbacks) :
    Nat -> UInt64 -> List (Input × List Effect)
  | 0, _ => []
  | k + 1, n =>
      subscription c h cb n ++ unsubscription c h (n + 1) ++ lifecycles c h cb k (n + 1 + 1)

theorem writtenIds_lifecycles (c : String) (h : Handle) (cb : Callbacks) (k : Nat)
    (n : UInt64) : writtenIds (lifecycles c h cb k n) = issued n (2 * k) := by
  induction k generalizing n with
  | zero => rfl
  | succ k ih =>
    rw [lifecycles, writtenIds_append, writtenIds_append, ih,
      show 2 * (k + 1) = 2 * k + 1 + 1 by omega]
    rfl

theorem step_subscribe_runningWith (n : UInt64) (r : Registry) (c : String) (h : Handle)
    (cb : Callbacks) :
    (runningWith n r).step (.subscribeChannel c h cb none) =
      .ok (runningWith (n + 1) (r.emplace c (pendingRecord c h cb (n + 1))),
        [.write (.subscribe { id := n + 1, channel := c })]) :=
  rfl

theorem step_unsubscribe_runningWith {n : UInt64} {r : Registry} {h : Handle} {key : String}
    {v : SubscriptionImpl} (hf : r.findSub h = some (key, v)) :
    (runningWith n r).step (.unsubscribe h) =
      .ok (runningWith (n + 1) (r.modify key (toPendingUnsubscribe (n + 1))),
        [.write (.unsubscribe { id := n + 1, channel := key })]) := by
  simp only [step, unsubscribe, whenRunning, runningWith, hf]
  rfl

theorem step_answer_runningWith (response : Response) {n id : UInt64} {r : Registry}
    {key : String} {v : SubscriptionImpl} (hf : r.findPending id = some (key, v))
    (hst : v.status = response.required) :
    (runningWith n r).step
        (.readDone (.received (some { action := some response.action, id := some id }))) =
      .ok (runningWith n (answered r response key), response.report.toList.map .onError) := by
  have hne : (some response.action : Option String) ≠ some "rtm/subscription/data" := by
    cases response <;> simp [Response.action]
  simp only [step, readDone, processInput, runningWith, Conversation.processInput_answer hf hst,
    Except.map, continueRead, hne, if_false]
  rfl

theorem run_subscription {c : String} {h : Handle} {cb : Callbacks} {n : UInt64}
    {r : Registry} (hc : c ∉ r.keys) (hfree : ∀ e ∈ r.entries, e.2.pendingRequestId ≠ n + 1) :
    Run (runningWith n r) (subscription c h cb n)
      (runningWith (n + 1) (r.emplace c (toCurrent (pendingRecord c h cb (n + 1))))) := by
  have hans := step_answer_runningWith .subscribeOk (n := n + 1)
    (Registry.findPending_emplace (v := pendingRecord c h cb (n + 1)) hc hfree) rfl
  simp only [answered, Registry.modify_emplace hc] at hans
  exact .cons trivial (step_subscribe_runningWith ..) (.cons ⟨rfl, Nat.one_pos⟩ hans (.nil _))

theorem run_unsubscription {c : String} {h : Handle} {n : UInt64} {r : Registry}
    {v : SubscriptionImpl} (hc : c ∉ r.keys) (hsub : v.sub = h)
    (hh : ∀ e ∈ r.entries, e.2.sub ≠ h) (hfree : ∀ e ∈ r.entries, e.2.pendingRequestId ≠ n + 1) :
    Run (runningWith n (r.emplace c v)) (unsubscription c h n) (runningWith (n + 1) r) := by
  subst hsub
  have hun := step_unsubscribe_runningWith (n := n) (Registry.findSub_emplace hc hh)
  rw [Registry.modify_emplace hc] at hun
  have hans := step_answer_runningWith .unsubscribeOk (n := n + 1)
    (Registry.findPending_emplace (v := toPendingUnsubscribe (n + 1) v) hc hfree) rfl
  simp only [answered, Registry.erase_emplace hc] at hans
  exact .cons trivial hun (.cons ⟨rfl, Nat.one_pos⟩ hans (.nil _))

theorem run_lifecycles {c : String} {h : Handle} {cb : Callbacks} {r : Registry}
    (hc : c ∉ r.keys) (hh : ∀ e ∈ r.entries, e.2.sub ≠ h) (k : Nat) (n : UInt64)
    (hfree : ∀ e ∈ r.entries, e.2.pendingRequestId ∉ issued n (2 * k)) :
    ∃ m : UInt64, m.toNat = (n.toNat + 2 * k) % 2 ^ 64 ∧
      Run (runningWith n r) (lifecycles c h cb k n) (runningWith m r) := by
  induction k generalizing n with
  | zero =>
    have hlt : n.toNat < 2 ^ 64 := n.toBitVec.isLt
    exact ⟨n, by omega, .nil _⟩
  | succ k ih =>
    rw [show 2 * (k + 1) = 2 * k + 1 + 1 by omega] at hfree
    simp only [issued, List.mem_cons, not_or] at hfree
    obtain ⟨m, hm, hrun⟩ := ih (n + 1 + 1) fun e he => (hfree e he).2.2
    refine ⟨m, by rw [hm, UInt64.toNat_succ, UInt64.toNat_succ]; omega, ?_⟩
    exact ((run_subscription hc fun e he => (hfree e he).1).append
      (run_unsubscription hc rfl hh fun e he => (hfree e he).2.1)).append hrun

theorem lifecycle_ids_fresh :
    let tr : List (Input × List Effect) := (.start .opened, []) :: lifecycles "a" ⟨1⟩ ⟨1⟩ 1 0
    Run init tr (runningWith 2 .empty) ∧ writtenIds tr = issued 0 (writtenIds tr).length ∧
      ((writtenIds tr).Nodup ∧ UINT64_MAX ∉ writtenIds tr ↔
        (writtenIds tr).length < 2 ^ 64 - 1) :=
  have h : Run init ((.start .opened, []) :: lifecycles "a" ⟨1⟩ ⟨1⟩ 1 0)
      (runningWith 2 .empty) :=
    .cons trivial rfl <| .cons trivial rfl <| .cons ⟨rfl, Nat.one_pos⟩ rfl <| .cons trivial rfl <|
      .cons ⟨rfl, Nat.one_pos⟩ rfl <| .nil _
  ⟨h, requestIds_fresh_iff h⟩

/-- Request ids repeat and reach `UINT64_MAX` in runs where the caller and the server keep
every promise.  A new session whose caller subscribes and unsubscribes channel `"a"`
`2^63 + 1` times, each request accepted, writes `UINT64_MAX` and then ids it wrote before.
And when `"a"` stays `Current` while `"b"` comes and goes, the `rtm/unsubscribe` of `"b"` that
carries `UINT64_MAX` has its answer matched to the record of `"a"`, and the session fails its
`CHECK`. -/
theorem request_ids_wrap :
    (Run init ((.start .opened, []) :: lifecycles "a" ⟨1⟩ ⟨1⟩ (2 ^ 63 + 1) 0)
        (runningWith 2 .empty) ∧
      UINT64_MAX ∈ writtenIds (lifecycles "a" ⟨1⟩ ⟨1⟩ (2 ^ 63 + 1) 0) ∧
      ¬ (writtenIds (lifecycles "a" ⟨1⟩ ⟨1⟩ (2 ^ 63 + 1) 0)).Nodup) ∧
    exists s, Run init ((.start .opened, []) :: (subscription "a" ⟨1⟩ ⟨1⟩ 0 ++
          lifecycles "b" ⟨2⟩ ⟨2⟩ (2 ^ 63 - 2) 1 ++ subscription "b" ⟨2⟩ ⟨2⟩ 18446744073709551613 ++
          [(.unsubscribe ⟨2⟩, [.write (.unsubscribe { id := UINT64_MAX, channel := "b" })])])) s ∧
      s.step (.readDone (.received (some
          (ServerMessage.unsubscribeAnswer { id := UINT64_MAX, channel := "b" } true).document))) =
        .error (.check "sub.status == subscription_status::PendingUnsubscribe") := by
  have hstart : init.step (.start .opened) = .ok (runningWith 0 .empty, []) := rfl
  have hone : (1 : UInt64).toNat = 1 := rfl
  have hmax : UINT64_MAX.toNat = 2 ^ 64 - 1 := rfl
  refine ⟨⟨?_, ?_, ?_⟩, ?_⟩
  · obtain ⟨m, hm, hrun⟩ := @run_lifecycles "a" ⟨1⟩ ⟨1⟩ .empty (List.not_mem_nil _)
      (fun _ h => nomatch h) (2 ^ 63 + 1) 0 (fun _ h => nomatch h)
    obtain rfl : m = 2 := UInt64.toNat.inj (by rw [hm]; rfl)
    exact .cons trivial hstart hrun
  · rw [writtenIds_lifecycles, mem_issued]
    exact ⟨2 ^ 64 - 2, by omega, rfl⟩
  · rw [writtenIds_lifecycles, nodup_issued]
    omega
  · have ha : Run (runningWith 0 .empty) (subscription "a" ⟨1⟩ ⟨1⟩ 0)
        (runningWith 1 (Registry.empty.emplace "a" (toCurrent (pendingRecord "a" ⟨1⟩ ⟨1⟩ 1)))) :=
      run_subscription (List.not_mem_nil _) fun _ h => nomatch h
    have hfree :
        ∀ e ∈ (Registry.empty.emplace "a" (toCurrent (pendingRecord "a" ⟨1⟩ ⟨1⟩ 1))).entries,
          e.2.pendingRequestId ∉ issued 1 (2 * (2 ^ 63 - 2)) := by
      intro e he
      obtain rfl := List.mem_singleton.1 he
      rw [mem_issued]
      rintro ⟨j, hj, hid⟩
      change UINT64_MAX.toNat = (UInt64.toNat 1 + j + 1) % 2 ^ 64 at hid
      omega
    obtain ⟨m, hm, hb⟩ := @run_lifecycles "b" ⟨2⟩ ⟨2⟩ _ (by decide) (by decide) _ 1 hfree
    obtain rfl : m = 18446744073709551613 := UInt64.toNat.inj (by rw [hm, hone]; rfl)
    exact ⟨_, .cons trivial hstart (((ha.append hb).append
      (run_subscription (by decide) (by decide))).append
      (.cons trivial (step_unsubscribe_runningWith
        (Registry.findSub_emplace (by decide) (by decide))) (.nil _))), rfl⟩

end SecureClient

end RtmClient
