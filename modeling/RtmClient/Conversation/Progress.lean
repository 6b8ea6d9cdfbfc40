import RtmClient.Conversation.Safety
import Mathlib.Logic.Relation

/-!
# Quiescence and progress of a conversation

What a conversation under the confirmed rules looks like between its steps, and that it drains
without the caller.  A channel has at most one request or answer in flight, and one exactly
while the session's record for it waits on a response.  When nothing is in flight in either
direction, the session's records are exactly the channels the server has subscribed, each
`Current`.  From every reachable conversation, the server answering its oldest request,
whatever it answers, and the session reading its oldest message reach such a state: the session
never needs a call of the caller to finish an exchange.
-/

namespace RtmClient

/-- Whether a server message answers a request. -/
def ServerMessage.isAnswer : ServerMessage -> Bool
  | .data .. => false
  | _ => true

namespace Conversation

open Relation

/-- The requests about a channel the server has not read and the answers about it the session
has not read. -/
def inFlight (c : Conversation) (ch : String) : Nat :=
  (c.toServer.filter (·.channel = ch)).length +
    ((c.toClient.filter (·.channel = ch)).filter ServerMessage.isAnswer).length

/-- Whether the session's record for a channel waits on a response. -/
def waiting (c : Conversation) (ch : String) : Bool :=
  (c.client.subscriptions.find ch).any fun v => decide (v.status ≠ .current)

theorem allData_answers {ds : List ServerMessage} (h : AllData ds) :
    ds.filter ServerMessage.isAnswer = [] :=
  List.filter_eq_nil_iff.2 fun m hm => by
    obtain ⟨_, _, rfl⟩ := h m hm
    simp [ServerMessage.isAnswer]

namespace Lane

variable {rec : Option SubscriptionImpl} {reqs : List Request} {msgs : List ServerMessage}
  {srv : Bool}

theorem inFlight_eq (h : Lane rec reqs msgs srv) :
    reqs.length + (msgs.filter ServerMessage.isAnswer).length =
      if rec.any (fun v => decide (v.status ≠ .current)) then 1 else 0 := by
  cases h with
  | idle => rfl
  | requested hst _ => simp [hst]
  | accepted hst _ hds => simp [hst, allData_answers hds, ServerMessage.isAnswer]
  | rejected hst _ => simp [hst, ServerMessage.isAnswer]
  | current hst hds => simp [hst, allData_answers hds]
  | leaving hst _ hds => simp [hst, allData_answers hds]
  | left hst _ hds => simp [hst, allData_answers hds, ServerMessage.isAnswer]

theorem of_quiet (h : Lane rec [] [] srv) :
    (rec = none ∧ srv = false) ∨ exists v, rec = some v ∧ v.status = .current ∧ srv = true := by
  generalize hm : ([] : List ServerMessage) = msgs at h
  cases h with
  | idle => exact .inl ⟨rfl, rfl⟩
  | accepted => cases hm
  | rejected => cases hm
  | current hst => exact .inr ⟨_, rfl, hst, rfl⟩
  | left => simp at hm

end Lane

theorem Safe.inFlight_eq {c : Conversation} (hs : c.Safe) (ch : String) :
    c.inFlight ch = if c.waiting ch then 1 else 0 :=
  (hs.lanes ch).inFlight_eq

theorem Safe.quiet {c : Conversation} (hs : c.Safe) (hS : c.toServer = [])
    (hC : c.toClient = []) (ch : String) :
    (ch ∈ c.subscribed ↔ exists v, c.client.subscriptions.find ch = some v) ∧
      ∀ v, c.client.subscriptions.find ch = some v -> v.status = .current := by
  have hl := hs.lanes ch
  unfold lane at hl
  rw [hS, hC] at hl
  rcases hl.of_quiet with ⟨hf, hsrv⟩ | ⟨v, hf, hst, hsrv⟩
  · simp only [decide_eq_false_iff_not] at hsrv
    simp [hf, hsrv]
  · simp only [decide_eq_true_eq] at hsrv
    simp [hf, hsrv, hst]

/-- A channel has at most one request or answer in flight, and one exactly while the session's
record for it waits on a response: no exchange is lost, and none is duplicated. -/
theorem inFlight_eq_waiting {c : Conversation} (h : Reachable Rules.confirmed c) :
    ∀ ch, c.inFlight ch = if c.waiting ch then 1 else 0 :=
  (reachable_safe h).inFlight_eq

theorem subscribe_inFlight :
    let c : Conversation :=
      { client :=
          { clientState := .running, requestId := 1, reads := 1, waits := 1, pings := 0,
            subscriptions := ⟨[("a",
              { channel := "a", sub := ⟨1⟩, callbacks := ⟨1⟩, status := .pendingSubscribe,
                pendingRequestId := 1 })], List.pairwise_singleton _ _⟩ }
        toServer := [.subscribe { id := 1, channel := "a" }]
        toClient := []
        subscribed := [] }
    Reachable Rules.confirmed c ∧ ∀ ch, c.inFlight ch = if c.waiting ch then 1 else 0 :=
  have hr := Reachable.step .start
    (.call (i := .subscribeChannel "a" ⟨1⟩ ⟨1⟩ none) ⟨by decide, by decide⟩ rfl)
  ⟨hr, inFlight_eq_waiting hr⟩

/-- When no request and no message is in flight, the session's records and the server's
subscriptions agree: a record exactly for each channel the server has subscribed, and every
record `Current`. -/
theorem quiescent_agreement {c : Conversation} (h : Reachable Rules.confirmed c)
    (hS : c.toServer = []) (hC : c.toClient = []) :
    ∀ ch, (ch ∈ c.subscribed ↔ exists v, c.client.subscriptions.find ch = some v) ∧
      ∀ v, c.client.subscriptions.find ch = some v -> v.status = .current :=
  (reachable_safe h).quiet hS hC

theorem confirmed_agreement :
    let c : Conversation :=
      { client :=
          { clientState := .running, requestId := 1, reads := 1, waits := 1, pings := 0,
            subscriptions := ⟨[("a",
              { channel := "a", sub := ⟨1⟩, callbacks := ⟨1⟩, status := .current,
                pendingRequestId := UINT64_MAX })], List.pairwise_singleton _ _⟩ }
        toServer := []
        toClient := []
        subscribed := ["a"] }
    Reachable Rules.confirmed c ∧ c.toServer = [] ∧ c.toClient = [] ∧
      ∀ ch, (ch ∈ c.subscribed ↔ exists v, c.client.subscriptions.find ch = some v) ∧
        ∀ v, c.client.subscriptions.find ch = some v -> v.status = .current :=
  have hr := Reachable.step (.step (.step .start
    (.call (i := .subscribeChannel "a" ⟨1⟩ ⟨1⟩ none) ⟨by decide, by decide⟩ rfl))
    (.serve true rfl)) (.read rfl rfl)
  ⟨hr, rfl, rfl, quiescent_agreement hr rfl rfl⟩

/-! ## Settling

The moves of the server and of the session alone, with the server's decisions given by
`answer`. -/

/-- The server reads and answers its oldest request, accepting it when `answer` says so, or the
session reads and processes its oldest message. -/
inductive Settle (rules : Rules) (answer : Request -> Bool) : Conversation -> Conversation -> Prop
  | serve {c : Conversation} {q : Request} {rest : List Request} :
      c.toServer = q :: rest ->
      Settle rules answer c
        { c with
          toServer := rest
          toClient := c.toClient ++ (rules.serve c.subscribed (answer q) q).1.toList
          subscribed := (rules.serve c.subscribed (answer q) q).2 }
  | read {c : Conversation} {m : ServerMessage} {rest : List ServerMessage} {s : SecureClient}
      {e : List Effect} :
      c.toClient = m :: rest -> c.client.processInput m.document = .ok (s, e) ->
      Settle rules answer c { c with client := s, toClient := rest }

theorem Settle.step {rules : Rules} {answer : Request -> Bool} {c c' : Conversation}
    (h : Settle rules answer c c') : Step rules c c' := by
  cases h with
  | serve hS => exact .serve _ hS
  | read hC hp => exact .read hC hp

theorem Reachable.settle {rules : Rules} {answer : Request -> Bool} {c c' : Conversation}
    (h : Reachable rules c) (hp : ReflTransGen (Settle rules answer) c c') : Reachable rules c' := by
  induction hp with
  | refl => exact h
  | tail _ hs ih => exact .step ih hs.step

/-- What is in flight, a request weighing two since its answer weighs one. -/
def load (c : Conversation) : Nat := 2 * c.toServer.length + c.toClient.length

theorem Safe.progress {c : Conversation} (answer : Request -> Bool) (hs : c.Safe)
    (hbusy : c.toServer ≠ [] ∨ c.toClient ≠ []) :
    exists c', Settle Rules.confirmed answer c c' ∧ c'.Safe ∧ c'.load < c.load := by
  rcases hC : c.toClient with _ | ⟨m, rest⟩
  · rcases hS : c.toServer with _ | ⟨q, rest⟩
    · simp [hS, hC] at hbusy
    · refine ⟨_, .serve hS, hs.serve hS (answer q), ?_⟩
      have : ((Rules.confirmed.serve c.subscribed (answer q) q).1.toList).length ≤ 1 := by
        cases (Rules.confirmed.serve c.subscribed (answer q) q).1 <;> simp
      simp only [load, hS, hC, List.nil_append, List.length_cons]
      omega
  · obtain ⟨r', e, hr, hsafe⟩ := hs.read hC
    refine ⟨_, .read hC (by rw [SecureClient.processInput, hr]; rfl), hsafe, ?_⟩
    simp [load, hC]

theorem Safe.settle {c : Conversation} (answer : Request -> Bool) (hs : c.Safe) :
    exists c', ReflTransGen (Settle Rules.confirmed answer) c c' ∧ c'.toServer = [] ∧
      c'.toClient = [] := by
  obtain ⟨n, hn⟩ : exists n, c.load = n := ⟨_, rfl⟩
  induction n using Nat.strong_induction_on generalizing c with
  | _ n ih =>
    by_cases hbusy : c.toServer ≠ [] ∨ c.toClient ≠ []
    · obtain ⟨c₁, hstep, hs₁, hlt⟩ := hs.progress answer hbusy
      obtain ⟨c', hp, hq⟩ := ih _ (hn ▸ hlt) hs₁ rfl
      exact ⟨c', .head hstep hp, hq⟩
    · simp only [ne_eq, not_or, not_not] at hbusy
      exact ⟨c, .refl, hbusy⟩

/-- From every reachable conversation, whatever the server answers, the server answering its
requests in order and the session reading what it was sent drain both directions: no exchange
waits on the caller. -/
theorem settles {c : Conversation} (h : Reachable Rules.confirmed c) (answer : Request -> Bool) :
    exists c', ReflTransGen (Settle Rules.confirmed answer) c c' ∧ c'.toServer = [] ∧
      c'.toClient = [] :=
  (reachable_safe h).settle answer

theorem subscribe_settles :
    let c : Conversation :=
      { client :=
          { clientState := .running, requestId := 1, reads := 1, waits := 1, pings := 0,
            subscriptions := ⟨[("a",
              { channel := "a", sub := ⟨1⟩, callbacks := ⟨1⟩, status := .pendingSubscribe,
                pendingRequestId := 1 })], List.pairwise_singleton _ _⟩ }
        toServer := [.subscribe { id := 1, channel := "a" }]
        toClient := []
        subscribed := [] }
    Reachable Rules.confirmed c ∧
      exists c', ReflTransGen (Settle Rules.confirmed fun _ => true) c c' ∧ c'.toServer = [] ∧
        c'.toClient = [] :=
  have hr := Reachable.step .start
    (.call (i := .subscribeChannel "a" ⟨1⟩ ⟨1⟩ none) ⟨by decide, by decide⟩ rfl)
  ⟨hr, settles hr _⟩

end Conversation

end RtmClient
