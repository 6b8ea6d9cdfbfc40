import RtmClient.Session.Invariant

/-!
# A session and a conforming server

One running session talking to a server over its websocket.  The caller calls
`subscribe_channel` and `unsubscribe` under the rules it promises to keep, and the session
runs `process_input` on every document it reads.  The server reads the requests in the order
they were written, answers each once, in that order, with the matching `*/ok` or `*/error`,
and sends `rtm/subscription/data` only for channels it has subscribed.  The socket is a queue
in each direction, so the session reads what the server sent, in order.

The read loop keeps one read outstanding while `Running`, and the callbacks of a conversation
make no calls into the session, so reading a document is `process_input` on it, with the
`on_data` calls of a data batch made in one step.
-/

namespace RtmClient

/-- The channel a request is about. -/
def Request.channel : Request -> String
  | .publish channel _ => channel
  | .subscribe q => q.channel
  | .unsubscribe q => q.channel

/-- What a conforming server sends. -/
inductive ServerMessage where
  /-- `rtm/subscribe/ok` when `accepted`, `rtm/subscribe/error` otherwise. -/
  | subscribeAnswer (request : SubscribeRequest) (accepted : Bool)
  /-- `rtm/unsubscribe/ok` when `accepted`, `rtm/unsubscribe/error` otherwise. -/
  | unsubscribeAnswer (request : UnsubscribeRequest) (accepted : Bool)
  /-- `rtm/subscription/data` for a channel. -/
  | data (channel : String) (messages : List Payload)
  deriving DecidableEq, Repr

namespace ServerMessage

/-- The document a server message is on the wire. -/
def document : ServerMessage -> Document
  | .subscribeAnswer q accepted =>
      { action := some (if accepted then "rtm/subscribe/ok" else "rtm/subscribe/error")
        id := some q.id }
  | .unsubscribeAnswer q accepted =>
      { action := some (if accepted then "rtm/unsubscribe/ok" else "rtm/unsubscribe/error")
        id := some q.id }
  | .data channel messages =>
      { action := some "rtm/subscription/data"
        subscriptionId := some channel
        messages := some messages }

/-- The channel a server message is about. -/
def channel : ServerMessage -> String
  | .subscribeAnswer q _ => q.channel
  | .unsubscribeAnswer q _ => q.channel
  | .data channel _ => channel

end ServerMessage

/-- The promises of the caller and of the server a conversation runs under. -/
structure Rules where
  /-- The statuses of a handle's record in which the caller may unsubscribe the handle. -/
  mayUnsubscribe : SubscriptionStatus -> Bool
  /-- Whether the server stops sending data for a channel when it rejects an unsubscribe. -/
  errorEndsSubscription : Bool

namespace Rules

/-- The caller unsubscribes a handle that owns a record, once per subscription; the server
sends data for a channel from its `rtm/subscribe/ok` to its `rtm/unsubscribe/ok`. -/
def stated : Rules :=
  { mayUnsubscribe := fun st => st ≠ .pendingUnsubscribe, errorEndsSubscription := false }

/-- The caller unsubscribes a handle only when the record `unsubscribe` acts on, the first the
handle owns in key order, is confirmed, and the server stops sending data for a channel once it
answers an unsubscribe, either way. -/
def confirmed : Rules :=
  { mayUnsubscribe := fun st => st = .current, errorEndsSubscription := true }

/-- The calls the caller makes: subscribing a channel that has no record, and unsubscribing a
handle whose first record in key order, the one `unsubscribe` acts on, is in a status the rules
allow, each while fewer than `2^64 - 2` request ids have been issued. -/
def Allows (rules : Rules) (s : SecureClient) : Input -> Prop
  | .subscribeChannel channel .. =>
      channel ∉ s.subscriptions.keys ∧ s.requestId.toNat + 1 < 2 ^ 64 - 1
  | .unsubscribe sub =>
      (exists key v, s.subscriptions.findSub sub = some (key, v) ∧ rules.mayUnsubscribe v.status) ∧
        s.requestId.toNat + 1 < 2 ^ 64 - 1
  | _ => False

/-- What the server does with the request it reads: its answer, and the channels it has
subscribed afterwards.  The caller publishes nothing in a conversation. -/
def serve (rules : Rules) (subscribed : List String) (accepted : Bool) :
    Request -> Option ServerMessage × List String
  | .subscribe q =>
      (some (.subscribeAnswer q accepted),
        if accepted then q.channel :: subscribed else subscribed)
  | .unsubscribe q =>
      (some (.unsubscribeAnswer q accepted),
        if accepted || rules.errorEndsSubscription then subscribed.filter (· ≠ q.channel)
        else subscribed)
  | .publish .. => (none, subscribed)

end Rules

/-- The requests among a step's effects, in the order they were written. -/
def written (e : List Effect) : List Request :=
  e.filterMap fun
    | .write q => some q
    | _ => none

@[simp] theorem written_write (q : Request) : written [.write q] = [q] := rfl

/-- The session, the requests the server has not read yet, the messages the session has not
read yet, and the channels the server has subscribed. -/
structure Conversation where
  client : SecureClient
  toServer : List Request
  toClient : List ServerMessage
  subscribed : List String

namespace Conversation

/-- A session just started, and a server with no subscription. -/
def start : Conversation :=
  { client := { SecureClient.init with clientState := .running, reads := 1, waits := 1 }
    toServer := []
    toClient := []
    subscribed := [] }

/-- One step of the conversation. -/
inductive Step (rules : Rules) : Conversation -> Conversation -> Prop
  /-- The caller calls the session, which writes its requests. -/
  | call {c : Conversation} {i : Input} {s : SecureClient} {e : List Effect} :
      rules.Allows c.client i -> c.client.step i = .ok (s, e) ->
      Step rules c { c with client := s, toServer := c.toServer ++ written e }
  /-- The server reads the oldest request and answers it. -/
  | serve {c : Conversation} {q : Request} {rest : List Request} (accepted : Bool) :
      c.toServer = q :: rest ->
      Step rules c
        { c with
          toServer := rest
          toClient := c.toClient ++ (rules.serve c.subscribed accepted q).1.toList
          subscribed := (rules.serve c.subscribed accepted q).2 }
  /-- The server sends data for a channel it has subscribed. -/
  | send {c : Conversation} (channel : String) (messages : List Payload) :
      channel ∈ c.subscribed ->
      Step rules c { c with toClient := c.toClient ++ [.data channel messages] }
  /-- The session reads the oldest message and processes it. -/
  | read {c : Conversation} {m : ServerMessage} {rest : List ServerMessage} {s : SecureClient}
      {e : List Effect} :
      c.toClient = m :: rest -> c.client.processInput m.document = .ok (s, e) ->
      Step rules c { c with client := s, toClient := rest }

/-- The conversations reached from the start, with no failing `CHECK` or `ABORT` on the way. -/
inductive Reachable (rules : Rules) : Conversation -> Prop
  | start : Reachable rules start
  | step {c c' : Conversation} : Reachable rules c -> Step rules c c' -> Reachable rules c'

end Conversation

end RtmClient
