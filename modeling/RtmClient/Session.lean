import RtmClient.Registry

/-!
# The transport session

`secure_client` of `rtm_client.cpp` as explicit state passing.  Its state is the client
state, the request counter and the registry, together with the asynchronous operations the
event loop still owes a completion for: outstanding `async_read`s, waits on the ping timer,
and `async_ping`s.  Each public method and each completion handler is a function of that
state; the environment (the transport, the timer, the server) shows up only as the outcome a
completion carries.  A call that hits a `CHECK` or an `ABORT` returns a `Failure`.

The handlers never look at the transport beyond the error code they receive, so a
completion may deliver any outcome at any time: cancelling the timer or closing the socket
does not remove an outstanding operation, it only decides which outcome it will carry.

Callbacks run synchronously.  The read handler of an `rtm/subscription/data` frame calls
`on_data` once per message, and a callback may call back into the session before it returns:
each such call is a step of its own, between two turns of the handler's loop, while the event
loop runs no other handler.
-/

namespace RtmClient

/-- `client_state`. -/
inductive ClientState where
  | stopped
  | running
  | pendingStopped
  deriving DecidableEq, Repr

/-- The state of one `secure_client`. -/
structure SecureClient where
  clientState : ClientState
  requestId : UInt64
  subscriptions : Registry
  /-- Outstanding `_ws.async_read` operations. -/
  reads : Nat
  /-- Outstanding `_ping_timer.async_wait` operations. -/
  waits : Nat
  /-- Outstanding `_ws.async_ping` operations. -/
  pings : Nat
  /-- The `on_data` calls a running read handler still has to make for the batch it delivers,
  before its `ask_for_read`; `none` while no read handler is delivering. -/
  batch : Option (List Effect) := none
  deriving DecidableEq

/-- An inbound frame after `nlohmann::json::parse`, by the fields `process_input` reads:
`action`, `id`, `body.subscription_id` and `body.messages`.  A field is `none` when it is
missing or does not convert to the type the code reads it as. -/
structure Document where
  isObject : Bool := true
  action : Option String := none
  id : Option UInt64 := none
  subscriptionId : Option String := none
  messages : Option (List Payload) := none
  deriving DecidableEq, Repr

/-- The four actions that answer a request, correlated by the envelope `id`. -/
inductive Response where
  | subscribeOk
  | subscribeError
  | unsubscribeOk
  | unsubscribeError
  deriving DecidableEq, Repr

namespace Response

/-- The action of a response document. -/
def action : Response -> String
  | subscribeOk => "rtm/subscribe/ok"
  | subscribeError => "rtm/subscribe/error"
  | unsubscribeOk => "rtm/unsubscribe/ok"
  | unsubscribeError => "rtm/unsubscribe/error"

/-- The status the matched record must be in. -/
def required : Response -> SubscriptionStatus
  | subscribeOk => .pendingSubscribe
  | subscribeError => .pendingSubscribe
  | unsubscribeOk => .pendingUnsubscribe
  | unsubscribeError => .pendingUnsubscribe

/-- The error reported to the session's error callback. -/
def report : Response -> Option ClientError
  | subscribeError => some .subscribeError
  | unsubscribeError => some .unsubscribeError
  | _ => none

/-- The text of the `ABORT` when no record is pending on the id. -/
def unexpected : Response -> String
  | subscribeOk => "got unexpected subscribe confirmation"
  | subscribeError => "got unexpected subscribe error"
  | unsubscribeOk => "got unexpected unsubscribe confirmation"
  | unsubscribeError => "got unexpected unsubscribe error"

/-- The condition of the `CHECK` on the matched record's status. -/
def statusCheck : Response -> String
  | subscribeOk => "sub.status == subscription_status::PendingSubscribe"
  | subscribeError => "sub.status == subscription_status::PendingSubscribe"
  | unsubscribeOk => "sub.status == subscription_status::PendingUnsubscribe"
  | unsubscribeError => "sub.status == subscription_status::PendingUnsubscribe"

theorem action_injective : Function.Injective action := by
  intro a b h
  cases a <;> cases b <;> simp_all [action]

end Response

/-- How the synchronous connection set-up of `start` ends. -/
inductive StartOutcome where
  /-- Resolving, connecting or the websocket upgrade sets an error code. -/
  | failed
  /-- The TLS handshake throws. -/
  | threw
  | opened
  deriving DecidableEq, Repr

/-- The error code an `async_read` completes with, and the frame read on success
(`none` when `nlohmann::json::parse` throws on it). -/
inductive ReadOutcome where
  | aborted
  | failed
  | received (frame : Option Document)
  deriving DecidableEq, Repr

/-- The error code an `async_ping` completes with. -/
inductive PingOutcome where
  | aborted
  | failed
  | sent
  deriving DecidableEq, Repr

namespace SecureClient

/-- A freshly constructed `secure_client`. -/
def init : SecureClient :=
  { clientState := .stopped, requestId := 0, subscriptions := .empty, reads := 0, waits := 0,
    pings := 0 }

/-- `arm_ping_timer`: `expires_from_now` cancels earlier waits, whose handlers still run,
and `async_wait` adds one. -/
def armPingTimer (s : SecureClient) : SecureClient := { s with waits := s.waits + 1 }

/-- `ask_for_read`: one more outstanding `async_read`. -/
def askForRead (s : SecureClient) : SecureClient := { s with reads := s.reads + 1 }

/-- `start`: only from `Stopped`; on success arms the ping timer, becomes `Running` and
issues the first read. -/
def start (s : SecureClient) (outcome : StartOutcome) :
    Except Failure (SecureClient × Option ClientError) :=
  if s.clientState ≠ .stopped then .error (.check "_client_state == client_state::Stopped")
  else
    match outcome with
    | .failed => .ok (s, some .asioError)
    | .threw => .error .handshakeError
    | .opened =>
        let s := s.armPingTimer
        .ok (({ s with clientState := .running } : SecureClient).askForRead, none)

/-- `stop`: only from `Running`; becomes `PendingStopped` before cancelling the timer and
closing the socket, and returns `AsioError` if either fails. -/
def stop (s : SecureClient) (cancelled closed : Bool) :
    Except Failure (SecureClient × Option ClientError) :=
  if s.clientState ≠ .running then .error (.check "_client_state == client_state::Running")
  else .ok ({ s with clientState := .pendingStopped },
    if cancelled && closed then none else some .asioError)

/-- The guard `publish`, `subscribe_channel` and `unsubscribe` open with: ignored while
`PendingStopped`, a failing `CHECK_EQ` while `Stopped`. -/
def whenRunning (s : SecureClient) (body : Except Failure (SecureClient × List Effect)) :
    Except Failure (SecureClient × List Effect) :=
  match s.clientState with
  | .pendingStopped => .ok (s, [])
  | .running => body
  | .stopped => .error (.check "RTM client is not running")

/-- `publish`: writes an `rtm/publish` document; publish callbacks are not supported. -/
def publish (s : SecureClient) (channel : String) (message : Payload) (hasCallbacks : Bool)
    (refcount : Nat) : Except Failure (SecureClient × List Effect) :=
  if hasCallbacks then .error (.check "!callbacks")
  else
    whenRunning s <|
      if refcount ≠ 0 then .error (.check "0 == cbor_refcount(message)")
      else .ok (s, [.write (.publish channel message)])

/-- `subscribe_channel`: records a `PendingSubscribe` subscription under a fresh request id
(kept as it is if the channel already has a record) and writes the request. -/
def subscribeChannel (s : SecureClient) (channel : String) (sub : Handle)
    (callbacks : Callbacks) (options : Option SubscriptionOptions) :
    Except Failure (SecureClient × List Effect) :=
  whenRunning s <|
    let id := s.requestId + 1
    let record : SubscriptionImpl :=
      { channel, sub, callbacks, status := .pendingSubscribe, pendingRequestId := id }
    let request : SubscribeRequest :=
      { id, channel, age := options.bind fun o => o.history.age,
        count := options.bind fun o => o.history.count }
    .ok ({ s with requestId := id, subscriptions := s.subscriptions.emplace channel record },
      [.write (.subscribe request)])

/-- `unsubscribe`: the first record owned by `sub` gets a fresh request id and becomes
`PendingUnsubscribe`, whatever its status was. -/
def unsubscribe (s : SecureClient) (sub : Handle) :
    Except Failure (SecureClient × List Effect) :=
  whenRunning s <|
    match s.subscriptions.findSub sub with
    | none => .error (.abort "didn't find subscription")
    | some (key, _) =>
        let id := s.requestId + 1
        .ok ({ s with
            requestId := id
            subscriptions := s.subscriptions.modify key (fun r =>
              { r with pendingRequestId := id, status := .pendingUnsubscribe }) },
          [.write (.unsubscribe { id, channel := key })])

end SecureClient

namespace Registry

/-- The `rtm/subscription/data` branch of `process_input`: it reads the registry only, and
returns the `on_data` calls of its loop over `body["messages"]`, one per message. -/
def deliver (r : Registry) (d : Document) : Except Failure (List Effect) :=
  match d.subscriptionId with
  | none => .error (.jsonError ["body", "subscription_id"])
  | some channel =>
      match r.find channel with
      | none => .error (.check "it != _subscriptions.end()")
      | some sub =>
          match sub.status with
          | .pendingSubscribe =>
              .error (.check "sub.status == Current || sub.status == PendingUnsubscribe")
          | .pendingUnsubscribe => .ok []
          | .current =>
              match d.messages with
              | none => .error (.jsonError ["body", "messages"])
              | some messages => .ok (messages.map (.onData sub.callbacks sub.sub))

/-- The loop shared by the four response branches of `process_input`: the first record
pending on `id` must be in the status the response requires; `rtm/subscribe/ok` makes it
`Current`, the other three erase it. -/
def answer (r : Registry) (response : Response) (id : UInt64) :
    Except Failure (Registry × List Effect) :=
  match r.findPending id with
  | none => .error (.abort response.unexpected)
  | some (key, sub) =>
      if sub.status ≠ response.required then .error (.check response.statusCheck)
      else
        match response with
        | .subscribeOk =>
            .ok (r.modify key (fun v => { v with pendingRequestId := UINT64_MAX, status := .current }),
              [])
        | _ => .ok (r.erase key, response.report.toList.map .onError)

/-- A response branch reads the envelope `id` first. -/
def answerDocument (r : Registry) (response : Response) (d : Document) :
    Except Failure (Registry × List Effect) :=
  match d.id with
  | none => .error (.jsonError ["id"])
  | some id => r.answer response id

/-- The body of `process_input`, on the registry, the only state it reads or writes. -/
def processInput (r : Registry) (d : Document) : Except Failure (Registry × List Effect) :=
  if !d.isObject then .error (.check "document.is_object()")
  else
    match d.action with
    | none => .error (.jsonError ["action"])
    | some action =>
        if action = "rtm/subscription/data" then (r.deliver d).map fun e => (r, e)
        else if action = "rtm/subscribe/ok" then r.answerDocument .subscribeOk d
        else if action = "rtm/subscribe/error" then r.answerDocument .subscribeError d
        else if action = "rtm/unsubscribe/ok" then r.answerDocument .unsubscribeOk d
        else if action = "rtm/unsubscribe/error" then r.answerDocument .unsubscribeError d
        else if action = "rtm/subscription/error" then .ok (r, [.onError .subscriptionError])
        else .error (.abort "unsupported action")

end Registry

namespace SecureClient

/-- `process_input`: dispatch on the document's action. -/
def processInput (s : SecureClient) (d : Document) :
    Except Failure (SecureClient × List Effect) :=
  (s.subscriptions.processInput d).map fun p => ({ s with subscriptions := p.1 }, p.2)

/-- One turn of the read handler's loop over a batch: the next `on_data` call, or, once the
batch is done, `ask_for_read`. -/
def deliverNext (s : SecureClient) : SecureClient × List Effect :=
  match s.batch with
  | none => (s, [])
  | some [] => ({ s with batch := none }.askForRead, [])
  | some (x :: rest) => ({ s with batch := some rest }, [x])

/-- The rest of the read handler once `process_input` has dispatched the document: a data
frame's `on_data` calls are made one turn at a time, and the other branches' effects at once,
before `ask_for_read`. -/
def continueRead (s : SecureClient) (d : Document) (e : List Effect) :
    SecureClient × List Effect :=
  if d.action = some "rtm/subscription/data" then { s with batch := some e }.deliverNext
  else (s.askForRead, e)

/-- The completion handler of `ask_for_read`, for one outstanding read. -/
def readDone (s : SecureClient) (outcome : ReadOutcome) :
    Except Failure (SecureClient × List Effect) :=
  let s := { s with reads := s.reads - 1 }
  match outcome with
  | .aborted =>
      if s.clientState ≠ .pendingStopped then
        .error (.check "_client_state == client_state::PendingStopped")
      else .ok ({ s with clientState := .stopped, subscriptions := .empty }, [])
  | .failed => .ok (s, if s.clientState = .running then [.onError .asioError] else [])
  | .received none => .ok (s, [.onError .invalidMessage])
  | .received (some d) => (s.processInput d).map fun p => p.1.continueRead d p.2

/-- The wait handler of `arm_ping_timer`, for one outstanding wait: it does not look at its
error code, counts a ping and sends it. -/
def waitDone (s : SecureClient) : SecureClient × List Effect :=
  ({ s with waits := s.waits - 1, pings := s.pings + 1 }, [.ping])

/-- The completion handler of `async_ping`, for one outstanding ping. -/
def pingDone (s : SecureClient) (outcome : PingOutcome) : SecureClient × List Effect :=
  let s := { s with pings := s.pings - 1 }
  match outcome with
  | .aborted => (s, [])
  | .failed => (s, if s.clientState = .running then [.onError .asioError] else [])
  | .sent => (s.armPingTimer, [])

end SecureClient

/-- What can happen to a session: a call of one of its methods, or the completion of one of
its outstanding operations. -/
inductive Input where
  | start (outcome : StartOutcome)
  | stop (cancelled closed : Bool)
  | publish (channel : String) (message : Payload) (hasCallbacks : Bool) (refcount : Nat)
  | subscribeChannel (channel : String) (sub : Handle) (callbacks : Callbacks)
      (options : Option SubscriptionOptions)
  | unsubscribe (sub : Handle)
  | readDone (outcome : ReadOutcome)
  | waitDone
  | pingDone (outcome : PingOutcome)
  /-- An `on_data` callback of the read handler returns, and the handler's loop goes on. -/
  | dataReturned
  deriving DecidableEq, Repr

namespace SecureClient

/-- One step of the session.  The values `start` and `stop` return go to their caller and
are not effects. -/
def step (s : SecureClient) : Input -> Except Failure (SecureClient × List Effect)
  | .start outcome => (s.start outcome).map fun p => (p.1, [])
  | .stop cancelled closed => (s.stop cancelled closed).map fun p => (p.1, [])
  | .publish channel message hasCallbacks refcount =>
      s.publish channel message hasCallbacks refcount
  | .subscribeChannel channel sub callbacks options =>
      s.subscribeChannel channel sub callbacks options
  | .unsubscribe sub => s.unsubscribe sub
  | .readDone outcome => s.readDone outcome
  | .waitDone => .ok s.waitDone
  | .pingDone outcome => .ok (s.pingDone outcome)
  | .dataReturned => .ok s.deliverNext

/-- The event loop runs a completion handler only for an operation that is outstanding, and
only while no read handler is delivering a batch; the loop of that handler goes on only while
it has one.  Calls can always be made: by the caller, or by a callback of the batch. -/
def Enabled (s : SecureClient) : Input -> Prop
  | .readDone _ => s.batch = none ∧ 0 < s.reads
  | .waitDone => s.batch = none ∧ 0 < s.waits
  | .pingDone _ => s.batch = none ∧ 0 < s.pings
  | .dataReturned => s.batch ≠ none
  | _ => True

instance (s : SecureClient) : (i : Input) -> Decidable (s.Enabled i)
  | .readDone _ => inferInstanceAs (Decidable (s.batch = none ∧ 0 < s.reads))
  | .waitDone => inferInstanceAs (Decidable (s.batch = none ∧ 0 < s.waits))
  | .pingDone _ => inferInstanceAs (Decidable (s.batch = none ∧ 0 < s.pings))
  | .dataReturned => inferInstanceAs (Decidable (s.batch ≠ none))
  | .start _ => isTrue trivial
  | .stop .. => isTrue trivial
  | .publish .. => isTrue trivial
  | .subscribeChannel .. => isTrue trivial
  | .unsubscribe _ => isTrue trivial

end SecureClient

end RtmClient
