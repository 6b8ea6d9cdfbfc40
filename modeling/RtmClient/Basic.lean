import Mathlib.Data.String.Basic

/-!
# Shared vocabulary of the RTM client

The error taxonomy of `rtm_client.cpp`, the caller-owned identities a subscription is made
of, the request documents a session writes, and the observable effects and fatal outcomes
that every layer of the model reports.  Payloads are opaque to the client, so a message is
only carried around, never inspected.
-/

namespace RtmClient

/-- The sentinel `UINT64_MAX` that marks a record with no pending request. -/
def UINT64_MAX : UInt64 := 18446744073709551615

@[simp] theorem UINT64_MAX_toNat : UINT64_MAX.toNat = 2 ^ 64 - 1 := rfl

/-- `std::numeric_limits<uint32_t>::max()`. -/
def UINT32_MAX : UInt32 := 4294967295

@[simp] theorem UINT32_MAX_toNat : UINT32_MAX.toNat = 2 ^ 32 - 1 := rfl

/-- The values of `client_error`, as enumerated by `client_error_category::message`. -/
inductive ClientError where
  | unknown
  | notConnected
  | responseParsingError
  | invalidResponse
  | subscriptionError
  | subscribeError
  | unsubscribeError
  | asioError
  | invalidMessage
  deriving DecidableEq, Repr

/-- The errors that end the read loop or the keepalive loop: `AsioError` and
`InvalidMessage`. -/
def ClientError.isConnectionFatal : ClientError -> Bool
  | .asioError => true
  | .invalidMessage => true
  | _ => false

/-- A `subscription` object; the client compares subscriptions by address only. -/
structure Handle where
  address : Nat
  deriving DecidableEq, Repr

/-- A `subscription_callbacks` object, also known to the client by address only. -/
structure Callbacks where
  address : Nat
  deriving DecidableEq, Repr

/-- An opaque message payload (a `cbor_item_t` or a JSON value of a data batch). -/
structure Payload where
  text : String
  deriving DecidableEq, Repr

/-- `history_options`: the optional history bounds of a subscription. -/
structure HistoryOptions where
  count : Option UInt64 := none
  age : Option UInt64 := none
  deriving DecidableEq, Repr

/-- `subscription_options`, by the one field the client reads. -/
structure SubscriptionOptions where
  history : HistoryOptions := {}
  deriving DecidableEq, Repr

/-- `subscribe_request`: an `rtm/subscribe` document with `subscription_id = channel`. -/
structure SubscribeRequest where
  id : UInt64
  channel : String
  age : Option UInt64 := none
  count : Option UInt64 := none
  deriving DecidableEq, Repr

/-- `unsubscribe_request`: an `rtm/unsubscribe` document for `subscription_id = channel`. -/
structure UnsubscribeRequest where
  id : UInt64
  channel : String
  deriving DecidableEq, Repr

/-- A document a session writes to the websocket. -/
inductive Request where
  | publish (channel : String) (message : Payload)
  | subscribe (request : SubscribeRequest)
  | unsubscribe (request : UnsubscribeRequest)
  deriving DecidableEq, Repr

/-- The `action` field of a written document. -/
def Request.action : Request -> String
  | .publish .. => "rtm/publish"
  | .subscribe _ => "rtm/subscribe"
  | .unsubscribe _ => "rtm/unsubscribe"

/-- What a step makes visible outside the session. -/
inductive Effect where
  /-- `_ws.write` of a request document. -/
  | write (request : Request)
  /-- `_callbacks.on_error` of the session's error callback. -/
  | onError (error : ClientError)
  /-- `sub.callbacks.on_data(sub.sub, message)`. -/
  | onData (callbacks : Callbacks) (sub : Handle) (message : Payload)
  /-- `_ws.async_ping`, counted by `rtm_pings_sent_total`. -/
  | ping
  deriving DecidableEq, Repr

/-- An `on_data` call. -/
def Effect.isOnData : Effect -> Bool
  | .onData .. => true
  | _ => false

/-- A report to the session's error callback. -/
def Effect.isOnError : Effect -> Bool
  | .onError _ => true
  | _ => false

/-- The ways a call ends the process instead of returning. -/
inductive Failure where
  /-- A failing `CHECK` or `CHECK_EQ`, with the condition it states. -/
  | check (condition : String)
  /-- A failing `BOOST_ASSERT`, in a build that keeps assertions. -/
  | assertion (condition : String)
  /-- `ABORT() << message`. -/
  | abort (message : String)
  /-- `nlohmann::json` throws: the field at this path is missing or has the wrong type. -/
  | jsonError (path : List String)
  /-- The TLS handshake of `start` throws `boost::system::system_error`. -/
  | handshakeError
  /-- A call through the decorator's empty `_client` pointer. -/
  | nullClient
  /-- A handler uses a member of a `secure_client` that `restart` destroyed: undefined
  behaviour from this access on. -/
  | useAfterFree (member : String)
  deriving DecidableEq, Repr

end RtmClient
