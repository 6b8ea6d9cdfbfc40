import RtmClient.Conversation

/-!
# The documents on the wire

`subscribe_request::to_json`, `unsubscribe_request::to_json` and `publish` build their
documents from a parsed template by assigning members, and `process_input` reads fields of
the document it receives.  A `nlohmann::json` object keeps its members in a `std::map`, so
they are sorted by key: assigning a member replaces it or inserts it in order, and `emplace`
leaves a member that is already there.  Payloads go through `cbor_to_json` and
`json_to_cbor`, which are outside the client, so a payload is a leaf of the tree.

Every document the client writes is its template with each placeholder replaced, and
different requests give different documents, so the server reads the request the session
meant.  The documents a conforming server sends are read by `process_input` as exactly the
`Document` the session model processes.
-/

namespace RtmClient

/-- A JSON value as `nlohmann::json` holds it, with payloads as leaves. -/
inductive Json where
  | null
  | number (n : UInt64)
  | string (s : String)
  | array (items : List Json)
  | object (members : List (String × Json))
  | payload (p : Payload)
  deriving Repr

namespace Json

/-- `document[key] = value` on an object: the member with that key takes the value, or a new
member is inserted in key order (`std::less<std::string>`). -/
def assign (key : String) (value : Json) : List (String × Json) -> List (String × Json)
  | [] => [(key, value)]
  | (k, v) :: rest =>
      if key.data < k.data then (key, value) :: (k, v) :: rest
      else if key = k then (key, value) :: rest
      else (k, v) :: assign key value rest

/-- `document.emplace(key, value)` on an object: a new member in key order, unless a member
has that key already. -/
def emplace (key : String) (value : Json) : List (String × Json) -> List (String × Json)
  | [] => [(key, value)]
  | (k, v) :: rest =>
      if key.data < k.data then (key, value) :: (k, v) :: rest
      else if key = k then (k, v) :: rest
      else (k, v) :: emplace key value rest

/-- `is_object()`. -/
def isObject : Json -> Bool
  | .object _ => true
  | _ => false

/-- The member of an object with key `key`. -/
def get : Json -> String -> Option Json
  | .object members, key => members.lookup key
  | _, _ => none

/-- Conversion to `std::string`, which throws unless the value is a string. -/
def str? : Json -> Option String
  | .string s => some s
  | _ => none

/-- Conversion to `uint64_t`, which throws unless the value is a number. -/
def num? : Json -> Option UInt64
  | .number n => some n
  | _ => none

/-- The messages of a data batch: an array of payloads. -/
def payloads? : Json -> Option (List Payload)
  | .array items => items.mapM fun
      | .payload p => some p
      | _ => none
  | _ => none

theorem payloads_map (messages : List Payload) :
    payloads? (.array (messages.map .payload)) = some messages := by
  induction messages with
  | nil => rfl
  | cons m rest ih =>
    simp only [payloads?, List.map_cons, List.mapM_cons] at ih ⊢
    rw [ih]
    rfl

end Json

/-! ## What the session writes -/

namespace SubscribeRequest

/-- The body of the template `subscribe_request::to_json` parses. -/
def templateBody : List (String × Json) :=
  [("channel", .string "<not_set>"), ("subscription_id", .string "<not_set>")]

/-- The template `subscribe_request::to_json` parses. -/
def template : List (String × Json) :=
  [("action", .string "rtm/subscribe"), ("body", .object templateBody), ("id", .number 2)]

/-- The `history` object: starting from `null`, `age` and then `count` are emplaced where they
are set. -/
def history (q : SubscribeRequest) : List (String × Json) :=
  let h := match q.age with
    | some age => Json.emplace "age" (.number age) []
    | none => []
  match q.count with
  | some count => Json.emplace "count" (.number count) h
  | none => h

/-- The body: `channel` and `subscription_id` are the channel, and `history` is emplaced when
`age` or `count` is set. -/
def body (q : SubscribeRequest) : List (String × Json) :=
  let body := Json.assign "subscription_id" (.string q.channel)
    (Json.assign "channel" (.string q.channel) templateBody)
  if q.age.isSome || q.count.isSome then Json.emplace "history" (.object q.history) body
  else body

/-- `subscribe_request::to_json`: `id` is assigned, then the body is filled in place. -/
def toJson (q : SubscribeRequest) : Json :=
  .object (Json.assign "body" (.object q.body) (Json.assign "id" (.number q.id) template))

end SubscribeRequest

namespace UnsubscribeRequest

/-- The body of the template `unsubscribe_request::to_json` parses. -/
def templateBody : List (String × Json) := [("subscription_id", .string "<not_set>")]

/-- The template `unsubscribe_request::to_json` parses. -/
def template : List (String × Json) :=
  [("action", .string "rtm/unsubscribe"), ("body", .object templateBody), ("id", .number 2)]

/-- `unsubscribe_request::to_json`. -/
def toJson (q : UnsubscribeRequest) : Json :=
  .object (Json.assign "body"
    (.object (Json.assign "subscription_id" (.string q.channel) templateBody))
    (Json.assign "id" (.number q.id) template))

end UnsubscribeRequest

/-- The body of the template `publish` parses. -/
def publishTemplateBody : List (String × Json) :=
  [("channel", .string "<not_set>"), ("message", .string "<not_set>")]

/-- The document `publish` writes: `body.channel` and `body.message` are assigned. -/
def publishDocument (channel : String) (message : Payload) : Json :=
  .object (Json.assign "body"
    (.object (Json.assign "message" (.payload message)
      (Json.assign "channel" (.string channel) publishTemplateBody)))
    [("action", .string "rtm/publish"), ("body", .object publishTemplateBody)])

/-- The document `_ws.write` sends for a request. -/
def Request.toJson : Request -> Json
  | .publish channel message => publishDocument channel message
  | .subscribe q => q.toJson
  | .unsubscribe q => q.toJson

/-- The `history` member of a subscribe body: absent when neither bound is set, and otherwise
an object holding the bounds that are set. -/
def historyMember (age count : Option UInt64) : List (String × Json) :=
  if age.isNone && count.isNone then []
  else
    [("history", .object (age.toList.map (("age", .number ·)) ++
      count.toList.map (("count", .number ·))))]

theorem SubscribeRequest.toJson_eq (q : SubscribeRequest) :
    q.toJson = .object
      [("action", .string "rtm/subscribe"),
        ("body", .object ([("channel", .string q.channel)] ++ historyMember q.age q.count ++
          [("subscription_id", .string q.channel)])),
        ("id", .number q.id)] := by
  obtain ⟨id, channel, age, count⟩ := q
  cases age <;> cases count <;> rfl

theorem UnsubscribeRequest.toJson_eq (q : UnsubscribeRequest) :
    q.toJson = .object
      [("action", .string "rtm/unsubscribe"),
        ("body", .object [("subscription_id", .string q.channel)]), ("id", .number q.id)] :=
  rfl

theorem publishDocument_eq (channel : String) (message : Payload) :
    publishDocument channel message = .object
      [("action", .string "rtm/publish"),
        ("body", .object [("channel", .string channel), ("message", .payload message)])] :=
  rfl

theorem historyMember_inj {age count age' count' : Option UInt64}
    (h : historyMember age count = historyMember age' count') : age = age' ∧ count = count' := by
  cases age <;> cases count <;> cases age' <;> cases count' <;>
    simp_all [historyMember]

/-- Different requests are written as different documents, so the server reads the request
the session meant. -/
theorem Request.toJson_injective : Function.Injective Request.toJson := by
  intro r r' h
  rcases r with ⟨channel, message⟩ | ⟨id, channel, age, count⟩ | ⟨id, channel⟩ <;>
    rcases r' with ⟨channel', message'⟩ | ⟨id', channel', age', count'⟩ | ⟨id', channel'⟩ <;>
    simp only [Request.toJson, SubscribeRequest.toJson_eq, UnsubscribeRequest.toJson_eq,
      publishDocument_eq, Json.object.injEq, Json.string.injEq, Json.number.injEq,
      Json.payload.injEq, List.cons.injEq, List.cons_append, List.singleton_append,
      List.nil_append, Prod.mk.injEq, and_true, true_and] at h
  case publish.publish => rw [h.1, h.2]
  case subscribe.mk.subscribe.mk =>
    obtain ⟨⟨rfl, h⟩, rfl⟩ := h
    obtain ⟨rfl, rfl⟩ := historyMember_inj (List.append_cancel_right h)
    rfl
  case unsubscribe.mk.unsubscribe.mk => rw [h.1, h.2]
  all_goals simp_all [String.ext_iff]

/-! ## What the session reads -/

/-- What `process_input` reads from a received document: whether it is an object, `action`
and `id`, and `body.subscription_id` and `body.messages`.  A field is `none` where it is
missing or not of the type the code converts it to. -/
def Document.ofJson (j : Json) : Document :=
  { isObject := j.isObject
    action := (j.get "action").bind Json.str?
    id := (j.get "id").bind Json.num?
    subscriptionId := ((j.get "body").bind (·.get "subscription_id")).bind Json.str?
    messages := ((j.get "body").bind (·.get "messages")).bind Json.payloads? }

/-- The document a conforming server sends: an answer carries the request's id in its
envelope, and a data batch names its subscription and lists its messages. -/
def ServerMessage.toJson : ServerMessage -> Json
  | .subscribeAnswer q accepted =>
      .object [("action", .string (if accepted then "rtm/subscribe/ok" else "rtm/subscribe/error")),
        ("id", .number q.id)]
  | .unsubscribeAnswer q accepted =>
      .object
        [("action", .string (if accepted then "rtm/unsubscribe/ok" else "rtm/unsubscribe/error")),
          ("id", .number q.id)]
  | .data channel messages =>
      .object [("action", .string "rtm/subscription/data"),
        ("body", .object [("messages", .array (messages.map .payload)),
          ("subscription_id", .string channel)])]

theorem ServerMessage.document_ofJson (m : ServerMessage) :
    Document.ofJson m.toJson = m.document := by
  cases m with
  | subscribeAnswer q accepted => cases accepted <;> rfl
  | unsubscribeAnswer q accepted => cases accepted <;> rfl
  | data channel messages =>
    simp only [Document.ofJson, ServerMessage.toJson, ServerMessage.document]
    congr
    exact Json.payloads_map messages

end RtmClient
