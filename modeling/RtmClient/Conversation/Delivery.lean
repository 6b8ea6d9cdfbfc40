import RtmClient.Conversation.Safety

/-!
# Data delivery of a subscription

What the server sends for a channel and what the session hands to the callbacks of the
channel's record, over a conversation.  A `Current` record is touched by no step but an
`unsubscribe` of its handle: an answer matches only a record waiting on a response,
`subscribe_channel` adds a record for a channel that has none, and `unsubscribe` changes the
record its handle owns.  The socket is a queue, and `process_input` hands every message of a
batch for a `Current` record to the record's callbacks, in order.  So while the caller does not
unsubscribe the handle, the batches in flight for the channel followed by every batch the server
sends for it are the messages the record's callbacks get followed by those still in flight:
nothing is lost, duplicated or reordered.  This holds whatever the caller and the server
promise.
-/

namespace RtmClient

/-- The messages of a server message that is a batch for `ch`. -/
def ServerMessage.payloadsFor (ch : String) : ServerMessage -> List Payload
  | .data channel messages => if channel = ch then messages else []
  | _ => []

namespace Conversation

/-- The messages of the batches for `ch` among messages in flight, in order. -/
def dataFor (ch : String) (ms : List ServerMessage) : List Payload :=
  ms.flatMap (ServerMessage.payloadsFor ch)

@[simp] theorem dataFor_nil (ch : String) : dataFor ch [] = [] := rfl

@[simp] theorem dataFor_cons (ch : String) (m : ServerMessage) (ms : List ServerMessage) :
    dataFor ch (m :: ms) = m.payloadsFor ch ++ dataFor ch ms := rfl

@[simp] theorem dataFor_append (ch : String) (ms ms' : List ServerMessage) :
    dataFor ch (ms ++ ms') = dataFor ch ms ++ dataFor ch ms' :=
  List.flatMap_append _ _ _

/-- What a step of a conversation shows: a call with the effects of the session's step, the
server answering its oldest request, the server sending a batch, or the session reading a
message with the effects of processing it. -/
inductive Move where
  | call (i : Input) (e : List Effect)
  | serve (accepted : Bool)
  | send (channel : String) (messages : List Payload)
  | read (m : ServerMessage) (e : List Effect)

/-- The messages a move makes the server send for `ch`. -/
def Move.sent (ch : String) : Move -> List Payload
  | .send channel messages => if channel = ch then messages else []
  | _ => []

/-- A step of a conversation, with what it shows. -/
inductive StepWith (rules : Rules) : Conversation -> Move -> Conversation -> Prop
  | call {c : Conversation} {i : Input} {s : SecureClient} {e : List Effect} :
      rules.Allows c.client i -> c.client.step i = .ok (s, e) ->
      StepWith rules c (.call i e) { c with client := s, toServer := c.toServer ++ written e }
  | serve {c : Conversation} {q : Request} {rest : List Request} (accepted : Bool) :
      c.toServer = q :: rest ->
      StepWith rules c (.serve accepted)
        { c with
          toServer := rest
          toClient := c.toClient ++ (rules.serve c.subscribed accepted q).1.toList
          subscribed := (rules.serve c.subscribed accepted q).2 }
  | send {c : Conversation} (channel : String) (messages : List Payload) :
      channel ∈ c.subscribed ->
      StepWith rules c (.send channel messages)
        { c with toClient := c.toClient ++ [.data channel messages] }
  | read {c : Conversation} {m : ServerMessage} {rest : List ServerMessage} {s : SecureClient}
      {e : List Effect} :
      c.toClient = m :: rest -> c.client.processInput m.document = .ok (s, e) ->
      StepWith rules c (.read m e) { c with client := s, toClient := rest }

/-- A run of a conversation: its steps, with what each showed. -/
inductive Trace (rules : Rules) : Conversation -> List Move -> Conversation -> Prop
  | nil (c : Conversation) : Trace rules c [] c
  | cons {c c' c'' : Conversation} {mv : Move} {mvs : List Move} :
      StepWith rules c mv c' -> Trace rules c' mvs c'' -> Trace rules c (mv :: mvs) c''

section

variable {rules : Rules}

theorem StepWith.step {c c' : Conversation} {mv : Move} (h : StepWith rules c mv c') :
    Step rules c c' := by
  cases h with
  | call ha hs => exact .call ha hs
  | serve accepted hS => exact .serve accepted hS
  | send channel messages hch => exact .send channel messages hch
  | read hC hp => exact .read hC hp

theorem Trace.reachable {c c' : Conversation} {mvs : List Move} (h : Reachable rules c)
    (ht : Trace rules c mvs c') : Reachable rules c' := by
  induction ht with
  | nil => exact h
  | cons hs _ ih => exact ih (.step h hs.step)

end

end Conversation

end RtmClient
