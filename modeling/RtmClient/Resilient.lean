import RtmClient.Session.Steps

/-!
# The reconnecting decorator

`resilient_client` of `rtm_client.cpp`, composed over the sessions its factory makes.  The
factory passes the decorator as the session's error callback, so every error a session
reports reaches `resilient_client::on_error`, which restarts: a new session replaces the
current one and, once the decorator was started, is started and given every entry of the
replay list again.  The replay list is `_subscriptions`, from which `unsubscribe` removes with
`std::remove_if` and no `erase`.

The decorator runs on the event loop's thread, so its `CHECK_EQ` on the thread id holds.
`restart` destroys the session it replaces, but not the operations that session left with the
event loop: their handlers still run, on the destroyed `secure_client`.  The session's error
callback runs synchronously, so a restart made from inside `process_input` destroys the session
while its read handler is still running, and the handler goes on using it.
-/

namespace RtmClient

/-- `resilient_client::subscription_info`: the arguments of a `subscribe_channel` call, kept to
replay it. -/
structure SubscriptionInfo where
  channel : String
  sub : Handle
  callbacks : Callbacks
  options : Option SubscriptionOptions
  deriving DecidableEq, Repr

/-- What a move leaves in a `subscription_info`: libstdc++ empties the string and copies the
pointers. -/
def SubscriptionInfo.movedFrom (si : SubscriptionInfo) : SubscriptionInfo :=
  { si with channel := "" }

/-! ## `std::remove_if` -/

section RemoveIf

variable {α : Type} (p : α -> Bool) (movedFrom : α -> α)

/-- The loop of libstdc++'s `__remove_if` once `find_if` has found the first element to
remove: every later element that is kept is move-assigned to the write position `result`.
The slots from the read position `first` on are not written before they are read, so the
loop reads the original elements. -/
def removeIfLoop : List α -> List α -> Nat -> Nat -> List α
  | [], v, _, _ => v
  | y :: rest, v, result, first =>
      if p y then removeIfLoop rest v result (first + 1)
      else removeIfLoop rest ((v.set result y).set first (movedFrom y)) (result + 1) (first + 1)

/-- `std::remove_if` over a whole vector, as libstdc++ implements it.  The caller drops the
iterator it returns, so the vector keeps its length. -/
def removeIf (v : List α) : List α :=
  let first := v.findIdx p
  if first < v.length then removeIfLoop p movedFrom (v.drop (first + 1)) v first (first + 1)
  else v

theorem length_removeIfLoop (rest v : List α) (result first : Nat) :
    (removeIfLoop p movedFrom rest v result first).length = v.length := by
  induction rest generalizing v result first with
  | nil => rfl
  | cons y rest ih =>
    simp only [removeIfLoop]
    split <;> simp [ih]

theorem length_removeIf (v : List α) : (removeIf p movedFrom v).length = v.length := by
  simp only [removeIf]
  split
  · exact length_removeIfLoop ..
  · rfl

theorem take_set_of_le {v : List α} {m n : Nat} (h : m ≤ n) (y : α) :
    (v.set n y).take m = v.take m := by
  rw [List.set_take, List.set_eq_of_length_le (by simp; omega)]

theorem take_succ_set {v : List α} {n : Nat} (h : n < v.length) (y : α) :
    (v.set n y).take (n + 1) = v.take n ++ [y] := by
  rw [List.take_succ, take_set_of_le le_rfl, List.getElem?_set_self h]
  rfl

theorem removeIfLoop_take (rest v : List α) (result first : Nat) (hlt : result < first)
    (hrest : v.drop first = rest) :
    (removeIfLoop p movedFrom rest v result first).take
        (result + (rest.filter fun x => !p x).length) =
      v.take result ++ rest.filter fun x => !p x := by
  induction rest generalizing v result first with
  | nil => simp [removeIfLoop]
  | cons y rest ih =>
    have hfirst : first < v.length := by
      by_contra h
      rw [List.drop_eq_nil_of_le (by omega)] at hrest
      cases hrest
    rw [List.drop_eq_getElem_cons hfirst, List.cons.injEq] at hrest
    obtain ⟨rfl, hrest⟩ := hrest
    simp only [removeIfLoop]
    by_cases hp : p v[first]
    · simp only [hp, if_true, List.filter_cons, Bool.not_true, Bool.false_eq_true, if_false]
      exact ih v result (first + 1) (by omega) hrest
    · simp only [hp, Bool.false_eq_true, if_false, List.filter_cons, Bool.not_false, if_true,
        List.length_cons]
      have ih := ih ((v.set result v[first]).set first (movedFrom v[first])) (result + 1)
        (first + 1) (by omega)
        (by rw [List.drop_set_of_lt _ _ (by omega), List.drop_set_of_lt _ _ (by omega), hrest])
      rw [show result + ((rest.filter fun x => !p x).length + 1) =
          result + 1 + (rest.filter fun x => !p x).length by omega, ih,
        take_set_of_le (by omega), take_succ_set (by omega : result < v.length)]
      simp

theorem removeIf_take (v : List α) :
    (removeIf p movedFrom v).take (v.filter fun x => !p x).length = v.filter fun x => !p x := by
  simp only [removeIf]
  split
  · rename_i hlt
    have hfront : ∀ x ∈ v.take (v.findIdx p), p x = false := by
      intro x hx
      obtain ⟨i, hi, rfl⟩ := List.getElem_of_mem hx
      rw [List.getElem_take]
      exact List.not_of_lt_findIdx (by simp at hi; omega)
    have hfilter : v.filter (fun x => !p x) =
        v.take (v.findIdx p) ++ (v.drop (v.findIdx p + 1)).filter fun x => !p x := by
      conv_lhs => rw [← List.take_append_drop (v.findIdx p) v, List.drop_eq_getElem_cons hlt]
      rw [List.filter_append, List.filter_eq_self.2 (by simpa using hfront), List.filter_cons,
        List.findIdx_getElem (w := hlt)]
      rfl
    rw [hfilter, List.length_append, List.length_take, min_eq_left hlt.le]
    exact removeIfLoop_take p movedFrom _ v _ _ (Nat.lt_succ_self _) rfl
  · rename_i hge
    have hall := List.findIdx_eq_length.1 (le_antisymm (List.findIdx_le_length p) (not_lt.1 hge))
    rw [List.filter_eq_self.2 (by simpa using hall), List.take_length]

end RemoveIf

/-! ## The decorator -/

/-- The operations of the sessions `restart` destroyed that the event loop still owes a
completion for. -/
structure StaleOps where
  reads : Nat := 0
  waits : Nat := 0
  pings : Nat := 0
  deriving DecidableEq, Repr

/-- The operations a destroyed session leaves outstanding join the stale ones. -/
def StaleOps.retire (o : StaleOps) : Option SecureClient -> StaleOps
  | none => o
  | some s => { reads := o.reads + s.reads, waits := o.waits + s.waits, pings := o.pings + s.pings }

/-- `resilient_client`: the current session (`_client`, empty until the first `start`),
`_started`, and the replay list `_subscriptions`; with the operations of the sessions it
destroyed, whose completions the event loop still runs. -/
structure ResilientClient where
  client : Option SecureClient
  started : Bool
  subscriptions : List SubscriptionInfo
  stale : StaleOps := {}
  deriving DecidableEq

/-- What the decorator makes visible. -/
inductive Event where
  /-- An effect of the current session other than an error report. -/
  | effect (e : Effect)
  /-- `on_error` called `restart`. -/
  | restart
  /-- `_error_callbacks.on_error(ec)`: the decorator's own error callback. -/
  | onError (error : ClientError)
  deriving DecidableEq, Repr

namespace ResilientClient

/-- A freshly constructed `resilient_client`. -/
def init : ResilientClient := { client := none, started := false, subscriptions := [] }

/-- `_factory(*this)`: a new session whose error callback is the decorator. -/
def factory : SecureClient := SecureClient.init

/-- A call forwarded to `_client`; there is none before the first `start`. -/
def forward (r : ResilientClient)
    (call : SecureClient -> Except Failure (SecureClient × List Effect)) :
    Except Failure (ResilientClient × List Event) :=
  match r.client with
  | none => .error .nullClient
  | some s => (call s).map fun p => ({ r with client := some p.1 }, p.2.map .effect)

/-- `resilient_client::publish`. -/
def publish (r : ResilientClient) (channel : String) (message : Payload) (hasCallbacks : Bool)
    (refcount : Nat) : Except Failure (ResilientClient × List Event) :=
  r.forward fun s => s.publish channel message hasCallbacks refcount

/-- `resilient_client::subscribe_channel`: appends to the replay list, then forwards. -/
def subscribeChannel (r : ResilientClient) (channel : String) (sub : Handle)
    (callbacks : Callbacks) (options : Option SubscriptionOptions) :
    Except Failure (ResilientClient × List Event) :=
  let info : SubscriptionInfo := { channel, sub, callbacks, options }
  ({ r with subscriptions := r.subscriptions ++ [info] }).forward
    fun s => s.subscribeChannel channel sub callbacks options

/-- `resilient_client::unsubscribe`: forwards, then runs `std::remove_if` over the replay list
and drops its result. -/
def unsubscribe (r : ResilientClient) (sub : Handle) :
    Except Failure (ResilientClient × List Event) :=
  (r.forward fun s => s.unsubscribe sub).map fun p =>
    ({ p.1 with
        subscriptions :=
          removeIf (fun si => decide (si.sub = sub)) SubscriptionInfo.movedFrom p.1.subscriptions },
      p.2)

/-- `resilient_client::start`: makes the first session, marks the decorator started, and
starts the session, whose result goes back to the caller. -/
def start (r : ResilientClient) (outcome : StartOutcome) :
    Except Failure (ResilientClient × Option ClientError) :=
  ((r.client.getD factory).start outcome).map fun p =>
    ({ r with client := some p.1, started := true }, p.2)

/-- `resilient_client::stop`. -/
def stop (r : ResilientClient) (cancelled closed : Bool) :
    Except Failure (ResilientClient × Option ClientError) :=
  match r.client with
  | none => .error .nullClient
  | some s => (s.stop cancelled closed).map fun p =>
      ({ r with client := some p.1, started := false }, p.2)

/-- `_client = _factory(*this)` in `restart`: `s` replaces the current session, which is
destroyed with its operations still outstanding. -/
def replaceClient (r : ResilientClient) (s : SecureClient) : ResilientClient :=
  { r with client := some s, stale := r.stale.retire r.client }

/-- The loop of `restart` that subscribes every entry of the replay list, in order. -/
def replay (s : SecureClient) : List SubscriptionInfo -> Except Failure (SecureClient × List Effect)
  | [] => .ok (s, [])
  | si :: rest => do
      let (s, e) ← s.subscribeChannel si.channel si.sub si.callbacks si.options
      let (s, e') ← replay s rest
      .ok (s, e ++ e')

/-- `restart`: a new session replaces the current one.  Once the decorator was started, the
new session is started with `outcome`: its error goes to the decorator's own error callback,
and otherwise the replay list is replayed on it. -/
def restart (r : ResilientClient) (outcome : StartOutcome) :
    Except Failure (ResilientClient × List Event) :=
  if !r.started then .ok (r.replaceClient factory, [])
  else
    match factory.start outcome with
    | .error f => .error f
    | .ok (s, some ec) => .ok (r.replaceClient s, [.onError ec])
    | .ok (s, none) => (replay s r.subscriptions).map fun p => (r.replaceClient p.1, p.2.map .effect)

/-- One effect of the session reaching the decorator: an error report calls `on_error`, which
restarts; the other effects pass through. -/
def onEffect (r : ResilientClient) (outcome : StartOutcome) :
    Effect -> Except Failure (ResilientClient × List Event)
  | .onError _ => (r.restart outcome).map fun p => (p.1, .restart :: p.2)
  | .write request => .ok (r, [.effect (.write request)])
  | .onData callbacks sub message => .ok (r, [.effect (.onData callbacks sub message)])
  | .ping => .ok (r, [.effect .ping])

/-- The effects of one step of the session, in order. -/
def absorb (r : ResilientClient) (outcome : StartOutcome) :
    List Effect -> Except Failure (ResilientClient × List Event)
  | [] => .ok (r, [])
  | e :: rest => do
      let (r, ev) ← r.onEffect outcome e
      let (r, ev') ← r.absorb outcome rest
      .ok (r, ev ++ ev')

/-- The member of the session a completion handler uses after `process_input` returned from
the error callback: the response branches erase the matched record, and after
`rtm/subscription/error` the read handler issues the next read. -/
def usesAfterError : RtmClient.Input -> Option String
  | .readDone (.received (some d)) =>
      some (if d.action = some "rtm/subscription/error" then "_ws" else "_subscriptions")
  | _ => none

/-- A completion on the current session; a restart it causes meets `outcome` when it starts
the new session.  A restart made from inside `process_input` destroys the session whose
handler is running, and the handler then uses it. -/
def complete (r : ResilientClient) (i : RtmClient.Input) (outcome : StartOutcome) :
    Except Failure (ResilientClient × List Event) :=
  match r.client with
  | none => .error .nullClient
  | some s => do
      let (s, e) ← s.step i
      let q ← ({ r with client := some s }).absorb outcome e
      match usesAfterError i with
      | some member => if e.any Effect.isOnError then .error (.useAfterFree member) else .ok q
      | none => .ok q

/-- The first member of its destroyed `secure_client` a stale completion handler uses.  A ping
aborted by the destruction only logs. -/
def staleAccess : RtmClient.Input -> Option String
  | .readDone (.received _) => some "_read_buffer"
  | .readDone _ => some "_client_state"
  | .waitDone => some "_ws"
  | .pingDone .aborted => none
  | .pingDone .failed => some "_client_state"
  | .pingDone .sent => some "_ping_timer"
  | _ => none

/-- A completion of an operation of a destroyed session. -/
def staleComplete (r : ResilientClient) (i : RtmClient.Input) :
    Except Failure (ResilientClient × List Event) :=
  match staleAccess i with
  | some member => .error (.useAfterFree member)
  | none => .ok ({ r with stale := { r.stale with pings := r.stale.pings - 1 } }, [])

/-- What can happen to the decorator: a call of one of its methods, or a completion on its
current session together with the outcome a restart would meet. -/
inductive Input where
  | start (outcome : StartOutcome)
  | stop (cancelled closed : Bool)
  | publish (channel : String) (message : Payload) (hasCallbacks : Bool) (refcount : Nat)
  | subscribeChannel (channel : String) (sub : Handle) (callbacks : Callbacks)
      (options : Option SubscriptionOptions)
  | unsubscribe (sub : Handle)
  | complete (i : RtmClient.Input) (restartOutcome : StartOutcome)
  /-- A completion of an operation of a session `restart` destroyed. -/
  | stale (i : RtmClient.Input)
  deriving DecidableEq, Repr

/-- One step of the decorator.  The values `start` and `stop` return go to their caller. -/
def step (r : ResilientClient) : Input -> Except Failure (ResilientClient × List Event)
  | .start outcome => (r.start outcome).map fun p => (p.1, [])
  | .stop cancelled closed => (r.stop cancelled closed).map fun p => (p.1, [])
  | .publish channel message hasCallbacks refcount =>
      r.publish channel message hasCallbacks refcount
  | .subscribeChannel channel sub callbacks options =>
      r.subscribeChannel channel sub callbacks options
  | .unsubscribe sub => r.unsubscribe sub
  | .complete i outcome => r.complete i outcome
  | .stale i => r.staleComplete i

/-- The completions of a session's outstanding operations, and the turns of its batch loop. -/
def isCompletion : RtmClient.Input -> Bool
  | .readDone _ | .waitDone | .pingDone _ | .dataReturned => true
  | _ => false

/-- A stale operation of this kind is outstanding. -/
def StalePending (o : StaleOps) : RtmClient.Input -> Prop
  | .readDone _ => 0 < o.reads
  | .waitDone => 0 < o.waits
  | .pingDone _ => 0 < o.pings
  | _ => False

instance (o : StaleOps) : (i : RtmClient.Input) -> Decidable (StalePending o i)
  | .readDone _ => inferInstanceAs (Decidable (0 < o.reads))
  | .waitDone => inferInstanceAs (Decidable (0 < o.waits))
  | .pingDone _ => inferInstanceAs (Decidable (0 < o.pings))
  | .start _ | .stop .. | .publish .. | .subscribeChannel .. | .unsubscribe _ | .dataReturned =>
      inferInstanceAs (Decidable False)

/-- The event loop is free to run another handler: the current session is not delivering a
batch. -/
def loopFree : Option SecureClient -> Bool
  | some s => s.batch.isNone
  | none => true

/-- The completion `i` can run on the current session. -/
def Pending : Option SecureClient -> RtmClient.Input -> Prop
  | some s, i => isCompletion i ∧ s.Enabled i
  | none, _ => False

instance : (client : Option SecureClient) -> (i : RtmClient.Input) -> Decidable (Pending client i)
  | some s, i => inferInstanceAs (Decidable (_ ∧ s.Enabled i))
  | none, _ => inferInstanceAs (Decidable False)

/-- Calls can always be made; a completion needs its operation outstanding, and a stale one the
event loop free. -/
def Enabled (r : ResilientClient) : Input -> Prop
  | .complete i _ => Pending r.client i
  | .stale i => loopFree r.client ∧ StalePending r.stale i
  | _ => True

instance (r : ResilientClient) : (i : Input) -> Decidable (r.Enabled i)
  | .start _ | .stop .. | .publish .. | .subscribeChannel .. | .unsubscribe _ => isTrue trivial
  | .complete i _ => inferInstanceAs (Decidable (Pending r.client i))
  | .stale i => inferInstanceAs (Decidable (loopFree r.client ∧ StalePending r.stale i))

/-- A run of the decorator: the steps taken and the events each made visible. -/
inductive Run : ResilientClient -> List (Input × List Event) -> ResilientClient -> Prop
  | nil (r : ResilientClient) : Run r [] r
  | cons {r t r' : ResilientClient} {i : Input} {ev : List Event}
      {rest : List (Input × List Event)} :
      r.Enabled i -> r.step i = .ok (t, ev) -> Run t rest r' -> Run r ((i, ev) :: rest) r'

end ResilientClient

end RtmClient
