import RtmClient.Session.Invariant

/-!
# The thread-checking decorator

`thread_checking_client` lets threads other than the event loop's call `publish`,
`subscribe_channel` and `unsubscribe`: such a call is posted to the `io_service` and runs later
on the event loop, while a call made on the event loop's thread runs at once.  `start` and
`stop` `CHECK_EQ` that they are called on the event loop's thread.  The decorator wraps any
client, so its model is generic in the wrapped client's step function.

The event loop runs posted handlers in the order they were posted, and the decorator behaves
as the wrapped client run on the inputs the event loop executes.  A call made on the event
loop's thread does not wait for calls posted before it, so the wrapped client can see an
`unsubscribe` before the `subscribe_channel` called earlier from another thread.
-/

namespace RtmClient

/-- A call of the `client` interface that `thread_checking_client` forwards. -/
inductive Call where
  | publish (channel : String) (message : Payload) (hasCallbacks : Bool) (refcount : Nat)
  | subscribeChannel (channel : String) (sub : Handle) (callbacks : Callbacks)
      (options : Option SubscriptionOptions)
  | unsubscribe (sub : Handle)
  deriving DecidableEq, Repr

/-- The session's input for a forwarded call. -/
def Call.toInput : Call -> Input
  | .publish channel message hasCallbacks refcount =>
      .publish channel message hasCallbacks refcount
  | .subscribeChannel channel sub callbacks options =>
      .subscribeChannel channel sub callbacks options
  | .unsubscribe sub => .unsubscribe sub

/-- `thread_checking_client`: the wrapped client, and the calls posted to the event loop that
have not run yet, oldest first. -/
structure ThreadCheckingClient (σ : Type) where
  client : σ
  posted : List Call

namespace ThreadCheckingClient

/-- What can happen to the decorator: a forwarded method called on the event loop's thread
when `onLoop`; `start` or `stop` of the wrapped client called through it; the event loop
running the oldest posted call; or the event loop running a completion of the wrapped
client. -/
inductive Input (ι : Type) where
  | call (onLoop : Bool) (c : Call)
  | lifecycle (onLoop : Bool) (i : ι)
  | runPosted (c : Call)
  | completion (i : ι)

section

variable {σ ι ε : Type} (forward : Call -> ι) (inner : σ -> ι -> Except Failure (σ × List ε))

/-- The wrapped client takes an input. -/
def run (d : ThreadCheckingClient σ) (i : ι) : Except Failure (ThreadCheckingClient σ × List ε) :=
  (inner d.client i).map fun p => ({ d with client := p.1 }, p.2)

/-- One step of the decorator. -/
def step (d : ThreadCheckingClient σ) : Input ι -> Except Failure (ThreadCheckingClient σ × List ε)
  | .call true c => run inner d (forward c)
  | .call false c => .ok ({ d with posted := d.posted ++ [c] }, [])
  | .lifecycle onLoop i =>
      if onLoop then run inner d i
      else .error (.check "std::this_thread::get_id() == _io_thread_id")
  | .runPosted _ =>
      match d.posted with
      | [] => .ok (d, [])
      | c :: rest => run inner { d with posted := rest } (forward c)
  | .completion i => run inner d i

/-- The input a step runs on the wrapped client, if any. -/
def executes : Input ι -> Option ι
  | .call true c => some (forward c)
  | .call false _ => none
  | .lifecycle _ i => some i
  | .runPosted c => some (forward c)
  | .completion i => some i

/-- The event loop runs a posted call only when it is the oldest. -/
def Enabled (d : ThreadCheckingClient σ) : Input ι -> Prop
  | .runPosted c => d.posted.head? = some c
  | _ => True

/-- A run of the decorator: each step taken, with its effects. -/
inductive Run : ThreadCheckingClient σ -> List (Input ι × List ε) -> ThreadCheckingClient σ -> Prop
  | nil (d : ThreadCheckingClient σ) : Run d [] d
  | cons {d t d' : ThreadCheckingClient σ} {x : Input ι} {e : List ε}
      {rest : List (Input ι × List ε)} :
      Enabled d x -> step forward inner d x = .ok (t, e) -> Run t rest d' -> Run d ((x, e) :: rest) d'

/-- A run of the wrapped client on its own: each input taken, with its effects. -/
inductive Runs : σ -> List (ι × List ε) -> σ -> Prop
  | nil (s : σ) : Runs s [] s
  | cons {s t s' : σ} {i : ι} {e : List ε} {rest : List (ι × List ε)} :
      inner s i = .ok (t, e) -> Runs t rest s' -> Runs s ((i, e) :: rest) s'

end

/-- The calls a trace posts from other threads, in order. -/
def postedBy {ι ε : Type} : List (Input ι × List ε) -> List Call
  | [] => []
  | (.call false c, _) :: rest => c :: postedBy rest
  | _ :: rest => postedBy rest

/-- The posted calls a trace runs, in order. -/
def ran {ι ε : Type} : List (Input ι × List ε) -> List Call
  | [] => []
  | (.runPosted c, _) :: rest => c :: ran rest
  | _ :: rest => ran rest

/-- The inputs a trace runs on the wrapped client, with their effects. -/
def executed {ι ε : Type} (forward : Call -> ι) : List (Input ι × List ε) -> List (ι × List ε)
  | [] => []
  | (x, e) :: rest =>
      match executes forward x with
      | some i => (i, e) :: executed forward rest
      | none => executed forward rest

section

variable {σ ι ε : Type} {forward : Call -> ι} {inner : σ -> ι -> Except Failure (σ × List ε)}

theorem run_ok {d t : ThreadCheckingClient σ} {i : ι} {e : List ε}
    (h : run inner d i = .ok (t, e)) :
    inner d.client i = .ok (t.client, e) ∧ t.posted = d.posted := by
  unfold run at h
  rcases hi : inner d.client i with f | ⟨s, e'⟩ <;> rw [hi] at h <;> cases h
  exact ⟨rfl, rfl⟩

theorem step_ok {d t : ThreadCheckingClient σ} {x : Input ι} {e : List ε} (hen : Enabled d x)
    (h : step forward inner d x = .ok (t, e)) :
    (exists c, x = .call false c ∧ t = { d with posted := d.posted ++ [c] } ∧ e = []) ∨
    (exists i, executes forward x = some i ∧ inner d.client i = .ok (t.client, e) ∧
      ((exists c, x = .runPosted c ∧ d.posted = c :: t.posted) ∨
        ((∀ c, x ≠ .runPosted c) ∧ t.posted = d.posted))) := by
  cases x with
  | call onLoop c =>
    cases onLoop
    · cases h
      exact .inl ⟨c, rfl, rfl, rfl⟩
    · obtain ⟨hi, hp⟩ := run_ok h
      exact .inr ⟨_, rfl, hi, .inr ⟨(fun _ h => nomatch h), hp⟩⟩
  | lifecycle onLoop i =>
    cases onLoop
    · cases h
    · obtain ⟨hi, hp⟩ := run_ok h
      exact .inr ⟨_, rfl, hi, .inr ⟨(fun _ h => nomatch h), hp⟩⟩
  | runPosted c =>
    have hen : d.posted.head? = some c := hen
    obtain ⟨rest, hd⟩ : exists rest, d.posted = c :: rest := by
      cases hp : d.posted with
      | nil => rw [hp] at hen; cases hen
      | cons c' rest => rw [hp] at hen; cases hen; exact ⟨rest, rfl⟩
    simp only [step, hd] at h
    obtain ⟨hi, hp⟩ := run_ok h
    exact .inr ⟨_, rfl, hi, .inl ⟨c, rfl, hd.trans (congrArg _ hp.symm)⟩⟩
  | completion i =>
    obtain ⟨hi, hp⟩ := run_ok h
    exact .inr ⟨_, rfl, hi, .inr ⟨(fun _ h => nomatch h), hp⟩⟩

theorem Run.fifo {d d' : ThreadCheckingClient σ} {tr : List (Input ι × List ε)}
    (h : Run forward inner d tr d') : ran tr ++ d'.posted = d.posted ++ postedBy tr := by
  induction h with
  | nil => simp [ran, postedBy]
  | @cons d t d' x e rest hen hstep _ ih =>
    rcases step_ok hen hstep with ⟨c, rfl, rfl, rfl⟩ | ⟨i, hex, -, ⟨c, rfl, hd⟩ | ⟨hx, hp⟩⟩
    · simpa [ran, postedBy] using ih
    · simp only [ran, postedBy, List.cons_append, ih, hd]
    · rw [hp] at ih
      cases x with
      | call onLoop c =>
        cases onLoop
        · cases hex
        · simpa [ran, postedBy] using ih
      | runPosted c => exact absurd rfl (hx c)
      | _ => simpa [ran, postedBy] using ih

theorem Run.runs {d d' : ThreadCheckingClient σ} {tr : List (Input ι × List ε)}
    (h : Run forward inner d tr d') : Runs inner d.client (executed forward tr) d'.client := by
  induction h with
  | nil => exact .nil _
  | @cons d t d' x e rest hen hstep _ ih =>
    rcases step_ok hen hstep with ⟨c, rfl, rfl, rfl⟩ | ⟨i, hx, hi, -⟩
    · exact ih
    · simp only [executed, hx]
      exact .cons hi ih

theorem loop_call_overtakes_posted {d t d' : ThreadCheckingClient σ} {c : Call} {e : List ε}
    {post : List (Input ι × List ε)} (i : ι)
    (h : step forward inner d (.call true c) = .ok (t, e)) (hpost : Run forward inner t post d') :
    step forward inner d (.lifecycle false i) =
        .error (.check "std::this_thread::get_id() == _io_thread_id") ∧
      inner d.client (forward c) = .ok (t.client, e) ∧
      ran post ++ d'.posted = d.posted ++ postedBy post := by
  obtain ⟨hi, hp⟩ := run_ok h
  exact ⟨rfl, hi, hp ▸ hpost.fifo⟩

end

/-! ## Over the session -/

/-- The decorator over a new session, with nothing posted. -/
def overSession : ThreadCheckingClient SecureClient := { client := SecureClient.init, posted := [] }

/- Another thread subscribes handle 1 to `"a"` on a started session, and then the event loop's
thread unsubscribes it: the unsubscribe runs first and finds no record. -/
example :
    Run Call.toInput SecureClient.step overSession
      [(.lifecycle true (.start .opened), []),
        (.call false (.subscribeChannel "a" ⟨1⟩ ⟨1⟩ none), [])]
      { client := { SecureClient.init with clientState := .running, reads := 1, waits := 1 }
        posted := [.subscribeChannel "a" ⟨1⟩ ⟨1⟩ none] } ∧
    step Call.toInput SecureClient.step
      { client := { SecureClient.init with clientState := .running, reads := 1, waits := 1 }
        posted := [.subscribeChannel "a" ⟨1⟩ ⟨1⟩ none] }
      (.call true (.unsubscribe ⟨1⟩)) =
      .error (.abort "didn't find subscription") :=
  ⟨.cons trivial rfl <| .cons trivial rfl <| .nil _, rfl⟩

end ThreadCheckingClient

end RtmClient
