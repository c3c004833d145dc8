import Mathlib.Algebra.Order.Ring.Nat
import Mathlib.Data.List.AList
import Mathlib.Logic.Function.Basic

/-! The bounded serving scheduler (`ServingRuntime.cpp`). A pointer to a request state is an
index into `heap`. Each `...Locked` function is the body of a critical section. -/

namespace ShortHand.Serving

/-- A `std::shared_ptr<RequestState>`. -/
abbrev Ref := Nat

/-- Nanoseconds of the steady clock. -/
abbrev Time := Nat

inductive AdmissionStatus where
  | accepted
  | rejectedNotReady
  | rejectedCapacity
  | rejectedQuota
  | rejectedIsolation
  | rejectedDeadline
  | rejectedInvalid
  | rejectedDuplicate
  deriving DecidableEq, Repr

inductive TerminalStatus where
  | succeeded
  | handlerError
  | cancelled
  | deadlineExceeded
  | shutdown
  deriving DecidableEq, Repr

inductive LookupStatus where
  | ready
  | timeout
  | notFound
  deriving DecidableEq, Repr

/-- Byte and thread limits; `maxDeadline` is in milliseconds. -/
structure RuntimeLimits where
  tenantScope : String
  workerThreads : Nat := 4
  queueCapacity : Nat := 128
  maxInFlight : Nat := 132
  completedResultCapacity : Nat := 512
  maxRequestBytes : Nat := 1024 * 1024
  maxResponseBytes : Nat := 1024 * 1024
  maxInFlightRequestBytes : Nat := 64 * 1024 * 1024
  maxRetainedResultBytes : Nat := 64 * 1024 * 1024
  maxDeadline : Int := 30000

/-- The `timeout` is in milliseconds. -/
structure Request where
  requestId : String
  tenantId : String
  payload : String := ""
  timeout : Int := 1000
  deriving DecidableEq, Repr

structure Admission where
  status : AdmissionStatus
  reason : String
  deriving DecidableEq, Repr

structure RequestResult where
  status : TerminalStatus := .handlerError
  output : String := ""
  detail : String := ""
  queueTimeUs : Nat := 0
  serviceTimeUs : Nat := 0
  deriving DecidableEq, Repr

structure ResultLookup where
  status : LookupStatus
  result : RequestResult := {}
  deriving DecidableEq, Repr

structure HandlerResult where
  success : Bool
  output : String
  detail : String
  deriving DecidableEq, Repr

def HandlerResult.failed (reason : String) : HandlerResult := ⟨false, "", reason⟩

/-- The shared cancellation token is the `stopRequested` field: nothing but its
own request state points to it. -/
structure RequestState where
  request : Request
  submittedAt : Time := 0
  deadline : Time := 0
  startedAt : Time := 0
  stopRequested : Bool := false
  started : Bool := false
  done : Bool := false
  result : RequestResult := {}
  deriving DecidableEq, Repr

structure RuntimeMetrics where
  submitted : Nat := 0
  accepted : Nat := 0
  rejectedNotReady : Nat := 0
  rejectedCapacity : Nat := 0
  rejectedQuota : Nat := 0
  rejectedIsolation : Nat := 0
  rejectedDeadline : Nat := 0
  rejectedInvalid : Nat := 0
  rejectedDuplicate : Nat := 0
  succeeded : Nat := 0
  handlerError : Nat := 0
  cancelled : Nat := 0
  deadlineExceeded : Nat := 0
  shutdown : Nat := 0
  resultEvictions : Nat := 0
  saturationEvents : Nat := 0
  deriving DecidableEq, Repr

/-- Where a worker thread stands: at the top of its loop, in the handler with
the request it took, or past its `return`. -/
inductive Worker where
  | waiting
  | executing (request : Ref)
  | exited
  deriving DecidableEq, Repr

/-- A `wait` call that gave up the lock: the id it asked for and the request
state its local `state` keeps alive. -/
structure Waiter where
  requestId : String
  state : Ref
  deriving DecidableEq, Repr

/-- Progress of the one `shutdown` call that the lifecycle mutex lets in. -/
inductive ShutdownPhase where
  | idle
  | draining
  | joining (graceful : Bool)
  deriving DecidableEq, Repr

/-- `emptyPop` records a `front`/`pop_front` on an empty `completedOrder`. -/
structure Runtime where
  limits : RuntimeLimits
  queue : List Ref := []
  requests : AList (fun _ : String => Ref) := ∅
  completedOrder : List String := []
  workers : List Worker := []
  counters : RuntimeMetrics := {}
  live : Bool := true
  accepting : Bool := true
  draining : Bool := false
  stopping : Bool := false
  joined : Bool := false
  active : Nat := 0
  inFlight : Nat := 0
  inFlightRequestBytes : Nat := 0
  retainedResultBytes : Nat := 0
  heap : Ref → RequestState := fun _ => { request := { requestId := "", tenantId := "" } }
  allocated : Nat := 0
  waiters : List Waiter := []
  shutdownPhase : ShutdownPhase := .idle
  clock : Time := 0
  emptyPop : Bool := false

def kMaxWorkers : Nat := 64
def kMaxQueueCapacity : Nat := 65536
def kMaxResultCapacity : Nat := 65536
def kMaxBodyBytes : Nat := 16 * 1024 * 1024
def kMaxAggregateBodyBytes : Nat := 1024 * 1024 * 1024
def kMaxIdentityBytes : Nat := 64
def kMaxSupportedDeadline : Int := 3600000

def validIdentity (value : String) : Bool :=
  value.utf8ByteSize != 0 && value.utf8ByteSize ≤ kMaxIdentityBytes &&
  value.toList.all fun c =>
    ('a' ≤ c && c ≤ 'z') || ('A' ≤ c && c ≤ 'Z') || ('0' ≤ c && c ≤ '9') ||
      c == '.' || c == '_' || c == '-'

def elapsedMicros (start finish : Time) : Nat :=
  if finish ≤ start then 0 else (finish - start) / 1000

/-- `size_t` subtraction. -/
def sizeSub (left right : Nat) : Nat :=
  if right ≤ left then left - right else left + 2 ^ 64 - right

def exceedsCombinedLimit (first second : String) (limit : Nat) : Bool :=
  first.utf8ByteSize > limit || second.utf8ByteSize > limit - first.utf8ByteSize

/-- The constructor throws exactly when this check fails. -/
def validateLimits (limits : RuntimeLimits) : Bool :=
  validIdentity limits.tenantScope &&
  !(limits.workerThreads == 0 || limits.workerThreads > kMaxWorkers) &&
  !(limits.queueCapacity == 0 || limits.queueCapacity > kMaxQueueCapacity) &&
  !(limits.maxInFlight == 0 ||
    limits.maxInFlight > limits.queueCapacity + limits.workerThreads) &&
  !(limits.completedResultCapacity == 0 ||
    limits.completedResultCapacity > kMaxResultCapacity) &&
  !(limits.maxRequestBytes == 0 || limits.maxRequestBytes > kMaxBodyBytes ||
    limits.maxResponseBytes == 0 || limits.maxResponseBytes > kMaxBodyBytes) &&
  !(limits.maxInFlightRequestBytes < limits.maxRequestBytes ||
    limits.maxInFlightRequestBytes > kMaxAggregateBodyBytes ||
    limits.maxRetainedResultBytes < limits.maxResponseBytes ||
    limits.maxRetainedResultBytes > kMaxAggregateBodyBytes) &&
  !(limits.maxDeadline ≤ 0 || limits.maxDeadline > kMaxSupportedDeadline)

/-- The constructed runtime: every worker thread starts at the top of its loop. -/
def initial (limits : RuntimeLimits) : Runtime :=
  { limits, workers := List.replicate limits.workerThreads .waiting }

def RuntimeMetrics.recordTerminal (counters : RuntimeMetrics) : TerminalStatus → RuntimeMetrics
  | .succeeded => { counters with succeeded := counters.succeeded + 1 }
  | .handlerError => { counters with handlerError := counters.handlerError + 1 }
  | .cancelled => { counters with cancelled := counters.cancelled + 1 }
  | .deadlineExceeded => { counters with deadlineExceeded := counters.deadlineExceeded + 1 }
  | .shutdown => { counters with shutdown := counters.shutdown + 1 }

def resultBytes (result : RequestResult) : Nat :=
  result.output.utf8ByteSize + result.detail.utf8ByteSize

namespace Runtime

/-- One round of the eviction loop, after `oldest` left the deque. -/
def evict (runtime : Runtime) (oldest : String) : Runtime :=
  match runtime.requests.lookup oldest with
  | none => runtime
  | some found =>
    if (runtime.heap found).done then
      let evictedBytes := resultBytes (runtime.heap found).result
      { runtime with
        retainedResultBytes :=
          if runtime.retainedResultBytes ≥ evictedBytes
          then runtime.retainedResultBytes - evictedBytes else 0
        requests := runtime.requests.erase oldest
        counters := { runtime.counters with
          resultEvictions := runtime.counters.resultEvictions + 1 } }
    else runtime

/-- The eviction loop over the deque it is called with. -/
def evictWhileOver (runtime : Runtime) : List String → Runtime
  | [] =>
    if runtime.retainedResultBytes > runtime.limits.maxRetainedResultBytes then
      { runtime with completedOrder := [], emptyPop := true }
    else { runtime with completedOrder := [] }
  | oldest :: rest =>
    if (oldest :: rest).length > runtime.limits.completedResultCapacity ||
        runtime.retainedResultBytes > runtime.limits.maxRetainedResultBytes then
      evictWhileOver (runtime.evict oldest) rest
    else { runtime with completedOrder := oldest :: rest }

def retainCompletedLocked (runtime : Runtime) (state : Ref) : Runtime :=
  let bytes := runtime.retainedResultBytes + resultBytes (runtime.heap state).result
  evictWhileOver { runtime with retainedResultBytes := bytes }
    (runtime.completedOrder ++ [(runtime.heap state).request.requestId])

/-- The request state that `completeLocked` leaves behind: the result is stored
and the payload is released. -/
def finished (state : RequestState) (status : TerminalStatus) (output detail : String)
    (completedAt : Time) : RequestState :=
  let serviceStart := if state.started then state.startedAt else completedAt
  { state with
    done := true
    request := { state.request with payload := "" }
    result :=
      { status, output, detail
        queueTimeUs := elapsedMicros state.submittedAt serviceStart
        serviceTimeUs := elapsedMicros serviceStart completedAt } }

/-- The counters and the heap cell after a completion, before retention. -/
def settle (runtime : Runtime) (state : Ref) (status : TerminalStatus)
    (output detail : String) (completedAt : Time) : Runtime :=
  let requestBytes := (runtime.heap state).request.payload.utf8ByteSize
  { runtime with
    heap := Function.update runtime.heap state
      (finished (runtime.heap state) status output detail completedAt)
    active :=
      if (runtime.heap state).started && runtime.active > 0
      then runtime.active - 1 else runtime.active
    inFlight := if runtime.inFlight > 0 then runtime.inFlight - 1 else runtime.inFlight
    inFlightRequestBytes :=
      if runtime.inFlightRequestBytes ≥ requestBytes
      then runtime.inFlightRequestBytes - requestBytes else 0
    counters := runtime.counters.recordTerminal status }

def completeLocked (runtime : Runtime) (state : Ref) (status : TerminalStatus)
    (output detail : String) (completedAt : Time) : Runtime :=
  if (runtime.heap state).done then runtime
  else (runtime.settle state status output detail completedAt).retainCompletedLocked state

end Runtime

/-- `expireQueuedLocked` binds `const auto &state = *current`, erases `current`
from the deque and then passes `state` on. The reference is to the erased slot,
and the language leaves open which entry that slot holds after the erasure.
`read before erased after` is the entry a standard library leaves there. -/
structure ErasedSlot where
  read : List Ref → Ref → List Ref → Ref
  entry : ∀ before erased after, read before erased after ∈ before ++ erased :: after

/-- libstdc++ closes the gap from the nearer end: the entries before the slot
move up by one, or those after it move down. At either end of the deque nothing
moves and the destroyed pointer's bytes stay in place. -/
def libstdcxxSlot : ErasedSlot where
  read before erased after :=
    if before.length < (before.length + 1 + after.length) / 2
    then before.getLast?.getD erased else after.head?.getD erased
  entry before erased after := by
    split
    · cases found : before.getLast? with
      | none => simp
      | some last => simp [List.mem_of_getLast? found]
    · cases after <;> simp

namespace Runtime

variable (runtime : Runtime)

/-- Whether the expiry pass removes this entry: its deadline has passed or its
token is set. -/
def leavesQueue (now : Time) (state : Ref) : Bool :=
  (runtime.heap state).deadline ≤ now || (runtime.heap state).stopRequested

/-- The expiry loop with `kept` behind the iterator and the rest ahead of it. -/
def expireFrom (slot : ErasedSlot) (now : Time) (runtime : Runtime) (kept : List Ref) :
    List Ref → Runtime
  | [] => { runtime with queue := kept }
  | state :: ahead =>
    if (runtime.heap state).deadline ≤ now then
      expireFrom slot now
        (runtime.completeLocked (slot.read kept state ahead) .deadlineExceeded ""
          "deadline_exceeded_while_queued" now) kept ahead
    else if (runtime.heap state).stopRequested then
      expireFrom slot now
        (runtime.completeLocked (slot.read kept state ahead) .cancelled ""
          "cancelled_while_queued" now) kept ahead
    else expireFrom slot now runtime (kept ++ [state]) ahead

def expireQueuedLocked (slot : ErasedSlot) (runtime : Runtime) (now : Time) : Runtime :=
  expireFrom slot now runtime [] runtime.queue

/-- The worker keeps the request it popped and leaves the critical section. -/
def beginExecution (worker : Nat) (state : Ref) (startedAt : Time) : Runtime :=
  { runtime with
    heap := Function.update runtime.heap state
      { runtime.heap state with started := true, startedAt }
    active := runtime.active + 1
    workers := runtime.workers.set worker (.executing state) }

/-- The first critical section of `workerLoop`, with its clock readings: one for
the expiry pass, one for the deadline check or a cancelled completion, and one
for the start or an expired completion. -/
def workerTake (slot : ErasedSlot) (runtime : Runtime) (worker : Nat)
    (expiredAt checkedAt startedAt : Time) : Runtime :=
  if runtime.stopping && runtime.queue.isEmpty then
    { runtime with workers := runtime.workers.set worker .exited }
  else
    let runtime := runtime.expireQueuedLocked slot expiredAt
    match runtime.queue with
    | [] =>
      if runtime.stopping then { runtime with workers := runtime.workers.set worker .exited }
      else runtime
    | state :: rest =>
      let runtime := { runtime with queue := rest }
      if (runtime.heap state).stopRequested then
        runtime.completeLocked state .cancelled "" "cancelled_before_execution" checkedAt
      else if (runtime.heap state).deadline ≤ checkedAt then
        runtime.completeLocked state .deadlineExceeded "" "deadline_exceeded_before_execution"
          startedAt
      else runtime.beginExecution worker state startedAt

/-- What the worker makes of the handler: a value, or the text of an exception. -/
def handlerOutcome : Except String HandlerResult → HandlerResult × Bool
  | .ok result => (result, false)
  | .error what => (HandlerResult.failed ("handler_exception:" ++ what), true)

/-- The second critical section of `workerLoop`, after the handler returned. -/
def workerFinish (worker : Nat) (state : Ref)
    (outcome : Except String HandlerResult) (completedAt : Time) : Runtime :=
  let runtime := { runtime with workers := runtime.workers.set worker .waiting }
  let (handlerResult, handlerThrew) := handlerOutcome outcome
  if (runtime.heap state).stopRequested then
    runtime.completeLocked state .cancelled "" "cancelled_during_execution" completedAt
  else if completedAt ≥ (runtime.heap state).deadline then
    runtime.completeLocked state .deadlineExceeded "" "deadline_exceeded_during_execution"
      completedAt
  else if exceedsCombinedLimit handlerResult.output handlerResult.detail
      runtime.limits.maxResponseBytes then
    runtime.completeLocked state .handlerError "" "response_quota_exceeded" completedAt
  else if handlerThrew || !handlerResult.success then
    runtime.completeLocked state .handlerError ""
      (if handlerResult.detail.isEmpty then "handler_error" else handlerResult.detail) completedAt
  else
    runtime.completeLocked state .succeeded handlerResult.output handlerResult.detail completedAt

def countRejection (counters : RuntimeMetrics) : AdmissionStatus → RuntimeMetrics
  | .rejectedNotReady => { counters with rejectedNotReady := counters.rejectedNotReady + 1 }
  | .rejectedCapacity =>
    { counters with
      rejectedCapacity := counters.rejectedCapacity + 1
      saturationEvents := counters.saturationEvents + 1 }
  | .rejectedQuota =>
    { counters with
      rejectedQuota := counters.rejectedQuota + 1
      saturationEvents := counters.saturationEvents + 1 }
  | .rejectedIsolation => { counters with rejectedIsolation := counters.rejectedIsolation + 1 }
  | .rejectedDeadline => { counters with rejectedDeadline := counters.rejectedDeadline + 1 }
  | .rejectedInvalid => { counters with rejectedInvalid := counters.rejectedInvalid + 1 }
  | .rejectedDuplicate => { counters with rejectedDuplicate := counters.rejectedDuplicate + 1 }
  | .accepted => counters

/-- The admission checks of `submit`, in the source's order. -/
def admission (request : Request) : Admission :=
  if !runtime.accepting || runtime.stopping then
    ⟨.rejectedNotReady, "runtime_not_accepting"⟩
  else if !validIdentity request.requestId || !validIdentity request.tenantId then
    ⟨.rejectedInvalid, "invalid_request_identity"⟩
  else if request.tenantId != runtime.limits.tenantScope then
    ⟨.rejectedIsolation, "tenant_scope_mismatch"⟩
  else if request.payload.utf8ByteSize > runtime.limits.maxRequestBytes then
    ⟨.rejectedQuota, "request_byte_quota_exceeded"⟩
  else if request.timeout ≤ 0 || request.timeout > runtime.limits.maxDeadline then
    ⟨.rejectedDeadline, "invalid_request_deadline"⟩
  else if (runtime.requests.lookup request.requestId).isSome then
    ⟨.rejectedDuplicate, "duplicate_request_id"⟩
  else if runtime.queue.length ≥ runtime.limits.queueCapacity then
    ⟨.rejectedCapacity, "queue_capacity_exceeded"⟩
  else if runtime.inFlight ≥ runtime.limits.maxInFlight then
    ⟨.rejectedQuota, "in_flight_quota_exceeded"⟩
  else if request.payload.utf8ByteSize >
      sizeSub runtime.limits.maxInFlightRequestBytes runtime.inFlightRequestBytes then
    ⟨.rejectedQuota, "in_flight_request_byte_quota_exceeded"⟩
  else ⟨.accepted, "accepted"⟩

/-- Allocate the request state and enter it everywhere. The timeout is positive
here: `admission` has checked it. -/
def acceptRequest (request : Request) (now : Time) : Runtime :=
  { runtime with
    heap := Function.update runtime.heap runtime.allocated
      { request, submittedAt := now, deadline := now + request.timeout.toNat * 1000000 }
    allocated := runtime.allocated + 1
    requests := runtime.requests.insert request.requestId runtime.allocated
    queue := runtime.queue ++ [runtime.allocated]
    inFlight := runtime.inFlight + 1
    inFlightRequestBytes := runtime.inFlightRequestBytes + request.payload.utf8ByteSize
    counters := { runtime.counters with accepted := runtime.counters.accepted + 1 } }

def submit (slot : ErasedSlot) (runtime : Runtime) (request : Request) (now : Time) :
    Admission × Runtime :=
  let counted := { runtime with
    counters := { runtime.counters with submitted := runtime.counters.submitted + 1 } }
  let expired := counted.expireQueuedLocked slot now
  let answer := expired.admission request
  if answer.status = .accepted then (answer, expired.acceptRequest request now)
  else (answer, { expired with counters := countRejection expired.counters answer.status })

/-- `state->token->requestStop()`. -/
def requestStop (state : Ref) : Runtime :=
  { runtime with
    heap := Function.update runtime.heap state
      { runtime.heap state with stopRequested := true } }

def cancel (tenantId requestId : String) (now : Time) : Bool × Runtime :=
  if tenantId != runtime.limits.tenantScope then (false, runtime)
  else
    match runtime.requests.lookup requestId with
    | none => (false, runtime)
    | some state =>
      if (runtime.heap state).done then (false, runtime)
      else
        let flagged := runtime.requestStop state
        if state ∈ flagged.queue then
          (true, Runtime.completeLocked { flagged with queue := flagged.queue.erase state }
            state .cancelled "" "cancelled_while_queued" now)
        else (true, flagged)

/-- The end of `wait`: take the result of `state` and drop its bookkeeping. -/
def takeResult (requestId : String) (state : Ref) : ResultLookup × Runtime :=
  let result := (runtime.heap state).result
  let erased :=
    if runtime.requests.lookup requestId = some state
    then { runtime with requests := runtime.requests.erase requestId } else runtime
  let released :=
    if requestId ∈ erased.completedOrder then
      let bytes := resultBytes result
      { erased with
        retainedResultBytes :=
          if erased.retainedResultBytes ≥ bytes then erased.retainedResultBytes - bytes else 0
        completedOrder := erased.completedOrder.erase requestId }
    else erased
  (⟨.ready, result⟩, released)

/-- `wait` up to the point where it answers or blocks; a blocked call is entered
in `waiters`. -/
def waitBegin (tenantId requestId : String) (maxWait : Int) : Option ResultLookup × Runtime :=
  if maxWait < 0 then (some { status := .timeout }, runtime)
  else if tenantId != runtime.limits.tenantScope then (some { status := .notFound }, runtime)
  else
    match runtime.requests.lookup requestId with
    | none => (some { status := .notFound }, runtime)
    | some state =>
      if (runtime.heap state).done then
        let (answer, after) := runtime.takeResult requestId state
        (some answer, after)
      else (none, { runtime with waiters := ⟨requestId, state⟩ :: runtime.waiters })

def beginDrain : Bool × Runtime :=
  if runtime.stopping || !runtime.live then (false, runtime)
  else (runtime.accepting, { runtime with accepting := false, draining := true })

/-- The forced part of `shutdown`: set the token of every live request in the
map, then complete the queue from its front. -/
def requestStops : Runtime :=
  { runtime with
    heap := fun state =>
      if runtime.requests.entries.any (fun entry => entry.2 == state) &&
          !(runtime.heap state).done
      then { runtime.heap state with stopRequested := true } else runtime.heap state }

def shutdownQueue (now : Time) (runtime : Runtime) : List Ref → Runtime
  | [] => { runtime with queue := [] }
  | state :: rest =>
    shutdownQueue now
      (completeLocked { runtime with queue := rest } state .shutdown ""
        "grace_period_exhausted" now) rest

/-- `shutdown` once its grace period is over or nothing is in flight. -/
def shutdownResume (now : Time) : Runtime :=
  let graceful := runtime.inFlight == 0
  let settled :=
    if graceful then runtime
    else shutdownQueue now runtime.requestStops runtime.requestStops.queue
  { settled with stopping := true, shutdownPhase := .joining graceful }

end Runtime

end ShortHand.Serving
