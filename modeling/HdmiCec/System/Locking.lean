import HdmiCec.Lib.Locking

/-!
# The mutexes of the library

The functions of the library as far as their mutexes and shared members go, read off the source
function by function: the scopes of the lock guards, each access to a member that several threads
use, and where an exception may leave. Conditions are left open, so that everything the code may do
is among the runs.

A thread that runs `Bus::Reader::run` or `Bus::Writer::run` has a mutex of its own while it runs,
and so has a callback of the hardware layer: `while (!isStopped())` waits for a worker as if for
this mutex, and a call of the hardware layer may wait for its callbacks.

Any number of threads lock the mutexes in one order, so that there is no deadlock, as long as no
listener calls `LibCCEC::init` or `term`. The members that mutexes guard are never raced for.
-/

namespace HdmiCec.Locking

open Lib

/-! ### Mutexes and shared members -/

inductive Lock where
  /-- `LibCCEC::mutex` -/
  | lib
  /-- thread `i` is in `Bus::Reader::run` -/
  | reader (i : ℕ)
  | rMutex
  /-- `mutex` of the `c`th connection -/
  | conn (c : ℕ)
  | wMutex
  /-- thread `i` is in `Bus::Writer::run` -/
  | writer (i : ℕ)
  /-- `DriverImpl::mutex` -/
  | driver
  /-- thread `i` is in a callback of the hardware layer -/
  | callback (i : ℕ)
  /-- `mutex` of `DriverImpl::rQueue` -/
  | rQueue
  /-- `mutex` of `Bus::wQueue` -/
  | wQueue
  /-- the mutex of `cond` in `DriverImpl::rQueue` -/
  | rCond
  /-- the mutex of `cond` in `Bus::wQueue` -/
  | wCond
deriving DecidableEq

/-- The members that several threads use. -/
inductive Member where
  | initialized
  | started
  | listeners
  /-- `frameListeners` of the `c`th connection -/
  | frameListeners (c : ℕ)
  /-- `source` of the `c`th connection -/
  | source (c : ℕ)
  | logicalAddresses
  | status
  | nativeHandle
  /-- `Stoppable::state` of the reader -/
  | readerState
  /-- `Stoppable::state` of the writer -/
  | writerState
  /-- the deque of `DriverImpl::rQueue` -/
  | rEvents
  /-- the deque of `Bus::wQueue` -/
  | wEvents
  /-- the flag of `cond` in `DriverImpl::rQueue` -/
  | rFlag
  /-- the flag of `cond` in `Bus::wQueue` -/
  | wFlag
deriving DecidableEq

abbrev LibCode := Code Lock Member

/-! ### Event queues -/

/-- An `EventQueue` with its mutex, its deque and its condition variable. -/
structure Queue where
  mutex : Lock
  events : Member
  condMutex : Lock
  flag : Member

/-- `DriverImpl::rQueue`. -/
def rQueue : Queue := ⟨.rQueue, .rEvents, .rCond, .rFlag⟩

/-- `Bus::wQueue`. -/
def wQueue : Queue := ⟨.wQueue, .wEvents, .wCond, .wFlag⟩

namespace Queue

/-- `cond.set()`, `cond.reset()` and `cond.notifyAll()`. -/
def setCond (q : Queue) : LibCode := .scope q.condMutex (.write q.flag)

def isSet (q : Queue) : LibCode := .scope q.condMutex (.read q.flag)

/-- `cond.wait()`: the mutex is released while the thread sleeps. -/
def wait (q : Queue) : LibCode := .block [.loop (.block [q.isSet, .pause]), q.isSet]

def poll (q : Queue) : LibCode :=
  .block [
    q.wait,
    .scope q.mutex (.block [
      q.isSet,
      -- `return ET()` ends the scope early
      .opt (.block [
        .read q.events,
        .opt (.block [
          q.isSet,
          .read q.events,
          .oneOf [
            .block [.read q.events, .write q.events, .read q.events, .opt q.setCond],
            q.setCond]])])])]

def size (q : Queue) : LibCode := .scope q.mutex (.read q.events)

def offer (q : Queue) : LibCode :=
  .scope q.mutex (.block [
    .read q.events,
    .oneOf [.raise, .block [.write q.events, q.setCond, q.setCond]]])

end Queue

/-! ### The driver -/

namespace DriverImpl

/-- A call of the hardware layer with the handle, which may wait for callbacks. -/
def hal : LibCode :=
  .block [.read .nativeHandle, .loop (.choose fun i => .scope (.callback i) .skip)]

def getIncomingQueue : LibCode := .block [.read .status, .mayRaise]

/-- `DriverReceiveCallback` catches everything. -/
def driverReceiveCallback : LibCode :=
  .opt (.attempt (.block [.mayRaise, getIncomingQueue, rQueue.offer]) .skip)

def «open» : LibCode :=
  .scope .driver (.block [
    .read .status,
    .opt (.block [.write .nativeHandle, hal, .mayRaise, hal, hal, .write .status])])

def close : LibCode :=
  .scope .driver (.block [
    .read .status,
    .opt (.block [.write .status, .attempt rQueue.offer .skip, hal, .write .status, .mayRaise])])

/-- `rQueue.poll()` with what follows it in the loop of `read`. -/
def readRound : LibCode :=
  .block [
    rQueue.poll,
    -- a sentinel: when the driver is not open the queue is flushed with the mutex
    .opt (.scope .driver (.block [
      .read .status,
      .opt (.block [.loop (.block [rQueue.size, rQueue.poll]), rQueue.size, .raise])]))]

def read : LibCode :=
  .block [
    .scope .driver (.block [.read .status, .mayRaise]),
    readRound,
    .loop readRound]

/-- `printFrameDetails` lets `std::out_of_range` through. -/
def printFrameDetails : LibCode := .mayRaise

/-- `write` and `writeAsync`. -/
def write : LibCode :=
  .block [
    printFrameDetails,
    .scope .driver (.block [.read .status, .mayRaise, hal, .mayRaise])]

/-- `getLogicalAddress` and `getPhysicalAddress`. -/
def getAddress : LibCode := .scope .driver hal

def removeLogicalAddress : LibCode :=
  .scope .driver (.block [.read .status, .mayRaise, .write .logicalAddresses, hal])

def addLogicalAddress : LibCode :=
  .scope .driver (.block [
    .read .status, .mayRaise, hal, .oneOf [.raise, .write .logicalAddresses]])

def isValidLogicalAddress : LibCode := .scope .driver (.read .logicalAddresses)

def poll : LibCode := write

end DriverImpl

/-! ### The bus -/

namespace Bus

/-- A scope with `rlock_(rMutex), wlock_(wMutex)`. -/
def locked (a : LibCode) : LibCode := .scope .rMutex (.scope .wMutex a)

/-- `if (!started) throw InvalidStateException()`. -/
def checkStarted : LibCode := .block [.read .started, .mayRaise]

def start : LibCode :=
  locked (.block [
    .read .readerState, .read .writerState, DriverImpl.open, .write .started])

/-- `stopStarted()`. -/
def stopStarted (state : Member) : LibCode := .block [.read state, .opt (.write state)]

def readerStop : LibCode :=
  .block [
    .scope .rMutex (stopStarted .readerState),
    .attempt DriverImpl.close .skip,
    .loop (.read .readerState),
    .choose fun i => .scope (.reader i) .skip]

def writerStop : LibCode :=
  .block [
    .scope .wMutex (.block [
      .read .writerState,
      .opt (.block [
        stopStarted .writerState, .attempt wQueue.offer .skip, .read .writerState])]),
    .loop (.read .writerState),
    .choose fun i => .scope (.writer i) .skip]

def stop : LibCode :=
  .block [
    locked (.write .started),
    readerStop,
    locked writerStop,
    DriverImpl.close,
    .read .readerState,
    .read .writerState]

/-- `addFrameListener` and `removeFrameListener`. -/
def editListeners : LibCode := .scope .rMutex (.block [checkStarted, .write .listeners])

/-- `send` without a timeout. -/
def sendOnce : LibCode := locked (.block [checkStarted, DriverImpl.write])

def send : LibCode :=
  .oneOf [
    sendOnce,
    .loop (locked (.attempt (.block [checkStarted, sendOnce]) .mayRaise))]

def sendAsync : LibCode :=
  .scope .wMutex (.block [checkStarted, .attempt wQueue.offer .raise])

/-- `poll` and `ping`. -/
def poll : LibCode := locked (.block [checkStarted, DriverImpl.poll])

end Bus

/-! ### Connections -/

namespace Connection

def «open» (c : ℕ) : LibCode := .block [.read (.source c), .mayRaise, Bus.editListeners]

/-- `addFrameListener` and `removeFrameListener`. -/
def editFrameListeners (c : ℕ) : LibCode := .scope (.conn c) (.write (.frameListeners c))

def close (c : ℕ) : LibCode := .block [editFrameListeners c, Bus.editListeners]

def matchSource (c : ℕ) : LibCode :=
  .block [.read (.source c), DriverImpl.isValidLogicalAddress, .opt (.read (.source c))]

/-- `send` and `sendTo`, with and without `doThrow`. `sendTo` reads the source for the header. -/
def send (c : ℕ) : LibCode :=
  .block [.opt (.read (.source c)), .mayRaise, matchSource c, .attempt Bus.send .mayRaise]

/-- `sendAsync` and `sendToAsync`. -/
def sendAsync (c : ℕ) : LibCode :=
  .block [.opt (.read (.source c)), .mayRaise, matchSource c, Bus.sendAsync]

/-- `poll` and `ping`. -/
def poll : LibCode := Bus.poll

def getSource (c : ℕ) : LibCode := .read (.source c)

def setSource (c : ℕ) : LibCode := .write (.source c)

end Connection

/-! ### The library -/

namespace LibCCEC

def init : LibCode :=
  .scope .lib (.block [
    .read .initialized, .mayRaise, DriverImpl.open, Bus.start, .write .initialized])

def term : LibCode :=
  .scope .lib (.block [
    .read .initialized, .mayRaise, Bus.stop, DriverImpl.close, .write .initialized])

def addLogicalAddress : LibCode :=
  .block [.read .initialized, .mayRaise, DriverImpl.addLogicalAddress]

/-- `getLogicalAddress` and `getPhysicalAddress`. -/
def getAddress : LibCode :=
  .block [.read .initialized, .mayRaise, DriverImpl.getAddress, .mayRaise]

end LibCCEC

/-- The functions that anybody may call, on the `c`th connection where it is about one. -/
def calls (c : ℕ) : LibCode :=
  .oneOf [
    Connection.open c, Connection.close c, Connection.editFrameListeners c, Connection.send c,
    Connection.sendAsync c, Connection.poll, Connection.getSource c, Connection.setSource c,
    LibCCEC.addLogicalAddress, LibCCEC.getAddress, DriverImpl.removeLogicalAddress]

/-! ### The threads -/

/-- A listener: any calls, and it may raise. -/
def listener : LibCode := .block [.loop (.choose calls), .mayRaise]

/-- `DefaultFrameListener::notify` of the `c`th connection. -/
def notify (c : ℕ) : LibCode :=
  .scope (.conn c) (.loop (.block [.read (.frameListeners c), listener]))

/-- `Bus::Reader::run` in thread `i`. It catches `InvalidStateException` only, and then logs whether
it is running. -/
def readerRun (i : ℕ) : LibCode :=
  .scope (.reader i) (.block [
    .read .readerState,
    .opt (.write .readerState),
    .loop (.block [
      .read .readerState,
      .attempt
        (.block [
          DriverImpl.read,
          .scope .rMutex (.loop (.block [
            .read .listeners, DriverImpl.printFrameDetails, .choose notify]))])
        (.oneOf [.read .readerState, .raise])]),
    .read .readerState,
    .write .readerState])

/-- `Bus::Writer::run` in thread `i`. -/
def writerRun (i : ℕ) : LibCode :=
  .scope (.writer i) (.block [
    .read .writerState,
    .opt (.write .writerState),
    .loop (.block [
      .read .writerState,
      .attempt
        (.block [
          wQueue.poll,
          .oneOf [DriverImpl.write, .block [.read .writerState, .raise]]])
        (.oneOf [.read .writerState, .skip, .raise]),
      .read .writerState]),
    .read .writerState,
    .opt (.block [.loop (.block [wQueue.size, wQueue.poll]), wQueue.size]),
    .write .writerState])

/-- What a thread runs: an application, which may also call `init` and `term`, a worker, or the
receiving thread of the hardware layer. -/
inductive Role where
  | app
  | reader
  | writer
  | hal

def Role.code (i : ℕ) : Role → LibCode
  | app => .loop (.attempt (.oneOf [.choose calls, LibCCEC.init, LibCCEC.term]) .skip)
  | reader => readerRun i
  | writer => writerRun i
  | hal => .loop (.scope (.callback i) DriverImpl.driverReceiveCallback)

/-- Thread `i` has the role `roles i`. -/
def threads (roles : ℕ → Role) : Threads Lock Member := .init fun i => (roles i).code i

section Unfolding

attribute [local simp] Code.Checked Queue.setCond Queue.isSet Queue.wait Queue.poll Queue.size
  Queue.offer rQueue wQueue DriverImpl.hal DriverImpl.getIncomingQueue
  DriverImpl.driverReceiveCallback DriverImpl.open DriverImpl.close DriverImpl.readRound
  DriverImpl.read DriverImpl.printFrameDetails DriverImpl.write DriverImpl.getAddress
  DriverImpl.removeLogicalAddress DriverImpl.addLogicalAddress DriverImpl.isValidLogicalAddress
  DriverImpl.poll Bus.locked Bus.checkStarted Bus.start Bus.stopStarted Bus.readerStop
  Bus.writerStop Bus.stop Bus.editListeners Bus.sendOnce Bus.send Bus.sendAsync Bus.poll
  Connection.open Connection.editFrameListeners Connection.close Connection.matchSource
  Connection.send Connection.sendAsync Connection.poll Connection.getSource Connection.setSource
  LibCCEC.init LibCCEC.term LibCCEC.addLogicalAddress LibCCEC.getAddress calls

/-! ### The order of the mutexes -/

def Lock.rank : Lock → ℕ
  | lib => 0
  | reader _ => 1
  | rMutex => 2
  | conn _ => 3
  | wMutex => 4
  | writer _ => 5
  | driver => 6
  | callback _ => 7
  | rQueue | wQueue => 8
  | rCond | wCond => 9

/-- The mutex of a connection is locked inside that of another one only with `rMutex`. -/
def gate : ℕ → Option Lock
  | 3 => some .rMutex
  | _ => none

lemma Lock.rank_le (m : Lock) : m.rank ≤ 9 := by
  cases m <;> simp [rank]

/-- Mutexes are locked in order, and a thread that waits for an event has no mutex of the library
but, in the flush of `read`, the driver's. -/
def Ordered (held : List Lock) (x : Act Lock Member) : Prop :=
  Threads.InOrder Lock.rank gate held x ∧ (x = .pause →
    (∃ i, held = [.reader i]) ∨ (∃ i, held = [.driver, .reader i]) ∨ ∃ i, held = [.writer i])

attribute [local simp] Ordered Threads.InOrder Lock.rank gate

lemma calls_ordered (c : ℕ) : (calls c).Checked Ordered [] := by
  simp

/-- A listener is called with the mutex of its connection and `rMutex`. -/
lemma calls_ordered_in_listener (c c' i : ℕ) :
    (calls c).Checked Ordered [.conn c', .rMutex, .reader i] := by
  by_cases h : c = c' <;> simp [h]

lemma notify_ordered (c i : ℕ) : (notify c).Checked Ordered [.rMutex, .reader i] := by
  have hcalls := fun c' => calls_ordered_in_listener c' c i
  simp only [notify, listener, Code.Checked, Code.checked_block]
  simp [-calls, hcalls]

lemma readerRun_ordered (i : ℕ) : (readerRun i).Checked Ordered [] := by
  have hnotify := fun c => notify_ordered c i
  simp [readerRun, hnotify]

lemma writerRun_ordered (i : ℕ) : (writerRun i).Checked Ordered [] := by
  simp [writerRun]

lemma code_ordered (i : ℕ) (role : Role) : (role.code i).Checked Ordered [] := by
  cases role with
  | app =>
    have hcalls := calls_ordered
    simp [-calls, Role.code, hcalls]
  | reader => exact readerRun_ordered i
  | writer => exact writerRun_ordered i
  | hal => simp [Role.code]

/-! ### The members that mutexes guard -/

/-- The mutexes of a member: it is written with all of them and read with one. -/
def guards : Member → List Lock
  | .started => [.rMutex, .wMutex]
  | .listeners => [.rMutex]
  | .frameListeners c => [.conn c]
  | .logicalAddresses | .nativeHandle => [.driver]
  | .rEvents => [.rQueue]
  | .wEvents => [.wQueue]
  | .rFlag => [.rCond]
  | .wFlag => [.wCond]
  | .initialized | .source _ | .status | .readerState | .writerState => []

attribute [local simp] Threads.Guarded guards

lemma calls_guarded (c : ℕ) (held : List Lock) :
    (calls c).Checked (Threads.Guarded guards) held := by
  simp

lemma code_guarded (i : ℕ) (role : Role) :
    (role.code i).Checked (Threads.Guarded guards) [] := by
  cases role with
  | app =>
    have hcalls := fun c => calls_guarded c []
    simp [-calls, Role.code, hcalls]
  | reader =>
    have hnotify : ∀ c, (notify c).Checked (Threads.Guarded guards) [.rMutex, .reader i] := by
      intro c
      have hcalls := fun c' => calls_guarded c' [.conn c, .rMutex, .reader i]
      simp [-calls, notify, listener, hcalls]
    simp [Role.code, readerRun, hnotify]
  | writer => simp [Role.code, writerRun]
  | hal => simp [Role.code]

end Unfolding

/-! ### No deadlock -/

variable {s : Threads Lock Member} {roles : ℕ → Role}
  {ok : Threads Lock Member → ℕ × ℕ → Prop}

/-- Whatever the threads do, from each that has not ended a chain of threads that wait for a mutex
leads to one that can go on. If that one waits for an event it has no mutex but, in the flush of
`read`, the driver's. -/
theorem threads_never_deadlock (h : Run Threads.step ok (threads roles) s) {i : ℕ}
    (hi : s.stack i ≠ []) :
    ∃ j, Relation.ReflTransGen s.WaitsFor i j ∧ (∃ s', s.step (j, 0) = some s') ∧
      (Frame.act (s.stack j) = some .pause →
        (∃ k, Frame.held (s.stack j) = [.reader k]) ∨
        (∃ k, Frame.held (s.stack j) = [.driver, .reader k]) ∨
        ∃ k, Frame.held (s.stack j) = [.writer k]) := by
  have hordered : ∀ i, ((roles i).code i).Checked Ordered [] := fun i => code_ordered i (roles i)
  have horder : ∀ i, ((roles i).code i).Checked (Threads.InOrder Lock.rank gate) [] :=
    fun i => (hordered i).mono fun _ _ hx => hx.1
  obtain ⟨j, hij, hj⟩ := Threads.no_deadlock Lock.rank_le horder h hi
  exact ⟨j, hij, hj, fun hpause => ((Threads.checked_of_run hordered h j).act hpause).2 rfl⟩

/-- A call waits for the driver's mutex, which another one has locked. -/
theorem threads_never_deadlock_driver :
    ∃ s : Threads Lock Member, s.WaitsFor 1 0 ∧
      ∃ j, Relation.ReflTransGen s.WaitsFor 1 j ∧ (∃ s', s.step (j, 0) = some s') ∧
        (Frame.act (s.stack j) = some .pause →
          (∃ k, Frame.held (s.stack j) = [.reader k]) ∨
          (∃ k, Frame.held (s.stack j) = [.driver, .reader k]) ∨
          ∃ k, Frame.held (s.stack j) = [.writer k]) := by
  obtain ⟨s, hrun, hs⟩ := Run.of_execSat
    (show execSat Threads.step (fun _ _ => True)
      (fun s : Threads Lock Member =>
        Frame.act (s.stack 1) = some (.lock .driver) ∧ s.mutexes .driver = some (0, 1))
      (threads fun _ => .app)
      ([1, 0, 0, 0, 10, 0].map (0, ·) ++ [1, 0, 0, 0, 10].map (1, ·)) = true by decide)
  obtain ⟨hact, hmutex⟩ := of_decide_eq_true hs
  have hwaits : s.WaitsFor 1 0 := ⟨.driver, 1, hact, hmutex, by decide⟩
  refine ⟨s, hwaits, threads_never_deadlock hrun fun hnil => ?_⟩
  rw [hnil] at hact
  cases hact

/-! ### Races -/

/-- In every run the mutexes of a member are all held by a thread that is about to write it, and one
of them by a thread that is about to read it. So the members that two threads may be about to access
at once, one of them to write, are among those that no mutex guards: `initialized`, the source of a
connection, the status of the driver and the states of the workers. -/
theorem guarded_never_raced (h : Run Threads.step ok (threads roles) s) (x : Member) :
    (∀ i, Frame.act (s.stack i) = some (.write x) →
      ∀ m ∈ guards x, m ∈ Frame.held (s.stack i)) ∧
    (∀ i, Frame.act (s.stack i) = some (.read x) →
      guards x = [] ∨ ∃ m ∈ guards x, m ∈ Frame.held (s.stack i)) ∧
    (s.Races x → x = .initialized ∨ (∃ c, x = .source c) ∨ x = .status ∨ x = .readerState ∨
      x = .writerState) := by
  have hguarded : ∀ i, ((roles i).code i).Checked (Threads.Guarded guards) [] :=
    fun i => code_guarded i (roles i)
  have hchecked := Threads.checked_of_run hguarded h
  refine ⟨fun i hi => (hchecked i).act hi, fun i hi => (hchecked i).act hi, ?_⟩
  intro hrace
  have hx : guards x = [] := by
    by_contra hx
    exact Threads.no_race hguarded h hx hrace
  cases x with
  | initialized | status | readerState | writerState => simp
  | source c => simp
  | _ => cases hx

/-- One thread is about to write to the registry of the driver, and another one waits for it. -/
theorem guarded_never_raced_registry :
    ∃ s : Threads Lock Member, Frame.act (s.stack 0) = some (.write .logicalAddresses) ∧
      Frame.act (s.stack 1) = some (.lock .driver) ∧ .driver ∈ Frame.held (s.stack 0) ∧
      ¬ s.Races .logicalAddresses := by
  obtain ⟨s, hrun, hs⟩ := Run.of_execSat
    (show execSat Threads.step (fun _ _ => True)
      (fun s : Threads Lock Member =>
        Frame.act (s.stack 0) = some (.write .logicalAddresses) ∧
          Frame.act (s.stack 1) = some (.lock .driver))
      (threads fun _ => .app)
      ([1, 0, 0, 0, 10, 0, 0, 0, 0, 1, 1, 1].map (0, ·) ++ [1, 0, 0, 0, 10].map (1, ·)) = true by
        decide)
  obtain ⟨hwrite, hlock⟩ := of_decide_eq_true hs
  obtain ⟨hheld, -, hraces⟩ := guarded_never_raced hrun .logicalAddresses
  exact ⟨s, hwrite, hlock, hheld 0 hwrite .driver (by simp [guards]),
    fun hrace => by simpa using hraces hrace⟩

end HdmiCec.Locking
