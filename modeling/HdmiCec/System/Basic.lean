import HdmiCec.Driver.Basic
import HdmiCec.Lib.Transition

/-!
# The library as a system of threads

The control thread that calls `LibCCEC::init` and `term`, or `Bus::start` and `stop`, the threads
that run `Bus::Reader::run` and `Bus::Writer::run`, the receive callbacks of the hardware layer and
the callers of `Bus::sendAsync`, as one transition system. A step is one access to shared state: a
read or a write of a flag, the part of a queue operation under the queue's lock, or a call of the
hardware layer. The mutexes are held exactly at certain points of the threads, so they are read off
the program counters.
-/

namespace HdmiCec

open Lib DriverImpl

/-! ### Where the threads are -/

/-- The points of a thread in `Bus::Reader::run`. -/
inductive ReaderPC where
  /-- before `if (isStopped())` -/
  | spawned
  /-- before `runStarted()` -/
  | starting
  /-- at `while (isRunning())` -/
  | test
  /-- in `read`, before the check of the status -/
  | readCheck
  /-- in `read`, waiting in `rQueue.poll()` -/
  | wait
  /-- in `read`, before the part of `rQueue.poll()` under the lock -/
  | pop
  /-- in `read`, with a frame that it will return -/
  | got (p : FramePtr)
  /-- `read` has returned, before `rMutex` is taken -/
  | lock (p : FramePtr)
  /-- notifying the listeners, with `rMutex` -/
  | dispatch (p : FramePtr)
  /-- in `read`, with a sentinel, before the driver's mutex is taken -/
  | null
  /-- at `while (rQueue.size() > 0)`, with the driver's mutex -/
  | flush
  /-- in the loop after it, waiting in `rQueue.poll()` -/
  | flushWait
  /-- in the loop after it, before the part of `rQueue.poll()` under the lock -/
  | flushPop
  /-- before `stopCompleted()` -/
  | exit
deriving DecidableEq

/-- The points of a thread in `Bus::Writer::run`. -/
inductive WriterPC where
  /-- before `if (isStopped())` -/
  | spawned
  /-- before `runStarted()` -/
  | starting
  /-- waiting in `wQueue.poll()` -/
  | wait
  /-- before the part of `wQueue.poll()` under the lock -/
  | pop
  /-- with a frame in hand, before `write` -/
  | write (p : FramePtr)
  /-- at `while (isRunning())` -/
  | test
  /-- at `if (!isRunning())` -/
  | drainTest
  /-- at `while (wQueue.size() > 0)` -/
  | drain
  /-- in the loop after it, waiting in `wQueue.poll()` -/
  | drainWait
  /-- in the loop after it, before the part of `wQueue.poll()` under the lock -/
  | drainPop
  /-- before `stopCompleted()` -/
  | exit
deriving DecidableEq

/-- The callers of `DriverImpl::close`. -/
inductive Closer where
  | readerStop
  | busStop
  | libTerm
deriving DecidableEq

/-- The points of the control thread. -/
inductive Ctl where
  | idle
  /-- in `LibCCEC::init`, before `Driver::open()` -/
  | initOpen
  /-- before `Bus::getInstance()`, whose first call starts the reader's thread -/
  | getInstance
  /-- in `Bus::Bus`, before the writer's thread is started -/
  | construct
  /-- in `Bus::start`, before `rMutex` and `wMutex` are taken -/
  | startLock
  /-- in `Bus::start`, before `if (reader.isStopped())` -/
  | startReader
  /-- in `Bus::start`, before `if (writer.isStopped())` -/
  | startWriter
  /-- in `Bus::start`, before `Driver::open()` -/
  | startOpen
  /-- in `Bus::start`, before `started = true` -/
  | startDone
  /-- in `Bus::stop`, before `started = false` -/
  | stopFlag
  /-- in `Reader::stop`, before `stopStarted()` -/
  | readerStop
  /-- before `DriverImpl::close` checks the status -/
  | close (caller : Closer)
  /-- in `DriverImpl::close`, before `rQueue.offer(0)` -/
  | closeOffer (caller : Closer)
  /-- in `DriverImpl::close`, before `HdmiCecClose` -/
  | closeHal (caller : Closer)
  /-- in `Reader::stop`, at `while (!isStopped())` -/
  | readerWait
  /-- in `Bus::stop`, before `rMutex` and `wMutex` are taken -/
  | writerLock
  /-- in `Writer::stop`, at `if (isRunning())` -/
  | writerTest
  /-- in `Writer::stop`, before `stopStarted()` -/
  | writerSet
  /-- in `Writer::stop`, before `wQueue.offer(0)` -/
  | writerOffer
  /-- in `Writer::stop`, at `while (!isStopped())` -/
  | writerWait
  /-- in `LibCCEC::term`, before `initialized = false` -/
  | termDone
deriving DecidableEq

/-! ### The state -/

/-- What an observer of a run records: a frame enqueued by the callback, an `open` that opened the
driver, a `close` that is over, a frame returned by `read`, a frame accepted by `sendAsync`, a frame
handed to `write`, and whether it was given to `HdmiCecTx` or dropped. -/
inductive Obs where
  | enqueued (p : FramePtr)
  | opened
  | closed
  | returned (p : FramePtr)
  | accepted (p : FramePtr)
  | handed (p : FramePtr)
  | tx (p : FramePtr)
  | dropped (p : FramePtr)
deriving DecidableEq

structure State where
  /-- `LibCCEC::initialized` -/
  initialized : Bool
  ctl : Ctl
  /-- the control thread was called through `LibCCEC` -/
  lib : Bool
  /-- `Bus::getInstance()` has been called -/
  constructed : Bool
  /-- `Bus::started` -/
  started : Bool
  reader : StopState
  writer : StopState
  readers : List ReaderPC
  writers : List WriterPC
  rQueue : FrameQueue
  wQueue : FrameQueue
  status : Status
  /-- the callbacks between their check of the status and their offer -/
  callbacks : List FramePtr
  nextAddr : ℕ
  trace : List Obs
  /-- the exception that left a thread and ended the process -/
  escaped : Option Exn

namespace State

/-- Nothing has been called. A `Stoppable` starts in the state `RUNNING`. -/
def init : State where
  initialized := false
  ctl := .idle
  lib := false
  constructed := false
  started := false
  reader := .running
  writer := .running
  readers := []
  writers := []
  rQueue := .empty
  wQueue := .empty
  status := .closed
  callbacks := []
  nextAddr := 0
  trace := []
  escaped := none

/-! #### The mutexes -/

end State

/-- The control thread holds `rMutex` and `wMutex`. -/
def Ctl.holdsBus : Ctl → Bool
  | startReader | startWriter | startOpen | startDone | writerTest | writerSet | writerOffer
  | writerWait => true
  | _ => false

/-- The control thread holds the driver's mutex. -/
def Ctl.holdsDriver : Ctl → Bool
  | closeOffer _ | closeHal _ => true
  | _ => false

/-- A reader thread holds `rMutex`. -/
def ReaderPC.holdsBus : ReaderPC → Bool
  | dispatch _ => true
  | _ => false

/-- A reader thread holds the driver's mutex. -/
def ReaderPC.holdsDriver : ReaderPC → Bool
  | flush | flushWait | flushPop => true
  | _ => false

namespace State

def rMutexFree (s : State) : Bool := !s.ctl.holdsBus && s.readers.all (!·.holdsBus)

def wMutexFree (s : State) : Bool := !s.ctl.holdsBus

def driverMutexFree (s : State) : Bool := !s.ctl.holdsDriver && s.readers.all (!·.holdsDriver)

end State

/-! ### The reader thread -/

/-- What a step of a reader thread changes: where it is (`none` when it ends), the state of the
`Stoppable`, the receive queue, and what is observed. -/
structure ReaderMove where
  pc : Option ReaderPC
  reader : StopState
  rQueue : FrameQueue
  obs : List Obs

/-- A move that changes only where the thread is. -/
def ReaderMove.goto (s : State) (pc : ReaderPC) : ReaderMove := ⟨some pc, s.reader, s.rQueue, []⟩

/-- The step of a reader thread at `pc`. `none`: it has to wait. -/
def readerMove (s : State) : ReaderPC → Option ReaderMove
  | .spawned => some (.goto s (if s.reader.isStopped then .starting else .test))
  | .starting => some ⟨some .test, s.reader.runStarted, s.rQueue, []⟩
  | .test => some (.goto s (if s.reader.isRunning then .readCheck else .exit))
  | .readCheck =>
    -- a driver that is not open raises `InvalidStateException`, which the loop catches
    if s.driverMutexFree then
      some (.goto s (if s.status = .opened then .wait else .test))
    else
      none
  | .wait => if s.rQueue.ready then some (.goto s .pop) else none
  | .pop =>
    match s.rQueue.take.1.join with
    | some p => some ⟨some (.got p), s.reader, s.rQueue.take.2, []⟩
    | none => some ⟨some .null, s.reader, s.rQueue.take.2, []⟩
  | .got p => some ⟨some (.lock p), s.reader, s.rQueue, [.returned p]⟩
  | .lock p => if s.rMutexFree then some (.goto s (.dispatch p)) else none
  | .dispatch _ => some (.goto s .test)
  | .null =>
    if s.driverMutexFree then
      some (.goto s (if s.status = .opened then .wait else .flush))
    else
      none
  | .flush => some (.goto s (if s.rQueue.size > 0 then .flushWait else .test))
  | .flushWait => if s.rQueue.ready then some (.goto s .flushPop) else none
  | .flushPop => some ⟨some .flush, s.reader, s.rQueue.take.2, []⟩
  | .exit => some ⟨none, s.reader.stopCompleted, s.rQueue, []⟩

/-- The thread at index `i` moves to `pc` or ends. -/
def moveThread {PC : Type} (threads : List PC) (i : ℕ) : Option PC → List PC
  | some pc => threads.set i pc
  | none => threads.eraseIdx i

def State.applyReader (s : State) (i : ℕ) (m : ReaderMove) : State :=
  { s with
    readers := moveThread s.readers i m.pc
    reader := m.reader
    rQueue := m.rQueue
    trace := s.trace ++ m.obs }

/-! ### The writer thread -/

/-- What a step of a writer thread changes. -/
structure WriterMove where
  pc : Option WriterPC
  writer : StopState
  wQueue : FrameQueue
  obs : List Obs
  escaped : Option Exn

/-- A move that changes only where the thread is. -/
def WriterMove.goto (s : State) (pc : WriterPC) : WriterMove :=
  ⟨some pc, s.writer, s.wQueue, [], none⟩

/-- What is observed of a call of `write`. -/
def writeObs (p : FramePtr) (log : List WriteEvent) : List Obs :=
  [.handed p, if .hdmiCecTx p.frame.bytes ∈ log then .tx p else .dropped p]

/-- `Driver::getInstance().write(*outFrame)` in the `try` of the loop, which catches the library's
exceptions only. `HdmiCecTx` returns `err` and sets `sendResult`. -/
def writeMove (s : State) (p : FramePtr) (err sendResult : ℤ) : WriterMove :=
  let run := DriverImpl.write s.status err sendResult p.frame
  match run.result with
  | .ok () => ⟨some .test, s.writer, s.wQueue, writeObs p run.log, none⟩
  | .error e =>
    if e = .invalidState || e.isException then
      ⟨some .test, s.writer, s.wQueue, writeObs p run.log, none⟩
    else
      ⟨some (.write p), s.writer, s.wQueue, [.handed p], some e⟩

/-- The step of a writer thread at `pc`. `none`: it has to wait. -/
def writerMove (s : State) (err sendResult : ℤ) : WriterPC → Option WriterMove
  | .spawned => some (.goto s (if s.writer.isStopped then .starting else .wait))
  | .starting => some ⟨some .wait, s.writer.runStarted, s.wQueue, [], none⟩
  | .wait => if s.wQueue.ready then some (.goto s .pop) else none
  | .pop =>
    -- the sentinel raises `InvalidStateException`, which the loop catches
    match s.wQueue.take.1.join with
    | some p => some ⟨some (.write p), s.writer, s.wQueue.take.2, [], none⟩
    | none => some ⟨some .test, s.writer, s.wQueue.take.2, [], none⟩
  | .write p => if s.driverMutexFree then some (writeMove s p err sendResult) else none
  | .test => some (.goto s (if s.writer.isRunning then .wait else .drainTest))
  | .drainTest => some (.goto s (if s.writer.isRunning then .exit else .drain))
  | .drain => some (.goto s (if s.wQueue.size > 0 then .drainWait else .exit))
  | .drainWait => if s.wQueue.ready then some (.goto s .drainPop) else none
  | .drainPop => some ⟨some .drain, s.writer, s.wQueue.take.2, [], none⟩
  | .exit => some ⟨none, s.writer.stopCompleted, s.wQueue, [], none⟩

def State.applyWriter (s : State) (i : ℕ) (m : WriterMove) : State :=
  { s with
    writers := moveThread s.writers i m.pc
    writer := m.writer
    wQueue := m.wQueue
    trace := s.trace ++ m.obs
    escaped := m.escaped }

/-! ### The control thread -/

/-- `offer(0)` in a `try` that catches the refusal of a full queue. -/
def offerNull (q : FrameQueue) : FrameQueue :=
  match (q.offer none).result with
  | .ok q' => q'
  | .error _ => q

/-- `Driver::open()`, followed by `next`. When `HdmiCecOpen` fails the exception leaves the call. -/
def State.openDriver (s : State) (err : ℤ) (next : Ctl) : Option State :=
  if s.driverMutexFree then
    if s.status ≠ .closed then
      some { s with ctl := next }
    else if err ≠ ioSuccess then
      some { s with ctl := .idle }
    else
      some { s with status := .opened, trace := s.trace ++ [.opened], ctl := next }
  else
    none

/-- Where the control thread goes when `DriverImpl::close` has returned. -/
def State.afterClose (s : State) : Closer → Ctl
  | .readerStop => .readerWait
  | .busStop => if s.lib then .close .libTerm else .idle
  | .libTerm => .termDone

/-- The step of the control thread. `err` is what the hardware layer returns. -/
def ctlStep (s : State) (err : ℤ) : Option State :=
  match s.ctl with
  | .idle => none
  | .initOpen => s.openDriver err .getInstance
  | .getInstance =>
    if s.constructed then
      some { s with ctl := .startLock }
    else
      some { s with constructed := true, readers := s.readers ++ [.spawned], ctl := .construct }
  | .construct => some { s with writers := s.writers ++ [.spawned], ctl := .startLock }
  | .startLock => if s.rMutexFree then some { s with ctl := .startReader } else none
  | .startReader =>
    some { s with
      readers := if s.reader.isStopped then s.readers ++ [.spawned] else s.readers
      ctl := .startWriter }
  | .startWriter =>
    some { s with
      writers := if s.writer.isStopped then s.writers ++ [.spawned] else s.writers
      ctl := .startOpen }
  | .startOpen => s.openDriver err .startDone
  | .startDone =>
    some { s with started := true, initialized := s.initialized || s.lib, ctl := .idle }
  | .stopFlag => if s.rMutexFree then some { s with started := false, ctl := .readerStop } else none
  | .readerStop =>
    if s.rMutexFree then
      some { s with reader := s.reader.stopStarted, ctl := .close .readerStop }
    else
      none
  | .close caller =>
    if s.driverMutexFree then
      if s.status ≠ .opened then
        some { s with trace := s.trace ++ [.closed], ctl := s.afterClose caller }
      else
        some { s with status := .closing, ctl := .closeOffer caller }
    else
      none
  | .closeOffer caller => some { s with rQueue := offerNull s.rQueue, ctl := .closeHal caller }
  | .closeHal caller =>
    -- only `Reader::stop` catches the exception of a failed `HdmiCecClose`
    some { s with
      status := .closed
      trace := s.trace ++ [.closed]
      ctl := if err ≠ ioSuccess ∧ caller ≠ .readerStop then .idle else s.afterClose caller }
  | .readerWait => if s.reader.isStopped then some { s with ctl := .writerLock } else none
  | .writerLock => if s.rMutexFree then some { s with ctl := .writerTest } else none
  | .writerTest => some { s with ctl := if s.writer.isRunning then .writerSet else .writerWait }
  | .writerSet => some { s with writer := s.writer.stopStarted, ctl := .writerOffer }
  | .writerOffer => some { s with wQueue := offerNull s.wQueue, ctl := .writerWait }
  | .writerWait => if s.writer.isStopped then some { s with ctl := .close .busStop } else none
  | .termDone => some { s with initialized := false, ctl := .idle }

/-! ### Asynchronous sends -/

namespace Bus

/-- `if (!started) throw InvalidStateException()`. -/
def checkStarted (started : Bool) : Ccec Unit := if !started then .raise .invalidState else pure ()

/-- `sendAsync(frame)`: the write queue after it. `addr` is what `new CECFrame()` returns; the frame
is copied there. -/
def sendAsync (started : Bool) (wQueue : FrameQueue) (addr : ℕ) (frame : CECFrame) :
    Ccec FrameQueue := do
  checkStarted started
  Logged.catching Exn.isAny (fun e => do
      ccecLog logExp "Exception during copy frame offer...discarding\r\n"
      .raise e) (wQueue.offer (some ⟨addr, frame⟩))

end Bus

/-- `Bus::sendAsync` has ended: with the write queue after it, whose last frame was accepted, or
with an exception, which goes to the caller. -/
def State.queued (s : State) : Except Exn FrameQueue → State
  | .ok q => { s with
      wQueue := q, nextAddr := s.nextAddr + 1
      trace := s.trace ++ (q.events.getLast?.join.map Obs.accepted).toList }
  | .error _ => s

/-! ### The system -/

/-- The steps of the system. `ctl`, `reader` and `writer` are steps of the threads with what the
hardware layer returns, `receive` and `offer` are the two parts of a callback, and the others are
calls of the public functions. -/
inductive Label where
  | callInit
  | callTerm
  | callBusStart
  | callBusStop
  | ctl (err : ℤ)
  | reader (i : ℕ)
  | writer (i : ℕ) (err sendResult : ℤ)
  | receive (frame : CECFrame)
  | offer (j : ℕ)
  | sendAsync (frame : CECFrame)
deriving DecidableEq

/-- `LibCCEC::init()` is called; it throws when the library is initialized. -/
def callInit (s : State) : Option State :=
  if s.ctl = .idle then
    some (if s.initialized then s else { s with ctl := .initOpen, lib := true })
  else
    none

/-- `LibCCEC::term()` is called; it throws when the library is not initialized. -/
def callTerm (s : State) : Option State :=
  if s.ctl = .idle then
    some (if s.initialized then { s with ctl := .stopFlag, lib := true } else s)
  else
    none

/-- `Bus::start()` is called. -/
def callBusStart (s : State) : Option State :=
  if s.ctl = .idle then some { s with ctl := .getInstance, lib := false } else none

/-- `Bus::stop()` is called on a bus that has been constructed. -/
def callBusStop (s : State) : Option State :=
  if s.ctl = .idle ∧ s.constructed then some { s with ctl := .stopFlag, lib := false } else none

/-- The first part of the callback, up to the check of the status. A frame has at least one byte
there; a driver that is not open discards it. -/
def receive (s : State) (frame : CECFrame) : Option State :=
  if frame.length = 0 then
    none
  else if s.status = .opened then
    some { s with callbacks := s.callbacks ++ [⟨s.nextAddr, frame⟩], nextAddr := s.nextAddr + 1 }
  else
    some s

/-- The second part of the `j`th callback. A full queue discards the frame. -/
def offer (s : State) (j : ℕ) : Option State :=
  match s.callbacks[j]? with
  | none => none
  | some p =>
    match (s.rQueue.offer (some p)).result with
    | .ok q => some { s with
        callbacks := s.callbacks.eraseIdx j, rQueue := q, trace := s.trace ++ [.enqueued p] }
    | .error _ => some { s with callbacks := s.callbacks.eraseIdx j }

/-- `Bus::sendAsync(frame)` is called, by a thread that gets what the call returns or throws. -/
def sendAsync (s : State) (frame : CECFrame) : Option State :=
  if s.wMutexFree then
    some (s.queued (Bus.sendAsync s.started s.wQueue s.nextAddr frame).result)
  else
    none

/-- A step of the system. An exception that leaves a thread ends the process. -/
def step (s : State) (l : Label) : Option State :=
  if s.escaped.isSome then
    none
  else
    match l with
    | .callInit => callInit s
    | .callTerm => callTerm s
    | .callBusStart => callBusStart s
    | .callBusStop => callBusStop s
    | .ctl err => ctlStep s err
    | .reader i => s.readers[i]?.bind fun pc => (readerMove s pc).map (s.applyReader i)
    | .writer i err sendResult =>
      s.writers[i]?.bind fun pc => (writerMove s err sendResult pc).map (s.applyWriter i)
    | .receive frame => receive s frame
    | .offer j => offer s j
    | .sendAsync frame => sendAsync s frame

end HdmiCec
