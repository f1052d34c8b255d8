import HdmiCec.Lib.Edits
import HdmiCec.Sending.Basic
import HdmiCec.System.Steps

/-!
# The connections of an application

The application's side of the library: `Connection` objects that are constructed, opened, closed and
destroyed, the listeners behind them, the frames it sends, and `Bus::listeners`, all of it beside
the threads of the library. The functions of the connections are called one after the other, and
each takes effect where it has the bus's mutex; a reader thread notifies while it holds that mutex.
The application's listeners are a parameter, which says how their `notify` ends; they do not call
the library.
-/

namespace HdmiCec

open Lib

/-! ### Connections -/

/-- A `Connection`. `busFrameFilter` is the address of its `DefaultFilter`, which has a copy of its
own. A `FrameListener *` is a number. -/
structure Conn where
  name : String
  source : LogicalAddress
  busFrameFilter : LogicalAddress
  frameListeners : List ℕ

/-- `Connection(source, opened, name)`, before it is opened: the filter is made from the source. -/
def Conn.new (source : LogicalAddress) (name : String) : Conn := ⟨name, source, source, []⟩

/-- The place of a connection. -/
inductive Slot where
  | absent
  | live (c : Conn)
  | destroyed

/-- A call of a function of the connection `id`. `open()` and `close()` return when the bus is
started at that moment and throw otherwise. -/
inductive Call where
  | openConn (id : ℕ) (started : Bool)
  | close (id : ℕ) (started : Bool)
  | addFrameListener (id listener : ℕ)
  | removeFrameListener (id listener : ℕ)
deriving DecidableEq

/-! ### Notifying -/

/-- What a reader thread does with a frame: lines of the log, the call of `notify` of a listener of
the connection `id`, and the use of a connection that does not exist any more. -/
inductive Notice where
  | lib (e : Event)
  | notified (id listener : ℕ) (frame : CECFrame)
  | dangling (id : ℕ)
deriving DecidableEq

/-- How the `notify` of the application's listeners ends. -/
abbrev App := ℕ → CECFrame → Except Exn Unit

/-- A part of the dispatch that does not reach the application. -/
def Notice.quiet {α : Type} (m : Ccec α) : Logged Exn Notice α := m.mapLog .lib

/-- `(*list_it)->notify(frame)` for a listener of the application. -/
def App.notify (app : App) (id : ℕ) (frame : CECFrame) (listener : ℕ) :
    Logged Exn Notice Unit := ⟨app listener frame, [.notified id listener frame]⟩

/-- `DefaultFrameListener::notify(frame)`. -/
def Conn.notify (app : App) (id : ℕ) (c : Conn) (frame : CECFrame) : Logged Exn Notice Unit := do
  let filtered ← Notice.quiet (Connection.isFiltered c.busFrameFilter frame)
  if !filtered then
    Logged.each (fun listener => do
      Notice.quiet (ccecLog logDebug
        ("connection [" ++ c.name ++ "] frame Listeners notify Listener\r\n"))
      app.notify id frame listener) c.frameListeners
  else do
    let _header ← Notice.quiet (Header.ofFrame frame 0)
    pure ()

/-! ### The state -/

structure World where
  sys : State
  /-- `DriverImpl::logicalAddresses` -/
  logicalAddresses : List LogicalAddress
  /-- the frames of the application -/
  frames : ℕ → CECFrame
  /-- `Bus::listeners`, the connections whose `busFrameListener` is there -/
  listeners : List ℕ
  conns : ℕ → Slot
  /-- the calls so far -/
  history : List Call
  /-- what the reader threads have done -/
  notices : List Notice

namespace World

/-- Nothing has been called, and the frames are empty. -/
def init : World := ⟨.init, [], fun _ => .empty, [], fun _ => .absent, [], []⟩

/-- The driver as the connections see it. -/
def driver (w : World) : Device := ⟨w.sys.status, 0, w.sys.rQueue, w.logicalAddresses⟩

def put (w : World) (id : ℕ) (slot : Slot) : World :=
  { w with conns := Function.update w.conns id slot }

/-- A call of a function of the connection `id`. There is no call on a connection that is not
there. -/
def onLive (w : World) (id : ℕ) (f : Conn → Option World) : Option World :=
  match w.conns id with
  | .live c => f c
  | .absent | .destroyed => none

def record (w : World) (call : Call) : World := { w with history := w.history ++ [call] }

def setFrame (w : World) (k : ℕ) (frame : CECFrame) : World :=
  { w with frames := Function.update w.frames k frame }

/-! ### The reader thread -/

/-- `(*list_it)->notify(frame)` for a listener of the bus. -/
def notify (app : App) (w : World) (frame : CECFrame) (id : ℕ) : Logged Exn Notice Unit :=
  match w.conns id with
  | .live c => c.notify app id frame
  | .absent | .destroyed => .emit (.dangling id)

/-- What `Bus::Reader::run` does with a frame it has read, inside its `try`. -/
def dispatch (app : App) (w : World) (frame : CECFrame) : Logged Exn Notice Unit := do
  Notice.quiet (if w.listeners.length = 0 then
    ccecLog logDebug "Bus::Reader discarding msgs for lack of listener\r\n" else pure ())
  Logged.each (fun id => do
    Notice.quiet (ccecLog logDebug "Bus::Reader::run() notify Listener\r\n")
    Notice.quiet (DriverImpl.printFrameDetails frame)
    w.notify app frame id) w.listeners

/-- The round of the loop with its `catch`. -/
def round (app : App) (w : World) (frame : CECFrame) : Logged Exn Notice Unit :=
  (w.dispatch app frame).catching (· = .invalidState) fun _ =>
    Notice.quiet (ccecLog logDebug
      ("EOF for reader [" ++ toString w.sys.reader.isRunning.toNat ++ "]\r\n"))

end World

/-- The frame that the step of a reader thread dispatches. -/
def State.dispatched (s : State) : Label → Option CECFrame
  | .reader i =>
    match s.readers[i]? with
    | some (.dispatch p) => some p.frame
    | _ => none
  | _ => none

namespace World

/-- The threads go on to `s`, after the round of a reader thread with `frame`. An exception that the
loop does not catch ends the process. -/
def afterRound (app : App) (w : World) (frame : CECFrame) (s : State) : World :=
  let run := w.round app frame
  { w with
    sys := { s with escaped := match run.result with
      | .ok () => s.escaped
      | .error e => some e }
    notices := w.notices ++ run.log }

/-- A step of the library's threads. -/
def sysStep (app : App) (w : World) (l : Label) : Option World :=
  (step w.sys l).map fun s =>
    match w.sys.dispatched l with
    | some frame => w.afterRound app frame s
    | none => { w with sys := s }

/-! ### The calls -/

/-- `Bus::getInstance()`, whose first call starts the threads. -/
def getInstance (w : World) : World :=
  if w.sys.constructed then
    w
  else
    { w with sys := { w.sys with
        constructed := true
        readers := w.sys.readers ++ [.spawned]
        writers := w.sys.writers ++ [.spawned] } }

/-- `Connection(source, opened, name)`: when `open()` throws, there is no connection. The
constructor waits while another thread is in the first `Bus::getInstance()`. -/
def construct (w : World) (id : ℕ) (source : LogicalAddress) (opened : Bool) (name : String) :
    Option World :=
  match w.conns id with
  | .absent =>
    if w.sys.ctl = .construct then
      none
    else if !opened then
      some (w.getInstance.put id (.live (.new source name)))
    else if !w.sys.rMutexFree then
      none
    else if w.sys.started then
      some { (w.getInstance.put id (.live (.new source name))).record (.openConn id true) with
        listeners := w.listeners ++ [id] }
    else
      some (w.getInstance.record (.openConn id false))
  | .live _ | .destroyed => none

/-- `open()`: a bus that is not started throws. -/
def openConn (w : World) (id : ℕ) : Option World :=
  w.onLive id fun _ =>
    if !w.sys.rMutexFree then
      none
    else if w.sys.started then
      some { w.record (.openConn id true) with listeners := w.listeners ++ [id] }
    else
      some (w.record (.openConn id false))

/-- `close()`: the listeners behind the connection are forgotten; then a bus that is not started
throws, and another one forgets the connection. -/
def closeConn (w : World) (id : ℕ) : Option World :=
  w.onLive id fun c =>
    if !w.sys.rMutexFree then
      none
    else if w.sys.started then
      some { (w.put id (.live { c with frameListeners := [] })).record (.close id true) with
        listeners := w.listeners.filter (· ≠ id) }
    else
      some ((w.put id (.live { c with frameListeners := [] })).record (.close id false))

/-- `addFrameListener(listener)` of a connection. -/
def addFrameListener (w : World) (id listener : ℕ) : Option World :=
  w.onLive id fun c =>
    some ((w.put id (.live { c with frameListeners := c.frameListeners ++ [listener] })).record
      (.addFrameListener id listener))

/-- `removeFrameListener(listener)` of a connection. -/
def removeFrameListener (w : World) (id listener : ℕ) : Option World :=
  w.onLive id fun c =>
    some ((w.put id (.live { c with
      frameListeners := c.frameListeners.filter (· ≠ listener) })).record
        (.removeFrameListener id listener))

def setSource (w : World) (id : ℕ) (source : LogicalAddress) : Option World :=
  w.onLive id fun c => some (w.put id (.live { c with source := source }))

/-- `~Connection()`, which does not touch the bus. -/
def destroy (w : World) (id : ℕ) : Option World :=
  w.onLive id fun _ => some (w.put id .destroyed)

/-- `send(frame, timeout)` or `send(frame, timeout, doThrow)`, for the frame `k` of the application.
What it writes leaves the driver as it is. -/
def send (w : World) (id k : ℕ) (doThrow : Bool) (attempts : ℕ → Bus.Attempt) (timeout : ℤ) :
    Option World :=
  w.onLive id fun c =>
    let call := if doThrow then Connection.sendOrThrow else Connection.send
    some (w.setFrame k (call w.driver c.source attempts (w.frames k) timeout).frame)

/-- `sendAsync(frame)`, for the frame `k` of the application. -/
def sendAsync (w : World) (id k : ℕ) : Option World :=
  w.onLive id fun c =>
    if !w.sys.wMutexFree then
      none
    else
      let sent := Connection.sendAsync w.driver c.source w.sys.started w.sys.wQueue w.sys.nextAddr
        (w.frames k)
      some { w.setFrame k sent.frame with sys := w.sys.queued sent.run.result }

/-- `sendToAsync(to, frame)`, for the frame `k` of the application. -/
def sendToAsync (w : World) (id k : ℕ) (toAddr : LogicalAddress) : Option World :=
  w.onLive id fun c =>
    if !w.sys.wMutexFree then
      none
    else
      some { w with sys := w.sys.queued (Connection.sendToAsync w.driver c.source w.sys.started
        w.sys.wQueue w.sys.nextAddr toAddr (w.frames k)).result }

end World

/-! ### The steps -/

/-- The steps of the application and the library: a step of the library's threads, the calls of the
functions of a connection, the calls that change the driver's registry, and a change of a frame by
the application. -/
inductive Act where
  | sys (l : Label)
  | construct (id : ℕ) (source : LogicalAddress) (opened : Bool) (name : String)
  | openConn (id : ℕ)
  | closeConn (id : ℕ)
  | addFrameListener (id listener : ℕ)
  | removeFrameListener (id listener : ℕ)
  | setSource (id : ℕ) (source : LogicalAddress)
  | destroy (id : ℕ)
  | send (id k : ℕ) (doThrow : Bool) (attempts : ℕ → Bus.Attempt) (timeout : ℤ)
  | sendAsync (id k : ℕ)
  | sendToAsync (id k : ℕ) (toAddr : LogicalAddress)
  | addLogicalAddress (source : LogicalAddress) (retErr : ℤ)
  | removeLogicalAddress (source : LogicalAddress)
  | assign (k : ℕ) (frame : CECFrame)

namespace World

/-- A step. An exception that has left a thread has ended the process. -/
def step (app : App) (w : World) (a : Act) : Option World :=
  if w.sys.escaped.isSome then
    none
  else
    match a with
    | .sys l => w.sysStep app l
    | .construct id source opened name => w.construct id source opened name
    | .openConn id => w.openConn id
    | .closeConn id => w.closeConn id
    | .addFrameListener id listener => w.addFrameListener id listener
    | .removeFrameListener id listener => w.removeFrameListener id listener
    | .setSource id source => w.setSource id source
    | .destroy id => w.destroy id
    | .send id k doThrow attempts timeout => w.send id k doThrow attempts timeout
    | .sendAsync id k => w.sendAsync id k
    | .sendToAsync id k toAddr => w.sendToAsync id k toAddr
    | .addLogicalAddress source retErr => some { w with
        logicalAddresses := (w.driver.addLogicalAddress source retErr).device.logicalAddresses }
    | .removeLogicalAddress source => some { w with
        logicalAddresses := (w.driver.removeLogicalAddress source).device.logicalAddresses }
    | .assign k frame => some (w.setFrame k frame)

/-- The branches of `World.step`. -/
inductive Moves (app : App) (w : World) : Act → World → Prop
  | sys {l : Label} {s : State} : Step w.sys l s → w.sys.dispatched l = none →
    Moves app w (.sys l) { w with sys := s }
  | dispatch {i : ℕ} {p : FramePtr} : w.sys.readers[i]? = some (.dispatch p) →
    Moves app w (.sys (.reader i))
      (w.afterRound app p.frame (w.sys.applyReader i (.goto w.sys .test)))
  | construct {id : ℕ} {source : LogicalAddress} {name : String} : w.conns id = .absent →
    Moves app w (.construct id source false name)
      (w.getInstance.put id (.live (.new source name)))
  | constructOpened {id : ℕ} {source : LogicalAddress} {name : String} : w.conns id = .absent →
    w.sys.started = true →
    Moves app w (.construct id source true name)
      { (w.getInstance.put id (.live (.new source name))).record (.openConn id true) with
        listeners := w.listeners ++ [id] }
  | constructRefused {id : ℕ} {source : LogicalAddress} {name : String} : w.conns id = .absent →
    w.sys.started = false →
    Moves app w (.construct id source true name) (w.getInstance.record (.openConn id false))
  | opened {id : ℕ} {c : Conn} : w.conns id = .live c → w.sys.started = true →
    Moves app w (.openConn id)
      { w.record (.openConn id true) with listeners := w.listeners ++ [id] }
  | openRefused {id : ℕ} {c : Conn} : w.conns id = .live c → w.sys.started = false →
    Moves app w (.openConn id) (w.record (.openConn id false))
  | closed {id : ℕ} {c : Conn} : w.conns id = .live c → w.sys.started = true →
    Moves app w (.closeConn id)
      { (w.put id (.live { c with frameListeners := [] })).record (.close id true) with
        listeners := w.listeners.filter (· ≠ id) }
  | closeRefused {id : ℕ} {c : Conn} : w.conns id = .live c → w.sys.started = false →
    Moves app w (.closeConn id)
      ((w.put id (.live { c with frameListeners := [] })).record (.close id false))
  | addFrameListener {id listener : ℕ} {c : Conn} : w.conns id = .live c →
    Moves app w (.addFrameListener id listener)
      ((w.put id (.live { c with frameListeners := c.frameListeners ++ [listener] })).record
        (.addFrameListener id listener))
  | removeFrameListener {id listener : ℕ} {c : Conn} : w.conns id = .live c →
    Moves app w (.removeFrameListener id listener)
      ((w.put id (.live { c with frameListeners := c.frameListeners.filter (· ≠ listener) })).record
        (.removeFrameListener id listener))
  | setSource {id : ℕ} {source : LogicalAddress} {c : Conn} : w.conns id = .live c →
    Moves app w (.setSource id source) (w.put id (.live { c with source := source }))
  | destroy {id : ℕ} {c : Conn} : w.conns id = .live c →
    Moves app w (.destroy id) (w.put id .destroyed)
  | send {id k : ℕ} {doThrow : Bool} {attempts : ℕ → Bus.Attempt} {timeout : ℤ}
    {frame : CECFrame} :
    Moves app w (.send id k doThrow attempts timeout) (w.setFrame k frame)
  | sendAsync {id k : ℕ} {c : Conn} : w.conns id = .live c →
    Moves app w (.sendAsync id k)
      { w.setFrame k (Connection.sendAsync w.driver c.source w.sys.started w.sys.wQueue
          w.sys.nextAddr (w.frames k)).frame with
        sys := w.sys.queued (Connection.sendAsync w.driver c.source w.sys.started w.sys.wQueue
          w.sys.nextAddr (w.frames k)).run.result }
  | sendToAsync {id k : ℕ} {toAddr : LogicalAddress} {c : Conn} : w.conns id = .live c →
    Moves app w (.sendToAsync id k toAddr)
      { w with sys := w.sys.queued (Connection.sendToAsync w.driver c.source w.sys.started
        w.sys.wQueue w.sys.nextAddr toAddr (w.frames k)).result }
  | addLogicalAddress {source : LogicalAddress} {retErr : ℤ}
    {logicalAddresses : List LogicalAddress} :
    Moves app w (.addLogicalAddress source retErr) { w with logicalAddresses := logicalAddresses }
  | removeLogicalAddress {source : LogicalAddress} {logicalAddresses : List LogicalAddress} :
    Moves app w (.removeLogicalAddress source) { w with logicalAddresses := logicalAddresses }
  | assign {k : ℕ} {frame : CECFrame} : Moves app w (.assign k frame) (w.setFrame k frame)

/-! ### What the operations leave alone -/

section

variable (w : World)

lemma conns_put_self (id : ℕ) (slot : Slot) : (w.put id slot).conns id = slot := by
  simp [put]

lemma conns_put_of_ne {id id' : ℕ} (slot : Slot) (h : id' ≠ id) :
    (w.put id slot).conns id' = w.conns id' := by
  simp [put, h]

@[simp] lemma getInstance_conns : w.getInstance.conns = w.conns := by
  unfold getInstance
  split <;> rfl

@[simp] lemma getInstance_listeners : w.getInstance.listeners = w.listeners := by
  unfold getInstance
  split <;> rfl

@[simp] lemma getInstance_history : w.getInstance.history = w.history := by
  unfold getInstance
  split <;> rfl

@[simp] lemma getInstance_notices : w.getInstance.notices = w.notices := by
  unfold getInstance
  split <;> rfl

end

/-! ### The steps, case by case -/

section

variable {app : App} {w v : World} {a : Act}

lemma onLive_eq_some {id : ℕ} {f : Conn → Option World} :
    w.onLive id f = some v ↔ ∃ c, w.conns id = .live c ∧ f c = some v := by
  unfold World.onLive
  split
  · rename_i c hc
    simp [hc]
  · rename_i hc
    simp [hc]
  · rename_i hc
    simp [hc]

/-- The connection `id` is there and satisfies `p`. -/
def liveSat (w : World) (id : ℕ) (p : Conn → Bool) : Bool :=
  match w.conns id with
  | .live c => p c
  | .absent | .destroyed => false

lemma exists_of_liveSat {id : ℕ} {p : Conn → Bool} (h : w.liveSat id p = true) :
    ∃ c, w.conns id = .live c ∧ p c = true := by
  unfold liveSat at h
  split at h
  · rename_i c hc
    exact ⟨c, hc, h⟩
  · cases h
  · cases h

def isDestroyed (w : World) (id : ℕ) : Bool :=
  match w.conns id with
  | .destroyed => true
  | .absent | .live _ => false

lemma eq_destroyed {id : ℕ} (h : w.isDestroyed id = true) : w.conns id = .destroyed := by
  unfold isDestroyed at h
  split at h
  · assumption
  · cases h
  · cases h

/-- The step of a reader thread that dispatches. -/
lemma Moves.of_dispatched {l : Label} {s : State} {frame : CECFrame} (h : Step w.sys l s)
    (hframe : w.sys.dispatched l = some frame) :
    Moves app w (.sys l) (w.afterRound app frame s) := by
  cases h with
  | @reader i pc m hpc hm =>
    simp only [State.dispatched, hpc] at hframe
    cases hm with
    | dispatch =>
      cases hframe
      exact .dispatch hpc
    | _ => cases hframe
  | _ => cases hframe

lemma Moves.of_construct {id : ℕ} {source : LogicalAddress} {opened : Bool} {name : String}
    (h : w.construct id source opened name = some v) :
    Moves app w (.construct id source opened name) v := by
  unfold World.construct at h
  split at h
  · rename_i habsent
    rw [Option.ite_none_left_eq_some] at h
    obtain ⟨-, h⟩ := h
    cases opened with
    | false =>
      cases h
      exact .construct habsent
    | true =>
      simp only [Bool.not_true, Bool.false_eq_true, if_false, Option.ite_none_left_eq_some] at h
      obtain ⟨-, h⟩ := h
      split at h
      · rename_i hstarted
        cases h
        exact .constructOpened habsent hstarted
      · rename_i hstarted
        cases h
        exact .constructRefused habsent (Bool.not_eq_true _ ▸ hstarted)
  · cases h
  · cases h

lemma Moves.of_openConn {id : ℕ} (h : w.openConn id = some v) : Moves app w (.openConn id) v := by
  obtain ⟨c, hc, h⟩ := onLive_eq_some.mp h
  rw [Option.ite_none_left_eq_some] at h
  obtain ⟨-, h⟩ := h
  split at h
  · rename_i hstarted
    cases h
    exact .opened hc hstarted
  · rename_i hstarted
    cases h
    exact .openRefused hc (Bool.not_eq_true _ ▸ hstarted)

lemma Moves.of_closeConn {id : ℕ} (h : w.closeConn id = some v) :
    Moves app w (.closeConn id) v := by
  obtain ⟨c, hc, h⟩ := onLive_eq_some.mp h
  rw [Option.ite_none_left_eq_some] at h
  obtain ⟨-, h⟩ := h
  split at h
  · rename_i hstarted
    cases h
    exact .closed hc hstarted
  · rename_i hstarted
    cases h
    exact .closeRefused hc (Bool.not_eq_true _ ▸ hstarted)

theorem Moves.of_step (h : w.step app a = some v) : w.sys.escaped = none ∧ Moves app w a v := by
  unfold World.step at h
  rw [Option.ite_none_left_eq_some] at h
  obtain ⟨hescaped, h⟩ := h
  refine ⟨Option.not_isSome_iff_eq_none.mp hescaped, ?_⟩
  cases a with
  | sys l =>
    obtain ⟨s, hs, hv⟩ := Option.map_eq_some_iff.mp h
    have hstep := (Step.of_step hs).2
    split at hv
    · rename_i frame hframe
      cases hv
      exact .of_dispatched hstep hframe
    · rename_i hframe
      cases hv
      exact .sys hstep hframe
  | construct id source opened name => exact .of_construct h
  | openConn id => exact .of_openConn h
  | closeConn id => exact .of_closeConn h
  | addFrameListener id listener =>
    obtain ⟨c, hc, h⟩ := onLive_eq_some.mp h
    cases h
    exact .addFrameListener hc
  | removeFrameListener id listener =>
    obtain ⟨c, hc, h⟩ := onLive_eq_some.mp h
    cases h
    exact .removeFrameListener hc
  | setSource id source =>
    obtain ⟨c, hc, h⟩ := onLive_eq_some.mp h
    cases h
    exact .setSource hc
  | destroy id =>
    obtain ⟨c, hc, h⟩ := onLive_eq_some.mp h
    cases h
    exact .destroy hc
  | send id k doThrow attempts timeout =>
    obtain ⟨c, -, h⟩ := onLive_eq_some.mp h
    cases h
    exact .send
  | sendAsync id k =>
    obtain ⟨c, hc, h⟩ := onLive_eq_some.mp h
    rw [Option.ite_none_left_eq_some] at h
    obtain ⟨-, h⟩ := h
    cases h
    exact .sendAsync hc
  | sendToAsync id k toAddr =>
    obtain ⟨c, hc, h⟩ := onLive_eq_some.mp h
    rw [Option.ite_none_left_eq_some] at h
    obtain ⟨-, h⟩ := h
    cases h
    exact .sendToAsync hc
  | addLogicalAddress source retErr =>
    cases h
    exact .addLogicalAddress
  | removeLogicalAddress source =>
    cases h
    exact .removeLogicalAddress
  | assign k frame =>
    cases h
    exact .assign

end

end World

end HdmiCec
