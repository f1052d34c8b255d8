import HdmiCec.System.Steps
import Mathlib.Data.List.InsertIdx

/-!
# The life of a worker thread

Reader and writer threads live the same life: they are spawned, look at the state of their
`Stoppable` and start running if it is stopped, loop while it is running, and at the end set it to
stopped. `LifeStep` says what one step of a thread can do to the state and to itself, and `Phase`
says which states and threads go together while the control thread starts and stops the worker.
-/

namespace HdmiCec

open Lib

/-- The stages of a worker thread. -/
inductive Life where
  | spawned
  | starting
  | looping
  | leaving
deriving DecidableEq

def ReaderPC.life : ReaderPC → Life
  | spawned => .spawned
  | starting => .starting
  | exit => .leaving
  | _ => .looping

def WriterPC.life : WriterPC → Life
  | spawned => .spawned
  | starting => .starting
  | wait | pop | write _ | test => .looping
  | drainTest | drain | drainWait | drainPop | exit => .leaving

/-- A step of a worker thread: the state of the `Stoppable` and the stage of the thread before and
after it, `none` when the thread has ended. -/
inductive LifeStep : StopState → Life → StopState → Option Life → Prop
  | checkStopped : LifeStep .stopped .spawned .stopped (some .starting)
  | check {f : StopState} : f ≠ .stopped → LifeStep f .spawned f (some .looping)
  | start {f : StopState} : LifeStep f .starting .running (some .looping)
  | loop {f : StopState} : LifeStep f .looping f (some .looping)
  | leave {f : StopState} : f ≠ .running → LifeStep f .looping f (some .leaving)
  | drain {f : StopState} : LifeStep f .leaving f (some .leaving)
  | finish {f : StopState} : LifeStep f .leaving .stopped none

/-- The only thread of a list. -/
lemma getElem?_singleton_eq_some {PC : Type} {a b : PC} {i : ℕ} (h : [a][i]? = some b) :
    i = 0 ∧ a = b := by
  rw [List.getElem?_singleton, Option.ite_none_right_eq_some, Option.some.injEq] at h
  exact h

lemma eq_singleton_of_getElem? {PC : Type} {threads : List PC} {i : ℕ} {a : PC}
    (hlen : threads.length ≤ 1) (h : threads[i]? = some a) : i = 0 ∧ threads = [a] := by
  match threads, hlen with
  | [], _ => cases h
  | [b], _ =>
    obtain ⟨hi, rfl⟩ := getElem?_singleton_eq_some h
    exact ⟨hi, rfl⟩

/-- A step of the only thread. -/
lemma moveThread_singleton {PC : Type} (a : PC) (o : Option PC) :
    moveThread [a] 0 o = o.toList := by
  cases o <;> rfl

lemma map_moveThread {PC : Type} (life : PC → Life) (threads : List PC) (i : ℕ) (pc : Option PC) :
    (moveThread threads i pc).map life = moveThread (threads.map life) i (pc.map life) := by
  cases pc with
  | none => exact (List.eraseIdx_map ..).symm
  | some pc => exact List.map_set

/-! ### Phases -/

/-- What the control thread knows of a worker: it was never started; it is running; it has stopped;
one of the last two, before a start; it was started; it was told to stop. -/
inductive Phase where
  | unborn
  | running
  | down
  | ready
  | up
  | stopping
deriving DecidableEq

/-- The states of the `Stoppable` and the worker's threads in each phase. After a restart the state
is still stopped until the new thread has called `runStarted()`. -/
inductive Phase.Holds : Phase → StopState → List Life → Prop
  | unborn : Holds .unborn .running []
  | running {a : Life} : a = .spawned ∨ a = .looping → Holds .running .running [a]
  | down : Holds .down .stopped []
  | readyRunning {f : StopState} {threads : List Life} :
    Holds .running f threads → Holds .ready f threads
  | readyDown {f : StopState} {threads : List Life} :
    Holds .down f threads → Holds .ready f threads
  | up {f : StopState} {threads : List Life} : Holds .running f threads → Holds .up f threads
  | restarted {a : Life} : a = .spawned ∨ a = .starting → Holds .up .stopped [a]
  | stopping {a : Life} : a ≠ .starting → Holds .stopping .stopping [a]
  | stopped : Holds .stopping .stopped []

namespace Phase.Holds

variable {f f' : StopState} {threads : List Life} {i : ℕ} {a : Life} {b : Option Life}

/-- There is at most one thread in every phase. -/
lemma length_le {ph : Phase} (h : ph.Holds f threads) : threads.length ≤ 1 := by
  induction h with
  | readyRunning _ ih | readyDown _ ih | up _ ih => exact ih
  | unborn | down | stopped => exact Nat.zero_le 1
  | running _ | restarted _ | stopping _ => exact le_rfl

lemma running_step (h : Phase.running.Holds f threads) (ha : threads[i]? = some a)
    (hstep : LifeStep f a f' b) : Phase.running.Holds f' (moveThread threads i b) := by
  cases h with
  | running hlife =>
    obtain ⟨rfl, rfl⟩ := getElem?_singleton_eq_some ha
    cases hstep with
    | check _ | loop => exact .running (.inr rfl)
    | leave hf => exact absurd rfl hf
    | _ => simp at hlife

/-- The steps of the worker's thread keep the phase. -/
lemma step {ph : Phase} (h : ph.Holds f threads) (ha : threads[i]? = some a)
    (hstep : LifeStep f a f' b) : ph.Holds f' (moveThread threads i b) := by
  cases h with
  | unborn | down | stopped => simp at ha
  | running hlife => exact running_step (.running hlife) ha hstep
  | readyRunning h => exact .readyRunning (running_step h ha hstep)
  | readyDown h =>
    cases h
    simp at ha
  | up h => exact .up (running_step h ha hstep)
  | restarted hlife =>
    obtain ⟨rfl, rfl⟩ := getElem?_singleton_eq_some ha
    cases hstep with
    | checkStopped => exact .restarted (.inr rfl)
    | check hf => exact absurd rfl hf
    | start => exact .up (.running (.inr rfl))
    | _ => simp at hlife
  | stopping hlife =>
    obtain ⟨rfl, rfl⟩ := getElem?_singleton_eq_some ha
    cases hstep with
    | finish => exact .stopped
    | start => exact absurd rfl hlife
    | check _ | loop | leave _ | drain => exact .stopping (by simp)

/-- A worker that was never started, or has stopped, has no thread. -/
lemma eq_nil {constructed : Bool}
    (h : (if constructed then Phase.down else Phase.unborn).Holds f threads) : threads = [] := by
  cases constructed <;> cases h <;> rfl

/-! #### What the control thread does to the phase -/

/-- The first thread is started in the constructor of `Bus`. -/
lemma born (h : Phase.unborn.Holds f threads) :
    Phase.running.Holds f (threads ++ [.spawned]) := by
  cases h
  exact .running (.inl rfl)

/-- `Bus::start` starts a thread for a worker that has stopped … -/
lemma restart (h : Phase.ready.Holds f threads) (hf : f = .stopped) :
    Phase.up.Holds f (threads ++ [.spawned]) := by
  subst hf
  cases h with
  | readyRunning h => cases h
  | readyDown h =>
    cases h
    exact .restarted (.inl rfl)

/-- … and leaves the others alone. -/
lemma started (h : Phase.ready.Holds f threads) (hf : f ≠ .stopped) : Phase.up.Holds f threads := by
  cases h with
  | readyRunning h => exact .up h
  | readyDown h =>
    cases h
    exact absurd rfl hf

lemma running_of_up (h : Phase.up.Holds f threads) (hf : f ≠ .stopped) :
    Phase.running.Holds f threads := by
  cases h with
  | up h => exact h
  | restarted _ => exact absurd rfl hf

lemma eq_running (h : Phase.running.Holds f threads) : f = .running := by
  cases h
  rfl

/-- A worker that is running has a thread that is not at its end. -/
lemma exists_ne_leaving (h : Phase.running.Holds f threads) : ∃ a ∈ threads, a ≠ .leaving := by
  cases h with
  | @running a hlife =>
    refine ⟨a, List.mem_singleton_self a, ?_⟩
    rintro rfl
    simp at hlife

lemma stopStarted (h : Phase.running.Holds f threads) :
    Phase.stopping.Holds f.stopStarted threads := by
  cases h with
  | running hlife =>
    apply Phase.Holds.stopping
    rintro rfl
    simp at hlife

lemma ne_running (h : Phase.stopping.Holds f threads) : f ≠ .running := by
  cases h <;> simp

lemma starting_notMem (h : Phase.stopping.Holds f threads) : .starting ∉ threads := by
  cases h with
  | stopping hlife => simpa using hlife.symm
  | stopped => simp

/-- The wait for `isStopped()` is over. -/
lemma down_of_stopping (h : Phase.stopping.Holds f threads) (hf : f = .stopped) :
    Phase.down.Holds f threads := by
  subst hf
  cases h
  exact .down

end Phase.Holds

/-! ### The threads of the system -/

variable {s : State}

lemma ReaderStep.life {pc : ReaderPC} {m : ReaderMove} (h : ReaderStep s pc m) :
    LifeStep s.reader pc.life m.reader (m.pc.map ReaderPC.life) := by
  cases h with
  | checkStopped hs =>
    simp only [ReaderMove.goto, hs]
    exact .checkStopped
  | check hs => exact .check hs
  | start => exact .start
  | leave hs => exact .leave hs
  | exit => exact .finish
  | _ => exact .loop

lemma WriterStep.life {err sendResult : ℤ} {pc : WriterPC} {m : WriterMove}
    (h : WriterStep s err sendResult pc m) :
    LifeStep s.writer pc.life m.writer (m.pc.map WriterPC.life) := by
  cases h with
  | checkStopped hs =>
    simp only [WriterMove.goto, hs]
    exact .checkStopped
  | check hs => exact .check hs
  | start => exact .start
  | @write p _ =>
    obtain ⟨hwriter, -, hpc | hpc⟩ := writeMove_frame s p err sendResult <;> rw [hwriter, hpc] <;>
      exact .loop
  | leave hs => exact .leave hs
  | exit => exact .finish
  | drainSkipped | drainStart | drain | drainDone | drainWait | drainPop => exact .drain
  | _ => exact .loop

end HdmiCec
