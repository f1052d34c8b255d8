import HdmiCec.Driver.Writing
import HdmiCec.Lib.Retry
import HdmiCec.Sending.Basic

/-!
# The retries of a send

`Bus::send` makes one attempt, or with a positive timeout one more after each failure as long as the
timeout lasts. What it returns or raises is what its last attempt did, and what it does is what its
attempts do, one after the other.
-/

namespace HdmiCec

open Lib

/-- The calls of `Driver::write`. -/
def SendEvent.written : SendEvent → Option CECFrame
  | .write frame => some frame
  | _ => none

/-- The sleep before each attempt of the loop. -/
def SendEvent.began : SendEvent → Option Unit
  | .usleep 1000 => some ()
  | _ => none

namespace Bus

/-! ### An attempt -/

/-- Nothing is seen of the lines of the log and of the telemetry. -/
def Quiet {β : Type} (g : SendEvent → Option β) : Prop :=
  (∀ e, g (.lib e) = none) ∧ ∀ marker value, g (.t2Event marker value) = none

section

variable {β : Type} {g : SendEvent → Option β} {now : Attempt} {frame : CECFrame}

lemma Quiet.lib {α : Type} (hg : Quiet g) (m : Ccec α) : (Bus.lib m).seen g = [] := by
  apply Logged.seen_eq_nil
  intro o ho
  obtain ⟨e, -, rfl⟩ := List.mem_map.mp ho
  exact hg.1 e

lemma Quiet.reportFailure (hg : Quiet g) (e : Exn) : (reportFailure frame e).seen g = [] := by
  unfold Bus.reportFailure
  split
  · rw [Logged.seen_bind_of_ok rfl, Logged.seen_emit, hg.2, hg.lib]
    rfl
  · rfl

lemma result_reportFailure (e : Exn) : (reportFailure frame e).result = .ok () := by
  unfold reportFailure
  split <;> rfl

lemma sendNow_of_stopped (h : now.started = false) :
    sendNow now frame = .raise .invalidState := by
  rw [sendNow, h]
  rfl

lemma sendNow_of_started (h : now.started = true) :
    sendNow now frame = Logged.catching Exn.isException (fun e => do
        reportFailure frame e
        .raise e) (do
      driverWrite now frame
      lib (ccecLog logDebug "Bus::send write done\r\n")) := by
  rw [sendNow, h]
  exact pure_bind () _

/-- An attempt raises what `write` raises, on a bus that is started. -/
lemma result_sendNow (h : 1 ≤ frame.length) :
    (sendNow now frame).result =
      if now.started then (DriverImpl.write now.status now.err now.sendResult frame).result
      else .error .invalidState := by
  cases hnow : now.started with
  | false => rw [sendNow_of_stopped hnow, Logged.result_raise, if_neg (by decide)]
  | true =>
    rw [sendNow_of_started hnow, if_pos rfl]
    have hwrite : (driverWrite now frame).result =
        (DriverImpl.write now.status now.err now.sendResult frame).result :=
      Logged.result_bind_of_ok rfl
    cases hresult : (DriverImpl.write now.status now.err now.sendResult frame).result with
    | ok u =>
      have hbody : (do
          driverWrite now frame
          lib (ccecLog logDebug "Bus::send write done\r\n")).result = .ok () :=
        Logged.result_bind_of_ok (hwrite.trans hresult)
      rw [Logged.result_catching_of_ok hbody, hbody]
    | error e =>
      have hbody : (do
          driverWrite now frame
          lib (ccecLog logDebug "Bus::send write done\r\n")).result = .error e :=
        Logged.result_bind_of_error (hwrite.trans hresult)
      rw [Logged.result_catching_of_error hbody (DriverImpl.write_raisesOnly h e hresult),
        Logged.result_bind_of_ok (result_reportFailure e)]
      rfl

/-- Sending a frame that has a header raises the library's exceptions only. -/
lemma sendNow_raisesOnly (h : 1 ≤ frame.length) :
    (sendNow now frame).RaisesOnly (·.isException = true) := by
  intro e he
  rw [result_sendNow h] at he
  split at he
  · exact DriverImpl.write_raisesOnly h e he
  · cases he
    rfl

/-- An attempt on a bus that is started calls `Driver::write` once, and `HdmiCecTx` when the driver
is open. -/
lemma seen_sendNow (hg : Quiet g) (h : 1 ≤ frame.length) :
    (sendNow now frame).seen g =
      if now.started then (g (.write frame)).toList ++
        if now.status = .opened then (g (.hdmiCecTx frame.bytes)).toList else []
      else [] := by
  cases hnow : now.started with
  | false =>
    rw [sendNow_of_stopped hnow]
    rfl
  | true =>
    rw [sendNow_of_started hnow, Logged.seen_catching,
      Logged.seen_bind_of_nil (fun _ => hg.lib _), driverWrite, Logged.seen_bind_of_ok rfl,
      Logged.seen_emit, Logged.seen_mapLog, DriverImpl.seen_write (fun e => hg.1 e) h]
    · rfl
    · intro e
      rw [Logged.seen_bind_of_ok (result_reportFailure e), hg.reportFailure]
      rfl

/-! ### The rounds of the loop -/

/-- The check of a round is that of its attempt. -/
lemma roundBody_eq (now : Attempt) (frame : CECFrame) :
    (do
      lib (checkStarted now.started)
      sendNow now frame
      pure true : Logged Exn SendEvent Bool) = (do
      sendNow now frame
      pure true) := by
  cases hnow : now.started with
  | false =>
    rw [sendNow_of_stopped hnow]
    rfl
  | true => exact pure_bind () _

/-- What is seen of a round is what is seen of its attempt. -/
lemma seen_sendRound (hg : Quiet g) (retry : ℕ) :
    (sendRound now frame retry).seen g = (sendNow now frame).seen g := by
  have hhandler : ∀ e : Exn, (do
      lib (if frame.length > 1 then ccecLog logExp ("Bus::send exp caught [" ++ e.what ++
        "], retry [" ++ toString retry ++ "]\r\n") else pure ())
      if retry = 0 then .raise e else pure false : Logged Exn SendEvent Bool).seen g = [] := by
    intro e
    rw [Logged.seen_bind_of_nil, hg.lib]
    intro _
    split <;> rfl
  rw [sendRound, Logged.seen_catching hhandler, roundBody_eq]
  exact Logged.seen_bind_of_nil fun _ => rfl

lemma result_sendRound_of_ok (retry : ℕ) (hok : (sendNow now frame).result = .ok ()) :
    (sendRound now frame retry).result = .ok true := by
  have hbody : (do
      sendNow now frame
      pure true : Logged Exn SendEvent Bool).result = .ok true := Logged.result_bind_of_ok hok
  rw [sendRound, roundBody_eq, Logged.result_catching_of_ok hbody, hbody]

lemma result_sendRound_of_error (h : 1 ≤ frame.length) (retry : ℕ) {e : Exn}
    (herror : (sendNow now frame).result = .error e) :
    (sendRound now frame retry).result = if retry = 0 then .error e else .ok false := by
  have hbody : (do
      sendNow now frame
      pure true : Logged Exn SendEvent Bool).result = .error e := Logged.result_bind_of_error herror
  have hlog : (lib (if frame.length > 1 then ccecLog logExp ("Bus::send exp caught [" ++ e.what ++
      "], retry [" ++ toString retry ++ "]\r\n") else pure ())).result = .ok () := by
    split <;> rfl
  rw [sendRound, roundBody_eq, Logged.result_catching_of_error hbody (sendNow_raisesOnly h e herror),
    Logged.result_bind_of_ok hlog]
  split <;> rfl

end

/-- Whether the `i`th attempt succeeds. -/
def succeeds (attempts : ℕ → Attempt) (frame : CECFrame) (i : ℕ) : Bool :=
  (sendNow (attempts i) frame).result.isOk

section

variable {β : Type} {g : SendEvent → Option β} {attempts : ℕ → Attempt} {frame : CECFrame}

lemma succeeds_iff {i : ℕ} :
    succeeds attempts frame i = true ↔ (sendNow (attempts i) frame).result = .ok () := by
  rw [succeeds]
  cases (sendNow (attempts i) frame).result with
  | ok u => exact iff_of_true rfl rfl
  | error e => simp [Except.isOk, Except.toBool]

lemma fails_iff {i : ℕ} :
    succeeds attempts frame i = false ↔ ∃ e, (sendNow (attempts i) frame).result = .error e := by
  rw [succeeds]
  cases (sendNow (attempts i) frame).result with
  | ok u => simp [Except.isOk, Except.toBool]
  | error e => exact iff_of_true rfl ⟨e, rfl⟩

/-- The loop returns or raises what its last attempt does. -/
lemma result_sendLoop (h : 1 ≤ frame.length) (n retry : ℕ) :
    (sendLoop attempts frame n retry).result =
      (sendNow (attempts (n + (Retry.made (succeeds attempts frame) retry n - 1)))
        frame).result := by
  induction retry generalizing n with
  | zero =>
    rw [sendLoop, Logged.result_bind_of_ok rfl]
    cases hresult : (sendNow (attempts n) frame).result with
    | ok u =>
      rw [Logged.result_bind_of_ok (result_sendRound_of_ok 0 hresult)]
      exact hresult.symm
    | error e =>
      rw [Logged.result_bind_of_error (result_sendRound_of_error h 0 hresult)]
      exact hresult.symm
  | succ retry ih =>
    rw [sendLoop, Logged.result_bind_of_ok rfl]
    cases hn : succeeds attempts frame n with
    | true =>
      have hok := succeeds_iff.mp hn
      rw [Retry.made_succ_of_succeeds hn, Logged.result_bind_of_ok (result_sendRound_of_ok _ hok)]
      exact hok.symm
    | false =>
      obtain ⟨e, herror⟩ := fails_iff.mp hn
      have hpos := Retry.made_pos (succeeds attempts frame) retry (n + 1)
      have hlast : n + (Retry.made (succeeds attempts frame) (retry + 1) n - 1) =
          n + 1 + (Retry.made (succeeds attempts frame) retry (n + 1) - 1) := by
        rw [Retry.made_succ_of_fails hn]
        omega
      rw [Logged.result_bind_of_ok (result_sendRound_of_error h _ herror), hlast, ← ih]
      exact Logged.result_bind_of_ok rfl

/-- What is seen of the loop is what is seen of its attempts. -/
lemma seen_sendLoop (hg : Quiet g) (hpause : g (.usleep 250000) = none) (h : 1 ≤ frame.length)
    (n retry : ℕ) :
    (sendLoop attempts frame n retry).seen g =
      (List.range (Retry.made (succeeds attempts frame) retry n)).flatMap fun i =>
        (g (.usleep 1000)).toList ++ (sendNow (attempts (n + i)) frame).seen g := by
  induction retry generalizing n with
  | zero =>
    rw [sendLoop, Logged.seen_bind_of_ok rfl, Logged.seen_emit,
      Logged.seen_bind_of_nil (fun _ => rfl), seen_sendRound hg]
    simp [Retry.made]
  | succ retry ih =>
    rw [sendLoop, Logged.seen_bind_of_ok rfl, Logged.seen_emit]
    cases hn : succeeds attempts frame n with
    | true =>
      rw [Retry.made_succ_of_succeeds hn,
        Logged.seen_bind_of_ok (result_sendRound_of_ok _ (succeeds_iff.mp hn)), seen_sendRound hg]
      simp [Logged.seen]
    | false =>
      obtain ⟨e, herror⟩ := fails_iff.mp hn
      rw [Retry.made_succ_of_fails hn,
        Logged.seen_bind_of_ok (result_sendRound_of_error h _ herror), seen_sendRound hg,
        List.range_succ_eq_map, List.flatMap_cons, List.flatMap_map, ← List.append_assoc]
      congr 1
      refine (Logged.seen_bind_of_ok rfl).trans ?_
      rw [Logged.seen_emit, hpause, ih (n + 1)]
      simp only [Option.toList_none, List.nil_append, Nat.succ_eq_add_one, Nat.add_assoc,
        Nat.add_comm 1]

/-- The loop does not look at the attempts that it does not make. -/
lemma sendLoop_congr {attempts' : ℕ → Attempt} (n retry : ℕ)
    (hsame : ∀ i < Retry.made (succeeds attempts frame) retry n,
      attempts' (n + i) = attempts (n + i)) :
    sendLoop attempts' frame n retry = sendLoop attempts frame n retry := by
  induction retry generalizing n with
  | zero =>
    have hn : attempts' n = attempts n := hsame 0 Nat.one_pos
    rw [sendLoop, sendLoop, hn]
  | succ retry ih =>
    have hn : attempts' n = attempts n := hsame 0 (Retry.made_pos _ _ _)
    rw [sendLoop, sendLoop, hn]
    apply Logged.bind_congr_of_ok
    intro _ _
    apply Logged.bind_congr_of_ok
    intro sent hsent
    cases hsucceeds : succeeds attempts frame n with
    | true =>
      rw [result_sendRound_of_ok _ (succeeds_iff.mp hsucceeds), Except.ok.injEq] at hsent
      subst hsent
      rfl
    | false =>
      rw [Retry.made_succ_of_fails hsucceeds] at hsame
      rw [ih (n + 1)]
      intro i hi
      rw [Nat.add_assoc, Nat.add_comm 1 i]
      exact hsame (i + 1) (Nat.succ_lt_succ hi)

end

/-! ### The send -/

/-- The number of attempts that a timeout allows. -/
def attemptsAllowed (timeout : ℤ) : ℕ := if timeout ≤ 0 then 1 else (timeout / 250).toNat + 1

/-- The number of attempts that a send makes. -/
def attemptsMade (attempts : ℕ → Attempt) (frame : CECFrame) (timeout : ℤ) : ℕ :=
  Retry.made (succeeds attempts frame) (attemptsAllowed timeout - 1) 0

section

variable {β : Type} {g : SendEvent → Option β} {attempts : ℕ → Attempt} {frame : CECFrame}
  {timeout : ℤ}

lemma attemptsAllowed_pos (timeout : ℤ) : 1 ≤ attemptsAllowed timeout := by
  unfold attemptsAllowed
  split
  · exact Nat.le_refl _
  · exact Nat.succ_pos _

lemma send_of_nonpos (attempts : ℕ → Attempt) (frame : CECFrame) (ht : timeout ≤ 0) :
    send attempts frame timeout = sendNow (attempts 0) frame ∧
      attemptsMade attempts frame timeout = 1 := by
  rw [send, if_pos ht, attemptsMade, attemptsAllowed, if_pos ht]
  exact ⟨rfl, rfl⟩

lemma send_of_pos (ht : 0 < timeout) :
    send attempts frame timeout = sendLoop attempts frame 0 (attemptsAllowed timeout - 1) := by
  have hneg : ¬ timeout ≤ 0 := by omega
  rw [send, attemptsAllowed, if_neg hneg, if_neg hneg, Nat.add_sub_cancel]

/-- A send returns or raises what its last attempt does. -/
lemma result_send (h : 1 ≤ frame.length) :
    (send attempts frame timeout).result =
      (sendNow (attempts (attemptsMade attempts frame timeout - 1)) frame).result := by
  by_cases ht : timeout ≤ 0
  · obtain ⟨hsend, hmade⟩ := send_of_nonpos attempts frame ht
    rw [hsend, hmade]
  · rw [send_of_pos (Int.not_le.mp ht), result_sendLoop h, Nat.zero_add]
    rfl

/-- What is seen of a send is what is seen of its attempts, when nothing is seen of its sleeps. -/
lemma seen_send (hg : Quiet g) (hsleep : ∀ usec, g (.usleep usec) = none) (h : 1 ≤ frame.length) :
    (send attempts frame timeout).seen g =
      (List.range (attemptsMade attempts frame timeout)).flatMap fun i =>
        (sendNow (attempts i) frame).seen g := by
  by_cases ht : timeout ≤ 0
  · obtain ⟨hsend, hmade⟩ := send_of_nonpos attempts frame ht
    rw [hsend, hmade]
    simp
  · rw [send_of_pos (Int.not_le.mp ht), seen_sendLoop hg (hsleep _) h]
    simp only [hsleep, Option.toList_none, List.nil_append, Nat.zero_add]
    rfl

lemma send_congr {attempts' : ℕ → Attempt}
    (hsame : ∀ i < attemptsMade attempts frame timeout, attempts' i = attempts i) :
    send attempts' frame timeout = send attempts frame timeout := by
  by_cases ht : timeout ≤ 0
  · obtain ⟨hsend, hmade⟩ := send_of_nonpos attempts frame ht
    have hsend' := (send_of_nonpos attempts' frame ht).1
    rw [hsend, hsend', hsame 0 (hmade ▸ Nat.one_pos)]
  · rw [send_of_pos (Int.not_le.mp ht), send_of_pos (Int.not_le.mp ht)]
    apply sendLoop_congr
    intro i hi
    rw [Nat.zero_add]
    exact hsame i hi

lemma attemptsMade_pos (attempts : ℕ → Attempt) (frame : CECFrame) (timeout : ℤ) :
    1 ≤ attemptsMade attempts frame timeout := Retry.made_pos _ _ _

lemma attemptsMade_le (attempts : ℕ → Attempt) (frame : CECFrame) (timeout : ℤ) :
    attemptsMade attempts frame timeout ≤ attemptsAllowed timeout := by
  have hle := Retry.made_le (succeeds attempts frame) (attemptsAllowed timeout - 1) 0
  rwa [Nat.sub_add_cancel (attemptsAllowed_pos timeout)] at hle

/-- No attempt is made after one that succeeds. -/
lemma attemptsMade_le_of_succeeds (timeout : ℤ) {i : ℕ}
    (hi : succeeds attempts frame i = true) :
    attemptsMade attempts frame timeout ≤ i + 1 := by
  by_contra hlt
  have hfails := Retry.fails_of_lt_made (Nat.not_le.mp hlt)
  rw [Nat.zero_add, hi] at hfails
  exact absurd hfails (by decide)

lemma exists_succeeds_iff :
    succeeds attempts frame (attemptsMade attempts frame timeout - 1) = true ↔
      ∃ i < attemptsAllowed timeout, succeeds attempts frame i = true := by
  have hpos := attemptsAllowed_pos timeout
  have hlast := Retry.succeeds_last_iff (succeeds attempts frame) (attemptsAllowed timeout - 1) 0
  rw [Nat.sub_add_cancel hpos] at hlast
  simp only [Nat.zero_add] at hlast
  exact hlast

/-- What is seen once of the attempts with the property `p` and not at all of the others. -/
lemma seen_send_filter (hg : Quiet g) (hsleep : ∀ usec, g (.usleep usec) = none)
    (h : 1 ≤ frame.length) {p : ℕ → Bool} {b : β}
    (hnow : ∀ i, (sendNow (attempts i) frame).seen g = if p i then [b] else []) :
    (send attempts frame timeout).seen g =
      ((List.range (attemptsMade attempts frame timeout)).filter p).map fun _ => b := by
  rw [seen_send hg hsleep h]
  generalize attemptsMade attempts frame timeout = n
  induction n with
  | zero => rfl
  | succ n ih =>
    rw [List.range_succ, List.flatMap_append, ih, List.filter_append, List.map_append]
    congr 1
    cases hp : p n with
    | true => simp [hp, hnow]
    | false => simp [hp, hnow]

/-- The calls of `Driver::write`: one for each attempt that finds the bus started. -/
lemma seen_written (h : 1 ≤ frame.length) :
    (send attempts frame timeout).seen SendEvent.written =
      ((List.range (attemptsMade attempts frame timeout)).filter fun i => (attempts i).started).map
        fun _ => frame := by
  have hquiet : Quiet SendEvent.written := ⟨fun _ => rfl, fun _ _ => rfl⟩
  refine seen_send_filter hquiet (fun _ => rfl) h fun i => ?_
  rw [seen_sendNow hquiet h]
  cases (attempts i).started with
  | true => simp [SendEvent.written]
  | false => rfl

/-- The loop sleeps before each of its attempts. -/
lemma seen_began (h : 1 ≤ frame.length) (ht : 0 < timeout) :
    ((send attempts frame timeout).seen SendEvent.began).length =
      attemptsMade attempts frame timeout := by
  have hquiet : Quiet SendEvent.began := ⟨fun _ => rfl, fun _ _ => rfl⟩
  have hnow : ∀ i, (sendNow (attempts i) frame).seen SendEvent.began = [] := by
    intro i
    rw [seen_sendNow hquiet h]
    split
    · split <;> rfl
    · rfl
  rw [send_of_pos ht, seen_sendLoop hquiet rfl h, attemptsMade]
  generalize Retry.made (succeeds attempts frame) (attemptsAllowed timeout - 1) 0 = n
  simp only [hnow, List.append_nil]
  induction n with
  | zero => rfl
  | succ n ih =>
    rw [List.range_succ, List.flatMap_append, List.length_append, ih]
    rfl

end

/-- The law of the retries. A send makes some number `n` of attempts: it returns or raises what the
last of them does, the others have failed, and only when all that the timeout allows fail does it
fail, after all of them. It calls `Driver::write` once for each attempt that finds the bus started,
sleeps a millisecond before each attempt of its loop, and does not look at later attempts. -/
theorem send_retry_law (attempts : ℕ → Attempt) (frame : CECFrame) (h : 1 ≤ frame.length)
    (timeout : ℤ) :
    (∀ i, (sendNow (attempts i) frame).result = .ok () ∨
      ∃ e, (sendNow (attempts i) frame).result = .error e ∧ e.isException = true) ∧
    ∃ n, 1 ≤ n ∧ n ≤ attemptsAllowed timeout ∧
      (∀ i, (sendNow (attempts i) frame).result = .ok () → n ≤ i + 1) ∧
      (send attempts frame timeout).result = (sendNow (attempts (n - 1)) frame).result ∧
      ((send attempts frame timeout).result = .ok () ↔
        ∃ i < attemptsAllowed timeout, (sendNow (attempts i) frame).result = .ok ()) ∧
      ((∀ i < attemptsAllowed timeout, (sendNow (attempts i) frame).result ≠ .ok ()) →
        n = attemptsAllowed timeout) ∧
      (send attempts frame timeout).seen SendEvent.written =
        ((List.range n).filter fun i => (attempts i).started).map (fun _ => frame) ∧
      (0 < timeout → ((send attempts frame timeout).seen SendEvent.began).length = n) ∧
      ∀ attempts' : ℕ → Attempt, (∀ i < n, attempts' i = attempts i) →
        send attempts' frame timeout = send attempts frame timeout := by
  refine ⟨?_, attemptsMade attempts frame timeout, attemptsMade_pos _ _ _, attemptsMade_le _ _ _,
    fun i hok => attemptsMade_le_of_succeeds timeout (succeeds_iff.mpr hok), result_send h, ?_, ?_,
    seen_written h, seen_began h, fun _ hsame => send_congr hsame⟩
  · intro i
    cases hresult : (sendNow (attempts i) frame).result with
    | ok u => exact .inl rfl
    | error e => exact .inr ⟨e, rfl, sendNow_raisesOnly h e hresult⟩
  · rw [result_send h, ← succeeds_iff, exists_succeeds_iff]
    simp only [succeeds_iff]
  · intro hfails
    have hbudget := Nat.sub_add_cancel (attemptsAllowed_pos timeout)
    refine Eq.trans (Retry.made_eq_of_fails ?_) hbudget
    intro i hi
    rw [hbudget] at hi
    rw [Nat.zero_add, ← Bool.not_eq_true, succeeds_iff]
    exact hfails i hi

/-- A frame that nobody acknowledges at first is sent again within a timeout of half a second. -/
theorem send_retry_law_second :
    (send (fun i => ⟨true, .opened, 0, if i = 0 then 1 else 0⟩) ⟨[0x40, 0x04], by decide⟩
      500).result = .ok () := by
  obtain ⟨-, n, -, -, -, -, hok, -⟩ :=
    send_retry_law (fun i => ⟨true, .opened, 0, if i = 0 then 1 else 0⟩) ⟨[0x40, 0x04], by decide⟩
      (by decide) 500
  exact hok.mpr ⟨1, by decide, by decide +kernel⟩

end Bus

end HdmiCec
