import HdmiCec.Codec.Encoding
import HdmiCec.System.Connections

/-!
# The filter and the source of a connection

A connection has its address twice: in `source`, which `setSource` changes and the sends use, and in
the copy that its `DefaultFilter` compares the destination of a received frame with. No function
changes the copy, so the two agree as long as `setSource` is given the address that is there
already.
-/

namespace HdmiCec

open Lib

/-- The low nibble of the first byte. -/
def CECFrame.destination (frame : CECFrame) : LogicalAddress :=
  .ofByte (frame.bytes.getD 0 0 &&& 0x0F)

/-- A frame is for the address `source`: that is UNREGISTERED, or the frame is for everybody or for
`source`. -/
def CECFrame.IsFor (frame : CECFrame) (source : LogicalAddress) : Prop :=
  source = .ofInt LogicalAddress.unregistered ∨
    frame.destination = .ofInt LogicalAddress.broadcast ∨ frame.destination = source

instance (frame : CECFrame) (source : LogicalAddress) : Decidable (frame.IsFor source) :=
  inferInstanceAs (Decidable (_ ∨ _ ∨ _))

/-- The filter lets a frame pass exactly when it is for the filter's address. -/
lemma result_isFiltered {frame : CECFrame} (source : LogicalAddress) (h : 1 ≤ frame.length) :
    (Connection.isFiltered source frame).result = .ok (!decide (frame.IsFor source)) := by
  unfold Connection.isFiltered
  split
  · rename_i hsource
    simp [CECFrame.IsFor, hsource]
  · rename_i hsource
    cases hb : frame.bytes with
    | nil => simp [CECFrame.length, hb] at h
    | cons b bs =>
      have hto : (Header.ofByte b).toAddr = frame.destination := by
        rw [Header.ofByte_eq, CECFrame.destination, hb]
        simp [CECBytes.ofByte]
      rw [Header.ofFrame_eq hb, pure_bind, hto, Logged.result_pure]
      simp [CECFrame.IsFor, hsource]

namespace World

/-- The filter of every connection has the source of the connection. -/
def FiltersBySource (w : World) : Prop :=
  ∀ id c, w.conns id = .live c → c.busFrameFilter = c.source

/-- A `setSource` sets the address that the connection has. -/
def keepsSource (w : World) : Act → Bool
  | .setSource id source =>
    match w.conns id with
    | .live c => source = c.source
    | .absent | .destroyed => true
  | _ => true

variable {app : App} {w v : World} {a : Act}

lemma FiltersBySource.put {slot : Slot} {id : ℕ} (h : w.FiltersBySource)
    (hslot : ∀ c, slot = .live c → c.busFrameFilter = c.source) :
    (w.put id slot).FiltersBySource := by
  intro id' c hc
  by_cases hid : id' = id
  · subst hid
    rw [conns_put_self] at hc
    exact hslot c hc
  · rw [conns_put_of_ne w _ hid] at hc
    exact h id' c hc

lemma FiltersBySource.step (h : w.FiltersBySource) (ha : w.keepsSource a = true)
    (hmove : Moves app w a v) : v.FiltersBySource := by
  cases hmove with
  | construct _ | constructOpened _ _ =>
    apply FiltersBySource.put
    · intro id c hc
      rw [getInstance_conns] at hc
      exact h id c hc
    · rintro _ ⟨⟩
      rfl
  | constructRefused _ _ =>
    intro id c hc
    simp only [record, getInstance_conns] at hc
    exact h id c hc
  | closed hc _ | closeRefused hc _ | addFrameListener hc | removeFrameListener hc =>
    have hfilter := h _ _ hc
    apply h.put
    rintro _ ⟨⟩
    exact hfilter
  | @setSource id source c hc =>
    have hsource : source = c.source := by simpa [keepsSource, hc] using ha
    apply h.put
    rintro _ ⟨⟩
    exact (h id c hc).trans hsource.symm
  | destroy _ =>
    apply h.put
    intro c hc
    cases hc
  | _ => exact h

end World

open World

/-- As long as every `setSource` sets the address that the connection has, the filter of every
connection has its source, and a frame passes exactly when it is for that source. A `setSource` with
another address ends this. -/
theorem filter_follows_source {app : App} {w : World}
    (h : Run (World.step app) (fun w a => w.keepsSource a = true) .init w) :
    (∀ id c, w.conns id = .live c → c.busFrameFilter = c.source ∧
      ∀ frame : CECFrame, 1 ≤ frame.length →
        ((Connection.isFiltered c.busFrameFilter frame).result = .ok false ↔
          frame.IsFor c.source)) ∧
    ∀ id c source v, w.conns id = .live c → w.step app (.setSource id source) = some v →
      (v.FiltersBySource ↔ source = c.source) := by
  have hfilters : w.FiltersBySource := by
    apply h.invariant
    · intro w a v ha hstep hw
      exact hw.step ha (Moves.of_step hstep).2
    · intro id c hc
      cases hc
  constructor
  · intro id c hc
    refine ⟨hfilters id c hc, ?_⟩
    intro frame hframe
    rw [result_isFiltered _ hframe, hfilters id c hc]
    simp
  · intro id c source v hc hstep
    have hmove := (Moves.of_step hstep).2
    constructor
    · intro hv
      cases hmove with
      | setSource hc' =>
        rw [hc, Slot.live.injEq] at hc'
        subst hc'
        have hfilter := hv id _ (conns_put_self w id _)
        exact hfilter.symm.trans (hfilters id c hc)
    · intro hsource
      exact hfilters.step (by simp [keepsSource, hc, hsource]) hmove

/-- A connection for the address 4 is opened, and `setSource` is called with 4. -/
theorem filter_follows_source_playback :
    ∃ (w : World) (c : Conn), w.conns 0 = .live c ∧ c.source = .ofInt 4 ∧
      c.busFrameFilter = .ofInt 4 ∧
      (Connection.isFiltered c.busFrameFilter ⟨[0x04, 0x36], by decide⟩).result = .ok false := by
  obtain ⟨w, hrun, hw⟩ := Run.of_execSat
    (show execSat (World.step fun _ _ => .ok ()) (fun w a => w.keepsSource a = true)
      (fun w => w.liveSat 0 fun c => c.source = .ofInt 4) .init
      (startUp.map .sys ++ [.construct 0 (.ofInt 4) true "playback", .addFrameListener 0 1,
        .setSource 0 (.ofInt 4), .sendAsync 0 0]) = true by decide +kernel)
  obtain ⟨c, hc, hsource⟩ := exists_of_liveSat hw
  have hsource : c.source = .ofInt 4 := of_decide_eq_true hsource
  obtain ⟨hfilter, hpass⟩ := (filter_follows_source hrun).1 0 c hc
  refine ⟨w, c, hc, hsource, hfilter.trans hsource, ?_⟩
  rw [hpass _ (by decide), hsource]
  decide

/-- A connection for the address 4 gets the source 5: its filter still has 4, and keeps a frame for
5 away. -/
theorem filter_keeps_first_source :
    ∃ (w : World) (c : Conn), Run (World.step fun _ _ => .ok ()) (fun _ _ => True) .init w ∧
      w.conns 0 = .live c ∧
      c.source = .ofInt 5 ∧ c.busFrameFilter ≠ c.source ∧
      CECFrame.IsFor ⟨[0x05, 0x36], by decide⟩ c.source ∧
      (Connection.isFiltered c.busFrameFilter ⟨[0x05, 0x36], by decide⟩).result = .ok true := by
  obtain ⟨w, hrun, hw⟩ := Run.of_execSat
    (show execSat (World.step fun _ _ => .ok ()) (fun _ _ => True)
      (fun w => w.liveSat 0 fun c => c.source = .ofInt 5 ∧ c.busFrameFilter = .ofInt 4) .init
      [.construct 0 (.ofInt 4) false "playback", .setSource 0 (.ofInt 5)] = true by decide +kernel)
  obtain ⟨c, hc, haddresses⟩ := exists_of_liveSat hw
  obtain ⟨hsource, hfilter⟩ := of_decide_eq_true haddresses
  refine ⟨w, c, hrun, hc, hsource, ?_, ?_, ?_⟩
  · rw [hsource, hfilter]
    decide
  · rw [hsource]
    decide
  · rw [hfilter]
    decide

end HdmiCec
