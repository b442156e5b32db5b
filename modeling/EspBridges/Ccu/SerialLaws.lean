import EspBridges.Ccu.Gatts

namespace EspBridges.Ccu

open Bytes

structure Call where
  ccuMsg : Buf 500
  length : Nat

def Call.received (c : Call) : List Byte := (List.range c.length).map (c.ccuMsg.rd fun _ => 0)

def recorded (process : Handler σ) : Handler (List Call × σ) := fun ccuMsg length x =>
  let (x', ccuMsg') := process ccuMsg length x.2
  ((x.1 ++ [⟨ccuMsg, length⟩], x'), ccuMsg')

structure Bursts where
  closed : List (List Byte)
  pending : List Byte

def Bursts.event (b : Bursts) : SerialEvent → Bursts
  | .byteReceived dataByte => { b with pending := b.pending ++ [dataByte] }
  | .timerExpiry => ⟨b.closed ++ [b.pending], []⟩

def bursts (es : List SerialEvent) : Bursts := es.foldl Bursts.event ⟨[], []⟩

def Bursts.fits (b : Bursts) : Prop := (∀ c ∈ b.closed, c.length ≤ 498) ∧ b.pending.length ≤ 498

theorem Bursts.fits_of_event (b : Bursts) (e : SerialEvent) (h : (b.event e).fits) : b.fits := by
  cases e with
  | byteReceived dataByte =>
    refine ⟨h.1, ?_⟩
    have := h.2
    simp only [Bursts.event, List.length_append, List.length_singleton] at this
    omega
  | timerExpiry =>
    constructor
    · intro c hc
      exact h.1 c (List.mem_append_left _ hc)
    · exact h.1 b.pending (List.mem_append_right _ (List.mem_singleton_self _))

/-- The timer, the two status variables and the buffer agree about the current burst. -/
structure SerialTask.Agrees (t : SerialTask) (pending : List Byte) : Prop where
  calls_ok : t.oneshotTimer.failed = false
  armed_iff : t.oneshotTimer.armed = true ↔ t.serialTimerState = 1
  timing_iff : t.serialTimerState = 1 ↔ 0 < t.serialDataBytes
  count : t.serialDataBytes = pending.length
  held : ∀ (i : Nat) (h : i < pending.length), t.serialRxData.rd (fun _ => 0) i = pending[i]
  in_bounds : t.oob = false

theorem boot_agrees : SerialTask.boot.Agrees [] where
  calls_ok := rfl
  armed_iff := by decide
  timing_iff := by decide
  count := rfl
  held := fun i h => absurd h (Nat.not_lt_zero i)
  in_bounds := rfl

@[simp] theorem checkAndUartData_rxData (dataByte : Byte) (t : SerialTask) :
    (checkAndUartData dataByte t).serialRxData = t.serialRxData.put t.serialDataBytes dataByte := by
  unfold checkAndUartData
  split <;> rfl

@[simp] theorem checkAndUartData_dataBytes (dataByte : Byte) (t : SerialTask) :
    (checkAndUartData dataByte t).serialDataBytes = t.serialDataBytes + 1 := by
  unfold checkAndUartData
  split <;> rfl

@[simp] theorem checkAndUartData_timerState (dataByte : Byte) (t : SerialTask) :
    (checkAndUartData dataByte t).serialTimerState = 1 := by
  unfold checkAndUartData
  split <;> rfl

@[simp] theorem checkAndUartData_oob (dataByte : Byte) (t : SerialTask) :
    (checkAndUartData dataByte t).oob = (t.oob || !decide (t.serialDataBytes < 500)) := by
  unfold checkAndUartData
  split <;> rfl

/-- Stopping precedes starting just when the timer runs, so neither call can fail. -/
theorem checkAndUartData_timer (dataByte : Byte) (t : SerialTask)
    (hok : t.oneshotTimer.failed = false)
    (harmed : t.oneshotTimer.armed = true ↔ t.serialTimerState = 1) :
    (checkAndUartData dataByte t).oneshotTimer = ⟨true, false⟩ := by
  have htimer : t.oneshotTimer = ⟨decide (t.serialTimerState = 1), false⟩ := by
    cases hq : t.oneshotTimer with
    | mk armed failed =>
      rw [hq] at hok harmed
      simp only [EspTimer.mk.injEq]
      exact ⟨Bool.eq_iff_iff.mpr (by simpa using harmed), hok⟩
  unfold checkAndUartData
  by_cases h : t.serialTimerState = 1
  · rw [if_neg (not_not_intro h)]
    simp [serialPortTimerStart, storeByte, serialPortTimerStop, htimer, h, EspTimer.startOnce,
      EspTimer.stop]
  · rw [if_pos h]
    simp [serialPortTimerStart, storeByte, htimer, h, EspTimer.startOnce]

theorem checkAndUartData_agrees (dataByte : Byte) {t : SerialTask} (h : t.Agrees pending)
    (hlt : pending.length < 500) :
    (checkAndUartData dataByte t).Agrees (pending ++ [dataByte]) where
  calls_ok := by rw [checkAndUartData_timer _ _ h.calls_ok h.armed_iff]
  armed_iff := by simp [checkAndUartData_timer _ _ h.calls_ok h.armed_iff]
  timing_iff := by simp
  count := by simp [h.count]
  held := by
    intro i hi
    rw [checkAndUartData_rxData, Buf.rd_put, h.count]
    rw [List.length_append, List.length_singleton] at hi
    by_cases hlast : i = pending.length
    · rw [if_pos ⟨hlast, by omega⟩]
      simp [hlast]
    · rw [if_neg (fun hc => hlast hc.1), h.held i (by omega)]
      exact (List.getElem_append_left (by omega)).symm
  in_bounds := by simp [h.in_bounds, h.count, hlt]

/-- The terminator goes behind the byte after the packet, so the counted bytes are kept. -/
theorem packet_received {t : SerialTask} (h : t.Agrees pending) :
    Call.received ⟨t.packet, t.serialDataBytes⟩ = pending := by
  apply List.ext_getElem
  · simp [Call.received, h.count]
  · intro i hi hp
    simp only [Call.received, List.getElem_map, List.getElem_range, SerialTask.packet]
    rw [Buf.rd_put, if_neg (by rw [h.count]; omega), h.held i hp]

theorem oneshotTimerCallback_agrees (process : Handler σ) {t : SerialTask} (x : σ)
    (h : t.Agrees pending) (hlt : pending.length + 1 < 500) :
    (oneshotTimerCallback process { t with oneshotTimer := { t.oneshotTimer with armed := false } }
      x).1.Agrees [] where
  calls_ok := h.calls_ok
  armed_iff := by simp [oneshotTimerCallback]
  timing_iff := by simp [oneshotTimerCallback]
  count := rfl
  held := fun i hi => absurd hi (Nat.not_lt_zero i)
  in_bounds := by simp [oneshotTimerCallback, h.in_bounds, h.count, hlt]

structure Framed (b : Bursts) (s : SerialTask × List Call × σ) : Prop where
  calls : s.2.1.map Call.received = b.closed
  agrees : s.1.Agrees b.pending

theorem serialStep_framed (process : Handler σ) (b : Bursts) (s : SerialTask × List Call × σ)
    (e : SerialEvent) (s' : SerialTask × List Call × σ) (h : Framed b s)
    (hs : serialStep (recorded process) s e = some s') (hfit : (b.event e).fits) :
    Framed (b.event e) s' := by
  obtain ⟨t, calls, x⟩ := s
  cases e with
  | byteReceived dataByte =>
    cases hs
    have hlen : b.pending.length < 500 := by
      have := (b.fits_of_event _ hfit).2
      omega
    exact ⟨h.calls, checkAndUartData_agrees dataByte h.agrees hlen⟩
  | timerExpiry =>
    simp only [serialStep, Option.ite_none_right_eq_some, Option.some.injEq] at hs
    obtain ⟨_, rfl⟩ := hs
    have hlen : b.pending.length + 1 < 500 := by
      have := (b.fits_of_event _ hfit).2
      omega
    refine ⟨?_, oneshotTimerCallback_agrees _ _ h.agrees hlen⟩
    have hlast : Call.received ⟨t.packet, t.serialDataBytes⟩ = b.pending :=
      packet_received h.agrees
    show (calls ++ [Call.mk t.packet t.serialDataBytes]).map Call.received = b.closed ++ [b.pending]
    rw [List.map_append, List.map_singleton, hlast]
    exact congrArg (· ++ _) h.calls

theorem run_framed (process : Handler σ) (x : σ) (es : List SerialEvent)
    (s : SerialTask × List Call × σ)
    (hr : Machine.run (serialStep (recorded process)) (.boot, [], x) es = some s)
    (hfit : (bursts es).fits) : Framed (bursts es) s :=
  Machine.run_tracks Bursts.fits_of_event (serialStep_framed process) ⟨rfl, boot_agrees⟩ hr hfit

/-- The bytes counted into the buffer lie inside it, the timer calls succeed, and the packet
handler has been called on every closed burst, with its length, and on nothing else. -/
theorem serial_framing (process : Handler σ) (x : σ) (es : List SerialEvent)
    (s : SerialTask × List Call × σ)
    (hr : Machine.run (serialStep (recorded process)) (.boot, [], x) es = some s)
    (hfit : (bursts es).fits) :
    s.1.oneshotTimer.failed = false ∧ s.1.oob = false ∧
      (s.1.oneshotTimer.armed = true ↔ s.1.serialTimerState = 1) ∧
      (s.1.serialTimerState = 1 ↔ 0 < s.1.serialDataBytes) ∧
      s.1.serialDataBytes = (bursts es).pending.length ∧
      s.2.1.map Call.received = (bursts es).closed ∧
      s.2.1.map Call.length = (bursts es).closed.map List.length := by
  have h : Framed (bursts es) s := run_framed process x es s hr hfit
  refine ⟨h.agrees.calls_ok, h.agrees.in_bounds, h.agrees.armed_iff, h.agrees.timing_iff,
    h.agrees.count, h.calls, ?_⟩
  rw [← h.calls, List.map_map]
  apply List.map_congr_left
  intro c _
  simp [Call.received]

theorem serial_framing_two_bursts :
    ∃ s, Machine.run (serialStep (recorded fun b _ (x : Unit) => (x, b))) (.boot, [], ())
        [.byteReceived 0x74, .byteReceived 44, .timerExpiry, .byteReceived 7] = some s ∧
      s.2.1.map Call.received = [[0x74, 44]] := by
  let es : List SerialEvent :=
    [.byteReceived 0x74, .byteReceived 44, .timerExpiry, .byteReceived 7]
  refine ⟨_, rfl, (serial_framing (fun b _ x => (x, b)) () es _ rfl ?_).2.2.2.2.2.1⟩
  constructor
  · intro c hc
    simp only [es, bursts, Bursts.event, List.foldl, List.nil_append, List.cons_append,
      List.mem_singleton] at hc
    subst hc
    decide
  · decide

theorem step_serial (b : Bridge) (e : Event) :
    (∀ dataByte, e.action = .byteReceived dataByte → b.glob.env.aborting = false →
      step b e = (serialStep processRx (b.serial, (b.at e).glob) (.byteReceived dataByte)).map
        fun s => ⟨s.1, s.2⟩) ∧
    (e.action = .timerExpiry → b.glob.env.aborting = false →
      step b e = (serialStep processRx (b.serial, (b.at e).glob) .timerExpiry).map
        fun s => ⟨s.1, s.2⟩) := by
  constructor
  · intro dataByte ha hrun
    simp [step, ha, Action.enabled, hrun, serialStep, Bridge.perform, Bridge.at]
  · intro ha hrun
    by_cases harmed : b.serial.oneshotTimer.armed = true
    · simp [step, ha, Action.enabled, hrun, harmed, serialStep, Bridge.perform, Bridge.at]
    · simp [step, ha, Action.enabled, hrun, harmed, serialStep]

/-! ### Bursts on the bridge -/

def Globals.around (mem : Nat → Buf 30) (wild : Wild Obj) (g : Globals) : Globals :=
  { g with env.mem := mem, env.wild := wild }

theorem packet_of_lt {t : SerialTask} (h : t.Agrees pending) (beyond : Nat → Byte)
    (hi : i < pending.length) (hlen : pending.length ≤ 500) : t.packet.rd beyond i = pending[i] := by
  unfold SerialTask.packet
  rw [Buf.rd_put, h.count, if_neg (by omega), ← h.held i hi, Buf.rd_of_lt _ _ (by omega),
    Buf.rd_of_lt _ _ (by omega)]

theorem packet_apply {t : SerialTask} (h : t.Agrees pending) (i : Fin 500)
    (hi : i.val < pending.length) (hlen : pending.length ≤ 500) :
    t.packet i = pending.getD i.val 0 := by
  have hbyte := packet_of_lt h (fun _ => 0) hi hlen
  rw [Buf.rd_of_lt _ _ i.isLt] at hbyte
  rw [hbyte, List.getD_eq_getElem?_getD, List.getElem?_eq_getElem hi, Option.getD_some]

theorem packet_end {t : SerialTask} (h : t.Agrees pending) (beyond : Nat → Byte)
    (hlen : pending.length ≤ 498) : t.packet.rd beyond (pending.length + 1) = 0 := by
  unfold SerialTask.packet
  rw [Buf.rd_put, h.count, if_pos ⟨rfl, by omega⟩]

theorem run_bytes {b : Bridge} (hb : b.serial.Agrees pending) (halive : b.glob.env.aborting = false)
    (received : List Byte) (es : List Event)
    (hes : es.map Event.action = received.map .byteReceived)
    (hlen : pending.length + received.length ≤ 500) :
    ∃ b' mem wild, Machine.run step b es = some b' ∧ b'.serial.Agrees (pending ++ received) ∧
      b'.glob = b.glob.around mem wild := by
  induction es generalizing b pending received with
  | nil =>
    obtain rfl : received = [] := by simpa using hes.symm
    exact ⟨b, b.glob.env.mem, b.glob.env.wild, rfl, by simpa using hb, rfl⟩
  | cons e es ih =>
    cases received with
    | nil => simp at hes
    | cons dataByte received =>
      simp only [List.map_cons, List.cons.injEq] at hes
      rw [List.length_cons] at hlen
      have hstep : step b e = some ⟨checkAndUartData dataByte b.serial, (b.at e).glob⟩ := by
        simp [step, hes.1, Action.enabled, halive, Bridge.perform, Bridge.at]
      obtain ⟨b', mem, wild, hrun, hagrees, hglob⟩ :=
        ih (b := ⟨checkAndUartData dataByte b.serial, (b.at e).glob⟩)
          (checkAndUartData_agrees dataByte hb (by omega)) halive received hes.2 (by simp; omega)
      refine ⟨b', mem, wild, ?_, ?_, ?_⟩
      · simp only [Machine.run, hstep, Option.bind_some]
        exact hrun
      · simpa using hagrees
      · rw [hglob]
        rfl

theorem step_pause {b : Bridge} {received : List Byte} (hb : b.serial.Agrees received)
    (halive : b.glob.env.aborting = false) (hpos : 0 < received.length)
    (hlen : received.length ≤ 498) {e : Event} (he : e.action = .timerExpiry) :
    ∃ b', step b e = some b' ∧ b'.serial.Agrees [] ∧
      b'.glob = (processRx b.serial.packet received.length (b.at e).glob).1 := by
  have harmed : b.serial.oneshotTimer.armed = true := by
    rw [hb.armed_iff, hb.timing_iff, hb.count]
    exact hpos
  refine ⟨_, by rw [step, he, if_pos (by simp [Action.enabled, harmed, halive])], ?_, ?_⟩
  · exact oneshotTimerCallback_agrees processRx (b.at e).glob hb (by omega)
  · rw [← hb.count]
    rfl

end EspBridges.Ccu
