import EspBridges.Ccu.SerialLaws

namespace EspBridges.Ccu

open Bytes

/-- No index written so far was outside `serial_rx_data`, and the count is in its range. -/
structure SerialTask.InBounds (t : SerialTask) : Prop where
  written : t.oob = false
  count : t.serialDataBytes ≤ 499

/-- Nothing in the code stops the sender; these are the bursts that fit. -/
structure Bursts.Short (b : Bursts) : Prop where
  closed : ∀ c ∈ b.closed, c.length ≤ 498
  pending : b.pending.length ≤ 499

theorem Bursts.short_of_event (b : Bursts) (e : SerialEvent) (h : (b.event e).Short) : b.Short := by
  cases e with
  | byteReceived dataByte =>
    refine ⟨h.closed, ?_⟩
    have hlen := h.pending
    simp only [Bursts.event, List.length_append, List.length_singleton] at hlen
    omega
  | timerExpiry =>
    constructor
    · intro c hc
      exact h.closed c (List.mem_append_left _ hc)
    · have hlen := h.closed b.pending (List.mem_append_right _ (List.mem_singleton_self _))
      omega

def Counts (b : Bursts) (s : SerialTask × σ) : Prop := s.1.serialDataBytes = b.pending.length

/-- A byte needs a place for itself, a pause one for the terminator behind the byte after the
packet. -/
theorem serialStep_inBounds (process : Handler σ) (b : Bursts) (s : SerialTask × σ)
    (e : SerialEvent) (s' : SerialTask × σ) (h : Counts b s) (hin : s.1.InBounds) (hshort : b.Short)
    (hs : serialStep process s e = some s') :
    Counts (b.event e) s' ∧ (s'.1.InBounds ↔ (b.event e).Short) := by
  obtain ⟨t, x⟩ := s
  have hcount : t.serialDataBytes = b.pending.length := h
  have hwritten : t.oob = false := hin.written
  cases e with
  | byteReceived dataByte =>
    cases hs
    have hlen : (b.event (.byteReceived dataByte)).pending.length = b.pending.length + 1 := by
      simp [Bursts.event]
    refine ⟨?_, fun h' => ⟨hshort.closed, ?_⟩, fun h' => ⟨?_, ?_⟩⟩
    · rw [Counts, hlen, checkAndUartData_dataBytes, hcount]
    · have hle := h'.count
      rw [checkAndUartData_dataBytes] at hle
      omega
    · have hle := hshort.pending
      rw [checkAndUartData_oob, hwritten, decide_eq_true (by omega)]
      rfl
    · have hle := h'.pending
      rw [checkAndUartData_dataBytes]
      omega
  | timerExpiry =>
    simp only [serialStep, Option.ite_none_right_eq_some, Option.some.injEq] at hs
    obtain ⟨_, rfl⟩ := hs
    refine ⟨rfl, fun h' => ⟨?_, Nat.zero_le _⟩, fun h' => ⟨?_, Nat.zero_le _⟩⟩
    · have hnext : (t.oob || !decide (t.serialDataBytes + 1 < 500)) = false := h'.written
      rw [hwritten, Bool.false_or, Bool.not_eq_false', decide_eq_true_eq] at hnext
      intro c hc
      rcases List.mem_append.mp hc with hc | hc
      · exact hshort.closed c hc
      · rw [List.mem_singleton.mp hc]
        omega
    · have hle := h'.closed b.pending (List.mem_append_right _ (List.mem_singleton_self _))
      show (t.oob || !decide (t.serialDataBytes + 1 < 500)) = false
      rw [hwritten, decide_eq_true (by omega)]
      rfl

/-- The receiver stays in bounds as long as at most 498 bytes come without a pause (499 while
the pause is still to come). -/
theorem serial_inBounds_iff (process : Handler σ) (x : σ) {es : List SerialEvent}
    {s : SerialTask × σ} (hr : Machine.run (serialStep process) (.boot, x) es = some s) :
    Machine.Always (serialStep process) (fun s => s.1.InBounds) (.boot, x) es ↔
      (bursts es).Short := by
  have hboot : (SerialTask.boot).InBounds := ⟨rfl, Nat.zero_le _⟩
  have hnone : (Bursts.mk [] []).Short := ⟨nofun, Nat.zero_le _⟩
  exact Machine.always_iff_fits Bursts.short_of_event (serialStep_inBounds process)
    (show Counts ⟨[], []⟩ (SerialTask.boot, x) from rfl) hboot hnone hr

theorem twoBytes_inBounds : Machine.Always (serialStep fun b _ (x : Unit) => (x, b))
    (fun s => s.1.InBounds) (.boot, ()) [.byteReceived 7, .timerExpiry] :=
  (serial_inBounds_iff (fun b _ x => (x, b)) () rfl).mpr ⟨by simp [bursts, Bursts.event], by decide⟩

theorem run_received (process : Handler σ) (received : List Byte) (s : SerialTask × σ) :
    ∃ s', Machine.run (serialStep process) s (received.map .byteReceived) = some s' ∧
      s'.1.serialDataBytes = s.1.serialDataBytes + received.length := by
  induction received generalizing s with
  | nil => exact ⟨s, rfl, rfl⟩
  | cons dataByte received ih =>
    obtain ⟨s', hrun, hcount⟩ := ih (checkAndUartData dataByte s.1, s.2)
    refine ⟨s', hrun, ?_⟩
    rw [hcount, checkAndUartData_dataBytes, List.length_cons]
    omega

/-- A stream that never pauses runs over the end of the buffer. -/
theorem stream_overruns : ¬ ∀ (process : Handler Unit) (es : List SerialEvent)
    (s : SerialTask × Unit), Machine.run (serialStep process) (.boot, ()) es = some s →
      Machine.Always (serialStep process) (fun s => s.1.InBounds) (.boot, ()) es := by
  intro hevery
  obtain ⟨s, hrun, hcount⟩ :=
    run_received (fun b _ x => (x, b)) (List.replicate 501 7) (SerialTask.boot, ())
  have hlast := ((hevery _ _ s hrun).last hrun).count
  rw [hcount, List.length_replicate] at hlast
  exact absurd hlast (by decide)

end EspBridges.Ccu
