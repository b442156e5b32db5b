import EspBridges.Ccu.WriteBounds

namespace EspBridges.Ccu

open Bytes

structure AudioCall where
  upload : AudioUpload
  packet : AudioPacket
  voiceMessageLength : Nat
  isInt : voiceMessageLength < 2 ^ 31

def AudioCall.meet (c : AudioCall) (g : Globals) : Globals :=
  audioFunction c.upload c.packet.data c.packet.audioNumber c.voiceMessageLength g

def audioCalls (calls : List AudioCall) (g : Globals) : Globals :=
  calls.foldl (fun g c => c.meet g) g

/-- What a call finds, where it writes, and what it sends. -/
structure AudioCall.Fits (c : AudioCall) (g : Globals) : Prop where
  offset : ∀ u, (g.ble.voice.chunker u).chunkOffset % 16 = 0 ∧
    (g.ble.voice.chunker u).chunkOffset ≤ 240
  number : ∀ u, (g.ble.voice.chunker u).bufferNumber ≤ 3
  written : 256 * (g.ble.voice.chunker c.upload).bufferNumber +
    (g.ble.voice.chunker c.upload).chunkOffset + 16 ≤ 4 * 256
  sent : ∃ frames : List (List Byte), (c.meet g).env.io = g.env.io ++ frames.map Io.tx ∧
    ∀ f ∈ frames, ∃ row n, n ≤ 256 ∧ f.length = 10 + n ∧
      f = (rawAudioMsg (rawOpcode c.upload) row n c.packet.audioNumber g.env.wild).frame g.env.wild ∧
      (rawAudioMsg (rawOpcode c.upload) row n c.packet.audioNumber g.env.wild).inBounds = true
  inside : 20 ≤ c.packet.data.room → ((c.meet g).env.oob = false ↔ g.env.oob = false)
  unwrapped : (g.ble.voice.chunker c.upload).receivedAudioSize + 16 < 2 ^ 32

def Chunking (v : VoiceStatics) : Prop := ∀ u, ∃ i < 2 ^ 27, v.chunker u = chunkerAt i

section Call

theorem audioFrame_frames (u : AudioUpload) (buf : Buf 1024) (n i : Nat) (audioNumber : Byte)
    (w : Wild Obj) : audioFrame u buf n i audioNumber w = (((chunkSize n i).map fun k =>
      (rawAudioMsg (rawOpcode u) (bufferRow buf w (i / 16 % 4)) k audioNumber w).frame w).toList).map
        Io.tx := by
  unfold audioFrame
  cases chunkSize n i with
  | none => rfl
  | some k => rfl

variable {c : AudioCall} {g : Globals}

theorem Chunking.meet (h : Chunking g.ble.voice) (c : AudioCall) : Chunking (c.meet g).ble.voice := by
  obtain ⟨i, hi, hc⟩ := h c.upload
  have hint := c.isInt
  unfold AudioCall.meet
  rw [audioFunction_eq, (storeAndSend_spec (n := c.voiceMessageLength) c.packet.audioNumber hc
    (fun _ _ => rfl) (by omega)).1]
  intro u
  show ∃ i < 2 ^ 27, (if u = c.upload then _ else g.ble.voice.chunker u) = chunkerAt i
  by_cases hu : u = c.upload
  · obtain ⟨k, hk, hafter⟩ := afterAudio_cases c.voiceMessageLength i
    rw [if_pos hu]
    exact ⟨k, by omega, hafter⟩
  · rw [if_neg hu]
    exact h u

theorem Chunking.fits (h : Chunking g.ble.voice) (c : AudioCall) : c.Fits g := by
  obtain ⟨i, hi, hc⟩ := h c.upload
  obtain ⟨hvoice, hio⟩ := storeAndSend_spec (n := c.voiceMessageLength) c.packet.audioNumber hc
    (fun _ _ => rfl) (by omega : 16 * i + 16 < 2 ^ 32)
  rw [← audioFunction_eq] at hvoice hio
  have hstart : (g.ble.voice.chunker c.upload).receivedAudioSize + 16 < 2 ^ 32 := by
    rw [hc]
    show 16 * i + 16 < 2 ^ 32
    omega
  refine ⟨fun u => ?_, fun u => ?_, ?_, ?_, fun hroom => ?_, hstart⟩
  · obtain ⟨k, -, hk⟩ := h u
    rw [hk]
    show 16 * (k % 16) % 16 = 0 ∧ 16 * (k % 16) ≤ 240
    omega
  · obtain ⟨k, -, hk⟩ := h u
    rw [hk]
    show k / 16 % 4 ≤ 3
    omega
  · rw [hc]
    show 256 * (i / 16 % 4) + 16 * (i % 16) + 16 ≤ 4 * 256
    omega
  · refine ⟨_, hio.trans (congrArg (g.env.io ++ ·) (audioFrame_frames ..)), fun f hf => ?_⟩
    obtain ⟨n, hn, rfl⟩ := Option.map_eq_some_iff.mp (Option.mem_toList.mp hf)
    have hle := chunkSize_le hn
    refine ⟨_, n, hle, ?_, rfl, (rawAudioMsg_inBounds _ _ _ rfl).mpr hle⟩
    show (View.bytes _ (5 + n + 5)).length = 10 + n
    rw [View.length_bytes]
    omega
  · unfold AudioCall.meet
    rw [audioFunction_eq]
    exact storeAndSend_oob _ _ _ hc hroom

end Call

/-- Before every call both chunkers are in order, and the call stays inside the buffers. -/
theorem audioCalls_fit {g : Globals} (hfresh : ∀ u, g.ble.voice.chunker u = .fresh)
    (calls : List AudioCall) : ∀ past c rest, calls = past ++ c :: rest →
      c.Fits (audioCalls past g) := by
  have hcounts : ∀ (past : List AudioCall) (g : Globals), Chunking g.ble.voice →
      Chunking (audioCalls past g).ble.voice := by
    intro past
    induction past with
    | nil => exact fun g h => h
    | cons c past ih => exact fun g h => ih (c.meet g) (h.meet c)
  rintro past c rest -
  exact (hcounts past g fun u => ⟨0, by decide, hfresh u⟩).fits c

def zeroCall (n : Nat) (h : n < 2 ^ 31) : AudioCall :=
  ⟨.recordVoice, ⟨⟨fun _ => 0, 30, 0⟩, 1⟩, n, h⟩

/-- Seventeen bytes are declared, and for the second packet none. -/
theorem shrinking_fits : (zeroCall 0 (by decide)).Fits
    (audioCalls [zeroCall 17 (by decide)] .boot) :=
  audioCalls_fit (fun _ => rfl) [zeroCall 17 (by decide), zeroCall 0 (by decide)]
    [zeroCall 17 (by decide)] (zeroCall 0 (by decide)) [] rfl

end EspBridges.Ccu
