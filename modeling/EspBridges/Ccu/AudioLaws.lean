import EspBridges.Ccu.FrameLaws

namespace EspBridges.Ccu

open Bytes

def audioFunction : AudioUpload → View → Byte → Nat → Globals → Globals
  | .recordVoice => storeAndSendVoiceData
  | .addressVisiting => storeAndSendAddressVisitingAudioData

def rawOpcode : AudioUpload → Byte
  | .recordVoice => btCpOpcodeCidRecordPersonalVoiceMsg
  | .addressVisiting => btCpOpcodeCidAddressVisiting

theorem audioFunction_eq (u : AudioUpload) :
    audioFunction u = storeAndSend u (rawAudioMsg (rawOpcode u)) := by
  cases u <;> rfl

structure AudioPacket where
  data : View
  audioNumber : Byte

def AudioPacket.audio (p : AudioPacket) : List Byte := (p.data.shift 4).bytes 16

def feed (u : AudioUpload) (voiceMessageLength : Nat) (packets : List AudioPacket) (g : Globals) :
    Globals :=
  packets.foldl (fun g p => audioFunction u p.data p.audioNumber voiceMessageLength g) g

def Sends (P : List Byte → Prop) (g₀ g : Globals) (audio : List Byte) : Prop :=
  ∃ frames : List (List Byte), g.env.io = g₀.env.io ++ frames.map .tx ∧
    (frames.map audioPayload).flatten = audio ∧ ∀ f ∈ frames, P f

def SoundChunk (u : AudioUpload) (frame : List Byte) : Prop :=
  frame.head? = some (rawOpcode u) ∧ 1 ≤ (audioPayload frame).length ∧
    (audioPayload frame).length ≤ 256 ∧ lengthField frame = (audioPayload frame).length

/-- The law of the upload: the frames are sound chunks that make up `audio`, and the
function is ready for the next one. -/
def Reassembles (u : AudioUpload) (audio : List Byte) (g₀ g : Globals) : Prop :=
  Sends (SoundChunk u) g₀ g audio ∧ g.ble.voice.chunker u = .fresh

theorem Sends.refl (P : List Byte → Prop) (g : Globals) : Sends P g g [] :=
  ⟨[], by simp, rfl, by simp⟩

theorem Sends.mono {P Q : List Byte → Prop} (hPQ : ∀ f, P f → Q f) (h : Sends P g₀ g audio) :
    Sends Q g₀ g audio := by
  obtain ⟨frames, hio, haudio, hP⟩ := h
  exact ⟨frames, hio, haudio, fun f hf => hPQ f (hP f hf)⟩

theorem Sends.unique {P Q : List Byte → Prop} (h : Sends P g₀ g audio)
    (h' : Sends Q g₀ g audio') : audio = audio' := by
  obtain ⟨frames, hio, rfl, -⟩ := h
  obtain ⟨frames', hio', rfl, -⟩ := h'
  have hmap : frames.map Io.tx = frames'.map Io.tx := by
    rw [hio] at hio'
    exact List.append_cancel_left hio'
  rw [(List.map_inj_right fun _ _ h => Io.tx.inj h).mp hmap]

theorem Sends.transmit {P : List Byte → Prop} (h : Sends P g₀ g audio) (opcode : Byte)
    (row : View) {n : Nat} (hn : n ≤ 256) (audioNumber : Byte)
    (hP : P ((rawAudioMsg opcode row n audioNumber g.env.wild).frame g.env.wild)) :
    Sends P g₀ (g.transmit (rawAudioMsg opcode row n audioNumber)) (audio ++ row.bytes n) := by
  obtain ⟨frames, hio, haudio, hall⟩ := h
  refine ⟨frames ++ [(rawAudioMsg opcode row n audioNumber g.env.wild).frame g.env.wild],
    ?_, ?_, ?_⟩
  · simp [Globals.transmit, Globals.sendUartMessage, hio]
  · simp [haudio, rawAudioMsg_payload _ _ _ _ _ hn]
  · intro f hf
    rcases List.mem_append.mp hf with hf | hf
    · exact hall f hf
    · rw [List.mem_singleton.mp hf]
      exact hP

theorem soundChunk_rawAudioMsg (u : AudioUpload) (row : View) {n : Nat} (h0 : 0 < n)
    (hn : n ≤ 256) (audioNumber : Byte) (w : Wild Obj) :
    SoundChunk u ((rawAudioMsg (rawOpcode u) row n audioNumber w).frame w) := by
  refine ⟨?_, ?_, ?_, ?_⟩
  · rw [Tx.head_frame (by simp [rawAudioMsg]), rawAudioMsg_byte, if_neg (by omega)]
    simp [put32, protocolHdr, Buf.rd_put]
  · rw [rawAudioMsg_payload _ _ _ _ _ hn, View.length_bytes]
    exact h0
  · rw [rawAudioMsg_payload _ _ _ _ _ hn, View.length_bytes]
    exact hn
  · rw [rawAudioMsg_payload _ _ _ _ _ hn, View.length_bytes, rawAudioMsg_lengthField _ _ _ _ _ hn]

/-- What the chunker holds after the whole messages `got`: the chunks of 256 bytes are sent,
the rest stands in the current row. -/
structure Chunked (u : AudioUpload) (got : List Byte) (g₀ g : Globals) : Prop where
  chunker : g.ble.voice.chunker u = ⟨got.length % 256, got.length / 256 % 4, got.length⟩
  row : (voiceDataRow g (got.length / 256 % 4)).bytes (got.length % 256) =
    got.drop (256 * (got.length / 256))
  sent : Sends (SoundChunk u) g₀ g (got.take (256 * (got.length / 256)))

theorem chunked_fresh {g : Globals} (h : g.ble.voice.chunker u = .fresh) : Chunked u [] g g where
  chunker := h
  row := rfl
  sent := Sends.refl _ g

@[simp] theorem setChunker_chunker (u : AudioUpload) (c : Chunker) (g : Globals) :
    (setChunker u c g).ble.voice.chunker u = c := if_pos rfl

theorem storeAudio_row (u : AudioUpload) (p : AudioPacket) (g : Globals)
    (hrow : (g.ble.voice.chunker u).bufferNumber < 4)
    (hoff : (g.ble.voice.chunker u).chunkOffset + 16 ≤ 256) :
    (voiceDataRow (storeAudio u p.data g) (g.ble.voice.chunker u).bufferNumber).bytes
        ((g.ble.voice.chunker u).chunkOffset + 16) =
      (voiceDataRow g (g.ble.voice.chunker u).bufferNumber).bytes
        (g.ble.voice.chunker u).chunkOffset ++ p.audio := by
  generalize hc : g.ble.voice.chunker u = c at hrow hoff
  have hbyte : ∀ i < 256, (voiceDataRow (storeAudio u p.data g) c.bufferNumber).byte i =
      if c.chunkOffset ≤ i ∧ i < c.chunkOffset + 16 then (p.data.shift 4).byte (i - c.chunkOffset)
      else (voiceDataRow g c.bufferNumber).byte i := by
    intro i hi
    simp only [voiceDataRow, storeAudio, hc]
    rw [Buf.rd_memcpy]
    by_cases hin : c.chunkOffset ≤ i ∧ i < c.chunkOffset + 16
    · rw [if_pos hin, if_pos ⟨by omega, by omega, by omega⟩]
      congr 1
      omega
    · rw [if_neg hin, if_neg (by omega)]
  rw [View.bytes_add]
  congr 1
  · apply View.bytes_congr
    intro i hi
    rw [hbyte i (by omega), if_neg (by omega)]
  · apply View.bytes_congr
    intro i hi
    show (voiceDataRow (storeAudio u p.data g) c.bufferNumber).byte (c.chunkOffset + i) = _
    rw [hbyte _ (by omega), if_pos ⟨by omega, by omega⟩, Nat.add_sub_cancel_left]

theorem length_append_audio (got : List Byte) (p : AudioPacket) :
    (got ++ p.audio).length = got.length + 16 := by
  simp [AudioPacket.audio]

section Step

variable {u : AudioUpload} {got : List Byte} (p : AudioPacket) {voiceMessageLength : Nat}

theorem Chunked.row_storeAudio (h : Chunked u got g₀ g) (hmod : got.length % 16 = 0) :
    (voiceDataRow (storeAudio u p.data g) (got.length / 256 % 4)).bytes (got.length % 256 + 16) =
      (got ++ p.audio).drop (256 * (got.length / 256)) := by
  have hrow := storeAudio_row u p g (by rw [h.chunker]; show _ % 4 < 4; omega)
    (by rw [h.chunker]; show _ % 256 + 16 ≤ 256; omega)
  rw [h.chunker] at hrow
  simp only at hrow
  rw [hrow, h.row]
  exact (List.drop_append_of_le_length (by omega)).symm

theorem Chunked.transmit (h : Chunked u got g₀ g) (hmod : got.length % 16 = 0) {n : Nat}
    (hn : n ≤ got.length % 256 + 16) {P : List Byte → Prop} (hmono : ∀ f, SoundChunk u f → P f)
    (hP : ∀ row, P ((rawAudioMsg (rawOpcode u) row n p.audioNumber g.env.wild).frame g.env.wild)) :
    Sends P g₀ ((storeAudio u p.data g).transmit (rawAudioMsg (rawOpcode u)
        (voiceDataRow (storeAudio u p.data g) (got.length / 256 % 4)) n p.audioNumber))
      ((got ++ p.audio).take (256 * (got.length / 256) + n)) := by
  have hsent : Sends P g₀ (storeAudio u p.data g) (got.take (256 * (got.length / 256))) :=
    h.sent.mono hmono
  have hframe := hsent.transmit (rawOpcode u)
    (voiceDataRow (storeAudio u p.data g) (got.length / 256 % 4)) (n := n) (by omega)
    p.audioNumber (hP _)
  have hbefore : got.take (256 * (got.length / 256)) =
      (got ++ p.audio).take (256 * (got.length / 256)) :=
    (List.take_append_of_le_length (by omega)).symm
  rw [← View.take_bytes _ hn, h.row_storeAudio p hmod, hbefore, ← List.take_add] at hframe
  exact hframe

theorem Chunked.more (h : Chunked u got g₀ g) (hmod : got.length % 16 = 0)
    (hmore : got.length + 16 < voiceMessageLength) (hint : voiceMessageLength < 2 ^ 31) :
    Chunked u (got ++ p.audio) g₀ (audioFunction u p.data p.audioNumber voiceMessageLength g) := by
  have hlen := length_append_audio got p
  rw [audioFunction_eq]
  unfold storeAndSend
  simp only [h.chunker]
  rw [Nat.mod_eq_of_lt (show got.length + 16 < 2 ^ 32 by omega), if_neg (by omega)]
  by_cases hfull : 256 ≤ got.length % 256 + 16
  · rw [if_pos hfull]
    have hall : 256 * ((got.length + 16) / 256) = 256 * (got.length / 256) +
      (got.length % 256 + 16) := by omega
    refine ⟨?_, ?_, ?_⟩
    · rw [setChunker_chunker, hlen, Chunker.mk.injEq]
      exact ⟨by omega, by show (_ + 1) % 4 = _; omega, rfl⟩
    · rw [hlen, show (got.length + 16) % 256 = 0 by omega,
        List.drop_of_length_le (by omega)]
      rfl
    · rw [hlen, hall]
      exact h.transmit p hmod (Nat.le_refl _) (fun _ hf => hf)
        fun row => soundChunk_rawAudioMsg u row (by omega) (by omega) _ _
  · rw [if_neg hfull]
    have hdiv : (got.length + 16) / 256 = got.length / 256 := by omega
    have hrem : (got.length + 16) % 256 = got.length % 256 + 16 := by omega
    refine ⟨?_, ?_, ?_⟩
    · rw [setChunker_chunker, hlen, hdiv, hrem]
    · rw [hlen, hdiv, hrem]
      exact h.row_storeAudio p hmod
    · rw [hlen, hdiv, List.take_append_of_le_length (by omega)]
      exact h.sent

/-- The message that completes the upload.  Its chunk leaves out `16 - L % 16` bytes of the
row, meant to be the padding. -/
theorem Chunked.last (h : Chunked u got g₀ g) (hmod : got.length % 16 = 0)
    (hlast : voiceMessageLength ≤ got.length + 16) (hint : got.length + 16 < 2 ^ 32)
    {P : List Byte → Prop} (hmono : ∀ f, SoundChunk u f → P f)
    (hP : ∀ row, P ((rawAudioMsg (rawOpcode u) row (got.length % 256 + voiceMessageLength % 16)
      p.audioNumber g.env.wild).frame g.env.wild)) :
    Sends P g₀ (audioFunction u p.data p.audioNumber voiceMessageLength g)
        ((got ++ p.audio).take (got.length + voiceMessageLength % 16)) ∧
      (audioFunction u p.data p.audioNumber voiceMessageLength g).ble.voice.chunker u = .fresh := by
  rw [audioFunction_eq]
  unfold storeAndSend
  simp only [h.chunker]
  rw [Nat.mod_eq_of_lt hint, if_pos hlast]
  refine ⟨?_, setChunker_chunker u _ _⟩
  have hn : got.length % 256 + 16 - (16 - voiceMessageLength % 16) =
    got.length % 256 + voiceMessageLength % 16 := by omega
  have htake : got.length + voiceMessageLength % 16 = 256 * (got.length / 256) +
    (got.length % 256 + voiceMessageLength % 16) := by omega
  rw [hn, htake]
  exact h.transmit p hmod (by omega) hmono hP

end Step

theorem feed_sends (u : AudioUpload) {voiceMessageLength : Nat} (packets : List AudioPacket)
    {got : List Byte} (h : Chunked u got g₀ g) (hmod : got.length % 16 = 0)
    (hless : got.length < voiceMessageLength) (hint : voiceMessageLength < 2 ^ 31)
    (hcount : packets.length = (voiceMessageLength - got.length + 15) / 16)
    {P : List Byte → Prop} (hmono : ∀ f, SoundChunk u f → P f)
    (hP : ∀ row n audioNumber w, n ≤ 256 → n % 16 = voiceMessageLength % 16 →
      P ((rawAudioMsg (rawOpcode u) row n audioNumber w).frame w)) :
    Sends P g₀ (feed u voiceMessageLength packets g)
        ((got ++ packets.flatMap AudioPacket.audio).take
          ((voiceMessageLength - 1) / 16 * 16 + voiceMessageLength % 16)) ∧
      (feed u voiceMessageLength packets g).ble.voice.chunker u = .fresh := by
  induction packets generalizing got g with
  | nil =>
    rw [List.length_nil] at hcount
    omega
  | cons p ps ih =>
    rw [List.length_cons] at hcount
    by_cases hmore : got.length + 16 < voiceMessageLength
    · have hlen := length_append_audio got p
      have hrest := ih (h.more p hmod hmore hint) (by omega) (by omega) (by omega)
      rw [List.append_assoc] at hrest
      exact hrest
    · obtain rfl : ps = [] := List.eq_nil_of_length_eq_zero (by omega)
      have hend : (voiceMessageLength - 1) / 16 * 16 = got.length := by omega
      rw [List.flatMap_singleton, hend]
      exact h.last p hmod (by omega) (by omega) hmono
        fun row => hP row _ _ _ (by omega) (by omega)

/-- A declared length that is a multiple of 16: the padding to leave out is taken for 16
bytes, so the last message is lost. -/
theorem not_reassembles (u : AudioUpload) {voiceMessageLength : Nat} (packets : List AudioPacket)
    {g : Globals} (hpos : 1 ≤ voiceMessageLength) (hint : voiceMessageLength < 2 ^ 31)
    (hcount : packets.length = (voiceMessageLength + 15) / 16)
    (hfresh : g.ble.voice.chunker u = .fresh) (hmul : voiceMessageLength % 16 = 0) :
    ¬ Reassembles u ((packets.flatMap AudioPacket.audio).take voiceMessageLength) g
      (feed u voiceMessageLength packets g) := by
  intro hlaw
  have hsent := (feed_sends u packets (chunked_fresh hfresh) rfl hpos hint hcount
    (P := fun _ => True) (fun _ _ => trivial) fun _ _ _ _ _ _ => trivial).1
  have hsame := congrArg List.length (hlaw.1.unique hsent)
  have htotal : (packets.flatMap AudioPacket.audio).length = packets.length * 16 := by
    simp [AudioPacket.audio, List.length_flatMap, List.map_const']
  rw [List.nil_append, List.length_take, List.length_take, htotal] at hsame
  omega

theorem feed_reassembles_iff (u : AudioUpload) (voiceMessageLength : Nat)
    (packets : List AudioPacket) (g : Globals) (hpos : 1 ≤ voiceMessageLength)
    (hint : voiceMessageLength < 2 ^ 31) (hcount : packets.length = (voiceMessageLength + 15) / 16)
    (hfresh : g.ble.voice.chunker u = .fresh) :
    Reassembles u ((packets.flatMap AudioPacket.audio).take voiceMessageLength) g
      (feed u voiceMessageLength packets g) ↔ voiceMessageLength % 16 ≠ 0 := by
  constructor
  · intro hlaw hmul
    exact not_reassembles u packets hpos hint hcount hfresh hmul hlaw
  · intro hmod
    have hsent := feed_sends u packets (chunked_fresh hfresh) rfl hpos hint hcount
      (fun _ hf => hf) fun row n audioNumber w hn hrem =>
        soundChunk_rawAudioMsg u row (by omega) hn audioNumber w
    have hend : (voiceMessageLength - 1) / 16 * 16 + voiceMessageLength % 16 =
      voiceMessageLength := by omega
    rw [List.nil_append, hend] at hsent
    exact hsent

def ramp (audioNumber : Byte) : AudioPacket := ⟨⟨fun i => .ofNat (i + 1), 20, 0⟩, audioNumber⟩

/-- An upload of 21 bytes in two packets, after one of five. -/
theorem feed_reassembles_next :
    Reassembles .recordVoice ([ramp 1, ramp 2].flatMap AudioPacket.audio |>.take 21)
      (feed .recordVoice 5 [ramp 1] .boot)
      (feed .recordVoice 21 [ramp 1, ramp 2] (feed .recordVoice 5 [ramp 1] .boot)) := by
  have hfirst := (feed_reassembles_iff .recordVoice 5 [ramp 1] .boot (by decide) (by decide) rfl
    rfl).mpr (by decide)
  exact (feed_reassembles_iff .recordVoice 21 [ramp 1, ramp 2] _ (by decide) (by decide) rfl
    hfirst.2).mpr (by decide)

def silence : AudioPacket := ⟨⟨fun _ => 0, 20, 0⟩, 1⟩

/-- One message of 16 bytes is declared and arrives, and none of it is sent. -/
theorem feed_sixteen_lost :
    ¬ Reassembles .recordVoice ([silence].flatMap AudioPacket.audio |>.take 16) .boot
        (feed .recordVoice 16 [silence] .boot) ∧
      ¬ Reassembles .addressVisiting ([silence].flatMap AudioPacket.audio |>.take 16) .boot
        (feed .addressVisiting 16 [silence] .boot) :=
  ⟨not_reassembles _ _ (by decide) (by decide) rfl rfl rfl,
    not_reassembles _ _ (by decide) (by decide) rfl rfl rfl⟩

end EspBridges.Ccu
