import EspBridges.Ccu.AudioLaws
import EspBridges.Ccu.Moments
import EspBridges.Ccu.StaticsLaws

namespace EspBridges.Ccu

open Bytes

inductive Role where
  | opens | audio | stamps | closes

structure Message where
  upload : AudioUpload
  role : Role
  frame : Nat
  value : List Byte
  mem : Nat → Buf 30
  wild : Wild Obj

namespace Message

def moment (m : Message) : Moment := ⟨.write m.frame m.value, m.mem, m.wild⟩

def audioByte (m : Message) (x : Nat) : Byte := m.value.getD (4 + x) 0

end Message

def AudioUpload.cid : AudioUpload → Cid
  | .recordVoice => .recordPersonalVoiceMsg
  | .addressVisiting => .addressVisiting

def Declares (value : List Byte) (n : Nat) : Prop :=
  value.getD 3 0 = 3 ∧ n = (value.getD 5 0).toNat * 100 + (value.getD 6 0).toNat ∨
    value.getD 3 0 = 4 ∧
      n = (value.getD 5 0).toNat * 1000 + (value.getD 6 0).toNat * 10 + (value.getD 7 0).toNat

def RoleByte (n : Nat) (value : List Byte) : AudioUpload → Role → Prop
  | _, .opens => Declares value n
  | .recordVoice, .audio => value.getD 3 0 ≠ 8
  | .addressVisiting, .audio => value.getD 3 0 = 1
  | .recordVoice, .stamps => False
  | .addressVisiting, .stamps => value.getD 3 0 = 0
  | _, .closes => value.getD 3 0 = 8

structure Message.Plays (n : Nat) (m : Message) : Prop where
  cid : Cid.ofByte? (m.value.getD 2 0) = some m.upload.cid
  roleByte : RoleByte n m.value m.upload m.role

def audioCount (n : Nat) : Nat := (n + 15) / 16

def lastRoles : AudioUpload → List Role
  | .recordVoice => [.closes]
  | .addressVisiting => [.stamps, .closes]

def script (u : AudioUpload) (n : Nat) : List Role :=
  .opens :: (List.replicate (audioCount n) .audio ++ lastRoles u)

structure Session (u : AudioUpload) (n : Nat) (ms : List Message) : Prop where
  pos : 1 ≤ n
  own : ∀ m ∈ ms, m.upload = u ∧ m.Plays n
  roles : ms.map Message.role = script u n

theorem Declares.lt {value : List Byte} {n : Nat} (h : Declares value n) : n < 2 ^ 18 := by
  have h5 := (value.getD 5 0).toNat_lt
  have h6 := (value.getD 6 0).toNat_lt
  have h7 := (value.getD 7 0).toNat_lt
  rcases h with ⟨_, h⟩ | ⟨_, h⟩ <;> omega

def messageLength (u : AudioUpload) (v : VoiceStatics) : Nat :=
  match u with
  | .recordVoice => v.recordMessageLength
  | .addressVisiting => v.visitingMessageLength

def bufferRow (buf : Buf 1024) (w : Wild Obj) (row : Nat) : View :=
  ⟨fun x => buf.rd (w.byte .voiceDataBuffer) (256 * row + x), 256, w.run .voiceDataBuffer⟩

def chunkerAt (i : Nat) : Chunker := ⟨16 * (i % 16), i / 16 % 4, 16 * i⟩

def chunkSize (n i : Nat) : Option Nat :=
  if audioCount n ≤ i + 1 then some (16 * (i % 16) + n % 16)
  else if i % 16 = 15 then some 256
  else none

def afterAudio (n i : Nat) : Chunker :=
  if audioCount n ≤ i + 1 then .fresh else chunkerAt (i + 1)

theorem afterAudio_cases (n i : Nat) :
    ∃ k, (k = 0 ∨ 16 * k < n) ∧ afterAudio n i = chunkerAt k := by
  unfold afterAudio audioCount
  by_cases hlast : (n + 15) / 16 ≤ i + 1
  · rw [if_pos hlast]
    exact ⟨0, .inl rfl, rfl⟩
  · rw [if_neg hlast]
    exact ⟨i + 1, .inr (by omega), rfl⟩

def withChunker (u : AudioUpload) (c : Chunker) (v : VoiceStatics) : VoiceStatics :=
  { v with chunker := fun u' => if u' = u then c else v.chunker u' }

def audioFrame (u : AudioUpload) (buf : Buf 1024) (n i : Nat) (audioNumber : Byte)
    (w : Wild Obj) : List Io :=
  ((chunkSize n i).map fun k => Io.tx
    ((rawAudioMsg (rawOpcode u) (bufferRow buf w (i / 16 % 4)) k audioNumber w).frame w)).toList

theorem rawAudioMsg_frame_eq_iff (opcode : Byte) (row row' : View) {k : Nat} (hk : k ≤ 256)
    (audioNumber : Byte) (w : Wild Obj) :
    (rawAudioMsg opcode row k audioNumber w).frame w =
        (rawAudioMsg opcode row' k audioNumber w).frame w ↔
      ∀ x, x < k → row.byte x = row'.byte x := by
  have hhead : (rawAudioMsg opcode row k audioNumber w).pData.bytes 10 =
      (rawAudioMsg opcode row' k audioNumber w).pData.bytes 10 := by
    refine View.bytes_congr fun i hi => ?_
    rw [rawAudioMsg_byte, rawAudioMsg_byte, if_neg (by omega), if_neg (by omega)]
  rw [rawAudioMsg_frame _ _ _ _ _ hk, rawAudioMsg_frame _ _ _ _ _ hk, hhead,
    List.append_cancel_left_eq]
  constructor
  · intro h x hx
    have hat := congrArg (·[x]?) h
    simp only [View.bytes, List.getElem?_map, List.getElem?_range hx, Option.map_some,
      Option.some.injEq] at hat
    exact hat
  · exact View.bytes_congr

theorem bufferRow_byte (buf : Buf 1024) (w : Wild Obj) (i : Nat) {x : Nat} (hx : x < 256) :
    (bufferRow buf w (i / 16 % 4)).byte x = buf.rd (fun _ => 0) (256 * (i / 16 % 4) + x) := by
  show buf.rd _ _ = _
  rw [Buf.rd_of_lt _ _ (by omega), Buf.rd_of_lt _ _ (by omega)]

theorem chunkSize_le {n i k : Nat} (h : chunkSize n i = some k) : k ≤ 256 := by
  unfold chunkSize at h
  split at h
  · cases h
    omega
  · split at h
    · cases h
      exact Nat.le_refl _
    · cases h

theorem audioFrame_eq_iff (u : AudioUpload) (buf buf' : Buf 1024) (n i : Nat) (audioNumber : Byte)
    (w : Wild Obj) :
    audioFrame u buf n i audioNumber w = audioFrame u buf' n i audioNumber w ↔
      ∀ k, chunkSize n i = some k → ∀ x, x < k →
        buf.rd (fun _ => 0) (256 * (i / 16 % 4) + x) =
          buf'.rd (fun _ => 0) (256 * (i / 16 % 4) + x) := by
  unfold audioFrame
  cases hsize : chunkSize n i with
  | none =>
    rw [Option.map_none, Option.map_none]
    exact iff_of_true rfl nofun
  | some k =>
    have hk := chunkSize_le hsize
    have hrows := rawAudioMsg_frame_eq_iff (rawOpcode u) (bufferRow buf w (i / 16 % 4))
      (bufferRow buf' w (i / 16 % 4)) hk audioNumber w
    simp only [Option.map_some, Option.toList_some, List.cons.injEq, Io.tx.injEq, and_true,
      Option.some.injEq]
    rw [hrows]
    constructor
    · rintro h k rfl x hx
      rw [← bufferRow_byte buf w i (by omega), ← bufferRow_byte buf' w i (by omega)]
      exact h x hx
    · intro h x hx
      rw [bufferRow_byte buf w i (by omega), bufferRow_byte buf' w i (by omega)]
      exact h k rfl x hx

theorem storeAndSend_spec {u : AudioUpload} {n i : Nat} {g : Globals} {data : View}
    {audio : Nat → Byte} (audioNumber : Byte) (hc : g.ble.voice.chunker u = chunkerAt i)
    (haudio : ∀ x, x < 16 → (data.shift 4).byte x = audio x) (hi : 16 * i + 16 < 2 ^ 32) :
    let buf := g.ble.voice.voiceDataBuffer.memcpy (16 * (i % 64)) audio 16
    let g' := storeAndSend u (rawAudioMsg (rawOpcode u)) data audioNumber n g
    g'.ble.voice = withChunker u (afterAudio n i) { g.ble.voice with voiceDataBuffer := buf } ∧
      g'.env.io = g.env.io ++ audioFrame u buf n i audioNumber g.env.wild := by
  have hstart : 256 * (i / 16 % 4) + 16 * (i % 16) = 16 * (i % 64) := by omega
  have hstore : g.ble.voice.voiceDataBuffer.memcpy (16 * (i % 64)) (data.shift 4).byte 16 =
      g.ble.voice.voiceDataBuffer.memcpy (16 * (i % 64)) audio 16 :=
    Buf.memcpy_congr _ _ rfl fun x _ hx => haudio x hx
  unfold storeAndSend storeAudio audioFrame chunkSize afterAudio audioCount
  simp only [hc, chunkerAt, hstart, hstore]
  rw [Nat.mod_eq_of_lt hi]
  by_cases hlast : (n + 15) / 16 ≤ i + 1
  · have hrest : 16 * (i % 16) + 16 - (16 - n % 16) = 16 * (i % 16) + n % 16 := by omega
    rw [if_pos (by omega), if_pos hlast, if_pos hlast, hrest]
    exact ⟨rfl, rfl⟩
  · rw [if_neg (by omega), if_neg hlast, if_neg hlast]
    by_cases hfull : i % 16 = 15
    · have hnext : (⟨0, (i / 16 % 4 + 1) % voiceDataBufferNum, 16 * i + 16⟩ : Chunker) =
          ⟨16 * ((i + 1) % 16), (i + 1) / 16 % 4, 16 * (i + 1)⟩ := by
        rw [Chunker.mk.injEq]
        exact ⟨by omega, by show (_ + 1) % 4 = _; omega, by omega⟩
      have hsize : 16 * (i % 16) + 16 = 256 := by omega
      rw [if_pos (by omega), if_pos hfull, hnext, hsize]
      exact ⟨rfl, rfl⟩
    · have hnext : (⟨16 * (i % 16) + 16, i / 16 % 4, 16 * i + 16⟩ : Chunker) =
          ⟨16 * ((i + 1) % 16), (i + 1) / 16 % 4, 16 * (i + 1)⟩ := by
        rw [Chunker.mk.injEq]
        exact ⟨by omega, by omega, by omega⟩
      rw [if_neg (by omega), if_neg hfull, hnext]
      exact ⟨rfl, (List.append_nil _).symm⟩

def plainFrames (n : Nat) (m : Message) : List Io :=
  match m.upload, m.role with
  | .recordVoice, .opens => [.tx ((ccuSentRecordVoiceMsg (m.value.getD 4 0) n m.wild).frame m.wild)]
  | .addressVisiting, .stamps =>
    [.tx ((ccuSentAddressVisiting ((messageOf m.value m.wild).shift 4) n m.wild).frame m.wild)]
  | _, _ => []

theorem addressVisiting_congr {time time' : View} (n : Nat) (w : Wild Obj)
    (h : ∀ i, i < timestampSize → time.byte i = time'.byte i) :
    (ccuSentAddressVisiting time n w).frame w = (ccuSentAddressVisiting time' n w).frame w := by
  unfold ccuSentAddressVisiting Tx.frame
  dsimp only
  rw [Buf.memcpy_congr _ _ rfl fun i _ hi => h i hi]

section Meet

variable {g : Globals} {m : Message} {n : Nat}

theorem meet_voice (g : Globals) (m : Message) :
    (received m.frame m.value (g.amid m.moment)).ble.voice = g.ble.voice ∧
      (received m.frame m.value (g.amid m.moment)).env.io = g.env.io ∧
      (received m.frame m.value (g.amid m.moment)).env.wild = m.wild := by
  have hrec := received_spec m.frame m.value (g.amid m.moment)
  refine ⟨?_, hrec.io, hrec.wild⟩
  rw [hrec.ble]
  rfl

theorem meet_message (h : m.Plays n) : g.meet m.moment =
    dispatch (some m.upload.cid) (messageOf m.value m.wild) (bleCommandView m.value m.wild)
      (received m.frame m.value (g.amid m.moment)) := by
  rw [g.meet_write (m := m.moment) rfl, gattsWriteEvt_eq, h.cid]
  rfl

theorem record_opens (hm : m.Plays n) (hu : m.upload = .recordVoice) (hr : m.role = .opens)
    (hflag : g.ble.voice.flagSendingVoiceData = false) :
    (g.meet m.moment).ble.voice =
        { g.ble.voice with recordMessageLength := n, flagSendingVoiceData := true } ∧
      (g.meet m.moment).env.io = g.env.io ++ plainFrames n m := by
  obtain ⟨hvoice, hio, hwild⟩ := meet_voice g m
  have hbyte := hm.roleByte
  rw [hu, hr] at hbyte
  have hframes : plainFrames n m =
      [.tx ((ccuSentRecordVoiceMsg (m.value.getD 4 0) n m.wild).frame m.wild)] := by
    rw [plainFrames, hu, hr]
  rw [meet_message hm, hu, hframes]
  show (executeRecordPersonalVoiceMsgNew _ (Globals.akbiSetFsmState _ _)).ble.voice = _ ∧
    (executeRecordPersonalVoiceMsgNew _ (Globals.akbiSetFsmState _ _)).env.io = _
  generalize received m.frame m.value (g.amid m.moment) = g₁ at hvoice hio hwild ⊢
  unfold executeRecordPersonalVoiceMsgNew
  dsimp only
  rw [if_neg (by rw [Globals.akbiSetFsmState, hvoice, hflag]; decide),
    messageOf_byte _ _ (show 3 < 30 by decide), messageOf_byte _ _ (show 4 < 30 by decide),
    messageOf_byte _ _ (show 5 < 30 by decide), messageOf_byte _ _ (show 6 < 30 by decide),
    messageOf_byte _ _ (show 7 < 30 by decide)]
  rcases hbyte with ⟨h3, rfl⟩ | ⟨h4, rfl⟩
  · rw [h3, ← hvoice, ← hio, ← hwild]
    exact ⟨rfl, rfl⟩
  · rw [h4, ← hvoice, ← hio, ← hwild]
    exact ⟨rfl, rfl⟩

theorem meet_audio (hm : m.Plays n) (hr : m.role = .audio)
    (hflag : m.upload = .recordVoice → g.ble.voice.flagSendingVoiceData = true) :
    ∃ g₁ : Globals, g₁.ble.voice = g.ble.voice ∧ g₁.env.io = g.env.io ∧ g₁.env.wild = m.wild ∧
      g.meet m.moment = storeAndSend m.upload (rawAudioMsg (rawOpcode m.upload))
        (messageOf m.value m.wild) (m.value.getD 3 0) (messageLength m.upload g.ble.voice) g₁ := by
  obtain ⟨hvoice, hio, hwild⟩ := meet_voice g m
  have hbyte := hm.roleByte
  have h3 : (messageOf m.value m.wild).byte 3 = m.value.getD 3 0 :=
    messageOf_byte _ _ (by decide)
  rw [hr] at hbyte
  rw [meet_message hm, ← hvoice]
  rw [← hvoice] at hflag
  generalize received m.frame m.value (g.amid m.moment) = g₁ at *
  cases hu : m.upload with
  | recordVoice =>
    refine ⟨g₁.akbiSetFsmState .voiceRecordingInProgress, rfl, hio, hwild, ?_⟩
    rw [hu] at hbyte
    have hnot : ¬ m.value.getD 3 0 = 8 := hbyte
    have hon : (g₁.akbiSetFsmState .voiceRecordingInProgress).ble.voice.flagSendingVoiceData =
        true := hflag hu
    show executeRecordPersonalVoiceMsgNew _ (Globals.akbiSetFsmState _ _) = _
    unfold executeRecordPersonalVoiceMsgNew
    dsimp only
    rw [if_pos hon, h3, if_neg hnot]
    rfl
  | addressVisiting =>
    refine ⟨g₁, rfl, hio, hwild, ?_⟩
    rw [hu] at hbyte
    have hone : m.value.getD 3 0 = 1 := hbyte
    show executeStoreAddressVisitingNew _ _ = _
    unfold executeStoreAddressVisitingNew
    dsimp only
    rw [h3, hone]
    rfl

theorem message_audio {i : Nat} (hm : m.Plays n) (hr : m.role = .audio)
    (hflag : m.upload = .recordVoice → g.ble.voice.flagSendingVoiceData = true)
    (hlen : messageLength m.upload g.ble.voice = n)
    (hc : g.ble.voice.chunker m.upload = chunkerAt i) (hi : i < 2 ^ 18) :
    let buf := g.ble.voice.voiceDataBuffer.memcpy (16 * (i % 64)) m.audioByte 16
    (g.meet m.moment).ble.voice =
        withChunker m.upload (afterAudio n i) { g.ble.voice with voiceDataBuffer := buf } ∧
      (g.meet m.moment).env.io =
        g.env.io ++ audioFrame m.upload buf n i (m.value.getD 3 0) m.wild := by
  obtain ⟨g₁, hvoice, hio, hwild, hmeet⟩ := meet_audio hm hr hflag
  rw [hmeet, hlen, ← hio, ← hvoice, ← hwild]
  rw [← hvoice] at hc
  refine storeAndSend_spec _ hc (fun x hx => ?_) (by omega)
  exact messageOf_byte m.value g₁.env.wild (by omega)

theorem record_closes (hm : m.Plays n) (hu : m.upload = .recordVoice) (hr : m.role = .closes)
    (hflag : g.ble.voice.flagSendingVoiceData = true) :
    (g.meet m.moment).ble.voice = { g.ble.voice with flagSendingVoiceData := false } ∧
      (g.meet m.moment).env.io = g.env.io := by
  obtain ⟨hvoice, hio, _⟩ := meet_voice g m
  have hbyte := hm.roleByte
  rw [hu, hr] at hbyte
  have h8 : m.value.getD 3 0 = 8 := hbyte
  rw [meet_message hm, hu, ← hvoice, ← hio]
  rw [← hvoice] at hflag
  generalize received m.frame m.value (g.amid m.moment) = g₁ at *
  have hon : (g₁.akbiSetFsmState .voiceRecordingInProgress).ble.voice.flagSendingVoiceData =
      true := hflag
  show (executeRecordPersonalVoiceMsgNew _ (Globals.akbiSetFsmState _ _)).ble.voice = _ ∧
    (executeRecordPersonalVoiceMsgNew _ (Globals.akbiSetFsmState _ _)).env.io = _
  unfold executeRecordPersonalVoiceMsgNew
  dsimp only
  rw [if_pos hon, messageOf_byte _ _ (show 3 < 30 by decide), if_pos h8]
  exact ⟨rfl, rfl⟩

theorem visiting_opens (hm : m.Plays n) (hu : m.upload = .addressVisiting) (hr : m.role = .opens) :
    (g.meet m.moment).ble.voice = { g.ble.voice with visitingMessageLength := n } ∧
      (g.meet m.moment).env.io = g.env.io := by
  obtain ⟨hvoice, hio, _⟩ := meet_voice g m
  have hbyte := hm.roleByte
  rw [hu, hr] at hbyte
  rw [meet_message hm, hu, ← hvoice, ← hio]
  show (executeStoreAddressVisitingNew _ _).ble.voice = _ ∧
    (executeStoreAddressVisitingNew _ _).env.io = _
  unfold executeStoreAddressVisitingNew
  dsimp only
  rw [messageOf_byte _ _ (show 3 < 30 by decide), messageOf_byte _ _ (show 5 < 30 by decide),
    messageOf_byte _ _ (show 6 < 30 by decide), messageOf_byte _ _ (show 7 < 30 by decide)]
  rcases hbyte with ⟨h3, rfl⟩ | ⟨h4, rfl⟩
  · rw [h3]
    exact ⟨rfl, rfl⟩
  · rw [h4]
    exact ⟨rfl, rfl⟩

theorem visiting_stamps (hm : m.Plays n) (hu : m.upload = .addressVisiting) (hr : m.role = .stamps)
    (hlen : g.ble.voice.visitingMessageLength = n) :
    (∃ stamp, (g.meet m.moment).ble.voice = { g.ble.voice with visitingTimeStamp := stamp }) ∧
      (g.meet m.moment).env.io = g.env.io ++ plainFrames n m := by
  obtain ⟨hvoice, hio, hwild⟩ := meet_voice g m
  have hbyte := hm.roleByte
  rw [hu, hr] at hbyte
  have h0 : m.value.getD 3 0 = 0 := hbyte
  have hframes : plainFrames n m = [.tx ((ccuSentAddressVisiting
      ((messageOf m.value m.wild).shift 4) n m.wild).frame m.wild)] := by
    rw [plainFrames, hu, hr]
  rw [meet_message hm, hu, hframes, ← hlen, ← hvoice, ← hio]
  show (∃ stamp, (executeStoreAddressVisitingNew _ _).ble.voice = _) ∧
    (executeStoreAddressVisitingNew _ _).env.io = _
  generalize received m.frame m.value (g.amid m.moment) = g₁ at *
  unfold executeStoreAddressVisitingNew
  dsimp only
  rw [messageOf_byte _ _ (show 3 < 30 by decide), h0, ← hwild]
  refine ⟨⟨_, rfl⟩, congrArg (fun frame => g₁.env.io ++ [Io.tx frame]) ?_⟩
  refine addressVisiting_congr _ _ fun i hi => ?_
  have hten : i < 10 := hi
  rw [Buf.view_byte, Buf.rd_memcpy, if_pos ⟨Nat.zero_le i, by omega, by omega⟩, Nat.sub_zero]

theorem visiting_closes (hm : m.Plays n) (hu : m.upload = .addressVisiting)
    (hr : m.role = .closes) :
    (g.meet m.moment).ble.voice = g.ble.voice ∧ (g.meet m.moment).env.io = g.env.io := by
  obtain ⟨hvoice, hio, _⟩ := meet_voice g m
  have hbyte := hm.roleByte
  rw [hu, hr] at hbyte
  have h8 : m.value.getD 3 0 = 8 := hbyte
  rw [meet_message hm, hu, ← hvoice, ← hio]
  show (executeStoreAddressVisitingNew _ _).ble.voice = _ ∧
    (executeStoreAddressVisitingNew _ _).env.io = _
  unfold executeStoreAddressVisitingNew
  dsimp only
  rw [messageOf_byte _ _ (show 3 < 30 by decide), h8]
  exact ⟨rfl, rfl⟩

end Meet

structure PlainStep (n : Nat) (m : Message) (g g' : Globals) : Prop where
  chunker : g'.ble.voice.chunker = g.ble.voice.chunker
  voiceDataBuffer : g'.ble.voice.voiceDataBuffer = g.ble.voice.voiceDataBuffer
  other : ∀ u, u ≠ m.upload → messageLength u g'.ble.voice = messageLength u g.ble.voice ∧
    (u = .recordVoice → g'.ble.voice.flagSendingVoiceData = g.ble.voice.flagSendingVoiceData)
  io : g'.env.io = g.env.io ++ plainFrames n m

section Plain

variable {n : Nat} {g : Globals} {m : Message}

theorem message_opens (hm : m.Plays n) (hr : m.role = .opens)
    (hflag : m.upload = .recordVoice → g.ble.voice.flagSendingVoiceData = false) :
    PlainStep n m g (g.meet m.moment) ∧ messageLength m.upload (g.meet m.moment).ble.voice = n ∧
      (m.upload = .recordVoice → (g.meet m.moment).ble.voice.flagSendingVoiceData = true) := by
  cases hu : m.upload with
  | recordVoice =>
    obtain ⟨hvoice, hio⟩ := record_opens hm hu hr (hflag hu)
    rw [hvoice]
    refine ⟨⟨by rw [hvoice], by rw [hvoice], fun u hne => ?_, hio⟩, rfl, fun _ => rfl⟩
    rw [hvoice]
    cases u with
    | recordVoice => exact absurd hu.symm hne
    | addressVisiting => exact ⟨rfl, nofun⟩
  | addressVisiting =>
    obtain ⟨hvoice, hio⟩ := visiting_opens (g := g) hm hu hr
    have hnone : plainFrames n m = [] := by
      rw [plainFrames, hu, hr]
    rw [hvoice]
    refine ⟨⟨by rw [hvoice], by rw [hvoice], fun u hne => ?_, ?_⟩, rfl, nofun⟩
    · rw [hvoice]
      cases u with
      | recordVoice => exact ⟨rfl, fun _ => rfl⟩
      | addressVisiting => exact absurd hu.symm hne
    · rw [hio, hnone, List.append_nil]

theorem record_ends (hm : m.Plays n) (hu : m.upload = .recordVoice) (hr : m.role = .closes)
    (hflag : g.ble.voice.flagSendingVoiceData = true) :
    PlainStep n m g (g.meet m.moment) ∧
      messageLength m.upload (g.meet m.moment).ble.voice = messageLength m.upload g.ble.voice ∧
      (g.meet m.moment).ble.voice.flagSendingVoiceData = false := by
  obtain ⟨hvoice, hio⟩ := record_closes hm hu hr hflag
  have hnone : plainFrames n m = [] := by
    rw [plainFrames, hu, hr]
  rw [hvoice, hu]
  refine ⟨⟨by rw [hvoice], by rw [hvoice], fun u hne => ?_, ?_⟩, rfl, rfl⟩
  · rw [hvoice]
    cases u with
    | recordVoice => exact absurd hu.symm hne
    | addressVisiting => exact ⟨rfl, nofun⟩
  · rw [hio, hnone, List.append_nil]

theorem visiting_ends (hm : m.Plays n) (hu : m.upload = .addressVisiting)
    (hr : m.role = .stamps ∨ m.role = .closes) (hlen : g.ble.voice.visitingMessageLength = n) :
    PlainStep n m g (g.meet m.moment) ∧
      messageLength m.upload (g.meet m.moment).ble.voice = messageLength m.upload g.ble.voice := by
  rcases hr with hr | hr
  · obtain ⟨⟨stamp, hvoice⟩, hio⟩ := visiting_stamps hm hu hr hlen
    rw [hvoice, hu]
    refine ⟨⟨by rw [hvoice], by rw [hvoice], fun u _ => ?_, hio⟩, rfl⟩
    rw [hvoice]
    cases u <;> exact ⟨rfl, fun _ => rfl⟩
  · obtain ⟨hvoice, hio⟩ := visiting_closes (g := g) hm hu hr
    have hnone : plainFrames n m = [] := by
      rw [plainFrames, hu, hr]
    rw [hvoice]
    refine ⟨⟨by rw [hvoice], by rw [hvoice], fun u _ => ?_, ?_⟩, rfl⟩
    · rw [hvoice]
      exact ⟨rfl, fun _ => rfl⟩
    · rw [hio, hnone, List.append_nil]

end Plain

structure Position (u : AudioUpload) (n j : Nat) (v : VoiceStatics) : Prop where
  chunker : v.chunker u = if 1 ≤ j ∧ j ≤ audioCount n then chunkerAt (j - 1) else .fresh
  length : 1 ≤ j → messageLength u v = n
  flag : u = .recordVoice → v.flagSendingVoiceData = decide (1 ≤ j ∧ j ≤ audioCount n + 1)

theorem Position.keep {u : AudioUpload} {n j : Nat} {v v' : VoiceStatics} (h : Position u n j v)
    (hchunker : v'.chunker u = v.chunker u) (hlength : messageLength u v' = messageLength u v)
    (hflag : u = .recordVoice → v'.flagSendingVoiceData = v.flagSendingVoiceData) :
    Position u n j v' :=
  ⟨hchunker.trans h.chunker, fun hj => hlength.trans (h.length hj),
    fun hu => (hflag hu).trans (h.flag hu)⟩

theorem script_cases {u : AudioUpload} {n j : Nat} {r : Role} (h : (script u n)[j]? = some r) :
    (r = .opens ∧ j = 0) ∨ (r = .audio ∧ 1 ≤ j ∧ j ≤ audioCount n) ∨
      (u = .recordVoice ∧ r = .closes ∧ j = audioCount n + 1) ∨
      (u = .addressVisiting ∧
        (r = .stamps ∧ j = audioCount n + 1 ∨ r = .closes ∧ j = audioCount n + 2)) := by
  unfold script at h
  cases j with
  | zero =>
    cases h
    exact .inl ⟨rfl, rfl⟩
  | succ j =>
    rw [List.getElem?_cons_succ] at h
    by_cases hin : j < audioCount n
    · rw [List.getElem?_append_left (by rwa [List.length_replicate]), List.getElem?_replicate,
        if_pos hin] at h
      cases h
      exact .inr (.inl ⟨rfl, by omega, by omega⟩)
    · rw [List.getElem?_append_right (by rw [List.length_replicate]; omega),
        List.length_replicate] at h
      obtain ⟨k, rfl⟩ : ∃ k, j = audioCount n + k := ⟨j - audioCount n, by omega⟩
      rw [Nat.add_sub_cancel_left] at h
      cases u with
      | recordVoice =>
        match k, h with
        | 0, h =>
          cases h
          exact .inr (.inr (.inl ⟨rfl, rfl, rfl⟩))
      | addressVisiting =>
        match k, h with
        | 0, h =>
          cases h
          exact .inr (.inr (.inr ⟨rfl, .inl ⟨rfl, rfl⟩⟩))
        | 1, h =>
          cases h
          exact .inr (.inr (.inr ⟨rfl, .inr ⟨rfl, rfl⟩⟩))

def bufferAfter (j : Nat) (m : Message) (buf : Buf 1024) : Buf 1024 :=
  match m.role with
  | .audio => buf.memcpy (16 * ((j - 1) % 64)) m.audioByte 16
  | _ => buf

def messageFrames (n j : Nat) (m : Message) (buf : Buf 1024) : List Io :=
  match m.role with
  | .audio => audioFrame m.upload buf n (j - 1) (m.value.getD 3 0) m.wild
  | _ => plainFrames n m

structure Stepped (n j : Nat) (m : Message) (g g' : Globals) : Prop where
  position : Position m.upload n (j + 1) g'.ble.voice
  other : ∀ u n' j', u ≠ m.upload → Position u n' j' g.ble.voice → Position u n' j' g'.ble.voice
  buffer : g'.ble.voice.voiceDataBuffer = bufferAfter j m g.ble.voice.voiceDataBuffer
  io : g'.env.io = g.env.io ++ messageFrames n j m g'.ble.voice.voiceDataBuffer

section Step

variable {n j : Nat} {g : Globals} {m : Message}

theorem PlainStep.stepped {g' : Globals} (h : PlainStep n m g g') (hr : m.role ≠ .audio)
    (hposition : Position m.upload n (j + 1) g'.ble.voice) : Stepped n j m g g' where
  position := hposition
  other u n' j' hne hother :=
    hother.keep (congrFun h.chunker u) (h.other u hne).1 (h.other u hne).2
  buffer := by
    rw [h.voiceDataBuffer]
    unfold bufferAfter
    split
    · exact absurd ‹_› hr
    · rfl
  io := by
    rw [h.io]
    unfold messageFrames
    split
    · exact absurd ‹_› hr
    · rfl

theorem opens_step (hm : m.Plays n) (hcount : 1 ≤ audioCount n) (hr : m.role = .opens)
    (h : Position m.upload n 0 g.ble.voice) : Stepped n 0 m g (g.meet m.moment) := by
  have hoff : m.upload = .recordVoice → g.ble.voice.flagSendingVoiceData = false :=
    fun hu => (h.flag hu).trans (decide_eq_false (by omega))
  obtain ⟨hplain, hlength, hflag⟩ := message_opens hm hr hoff
  refine hplain.stepped (by rw [hr]; nofun) ⟨?_, fun _ => hlength, fun hu => ?_⟩
  · rw [hplain.chunker, h.chunker, if_neg (by omega), if_pos (by omega)]
    rfl
  · rw [hflag hu]
    exact (decide_eq_true (by omega)).symm

theorem audio_step (hm : m.Plays n) (hn : n < 2 ^ 18) (hr : m.role = .audio) (hone : 1 ≤ j)
    (hlast : j ≤ audioCount n) (h : Position m.upload n j g.ble.voice) :
    Stepped n j m g (g.meet m.moment) := by
  have hchunker := h.chunker
  rw [if_pos ⟨hone, hlast⟩] at hchunker
  have hflag : m.upload = .recordVoice → g.ble.voice.flagSendingVoiceData = true := by
    intro hu
    rw [h.flag hu]
    exact decide_eq_true (by omega)
  obtain ⟨hvoice, hio⟩ := message_audio hm hr hflag (h.length hone) hchunker
    (by unfold audioCount at hlast; omega)
  refine ⟨?_, ?_, ?_, ?_⟩
  · rw [hvoice]
    refine ⟨?_, fun _ => ?_, fun hu => ?_⟩
    · show (if m.upload = m.upload then afterAudio n (j - 1) else _) = _
      rw [if_pos rfl, afterAudio, show j - 1 + 1 = j by omega]
      by_cases hend : audioCount n ≤ j
      · rw [if_pos hend, if_neg (by omega)]
      · rw [if_neg hend, if_pos (by omega), Nat.add_sub_cancel]
    · exact h.length hone
    · refine (h.flag hu).trans ?_
      rw [decide_eq_true (by omega), decide_eq_true (by omega)]
  · rw [hvoice]
    intro u n' j' hne hother
    exact hother.keep (if_neg hne) rfl fun _ => rfl
  · rw [hvoice, bufferAfter, hr]
    rfl
  · rw [hio, messageFrames, hr, hvoice]
    rfl

theorem ends_step (hm : m.Plays n) (hr : m.role = .stamps ∨ m.role = .closes)
    (hplace : m.upload = .recordVoice → m.role = .closes ∧ j = audioCount n + 1)
    (hj : audioCount n < j) (h : Position m.upload n j g.ble.voice) :
    Stepped n j m g (g.meet m.moment) := by
  have hnot : m.role ≠ .audio := by
    rcases hr with hr | hr <;> rw [hr] <;> nofun
  have hfresh := h.chunker
  rw [if_neg (by omega)] at hfresh
  cases hu : m.upload with
  | recordVoice =>
    obtain ⟨hcloses, hlast⟩ := hplace hu
    have hon := (h.flag hu).trans (decide_eq_true (by omega))
    obtain ⟨hplain, hlength, hflag⟩ := record_ends hm hu hcloses hon
    refine hplain.stepped hnot ⟨?_, fun _ => hlength.trans (h.length (by omega)), fun _ => ?_⟩
    · rw [hplain.chunker, hfresh, if_neg (by omega)]
    · rw [hflag]
      exact (decide_eq_false (by omega)).symm
  | addressVisiting =>
    have hlen := h.length (by omega)
    rw [hu] at hlen
    obtain ⟨hplain, hlength⟩ := visiting_ends hm hu hr hlen
    refine hplain.stepped hnot ⟨?_, fun _ => hlength.trans (h.length (by omega)), ?_⟩
    · rw [hplain.chunker, hfresh, if_neg (by omega)]
    · intro hu'
      rw [hu] at hu'
      cases hu'

theorem message_step (hm : m.Plays n) (hpos : 1 ≤ n) (hn : n < 2 ^ 18)
    (hrole : (script m.upload n)[j]? = some m.role) (h : Position m.upload n j g.ble.voice) :
    Stepped n j m g (g.meet m.moment) := by
  have hcount : 1 ≤ audioCount n := by
    unfold audioCount
    omega
  rcases script_cases hrole with ⟨hr, rfl⟩ | ⟨hr, hone, hlast⟩ | ⟨hu, hr, rfl⟩ |
    ⟨hu, ⟨hr, rfl⟩ | ⟨hr, rfl⟩⟩
  · exact opens_step hm hcount hr h
  · exact audio_step hm hn hr hone hlast h
  · exact ends_step hm (.inr hr) (fun _ => ⟨hr, rfl⟩) (by omega) h
  · exact ends_step hm (.inl hr) (fun hu' => by rw [hu] at hu'; cases hu') (by omega) h
  · exact ends_step hm (.inr hr) (fun hu' => by rw [hu] at hu'; cases hu') (by omega) h

end Step

end EspBridges.Ccu
