import EspBridges.Ccu.MultipartLaws
import EspBridges.Ccu.UploadLaws

namespace EspBridges.Ccu

open Bytes

def sentBy (g : Globals) (ms : List Message) : List Io :=
  (g.meets (ms.map Message.moment)).env.io.drop g.env.io.length

theorem sentBy_eq {g : Globals} {ms : List Message} {frames : List Io}
    (h : (g.meets (ms.map Message.moment)).env.io = g.env.io ++ frames) : sentBy g ms = frames := by
  unfold sentBy
  rw [h, List.drop_left]

structure Ready (u : AudioUpload) (g : Globals) : Prop where
  chunker : g.ble.voice.chunker u = .fresh
  flag : u = .recordVoice → g.ble.voice.flagSendingVoiceData = false

def SessionIsolated (u : AudioUpload) (g : Globals) : Prop :=
  ∀ n ms, Session u n ms → sentBy g ms = sentBy .boot ms

theorem Ready.position {u : AudioUpload} {g : Globals} (h : Ready u g) (n : Nat) :
    Position u n 0 g.ble.voice := by
  refine ⟨?_, fun hj => absurd hj (by omega), fun hu => ?_⟩
  · rw [if_neg (by omega)]
    exact h.chunker
  · rw [h.flag hu]
    exact (decide_eq_false (by omega)).symm

theorem boot_ready (u : AudioUpload) : Ready u .boot := ⟨rfl, fun _ => rfl⟩

def RowsAgree (j : Nat) (buf buf' : Buf 1024) : Prop :=
  ∀ x, x < 16 * ((j - 1) % 16) → buf.rd (fun _ => 0) (256 * ((j - 1) / 16 % 4) + x) =
    buf'.rd (fun _ => 0) (256 * ((j - 1) / 16 % 4) + x)

theorem RowsAgree.extend {i : Nat} {buf buf' : Buf 1024} (h : RowsAgree (i + 1) buf buf')
    (audio : Nat → Byte) {x : Nat} (hx : x < 16 * (i % 16) + 16) :
    (buf.memcpy (16 * (i % 64)) audio 16).rd (fun _ => 0) (256 * (i / 16 % 4) + x) =
      (buf'.memcpy (16 * (i % 64)) audio 16).rd (fun _ => 0) (256 * (i / 16 % 4) + x) := by
  rw [Buf.rd_memcpy, Buf.rd_memcpy]
  by_cases hold : x < 16 * (i % 16)
  · rw [if_neg (by omega), if_neg (by omega)]
    exact h x hold
  · rw [if_pos (by omega), if_pos (by omega)]

theorem rowsAgree_step {n j : Nat} {m : Message} {buf buf' : Buf 1024} (hj : j ≤ audioCount n)
    (hrole : (script m.upload n)[j]? = some m.role) (h : RowsAgree j buf buf') :
    RowsAgree (j + 1) (bufferAfter j m buf) (bufferAfter j m buf') ∧
      messageFrames n j m (bufferAfter j m buf) = messageFrames n j m (bufferAfter j m buf') := by
  unfold bufferAfter messageFrames
  rcases script_cases hrole with ⟨hr, rfl⟩ | ⟨hr, hone, _⟩ | ⟨_, _, rfl⟩ | ⟨_, ⟨_, rfl⟩ | ⟨_, rfl⟩⟩
  · rw [hr]
    exact ⟨fun x hx => absurd hx (by omega), rfl⟩
  · obtain ⟨i, rfl⟩ : ∃ i, j = i + 1 := ⟨j - 1, by omega⟩
    rw [hr]
    simp only [Nat.add_sub_cancel]
    constructor
    · intro x hx
      rw [Nat.add_sub_cancel] at hx ⊢
      have hrow : (i + 1) / 16 % 4 = i / 16 % 4 := by omega
      rw [hrow]
      exact h.extend m.audioByte (by omega)
    · rw [audioFrame_eq_iff]
      intro k hk x hx
      apply h.extend m.audioByte
      unfold chunkSize at hk
      split at hk
      · cases hk
        omega
      · split at hk
        · cases hk
          omega
        · cases hk
  all_goals omega

theorem meets_same {u : AudioUpload} {n : Nat} (hpos : 1 ≤ n) (hn : n < 2 ^ 18)
    {ms : List Message} {j : Nat} {g g' : Globals} (hroles : ms.map Message.role = (script u n).drop j)
    (hown : ∀ m ∈ ms, m.upload = u ∧ m.Plays n) (h : Position u n j g.ble.voice)
    (h' : Position u n j g'.ble.voice) (hrows : j ≤ audioCount n →
      RowsAgree j g.ble.voice.voiceDataBuffer g'.ble.voice.voiceDataBuffer) :
    (∃ frames, (g.meets (ms.map Message.moment)).env.io = g.env.io ++ frames ∧
      (g'.meets (ms.map Message.moment)).env.io = g'.env.io ++ frames) ∧
      Position u n (j + ms.length) (g.meets (ms.map Message.moment)).ble.voice := by
  induction ms generalizing j g g' with
  | nil => exact ⟨⟨[], (List.append_nil _).symm, (List.append_nil _).symm⟩, h⟩
  | cons m ms ih =>
    obtain ⟨rfl, hplays⟩ := hown m (.head _)
    have hsplit : (script m.upload n)[j]? = some m.role ∧
        ms.map Message.role = (script m.upload n).drop (j + 1) := by
      rw [List.map_cons] at hroles
      refine ⟨?_, ?_⟩
      · rw [← List.head?_drop, ← hroles]
        rfl
      · rw [← List.tail_drop, ← hroles]
        rfl
    have hstep := message_step hplays hpos hn hsplit.1 h
    have hstep' := message_step hplays hpos hn hsplit.1 h'
    have hsame : messageFrames n j m (bufferAfter j m g.ble.voice.voiceDataBuffer) =
        messageFrames n j m (bufferAfter j m g'.ble.voice.voiceDataBuffer) := by
      by_cases hj : j ≤ audioCount n
      · exact (rowsAgree_step hj hsplit.1 (hrows hj)).2
      · rcases script_cases hsplit.1 with ⟨_, rfl⟩ | ⟨_, _, hlast⟩ | ⟨_, hr, _⟩ | ⟨_, ⟨hr, _⟩ | ⟨hr, _⟩⟩
        · omega
        · omega
        all_goals
          unfold messageFrames
          rw [hr]
    obtain ⟨⟨frames, hio, hio'⟩, hend⟩ := ih hsplit.2 (fun m' hm' => hown m' (.tail _ hm'))
      hstep.position hstep'.position fun hj => by
        rw [hstep.buffer, hstep'.buffer]
        exact (rowsAgree_step (by omega) hsplit.1 (hrows (by omega))).1
    rw [List.map_cons, Globals.meets_cons, Globals.meets_cons]
    refine ⟨⟨messageFrames n j m (bufferAfter j m g.ble.voice.voiceDataBuffer) ++ frames, ?_, ?_⟩, ?_⟩
    · rw [hio, hstep.io, hstep.buffer, List.append_assoc]
    · rw [hio', hstep'.io, hstep'.buffer, hsame, List.append_assoc]
    · rw [List.length_cons, ← Nat.add_assoc, Nat.add_right_comm]
      exact hend

theorem Session.bound {u : AudioUpload} {n : Nat} {ms : List Message} (h : Session u n ms) :
    n < 2 ^ 18 := by
  have hroles := h.roles
  cases ms with
  | nil => cases hroles
  | cons m ms =>
    have hr : m.role = .opens := (List.cons.inj hroles).1
    have hbyte := (h.own m (.head _)).2.roleByte
    rw [hr] at hbyte
    exact Declares.lt (by cases hu : m.upload <;> rw [hu] at hbyte <;> exact hbyte)

theorem Ready.isolated {u : AudioUpload} {g : Globals} (h : Ready u g) : SessionIsolated u g := by
  intro n ms hsession
  obtain ⟨⟨frames, hio, hio'⟩, _⟩ := meets_same hsession.pos hsession.bound
    (by rw [List.drop_zero]; exact hsession.roles) hsession.own (h.position n)
    ((boot_ready u).position n) fun _ x hx => absurd hx (by omega)
  rw [sentBy_eq hio, sentBy_eq hio']

theorem Ready.after {u : AudioUpload} {g : Globals} (h : Ready u g) {n : Nat} {ms : List Message}
    (hsession : Session u n ms) : Ready u (g.meets (ms.map Message.moment)) := by
  obtain ⟨_, hend⟩ := meets_same hsession.pos hsession.bound
    (by rw [List.drop_zero]; exact hsession.roles) hsession.own (h.position n) (h.position n)
    fun _ x hx => absurd hx (by omega)
  have hlen : ms.length = audioCount n + 1 + (lastRoles u).length := by
    rw [← List.length_map Message.role, hsession.roles, script, List.length_cons, List.length_append,
      List.length_replicate]
    omega
  have hlast : 1 ≤ (lastRoles u).length := by cases u <;> decide
  refine ⟨?_, fun hu => ?_⟩
  · rw [hend.chunker, if_neg (by omega)]
  · subst hu
    rw [hend.flag rfl]
    exact decide_eq_false (by omega)

structure Kept (v : VoiceStatics) : Prop where
  chunker : ∀ u, ∃ i < 2 ^ 18, v.chunker u = chunkerAt i
  recordMessageLength : v.recordMessageLength < 2 ^ 18
  visitingMessageLength : v.visitingMessageLength < 2 ^ 18

theorem afterAudio_kept {n i : Nat} (hn : n < 2 ^ 18) : ∃ k < 2 ^ 18, afterAudio n i = chunkerAt k := by
  obtain ⟨k, hk, hafter⟩ := afterAudio_cases n i
  exact ⟨k, by omega, hafter⟩

theorem storeAndSend_kept {g : Globals} (h : Kept g.ble.voice) (u : AudioUpload) (data : View)
    (audioNumber : Byte) {n : Nat} (hn : n < 2 ^ 18) :
    Kept (storeAndSend u (rawAudioMsg (rawOpcode u)) data audioNumber n g).ble.voice := by
  obtain ⟨i, hi, hc⟩ := h.chunker u
  rw [(storeAndSend_spec (n := n) audioNumber hc (fun _ _ => rfl) (by omega)).1]
  refine ⟨fun u' => ?_, h.recordMessageLength, h.visitingMessageLength⟩
  show ∃ k < 2 ^ 18, (if u' = u then afterAudio n i else g.ble.voice.chunker u') = chunkerAt k
  by_cases hu : u' = u
  · rw [if_pos hu]
    exact afterAudio_kept hn
  · rw [if_neg hu]
    exact h.chunker u'

theorem recordPersonalVoiceMsg_kept (iMsg : View) {g : Globals} (h : Kept g.ble.voice) :
    Kept (executeRecordPersonalVoiceMsgNew iMsg g).ble.voice := by
  have h5 := (iMsg.byte 5).toNat_lt
  have h6 := (iMsg.byte 6).toNat_lt
  have h7 := (iMsg.byte 7).toNat_lt
  unfold executeRecordPersonalVoiceMsgNew
  dsimp only
  split
  · split
    · exact ⟨h.chunker, h.recordMessageLength, h.visitingMessageLength⟩
    · exact storeAndSend_kept h .recordVoice _ _ h.recordMessageLength
  · split
    · exact ⟨h.chunker, show _ * 100 + _ < 2 ^ 18 by omega, h.visitingMessageLength⟩
    · exact ⟨h.chunker, show _ * 1000 + _ * 10 + _ < 2 ^ 18 by omega, h.visitingMessageLength⟩
    · exact h

theorem storeAddressVisiting_kept (iMsg : View) {g : Globals} (h : Kept g.ble.voice) :
    Kept (executeStoreAddressVisitingNew iMsg g).ble.voice := by
  have h5 := (iMsg.byte 5).toNat_lt
  have h6 := (iMsg.byte 6).toNat_lt
  have h7 := (iMsg.byte 7).toNat_lt
  unfold executeStoreAddressVisitingNew
  dsimp only
  split
  · exact ⟨h.chunker, h.recordMessageLength, h.visitingMessageLength⟩
  · exact storeAndSend_kept h .addressVisiting _ _ h.visitingMessageLength
  · exact ⟨h.chunker, h.recordMessageLength, show _ * 100 + _ < 2 ^ 18 by omega⟩
  · exact ⟨h.chunker, h.recordMessageLength, show _ * 1000 + _ * 10 + _ < 2 ^ 18 by omega⟩
  · exact h
  · exact h

theorem gattsWriteEvt_kept (frame : Nat) (value : List Byte) {g : Globals} (h : Kept g.ble.voice) :
    Kept (gattsWriteEvt false frame value g).ble.voice := by
  have hrec : (received frame value g).ble.voice = g.ble.voice := by
    rw [(received_spec frame value g).ble]
  by_cases hrecord : Cid.ofByte? (value.getD 2 0) = some .recordPersonalVoiceMsg
  · rw [gattsWriteEvt_eq, hrecord]
    exact recordPersonalVoiceMsg_kept _ (g := (received frame value g).akbiSetFsmState _)
      (hrec.symm ▸ h)
  · by_cases hvisit : Cid.ofByte? (value.getD 2 0) = some .addressVisiting
    · rw [gattsWriteEvt_eq, hvisit]
      exact storeAddressVisiting_kept _ (hrec.symm ▸ h)
    · rw [(gattsWriteEvt_leaves frame value g).voice hrecord hvisit]
      exact h

theorem step_kept (b : Bridge) (e : Event) (b' : Bridge) (h : Kept b.glob.ble.voice)
    (hs : step b e = some b') : Kept b'.glob.ble.voice := by
  have hleaves := step_leaves hs
  obtain ⟨_, rfl⟩ := step_eq_some hs
  cases hact : e.action with
  | gattWrite isPrep frame value =>
    cases isPrep with
    | true => exact h
    | false => exact gattsWriteEvt_kept frame value (g := (b.at e).glob) h
  | regEvt | gattRead | timerExpiry | advDataSet | updateConnParams | gattDisconnect
  | byteReceived =>
    rw [hact] at hleaves
    rw [hleaves.voice nofun nofun]
    exact h

theorem reachable_kept {b : Bridge} (h : Reachable b) : Kept b.glob.ble.voice :=
  h.invariant ⟨fun _ => ⟨0, by decide, rfl⟩, by decide, by decide⟩ step_kept

def probeMessage (u : AudioUpload) (role : Role) (rest : List Byte) : Message :=
  ⟨u, role, 0, [0x4D, 1, u.cid.code] ++ rest, fun _ => Buf.zero, Wild.zero⟩

def probeEnds : AudioUpload → List Message
  | .recordVoice => [probeMessage .recordVoice .closes [8]]
  | .addressVisiting =>
    [probeMessage .addressVisiting .stamps [0], probeMessage .addressVisiting .closes [8]]

/-- Seventeen bytes of audio: only the second message sends, and its one byte comes last. -/
def probe (u : AudioUpload) : List Message :=
  [probeMessage u .opens [3, 0, 0, 17], probeMessage u .audio [1, 1], probeMessage u .audio [1, 2]] ++
    probeEnds u

theorem probe_opens (u : AudioUpload) : (probeMessage u .opens [3, 0, 0, 17]).Plays 17 := by
  cases u <;> exact ⟨rfl, .inl ⟨rfl, rfl⟩⟩

theorem probe_audio (u : AudioUpload) (n : Nat) (d : Byte) :
    (probeMessage u .audio [1, d]).Plays n := by
  refine ⟨by cases u <;> rfl, ?_⟩
  cases u with
  | recordVoice => exact show ¬ (1 : Byte) = 8 by decide
  | addressVisiting => exact rfl

theorem probe_ends {u : AudioUpload} {n : Nat} {m : Message} (hm : m ∈ probeEnds u) :
    m.upload = u ∧ m.Plays n := by
  cases u with
  | recordVoice =>
    obtain rfl := List.mem_singleton.mp hm
    exact ⟨rfl, rfl, rfl⟩
  | addressVisiting =>
    simp only [probeEnds, List.mem_cons, List.not_mem_nil, or_false] at hm
    rcases hm with rfl | rfl <;> exact ⟨rfl, rfl, rfl⟩

theorem probe_session (u : AudioUpload) : Session u 17 (probe u) := by
  refine ⟨by decide, ?_, by cases u <;> rfl⟩
  intro m hm
  simp only [probe, List.cons_append, List.nil_append, List.mem_cons] at hm
  rcases hm with rfl | rfl | rfl | hm
  · exact ⟨rfl, probe_opens u⟩
  · exact ⟨rfl, probe_audio u 17 1⟩
  · exact ⟨rfl, probe_audio u 17 2⟩
  · exact probe_ends hm

theorem probeEnds_io {u : AudioUpload} {g : Globals} (hlen : messageLength u g.ble.voice = 17)
    (hflag : u = .recordVoice → g.ble.voice.flagSendingVoiceData = true) :
    (g.meets ((probeEnds u).map Message.moment)).env.io =
      g.env.io ++ (probeEnds u).flatMap (plainFrames 17) := by
  cases u with
  | recordVoice =>
    have hends := record_ends (m := probeMessage .recordVoice .closes [8]) (n := 17)
      (probe_ends (u := .recordVoice) (.head _)).2 rfl rfl (hflag rfl)
    exact hends.1.io
  | addressVisiting =>
    have hstamps := visiting_ends (m := probeMessage .addressVisiting .stamps [0])
      (probe_ends (u := .addressVisiting) (.head _)).2 rfl (.inl rfl) hlen
    have hcloses := visiting_ends (m := probeMessage .addressVisiting .closes [8])
      (probe_ends (u := .addressVisiting) (.tail _ (.head _))).2 rfl (.inr rfl)
      (hstamps.2.trans hlen)
    rw [probeEnds, List.map_cons, List.map_cons, List.map_nil, Globals.meets_cons,
      Globals.meets_cons, Globals.meets_nil, hcloses.1.io, hstamps.1.io, List.append_assoc]
    rfl

theorem probe_sent {u : AudioUpload} {g : Globals} {i k : Nat}
    (hflag : u = .recordVoice → g.ble.voice.flagSendingVoiceData = false)
    (hc : g.ble.voice.chunker u = chunkerAt i) (hi : i < 2 ^ 18)
    (hk : afterAudio 17 i = chunkerAt k) (hk' : k < 2 ^ 18) :
    ∃ buf buf' : Buf 1024, sentBy g (probe u) =
      plainFrames 17 (probeMessage u .opens [3, 0, 0, 17]) ++
        (audioFrame u (buf.memcpy (16 * (i % 64)) (probeMessage u .audio [1, 1]).audioByte 16) 17 i
          1 Wild.zero ++
        (audioFrame u (buf'.memcpy (16 * (k % 64)) (probeMessage u .audio [1, 2]).audioByte 16) 17 k
          1 Wild.zero ++ (probeEnds u).flatMap (plainFrames 17))) := by
  obtain ⟨hplain, hlen, hon⟩ := message_opens (g := g) (probe_opens u) rfl hflag
  generalize hg₁ : g.meet (probeMessage u .opens [3, 0, 0, 17]).moment = g₁ at hplain hlen hon
  have hc₁ : g₁.ble.voice.chunker u = chunkerAt i := by
    rw [hplain.chunker, hc]
  obtain ⟨hvoice₂, hio₂⟩ := message_audio (g := g₁) (probe_audio u 17 1) rfl hon hlen hc₁ hi
  generalize hg₂ : g₁.meet (probeMessage u .audio [1, 1]).moment = g₂ at hvoice₂ hio₂
  have hc₂ : g₂.ble.voice.chunker u = chunkerAt k := by
    rw [hvoice₂, ← hk]
    exact if_pos rfl
  have hlen₂ : messageLength u g₂.ble.voice = 17 := by
    rw [hvoice₂]
    cases u <;> exact hlen
  have hon₂ : u = .recordVoice → g₂.ble.voice.flagSendingVoiceData = true := by
    rw [hvoice₂]
    exact hon
  obtain ⟨hvoice₃, hio₃⟩ := message_audio (g := g₂) (probe_audio u 17 2) rfl hon₂ hlen₂ hc₂ hk'
  generalize hg₃ : g₂.meet (probeMessage u .audio [1, 2]).moment = g₃ at hvoice₃ hio₃
  have hlen₃ : messageLength u g₃.ble.voice = 17 := by
    rw [hvoice₃]
    cases u <;> exact hlen₂
  have hon₃ : u = .recordVoice → g₃.ble.voice.flagSendingVoiceData = true := by
    rw [hvoice₃]
    exact hon₂
  refine ⟨g₁.ble.voice.voiceDataBuffer, g₂.ble.voice.voiceDataBuffer, sentBy_eq ?_⟩
  rw [probe, List.map_append, Globals.meets_append, List.map_cons, List.map_cons, List.map_cons,
    List.map_nil, Globals.meets_cons, Globals.meets_cons, Globals.meets_cons, Globals.meets_nil]
  rw [hg₁, hg₂, hg₃, probeEnds_io hlen₃ hon₃, hio₃, hio₂, hplain.io, List.append_assoc,
    List.append_assoc, List.append_assoc]
  rfl

theorem probeFrame_last {u : AudioUpload} {i : Nat} (hi : 1 ≤ i) (buf : Buf 1024)
    (audio : Nat → Byte) (audioNumber : Byte) (w : Wild Obj) :
    ∃ frame, audioFrame u (buf.memcpy (16 * (i % 64)) audio 16) 17 i audioNumber w = [.tx frame] ∧
      frame.getLast? = some (audio 0) := by
  have hsize : chunkSize 17 i = some (16 * (i % 16) + 1) := by
    unfold chunkSize
    rw [if_pos (by show 2 ≤ i + 1; omega)]
  refine ⟨_, by rw [audioFrame, hsize]; rfl, ?_⟩
  have hone : ((bufferRow (buf.memcpy (16 * (i % 64)) audio 16) w (i / 16 % 4)).shift
      (16 * (i % 16))).bytes 1 = [audio 0] := by
    rw [View.bytes_succ]
    show [(bufferRow _ _ _).byte (16 * (i % 16) + 0)] = _
    rw [Nat.add_zero, bufferRow_byte _ _ _ (by omega), Buf.rd_memcpy, if_pos (by omega)]
    congr 2
    omega
  rw [rawAudioMsg_frame _ _ _ _ _ (by omega), View.bytes_add, hone, ← List.append_assoc,
    List.getLast?_concat]

theorem chunker_isolated {u : AudioUpload} {g : Globals} {i : Nat}
    (hflag : u = .recordVoice → g.ble.voice.flagSendingVoiceData = false)
    (hc : g.ble.voice.chunker u = chunkerAt i) (hi : i < 2 ^ 18)
    (h : sentBy g (probe u) = sentBy .boot (probe u)) : i = 0 := by
  refine Decidable.byContradiction fun hne => ?_
  have hlate : afterAudio 17 i = chunkerAt 0 := if_pos (by show 2 ≤ i + 1; omega)
  obtain ⟨buf, buf', hsent⟩ := probe_sent hflag hc hi hlate (by decide)
  obtain ⟨boot, boot', hsent'⟩ := probe_sent (u := u) (g := .boot) (i := 0) (k := 1)
    (fun _ => rfl) rfl (by decide) rfl (by decide)
  obtain ⟨frame, hframe, hlast⟩ := probeFrame_last (u := u) (i := i) (by omega) buf
    (probeMessage u .audio [1, 1]).audioByte 1 Wild.zero
  obtain ⟨frame', hframe', hlast'⟩ := probeFrame_last (u := u) (i := 1) (Nat.le_refl 1) boot'
    (probeMessage u .audio [1, 2]).audioByte 1 Wild.zero
  rw [hsent, hsent', hframe, hframe'] at h
  have hsame : frame = frame' := Io.tx.inj (List.cons.inj (List.append_cancel_left h)).1
  rw [hsame, hlast'] at hlast
  have hbyte : (2 : Byte) = 1 := Option.some.inj hlast
  cases hbyte

def IsRaw (f : Io) : Prop := ∃ frame : List Byte, f = .tx frame ∧
  frame.getD 3 0 = tlvTypeVoiceMsgRawData

theorem audioFrame_raw {u : AudioUpload} {buf : Buf 1024} {n i : Nat} {audioNumber : Byte}
    {w : Wild Obj} {f : Io} (hf : f ∈ audioFrame u buf n i audioNumber w) : IsRaw f := by
  unfold audioFrame at hf
  rw [Option.mem_toList, Option.map_eq_some_iff] at hf
  obtain ⟨k, hk, rfl⟩ := hf
  refine ⟨_, rfl, ?_⟩
  rw [rawAudioMsg_frame _ _ _ _ _ (chunkSize_le hk), List.getD_eq_getElem?_getD,
    List.getElem?_append_left (by rw [View.length_bytes]; decide), View.bytes,
    List.getElem?_map, List.getElem?_range (by decide)]
  show View.byte _ 3 = _
  rw [rawAudioMsg_byte, if_neg (by omega)]
  simp [put32, protocolHdr, Buf.rd_put]

theorem flagged_sends {g : Globals} (hk : Kept g.ble.voice)
    (hflag : g.ble.voice.flagSendingVoiceData = true) {ms : List Message}
    (hms : ∀ m ∈ ms, m.upload = .recordVoice ∧ m.role = .audio ∧ ∀ n, m.Plays n) :
    (∃ frames, (g.meets (ms.map Message.moment)).env.io = g.env.io ++ frames ∧
      ∀ f ∈ frames, IsRaw f) ∧
      (g.meets (ms.map Message.moment)).ble.voice.flagSendingVoiceData = true := by
  induction ms generalizing g with
  | nil => exact ⟨⟨[], (List.append_nil _).symm, nofun⟩, hflag⟩
  | cons m ms ih =>
    obtain ⟨hu, hr, hplays⟩ := hms m (.head _)
    obtain ⟨i, hi, hc⟩ := hk.chunker m.upload
    obtain ⟨hvoice, hio⟩ := message_audio (hplays _) hr (fun _ => hflag) rfl hc hi
    have hkept : Kept (g.meet m.moment).ble.voice := gattsWriteEvt_kept m.frame m.value hk
    obtain ⟨⟨frames, hrest, hraw⟩, hend⟩ := ih hkept (by rw [hvoice]; exact hflag)
      fun m' hm' => hms m' (.tail _ hm')
    rw [List.map_cons, Globals.meets_cons]
    refine ⟨⟨_, by rw [hrest, hio, List.append_assoc], ?_⟩, hend⟩
    intro f hf
    rcases List.mem_append.mp hf with hf | hf
    · exact audioFrame_raw hf
    · exact hraw f hf

def flaggedProbe : List Message :=
  [probeMessage .recordVoice .audio [3, 0, 0, 17], probeMessage .recordVoice .audio [1, 1],
    probeMessage .recordVoice .audio [1, 2]]

theorem flag_isolated {g : Globals} (hk : Kept g.ble.voice)
    (h : sentBy g (probe .recordVoice) = sentBy .boot (probe .recordVoice)) :
    g.ble.voice.flagSendingVoiceData = false := by
  refine Bool.eq_false_iff.mpr fun hflag => ?_
  have hall : ∀ m ∈ flaggedProbe, m.upload = .recordVoice ∧ m.role = .audio ∧ ∀ n, m.Plays n := by
    intro m hm
    simp only [flaggedProbe, List.mem_cons, List.not_mem_nil, or_false] at hm
    rcases hm with rfl | rfl | rfl
    · exact ⟨rfl, rfl, fun n => ⟨rfl, show ¬ (3 : Byte) = 8 by decide⟩⟩
    · exact ⟨rfl, rfl, fun n => probe_audio _ n 1⟩
    · exact ⟨rfl, rfl, fun n => probe_audio _ n 2⟩
  obtain ⟨⟨frames, hio, hraw⟩, hend⟩ := flagged_sends hk hflag hall
  have hcloses := record_ends (m := probeMessage .recordVoice .closes [8]) (n := 17)
    (probe_ends (u := .recordVoice) (.head _)).2 rfl rfl hend
  have hmoments : (probe .recordVoice).map Message.moment = flaggedProbe.map Message.moment ++
      [(probeMessage .recordVoice .closes [8]).moment] := rfl
  have hnone : plainFrames 17 (probeMessage .recordVoice .closes [8]) = [] := rfl
  have hsends : (g.meets ((probe .recordVoice).map Message.moment)).env.io =
      g.env.io ++ frames := by
    rw [hmoments, Globals.meets_append, Globals.meets_cons, Globals.meets_nil, hcloses.1.io, hio,
      hnone, List.append_nil]
  obtain ⟨boot, boot', hsent⟩ := probe_sent (u := .recordVoice) (g := .boot) (i := 0) (k := 1)
    (fun _ => rfl) rfl (by decide) rfl (by decide)
  rw [sentBy_eq hsends, hsent] at h
  obtain ⟨frame, hframe, htype⟩ := hraw _ (by rw [h]; exact .head _)
  rw [← Io.tx.inj hframe] at htype
  revert htype
  decide +kernel

theorem isolated_iff_ready {u : AudioUpload} {g : Globals} (hk : Kept g.ble.voice) :
    SessionIsolated u g ↔ Ready u g := by
  refine ⟨fun h => ?_, Ready.isolated⟩
  have hprobe := h 17 (probe u) (probe_session u)
  have hflag : u = .recordVoice → g.ble.voice.flagSendingVoiceData = false := by
    rintro rfl
    exact flag_isolated hk hprobe
  obtain ⟨i, hi, hc⟩ := hk.chunker u
  refine ⟨?_, hflag⟩
  rw [hc, chunker_isolated hflag hc hi hprobe]
  rfl

/-- After a history the next complete upload comes out as from the boot just in case the chunker
is at the start of a row, and, for a recording, the parser has no session open. -/
theorem session_isolated_iff {history : List Event} {b : Bridge}
    (hr : Machine.run step .boot history = some b) (u : AudioUpload) :
    SessionIsolated u b.glob ↔ Ready u b.glob :=
  isolated_iff_ready (reachable_kept (Machine.reachable_of_run .refl hr))

def wholeRecording : List Event :=
  written [[0x4D, 1, Cid.recordPersonalVoiceMsg.code, 3, 0, 0, 17],
      [0x4D, 1, Cid.recordPersonalVoiceMsg.code, 1], [0x4D, 1, Cid.recordPersonalVoiceMsg.code, 2],
      [0x4D, 1, Cid.recordPersonalVoiceMsg.code, 8]] ++
    [.calm .gattDisconnect, .calm .updateConnParams]

theorem wholeRecording_isolated :
    ∃ b, Machine.run step .boot wholeRecording = some b ∧ SessionIsolated .recordVoice b.glob := by
  have hrun : (Machine.run step .boot wholeRecording).map (fun b =>
      (b.glob.ble.voice.chunker .recordVoice, b.glob.ble.voice.flagSendingVoiceData)) =
        some (.fresh, false) := by
    decide +kernel
  obtain ⟨b, hb, hleft⟩ := Option.map_eq_some_iff.mp hrun
  obtain ⟨hchunker, hflag⟩ := Prod.mk.inj hleft
  exact ⟨b, hb, (session_isolated_iff hb .recordVoice).mpr ⟨hchunker, fun _ => hflag⟩⟩

/-- A recording of 17 bytes is given up after one message of audio, by its end marker; the phone
goes, and another comes. -/
def givenUp : List Event :=
  written [[0x4D, 1, Cid.recordPersonalVoiceMsg.code, 3, 0, 0, 17],
      [0x4D, 1, Cid.recordPersonalVoiceMsg.code, 1], [0x4D, 1, Cid.recordPersonalVoiceMsg.code, 8]] ++
    [.calm .gattDisconnect, .calm .updateConnParams]

/-- The 16 bytes of a recording that was given up are still in the row. -/
theorem givenUp_not_isolated : ¬ ∀ history b u, Machine.run step .boot history = some b →
    SessionIsolated u b.glob := by
  intro hevery
  have hrun : (Machine.run step .boot givenUp).map (·.glob.ble.voice.chunker .recordVoice) =
      some ⟨16, 0, 16⟩ := by
    decide +kernel
  obtain ⟨b, hb, hc⟩ := Option.map_eq_some_iff.mp hrun
  have hkept := reachable_kept (Machine.reachable_of_run .refl hb)
  have hready := (isolated_iff_ready hkept).mp (hevery _ _ .recordVoice hb)
  rw [hready.chunker] at hc
  cases hc

end EspBridges.Ccu
