import EspBridges.Ccu.SessionIsolation

namespace EspBridges.Ccu

open Bytes

structure Piece where
  upload : AudioUpload
  number : Nat
  audio : Nat → Byte

def notePiece (pieces : List Piece) (m : Message) : List Piece :=
  match m.role with
  | .audio => ⟨m.upload, pieces.countP (·.upload = m.upload), m.audioByte⟩ :: pieces
  | _ => pieces

def pieces (ms : List Message) : List Piece := ms.foldl notePiece []

def ownPieces (u : AudioUpload) (pieces : List Piece) : List Piece :=
  pieces.filter (·.upload = u)

def ownMessages (u : AudioUpload) (ms : List Message) : List Message :=
  ms.filter (·.upload = u)

def newest (place : Nat) (pieces : List Piece) : Option Piece :=
  pieces.find? fun p => p.number % 64 = place

def byteAt (pieces : List Piece) (a : Nat) : Byte :=
  ((newest (a / 16) pieces).map fun p => p.audio (a % 16)).getD 0

/-- Where the newest piece makes upload `u` send a chunk, each byte of it is what the upload's
own pieces have left there. -/
def Intact (u : AudioUpload) (n : Nat) : List Piece → Prop
  | [] => True
  | p :: earlier => p.upload = u → ∀ k, chunkSize n p.number = some k → ∀ x, x < k →
      byteAt (p :: earlier) (256 * (p.number / 16 % 4) + x) =
        byteAt (ownPieces u (p :: earlier)) (256 * (p.number / 16 % 4) + x)

def AlwaysIntact (u : AudioUpload) (n : Nat) (pieces : List Piece) : Prop :=
  ∀ h, h <:+ pieces → Intact u n h

/-- The messages of two complete uploads, in any order that keeps those of each. -/
structure Interleaved (n : AudioUpload → Nat) (ms : List Message) : Prop where
  session : ∀ u, Session u (n u) (ownMessages u ms)

def hasOpcode (opcode : Byte) : Io → Bool
  | .tx frame => frame.head? = some opcode
  | .rx _ _ => false

/-- Among the frames sent, those of upload `u` are the ones it sends when it is alone. -/
def SendsAsAlone (u : AudioUpload) (ms : List Message) : Prop :=
  (sentBy .boot ms).filter (hasOpcode (rawOpcode u)) = sentBy .boot (ownMessages u ms)

theorem messageFrames_opcode {n j : Nat} {m : Message} {buf : Buf 1024} {f : Io}
    (hf : f ∈ messageFrames n j m buf) (u : AudioUpload) :
    hasOpcode (rawOpcode u) f = decide (m.upload = u) := by
  have hopcode : ∃ frame : List Byte, f = .tx frame ∧ frame.head? = some (rawOpcode m.upload) := by
    unfold messageFrames at hf
    split at hf
    · unfold audioFrame at hf
      rw [Option.mem_toList, Option.map_eq_some_iff] at hf
      obtain ⟨k, _, rfl⟩ := hf
      exact ⟨_, rfl, (opens_rawAudio _ _ _ _).head _⟩
    · unfold plainFrames at hf
      split at hf
      case h_1 hu _ =>
        rw [hu]
        obtain rfl := List.mem_singleton.mp hf
        exact ⟨_, rfl, (opens_recordVoice _ _).head _⟩
      case h_2 hu _ =>
        rw [hu]
        obtain rfl := List.mem_singleton.mp hf
        exact ⟨_, rfl, (opens_addressVisiting _ _).head _⟩
      · cases hf
  obtain ⟨frame, rfl, hhead⟩ := hopcode
  show decide (frame.head? = some (rawOpcode u)) = _
  rw [hhead]
  cases m.upload <;> cases u <;> decide

theorem filter_messageFrames (n j : Nat) (m : Message) (buf : Buf 1024) (u : AudioUpload) :
    (messageFrames n j m buf).filter (hasOpcode (rawOpcode u)) =
      if m.upload = u then messageFrames n j m buf else [] := by
  by_cases hu : m.upload = u
  · rw [if_pos hu, List.filter_eq_self]
    exact fun f hf => (messageFrames_opcode hf u).trans (decide_eq_true hu)
  · rw [if_neg hu, List.filter_eq_nil_iff]
    exact fun f hf => by rw [messageFrames_opcode hf u, decide_eq_false hu]; exact Bool.false_ne_true

def Holding (pieces : List Piece) (buf : Buf 1024) : Prop :=
  ∀ a, a < 1024 → buf.rd (fun _ => 0) a = byteAt pieces a

theorem Holding.store {h : List Piece} {buf : Buf 1024} (hbuf : Holding h buf) (p : Piece) :
    Holding (p :: h) (buf.memcpy (16 * (p.number % 64)) p.audio 16) := by
  intro a ha
  rw [Buf.rd_memcpy]
  unfold byteAt newest
  rw [List.find?_cons]
  by_cases hat : p.number % 64 = a / 16
  · rw [if_pos ⟨by omega, by omega, ha⟩, decide_eq_true hat]
    show _ = p.audio (a % 16)
    congr 1
    omega
  · rw [if_neg (by omega), decide_eq_false hat]
    exact hbuf a ha

theorem pieces_snoc (ms : List Message) (m : Message) :
    pieces (ms ++ [m]) = notePiece (pieces ms) m := List.foldl_append

theorem notePiece_audio {m : Message} (hr : m.role = .audio) (h : List Piece) :
    notePiece h m = ⟨m.upload, h.countP (·.upload = m.upload), m.audioByte⟩ :: h := by
  rw [notePiece, hr]

theorem notePiece_plain {m : Message} (hr : m.role ≠ .audio) (h : List Piece) :
    notePiece h m = h := by
  unfold notePiece
  split
  · exact absurd ‹_› hr
  · rfl

theorem ownMessages_cons (u : AudioUpload) (m : Message) (ms : List Message) :
    ownMessages u (m :: ms) = if m.upload = u then m :: ownMessages u ms else ownMessages u ms := by
  unfold ownMessages
  rw [List.filter_cons]
  by_cases hu : m.upload = u
  · rw [if_pos hu, if_pos (decide_eq_true hu)]
  · rw [if_neg hu, if_neg (by rw [decide_eq_false hu]; exact Bool.false_ne_true)]

theorem ownMessages_append (u : AudioUpload) (ms ms' : List Message) :
    ownMessages u (ms ++ ms') = ownMessages u ms ++ ownMessages u ms' := List.filter_append ..

def progress (u : AudioUpload) (done : List Message) : Nat := (ownMessages u done).length

theorem progress_snoc (u : AudioUpload) (done : List Message) (m : Message) :
    progress u (done ++ [m]) = progress u done + if m.upload = u then 1 else 0 := by
  unfold progress
  rw [ownMessages_append, List.length_append, ownMessages_cons]
  by_cases hu : m.upload = u
  · rw [if_pos hu, if_pos hu]
    rfl
  · rw [if_neg hu, if_neg hu]
    rfl

theorem Interleaved.next {n : AudioUpload → Nat} {done rest : List Message} {m : Message}
    (h : Interleaved n (done ++ m :: rest)) : m.Plays (n m.upload) ∧
      (script m.upload (n m.upload))[progress m.upload done]? = some m.role := by
  have hsession := h.session m.upload
  have hsplit : ownMessages m.upload (done ++ m :: rest) =
      ownMessages m.upload done ++ m :: ownMessages m.upload rest := by
    rw [ownMessages_append, ownMessages_cons, if_pos rfl]
  rw [hsplit] at hsession
  refine ⟨(hsession.own m (List.mem_append_right _ (.head _))).2, ?_⟩
  rw [← hsession.roles, List.map_append, progress,
    List.getElem?_append_right (Nat.le_of_eq (List.length_map _)), List.length_map,
    Nat.sub_self]
  rfl

def Counted (n : AudioUpload → Nat) (done : List Message) : Prop :=
  ∀ v, (pieces done).countP (·.upload = v) = min (progress v done - 1) (audioCount (n v))

theorem Counted.note {n : AudioUpload → Nat} {done : List Message} {m : Message}
    (h : Counted n done)
    (hrole : (script m.upload (n m.upload))[progress m.upload done]? = some m.role) :
    Counted n (done ++ [m]) := by
  intro v
  have hv := h v
  rw [pieces_snoc, progress_snoc]
  by_cases hu : m.upload = v
  · subst hu
    rw [if_pos rfl]
    rcases script_cases hrole with ⟨hr, h0⟩ | ⟨hr, _, _⟩ | ⟨_, hr, _⟩ | ⟨_, ⟨hr, _⟩ | ⟨hr, _⟩⟩
    · rw [notePiece_plain (by rw [hr]; nofun), hv, h0]
    · rw [notePiece_audio hr, List.countP_cons, if_pos (decide_eq_true rfl), hv]
      omega
    all_goals
      rw [notePiece_plain (by rw [hr]; nofun), hv]
      omega
  · rw [if_neg hu, Nat.add_zero, ← hv]
    by_cases hr : m.role = .audio
    · rw [notePiece_audio hr, List.countP_cons, if_neg (fun hv => hu (of_decide_eq_true hv)),
        Nat.add_zero]
    · rw [notePiece_plain hr]

theorem Counted.number {n : AudioUpload → Nat} {done : List Message} {m : Message}
    (h : Counted n done)
    (hrole : (script m.upload (n m.upload))[progress m.upload done]? = some m.role)
    (hr : m.role = .audio) :
    (pieces done).countP (·.upload = m.upload) = progress m.upload done - 1 := by
  rw [h m.upload]
  rcases script_cases hrole with ⟨hr', _⟩ | ⟨_, _, _⟩ | ⟨_, hr', _⟩ | ⟨_, ⟨hr', _⟩ | ⟨hr', _⟩⟩
  · rw [hr] at hr'
    cases hr'
  · omega
  all_goals
    rw [hr] at hr'
    cases hr'

theorem Holding.note {h : List Piece} {buf : Buf 1024} {m : Message} {j : Nat}
    (hbuf : Holding h buf)
    (hnumber : m.role = .audio → h.countP (·.upload = m.upload) = j - 1) :
    Holding (notePiece h m) (bufferAfter j m buf) := by
  by_cases hr : m.role = .audio
  · rw [notePiece_audio hr, hnumber hr, bufferAfter, hr]
    exact hbuf.store ⟨m.upload, j - 1, m.audioByte⟩
  · rw [notePiece_plain hr]
    unfold bufferAfter
    split
    · exact absurd ‹_› hr
    · exact hbuf

theorem ownPieces_note (u : AudioUpload) (h : List Piece) (m : Message) :
    ownPieces u (notePiece h m) =
      if m.upload = u then notePiece (ownPieces u h) m else ownPieces u h := by
  by_cases hr : m.role = .audio
  · rw [notePiece_audio hr, notePiece_audio hr]
    unfold ownPieces
    rw [List.filter_cons]
    by_cases hu : m.upload = u
    · subst hu
      rw [if_pos rfl, if_pos (decide_eq_true rfl), List.countP_filter]
      congr 3
      funext p
      exact (Bool.and_self _).symm
    · rw [if_neg hu, if_neg fun hv => hu (of_decide_eq_true hv)]
  · rw [notePiece_plain hr, notePiece_plain hr, ite_self]

theorem alwaysIntact_note {u : AudioUpload} {n : Nat} {h : List Piece} {m : Message} :
    AlwaysIntact u n (notePiece h m) ↔
      AlwaysIntact u n h ∧ (m.role = .audio → Intact u n (notePiece h m)) := by
  by_cases hr : m.role = .audio
  · rw [notePiece_audio hr]
    constructor
    · exact fun hall => ⟨fun h' hh' => hall h' (hh'.trans (List.suffix_cons _ _)),
        fun _ => hall _ (List.suffix_refl _)⟩
    · rintro ⟨hall, hnew⟩ h' hh'
      rcases List.suffix_cons_iff.mp hh' with rfl | hh'
      · exact hnew hr
      · exact hall h' hh'
  · rw [notePiece_plain hr]
    exact ⟨fun hall => ⟨hall, fun hr' => absurd hr' hr⟩, And.left⟩

theorem messageFrames_length (n j : Nat) (m : Message) (buf buf' : Buf 1024) :
    (messageFrames n j m buf).length = (messageFrames n j m buf').length := by
  unfold messageFrames
  split
  · simp only [audioFrame, Option.length_toList, Option.isSome_map]
  · rfl

theorem messageFrames_eq_iff {n j : Nat} {m : Message} {h : List Piece} {buf buf' : Buf 1024}
    (hbuf : Holding (notePiece h m) buf)
    (hown : Holding (ownPieces m.upload (notePiece h m)) buf')
    (hnumber : m.role = .audio → h.countP (·.upload = m.upload) = j - 1) :
    messageFrames n j m buf = messageFrames n j m buf' ↔
      (m.role = .audio → Intact m.upload n (notePiece h m)) := by
  by_cases hr : m.role = .audio
  · rw [notePiece_audio hr, hnumber hr] at hbuf hown ⊢
    have hplace : ∀ k, chunkSize n (j - 1) = some k → ∀ x, x < k →
        256 * ((j - 1) / 16 % 4) + x < 1024 := by
      intro k hk x hx
      have hle := chunkSize_le hk
      omega
    rw [messageFrames, messageFrames, hr, audioFrame_eq_iff]
    constructor
    · intro hsame _ _ k hk x hx
      rw [← hbuf _ (hplace k hk x hx), ← hown _ (hplace k hk x hx)]
      exact hsame k hk x hx
    · intro hintact k hk x hx
      rw [hbuf _ (hplace k hk x hx), hown _ (hplace k hk x hx)]
      exact hintact rfl rfl k hk x hx
  · refine iff_of_true ?_ fun hr' => absurd hr' hr
    unfold messageFrames
    split
    · exact absurd ‹_› hr
    · rfl

structure Underway (n : AudioUpload → Nat) (done : List Message) (g : Globals) : Prop where
  position : ∀ v, Position v (n v) (progress v done) g.ble.voice
  counted : Counted n done
  buffer : Holding (pieces done) g.ble.voice.voiceDataBuffer

structure Shared (u : AudioUpload) (n : AudioUpload → Nat) (done : List Message)
    (g g' : Globals) : Prop extends Underway n done g where
  alone : Position u (n u) (progress u done) g'.ble.voice
  own : Holding (ownPieces u (pieces done)) g'.ble.voice.voiceDataBuffer
  length : (g.env.io.filter (hasOpcode (rawOpcode u))).length = g'.env.io.length
  io : g.env.io.filter (hasOpcode (rawOpcode u)) = g'.env.io ↔
    AlwaysIntact u (n u) (pieces done)

theorem boot_holding : Holding [] Globals.boot.ble.voice.voiceDataBuffer :=
  fun _ ha => Buf.rd_of_lt _ _ ha

theorem boot_shared (u : AudioUpload) (n : AudioUpload → Nat) : Shared u n [] .boot .boot where
  position v := (boot_ready v).position (n v)
  counted _ := (Nat.zero_min _).symm
  buffer := boot_holding
  alone := (boot_ready u).position (n u)
  own := boot_holding
  length := rfl
  io := iff_of_true rfl fun h hh => by
    rw [List.suffix_nil.mp hh]
    trivial

section Step

variable {u : AudioUpload} {n : AudioUpload → Nat} {done : List Message} {g g' : Globals}
  {m : Message}

theorem Underway.step (h : Underway n done g)
    (hrole : (script m.upload (n m.upload))[progress m.upload done]? = some m.role)
    (hstep : Stepped (n m.upload) (progress m.upload done) m g (g.meet m.moment)) :
    Underway n (done ++ [m]) (g.meet m.moment) where
  position v := by
    rw [progress_snoc]
    by_cases hv : m.upload = v
    · subst hv
      rw [if_pos rfl]
      exact hstep.position
    · rw [if_neg hv]
      exact hstep.other v _ _ (Ne.symm hv) (h.position v)
  counted := h.counted.note hrole
  buffer := by
    rw [hstep.buffer, pieces_snoc]
    exact h.buffer.note (h.counted.number hrole)

theorem Shared.step_other (h : Shared u n done g g') (hne : m.upload ≠ u)
    (hrole : (script m.upload (n m.upload))[progress m.upload done]? = some m.role)
    (hstep : Stepped (n m.upload) (progress m.upload done) m g (g.meet m.moment)) :
    Shared u n (done ++ [m]) (g.meet m.moment) g' := by
  have hsent : (g.meet m.moment).env.io.filter (hasOpcode (rawOpcode u)) =
      g.env.io.filter (hasOpcode (rawOpcode u)) := by
    rw [hstep.io, List.filter_append, filter_messageFrames, if_neg hne, List.append_nil]
  have hnew : m.role = .audio → Intact u (n u) (notePiece (pieces done) m) := by
    intro hr
    rw [notePiece_audio hr]
    exact fun hu => absurd hu hne
  refine ⟨h.toUnderway.step hrole hstep, ?_, ?_, ?_, ?_⟩
  · rw [progress_snoc, if_neg hne]
    exact h.alone
  · rw [pieces_snoc, ownPieces_note, if_neg hne]
    exact h.own
  · rw [hsent]
    exact h.length
  · rw [hsent, h.io, pieces_snoc, alwaysIntact_note]
    exact ⟨fun hall => ⟨hall, hnew⟩, And.left⟩

theorem Shared.step_own (h : Shared u n done g g') (hu : m.upload = u)
    (hrole : (script m.upload (n m.upload))[progress m.upload done]? = some m.role)
    (hstep : Stepped (n m.upload) (progress m.upload done) m g (g.meet m.moment))
    (hstep' : Stepped (n m.upload) (progress m.upload done) m g' (g'.meet m.moment)) :
    Shared u n (done ++ [m]) (g.meet m.moment) (g'.meet m.moment) := by
  subst hu
  have hnumber := h.counted.number hrole
  have hunder := h.toUnderway.step hrole hstep
  have hown : Holding (ownPieces m.upload (pieces (done ++ [m])))
      (g'.meet m.moment).ble.voice.voiceDataBuffer := by
    rw [pieces_snoc, ownPieces_note, if_pos rfl, hstep'.buffer]
    refine h.own.note fun hr => ?_
    rw [← hnumber hr, ownPieces, List.countP_filter]
    exact List.countP_congr fun p _ => by rw [Bool.and_self]
  have hsent : (g.meet m.moment).env.io.filter (hasOpcode (rawOpcode m.upload)) =
      g.env.io.filter (hasOpcode (rawOpcode m.upload)) ++
        messageFrames (n m.upload) (progress m.upload done) m
          (g.meet m.moment).ble.voice.voiceDataBuffer := by
    rw [hstep.io, List.filter_append, filter_messageFrames, if_pos rfl]
  refine ⟨hunder, ?_, hown, ?_, ?_⟩
  · rw [progress_snoc, if_pos rfl]
    exact hstep'.position
  · rw [hsent, hstep'.io, List.length_append, List.length_append, h.length,
      messageFrames_length _ _ _ _ (g'.meet m.moment).ble.voice.voiceDataBuffer]
  · have hbuffer := hunder.buffer
    rw [pieces_snoc] at hown hbuffer ⊢
    rw [hsent, hstep'.io, alwaysIntact_note, ← h.io, ← messageFrames_eq_iff hbuffer hown hnumber]
    constructor
    · exact fun hsame => List.append_inj hsame h.length
    · rintro ⟨hold, hnew⟩
      rw [hold, hnew]

end Step

theorem Interleaved.bound {n : AudioUpload → Nat} {ms : List Message} (h : Interleaved n ms)
    (u : AudioUpload) : 1 ≤ n u ∧ n u < 2 ^ 18 := ⟨(h.session u).pos, (h.session u).bound⟩

theorem Shared.run {u : AudioUpload} {n : AudioUpload → Nat} {done rest : List Message}
    {g g' : Globals} (h : Shared u n done g g') (hms : Interleaved n (done ++ rest)) :
    Shared u n (done ++ rest) (g.meets (rest.map Message.moment))
      (g'.meets ((ownMessages u rest).map Message.moment)) := by
  induction rest generalizing done g g' with
  | nil =>
    rw [List.append_nil]
    exact h
  | cons m rest ih =>
    obtain ⟨hplays, hrole⟩ := hms.next
    obtain ⟨hpos, hn⟩ := hms.bound m.upload
    have hstep := message_step hplays hpos hn hrole (h.position m.upload)
    have hsplit : done ++ m :: rest = done ++ [m] ++ rest := by
      rw [List.append_assoc]
      rfl
    rw [hsplit] at hms ⊢
    rw [ownMessages_cons, List.map_cons, Globals.meets_cons]
    by_cases hu : m.upload = u
    · have halone := h.alone
      rw [← hu] at halone
      have hstep' := message_step hplays hpos hn hrole halone
      rw [if_pos hu, List.map_cons, Globals.meets_cons]
      exact ih (h.step_own hu hrole hstep hstep') hms
    · rw [if_neg hu]
      exact ih (h.step_other hu hrole hstep) hms

theorem sendsAsAlone_iff {n : AudioUpload → Nat} {ms : List Message} (h : Interleaved n ms)
    (u : AudioUpload) : SendsAsAlone u ms ↔ AlwaysIntact u (n u) (pieces ms) := by
  have hshared := @(boot_shared u n).run _ _ _ ms _ _ h
  rw [List.nil_append] at hshared
  exact hshared.io

/-- Two uploads at the same time both come out as they would alone just in case no chunk of one
holds audio of the other when it is sent. -/
theorem uploads_apart_iff {n : AudioUpload → Nat} {ms : List Message} (h : Interleaved n ms) :
    (∀ u, SendsAsAlone u ms) ↔ ∀ u, AlwaysIntact u (n u) (pieces ms) :=
  forall_congr' (sendsAsAlone_iff h)

theorem byteAt_newest (p : Piece) (earlier : List Piece) {x : Nat} (hx : x < 16) :
    byteAt (p :: earlier) (16 * (p.number % 64) + x) = p.audio x := by
  unfold byteAt newest
  rw [List.find?_cons, decide_eq_true (by omega)]
  show p.audio _ = _
  congr 1
  omega

theorem intact_of_first {u : AudioUpload} {n : Nat} {p : Piece} (hfirst : p.number % 16 = 0)
    (earlier : List Piece) : Intact u n (p :: earlier) := by
  intro hu k hk x hx
  have hsmall : k < 16 := by
    unfold chunkSize at hk
    rw [hfirst, if_neg (show ¬ 0 = 15 by decide)] at hk
    split at hk
    · cases hk
      omega
    · cases hk
  have hplace : 256 * (p.number / 16 % 4) + x = 16 * (p.number % 64) + x := by omega
  have hown : ownPieces u (p :: earlier) = p :: ownPieces u earlier := by
    unfold ownPieces
    rw [List.filter_cons, if_pos (decide_eq_true hu)]
  rw [hplace, hown, byteAt_newest p _ (by omega), byteAt_newest p _ (by omega)]

theorem interleaved_of {n : AudioUpload → Nat} {ms : List Message} (hpos : ∀ u, 1 ≤ n u)
    (hplays : ∀ m ∈ ms, m.Plays (n m.upload))
    (hroles : ∀ u, (ownMessages u ms).map Message.role = script u (n u)) : Interleaved n ms where
  session u := by
    refine ⟨hpos u, fun m hm => ?_, hroles u⟩
    obtain ⟨hm, hu⟩ := List.mem_filter.mp hm
    have hu := of_decide_eq_true hu
    exact ⟨hu, hu ▸ hplays m hm⟩

theorem probe_opens_one (u : AudioUpload) : (probeMessage u .opens [3, 0, 0, 1]).Plays 1 := by
  cases u <;> exact ⟨rfl, .inl ⟨rfl, rfl⟩⟩

def briefUploads : List Message :=
  [probeMessage .recordVoice .opens [3, 0, 0, 1], probeMessage .addressVisiting .opens [3, 0, 0, 1],
    probeMessage .recordVoice .audio [1, 1], probeMessage .addressVisiting .audio [1, 9],
    probeMessage .addressVisiting .stamps [0], probeMessage .recordVoice .closes [8],
    probeMessage .addressVisiting .closes [8]]

theorem briefUploads_interleaved : Interleaved (fun _ => 1) briefUploads := by
  refine interleaved_of (fun _ => Nat.le_refl 1) ?_ fun u => by cases u <;> rfl
  intro m hm
  simp only [briefUploads, List.mem_cons, List.not_mem_nil, or_false] at hm
  rcases hm with rfl | rfl | rfl | rfl | rfl | rfl | rfl
  · exact probe_opens_one _
  · exact probe_opens_one _
  · exact probe_audio _ _ 1
  · exact probe_audio _ _ 9
  · exact (probe_ends (u := .addressVisiting) (.head _)).2
  · exact (probe_ends (u := .recordVoice) (.head _)).2
  · exact (probe_ends (u := .addressVisiting) (.tail _ (.head _))).2

/-- Each upload sends its byte before the other stores its own. -/
theorem briefUploads_apart :
    SendsAsAlone .recordVoice briefUploads ∧ SendsAsAlone .addressVisiting briefUploads := by
  have hnumbers : (pieces briefUploads).map Piece.number = List.replicate 2 0 := rfl
  have hintact : ∀ u, AlwaysIntact u 1 (pieces briefUploads) := by
    intro u h hh
    cases h with
    | nil => trivial
    | cons p earlier =>
      have hp : p.number ∈ List.replicate 2 0 := hnumbers ▸ List.mem_map_of_mem (hh.mem (.head _))
      exact intact_of_first (by rw [List.eq_of_mem_replicate hp]) earlier
  have hapart := (uploads_apart_iff briefUploads_interleaved).mpr hintact
  exact ⟨hapart .recordVoice, hapart .addressVisiting⟩

/-- The recording's first 16 bytes wait for its last one; meanwhile the other upload comes and
takes their place. -/
def crossedUploads : List Message :=
  [probeMessage .recordVoice .opens [3, 0, 0, 17], probeMessage .recordVoice .audio [1, 1],
    probeMessage .addressVisiting .opens [3, 0, 0, 1], probeMessage .addressVisiting .audio [1, 9],
    probeMessage .recordVoice .audio [1, 2], probeMessage .recordVoice .closes [8],
    probeMessage .addressVisiting .stamps [0], probeMessage .addressVisiting .closes [8]]

def crossedLength : AudioUpload → Nat
  | .recordVoice => 17
  | .addressVisiting => 1

theorem crossedUploads_interleaved : Interleaved crossedLength crossedUploads := by
  refine interleaved_of (fun u => by cases u <;> decide) ?_ fun u => by cases u <;> rfl
  intro m hm
  simp only [crossedUploads, List.mem_cons, List.not_mem_nil, or_false] at hm
  rcases hm with rfl | rfl | rfl | rfl | rfl | rfl | rfl | rfl
  · exact probe_opens .recordVoice
  · exact probe_audio _ _ 1
  · exact probe_opens_one .addressVisiting
  · exact probe_audio _ _ 9
  · exact probe_audio _ _ 2
  · exact (probe_ends (u := .recordVoice) (.head _)).2
  · exact (probe_ends (u := .addressVisiting) (.head _)).2
  · exact (probe_ends (u := .addressVisiting) (.tail _ (.head _))).2

theorem crossedUploads_mixed :
    ¬ ∀ n ms, Interleaved n ms → ∀ u, SendsAsAlone u ms := by
  intro hevery
  have halone := hevery _ _ crossedUploads_interleaved .recordVoice
  have hall := (sendsAsAlone_iff crossedUploads_interleaved .recordVoice).mp halone
  have hbyte := hall (pieces crossedUploads) (List.suffix_refl _) rfl 17 rfl 0 (by decide)
  revert hbyte
  decide

end EspBridges.Ccu
