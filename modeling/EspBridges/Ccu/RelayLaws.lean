import EspBridges.Ccu.MemoryTraces

namespace EspBridges.Ccu

open Bytes

def slice (message : List Byte) (off len : Nat) : List Byte :=
  (List.range len).map fun i => message.getD (off + i) 0

/-- The frame a registration or an emergency number goes out in; the unique id starts where
the others have their length byte. -/
def relayedFrame (message : List Byte) : Option (List Byte) :=
  let d := message.getD 3 0
  let l := message.getD 4 0
  match Cid.ofByte? (message.getD 2 0) with
  | some .register =>
    if d = 4 then some ([0x01, 0x2C, 0x00, 0x04, 0x10] ++ slice message 4 16)
    else if d ∈ [1, 2, 3, 5, 6, 7, 8] ∧ l.toNat ≤ 15 then
      some ([0x01, 0x2C, 0x00, d, l] ++ slice message 5 l.toNat)
    else none
  | some .storeEmergencyNumbers =>
    if (d = 1 ∨ d = 2) ∧ l.toNat ≤ 15 then
      some ([0x06, 0x2C, 0x00, d + 1, l] ++ slice message 5 l.toNat)
    else none
  | _ => none

theorem bytes_messageOf (message : List Byte) (w : Wild Obj) {off len : Nat}
    (h : off + len ≤ 30) : ((messageOf message w).shift off).bytes len = slice message off len := by
  apply List.map_congr_left
  intro i hi
  have hlt := List.mem_range.mp hi
  exact messageOf_byte message w (by omega)

theorem bytes_bleCommandView (message : List Byte) (w : Wild Obj) {off len : Nat}
    (h : off + len ≤ 17) :
    ((bleCommandView message w).shift off).bytes len = slice message (3 + off) len := by
  apply List.map_congr_left
  intro i hi
  have hlt := List.mem_range.mp hi
  show (bleCommandView message w).byte (off + i) = _
  rw [bleCommandView_byte message w (by omega), Nat.add_assoc]

theorem bytes_getD (v : View) (len : Nat) : ∀ i, i < (v.bytes len).length →
    v.byte i = (v.bytes len).getD i 0 := by
  intro i hi
  rw [List.getD_eq_getElem?_getD, List.getElem?_eq_getElem hi, View.getElem_bytes]
  rfl

section Frames

variable {w : Wild Obj}

theorem sendRegMsgNew_frame (type : Byte) (v : View) {len : Nat} (h : len ≤ 20) :
    (ccuSendRegMsgNew type v len w).frame w =
      [0x01, 44, 0, type, UInt8.ofNat len] ++ v.bytes len := by
  have hmod : len % 256 = len := Nat.mod_eq_of_lt (by omega)
  unfold ccuSendRegMsgNew
  rw [hmod]
  have htx := (protocolHdr_startsWith (Buf.zero : Buf 25) btCpOpcodeCidRegister type
    (UInt8.ofNat len)).memcpy rfl (View.length_bytes v len).symm (bytes_getD v len)
  refine Tx.frame_of_startsWith htx ?_ ?_ ?_ _ w
  · simp
    omega
  · simp
    omega
  · simp
    omega

theorem numberMsg_frame (opcode type : Byte) (v : View) (h : (v.byte 4).toNat ≤ 15) :
    (numberMsg opcode (some type) v w).frame w =
      [opcode, 44, 0, type, v.byte 4] ++ (v.shift 5).bytes (v.byte 4).toNat := by
  unfold numberMsg
  have htx := (protocolHdr_startsWith (uninitialised w .pTxBuffer : Buf 20) opcode type
    (v.byte 4)).memcpy rfl (View.length_bytes (v.shift 5) (v.byte 4).toNat).symm
    (bytes_getD (v.shift 5) (v.byte 4).toNat)
  refine Tx.frame_of_startsWith htx ?_ ?_ ?_ _ w
  · simp
    omega
  · simp
    omega
  · simp
    omega

end Frames

section Relay

variable {iMsg iCmd : View} (g : Globals)

theorem register_io {t : Byte} (ht : iCmd.byte 0 = t) (hplain : t ∈ [1, 2, 3, 5, 6, 7, 8]) :
    (dispatch (some .register) iMsg iCmd g).env.io = g.env.io ++
      [.tx ((ccuSendRegMsgNew t (iCmd.shift 2) (iCmd.byte 1).toNat g.env.wild).frame
        g.env.wild)] := by
  unfold dispatch executeRegister
  rw [ht]
  simp only [List.mem_cons, List.not_mem_nil, or_false] at hplain
  rcases hplain with rfl | rfl | rfl | rfl | rfl | rfl | rfl <;> rfl

theorem registerUniqueId_io (ht : iCmd.byte 0 = 4) :
    (dispatch (some .register) iMsg iCmd g).env.io = g.env.io ++
      [.tx ((ccuSendRegMsgNew 4 (iCmd.shift 1) 16 g.env.wild).frame g.env.wild)] := by
  unfold dispatch executeRegister
  rw [ht]
  rfl

end Relay

theorem Slots.relayed {frame : Nat} {ws : List (Nat × List Byte)} {g : Globals}
    (h : Slots frame ws g) {message f : List Byte} (hf : relayedFrame message = some f) :
    (gattsWriteEvt false frame message g).env.io = g.env.io ++ [.tx f] := by
  have hrec := received_spec frame message g
  have hio := hrec.io
  have hwild := hrec.wild
  have hfull := recvdMsgFull_received message h.pointer
  have htype := bleCommandView_byte message g.env.wild (i := 0) (by omega)
  have hlen : (bleCommandView message g.env.wild).byte 1 = message.getD 4 0 :=
    bleCommandView_byte message g.env.wild (by omega)
  unfold relayedFrame at hf
  dsimp only at hf
  rw [gattsWriteEvt_eq]
  generalize received frame message g = g₁ at *
  rw [← hwild] at htype hlen hfull ⊢
  rw [← hio]
  split at hf
  case h_1 hcmd =>
    rw [hcmd]
    split at hf
    case isTrue ht =>
      obtain rfl := Option.some.inj hf
      rw [registerUniqueId_io g₁ (htype.trans ht), sendRegMsgNew_frame _ _ (by decide),
        bytes_bleCommandView message _ (by decide)]
      rfl
    case isFalse =>
      obtain ⟨⟨hplain, hfit⟩, hf⟩ := Option.ite_none_right_eq_some.mp hf
      obtain rfl := Option.some.inj hf
      rw [register_io g₁ htype hplain, hlen, sendRegMsgNew_frame _ _ (by omega),
        bytes_bleCommandView message _ (by omega), UInt8.ofNat_toNat]
  case h_2 hcmd =>
    rw [hcmd]
    obtain ⟨⟨ht, hfit⟩, hf⟩ := Option.ite_none_right_eq_some.mp hf
    obtain rfl := Option.some.inj hf
    have htype' : emergencyType ((messageOf message g₁.env.wild).byte 3) =
        some (message.getD 3 0 + 1) := by
      rw [messageOf_byte _ _ (by decide)]
      rcases ht with ht | ht <;> rw [ht] <;> rfl
    have hlen' := messageOf_byte message g₁.env.wild (i := 4) (by decide)
    rw [storeEmergencyNumber_io g₁ (by rwa [htype]), hfull, htype',
      numberMsg_frame _ _ _ (by rw [hlen']; omega), hlen', bytes_messageOf message _ (by omega)]
  case h_3 => cases hf

/-- The registrations and emergency numbers that declare a length; the unique id does not. -/
def declaresLength (message : List Byte) : Prop :=
  Cid.ofByte? (message.getD 2 0) = some .register ∧ message.getD 3 0 ∈ [1, 2, 3, 5, 6, 7, 8] ∨
    Cid.ofByte? (message.getD 2 0) = some .storeEmergencyNumbers ∧ message.getD 3 0 ∈ [1, 2]

/-- The length that is declared is beyond what a message holds. -/
def overlong (message : List Byte) : Prop := declaresLength message ∧ 15 < dataLen message

def relayTraffic : Io → Option (List Byte)
  | .tx frame =>
    if frame.head? = some btCpOpcodeCidRegister ∨
      frame.head? = some btCpOpcodeCidStoreEmergencyNumbers then some frame else none
  | .rx _ _ => none

def relayedBy (e : Event) : Option (List Byte) :=
  match e.action with
  | .gattWrite false _ message => relayedFrame message
  | _ => none

theorem relayTraffic_of_head {frame : List Byte}
    (h : frame.head? = some btCpOpcodeCidRegister ∨
      frame.head? = some btCpOpcodeCidStoreEmergencyNumbers) :
    relayTraffic (.tx frame) = some frame := if_pos h

theorem relayTraffic_relayed {message f : List Byte} (h : relayedFrame message = some f) :
    relayTraffic (.tx f) = some f := by
  unfold relayedFrame at h
  dsimp only at h
  split at h
  case h_1 =>
    split at h
    case isTrue =>
      obtain rfl := Option.some.inj h
      exact relayTraffic_of_head (.inl rfl)
    case isFalse =>
      obtain ⟨_, h⟩ := Option.ite_none_right_eq_some.mp h
      obtain rfl := Option.some.inj h
      exact relayTraffic_of_head (.inl rfl)
  case h_2 =>
    obtain ⟨_, h⟩ := Option.ite_none_right_eq_some.mp h
    obtain rfl := Option.some.inj h
    exact relayTraffic_of_head (.inr rfl)
  case h_3 => cases h

theorem relayedFrame_of_requests {g : Globals} {message : List Byte} {cmd : Cid}
    (hcmd : Cid.ofByte? (message.getD 2 0) = some cmd)
    (hrelay : cmd = .register ∨ cmd = .storeEmergencyNumbers)
    (hsends : requests g (message.getD 3 0) (some cmd) = true) (hfit : ¬ overlong message) :
    ∃ f, relayedFrame message = some f := by
  have hlen : declaresLength message → (message.getD 4 0).toNat ≤ 15 :=
    fun hdeclares => Nat.not_lt.mp fun hlong => hfit ⟨hdeclares, hlong⟩
  unfold relayedFrame
  dsimp only
  rw [hcmd]
  rcases hrelay with rfl | rfl
  · by_cases hid : message.getD 3 0 = 4
    · exact ⟨_, if_pos hid⟩
    · have hplain : message.getD 3 0 ∈ [1, 2, 3, 5, 6, 7, 8] := by
        simp only [requests, Cid.dataTypes, decide_eq_true_eq, List.mem_cons, List.not_mem_nil,
          or_false] at hsends ⊢
        simpa only [hid, false_or] using hsends
      exact ⟨_, (if_neg hid).trans (if_pos ⟨hplain, hlen (.inl ⟨hcmd, hplain⟩)⟩)⟩
  · have hplain : message.getD 3 0 = 1 ∨ message.getD 3 0 = 2 := by
      simpa [requests] using hsends
    exact ⟨_, if_pos ⟨hplain, hlen (.inr ⟨hcmd, by simpa using hplain⟩)⟩⟩

theorem Traffic.relay_nothing {g : Globals} {e : Event} {more : List Io}
    (h : Traffic g e.action more) (hnone : relayedBy e = none)
    (hfit : ∀ addr message, e.action = .gattWrite false addr message → ¬ overlong message) :
    more.filterMap relayTraffic = [] := by
  have hskip : ∀ {frame : List Byte} {opcode : Byte}, frame.head? = some opcode →
      opcode ≠ btCpOpcodeCidRegister → opcode ≠ btCpOpcodeCidStoreEmergencyNumbers →
      [Io.tx frame].filterMap relayTraffic = [] := by
    intro frame opcode head hreg hnum
    have hnone : relayTraffic (.tx frame) = none := by
      refine if_neg ?_
      rw [head]
      exact fun h => h.elim (fun h => hreg (Option.some.inj h)) fun h => hnum (Option.some.inj h)
    rw [List.filterMap_cons_none hnone, List.filterMap_nil]
  cases h with
  | quiet => rfl
  | packet ccuMsg length => rfl
  | notice hopcode head =>
    simp only [List.mem_cons, List.not_mem_nil, or_false] at hopcode
    rcases hopcode with rfl | rfl | rfl <;> exact hskip head (by decide) (by decide)
  | @request addr message _ cmd write hcmd sends head =>
    by_cases hrelay : cmd = .register ∨ cmd = .storeEmergencyNumbers
    · obtain ⟨f, hf⟩ := relayedFrame_of_requests hcmd hrelay sends (hfit addr message write)
      unfold relayedBy at hnone
      rw [write] at hnone
      exact nomatch hnone.symm.trans hf
    · refine hskip head ?_ ?_
      · cases cmd <;> first | decide | exact absurd (.inl rfl) hrelay
      · cases cmd <;> first | decide | exact absurd (.inr rfl) hrelay

section Runs

variable {frame : Nat} {es : List Event} {b : Bridge}

theorem step_relays {ws : List (Nat × List Byte)} {b' : Bridge} {e : Event}
    (h : Slots frame ws b.glob) (hs : step b e = some b')
    (hframe : SameBuffer frame (noteWrite ws e))
    (hfit : ∀ addr message, e.action = .gattWrite false addr message → ¬ overlong message) :
    b'.glob.env.io.filterMap relayTraffic =
      b.glob.env.io.filterMap relayTraffic ++ (relayedBy e).toList := by
  cases hrelayed : relayedBy e with
  | none =>
    obtain ⟨more, hio, htraffic⟩ := step_traffic hs
    rw [hio, List.filterMap_append, htraffic.relay_nothing hrelayed hfit]
    rfl
  | some f =>
    unfold relayedBy at hrelayed
    split at hrelayed
    case h_2 => cases hrelayed
    case h_1 addr message he =>
      unfold noteWrite at hframe
      rw [he] at hframe
      obtain rfl : addr = frame := hframe (addr, message) List.mem_cons_self
      obtain ⟨_, rfl⟩ := step_eq_some hs
      have hio := (h.at e).relayed hrelayed
      rw [he]
      show (gattsWriteEvt false addr message (b.at e).glob).env.io.filterMap relayTraffic = _
      rw [hio, List.filterMap_append, List.filterMap_cons_some (relayTraffic_relayed hrelayed)]
      rfl

structure Relayable (frame : Nat) (es : List Event) : Prop where
  sameBuffer : SameBuffer frame (writes es)
  fit : ∀ w ∈ writes es, ¬ overlong w.2

theorem writes_snoc (es : List Event) (e : Event) :
    writes (es ++ [e]) = noteWrite (writes es) e := by
  unfold writes
  rw [List.foldl_append]
  rfl

theorem mem_noteWrite {ws : List (Nat × List Byte)} {e : Event} (hw : w ∈ ws) :
    w ∈ noteWrite ws e := by
  unfold noteWrite
  split
  · exact List.mem_cons_of_mem _ hw
  · exact hw

theorem Relayable.init {e : Event} (h : Relayable frame (es ++ [e])) : Relayable frame es := by
  obtain ⟨hframe, hfit⟩ := h
  rw [writes_snoc] at hframe hfit
  exact ⟨sameBuffer_of_event _ e hframe, fun w hw => hfit w (mem_noteWrite hw)⟩

structure RelayedSoFar (frame : Nat) (es : List Event) (b : Bridge) : Prop where
  slots : Slots frame (writes es) b.glob
  inOrder : b.glob.env.io.filterMap relayTraffic = es.filterMap relayedBy

theorem RelayedSoFar.step {b' : Bridge} {e : Event} (h : RelayedSoFar frame es b)
    (hs : step b e = some b') (hrelay : Relayable frame (es ++ [e])) :
    RelayedSoFar frame (es ++ [e]) b' := by
  obtain ⟨hframe, hfit⟩ := hrelay
  rw [writes_snoc] at hframe hfit
  have hfit' : ∀ addr message, e.action = .gattWrite false addr message → ¬ overlong message := by
    intro addr message he
    refine hfit (addr, message) ?_
    unfold noteWrite
    rw [he]
    exact List.mem_cons_self
  refine ⟨?_, ?_⟩
  · rw [writes_snoc]
    exact step_slots _ b e b' h.slots hs hframe
  · rw [step_relays h.slots hs hframe hfit', h.inOrder, List.filterMap_append]
    cases hrelayed : relayedBy e with
    | none => rw [List.filterMap_cons_none hrelayed]; rfl
    | some f => rw [List.filterMap_cons_some hrelayed]; rfl

/-- With every message in one buffer a registration or an emergency number goes out as its frame
in every state, and over a run the CCU gets these frames in the order of their messages, each of
them once. -/
theorem relays_exactly (hr : Machine.run step .boot es = some b)
    (hframe : SameBuffer frame (writes es)) :
    (∀ (e : Event) (b' : Bridge) (message f : List Byte),
        e.action = .gattWrite false frame message → relayedFrame message = some f →
        step b e = some b' → b'.glob.env.io = b.glob.env.io ++ [.tx f]) ∧
      ((∀ w ∈ writes es, ¬ overlong w.2) →
        b.glob.env.io.filterMap relayTraffic = es.filterMap relayedBy) := by
  have hslots := run_slots hr hframe
  constructor
  · intro e b' message f he hf hs
    obtain ⟨_, rfl⟩ := step_eq_some hs
    rw [he]
    exact (hslots.at e).relayed hf
  · intro hfit
    have hboot : Slots frame (writes []) Bridge.boot.glob := .start nofun
    have hinv : RelayedSoFar frame es b := Machine.run_history
      (fun past e (h : Relayable frame (past ++ [e])) => h.init)
      (fun past s e s' (h : RelayedSoFar frame past s) hs hrelay => h.step hs hrelay)
      ⟨hboot, rfl⟩ hr ⟨hframe, hfit⟩
    exact hinv.inOrder

end Runs

def uniqueId : List Byte :=
  [0x4D, 1, 0x01, 4, 0x39, 0x37, 0x37, 0x34, 0x64, 0x35, 0x36, 0x64, 0x36, 0x38, 0x32, 0x65, 0x35,
    0x34, 0x39, 0x63]

def firstResponder : List Byte :=
  [0x4D, 1, 0x06, 1, 3, 0x31, 0x31, 0x32, 0, 0, 0, 0, 0, 0, 0, 0, 0, 0, 0, 0]

theorem twoMessages_relayed : ∃ b, Machine.run step .boot (written [uniqueId, firstResponder]) =
    some b ∧ b.glob.env.io.filterMap relayTraffic =
      [[0x01, 0x2C, 0x00, 0x04, 0x10, 0x39, 0x37, 0x37, 0x34, 0x64, 0x35, 0x36, 0x64, 0x36, 0x38,
          0x32, 0x65, 0x35, 0x34, 0x39, 0x63],
        [0x06, 0x2C, 0x00, 2, 3, 0x31, 0x31, 0x32]] := by
  have hserved : (Machine.run step .boot (written [uniqueId, firstResponder])).map
      (·.glob.main.serviceCreated) = some true := by
    decide +kernel
  obtain ⟨b, hb, _⟩ := Option.map_eq_some_iff.mp hserved
  have hwrites := writes_written [uniqueId, firstResponder]
  have hframe : SameBuffer 0 (writes (written [uniqueId, firstResponder])) := by
    rw [hwrites]
    simp [SameBuffer]
  have hfit : ∀ w ∈ writes (written [uniqueId, firstResponder]), ¬ overlong w.2 := by
    rw [hwrites]
    simp [overlong, declaresLength, dataLen, uniqueId, firstResponder]
  exact ⟨b, hb, (relays_exactly hb hframe).2 hfit⟩

end EspBridges.Ccu
