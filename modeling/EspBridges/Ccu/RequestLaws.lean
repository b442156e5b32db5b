import EspBridges.Ccu.MultipartLaws

namespace EspBridges.Ccu

open Bytes

/-- A part that carries `data`; what stands behind the data is the phone's business. -/
structure Carries (c : Multipart) (k : Byte) (data message : List Byte) : Prop where
  part : c.isPart k message = true
  length : message.length ≤ bleMessageSize
  dataLen : dataLen message = data.length
  data : ∀ i, i < data.length → message.getD (5 + i) 0 = data.getD i 0

def NulFree (s : List Byte) : Prop := ∀ x ∈ s, x ≠ 0

theorem NulFree.getD {s : List Byte} (h : NulFree s) (hi : i < s.length) : s.getD i 0 ≠ 0 := by
  rw [List.getD_eq_getElem?_getD, List.getElem?_eq_getElem hi]
  exact h _ (List.getElem_mem hi)

theorem textOf_byte (message : List Byte) (len : Nat) (w : Wild Obj) (o : Obj) (hi : i < 20) :
    ((textOf message len).view w o).byte i = if i < len then message.getD (5 + i) 0 else 0 := by
  show (textOf message len).rd (w.byte o) i = _
  unfold textOf
  rw [Buf.rd_memcpy]
  by_cases hlen : i < len
  · rw [if_pos ⟨Nat.zero_le i, by omega, hi⟩, if_pos hlen, Nat.sub_zero]
  · rw [if_neg (by omega), if_neg hlen, Buf.rd_of_lt _ _ hi]
    rfl

theorem textOf_holds_iff {message data : List Byte} {len : Nat} (w : Wild Obj) (o : Obj)
    (hdata : ∀ i, i < data.length → message.getD (5 + i) 0 = data.getD i 0) (hfree : NulFree data)
    (hroom : data.length < 20) (hlen : len < 20) :
    ((textOf message len).view w o).Holds data ↔
      data.length = len ∨ data.length < len ∧ message.getD (5 + data.length) 0 = 0 := by
  have hcut : ((textOf message len).view w o).byte len = 0 := by
    rw [textOf_byte message len w o hlen, if_neg (Nat.lt_irrefl len)]
  constructor
  · intro h
    have hinside : ((textOf message len).view w o).strlen < 20 := by rwa [h.strlen]
    obtain ⟨hne, hz⟩ := cstrlen_spec hinside
    have hend : ((textOf message len).view w o).byte data.length = 0 := by
      rw [← h.strlen]
      exact hz
    have hle : data.length ≤ len := by
      rw [← h.strlen]
      exact cstrlen_le _ hlen hcut
    rw [textOf_byte message len w o hroom] at hend
    by_cases hlt : data.length < len
    · rw [if_pos hlt] at hend
      exact .inr ⟨hlt, hend⟩
    · exact .inl (by omega)
  · intro h
    have hle : data.length ≤ len := by omega
    have hbyte : ∀ i, i < data.length → ((textOf message len).view w o).byte i = data.getD i 0 := by
      intro i hi
      rw [textOf_byte message len w o (by omega), if_pos (by omega)]
      exact hdata i hi
    refine ⟨cstrlen_eq _ hroom (fun i hi => ?_) ?_, hbyte⟩
    · rw [hbyte i hi]
      exact hfree.getD hi
    · rcases h with rfl | ⟨hlt, hz⟩
      · exact hcut
      · rw [textOf_byte message len w o hroom, if_pos hlt]
        exact hz

def RelaysActivation (lat long stamp : List Byte) (b b' : Bridge) : Prop :=
  ∃ frame, b'.glob.env.io = b.glob.env.io ++ [.tx frame] ∧
    Tlv.decode (frame.drop 3) = some [(tlvTypeActivateLatString, lat),
      (tlvTypeActivateLongString, long), (tlvTypeActivateTimestampString, stamp)]

structure Activation (frame : Nat) (lat long stamp m₁ m₂ m₃ : List Byte) (w : Wild Obj)
    (b b' : Bridge) : Prop where
  pointer : b.glob.ble.flagSetRecvdMsgPtr = true → b.glob.ble.pRecvdMsgFull = frame
  run : ∃ e₁ e₂ e₃ : Event, e₁.action = .gattWrite false frame m₁ ∧
    e₂.action = .gattWrite false frame m₂ ∧ e₃.action = .gattWrite false frame m₃ ∧
    e₃.wild = w ∧ Machine.run step b [e₁, e₂, e₃] = some b'
  lat : Carries .ccuActivate 1 lat m₁ ∧ lat.length ≤ 15 ∧ NulFree lat
  long : Carries .ccuActivate 2 long m₂ ∧ long.length ≤ 15 ∧ NulFree long
  stamp : Carries .ccuActivate 3 stamp m₃ ∧ stamp.length = 10

section Activation

variable {frame : Nat} {lat long stamp m₁ m₂ m₃ : List Byte} {w : Wild Obj} {b b' : Bridge}

theorem Activation.io (h : Activation frame lat long stamp m₁ m₂ m₃ w b b') :
    b'.glob.env.io = b.glob.env.io ++ [.tx ((Multipart.ccuActivate.request
      (fun k => if k = 1 then m₁ else m₂) m₃ w).frame w)] := by
  obtain ⟨e₁, e₂, e₃, h₁, h₂, h₃, rfl, hrun⟩ := h.run
  simp only [Machine.run, Option.bind_eq_some_iff, Option.some.injEq] at hrun
  obtain ⟨b₁, hs₁, b₂, hs₂, b₃, hs₃, rfl⟩ := hrun
  have hslots := Slots.start h.pointer
  obtain ⟨hslots₁, hio₁⟩ := step_earlierPart hslots h₁ hs₁ h.lat.1.part (.head _)
  obtain ⟨hslots₂, hio₂⟩ := step_earlierPart hslots₁ h₂ hs₂ h.long.1.part (.tail _ (.head _))
  have hlong := anyPart_of_isPart h.long.1.part
  rw [← hio₁, ← hio₂]
  refine step_lastPart hslots₂ h₃ hs₃ h.stamp.1.part (by rw [h.stamp.1.dataLen, h.stamp.2]; decide)
    _ fun k hk => ?_
  simp only [Multipart.earlierParts, List.mem_cons, List.not_mem_nil, or_false] at hk
  obtain rfl | rfl := hk
  · rw [latest_cons_of_neg (anyPart_other hlong (by decide)),
      latest_cons_of_pos (anyPart_of_isPart h.lat.1.part)]
    exact ⟨rfl, by rw [if_pos rfl, h.lat.1.dataLen]; exact h.lat.2.1⟩
  · rw [latest_cons_of_pos hlong]
    exact ⟨rfl, by rw [if_neg (by decide), h.long.1.dataLen]; exact h.long.2.1⟩

/-- The frame carries the longitude and the timestamp as they came, and for a latitude the text
that is left of it when it is cut to the longitude's length. -/
theorem Activation.request_frame (h : Activation frame lat long stamp m₁ m₂ m₃ w b b') :
    let text := (textOf m₁ long.length).view w .actLatitude
    (Multipart.ccuActivate.request (fun k => if k = 1 then m₁ else m₂) m₃ w).frame w =
      [btCpOpcodeCidCcuActivate, 44, 0] ++
        Tlv.encode [(tlvTypeActivateLatString, text.bytes text.strlen),
          (tlvTypeActivateLongString, long), (tlvTypeActivateTimestampString, stamp)] ∧
      text.strlen ≤ 15 := by
  dsimp only
  have hlong : long.length < 20 := Nat.lt_of_le_of_lt h.long.2.1 (by decide)
  have hcut : ((textOf m₁ long.length).view w .actLatitude).strlen ≤ long.length := by
    apply cstrlen_le _ hlong
    rw [textOf_byte m₁ long.length w .actLatitude hlong, if_neg (Nat.lt_irrefl _)]
  have hle := h.long.2.1
  refine ⟨?_, by omega⟩
  have hstamp : ∀ i, i < stamp.length → (((uninitialised w .timeStamp : Buf 15).memcpy 0
      (fun i => m₃.getD (5 + i) 0) timestampSize).view w .timeStamp).byte i = stamp.getD i 0 := by
    intro i hi
    have hten := h.stamp.2
    rw [Buf.view_byte, Buf.rd_memcpy, if_pos ⟨Nat.zero_le i, by simp; omega, by omega⟩,
      Nat.sub_zero]
    exact h.stamp.1.data i hi
  have hkept := (textOf_holds_iff w .actLongitude h.long.1.data h.long.2.2 hlong hlong).mpr (.inl rfl)
  have hframe := activateSystemMsg_frame w (View.holds_iff.mpr rfl) hkept hstamp h.stamp.2
    (v := (textOf m₁ long.length).view w .actLatitude) (by rw [View.length_bytes]; omega)
  rw [← hframe, ← h.long.1.dataLen]
  rfl

theorem Activation.relays_iff_holds (h : Activation frame lat long stamp m₁ m₂ m₃ w b b') :
    RelaysActivation lat long stamp b b' ↔
      ((textOf m₁ long.length).view w .actLatitude).Holds lat := by
  obtain ⟨hframe, hshort⟩ := h.request_frame
  have hlong : long.length ≤ 15 := h.long.2.1
  have hlat : lat.length ≤ 15 := h.lat.2.1
  have hten := h.stamp.2
  have hdecode : ∀ text : List Byte, text.length ≤ 15 →
      Tlv.decode (([btCpOpcodeCidCcuActivate, 44, 0] ++ Tlv.encode
        [(tlvTypeActivateLatString, text), (tlvTypeActivateLongString, long),
          (tlvTypeActivateTimestampString, stamp)]).drop 3) = some [(tlvTypeActivateLatString, text),
        (tlvTypeActivateLongString, long), (tlvTypeActivateTimestampString, stamp)] := by
    intro text htext
    apply Tlv.decode_encode
    simp only [Tlv.Fits, List.forall_mem_cons, List.not_mem_nil, false_imp_iff, implies_true,
      and_true]
    omega
  unfold RelaysActivation
  rw [h.io, hframe, View.holds_iff]
  constructor
  · rintro ⟨sent, hsent, hvalues⟩
    obtain rfl := Io.tx.inj (List.singleton_inj.mp (List.append_cancel_left hsent))
    rw [hdecode _ (by rw [View.length_bytes]; exact hshort)] at hvalues
    exact (Prod.mk.inj (List.cons.inj (Option.some.inj hvalues)).1).2
  · intro htext
    refine ⟨_, rfl, ?_⟩
    rw [htext]
    exact hdecode lat hlat

theorem Activation.latitude_iff (h : Activation frame lat long stamp m₁ m₂ m₃ w b b') :
    ((textOf m₁ long.length).view w .actLatitude).Holds lat ↔
      lat.length = long.length ∨
        lat.length < long.length ∧ m₁.getD (5 + lat.length) 0 = 0 := by
  have hlong : long.length ≤ 15 := h.long.2.1
  have hlat : lat.length ≤ 15 := h.lat.2.1
  exact textOf_holds_iff w .actLatitude h.lat.1.data h.lat.2.2 (by omega) (by omega)

/-- The latitude is cut to the length of the longitude, so the CCU gets the right one just in
case it is as long, or is shorter and ends with a zero in its message. -/
theorem activation_relayed_iff (h : Activation frame lat long stamp m₁ m₂ m₃ w b b') :
    RelaysActivation lat long stamp b b' ↔
      lat.length = long.length ∨
        lat.length < long.length ∧ m₁.getD (5 + lat.length) 0 = 0 :=
  h.relays_iff_holds.trans h.latitude_iff

end Activation

structure Selection (frame k : Nat) (key m₁ m₂ : List Byte) (b b' : Bridge) : Prop where
  pointer : b.glob.ble.flagSetRecvdMsgPtr = true → b.glob.ble.pRecvdMsgFull = frame
  run : ∃ e₁ e₂ : Event, e₁.action = .gattWrite false frame m₁ ∧
    e₂.action = .gattWrite false frame m₂ ∧ Machine.run step b [e₁, e₂] = some b'
  network : Carries .selectAWifi 1 [UInt8.ofNat k] m₁
  key : Carries .selectAWifi 2 key m₂ ∧ key.length ≤ 15 ∧ NulFree key

def RelaysSelection (apId : Byte) (key : List Byte) (b b' : Bridge) : Prop :=
  ∃ frame, b'.glob.env.io = b.glob.env.io ++ [.tx frame] ∧
    Tlv.decode (frame.drop 3) = some [(tlvTypeWifiApId, [apId]), (tlvTypeWifiPasswdName, key)]

/-- The CCU counts its networks from 1. -/
theorem Selection.relayed {frame k : Nat} {key m₁ m₂ : List Byte} {b b' : Bridge}
    (h : Selection frame k key m₁ m₂ b b') : RelaysSelection (UInt8.ofNat (k + 1)) key b b' := by
  obtain ⟨e₁, e₂, h₁, h₂, hrun⟩ := h.run
  simp only [Machine.run, Option.bind_eq_some_iff, Option.some.injEq] at hrun
  obtain ⟨b₁, hs₁, b₂, hs₂, rfl⟩ := hrun
  have hslots := Slots.start h.pointer
  obtain ⟨hslots₁, hio₁⟩ := step_earlierPart hslots h₁ hs₁ h.network.part (.head _)
  have hkey : key.length < 20 := Nat.lt_of_le_of_lt h.key.2.1 (by decide)
  have hio : b₂.glob.env.io = b.glob.env.io ++ [.tx ((Multipart.selectAWifi.request
      (fun _ => m₁) m₂ e₂.wild).frame e₂.wild)] := by
    rw [← hio₁]
    refine step_lastPart hslots₁ h₂ hs₂ h.key.1.part (by rw [h.key.1.dataLen]; exact h.key.2.1)
      _ fun k hk => ?_
    obtain rfl : k = 1 := by simpa [Multipart.earlierParts] using hk
    rw [latest_cons_of_pos (anyPart_of_isPart h.network.part), h.network.dataLen]
    exact ⟨rfl, Nat.le_add_left 1 14⟩
  have hbyte : m₁.getD 5 0 = UInt8.ofNat k := h.network.data 0 Nat.zero_lt_one
  have htext := (textOf_holds_iff e₂.wild .pPassword h.key.1.data h.key.2.2 hkey hkey).mpr (.inl rfl)
  refine ⟨_, hio, ?_⟩
  unfold Multipart.request
  dsimp only
  rw [hbyte, h.key.1.dataLen, configureWifiCredentials_frame e₂.wild _ htext (by omega),
    UInt8.ofNat_add k 1]
  apply Tlv.decode_encode
  simp only [Tlv.Fits, List.forall_mem_cons, List.not_mem_nil, false_imp_iff, implies_true,
    and_true]
  exact ⟨Nat.lt_add_left 254 (Nat.lt_succ_self 1), by omega⟩

def activateMessage (k : Byte) (data : List Byte) : List Byte :=
  [0x4D, 1, Cid.code .ccuActivate, k, UInt8.ofNat data.length] ++ data ++
    List.replicate (15 - data.length) 0

def tenDigits : List Byte := List.replicate 10 0x30

theorem exists_activation (lat long : List Byte) (hlat : Carries .ccuActivate 1 lat (activateMessage 1 lat))
    (hlat' : lat.length ≤ 15 ∧ NulFree lat) (hlong : Carries .ccuActivate 2 long (activateMessage 2 long))
    (hlong' : long.length ≤ 15 ∧ NulFree long) :
    ∃ b b', Activation 0 lat long tenDigits (activateMessage 1 lat) (activateMessage 2 long)
      (activateMessage 3 tenDigits) Wild.zero b b' :=
  ⟨{ Bridge.boot with glob.main.serviceCreated := true }, _,
    { pointer := nofun
      run := ⟨.calm (.gattWrite false 0 (activateMessage 1 lat)),
        .calm (.gattWrite false 0 (activateMessage 2 long)),
        .calm (.gattWrite false 0 (activateMessage 3 tenDigits)), rfl, rfl, rfl, rfl, rfl⟩
      lat := ⟨hlat, hlat'⟩
      long := ⟨hlong, hlong'⟩
      stamp := ⟨⟨rfl, by decide, rfl, by decide⟩, rfl⟩ }⟩

theorem shortLatitude_relayed : ∃ b b',
    Activation 0 [0x31] [0x32, 0x33] tenDigits (activateMessage 1 [0x31])
      (activateMessage 2 [0x32, 0x33]) (activateMessage 3 tenDigits) Wild.zero b b' ∧
      RelaysActivation [0x31] [0x32, 0x33] tenDigits b b' := by
  obtain ⟨b, b', h⟩ := exists_activation [0x31] [0x32, 0x33] ⟨rfl, by decide, rfl, by decide⟩
    ⟨by decide, by simp [NulFree]⟩ ⟨rfl, by decide, rfl, by decide⟩ ⟨by decide, by simp [NulFree]⟩
  exact ⟨b, b', h, (activation_relayed_iff h).mpr (.inr ⟨by decide, rfl⟩)⟩

/-- A latitude of two digits and a longitude of one: the second digit is lost. -/
theorem longLatitude_cut : ¬ ∀ (frame : Nat) (lat long stamp m₁ m₂ m₃ : List Byte) (w : Wild Obj)
    (b b' : Bridge), Activation frame lat long stamp m₁ m₂ m₃ w b b' →
      RelaysActivation lat long stamp b b' := by
  intro hevery
  obtain ⟨b, b', h⟩ := exists_activation [0x31, 0x32] [0x33] ⟨rfl, by decide, rfl, by decide⟩
    ⟨by decide, by simp [NulFree]⟩ ⟨rfl, by decide, rfl, by decide⟩ ⟨by decide, by simp [NulFree]⟩
  have hlat := h.latitude_iff.mp (h.relays_iff_holds.mp (hevery _ _ _ _ _ _ _ _ b b' h))
  simp at hlat

end EspBridges.Ccu
