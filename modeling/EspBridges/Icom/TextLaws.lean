import EspBridges.Icom.Config

namespace EspBridges.Icom

open Bytes

inductive TextField where
  | httpServer | mqttBroker | mqttBrokerUsername | mqttBrokerPasswd
  deriving DecidableEq

namespace TextField

def offset : TextField → Nat
  | httpServer => 1373
  | mqttBroker => 1209
  | mqttBrokerUsername => 1309
  | mqttBrokerPasswd => 1341

def size : TextField → Nat
  | httpServer => 100
  | mqttBroker => 100
  | mqttBrokerUsername => 32
  | mqttBrokerPasswd => 32

def set : TextField → CStr → IcomStartupConfig → Nat × IcomStartupConfig
  | httpServer => icomSetConfiguredHttpServer
  | mqttBroker => icomSetConfiguredMqttBroker
  | mqttBrokerUsername => icomSetConfiguredMqttBrokerUsername
  | mqttBrokerPasswd => icomSetConfiguredMqttBrokerPasswd

def get : TextField → IcomStartupConfig → Wild StaticObj → Option (List Byte)
  | httpServer => icomGetConfiguredHttpServer
  | mqttBroker => icomGetConfiguredMqttBroker
  | mqttBrokerUsername => icomGetConfiguredMqttBrokerUsername
  | mqttBrokerPasswd => icomGetConfiguredMqttBrokerPasswd

def text (c : IcomStartupConfig) : (f : TextField) → Buf f.size
  | httpServer => c.httpServer
  | mqttBroker => c.mqttBroker
  | mqttBrokerUsername => c.mqttBrokerUsername
  | mqttBrokerPasswd => c.mqttBrokerPasswd

theorem apart {f g : TextField} (h : f ≠ g) :
    f.offset + f.size ≤ g.offset ∨ g.offset + g.size ≤ f.offset := by
  cases f <;> cases g <;> first | exact absurd rfl h | decide

theorem set_eq (f : TextField) (p : CStr) (c : IcomStartupConfig) :
    f.set p c = configureText f.offset p c := by
  cases f with
  | httpServer => rfl
  | mqttBroker => rfl
  | mqttBrokerUsername => rfl
  | mqttBrokerPasswd => rfl

theorem get_eq (f : TextField) (c : IcomStartupConfig) (w : Wild StaticObj) :
    f.get c w = configuredText (c.at w f.offset) := by
  cases f with
  | httpServer => rfl
  | mqttBroker => rfl
  | mqttBrokerUsername => rfl
  | mqttBrokerPasswd => rfl

theorem text_strcpy (f : TextField) (c : IcomStartupConfig) (offset : Nat) (p : CStr) :
    f.text (c.strcpy offset p) = copied (p.val ++ [0]) offset f.offset (f.text c) := by
  cases f with
  | httpServer => rfl
  | mqttBroker => rfl
  | mqttBrokerUsername => rfl
  | mqttBrokerPasswd => rfl

end TextField

section Copies

variable {n : Nat} {text : List Byte} {offset base : Nat} {field : Buf n}

theorem copied_clear (h : base + n ≤ offset ∨ offset + text.length ≤ base) :
    copied text offset base field = field := by
  funext j
  have hj := j.isLt
  unfold copied
  split
  · rw [List.getD_eq_getElem?_getD, List.getElem?_eq_none (by omega)]
    rfl
  · rfl

theorem copied_own (j : Fin n) : copied text base base field j = text.getD j.val (field j) := by
  unfold copied
  rw [if_pos (Nat.le_add_right base j.val), Nat.add_sub_cancel_left]

end Copies

section Layout

theorem le32_length (x : UInt32) : (le32 x).length = 4 := rfl

theorem rows_length (row : Fin n → IcomMbusRegInfo) :
    ((List.ofFn row).flatMap IcomMbusRegInfo.bytes).length = 12 * n := by
  rw [List.length_flatMap]
  have hrow : ∀ r : IcomMbusRegInfo, r.bytes.length = 12 := fun _ => rfl
  simp only [hrow, List.map_const', List.sum_replicate_nat, List.length_ofFn]
  exact Nat.mul_comm n 12

def IcomStartupConfig.header (c : IcomStartupConfig) : List Byte :=
  le32 c.slaveAddress.toUInt32 ++ le32 c.cfgRegCount.toUInt32 ++
    (List.ofFn c.mbusReg).flatMap IcomMbusRegInfo.bytes ++ [c.cloudProtocolFlag]

theorem header_length (c : IcomStartupConfig) : c.header.length = 1209 := by
  have hrows := rows_length c.mbusReg
  simp only [IcomStartupConfig.header, List.length_append, le32_length, hrows]
  rfl

theorem bytes_text (c : IcomStartupConfig) (f : TextField) : ∃ before after : List Byte,
    c.bytes = before ++ (List.ofFn (f.text c) ++ after) ∧ before.length = f.offset := by
  have hheader := header_length c
  have hbytes : c.bytes = c.header ++ List.ofFn c.mqttBroker ++ List.ofFn c.mqttBrokerUsername ++
      List.ofFn c.mqttBrokerPasswd ++ List.ofFn c.httpServer ++ [0, 0, 0] := rfl
  rw [hbytes]
  cases f with
  | httpServer =>
    refine ⟨_, _, List.append_assoc .., ?_⟩
    simp only [List.length_append, hheader, List.length_ofFn]
    rfl
  | mqttBroker =>
    refine ⟨c.header, List.ofFn c.mqttBrokerUsername ++ (List.ofFn c.mqttBrokerPasswd ++
      (List.ofFn c.httpServer ++ [0, 0, 0])), ?_, hheader⟩
    simp only [List.append_assoc]
    rfl
  | mqttBrokerUsername =>
    refine ⟨c.header ++ List.ofFn c.mqttBroker,
      List.ofFn c.mqttBrokerPasswd ++ (List.ofFn c.httpServer ++ [0, 0, 0]), ?_, ?_⟩
    · simp only [List.append_assoc]
      rfl
    · rw [List.length_append, hheader, List.length_ofFn]
      rfl
  | mqttBrokerPasswd =>
    refine ⟨c.header ++ List.ofFn c.mqttBroker ++ List.ofFn c.mqttBrokerUsername,
      List.ofFn c.httpServer ++ [0, 0, 0], ?_, ?_⟩
    · simp only [List.append_assoc]
      rfl
    · simp only [List.length_append, hheader, List.length_ofFn]
      rfl

theorem at_text (c : IcomStartupConfig) (f : TextField) (w : Wild StaticObj) (i : Fin f.size) :
    (c.at w f.offset).byte i = f.text c i := by
  obtain ⟨before, after, hbytes, hlength⟩ := bytes_text c f
  have hi : i.val < (List.ofFn (f.text c)).length := by
    rw [List.length_ofFn]
    exact i.isLt
  show c.bytes.getD (f.offset + i.val) _ = _
  rw [hbytes, List.getD_eq_getElem?_getD, List.getElem?_append_right (by omega), hlength,
    Nat.add_sub_cancel_left, List.getElem?_append_left hi, List.getElem?_eq_getElem hi,
    List.getElem_ofFn]
  rfl

end Layout

section Set

variable {f : TextField} {p : CStr}

/-- What a call that sets a string is to make of `c`: the string is kept when it is taken, and
nothing else changes. -/
structure Configures (f : TextField) (p : CStr) (c : IcomStartupConfig)
    (r : Nat × IcomStartupConfig) : Prop where
  stored : r.1 = 0 → ∀ w, f.get r.2 w = some p.val
  refused : r.1 ≠ 0 → r.2 = c
  texts : ∀ g, g ≠ f → g.text r.2 = g.text c
  slaveAddress : r.2.slaveAddress = c.slaveAddress
  cfgRegCount : r.2.cfgRegCount = c.cfgRegCount
  mbusReg : r.2.mbusReg = c.mbusReg
  cloudProtocolFlag : r.2.cloudProtocolFlag = c.cloudProtocolFlag

theorem strcpy_cstring (hfits : p.val.length < f.size) (c : IcomStartupConfig)
    (w : Wild StaticObj) : ((c.strcpy f.offset p).at w f.offset).CString p.val := by
  have hbyte : ∀ i (hi : i < f.size), ((c.strcpy f.offset p).at w f.offset).byte i =
      (p.val ++ [0]).getD i (f.text c ⟨i, hi⟩) := by
    intro i hi
    refine (at_text (c.strcpy f.offset p) f w ⟨i, hi⟩).trans ?_
    rw [TextField.text_strcpy, copied_own]
  refine ⟨?_, p.property, fun i hi => ?_, ?_⟩
  · have hroom : f.size ≤ sizeofIcomStartupConfig - f.offset := by
      cases f <;> decide
    exact Nat.lt_of_lt_of_le hfits hroom
  · rw [hbyte i (by omega), List.getD_eq_getElem?_getD, List.getElem?_append_left hi,
      List.getD_eq_getElem?_getD, List.getElem?_eq_getElem hi]
    rfl
  · rw [hbyte _ hfits, List.getD_eq_getElem?_getD, List.getElem?_concat_length]
    rfl

theorem set_spills {g : TextField} (hnext : f.offset + f.size = g.offset)
    (hlong : f.size ≤ p.val.length) (hg : 0 < g.size) (c : IcomStartupConfig) :
    g.text (f.set p c).2 ⟨0, hg⟩ = (p.val ++ [0]).getD f.size 0 := by
  have hf : 0 < f.size := by cases f <;> decide
  have hlength : (p.val ++ [0]).length = p.val.length + 1 := List.length_append
  have hin : f.size < (p.val ++ [0]).length := by omega
  rw [f.set_eq p c, configureText, if_neg (by omega), TextField.text_strcpy]
  unfold copied
  dsimp only
  rw [if_pos (by omega), show g.offset + 0 - f.offset = f.size by omega, List.getD_eq_getElem?_getD,
    List.getD_eq_getElem?_getD, List.getElem?_eq_getElem hin]
  rfl

theorem set_configures (hfits : p.val.length < f.size) (c : IcomStartupConfig) :
    Configures f p c (f.set p c) := by
  rw [f.set_eq p c, configureText]
  split
  · exact ⟨nofun, fun _ => rfl, fun _ _ => rfl, rfl, rfl, rfl, rfl⟩
  · rename_i hempty
    refine ⟨fun _ w => ?_, fun h => absurd rfl h, fun g hg => ?_, rfl, rfl, rfl, rfl⟩
    · have hholds := (strcpy_cstring hfits c w).holds
      rw [f.get_eq, configuredText, if_neg (by rw [hholds.strlen]; exact hempty),
        View.holds_iff.mp hholds]
    · rw [TextField.text_strcpy]
      have hlength : (p.val ++ [0]).length = p.val.length + 1 := List.length_append
      have hclear := TextField.apart hg
      exact copied_clear (by omega)

end Set

section Runs

def configured (calls : List (TextField × CStr)) (c : IcomStartupConfig) : IcomStartupConfig :=
  calls.foldl (fun c call => (call.1.set call.2 c).2) c

/-- In a run of calls with strings that fit every call keeps to its own field. -/
theorem calls_configure {calls : List (TextField × CStr)}
    (hfits : ∀ call ∈ calls, call.2.val.length < call.1.size) (c : IcomStartupConfig) :
    ∀ past call rest, calls = past ++ call :: rest →
      Configures call.1 call.2 (configured past c) (call.1.set call.2 (configured past c)) := by
  rintro past call rest rfl
  exact set_configures (hfits call (List.mem_append_right past List.mem_cons_self)) _

def shortPasswd : CStr := ⟨[0x61], by simp⟩

def shortName : CStr := ⟨[0x75], by simp⟩

theorem shortName_keepsPasswd : Configures .mqttBrokerUsername shortName
    (configured [(.mqttBrokerPasswd, shortPasswd)] .zero)
    (TextField.mqttBrokerUsername.set shortName
      (configured [(.mqttBrokerPasswd, shortPasswd)] .zero)) := by
  have hfits : ∀ call ∈ [(TextField.mqttBrokerPasswd, shortPasswd), (.mqttBrokerUsername, shortName)],
      call.2.val.length < call.1.size := by
    intro call hcall
    simp only [List.mem_cons, List.not_mem_nil, or_false] at hcall
    rcases hcall with rfl | rfl
    · decide
    · decide
  exact calls_configure hfits .zero [(.mqttBrokerPasswd, shortPasswd)]
    (.mqttBrokerUsername, shortName) [] rfl

def longName : CStr := ⟨List.replicate 32 0x75, fun x hx => by
  rw [List.eq_of_mem_replicate hx]
  decide⟩

/-- The zero that ends a name of 32 characters ends the password too. -/
theorem longName_spoilsPasswd : ¬ ∀ (calls : List (TextField × CStr)) (c : IcomStartupConfig),
    ∀ past call rest, calls = past ++ call :: rest →
      Configures call.1 call.2 (configured past c) (call.1.set call.2 (configured past c)) := by
  intro h
  have hlaw := h [(.mqttBrokerPasswd, shortPasswd), (.mqttBrokerUsername, longName)] .zero
    [(.mqttBrokerPasswd, shortPasswd)] (.mqttBrokerUsername, longName) [] rfl
  have hsame := congrFun (hlaw.texts .mqttBrokerPasswd (by decide)) ⟨0, by decide⟩
  have hspilt := set_spills (f := .mqttBrokerUsername) (p := longName) (g := .mqttBrokerPasswd) rfl
    (by decide) (by decide) (configured [(.mqttBrokerPasswd, shortPasswd)] .zero)
  exact absurd (hspilt.symm.trans hsame) (by decide)

end Runs

end EspBridges.Icom
