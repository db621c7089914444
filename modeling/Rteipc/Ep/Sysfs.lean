import Rteipc.Clib
import Rteipc.Connect.Send
import Rteipc.Data.Scan
import Rteipc.Ep.Requests

namespace Rteipc

/-! The SYSFS endpoint of `ep_sysfs.c`: attributes of a device are read and set by name. -/

open Data

/-- A call of libudev for the device of the endpoint. -/
inductive SysattrCall where
  | get (attr : List UInt8)
  | set (attr : List UInt8) (value : Option (List UInt8))
deriving DecidableEq, Repr

structure SysfsState (Device : Type) where
  device : Device
  calls : List SysattrCall
  bev : Option Evbuffer

/-- `strndup` tells which sizes can be copied. -/
structure SysfsEnv (Device : Type) where
  malloc : Nat → Bool
  strndup : Nat → Bool
  getSysattrValue : Device → List UInt8 → Device × Option (List UInt8)
  setSysattrValue : Device → List UInt8 → Option (List UInt8) → Device × Int

def pathMax : Nat := 4096

section Sysfs

variable {Device : Type} (env : SysfsEnv Device)

/-- From the drained message to `free_msg`. A value is NULL where the message
ends with its `=`; an error in setting one is only printed. -/
def sysfsOnMsg (st : SysfsState Device) (msg : List UInt8) : Except Fault (SysfsState Device) :=
  if !env.strndup msg.length then .error .nullDereference
  else
    let text := cString msg
    if 61 ∈ text then
      let attr := text.takeWhile (· ≠ 61)
      let pos := if msg.length ≤ attr.length + 1 then none else some (text.drop (attr.length + 1))
      .ok { st with
        device := (env.setSysattrValue st.device attr pos).1
        calls := st.calls ++ [.set attr pos] }
    else
      let (device, value) := env.getSysattrValue st.device text
      let st := { st with device, calls := st.calls ++ [.get text] }
      match value with
      | none => .ok st
      | some value =>
          let buf := (text ++ 61 :: value).take (pathMax - 1)
          .ok { st with bev := st.bev.map fun out => rteipcBuffer out buf }

def sysfsLoop : Nat → Evbuffer → SysfsState Device → Except Fault (SysfsState Device × Evbuffer)
  | 0, buf, st => .ok (st, buf)
  | fuel + 1, buf, st =>
      match rteipcMsgDrain env.malloc buf with
      | (.message _ msg, rest) => do
          let st ← sysfsOnMsg env st msg
          sysfsLoop fuel rest st
      | (_, rest) => .ok (st, rest)

/-- A message takes its header off the buffer, so this much fuel is never used up. -/
def sysfsOnData (buf : Evbuffer) (st : SysfsState Device) : Except Fault (SysfsState Device × Evbuffer) :=
  sysfsLoop env (buf.length + 1) buf st

end Sysfs

/-! ## Names and values -/

/-- A text is divided at its first `=`. -/
def splitAttr (text : List UInt8) : List UInt8 × List UInt8 :=
  (text.takeWhile (· ≠ 61), (text.dropWhile (· ≠ 61)).tail)

theorem splitAttr_sysfsMessage {attr : List UInt8} (noEquals : 61 ∉ attr) (value : List UInt8) :
    splitAttr (sysfsMessage attr (some value)) = (attr, value) := by
  rw [splitAttr, sysfsMessage, takeWhile_stop noEquals, dropWhile_stop noEquals, List.tail_cons]

section Requests

variable {Device : Type} {env : SysfsEnv Device} {st : SysfsState Device} {attr : List UInt8}

theorem sysfsOnData_single {msg : List UInt8} (received : Received env.malloc msg) {after : SysfsState Device}
    (handled : sysfsOnMsg env st msg = .ok after) : sysfsOnData env (frame msg) st = .ok (after, []) := by
  have whole := drain_whole received.fits received.nonempty received.allocated []
  rw [List.append_nil] at whole
  have ended : ∀ fuel, sysfsLoop env fuel [] after = .ok (after, []) := by
    intro fuel
    cases fuel <;> rfl
  rw [sysfsOnData, sysfsLoop, whole]
  simp only [handled, bind, Except.bind, ended]

theorem sysfsOnMsg_set (noEquals : 61 ∉ attr) {value : List UInt8} (noNul : 0 ∉ attr) (valueNoNul : 0 ∉ value)
    (copied : env.strndup (sysfsMessage attr (some value)).length = true) :
    sysfsOnMsg env st (sysfsMessage attr (some value)) =
      .ok { st with
        device := (env.setSysattrValue st.device attr (if value = [] then none else some value)).1
        calls := st.calls ++ [.set attr (if value = [] then none else some value)] } := by
  have text : cString (sysfsMessage attr (some value)) = sysfsMessage attr (some value) := by
    apply cString_eq_self
    simp [sysfsMessage, noNul, valueNoNul]
  have equals : 61 ∈ sysfsMessage attr (some value) := by simp [sysfsMessage]
  have name : (sysfsMessage attr (some value)).takeWhile (· ≠ 61) = attr := takeWhile_stop noEquals value
  have pos : (if (sysfsMessage attr (some value)).length ≤ attr.length + 1 then none
      else some ((sysfsMessage attr (some value)).drop (attr.length + 1))) = if value = [] then none else some value := by
    have rest : (sysfsMessage attr (some value)).drop (attr.length + 1) = value := by
      rw [sysfsMessage, List.drop_append]
      simp
    rw [rest]
    simp [sysfsMessage]
  simp only [sysfsOnMsg, copied, Bool.not_true, Bool.false_eq_true, if_false, text, if_pos equals, name, pos]

/-- A request without a value reads the attribute, and what it holds is sent back behind its name. -/
theorem sysfsOnMsg_get (noEquals : 61 ∉ attr) (noNul : 0 ∉ attr) (copied : env.strndup (sysfsMessage attr none).length = true) :
    sysfsOnMsg env st (sysfsMessage attr none) =
      .ok { st with
        device := (env.getSysattrValue st.device attr).1
        calls := st.calls ++ [.get attr]
        bev :=
          match (env.getSysattrValue st.device attr).2 with
          | none => st.bev
          | some value => st.bev.map fun out => rteipcBuffer out ((sysfsMessage attr (some value)).take (pathMax - 1)) } := by
  have text : cString (sysfsMessage attr none) = attr := cString_eq_self noNul
  simp only [sysfsOnMsg, copied, Bool.not_true, Bool.false_eq_true, if_false, text, if_neg noEquals]
  cases (env.getSysattrValue st.device attr).2 <;> rfl

/-- The attribute is read once; what it holds is sent back if the reply buffer
has room for it, in a text that is divided into the two again. -/
structure SysfsRead (env : SysfsEnv Device) (st after : SysfsState Device) (attr : List UInt8) : Prop where
  calls : after.calls = st.calls ++ [.get attr]
  device : after.device = (env.getSysattrValue st.device attr).1
  silent : (env.getSysattrValue st.device attr).2 = none → after.bev = st.bev
  reply : ∀ value, (env.getSysattrValue st.device attr).2 = some value → attr.length + 1 + value.length < pathMax →
    after.bev = (st.bev.map fun out => rteipcBuffer out (attr ++ 61 :: value)) ∧
      splitAttr (attr ++ 61 :: value) = (attr, value)

/-- The attribute is set once, to NULL where the value is empty. -/
structure SysfsWritten (env : SysfsEnv Device) (st after : SysfsState Device) (attr value : List UInt8) : Prop where
  calls : after.calls = st.calls ++ [.set attr (if value = [] then none else some value)]
  device : after.device = (env.setSysattrValue st.device attr (if value = [] then none else some value)).1
  reply : after.bev = st.bev

theorem sysfsOnMsg_read (noEquals : 61 ∉ attr) (noNul : 0 ∉ attr) (copied : env.strndup (sysfsMessage attr none).length = true) :
    ∃ after, sysfsOnMsg env st (sysfsMessage attr none) = .ok after ∧ SysfsRead env st after attr := by
  refine ⟨_, sysfsOnMsg_get noEquals noNul copied, rfl, rfl, fun absent => ?_, fun value held short => ⟨?_, ?_⟩⟩
  · simp only [absent]
  · have whole : (sysfsMessage attr (some value)).take (pathMax - 1) = attr ++ 61 :: value := by
      rw [sysfsMessage]
      apply List.take_of_length_le
      rw [List.length_append, List.length_cons]
      omega
    simp only [held, whole]
  · exact splitAttr_sysfsMessage noEquals value

theorem sysfsOnMsg_written (noEquals : 61 ∉ attr) (noNul : 0 ∉ attr) {value : List UInt8} (valueNoNul : 0 ∉ value)
    (copied : env.strndup (sysfsMessage attr (some value)).length = true) :
    ∃ after, sysfsOnMsg env st (sysfsMessage attr (some value)) = .ok after ∧ SysfsWritten env st after attr value :=
  ⟨_, sysfsOnMsg_set noEquals noNul valueNoNul copied, rfl, rfl, rfl⟩

end Requests

/-- Both functions build the same message of an attribute and a value, and the
endpoint reads the attribute where the value is NULL and sets it otherwise. -/
theorem sysfs_codec (ReadCb ErrCb Arg Table Cb LoopArg : Type) {Device : Type} (env : SysfsEnv Device)
    (st : SysfsState Device) {attr : List UInt8} {val : Option (List UInt8)} (given : attr ≠ []) (noEquals : 61 ∉ attr)
    (noNul : 0 ∉ attr) (valueNoNul : ∀ value ∈ val, 0 ∉ value) :
    BuildsMessage ReadCb ErrCb Arg Table Cb LoopArg (fun conn id => rteipcSysfsSend conn id (some attr) val)
      (fun ep name => rteipcSysfsXfer ep name (some attr) val) (sysfsMessage attr val) ∧
    sysfsMessage attr val ≠ [] ∧
    (Received env.malloc (sysfsMessage attr val) → env.strndup (sysfsMessage attr val).length = true →
      ∃ after, sysfsOnData env (frame (sysfsMessage attr val)) st = .ok (after, []) ∧
        match val with
        | none => SysfsRead env st after attr
        | some value => SysfsWritten env st after attr value) := by
  refine ⟨⟨fun _ _ => rfl, fun _ _ => rfl⟩, ?_, fun received copied => ?_⟩
  · cases val <;> simp [sysfsMessage, given]
  cases val with
  | none =>
      obtain ⟨after, handled, read⟩ := @sysfsOnMsg_read _ _ st _ noEquals noNul copied
      exact ⟨after, sysfsOnData_single received handled, read⟩
  | some value =>
      obtain ⟨after, handled, written⟩ := @sysfsOnMsg_written _ _ st _ noEquals noNul _ (valueNoNul value rfl) copied
      exact ⟨after, sysfsOnData_single received handled, written⟩

/-- A device each attribute of which holds the one byte `1`. -/
def onesDevice : SysfsEnv Unit where
  malloc _ := true
  strndup _ := true
  getSysattrValue _ _ := ((), some [49])
  setSysattrValue _ _ _ := ((), 0)

/-- The attribute `on` is read and found to hold `1`. -/
theorem sysfs_codec_on : ∃ after,
    sysfsOnData onesDevice (frame [111, 110]) ⟨(), [], some []⟩ = .ok (after, []) ∧
      after.calls = [.get [111, 110]] ∧ after.bev = some (rteipcBuffer [] [111, 110, 61, 49]) := by
  have name : (61 : UInt8) ∉ [111, 110] ∧ (0 : UInt8) ∉ [111, 110] := by decide
  obtain ⟨-, -, handled⟩ := @sysfs_codec Unit Unit Unit Unit Unit Unit Unit onesDevice ⟨(), [], some []⟩ [111, 110] none
    nofun name.1 name.2 nofun
  obtain ⟨after, handled, read⟩ := handled ⟨nofun, by decide, rfl⟩ rfl
  exact ⟨after, handled, read.calls, (read.reply [49] rfl (by decide)).1⟩

end Rteipc
