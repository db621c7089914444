import Rteipc.Ep.Served
import Rteipc.Rtemgr.Decode
import Rteipc.Rtemgrd.Cat

namespace Rteipc

/-! GPIO lines through the daemon: a request that sets one, and the edges of one
that nobody is routed to, as `cat` shows them. -/

open Data

/-! ## Setting a line -/

section Setting

variable {Table Line : Type} {lib : PacketLib} {memory : ManagedMemory} {st : Daemon Table} {iface found : IfacePtr}
  {dest : Interface} {encodeMemory : EncodeMemory} {domain : BitVec 32} {name document : List UInt8} {value : UInt8}

def gpioText (value : UInt8) : List UInt8 := ascii (if value ≠ 0 then "1" else "0")

def rtemgrGpioEncodeDomain (lib : EmitLib) (memory : EncodeMemory) (domain : BitVec 32) (name : List UInt8)
    (value : UInt8) : Option (List UInt8) :=
  rtemgrEncodeDomain lib memory domain name (some (gpioText value))

/-- The text is read to its end only where a NUL follows it. -/
theorem gpioText_read (value : UInt8) (beyond : List UInt8) :
    strmatch (cString (gpioText value ++ beyond)) (ascii "0") = decide (value = 0 ∧ cString beyond = []) := by
  have noNul : 0 ∉ gpioText value := by
    unfold gpioText
    split <;> decide
  rw [cString_append noNul, Bool.eq_iff_iff, strmatch_iff, decide_eq_true_eq]
  unfold gpioText
  by_cases low : value = 0
  · simp [low, ascii]
  · simp [low, ascii]

theorem gpioText_framed (value : UInt8) : Framed (gpioText value) := by
  unfold gpioText
  split
  next => exact ⟨by decide, by decide⟩
  next => exact ⟨by decide, by decide⟩

theorem managedCall_gpio (back : lib.ReadsBack)
    (encoded : rtemgrGpioEncodeDomain lib.toEmitLib encodeMemory domain name value = some document)
    (noNul : 0 ∉ name) (room : name.length < 16)
    (names : ifaceLookupByName st (domainLookupById st domain) name = some found)
    (live : st.ifaces.get found = some dest) (bus : dest.busType = EpType.gpio.number)
    (succeeds : memory.packet.alloc = .succeeds) :
    managedCall lib memory st iface document =
      .ok (some (.rteipcGpioXfer dest.name (if value = 0 ∧ cString memory.packet.beyond = [] then 0 else 1))) := by
  obtain ⟨-, positive⟩ := framed_size (gpioText_framed value)
  obtain ⟨parsed, accepted, val, interfaces⟩ := rtemgrEncodeDomain_parsed back (gpioText_framed value) encoded
  rw [← succeeds] at accepted
  have given : parsed.d.cmd.val.v = some (gpioText value) := by rw [val]
  have nonempty : parsed.d.cmd.val.s ≠ 0 := by
    rw [val]
    exact positive
  have call := managedCall_text memory iface accepted interfaces ((ifaceOf_encoded noNul room).trans names) live
    (.inl bus) given nonempty
  rw [call, textCall_zeros, textCall, if_pos bus, gpioText_read]
  simp

/-- A client's request for an output line sets it, to 1 unless the value is 0.
It is set to 0 exactly if the text of the value is followed by a NUL in memory. -/
theorem managed_gpio_sets (env : GpioEnv Line) (back : lib.ReadsBack)
    (encoded : rtemgrGpioEncodeDomain lib.toEmitLib encodeMemory domain name value = some document)
    (noNul : 0 ∉ name) (room : name.length < 16)
    (names : ifaceLookupByName st (domainLookupById st domain) name = some found)
    (live : st.ifaces.get found = some dest) (bus : dest.busType = EpType.gpio.number)
    (succeeds : memory.packet.alloc = .succeeds) :
    ∃ call, managedCall lib memory st iface document = .ok (some call) ∧ call.message.1 = name ∧
      ∀ ep : GpioEp Line, ep.out = true → gpioOnMsg env ep call.message.2.length call.message.2 =
        { ep with line := env.setValue ep.line (if value = 0 ∧ cString memory.packet.beyond = [] then 0 else 1) } := by
  refine ⟨_, managedCall_gpio back encoded noNul room names live bus succeeds, ?_, fun ep out => ?_⟩
  · exact ifaceLookupByName_name names live
  · by_cases low : value = 0 ∧ cString memory.packet.beyond = []
    · simp [gpioOnMsg, out, XferCall.message, low]
    · simp [gpioOnMsg, out, XferCall.message, low]

end Setting

/-- A client sets the line `a` to a high level. -/
theorem managed_gpio_sets_high :
    ∃ document call, rtemgrGpioEncodeDomain PacketLib.lines.toEmitLib .succeeds 0 (ascii "a") 2 = some document ∧
      managedCall .lines .succeeds (oneRaw EpType.gpio.number) 0 document = .ok (some call) ∧
        call.message.1 = ascii "a" ∧ ∀ ep : GpioEp UInt8, ep.out = true →
          gpioOnMsg plainLine ep call.message.2.length call.message.2 = { ep with line := 1 } := by
  obtain ⟨document, encoded⟩ := Option.isSome_iff_exists.mp (by decide +kernel :
    (rtemgrGpioEncodeDomain PacketLib.lines.toEmitLib .succeeds 0 (ascii "a") 2).isSome = true)
  have names : ifaceLookupByName (oneRaw EpType.gpio.number) (domainLookupById (oneRaw EpType.gpio.number) 0)
      (ascii "a") = some 0 := by
    decide +kernel
  have succeeds : ManagedMemory.succeeds.packet.alloc = .succeeds := rfl
  obtain ⟨call, called, named, sets⟩ := managed_gpio_sets plainLine lines_readsBack encoded (by decide) (by decide) names
    rfl rfl succeeds
  exact ⟨document, call, encoded, called, named, sets⟩

/-! ## Showing edges -/

/-- An edge of an input line and the time it came at. -/
structure LineEdge where
  rising : Bool
  sec : BitVec 64
  nsec : BitVec 64

def LineEdge.message (edge : LineEdge) : List UInt8 := edgeMessage edge.rising edge.sec edge.nsec

/-- The line `cat` prints for it. -/
def LineEdge.line (date : BitVec 64 → List UInt8) (edge : LineEdge) : List UInt8 :=
  ascii "[" ++ date edge.sec ++ ascii "." ++ printPadded edge.nsec ++
    ascii (if edge.rising then "] Lo ==> Hi\n" else "] Hi ==> Lo\n")

section Edges

variable {Table : Type} {emitLib : EmitLib} {st after : Daemon Table} {iface : IfacePtr} {self : Interface}
  {memory : CatMemory} {date : BitVec 64 → List UInt8}

theorem Replaced.ifaceOf {changed : Interface} (replaced : Replaced st after iface changed)
    (live : st.ifaces.get iface = some self) (named : changed.name = self.name) (intf : RtemgrIntf) :
    Rteipc.ifaceOf after intf = Rteipc.ifaceOf st intf := by
  have same : (fun other name => (after.ifaces.get other).any fun self => strmatch self.name name) =
      fun other name => (st.ifaces.get other).any fun self => strmatch self.name name := by
    funext other name
    by_cases here : other = iface
    · rw [here, replaced.here, live, Option.any_some, Option.any_some, named]
    · rw [replaced.elsewhere other here]
  have pred := fun other => congrFun (congrFun same other)
  simp only [Rteipc.ifaceOf, ifaceLookupByName, domainLookupById, replaced.lists, pred]

end Edges

end Rteipc
