import Rteipc.Message.Stream

namespace Rteipc

/-! The SPI endpoint of `ep_spi.c`, one request at a time. -/

/-- The read flag and the bytes to send, or nothing when the size of the
message is odd or does not match its `wlen` field. -/
def spidevRequest : List UInt8 → Option (UInt8 × List UInt8)
  | low :: high :: rdflag :: pos =>
      let wlen := low.toNat + 256 * high.toNat
      if pos.length = wlen then some (rdflag, pos) else none
  | _ => none

/-- One transfer for each byte; `ioctl i` answers the byte sent in transfer `i`
or fails, and a failure ends the request. -/
def spidevTransfer (ioctl : Nat → UInt8 → Option UInt8) : Nat → List UInt8 → Option (List UInt8)
  | _, [] => some []
  | i, tx :: rest =>
      match ioctl i tx with
      | none => none
      | some rx => (spidevTransfer ioctl (i + 1) rest).map (rx :: ·)

/-- What handling one message writes to the output of the bound pair. -/
def spidevOnMsg (ioctl : Nat → UInt8 → Option UInt8) (bev : Option Evbuffer) (msg : List UInt8) :
    Option Evbuffer :=
  match spidevRequest msg with
  | none => bev
  | some (rdflag, tx) =>
      match spidevTransfer ioctl 0 tx with
      | none => bev
      | some rxBuf =>
          if rdflag ≠ 0 then bev.map fun out => rteipcBuffer out rxBuf else bev

theorem spidevTransfer_length {ioctl : Nat → UInt8 → Option UInt8} {i : Nat} {tx rx : List UInt8}
    (transferred : spidevTransfer ioctl i tx = some rx) : rx.length = tx.length := by
  induction tx generalizing i rx with
  | nil => cases transferred; rfl
  | cons byte rest ih =>
      cases first : ioctl i byte with
      | none => simp [spidevTransfer, first] at transferred
      | some answer =>
          simp only [spidevTransfer, first, Option.map_eq_some_iff] at transferred
          obtain ⟨later, following, rfl⟩ := transferred
          simp only [List.length_cons, ih following]

/-- A read request that succeeds is answered with one frame of as many bytes as
were sent, also when that is none. -/
theorem spidevOnMsg_reply {ioctl : Nat → UInt8 → Option UInt8} {out : Evbuffer}
    {msg tx rx : List UInt8} {rdflag : UInt8} (request : spidevRequest msg = some (rdflag, tx))
    (reading : rdflag ≠ 0) (transferred : spidevTransfer ioctl 0 tx = some rx) :
    spidevOnMsg ioctl (some out) msg = some (rteipcBuffer out rx) ∧ rx.length = tx.length := by
  refine ⟨?_, spidevTransfer_length transferred⟩
  simp only [spidevOnMsg, request, transferred, if_pos reading, Option.map_some]

end Rteipc
