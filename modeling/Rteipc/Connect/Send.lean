import Rteipc.Connect
import Rteipc.Ep.Loop

namespace Rteipc

/-! The helper functions of `connect.c` for requests. They send to the endpoint
of a connection what those of `ep_loop.c` send on a loop. -/

open Data

section Send

variable {ReadCb ErrCb Arg : Type} (st : ConnState ReadCb ErrCb Arg)

def rteipcSpiSend (id : Int) (data : List UInt8) (len : BitVec 16) (rdmode : Bool) :
    Except Fault (ConnState ReadCb ErrCb Arg × Int) :=
  rteipcEvsend st id (shortBytes len ++ [if rdmode then 1 else 0] ++ data.take len.toNat)

def rteipcI2cSend (id : Int) (addr : BitVec 16) (data : List UInt8) (wlen rlen : BitVec 16) :
    Except Fault (ConnState ReadCb ErrCb Arg × Int) :=
  rteipcEvsend st id (shortBytes addr ++ shortBytes wlen ++ shortBytes rlen ++ data.take wlen.toNat)

def rteipcSysfsSend (id : Int) (attr val : Option (List UInt8)) : Except Fault (ConnState ReadCb ErrCb Arg × Int) :=
  match attr with
  | none => .ok (st, -1)
  | some attr => rteipcEvsend st id (sysfsMessage attr val)

end Send

/-- A request is built as one message, whether it is sent on a connection or on a loop. -/
def BuildsMessage (ReadCb ErrCb Arg Table Cb LoopArg : Type)
    (send : ConnState ReadCb ErrCb Arg → Int → Except Fault (ConnState ReadCb ErrCb Arg × Int))
    (xfer : EpState Table Cb LoopArg → List UInt8 → Except Fault (EpState Table Cb LoopArg × Int))
    (msg : List UInt8) : Prop :=
  (∀ st id, send st id = rteipcEvsend st id msg) ∧ ∀ st name, xfer st name = rteipcEvxfer st name msg

end Rteipc
