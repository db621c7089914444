import Rteipc.Endpoint.Uri
import Rteipc.Rtemgr.Parser

namespace Rteipc

/-! The parameters of a device on their way from the `open` command to the `open`
operation of its endpoint. -/

open Data

/-! ## Through the interface and the URI -/

/-- What is left of a text in the path an endpoint is opened with. -/
def carried (text : List UInt8) : List UInt8 := (text.take 99).takeWhile (· ≠ 10)

/-- The URI `iface_build` makes for an interface. -/
def ifaceUri (intf : RtemgrIntf) : List UInt8 := (busToPrefix intf.busType ++ intf.path.text).take 127

theorem ifaceBuild_opens {Table : Type} {tbl : DescTable Table} {st next : Daemon Table} {outcome : IfaceOutcome}
    {iface : IfacePtr} {intf : RtemgrIntf} {ret : Int}
    (returned : ifaceBuild tbl st outcome iface intf.name.text intf.path.text intf.busType intf.managed =
      .ok (next, ret)) :
    ∃ (opened both : EpState Table DaemonCb IfacePtr) (ep : Int),
      rteipcOpen tbl opened outcome.ep (ifaceUri intf) = .ok (both, ep) := by
  obtain ⟨opened, -, both, ep, -, -, epOpened, -⟩ := ifaceBuild_ok returned
  exact ⟨opened, both, ep, epOpened⟩

section Text

variable {bus : DeviceBus} {name path : List UInt8} {vars : OpenVars}

end Text

section Accepted

variable {bus : DeviceBus} {intf opened : RtemgrIntf} {args : List (List UInt8)} {path : List UInt8}
  {olist : List Argument}

end Accepted

end Rteipc
