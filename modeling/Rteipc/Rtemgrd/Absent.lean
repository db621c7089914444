import Rteipc.Packet.RoundTrip
import Rteipc.Rtemgrd.Replies

namespace Rteipc

/-! Which control packets make a handler read an interface the packet does not
have, or one a lookup did not find. -/

open Data

/-- No absent interface is read. Other faults are not looked at here. -/
def Present {α : Type} (result : Except Fault α) : Prop := result ≠ .error .absentInterface

namespace Present

variable {α β : Type}

theorem ok (value : α) : Present (.ok value) := nofun

theorem fault {fault : Fault} (other : fault ≠ .absentInterface) : Present (.error fault : Except Fault α) :=
  fun same => other (Except.error.inj same)

theorem bind {first : Except Fault α} {rest : α → Except Fault β} (present : Present first)
    (later : ∀ value, Present (rest value)) : Present (first >>= rest) := by
  cases first with
  | error fault => exact fun same => present (congrArg Except.error (Except.error.inj same))
  | ok value => exact later value

theorem map {first : Except Fault α} {f : α → β} (present : Present first) : Present (first.map f) := by
  cases first with
  | error fault => exact fun same => present (congrArg Except.error (Except.error.inj same))
  | ok value => exact .ok (f value)

theorem deref {Cell : Type} (heap : Heap Cell) (pointer : Nat) : Present (Rteipc.deref heap pointer) := by
  unfold Rteipc.deref
  split
  · exact .ok _
  · exact .fault nofun

end Present

/-! ## The endpoints -/

section Endpoints

variable {Table Cb Arg : Type} (tbl : DescTable Table) (st : EpState Table Cb Arg)

theorem buffereventFree_present (bevs : Heap Bufferevent) (bev : BevPtr) : Present (buffereventFree bevs bev) := by
  refine .bind (.deref bevs bev) fun half => ?_
  split
  · exact .ok _
  · exact .ok _

theorem unbindEndpoint_present (ep : EpPtr) : Present (unbindEndpoint tbl st ep) := by
  refine .bind (.deref _ _) fun core => ?_
  split
  · exact .ok _
  refine .bind (.deref _ _) fun half => ?_
  split
  · exact .ok _
  split
  · exact .fault nofun
  refine .bind (.deref _ _) fun partner => ?_
  split
  · exact .fault nofun
  exact .bind (buffereventFree_present _ _) fun _ => .bind (buffereventFree_present _ _) fun _ => .ok _

theorem unregisterEndpoint_present (ep : EpPtr) : Present (unregisterEndpoint tbl st ep) :=
  .bind (.deref _ _) fun _ => unbindEndpoint_present tbl _ ep

theorem rteipcBind_present (pair : Bool) (lh rh : Int) : Present (rteipcBind tbl st pair lh rh) := by
  unfold rteipcBind
  split
  next =>
    split
    · exact .ok _
    refine .bind (.deref _ _) fun left => .bind (.deref _ _) fun right => ?_
    split
    · exact .ok _
    refine .bind (.deref _ _) fun left => .bind (.deref _ _) fun right => ?_
    split
    · exact .ok _
    split
    · exact .ok _
    · exact .ok _
  next => exact .ok _

theorem rteipcOpen_present (outcome : OpenOutcome) (uri : List UInt8) : Present (rteipcOpen tbl st outcome uri) := by
  unfold rteipcOpen
  split
  · exact .fault nofun
  split
  · exact .ok _
  split
  · exact .ok _
  dsimp only
  split
  · exact .ok _
  split
  · exact .bind (unregisterEndpoint_present tbl _ _) fun _ => .ok _
  · exact .ok _

theorem rteipcClose_present (id : Int) : Present (rteipcClose tbl st id) := by
  unfold rteipcClose
  split
  · exact .ok _
  · exact .bind (.deref _ _) fun _ => .bind (unregisterEndpoint_present tbl _ _) fun _ => .ok _

theorem rteipcXfer_present (name data : List UInt8) : Present (rteipcXfer st name data) := by
  unfold rteipcXfer
  split
  · exact .ok _
  refine .bind (.deref _ _) fun core => ?_
  split
  · exact .fault nofun
  refine .bind (.deref _ _) fun half => ?_
  split
  · exact .ok _
  · exact .ok _

theorem XferCall.run_present (call : XferCall) : Present (call.run st) := by
  rw [call.run_eq]
  exact rteipcXfer_present st _ _

end Endpoints

/-! ## The commands -/

section Commands

variable {Table : Type} (tbl : DescTable Table) (lib : PacketLib) (st : Daemon Table)

theorem ifaceForget_present (iface : IfacePtr) : Present (ifaceForget st iface) := by
  refine .bind (.deref _ _) fun self => ?_
  split
  · split
    · exact .ok _
    · exact .bind (.deref _ _) fun _ => .ok _
  · exact .ok _

theorem closeIfOpen_present (ep : EpState Table DaemonCb IfacePtr) (id : Int) : Present (closeIfOpen tbl ep id) := by
  unfold closeIfOpen
  split
  · exact rteipcClose_present tbl ep id
  · exact .ok _

theorem ifaceFree_present (iface : IfacePtr) : Present (ifaceFree tbl st iface) :=
  .bind (.deref _ _) fun _ => .bind (closeIfOpen_present tbl _ _) fun _ => .bind (closeIfOpen_present tbl _ _) fun _ =>
    .bind (ifaceForget_present _ iface) fun _ => .ok _

theorem ifaceBuild_present (outcome : IfaceOutcome) (iface : IfacePtr) (name path : List UInt8)
    (busType managed : BitVec 32) : Present (ifaceBuild tbl st outcome iface name path busType managed) := by
  unfold ifaceBuild
  split
  · exact .fault nofun
  refine .bind (rteipcOpen_present tbl _ _ _) fun idOpened => .bind (rteipcOpen_present tbl _ _ _) fun epOpened => ?_
  dsimp only
  split
  · exact .ok _
  · exact .bind (rteipcBind_present tbl _ _ _ _) fun _ => .ok _

theorem ifaceRawHandler_present (memory : Memory) (iface : IfacePtr) (data : List UInt8) :
    Present (ifaceRawHandler lib.toEmitLib memory st iface data) := by
  refine .bind (.deref _ _) fun self => ?_
  split
  · exact .ok _
  refine .bind (.deref _ _) fun other => ?_
  split
  · exact .bind (rteipcXfer_present _ _ _) fun _ => .ok _
  dsimp only
  split
  · exact .ok _
  · exact .bind (rteipcXfer_present _ _ _) fun _ => .ok _

theorem triggerLoop_present (memory : Nat → Memory) (iface : IfacePtr) (fuel : Nat) :
    Present (triggerLoop lib.toEmitLib memory iface fuel st) := by
  induction fuel generalizing st with
  | zero => exact .ok st
  | succ fuel ih =>
      refine .bind (.deref _ _) fun self => ?_
      split
      · exact .bind (ifaceRawHandler_present lib _ _ _ _) ih
      · exact .ok st

theorem routeSide_present (memory : Nat → Memory) (iface other : IfacePtr) :
    Present (routeSide lib.toEmitLib memory st iface other) := by
  refine .bind (.deref _ _) fun self => ?_
  split
  · refine .bind (.deref _ _) fun self => ?_
    split
    · exact .ok _
    · exact triggerLoop_present lib _ _ _ _
  · exact .ok _

theorem doRtecmdOpen_present (outcome : IfaceOutcome) (d : RtemgrData) : Present (doRtecmdOpen tbl st outcome d) := by
  unfold doRtecmdOpen
  split
  · exact .ok _
  split
  · exact .ok _
  split
  · exact .ok _
  refine .bind (ifaceBuild_present tbl _ _ _ _ _ _ _) fun built => ?_
  split
  · exact .bind (ifaceFree_present tbl _ _) fun _ => .ok _
  · exact .ok _

theorem closeInterfaces_present (interfaces : List RtemgrIntf) : Present (closeInterfaces tbl st interfaces) := by
  induction interfaces generalizing st with
  | nil => exact .ok st
  | cons intf rest ih =>
      unfold closeInterfaces
      split
      · exact ih st
      · exact .bind (ifaceFree_present tbl _ _) ih

theorem doRtecmdClose_present (d : RtemgrData) : Present (doRtecmdClose tbl st d) := by
  unfold doRtecmdClose
  split
  · exact .ok _
  · exact .map (closeInterfaces_present tbl st _)

theorem doRtecmdRoute_present (left right : Nat → Memory) (d : RtemgrData) :
    Present (doRtecmdRoute lib.toEmitLib st left right d) := by
  unfold doRtecmdRoute
  split
  next =>
    split
    next =>
      split
      · exact .ok _
      · exact .bind (routeSide_present lib st _ _ _) fun _ => .bind (routeSide_present lib _ _ _ _) fun _ => .ok _
    next => exact .ok _
  next => exact .ok _

theorem doRtecmdForget_present_iff {d : RtemgrData} : Present (doRtecmdForget st d) ↔ d.interfaces ≠ [] := by
  unfold doRtecmdForget
  split
  next none => exact iff_of_false (fun present => present rfl) fun some => some none
  next intf rest interfaces =>
    refine iff_of_true ?_ fun none => nomatch interfaces.symm.trans none
    split
    · exact .ok _
    · exact .map (ifaceForget_present st _)

theorem partnerName_present (self : Interface) : Present (partnerName st self) := by
  unfold partnerName
  split
  · exact .ok _
  · exact .map (.deref _ _)

theorem collectLoop_present (realloc : Nat → Bool) (domain : Domain) (ifaces : List IfacePtr) (d : RtemgrData)
    (path : List UInt8) : Present (collectLoop realloc st domain ifaces d path) := by
  induction ifaces generalizing d path with
  | nil => exact .ok d
  | cons iface rest ih =>
      refine .bind (.bind (.deref _ _) fun self => ?_) fun collected => ih _ _
      split
      · exact .fault nofun
      · exact .bind (partnerName_present st self) fun _ => .ok _

theorem listDomains_present (realloc : Nat → Bool) (domains : List Domain) (d : RtemgrData) :
    Present (listDomains realloc st domains d) := by
  induction domains generalizing d with
  | nil => exact .ok d
  | cons domain rest ih => exact .bind (collectLoop_present st _ _ _ _ _) ih

theorem catLoop_present (memory : CatMemory) (busType : BitVec 32) (fuel : Nat) (pending buf : Evbuffer) :
    Present (catLoop memory busType fuel pending buf) := by
  induction fuel generalizing pending buf with
  | zero => exact .ok _
  | succ fuel ih =>
      unfold catLoop
      split
      · exact .ok _
      · exact .ok _
      refine .bind ?_ fun line => ih _ _
      unfold catLine
      split
      · exact .ok _
      split
      · dsimp only
        split
        · exact .fault nofun
        · exact .ok _
      · exact .ok _

theorem doRtecmdCat_present_iff {memory : CatMemory} {d : RtemgrData} :
    Present (doRtecmdCat memory st d) ↔ d.interfaces ≠ [] := by
  unfold doRtecmdCat
  split
  next none => exact iff_of_false (fun present => present rfl) fun some => some none
  next intf rest interfaces =>
    refine iff_of_true ?_ fun none => nomatch interfaces.symm.trans none
    split
    · exact .ok _
    refine .bind (.deref _ _) fun self => ?_
    split
    · exact .bind (.deref _ _) fun _ => .ok _
    split
    · exact .ok _
    refine .bind (catLoop_present _ _ _ _ _) fun value => ?_
    dsimp only
    split
    · exact .ok _
    · exact .ok _

end Commands

/-! ## Managed packets -/

section Packets

variable {Table : Type} (tbl : DescTable Table) (lib : PacketLib) (st : Daemon Table)

theorem receivePacket_present (memory : PacketMemory) (data : List UInt8) :
    Present (receivePacket lib memory data) := by
  unfold receivePacket
  split
  · exact .ok _
  · exact .fault nofun
  · exact .ok _

theorem hexCall_present (memory : ManagedMemory) (dest : Interface) (extra : Extra) (value : List UInt8) :
    Present (hexCall memory dest extra value) := by
  refine .bind ?_ fun arr => ?_
  · unfold hexToArray
    split
    · exact .ok _
    split
    · exact .ok _
    split
    · exact .fault nofun
    · exact .ok _
  split
  · exact .ok _
  split
  · split
    · split
      · exact .ok _
      · exact .ok _
    · exact .ok _
  · exact .ok _

theorem forwardCall_present (memory : ManagedMemory) (iface : IfacePtr) (dest : Interface) (intf : RtemgrIntf)
    (cmd : Rtecmd) (len : Nat) : Present (forwardCall lib memory st iface dest intf cmd len) := by
  unfold forwardCall
  split
  · exact .ok _
  refine .bind (.deref _ _) fun self => .bind (partnerName_present st self) fun partner => ?_
  dsimp only
  split
  · exact .ok _
  · exact .ok _

/-- The number of interfaces is looked at before one is read. -/
theorem packetCall_present (memory : ManagedMemory) (iface : IfacePtr) (d : RtemgrData) (len : Nat) :
    Present (packetCall lib memory st iface d len) := by
  unfold packetCall
  split
  next =>
    split
    · exact .ok _
    refine .bind (.deref _ _) fun dest => ?_
    split
    · exact .ok _
    split
    · exact .ok _
    unfold payloadCall
    dsimp only
    split
    · split
      · exact .ok _
      · exact forwardCall_present lib st _ _ _ _ _ _
    split
    · exact .ok _
    split
    · exact hexCall_present _ _ _ _
    · exact .ok _
  next => exact .ok _

theorem ifaceManagedHandler_present (memory : ManagedMemory) (iface : IfacePtr) (data : List UInt8) :
    Present (ifaceManagedHandler lib memory st iface data) := by
  refine .bind (.bind (receivePacket_present lib _ _) fun received => ?_) fun call => ?_
  · split
    · exact .ok _
    · exact packetCall_present lib st _ _ _ _
  · split
    · exact .ok _
    · exact .bind (XferCall.run_present _ _) fun _ => .ok _

/-! ## The control port -/

/-- `do_rtecmd_forget` and `do_rtecmd_cat` take the first interface for granted. -/
def NamesInterface (d : RtemgrData) : Prop :=
  d.cmd.action.toNat = 5 ∨ d.cmd.action.toNat = 7 → d.interfaces ≠ []

theorem Present.map_iff {α β : Type} {first : Except Fault α} {f : α → β} : Present (first.map f) ↔ Present first := by
  refine ⟨fun present => ?_, .map⟩
  cases first with
  | error fault => exact fun same => present (congrArg Except.error (Except.error.inj same))
  | ok value => exact .ok value

theorem Present.bind_iff {α β : Type} {first : Except Fault α} {rest : α → Except Fault β}
    (later : ∀ value, Present (rest value)) : Present (first >>= rest) ↔ Present first := by
  refine ⟨fun present => ?_, fun present => .bind present later⟩
  cases first with
  | error fault => exact fun same => present (congrArg Except.error (Except.error.inj same))
  | ok value => exact .ok value

theorem ctlAction_present_iff {memory : CtlMemory} {d : RtemgrData} {data : List UInt8} :
    Present (ctlAction tbl lib memory st d data) ↔ NamesInterface d := by
  have other {action : Nat} (is : d.cmd.action.toNat = action) (known : action ≠ 5 ∧ action ≠ 7) : NamesInterface d := by
    rintro (forget | cat)
    · exact (known.1 (is.symm.trans forget)).elim
    · exact (known.2 (is.symm.trans cat)).elim
  unfold ctlAction
  split
  next list =>
    exact iff_of_true (.map (.bind (listDomains_present st _ _ _) fun _ => .ok _)) (other list (by decide))
  next opened => exact iff_of_true (.map (doRtecmdOpen_present tbl st _ d)) (other opened (by decide))
  next close => exact iff_of_true (.map (doRtecmdClose_present tbl st d)) (other close (by decide))
  next route => exact iff_of_true (.map (doRtecmdRoute_present lib st _ _ d)) (other route (by decide))
  next forget =>
    rw [Present.map_iff, doRtecmdForget_present_iff]
    exact ⟨fun named _ => named, fun named => named (.inl forget)⟩
  next xfer =>
    refine iff_of_true ?_ (other xfer (by decide))
    split
    · exact .fault nofun
    · exact .map (ifaceManagedHandler_present lib st _ _ data)
  next cat =>
    rw [Present.map_iff, doRtecmdCat_present_iff]
    exact ⟨fun named _ => named, fun named => named (.inr cat)⟩
  next notForget _ notCat =>
    refine iff_of_true (.ok _) ?_
    rintro (forget | cat)
    · exact (notForget forget).elim
    · exact (notCat cat).elim

theorem sendReply_present (emit : Bool) (d : RtemgrData) : Present (sendReply lib.toEmitLib emit st d) := by
  unfold sendReply
  split
  · exact .fault nofun
  split
  · exact .ok _
  split
  · exact .ok _
  · exact .bind (rteipcXfer_present _ _ _) fun _ => .ok _

/-- Whatever the state, handling an accepted packet reads an absent interface
exactly when the packet asks to forget or to show an interface and has none. -/
theorem absent_interface_iff {memory : CtlMemory} {data : List UInt8} {parsed : ParsedPacket}
    (accepted : rtemgrDataParse lib.decode memory.packet.alloc (lib.events data) = .packet parsed) :
    processCtlport tbl lib memory st data ≠ .error .absentInterface ↔ NamesInterface parsed.d := by
  have received : receivePacket lib memory.packet data =
      .ok (some { parsed.d with cmd.val := parsed.d.cmd.val.inMemory memory.packet.beyond }) := by
    simp only [receivePacket, accepted]
  simp only [processCtlport, received]
  exact (Present.bind_iff fun value => sendReply_present lib value.1 _ value.2).trans (ctlAction_present_iff tbl lib st)

/-- A request for the list has no interface, and needs none. -/
theorem absent_interface_iff_list :
    ∃ parsed, rtemgrDataParse Base64.decode .succeeds (rtemgrDataEmit Base64.encode listPacket) = .packet parsed ∧
      (processCtlport dtblTable (.receiving listPacket) .succeeds .started [] ≠ .error .absentInterface ↔
        NamesInterface parsed.d) := by
  have accepted := rtemgrDataParse_ok (parse_emit Base64.encode listPacket (by decide) (by decide))
    (decodePayload_empty rfl : decodePayload Base64.decode .succeeds _ = some _)
  exact ⟨_, accepted, absent_interface_iff dtblTable (.receiving listPacket) .started accepted⟩

/-- A request to forget nothing. -/
theorem absent_interface_read :
    ¬ ∀ d, processCtlport dtblTable (.receiving d) .succeeds .started [] ≠ .error .absentInterface := by
  intro present
  have handled : (match processCtlport dtblTable (.receiving { rtemgrDataAlloc with cmd.action := 5 }) .succeeds
      .started [] with
    | .error fault => decide (fault = .absentInterface)
    | .ok _ => false) = true := by decide +kernel
  cases result : processCtlport dtblTable (.receiving { rtemgrDataAlloc with cmd.action := 5 }) .succeeds .started [] with
  | error fault =>
      rw [result] at handled
      exact present _ (result.trans (congrArg Except.error (of_decide_eq_true handled)))
  | ok value =>
      rw [result] at handled
      nomatch handled

end Packets

end Rteipc
