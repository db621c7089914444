import Rteipc.Rtemgrd.Ctlport
import Rteipc.Rtemgrd.Routes

namespace Rteipc

/-! What a message at one of the loops makes the daemon do: at most one command,
and transfers, which only move bytes between bufferevents. -/

open Data

/-! ## Transfers -/

/-- Nothing but the bytes in the bufferevents may differ. -/
structure Transferred {Table Cb Arg : Type} (st next : EpState Table Cb Arg) : Prop where
  epTbl : next.epTbl = st.epTbl
  cores : next.cores = st.cores
  loList : next.loList = st.loList
  fresh : next.bevs.next = st.bevs.next
  halves : ∀ bev, (next.bevs.get bev).map Bufferevent.partner = (st.bevs.get bev).map Bufferevent.partner

section Transferred

variable {Table Cb Arg : Type} {st next last : EpState Table Cb Arg}

theorem Transferred.refl (st : EpState Table Cb Arg) : Transferred st st := ⟨rfl, rfl, rfl, rfl, fun _ => rfl⟩

theorem Transferred.trans (first : Transferred st next) (second : Transferred next last) : Transferred st last :=
  ⟨second.epTbl.trans first.epTbl, second.cores.trans first.cores, second.loList.trans first.loList,
    second.fresh.trans first.fresh, fun bev => (second.halves bev).trans (first.halves bev)⟩

theorem Transferred.arrive (st : EpState Table Cb Arg) (other : BevPtr) (change : Bufferevent → Bufferevent)
    (kept : ∀ half, (change half).partner = half.partner) :
    Transferred st { st with bevs := st.bevs.modify other change } := by
  refine ⟨rfl, rfl, rfl, rfl, fun bev => ?_⟩
  rw [Heap.get_modify, Option.map_map]
  congr 1
  funext half
  rw [Function.comp_apply]
  split
  next => exact kept half
  next => rfl

theorem rteipcXfer_transferred {name data : List UInt8} {ret : Int}
    (returned : rteipcXfer st name data = .ok (next, ret)) : Transferred st next := by
  unfold rteipcXfer at returned
  split at returned
  next =>
    cases returned
    exact .refl st
  next =>
    obtain ⟨core, -, returned⟩ := bind_ok returned
    split at returned
    next => nomatch returned
    next =>
      obtain ⟨half, -, returned⟩ := bind_ok returned
      split at returned
      next =>
        cases returned
        exact .refl st
      next other _ =>
        cases returned
        exact .arrive st other _ fun _ => rfl

theorem XferCall.run_transferred {call : XferCall} {ret : Int} (returned : call.run st = .ok (next, ret)) :
    Transferred st next := by
  rw [call.run_eq] at returned
  exact rteipcXfer_transferred returned

end Transferred

/-! ## The work for one message -/

variable {Table : Type} {tbl : DescTable Table} {lib : PacketLib} {st next : Daemon Table} {msg : LoopMessage}

/-- The command in a message for the control port. -/
def Requests (lib : PacketLib) (msg : LoopMessage) (d : RtemgrData) : Prop :=
  strmatch msg.loop.name rtemgrdCtlport = true ∧
    ∃ parsed, receivePacket lib msg.memory.packet msg.data = .ok (some parsed) ∧ d = parsed.withError (-1)

/-- The command a message is, or the transfer or the queue that is all it changes. -/
inductive Handled (tbl : DescTable Table) (lib : PacketLib) (st : Daemon Table) (msg : LoopMessage) :
    Daemon Table → Prop
  | opened {next : Daemon Table} {d : RtemgrData} {ret : Int} (requested : Requests lib msg d)
      (action : d.cmd.action.toNat = 2) (returned : doRtecmdOpen tbl st msg.memory.iface d = .ok (next, ret)) :
      Handled tbl lib st msg next
  | closed {next : Daemon Table} {d : RtemgrData} {ret : Int} (requested : Requests lib msg d)
      (action : d.cmd.action.toNat = 3) (returned : doRtecmdClose tbl st d = .ok (next, ret)) :
      Handled tbl lib st msg next
  | routed {next : Daemon Table} {d : RtemgrData} {ret : Int}
      (returned : doRtecmdRoute lib.toEmitLib st msg.memory.left msg.memory.right d = .ok (next, ret)) :
      Handled tbl lib st msg next
  | forgot {next : Daemon Table} {d : RtemgrData} {ret : Int} (returned : doRtecmdForget st d = .ok (next, ret)) :
      Handled tbl lib st msg next
  | arrived {next : Daemon Table} {iface : IfacePtr}
      (returned : ifaceRawHandler lib.toEmitLib msg.raw st iface msg.data = .ok next) : Handled tbl lib st msg next
  | queued (iface : IfacePtr) (pending : Evbuffer) :
      Handled tbl lib st msg { st with ifaces := st.ifaces.modify iface fun self => { self with pending } }
  | transferred {ep : EpState Table DaemonCb IfacePtr} (moved : Transferred st.lib ep) :
      Handled tbl lib st msg { st with lib := ep }

theorem doRtecmdCat_handled {memory : CatMemory} {d : RtemgrData} {result : RtemgrData × Int}
    (returned : doRtecmdCat memory st d = .ok (next, result)) : Handled tbl lib st msg next := by
  have same : Handled tbl lib st msg st := .transferred (.refl st.lib)
  unfold doRtecmdCat at returned
  split at returned
  next => nomatch returned
  next =>
    split at returned
    next =>
      cases returned
      exact same
    next iface _ =>
      obtain ⟨self, -, returned⟩ := bind_ok returned
      split at returned
      next =>
        obtain ⟨_, -, returned⟩ := bind_ok returned
        cases returned
        exact same
      next =>
        split at returned
        next =>
          cases returned
          exact same
        next =>
          obtain ⟨⟨whole, pending, buf⟩, -, returned⟩ := bind_ok returned
          dsimp only at returned
          split at returned
          next =>
            cases returned
            exact .queued iface pending
          next =>
            cases returned
            exact .queued iface pending

theorem ifaceManagedHandler_handled {memory : ManagedMemory} {iface : IfacePtr} {data : List UInt8}
    (returned : ifaceManagedHandler lib memory st iface data = .ok next) : Handled tbl lib st msg next := by
  obtain ⟨call, -, returned⟩ := bind_ok returned
  split at returned
  next =>
    cases returned
    exact .transferred (.refl st.lib)
  next =>
    obtain ⟨sent, run, returned⟩ := bind_ok returned
    cases returned
    exact .transferred (XferCall.run_transferred run)

theorem ctlAction_handled {d reply : RtemgrData} (requested : Requests lib msg d)
    (returned : ctlAction tbl lib msg.memory st d msg.data = .ok (next, reply)) : Handled tbl lib st msg next := by
  have same : Handled tbl lib st msg st := .transferred (.refl st.lib)
  unfold ctlAction at returned
  split at returned
  next =>
    obtain ⟨done, -, returned⟩ := map_ok returned
    cases returned
    exact same
  next action =>
    obtain ⟨done, opened, returned⟩ := map_ok returned
    cases returned
    exact .opened requested action opened
  next action =>
    obtain ⟨done, closed, returned⟩ := map_ok returned
    cases returned
    exact .closed requested action closed
  next =>
    obtain ⟨done, routed, returned⟩ := map_ok returned
    cases returned
    exact .routed routed
  next =>
    obtain ⟨done, forgot, returned⟩ := map_ok returned
    cases returned
    exact .forgot forgot
  next =>
    split at returned
    next => nomatch returned
    next =>
      obtain ⟨done, handled, returned⟩ := map_ok returned
      cases returned
      exact ifaceManagedHandler_handled handled
  next =>
    obtain ⟨done, shown, returned⟩ := map_ok returned
    cases returned
    exact doRtecmdCat_handled shown
  next =>
    cases returned
    exact same

theorem sendReply_transferred {emit : Bool} {d : RtemgrData} {sent : Option (List UInt8 × Int)}
    (returned : sendReply lib.toEmitLib emit st d = .ok (next, sent)) :
    ∃ ep, Transferred st.lib ep ∧ next = { st with lib := ep } := by
  unfold sendReply at returned
  split at returned
  next => nomatch returned
  next =>
    split at returned
    next =>
      cases returned
      exact ⟨st.lib, .refl st.lib, rfl⟩
    next =>
      split at returned
      next =>
        cases returned
        exact ⟨st.lib, .refl st.lib, rfl⟩
      next =>
        obtain ⟨value, transfer, returned⟩ := bind_ok returned
        cases returned
        exact ⟨value.1, rteipcXfer_transferred transfer, rfl⟩

/-! ## What stays when nothing is opened or closed -/

/-- An interface without the data that routes and messages change. -/
def Interface.identity (self : Interface) : Interface := { self with partner := none, pending := [] }

/-- The endpoints, the lists and the interfaces are as before, but for bytes, partners and queues. -/
structure Steady (st next : Daemon Table) : Prop where
  lib : Transferred st.lib next.lib
  lists : next.domainList = st.domainList
  ctrl : next.ctrlIface = st.ctrlIface
  fresh : next.ifaces.next = st.ifaces.next
  ifaces : ∀ iface, (next.ifaces.get iface).map Interface.identity = (st.ifaces.get iface).map Interface.identity

section Steady

variable {last : Daemon Table} {iface : IfacePtr}

theorem Steady.trans (first : Steady st next) (second : Steady next last) : Steady st last :=
  ⟨first.lib.trans second.lib, second.lists.trans first.lists, second.ctrl.trans first.ctrl,
    second.fresh.trans first.fresh, fun iface => (second.ifaces iface).trans (first.ifaces iface)⟩

theorem Steady.of_lib {ep : EpState Table DaemonCb IfacePtr} (moved : Transferred st.lib ep) :
    Steady st { st with lib := ep } :=
  ⟨moved, rfl, rfl, rfl, fun _ => rfl⟩

theorem Steady.refl (st : Daemon Table) : Steady st st := .of_lib (.refl st.lib)

theorem Steady.of_modify (st : Daemon Table) (iface : IfacePtr) (change : Interface → Interface)
    (kept : ∀ self, (change self).identity = self.identity) :
    Steady st { st with ifaces := st.ifaces.modify iface change } := by
  refine ⟨.refl st.lib, rfl, rfl, rfl, fun other => ?_⟩
  rw [Heap.get_modify, Option.map_map]
  congr 1
  funext self
  rw [Function.comp_apply]
  split
  next => exact kept self
  next => rfl

theorem Steady.live (steady : Steady st next) {self : Interface} (live : st.ifaces.get iface = some self) :
    ∃ after, next.ifaces.get iface = some after ∧ after.identity = self.identity := by
  have same := steady.ifaces iface
  rw [live, Option.map_some, Option.map_eq_some_iff] at same
  exact same

theorem ifaceRawHandler_steady {emitLib : EmitLib} {memory : Memory} {data : List UInt8}
    (returned : ifaceRawHandler emitLib memory st iface data = .ok next) : Steady st next := by
  obtain ⟨ep, rfl, rfl | ⟨name, sent, ret, transfer⟩⟩ | rfl := ifaceRawHandler_ok returned
  · exact .refl st
  · exact .of_lib (rteipcXfer_transferred transfer)
  · refine .of_modify st iface _ fun self => ?_
    unfold ifacePending
    split
    · rfl
    · rfl

theorem triggerLoop_steady {emitLib : EmitLib} {memory : Nat → Memory} {fuel : Nat}
    (returned : triggerLoop emitLib memory iface fuel st = .ok next) : Steady st next := by
  induction fuel generalizing st with
  | zero =>
      cases returned
      exact .refl _
  | succ fuel ih =>
      obtain ⟨self, -, returned⟩ := bind_ok returned
      split at returned
      next msg pending drained =>
        obtain ⟨handled, handler, returned⟩ := bind_ok returned
        have queue : Steady st { st with ifaces := st.ifaces.modify iface fun self => { self with pending } } :=
          .of_modify st iface _ fun _ => rfl
        exact queue.trans ((ifaceRawHandler_steady handler).trans (ih returned))
      next =>
        cases returned
        exact .refl _

theorem routeSide_steady {emitLib : EmitLib} {memory : Nat → Memory} {other : IfacePtr}
    (returned : routeSide emitLib memory st iface other = .ok next) : Steady st next := by
  obtain ⟨self, -, returned⟩ := bind_ok returned
  split at returned
  next =>
    obtain ⟨routed, -, returned⟩ := bind_ok returned
    refine (Steady.of_modify st iface (fun self => { self with partner := some other }) fun _ => rfl).trans ?_
    split at returned
    next =>
      cases returned
      exact .refl _
    next => exact triggerLoop_steady returned
  next =>
    cases returned
    exact .refl st

theorem doRtecmdRoute_steady {emitLib : EmitLib} {left right : Nat → Memory} {d : RtemgrData} {ret : Int}
    (returned : doRtecmdRoute emitLib st left right d = .ok (next, ret)) : Steady st next := by
  unfold doRtecmdRoute at returned
  split at returned
  next =>
    split at returned
    next =>
      split at returned
      next =>
        cases returned
        exact .refl st
      next =>
        obtain ⟨middle, first, returned⟩ := bind_ok returned
        obtain ⟨last, second, returned⟩ := bind_ok returned
        cases returned
        exact (routeSide_steady first).trans (routeSide_steady second)
    next =>
      cases returned
      exact .refl st
  next =>
    cases returned
    exact .refl st

theorem forgetting_identity {self : Interface} {forget : IfacePtr} :
    (self.forgetting iface forget).identity = self.identity := by
  unfold Interface.forgetting
  split
  · rfl
  · rfl

theorem ifaceForget_steady (returned : ifaceForget st iface = .ok next) : Steady st next := by
  obtain ⟨self, ifaces, -, rfl, ⟨-, ⟨-, rfl⟩ | ⟨partner, -, rfl⟩⟩ | ⟨-, rfl⟩⟩ := ifaceForget_ok returned
  · exact .refl st
  · have first := Steady.of_modify st partner .unrouted fun _ => rfl
    exact first.trans (.of_modify _ iface .unrouted fun _ => rfl)
  · refine ⟨.refl st.lib, rfl, rfl, forgetAll_next, fun other => ?_⟩
    rw [forgetAll_get, Option.map_map]
    congr 1
    funext before
    rw [Function.comp_apply]
    split
    next => exact forgetting_identity
    next => rfl

theorem doRtecmdForget_steady {d : RtemgrData} {ret : Int} (returned : doRtecmdForget st d = .ok (next, ret)) :
    Steady st next := by
  obtain rfl | ⟨intf, -, iface, -, forget⟩ := doRtecmdForget_ok returned
  · exact .refl next
  · exact ifaceForget_steady forget

/-- Only two commands open or close anything. -/
theorem Handled.steady_or (handled : Handled tbl lib st msg next) :
    Steady st next ∨ ∃ d ret, Requests lib msg d ∧
      (d.cmd.action.toNat = 2 ∧ doRtecmdOpen tbl st msg.memory.iface d = .ok (next, ret) ∨
        d.cmd.action.toNat = 3 ∧ doRtecmdClose tbl st d = .ok (next, ret)) := by
  cases handled with
  | opened requested action returned => exact .inr ⟨_, _, requested, .inl ⟨action, returned⟩⟩
  | closed requested action returned => exact .inr ⟨_, _, requested, .inr ⟨action, returned⟩⟩
  | routed returned => exact .inl (doRtecmdRoute_steady returned)
  | forgot returned => exact .inl (doRtecmdForget_steady returned)
  | arrived returned => exact .inl (ifaceRawHandler_steady returned)
  | queued iface pending => exact .inl (.of_modify st iface _ fun _ => rfl)
  | transferred moved => exact .inl (.of_lib moved)

end Steady

theorem RouteInv.handled (inv : RouteInv st) (handled : Handled tbl lib st msg next) : RouteInv next := by
  cases handled with
  | opened requested action returned => exact (doRtecmdOpen_routes inv returned).1
  | closed requested action returned => exact (doRtecmdClose_routes inv returned).1
  | routed returned => exact (doRtecmdRoute_routes inv returned).1
  | forgot returned => exact (doRtecmdForget_routes inv returned).1
  | arrived returned => exact (ifaceRawHandler_sameRoutes returned).same_inv inv
  | queued iface pending =>
      have same : SameRoutes st { st with ifaces := st.ifaces.modify iface fun self => { self with pending } } :=
        .of_modify st iface _ (fun _ _ => ⟨rfl, rfl⟩) fun _ _ _ => rfl
      exact same.same_inv inv
  | transferred moved => exact (SameRoutes.of_lib st _).same_inv inv

/-! ### Managed interfaces have no partner -/

section Hubs

theorem closeInterfaces_hubs {interfaces : List RtemgrIntf} (inv : RouteInv st) (hubs : HubsAlone st.partners)
    (returned : closeInterfaces tbl st interfaces = .ok next) : RouteInv next ∧ HubsAlone next.partners := by
  have start : RouteInv st ∧ HubsAlone st.partners := ⟨inv, hubs⟩
  apply closeInterfaces_keeps _ start returned
  intro intf _ before after iface kept found free
  obtain ⟨graph, afterInv⟩ := ifaceFree_partners kept.1 (ifaceOf_listed found) free
  refine ⟨afterInv, ?_⟩
  rw [graph]
  exact kept.2.remove iface

theorem doRtecmdOpen_hubs {outcome : IfaceOutcome} {d : RtemgrData} {ret : Int} (inv : RouteInv st)
    (hubs : HubsAlone st.partners) (returned : doRtecmdOpen tbl st outcome d = .ok (next, ret)) :
    HubsAlone next.partners := by
  obtain ⟨rfl, -⟩ | ⟨intf, rest, domain, made, failed, -, found, -, -, build, ended⟩ := doRtecmdOpen_ok returned
  · exact hubs
  obtain ⟨opened, id, both, ep, lib, -, -, rfl, -⟩ := ifaceBuild_ok build
  have inside := domainLookupById_inside found
  let make : Interface → Interface := fun self =>
    self.built id ep intf.name.text ((busToPrefix intf.busType ++ intf.path.text).take 127) intf.busType intf.managed
  have madeHubs : HubsAlone (built st lib domain make).partners := by
    rw [built_partners inside rfl]
    exact hubs.add _ _
  rcases ended with ⟨-, -, rfl⟩ | ⟨-, -, free⟩
  · exact madeHubs
  · have madeInv : RouteInv (built st lib domain make) := inv.built inside rfl rfl
    have listed : Listed (built st lib domain make) st.ifaces.next := (built_listed inside).mpr (.inl rfl)
    rw [(ifaceFree_partners madeInv listed free).1]
    exact madeHubs.remove _

theorem HubsAlone.handled (inv : RouteInv st) (hubs : HubsAlone st.partners) (handled : Handled tbl lib st msg next) :
    HubsAlone next.partners := by
  cases handled with
  | opened requested action returned => exact doRtecmdOpen_hubs inv hubs returned
  | closed requested action returned => exact (closeInterfaces_hubs inv hubs (doRtecmdClose_ok returned)).2
  | routed returned =>
      obtain ⟨-, ⟨-, rfl⟩ | ⟨l, r, -, differ, -, -, graph⟩⟩ := doRtecmdRoute_routes inv returned
      · exact hubs
      · rw [graph]
        exact hubs.connect differ
  | forgot returned =>
      obtain rfl | ⟨intf, -, iface, found, forget⟩ := doRtecmdForget_ok returned
      · exact hubs
      · rw [(ifaceForget_partners inv (ifaceOf_listed found) forget).1]
        exact hubs.forget iface
  | arrived returned =>
      rw [(ifaceRawHandler_sameRoutes returned).same_partners]
      exact hubs
  | queued iface pending =>
      have same : SameRoutes st { st with ifaces := st.ifaces.modify iface fun self => { self with pending } } :=
        .of_modify st iface _ (fun _ _ => ⟨rfl, rfl⟩) fun _ _ _ => rfl
      rw [same.same_partners]
      exact hubs
  | transferred moved =>
      rw [(SameRoutes.of_lib st _).same_partners]
      exact hubs

end Hubs

theorem RtemgrdStep.handled (taken : RtemgrdStep tbl lib st msg next) :
    ∃ middle ep, Handled tbl lib st msg middle ∧ Transferred middle.lib ep ∧ next = { middle with lib := ep } := by
  obtain ⟨-, -, reply, returned⟩ := taken
  have done {middle : Daemon Table} (handled : Handled tbl lib st msg middle) :
      ∃ other ep, Handled tbl lib st msg other ∧ Transferred other.lib ep ∧ middle = { other with lib := ep } :=
    ⟨middle, middle.lib, handled, .refl middle.lib, rfl⟩
  unfold defaultDomainHandler at returned
  split at returned
  next control =>
    obtain ⟨received, read, returned⟩ := bind_ok returned
    split at returned
    next =>
      cases returned
      exact done (.transferred (.refl st.lib))
    next d =>
      obtain ⟨⟨middle, replied⟩, action, returned⟩ := bind_ok returned
      obtain ⟨ep, moved, rfl⟩ := sendReply_transferred returned
      exact ⟨middle, ep, ctlAction_handled ⟨control, d, read, rfl⟩ action, moved, rfl⟩
  next =>
    split at returned
    next =>
      cases returned
      exact done (.transferred (.refl st.lib))
    next iface _ =>
      obtain ⟨after, handler, returned⟩ := map_ok returned
      cases returned
      obtain ⟨self, -, handler⟩ := bind_ok handler
      split at handler
      next =>
        cases handler
        exact done (.transferred (.refl st.lib))
      next => exact done (.arrived handler)
      next => exact done (ifaceManagedHandler_handled handler)

end Rteipc
