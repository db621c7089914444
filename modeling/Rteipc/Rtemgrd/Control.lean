import Rteipc.Rtemgrd.Connections
import Rteipc.Rtemgrd.Replies

namespace Rteipc

/-! The control interface stays as it was set up until a close command names it. -/

open Data

/-- The control interface is the first of the default domain, and its loop and
its IPC endpoint are open and bound to each other. -/
structure CtrlPermanent (ctrl : IfacePtr) (loop ipc : EpPtr) (st : Daemon (Dtbl EpPtr)) : Prop where
  pointer : st.ctrlIface = some ctrl
  listed : ∃ rest, st.domainList[0]? = some ⟨0, ctrl :: rest⟩
  endpoints : ∃ self, st.ifaces.get ctrl = some self ∧ self.name = rtemgrdCtlport ∧
    dtblGet st.lib.epTbl self.id = some loop ∧ dtblGet st.lib.epTbl self.ep = some ipc
  loopType : (st.lib.cores.get loop).map EpCore.type = some .loop
  ipcType : (st.lib.cores.get ipc).map EpCore.type = some .ipc
  bound : BoundTo dtblTable st.lib loop ipc
  node : ∃ lo ∈ st.lib.loList, lo.self = loop ∧ lo.name = rtemgrdCtlport

def NamesCtrl (intf : RtemgrIntf) : Prop := intf.domain = 0 ∧ intf.name.text = rtemgrdCtlport

/-- The message is no command to close the control interface. -/
def CtrlSpared (lib : PacketLib) (msg : LoopMessage) : Prop :=
  ∀ d, Requests lib msg d → d.cmd.action.toNat = 3 → ∀ intf ∈ d.interfaces, ¬NamesCtrl intf

/-- The same with the wire between the endpoints. -/
structure CtrlWired (ctrl : IfacePtr) (wire : Wire) (st : Daemon (Dtbl EpPtr)) : Prop where
  pointer : st.ctrlIface = some ctrl
  listed : ∃ rest, st.domainList[0]? = some ⟨0, ctrl :: rest⟩
  owner : ∃ self, st.ifaces.get ctrl = some self ∧ self.name = rtemgrdCtlport ∧ Connected st.lib self wire
  loopType : wire.core.type = .loop
  ipcType : wire.partner.type = .ipc

section Control

variable {lib : PacketLib} {st next : Daemon (Dtbl EpPtr)} {ctrl iface : IfacePtr} {wire : Wire} {loop ipc : EpPtr}
  {intf : RtemgrIntf} {msg : LoopMessage}

theorem CtrlWired.permanent (wired : CtrlWired ctrl wire st) : CtrlPermanent ctrl wire.ep wire.other st := by
  obtain ⟨self, live, named, connected⟩ := wired.owner
  have attached := connected.attached
  refine ⟨wired.pointer, wired.listed, ⟨self, live, named, ?_, ?_⟩, ?_, ?_, attached.boundTo, ?_⟩
  · rw [← connected.id]
    exact attached.found
  · rw [← connected.ep]
    exact attached.otherFound
  · rw [attached.live, Option.map_some, wired.loopType]
  · rw [attached.otherLive, Option.map_some, wired.ipcType]
  · obtain ⟨lo, member, isSelf, isNamed⟩ := connected.loop wired.loopType
    exact ⟨lo, member, isSelf, isNamed.trans named⟩

theorem CtrlPermanent.wired (permanent : CtrlPermanent ctrl loop ipc st) (connections : Connections st) :
    ∃ wire, CtrlWired ctrl wire st ∧ wire.ep = loop ∧ wire.other = ipc := by
  obtain ⟨rest, first⟩ := permanent.listed
  obtain ⟨self, live, named, loopFound, ipcFound⟩ := permanent.endpoints
  have listed : Listed st ctrl := ⟨0, _, first, List.mem_cons_self⟩
  obtain ⟨wire, connected⟩ := connections.connected ctrl self listed live
  have attached := connected.attached
  have isLoop : wire.ep = loop := by
    have found := attached.found
    rw [connected.id, loopFound] at found
    exact (Option.some.inj found).symm
  have isIpc : wire.other = ipc := by
    have found := attached.otherFound
    rw [connected.ep, ipcFound] at found
    exact (Option.some.inj found).symm
  have loopType := permanent.loopType
  have ipcType := permanent.ipcType
  rw [← isLoop, attached.live] at loopType
  rw [← isIpc, attached.otherLive] at ipcType
  exact ⟨wire, ⟨permanent.pointer, permanent.listed, ⟨self, live, named, connected⟩, Option.some.inj loopType,
    Option.some.inj ipcType⟩, isLoop, isIpc⟩

/-! ## The record that names it -/

theorem CtrlWired.home (wired : CtrlWired ctrl wire st) (inv : RouteInv st) :
    ∃ self, st.ifaces.get ctrl = some self ∧ self.name = rtemgrdCtlport ∧ self.domain = 0 := by
  obtain ⟨rest, first⟩ := wired.listed
  obtain ⟨self, live, named, -⟩ := wired.owner
  obtain ⟨same, sameLive, here⟩ := inv.listed 0 _ ctrl first List.mem_cons_self
  cases live.symm.trans sameLive
  exact ⟨self, live, named, here⟩

theorem CtrlWired.domain (wired : CtrlWired ctrl wire st) {id : BitVec 32} :
    domainLookupById st id = some 0 ↔ id = 0 := by
  obtain ⟨rest, first⟩ := wired.listed
  unfold domainLookupById
  cases domains : st.domainList with
  | nil =>
      rw [domains] at first
      nomatch first
  | cons domain others =>
      rw [domains] at first
      cases first
      rw [List.findIdx?_cons]
      split
      next same => simpa using (of_decide_eq_true same).symm
      next differ =>
        constructor
        · intro found
          obtain ⟨position, -, isNext⟩ := Option.map_eq_some_iff.mp found
          nomatch isNext
        · rintro rfl
          simp at differ

theorem CtrlWired.ifaceOf_iff (wired : CtrlWired ctrl wire st) (inv : RouteInv st) :
    ifaceOf st intf = some ctrl ↔ NamesCtrl intf := by
  obtain ⟨self, live, named, here⟩ := wired.home inv
  obtain ⟨rest, first⟩ := wired.listed
  constructor
  · intro found
    obtain ⟨position, looked, found⟩ := Option.bind_eq_some_iff.mp found
    obtain ⟨domain, there, found⟩ := Option.bind_eq_some_iff.mp found
    have matches_ := List.find?_some found
    rw [live, Option.any_some, strmatch_iff] at matches_
    obtain ⟨same, sameLive, isPosition⟩ := inv.listed position domain ctrl there (List.mem_of_find?_eq_some found)
    cases live.symm.trans sameLive
    have isZero : position = 0 := isPosition.symm.trans here
    subst isZero
    exact ⟨wired.domain.mp looked, matches_.symm.trans named⟩
  · rintro ⟨isDefault, isName⟩
    have matches_ : (st.ifaces.get ctrl).any (fun self => strmatch self.name intf.name.text) = true := by
      rw [live, Option.any_some, strmatch_iff, named, isName]
    rw [ifaceOf, wired.domain.mpr isDefault]
    simp [ifaceLookupByName, first, matches_]

/-! ## Commands -/

theorem CtrlWired.extends_ (wired : CtrlWired ctrl wire st) (extends_ : Extends st next) : CtrlWired ctrl wire next where
  pointer := extends_.ctrl.trans wired.pointer
  listed := by
    obtain ⟨rest, first⟩ := wired.listed
    obtain ⟨more, kept⟩ := extends_.lists 0 _ first
    exact ⟨rest ++ more, kept⟩
  owner := by
    obtain ⟨self, live, named, connected⟩ := wired.owner
    obtain ⟨after, afterLive, same⟩ := extends_.ifaces ctrl self live
    have kept := extends_.connected self wire connected
    exact ⟨after, afterLive, (identity_fields same).2.2.trans named,
      kept.kept kept.attached (.of_mem fun _ member _ => member) same⟩
  loopType := wired.loopType
  ipcType := wired.ipcType

theorem Domain.remove_first {id : BitVec 32} {rest : List IfacePtr} (differ : ctrl ≠ iface) :
    ∃ fewer, (⟨id, ctrl :: rest⟩ : Domain).remove iface = ⟨id, ctrl :: fewer⟩ := by
  refine ⟨rest.filter fun other => other ≠ iface, ?_⟩
  simp [Domain.remove, differ]

theorem CtrlWired.freed (wired : CtrlWired ctrl wire st) (connections : Connections st) (inv : DaemonInv st)
    (listed : Listed st iface) (differ : iface ≠ ctrl) (returned : ifaceFree dtblTable st iface = .ok next) :
    CtrlWired ctrl wire next := by
  obtain ⟨rest, first⟩ := wired.listed
  obtain ⟨self, live, named, connected⟩ := wired.owner
  have ctrlListed : Listed st ctrl := ⟨0, _, first, List.mem_cons_self⟩
  have kept := connections.freed_connected inv listed returned differ ctrlListed live connected
  obtain ⟨owner, closed, freed, -, -⟩ := ifaceFree_freed returned
  obtain ⟨after, afterLive, same⟩ := freed.stays differ.symm self live
  refine ⟨freed.ctrl.trans wired.pointer, ?_, ⟨after, afterLive, (identity_fields same).2.2.trans named,
    kept.kept kept.attached (.of_mem fun _ member _ => member) same⟩, wired.loopType, wired.ipcType⟩
  rw [freed.lists, List.getElem?_modify, first, Option.map_eq_map, Option.map_some]
  split
  · obtain ⟨fewer, removed⟩ := Domain.remove_first differ.symm
    exact ⟨fewer, congrArg some removed⟩
  · exact ⟨rest, rfl⟩

theorem CtrlWired.closed {interfaces : List RtemgrIntf} (wired : CtrlWired ctrl wire st) (connections : Connections st)
    (inv : DaemonInv st) (spared : ∀ intf ∈ interfaces, ¬NamesCtrl intf)
    (returned : closeInterfaces dtblTable st interfaces = .ok next) :
    CtrlWired ctrl wire next ∧ IfaceStays st next ctrl := by
  have start : (DaemonInv st ∧ Connections st) ∧ CtrlWired ctrl wire st ∧ IfaceStays st st ctrl :=
    ⟨⟨inv, connections⟩, wired, .refl _ ctrl⟩
  suffices all : (DaemonInv next ∧ Connections next) ∧ CtrlWired ctrl wire next ∧ IfaceStays st next ctrl from all.2
  apply closeInterfaces_keeps _ start returned
  intro intf member before after iface kept found free
  obtain ⟨⟨inv, connections⟩, wired, stays⟩ := kept
  have listed := ifaceOf_listed found
  have differ : iface ≠ ctrl := by
    rintro rfl
    exact spared intf member ((wired.ifaceOf_iff inv.routes).mp found)
  obtain ⟨owner, closed, gone, -, -⟩ := ifaceFree_freed free
  exact ⟨⟨inv.freed listed free, connections.freed inv listed free⟩, wired.freed connections inv listed differ free,
    stays.trans (gone.stays differ.symm)⟩

theorem closeInterfaces_gone {interfaces : List RtemgrIntf} (gone : st.ifaces.get ctrl = none)
    (returned : closeInterfaces dtblTable st interfaces = .ok next) : next.ifaces.get ctrl = none := by
  apply closeInterfaces_keeps _ gone returned
  intro intf _ before after iface gone _ free
  obtain ⟨owner, closed, freed, -, -⟩ := ifaceFree_freed free
  by_cases same : ctrl = iface
  · rw [same]
    exact freed.gone
  · have fields := freed.others ctrl same
    rw [gone, Option.map_none, Option.map_eq_none_iff] at fields
    exact fields

theorem CtrlWired.named {interfaces : List RtemgrIntf} (wired : CtrlWired ctrl wire st) (connections : Connections st)
    (inv : DaemonInv st) (named : ∃ intf ∈ interfaces, NamesCtrl intf)
    (returned : closeInterfaces dtblTable st interfaces = .ok next) : next.ifaces.get ctrl = none := by
  induction interfaces generalizing st with
  | nil =>
      obtain ⟨intf, member, -⟩ := named
      nomatch member
  | cons intf rest ih =>
      have later : ¬NamesCtrl intf → ∃ other ∈ rest, NamesCtrl other := by
        intro notFirst
        obtain ⟨other, member, names⟩ := named
        rcases List.mem_cons.mp member with rfl | inRest
        · exact (notFirst names).elim
        · exact ⟨other, inRest, names⟩
      unfold closeInterfaces at returned
      split at returned
      next missing =>
        refine ih wired connections inv (later fun names => ?_) returned
        exact nomatch missing.symm.trans ((wired.ifaceOf_iff inv.routes).mpr names)
      next iface found =>
        obtain ⟨after, free, returned⟩ := bind_ok returned
        have listed := ifaceOf_listed found
        by_cases isCtrl : iface = ctrl
        · subst isCtrl
          obtain ⟨owner, closed, freed, -, -⟩ := ifaceFree_freed free
          exact closeInterfaces_gone freed.gone returned
        · refine ih (wired.freed connections inv listed isCtrl free) (connections.freed inv listed free)
            (inv.freed listed free) (later fun names => ?_) returned
          cases found.symm.trans ((wired.ifaceOf_iff inv.routes).mpr names)
          exact isCtrl rfl

/-! ## Steps -/

theorem CtrlWired.handled (wired : CtrlWired ctrl wire st) (connections : Connections st) (inv : DaemonInv st)
    (spared : CtrlSpared lib msg) (handled : Handled dtblTable lib st msg next) :
    CtrlWired ctrl wire next ∧ IfaceStays st next ctrl := by
  obtain steady | ⟨d, ret, requested, ⟨-, opened⟩ | ⟨action, closed⟩⟩ := handled.steady_or
  · exact ⟨wired.extends_ steady.extends_, steady.extends_.ifaces ctrl⟩
  · have extends_ := (connections.opened inv opened).2
    exact ⟨wired.extends_ extends_, extends_.ifaces ctrl⟩
  · exact wired.closed connections inv (spared d requested action) (doRtecmdClose_ok closed)

theorem CtrlWired.step (wired : CtrlWired ctrl wire st) (connections : Connections st) (inv : DaemonInv st)
    (spared : CtrlSpared lib msg) (taken : RtemgrdStep dtblTable lib st msg next) : CtrlWired ctrl wire next := by
  obtain ⟨middle, ep, handled, moved, rfl⟩ := taken.handled
  exact (wired.handled connections inv spared handled).1.extends_ (Steady.of_lib moved).extends_

theorem Requests.close {d : RtemgrData} (requested : Requests lib msg d) (action : d.cmd.action.toNat = 3)
    (given : d.interfaces ≠ []) (taken : RtemgrdStep dtblTable lib st msg next) :
    ∃ middle, closeInterfaces dtblTable st d.interfaces = .ok middle ∧ next.ifaces = middle.ifaces := by
  obtain ⟨control, parsed, received, rfl⟩ := requested
  obtain ⟨-, -, reply, returned⟩ := taken
  rw [defaultDomainHandler, if_pos control, processCtlport, received] at returned
  have packet : ctlPacket dtblTable lib msg.memory st parsed msg.data = .ok (next, reply) := returned
  obtain ⟨⟨middle, replied⟩, acted, sent⟩ := bind_ok packet
  obtain ⟨ep, -, rfl⟩ := sendReply_transferred sent
  rw [ctlAction, action] at acted
  obtain ⟨done, closed, acted⟩ := map_ok acted
  cases acted
  exact ⟨done.1, doRtecmdClose_ok closed, rfl⟩

end Control

/-! ## From start-up on -/

theorem start_connections (ctrlIface : Option IfacePtr) :
    DaemonInv { Daemon.start dtblTable with ctrlIface } ∧ Connections { Daemon.start dtblTable with ctrlIface } := by
  have nothing : ∀ iface, ¬Listed { Daemon.start dtblTable with ctrlIface } iface := by
    rintro iface ⟨position, domain, found, member⟩
    cases position with
    | zero =>
        cases found
        nomatch member
    | succ position => nomatch found
  refine ⟨⟨(start_routes ctrlIface).1, .start, nofun⟩, ⟨⟨nofun, nofun⟩, ?_, ?_⟩⟩
  · intro iface self listed
    exact (nothing iface listed).elim
  · intro iface self other peer listed
    exact (nothing iface listed).elim

theorem ctlport_loop : parseUri rtemgrdCtlport = some (.loop, rtemgrdCtlport) := by decide +kernel

theorem ctlport_ipc : parseUri ((busToPrefix EpType.ipc.number ++ rtemgrdCtlport).take 127) = some (.ipc, rtemgrdCtlport) := by
  decide +kernel

section Runs

variable {st : Daemon (Dtbl EpPtr)} {outcome : IfaceOutcome}

def settingUp : Daemon (Dtbl EpPtr) :=
  { Daemon.start dtblTable with ctrlIface := some (Daemon.start dtblTable).ifaces.next }

theorem rtemgrd_build (started : rtemgrd dtblTable outcome = .ok (st, 0)) :
    ifaceBuild dtblTable (grown settingUp 0) outcome settingUp.ifaces.next rtemgrdCtlport rtemgrdCtlport
      EpType.ipc.number 1 = .ok (st, 0) := by
  obtain ⟨-, failed⟩ | build := rtemgrd_ok started
  · nomatch failed
  · exact build

theorem rtemgrd_wired (started : rtemgrd dtblTable outcome = .ok (st, 0)) :
    Connections st ∧ ∃ ctrl wire, CtrlWired ctrl wire st := by
  have build := rtemgrd_build started
  obtain ⟨inv, connections⟩ : DaemonInv settingUp ∧ Connections settingUp := start_connections _
  have short : rtemgrdCtlport.length ≤ 128 := by decide
  have live : (grown settingUp 0).ifaces.get settingUp.ifaces.next = some (freshInterface 0) := Heap.get_alloc_next
  have registry : Registry (grown settingUp 0).lib := inv.registry
  have below : BevsBelow (grown settingUp 0).lib := connections.below
  obtain ⟨self, wire, idPath, epPath, selfLive, named, connected, -, loopType, ipcType⟩ :=
    ifaceBuild_connects registry below short live build
  rw [ctlport_loop] at loopType
  rw [ctlport_ipc] at ipcType
  have made := (connections.built inv Nat.zero_lt_one short build).1
  obtain ⟨opened, id, both, ep, lib, -, -, rfl, -⟩ := ifaceBuild_ok build
  exact ⟨made, settingUp.ifaces.next, wire, rfl, ⟨[], rfl⟩, ⟨self, selfLive, named, connected⟩,
    (congrArg Prod.fst (Option.some.inj loopType)).symm, (congrArg Prod.fst (Option.some.inj ipcType)).symm⟩

/-- From start-up on, the control interface stays with its endpoints in every
state of a run exactly when no close command of it names that interface. -/
theorem ctrl_permanent_iff (lib : PacketLib) (started : rtemgrd dtblTable outcome = .ok (st, 0)) :
    ∃ ctrl loop ipc, CtrlPermanent ctrl loop ipc st ∧ ∀ msgs : List LoopMessage,
      (Always (RtemgrdStep dtblTable lib) (CtrlPermanent ctrl loop ipc) st msgs ↔
        Guarded (RtemgrdStep dtblTable lib) (fun _ => CtrlSpared lib) st msgs) := by
  obtain ⟨connections, ctrl, wire, wired⟩ := rtemgrd_wired started
  refine ⟨ctrl, wire.ep, wire.other, wired.permanent, fun msgs => ?_⟩
  have preserved : ∀ before msg after, DaemonInv before ∧ Connections before → RtemgrdStep dtblTable lib before msg after →
      DaemonInv after ∧ Connections after :=
    fun _ _ _ both taken => ⟨both.1.step taken, both.2.step both.1 taken⟩
  refine always_iff_guarded preserved ?_ ⟨rtemgrd_inv started, connections⟩ wired.permanent
  rintro before msg after ⟨inv, connected⟩ permanent taken
  obtain ⟨kept, keptWired, sameLoop, sameIpc⟩ := permanent.wired connected
  constructor
  · intro stays d requested action intf member names
    obtain ⟨middle, close, sameIfaces⟩ := requested.close action (List.ne_nil_of_mem member) taken
    have gone := keptWired.named connected inv ⟨intf, member, names⟩ close
    obtain ⟨self, live, -⟩ := stays.endpoints
    rw [sameIfaces, gone] at live
    nomatch live
  · intro spared
    have stays := (keptWired.step connected inv spared taken).permanent
    rw [sameLoop, sameIpc] at stays
    exact stays

end Runs

/-! ## A close command for the control interface -/

def namedPacket (action : BitVec 32) (names : List String) : RtemgrData :=
  { rawPacket names with cmd := { rtemgrDataAlloc.cmd with action } }

theorem ctrl_permanent_iff_started : ∃ ctrl loop ipc, CtrlPermanent ctrl loop ipc .started ∧
    ∀ msgs : List LoopMessage,
      (Always (RtemgrdStep dtblTable (.receiving listPacket)) (CtrlPermanent ctrl loop ipc) .started msgs ↔
        Guarded (RtemgrdStep dtblTable (.receiving listPacket)) (fun _ => CtrlSpared (.receiving listPacket)) .started msgs) :=
  ctrl_permanent_iff (.receiving listPacket) rtemgrd_started

theorem started_loop : ∃ lo ∈ Daemon.started.lib.loList, lo.name = rtemgrdCtlport ∧ lo.cb = some .defaultDomainHandler := by
  have loops : Daemon.started.lib.loList.map (fun lo => (lo.name, lo.cb)) =
      [(rtemgrdCtlport, some .defaultDomainHandler)] := by decide +kernel
  obtain ⟨lo, member, fields⟩ := List.mem_map.mp (loops ▸ List.mem_singleton_self (rtemgrdCtlport, _))
  exact ⟨lo, member, Prod.mk.inj fields⟩

/-- The control interface is closed like any other. -/
theorem ctrl_closed : ¬ ∀ lib msgs, ∃ ctrl loop ipc,
    Always (RtemgrdStep dtblTable lib) (CtrlPermanent ctrl loop ipc) .started msgs := by
  intro stays
  obtain ⟨lo, member, named, called⟩ := started_loop
  let lib : PacketLib := .receiving (namedPacket 3 ["@rtemgrd"])
  have freed : ((processCtlport dtblTable lib .succeeds .started []).toOption.map fun done =>
      (done.1.ifaces.get 0).isNone) = some true := by decide +kernel
  cases handled : processCtlport dtblTable lib .succeeds .started [] with
  | error fault =>
      rw [handled] at freed
      nomatch freed
  | ok done =>
      rw [handled] at freed
      have gone : done.1.ifaces.get 0 = none := by simpa [Except.toOption] using freed
      let msg : LoopMessage := ⟨.succeeds, plentyOfMemory 0, lo, []⟩
      have control : strmatch msg.loop.name rtemgrdCtlport = true := strmatch_iff.mpr named
      have taken : RtemgrdStep dtblTable lib .started msg done.1 := by
        refine ⟨member, called, done.2, ?_⟩
        rw [defaultDomainHandler, if_pos control]
        exact handled
      obtain ⟨ctrl, loop, ipc, start, always⟩ := stays lib [msg]
      have isFirst : ctrl = 0 := by
        have pointer : Daemon.started.ctrlIface = some 0 := by decide +kernel
        exact Option.some.inj (start.pointer.symm.trans pointer)
      obtain ⟨self, live, -⟩ := (always done.1 taken).endpoints
      rw [isFirst, gone] at live
      nomatch live

end Rteipc
