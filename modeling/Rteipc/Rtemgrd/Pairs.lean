import Rteipc.Rtemgrd.Relay
import Rteipc.Rtemgrd.Survives

namespace Rteipc

/-! Two raw interfaces of the daemon, in any state it gets to, are a pair that can
be routed: each has a loop, a queue and halves of its own. -/

open Data

/-- A loop is told from the others by its name and by its endpoint. -/
def LoopsApart (lib : Lib) : Prop :=
  ∀ lo ∈ lib.loList, ∀ other ∈ lib.loList, lo.name = other.name ∨ lo.self = other.self → lo = other

/-- The loops are apart, and the handler of an interface is the one for its kind. -/
structure Tidy (st : Daemon (Dtbl EpPtr)) : Prop where
  loops : LoopsApart st.lib
  handlers : ∀ iface self, Listed st iface → st.ifaces.get iface = some self →
    self.handler = some (if self.managed ≠ 0 then .managed else .raw)

/-! ## Loops -/

section Library

variable {st next : Lib} {outcome : OpenOutcome} {uri name : List UInt8} {ret : Int} {iface : IfacePtr}
  {lo : Loop DaemonCb IfacePtr}

theorem LoopsApart.fewer (apart : LoopsApart st) (fewer : ∀ lo ∈ next.loList, lo ∈ st.loList) : LoopsApart next :=
  fun lo member other otherMember => apart lo (fewer lo member) other (fewer other otherMember)

theorem LoopsApart.found (apart : LoopsApart st) (member : lo ∈ st.loList) :
    st.loList.find? (fun other => other.self = lo.self) = some lo := by
  cases found : st.loList.find? fun other => other.self = lo.self with
  | none =>
      have absent := List.find?_eq_none.mp found lo member
      simp at absent
  | some other =>
      have same := List.find?_some found
      rw [decide_eq_true_eq] at same
      rw [apart other (List.mem_of_find?_eq_some found) lo member (.inr same)]

theorem LoopsApart.named (apart : LoopsApart st) (member : lo ∈ st.loList) : lookupLo st.loList lo.name = some lo := by
  cases found : lookupLo st.loList lo.name with
  | none =>
      have absent := List.find?_eq_none.mp found lo member
      simp at absent
  | some other =>
      have same := List.find?_some found
      rw [decide_eq_true_eq] at same
      rw [apart other (List.mem_of_find?_eq_some found) lo member (.inl same)]

theorem OpensLoop.free (opens : OpensLoop st outcome uri) (short : uri.length ≤ 128) (member : lo ∈ st.loList) :
    lo.name ≠ uri := by
  intro named
  refine not_opensLoop short ?_ opens
  cases found : lookupLo st.loList uri with
  | none =>
      have absent := List.find?_eq_none.mp found lo member
      simp [named] at absent
  | some other => rfl

theorem OpenResult.loopsApart (result : OpenResult st outcome uri next ret) (registry : Registry st)
    (short : uri.length ≤ 128) (apart : LoopsApart st) : LoopsApart next := by
  have differ : ∀ old ∈ st.loList, OpensLoop st outcome uri →
      ¬(old.name = uri ∨ old.self = st.cores.next) := by
    rintro old member opens (sameName | sameSelf)
    · exact opens.free short member sameName
    · exact Nat.ne_of_lt (registry.loops old member) sameSelf
  intro lo member other otherMember same
  obtain old | ⟨rfl, opens, -⟩ := result.member short member
  · obtain otherOld | ⟨rfl, opens, -⟩ := result.member short otherMember
    · exact apart lo old other otherOld same
    · exact (differ lo old opens same).elim
  · obtain otherOld | ⟨rfl, -⟩ := result.member short otherMember
    · exact (differ other otherOld opens (same.imp Eq.symm Eq.symm)).elim
    · rfl

theorem LoopsApart.called (apart : LoopsApart st) (name : List UInt8) (iface : IfacePtr) :
    LoopsApart (rteipcXferSetcb st name (some .defaultDomainHandler) (some iface)).1 := by
  obtain ⟨-, same⟩ | ⟨found, -, same⟩ := xferSetcb_cases st name iface
  · rw [same]
    exact apart
  · rw [same]
    have kept : ∀ node : Loop DaemonCb IfacePtr,
        (if node.self = found.self then { node with cb := some .defaultDomainHandler, arg := some iface } else node).name =
            node.name ∧
          (if node.self = found.self then { node with cb := some .defaultDomainHandler, arg := some iface } else node).self =
            node.self := by
      intro node
      split
      · exact ⟨rfl, rfl⟩
      · exact ⟨rfl, rfl⟩
    intro lo member other otherMember same
    obtain ⟨node, inBefore, rfl⟩ := List.mem_map.mp member
    obtain ⟨peer, peerBefore, rfl⟩ := List.mem_map.mp otherMember
    rw [(kept node).1, (kept node).2, (kept peer).1, (kept peer).2] at same
    rw [apart node inBefore peer peerBefore same]

theorem closeIfOpen_fewer {lib final closed : Lib} {id ep : Int} (first : closeIfOpen dtblTable lib id = .ok closed)
    (second : closeIfOpen dtblTable closed ep = .ok final) : ∀ lo ∈ final.loList, lo ∈ lib.loList :=
  fun _ member => (closeIfOpen_loops first).1 ((closeIfOpen_loops second).1 member)

end Library

/-! ## Commands -/

section Commands

variable {lib : PacketLib} {st next made : Daemon (Dtbl EpPtr)} {outcome : IfaceOutcome} {iface : IfacePtr} {domain : Nat}
  {name path : List UInt8} {busType managed : BitVec 32} {ret : Int} {msg : LoopMessage}

theorem ifaceBuild_loopsApart (registry : Registry st.lib) (short : name.length ≤ 128) (apart : LoopsApart st.lib)
    (build : ifaceBuild dtblTable st outcome iface name path busType managed = .ok (made, ret)) : LoopsApart made.lib := by
  obtain ⟨opened, id, both, ep, lib, idOpened, epOpened, rfl, ended⟩ := ifaceBuild_ok build
  obtain ⟨openedRegistry, idResult⟩ := rteipcOpen_ok registry idOpened
  obtain ⟨-, epResult⟩ := rteipcOpen_ok openedRegistry epOpened
  have openedApart := idResult.loopsApart registry short apart
  have called := (epResult.loopsApart openedRegistry (uri_short busType path) openedApart).called name iface
  obtain ⟨-, -, rfl⟩ | ⟨-, bound, binding, -⟩ := ended
  · exact called
  · apply called.fewer
    intro lo member
    rw [(rteipcBind_ok binding).1.loList] at member
    exact member

theorem identity_handler {self after : Interface} (same : after.identity = self.identity)
    (set : self.handler = some (if self.managed ≠ 0 then .managed else .raw)) :
    after.handler = some (if after.managed ≠ 0 then .managed else .raw) := by
  have sameHandler : after.identity.handler = self.identity.handler := congrArg Interface.handler same
  have sameManaged : after.identity.managed = self.identity.managed := congrArg Interface.managed same
  have managed : after.managed = self.managed := sameManaged
  rw [managed]
  exact sameHandler.trans set

theorem Tidy.steady (tidy : Tidy st) (steady : Steady st next) : Tidy next where
  loops := tidy.loops.fewer fun lo member => steady.lib.loList ▸ member
  handlers iface after listed live := by
    obtain ⟨self, wasLive, same⟩ := steady.before live
    exact identity_handler same (tidy.handlers iface self (steady.listed.mp listed) wasLive)

theorem Tidy.freed (tidy : Tidy st) (inv : RouteInv st) (returned : ifaceFree dtblTable st iface = .ok next) : Tidy next := by
  obtain ⟨owner, closed, freed, first, second⟩ := ifaceFree_freed returned
  refine ⟨tidy.loops.fewer (closeIfOpen_fewer first second), fun other after listed live => ?_⟩
  obtain ⟨differ, wasListed⟩ := (freed.listed inv).mp listed
  obtain ⟨self, wasLive, same⟩ := freed.before live differ
  exact identity_handler same (tidy.handlers other self wasListed wasLive)

theorem Tidy.built (tidy : Tidy st) (inv : DaemonInv st) (inside : domain < st.domainList.length) (short : name.length ≤ 128)
    (build : ifaceBuild dtblTable (grown st domain) outcome st.ifaces.next name path busType managed = .ok (made, ret)) :
    Tidy made := by
  have registry : Registry (grown st domain).lib := inv.registry
  have apart : LoopsApart (grown st domain).lib := tidy.loops
  refine ⟨ifaceBuild_loopsApart registry short apart build, fun iface self listed live => ?_⟩
  have listed_iff := (ifaceBuild_listed inside build).mp listed
  obtain ⟨opened, id, both, ep, lib, -, -, rfl, -⟩ := ifaceBuild_ok build
  have made : (Rteipc.built st lib domain fun self =>
      self.built id ep name ((busToPrefix busType ++ path).take 127) busType managed).ifaces.get iface = some self := live
  rw [built_get] at made
  split at made
  next => exact Option.some.inj made ▸ rfl
  next differ => exact tidy.handlers iface self (listed_iff.resolve_left differ) made

theorem Tidy.opened {d : RtemgrData} (tidy : Tidy st) (inv : DaemonInv st)
    (returned : doRtecmdOpen dtblTable st outcome d = .ok (next, ret)) : Tidy next := by
  obtain ⟨rfl, -⟩ | ⟨intf, rest, domain, made, failed, -, found, -, -, build, ended⟩ := doRtecmdOpen_ok returned
  · exact tidy
  have short : intf.name.text.length ≤ 128 := Nat.le_trans intf.name.text_length (by decide)
  have inside := domainLookupById_inside found
  have madeTidy := tidy.built inv inside short build
  obtain ⟨rfl, -, rfl⟩ | ⟨-, -, free⟩ := ended
  · exact madeTidy
  · refine madeTidy.freed ?_ free
    obtain ⟨opened, id, both, ep, lib, -, -, rfl, -⟩ := ifaceBuild_ok build
    exact inv.routes.built inside rfl rfl

theorem Tidy.handled (tidy : Tidy st) (inv : DaemonInv st) (handled : Handled dtblTable lib st msg next) : Tidy next := by
  obtain steady | ⟨d, ret, -, ⟨-, opened⟩ | ⟨-, closed⟩⟩ := handled.steady_or
  · exact tidy.steady steady
  · exact tidy.opened inv opened
  · have start : RouteInv st ∧ Tidy st := ⟨inv.routes, tidy⟩
    suffices all : RouteInv next ∧ Tidy next from all.2
    apply closeInterfaces_keeps _ start (doRtecmdClose_ok closed)
    intro intf _ before after iface kept found free
    exact ⟨(ifaceFree_partners kept.1 (ifaceOf_listed found) free).2, kept.2.freed kept.1 free⟩

theorem Tidy.step (tidy : Tidy st) (inv : DaemonInv st) (taken : RtemgrdStep dtblTable lib st msg next) : Tidy next := by
  obtain ⟨middle, ep, handled, moved, rfl⟩ := taken.handled
  exact (tidy.handled inv handled).steady (.of_lib moved)

theorem rtemgrd_tidy (started : rtemgrd dtblTable outcome = .ok (st, 0)) : Tidy st := by
  obtain ⟨inv, -⟩ : DaemonInv settingUp ∧ Connections settingUp := start_connections _
  have nothing : Tidy settingUp := by
    refine ⟨fun lo member => (List.not_mem_nil member).elim, fun iface self listed => ?_⟩
    obtain ⟨self, live⟩ := inv.routes.live listed
    cases live
  exact nothing.built inv Nat.zero_lt_one (by decide) (rtemgrd_build started)

end Commands

/-! ## Raw interfaces -/

/-- A listed raw interface with a loop, which its name was opened as. -/
structure RawLoop (st : Daemon (Dtbl EpPtr)) (iface : IfacePtr) (owner : Interface) : Prop where
  listed : Listed st iface
  live : st.ifaces.get iface = some owner
  raw : owner.managed = 0
  loop : ∃ ep, dtblGet st.lib.epTbl owner.id = some ep ∧ (st.lib.cores.get ep).map EpCore.type = some .loop

/-- Two raw interfaces that have no partner or each other are a pair. -/
def RawPaired (st : Daemon (Dtbl EpPtr)) : Prop :=
  ∀ first second self other, RawLoop st first self → RawLoop st second other → first ≠ second →
    self.partner = none ∧ other.partner = none ∨ self.partner = some second →
      ∃ left right routed leftQueues rightQueues, left.iface = first ∧ right.iface = second ∧
        RawPair left right st routed routed leftQueues rightQueues

section Pairs

variable {lib : Lib} {st : Daemon (Dtbl EpPtr)} {self peer : Interface} {wire other ctrlWire : Wire} {iface ctrl : IfacePtr}

/-- Interfaces with ids of their own have endpoints of their own. -/
theorem Connected.ends_apart (first : Connected lib self wire) (second : Connected lib peer other)
    (apart : (self.id ≠ peer.id ∧ self.id ≠ peer.ep) ∧ self.ep ≠ peer.id ∧ self.ep ≠ peer.ep) :
    (wire.ep ≠ other.ep ∧ wire.ep ≠ other.other) ∧ wire.other ≠ other.ep ∧ wire.other ≠ other.other := by
  have sameCore : ∀ {ep core again}, lib.cores.get ep = some core → lib.cores.get ep = some again → core.id = again.id := by
    intro ep core again live liveAgain
    cases live.symm.trans liveAgain
    rfl
  obtain ⟨⟨idId, idEp⟩, epId, epEp⟩ := apart
  have firstLive := first.attached.live
  have firstOther := first.attached.otherLive
  have secondLive := second.attached.live
  have secondOther := second.attached.otherLive
  rw [← first.id, ← second.id] at idId
  rw [← first.id, ← second.ep] at idEp
  rw [← first.ep, ← second.id] at epId
  rw [← first.ep, ← second.ep] at epEp
  refine ⟨⟨fun same => ?_, fun same => ?_⟩, fun same => ?_, fun same => ?_⟩
  · exact idId (sameCore (same ▸ firstLive) secondLive)
  · exact idEp (sameCore (same ▸ firstLive) secondOther)
  · exact epId (sameCore (same ▸ firstOther) secondLive)
  · exact epEp (sameCore (same ▸ firstOther) secondOther)

theorem Connected.halves_apart (first : Connected lib self wire) (second : Connected lib peer other)
    (apart : (self.id ≠ peer.id ∧ self.id ≠ peer.ep) ∧ self.ep ≠ peer.id ∧ self.ep ≠ peer.ep) :
    [wire.first, wire.second, other.first, other.second].Nodup := by
  obtain ⟨⟨firstFirst, firstSecond⟩, secondFirst, secondSecond⟩ := first.ends_apart second apart
  have owner := first.attached.owner
  have otherOwner := second.attached.owner
  have here : wire.first ≠ wire.second := by
    intro same
    have bev := first.attached.otherBev
    rw [← same] at bev
    exact first.attached.differ ((owner wire.other wire.partner first.attached.otherLive).1 bev).symm
  have there : other.first ≠ other.second := by
    intro same
    have bev := second.attached.otherBev
    rw [← same] at bev
    exact second.attached.differ ((otherOwner other.other other.partner second.attached.otherLive).1 bev).symm
  have fromFirst := owner other.ep other.core second.attached.live
  have fromSecond := owner other.other other.partner second.attached.otherLive
  rw [second.attached.bev] at fromFirst
  rw [second.attached.otherBev] at fromSecond
  simp only [List.nodup_cons, List.mem_cons, List.not_mem_nil, or_false, not_or, not_false_eq_true, List.nodup_nil, and_true]
  refine ⟨⟨here, fun same => ?_, fun same => ?_⟩, ⟨fun same => ?_, fun same => ?_⟩, there⟩
  · exact firstFirst (fromFirst.1 (congrArg some same.symm)).symm
  · exact firstSecond (fromSecond.1 (congrArg some same.symm)).symm
  · exact secondFirst (fromFirst.2 (congrArg some same.symm)).symm
  · exact secondSecond (fromSecond.2 (congrArg some same.symm)).symm

theorem Healthy.rawEnd (healthy : Healthy ctrl ctrlWire st) (tidy : Tidy st) (raw : RawLoop st iface self)
    (connected : Connected st.lib self wire) :
    ∃ lo queues, RawEnd.At ⟨iface, lo, wire.first, wire.second⟩ st self.partner queues := by
  obtain ⟨serving, owners, -⟩ := healthy
  obtain ⟨listed, live, isRaw, ep, found, type⟩ := raw
  obtain rfl := connected.first_eq found
  obtain ⟨lo, member, isSelf, named, called, isArg⟩ := owners.called iface self wire.ep listed live found type
  have attached := connected.attached
  obtain ⟨half, peer, halfLive, halfPartner, peerLive, peerPartner⟩ := attached.pair
  have handler := tidy.handlers iface self listed live
  rw [isRaw, if_neg (fun wrong => wrong rfl)] at handler
  refine ⟨lo, ⟨half.input, self.pending, peer.input⟩, ⟨self, live, isRaw, handler, named.symm, rfl, rfl⟩,
    tidy.loops.found member, tidy.loops.named member, called, isArg, ?_, ⟨wire.core, ?_, attached.bev⟩, ?_, ?_⟩
  · -- the loop of that name is the control interface's, which is managed
    cases matches_ : strmatch lo.name rtemgrdCtlport with
    | false => rfl
    | true =>
        obtain ⟨owner, ownerLive, ownerNamed, ownerConnected⟩ := serving.wired.owner
        obtain ⟨node, nodeMember, nodeSelf, nodeNamed⟩ := ownerConnected.loop serving.wired.loopType
        obtain ⟨rest, first⟩ := serving.wired.listed
        have ctrlListed : Listed st ctrl := ⟨0, _, first, List.mem_cons_self⟩
        have differ : iface ≠ ctrl := by
          rintro rfl
          obtain ⟨same, sameLive, managed⟩ := serving.managed
          cases live.symm.trans sameLive
          exact managed isRaw
        have apart := connected.ends_apart ownerConnected
          (serving.connections.apart iface self ctrl owner listed live ctrlListed ownerLive differ)
        have sameName : lo.name = node.name := (strmatch_iff.mp matches_).trans (nodeNamed.trans ownerNamed).symm
        obtain rfl := tidy.loops lo member node nodeMember (.inl sameName)
        exact (apart.1.1 (isSelf.symm.trans nodeSelf)).elim
  · rw [isSelf]
    exact attached.live
  · rw [halfLive, ← halfPartner]
  · rw [peerLive, ← peerPartner]

theorem Healthy.rawPaired (healthy : Healthy ctrl ctrlWire st) (tidy : Tidy st) : RawPaired st := by
  intro first second self other firstRaw secondRaw differ routes
  have connections := healthy.serving.connections
  obtain ⟨wire, connected⟩ := connections.connected first self firstRaw.listed firstRaw.live
  obtain ⟨otherWire, otherConnected⟩ := connections.connected second other secondRaw.listed secondRaw.live
  obtain ⟨lo, queues, left⟩ := healthy.rawEnd tidy firstRaw connected
  obtain ⟨otherLo, otherQueues, right⟩ := healthy.rawEnd tidy secondRaw otherConnected
  have halves := connected.halves_apart otherConnected
    (connections.apart first self second other firstRaw.listed firstRaw.live secondRaw.listed secondRaw.live differ)
  obtain ⟨alone, otherAlone⟩ | names := routes
  · rw [alone] at left
    rw [otherAlone] at right
    exact ⟨⟨first, lo, wire.first, wire.second⟩, ⟨second, otherLo, otherWire.first, otherWire.second⟩, false, queues,
      otherQueues, rfl, rfl, left, right, differ, halves⟩
  · have back := (routesMutual_iff.mpr healthy.routes).mutual_raw first self second other firstRaw.listed firstRaw.live
      firstRaw.raw names secondRaw.live secondRaw.raw
    rw [names] at left
    rw [back] at right
    exact ⟨⟨first, lo, wire.first, wire.second⟩, ⟨second, otherLo, otherWire.first, otherWire.second⟩, true, queues,
      otherQueues, rfl, rfl, left, right, differ, halves⟩

/-- In every state of every run of considerate messages, two raw interfaces that
are not routed or routed to each other are a pair. -/
theorem raw_pairs_reached {outcome : IfaceOutcome} (lib : PacketLib) (started : rtemgrd dtblTable outcome = .ok (st, 0))
    {msgs : List LoopMessage} (guarded : Guarded (RtemgrdStep dtblTable lib) (Considerate lib) st msgs) :
    Always (RtemgrdStep dtblTable lib) RawPaired st msgs := by
  obtain ⟨ctrl, wire, serving⟩ := rtemgrd_serving started
  have healthy : Healthy ctrl wire st := ⟨serving, rtemgrd_owners started, (rtemgrd_routes started).2⟩
  have preserved : ∀ before msg after, Healthy ctrl wire before ∧ Tidy before → Considerate lib before msg →
      RtemgrdStep dtblTable lib before msg after → Healthy ctrl wire after ∧ Tidy after :=
    fun _ _ _ kept considerate taken =>
      ⟨kept.1.step considerate taken, kept.2.step kept.1.serving.daemon taken⟩
  exact guarded.always preserved (fun _ kept => kept.1.rawPaired kept.2) ⟨healthy, rtemgrd_tidy started⟩

theorem raw_pairs_reached_open : ∃ msg,
    (∃ next, RtemgrdStep dtblTable (.receiving (namedPacket 2 ["a"])) .started msg next) ∧
      Always (RtemgrdStep dtblTable (.receiving (namedPacket 2 ["a"]))) RawPaired .started [msg] := by
  obtain ⟨msg, taken, considerate⟩ := opening_considerate
  exact ⟨msg, taken, raw_pairs_reached _ rtemgrd_started fun _ _ => ⟨considerate, trivial⟩⟩

end Pairs

end Rteipc
