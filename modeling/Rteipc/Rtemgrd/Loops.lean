import Rteipc.Endpoint.Returns
import Rteipc.Rtemgrd.Connections

namespace Rteipc

/-! Where descriptors can be stored, every loop on the list is that of one end
of a listed interface, and its name is its own. -/

open Data

/-- The allocations for an interface succeed; its devices may still refuse. -/
structure IfaceOutcome.Plenty (outcome : IfaceOutcome) : Prop where
  calloc : outcome.calloc = true
  pending : outcome.pending = true
  pair : outcome.pair = true
  core : outcome.id.core = true ∧ outcome.ep.core = true
  desc : outcome.id.desc = .succeeds ∧ outcome.ep.desc = .succeeds
  loop : outcome.id.loop = true ∧ outcome.ep.loop = true

/-- Loops of one name are of one endpoint. -/
def NamesApart (lib : Lib) : Prop := ∀ lo ∈ lib.loList, ∀ other ∈ lib.loList, lo.name = other.name → lo.self = other.self

/-- The endpoint of the loop is one end of the wire, and of the right type. -/
def AtEnd (lo : Loop DaemonCb IfacePtr) (wire : Wire) : Prop :=
  lo.self = wire.ep ∧ wire.core.type = .loop ∨ lo.self = wire.other ∧ wire.partner.type = .loop

structure LoopInv (st : Daemon (Dtbl EpPtr)) : Prop where
  names : NamesApart st.lib
  wired : ∀ lo ∈ st.lib.loList, ∃ iface self wire, Listed st iface ∧ st.ifaces.get iface = some self ∧
    Connected st.lib self wire ∧ AtEnd lo wire

def WasLoop (st : Lib) (lo : Loop DaemonCb IfacePtr) : Prop := ∃ old ∈ st.loList, old.self = lo.self ∧ old.name = lo.name

section Library

variable {st next lib both opened closed : Lib} {outcome idOutcome epOutcome : OpenOutcome} {name uri : List UInt8}
  {id ep ret : Int} {iface : IfacePtr} {lo : Loop DaemonCb IfacePtr}

theorem LoopInv.sends {daemon : Daemon (Dtbl EpPtr)} (inv : LoopInv daemon) (member : lo ∈ daemon.lib.loList) :
    ∃ second, Sends daemon.lib lo second := by
  obtain ⟨iface, self, wire, -, -, connected, ⟨isSelf, -⟩ | ⟨isOther, -⟩⟩ := inv.wired lo member
  · exact ⟨_, connected.attached.sends isSelf⟩
  · exact ⟨_, connected.attached.sends_back isOther⟩

theorem NamesApart.fewer (apart : NamesApart st) (fewer : ∀ lo ∈ next.loList, WasLoop st lo) : NamesApart next := by
  intro lo member other otherMember same
  obtain ⟨old, oldMember, oldSelf, oldName⟩ := fewer lo member
  obtain ⟨peer, peerMember, peerSelf, peerName⟩ := fewer other otherMember
  have names : old.name = peer.name := oldName.trans (same.trans peerName.symm)
  exact oldSelf.symm.trans ((apart old oldMember peer peerMember names).trans peerSelf)

theorem WasLoop.of_mem (member : lo ∈ st.loList) : WasLoop st lo := ⟨lo, member, rfl, rfl⟩

theorem xferSetcb_before (name : List UInt8) (iface : IfacePtr)
    (member : lo ∈ (rteipcXferSetcb lib name (some .defaultDomainHandler) (some iface)).1.loList) : WasLoop lib lo := by
  rcases xferSetcb_cases lib name iface with ⟨-, same⟩ | ⟨called, -, same⟩
  · rw [same] at member
    exact .of_mem member
  · rw [same] at member
    obtain ⟨before, old, rfl⟩ := List.mem_map.mp member
    refine ⟨before, old, ?_⟩
    split
    · exact ⟨rfl, rfl⟩
    · exact ⟨rfl, rfl⟩

/-! ## Opening -/

theorem newLoops_mem {type : EpType} {self : EpPtr} {path : List UInt8} (member : lo ∈ newLoops type self path) :
    type = .loop ∧ lo = ⟨self, path, none, none⟩ := by
  unfold newLoops at member
  split at member
  next isLoop => exact ⟨isLoop, List.mem_singleton.mp member⟩
  next => nomatch member

def NewlyOpened (st : Lib) (outcome : OpenOutcome) (uri : List UInt8) (next : Lib) (ret : Int)
    (lo : Loop DaemonCb IfacePtr) : Prop :=
  lo.self = st.cores.next ∧ ∃ path, ∃ desc : Nat, ret = desc ∧ parseUri uri = some (.loop, path) ∧
    Opened st outcome .loop path desc next

theorem OpenResult.loop_cases (result : OpenResult st outcome uri next ret) (member : lo ∈ next.loList) :
    lo ∈ st.loList ∨ NewlyOpened st outcome uri next ret lo := by
  rcases result with ⟨-, refused, -⟩ | ⟨type, path, desc, named, parsed, opened, -⟩
  · rw [refused.loList] at member
    exact .inl member
  · rw [opened.loList] at member
    rcases List.mem_append.mp member with old | new
    · exact .inl old
    · obtain ⟨rfl, rfl⟩ := newLoops_mem new
      exact .inr ⟨rfl, path, desc, named, parsed, opened⟩

theorem OpenResult.namesApart (result : OpenResult st outcome uri next ret) (apart : NamesApart st) :
    NamesApart next := by
  rcases result with ⟨-, refused, -⟩ | ⟨type, path, desc, -, parsed, opened, opens⟩
  · exact apart.fewer fun lo member => .of_mem (refused.loList ▸ member)
  · have unnamed : ∀ lo ∈ st.loList, type = .loop → lo.name ≠ path := by
      rintro lo member rfl named
      obtain ⟨found, same, -, -, -, -, free, -⟩ := opens rfl
      obtain ⟨-, rfl⟩ := Prod.mk.inj (Option.some.inj (parsed.symm.trans same))
      have absent := List.find?_eq_none.mp free lo member
      simp [named] at absent
    intro lo member other otherMember same
    rw [opened.loList] at member otherMember
    rcases List.mem_append.mp member with old | new
    · rcases List.mem_append.mp otherMember with otherOld | otherNew
      · exact apart lo old other otherOld same
      · obtain ⟨isLoop, rfl⟩ := newLoops_mem otherNew
        exact (unnamed lo old isLoop same).elim
    · obtain ⟨isLoop, rfl⟩ := newLoops_mem new
      rcases List.mem_append.mp otherMember with otherOld | otherNew
      · exact (unnamed other otherOld isLoop same.symm).elim
      · obtain ⟨-, rfl⟩ := newLoops_mem otherNew
        rfl

theorem openings_loops (idResult : OpenResult st idOutcome name opened id)
    (epResult : OpenResult opened epOutcome uri both ep)
    (member : lo ∈ (rteipcXferSetcb both name (some .defaultDomainHandler) (some iface)).1.loList) :
    WasLoop st lo ∨ NewlyOpened st idOutcome name opened id lo ∨ NewlyOpened opened epOutcome uri both ep lo := by
  obtain ⟨before, inBoth, sameSelf, sameName⟩ := xferSetcb_before name iface member
  unfold NewlyOpened
  rw [← sameSelf]
  rcases epResult.loop_cases inBoth with inOpened | new
  · rcases idResult.loop_cases inOpened with old | new
    · exact .inl ⟨before, old, sameSelf, sameName⟩
    · exact .inr (.inl new)
  · exact .inr (.inr new)

/-! ## Closing -/

theorem closeIfOpen_idle {kept : EpPtr} (returned : closeIfOpen dtblTable lib id = .ok next)
    (idle : ∀ ep core, 0 ≤ id → dtblGet lib.epTbl id = some ep → lib.cores.get ep = some core →
      core.bev = none ∧ kept ≠ ep) : next.cores.get kept = lib.cores.get kept := by
  unfold closeIfOpen at returned
  split at returned
  next isOpen =>
    rcases rteipcClose_ok returned with ⟨-, rfl⟩ | ⟨ep, core, found, live, closed⟩
    · rfl
    · obtain ⟨unbound, differ⟩ := idle ep core isOpen found live
      rw [closeEndpoint_eq] at closed
      exact (closed.idle unbound).2 kept differ
  next =>
    cases returned
    rfl

theorem closeIfOpen_gone {self : EpPtr} {core : EpCore} (registry : Registry lib) (given : 0 ≤ id)
    (held : Holds lib.epTbl id self) (live : lib.cores.get self = some core) (isLoop : core.type = .loop)
    (returned : closeIfOpen dtblTable lib id = .ok next) (isSelf : lo.self = self) : lo ∉ next.loList := by
  have loop : NewLoop lib id self true := ⟨given, ⟨core, live, isLoop⟩, fun _ => held, nofun⟩
  intro left
  have before := (closeIfOpen_loops returned).1 left
  nomatch (loop.closed registry returned isSelf before).mp left

end Library

/-! ## The commands -/

section Commands

variable {st next made : Daemon (Dtbl EpPtr)} {outcome : IfaceOutcome} {iface : IfacePtr} {name path : List UInt8}
  {busType managed : BitVec 32} {ret : Int}

/-- The loops of endpoints that were opened in vain are taken off again. -/
theorem ifaceBuild_loopsUndone {before : Interface} {failed : Int} (registry : Registry st.lib) (plenty : outcome.Plenty)
    (live : st.ifaces.get iface = some before)
    (build : ifaceBuild dtblTable st outcome iface name path busType managed = .ok (made, failed)) (wrong : failed ≠ 0)
    (free : ifaceFree dtblTable made iface = .ok next) {lo : Loop DaemonCb IfacePtr} (member : lo ∈ next.lib.loList) :
    WasLoop st.lib lo := by
  obtain ⟨opened, id, both, ep, closed, idOpened, epOpened, called, first, second⟩ :=
    ifaceBuild_freed live build wrong free
  rw [called] at first
  obtain ⟨openedRegistry, idResult⟩ := rteipcOpen_ok registry idOpened
  obtain ⟨bothRegistry, epResult⟩ := rteipcOpen_ok openedRegistry epOpened
  have calledGrows := (xferSetcb_adds both name iface).grows
  have calledRegistry := xferSetcb_registry bothRegistry name iface
  obtain ⟨firstNew, -, -⟩ := rolledBack_grows registry openedRegistry idResult epResult calledGrows first second
  have inClosed := (closeIfOpen_loops second).1 member
  rcases openings_loops idResult epResult ((closeIfOpen_loops first).1 inClosed) with
    old | ⟨isSelf, idPath, desc, rfl, -, made⟩ | ⟨isSelf, epPath, desc, rfl, -, made⟩
  · exact old
  · have loop := made.newLoop registry (epResult.grows.trans calledGrows)
    obtain ⟨core, coreLive, isLoop⟩ := loop.live
    have stored : outcome.id.desc.entry = true := by
      rw [plenty.desc.1]
      rfl
    exact (closeIfOpen_gone calledRegistry loop.opened (loop.held stored) coreLive isLoop first isSelf inClosed).elim
  · have loop := made.newLoop openedRegistry calledGrows
    have stored : outcome.ep.desc.entry = true := by
      rw [plenty.desc.2]
      rfl
    obtain ⟨core, coreLive, isLoop⟩ := loop.live
    have held := loop.held stored
    -- the first closing finds the first endpoint, which has another id
    have kept : closed.cores.get opened.cores.next = some core := by
      rw [closeIfOpen_idle first fun found foundCore given isFound foundLive => ?_, coreLive]
      have idle := (idResult.grows.trans (epResult.grows.trans calledGrows)).idle found foundCore
        (firstNew given found foundCore isFound foundLive) foundLive
      refine ⟨idle, ?_⟩
      rintro rfl
      obtain ⟨isId, -⟩ := calledRegistry.live id _ foundCore (dtblGet_holds isFound) foundLive
      obtain ⟨isDesc, -⟩ := calledRegistry.live desc _ foundCore held foundLive
      rcases idResult with ⟨rfl, -⟩ | ⟨_, _, number, rfl, -, idMade, -⟩
      · nomatch given
      · obtain rfl : number = desc := Int.ofNat.inj (isId.symm.trans isDesc)
        have idStored : outcome.id.desc.entry = true := by
          rw [plenty.desc.1]
          rfl
        have idHeld : Holds opened.epTbl number st.lib.cores.next := by
          refine ⟨⟨number, some st.lib.cores.next⟩, ?_, rfl, rfl⟩
          rw [idMade.entries, idStored, if_pos rfl]
          exact List.mem_append_right _ (List.mem_singleton_self _)
        obtain ⟨-, used, same, marked⟩ := openedRegistry.live number _ _ idHeld idMade.core
        obtain rfl := Int.ofNat.inj same
        exact nomatch made.unused.symm.trans marked
    have closedHeld : Holds closed.epTbl desc opened.cores.next := by
      unfold Holds
      rw [closeIfOpen_entries first]
      exact held
    exact (closeIfOpen_gone (closeIfOpen_registry calledRegistry first) loop.opened closedHeld kept isLoop second isSelf
      member).elim

theorem Connected.loops_gone {self : Interface} {wire : Wire} {closed final : Lib} (connected : Connected st.lib self wire)
    (registry : Registry st.lib) (first : closeIfOpen dtblTable st.lib self.id = .ok closed)
    (second : closeIfOpen dtblTable closed self.ep = .ok final) {lo : Loop DaemonCb IfacePtr} (atEnd : AtEnd lo wire) :
    lo ∉ final.loList := by
  have attached := connected.attached
  have held := dtblGet_holds attached.found
  have otherHeld := dtblGet_holds attached.otherFound
  obtain ⟨-, used, isUsed, -⟩ := registry.live _ _ _ held attached.live
  obtain ⟨-, otherUsed, otherIs, -⟩ := registry.live _ _ _ otherHeld attached.otherLive
  have given : 0 ≤ wire.core.id := isUsed ▸ Int.natCast_nonneg used
  have otherGiven : 0 ≤ wire.partner.id := otherIs ▸ Int.natCast_nonneg otherUsed
  rw [← connected.id] at first
  rw [← connected.ep] at second
  intro left
  rcases atEnd with ⟨isSelf, isLoop⟩ | ⟨isOther, isLoop⟩
  · exact closeIfOpen_gone registry given held attached.live isLoop first isSelf ((closeIfOpen_loops second).1 left)
  · have closedRegistry := closeIfOpen_registry registry first
    rw [closeIfOpen, if_pos given] at first
    obtain ⟨live, found⟩ := attached.closed_other first
    exact closeIfOpen_gone closedRegistry otherGiven (dtblGet_holds found) live isLoop second isOther left

end Commands

/-! ## The invariant -/

section Invariant

variable {lib : PacketLib} {st next made : Daemon (Dtbl EpPtr)} {outcome : IfaceOutcome} {iface : IfacePtr} {domain : Nat}
  {name path : List UInt8} {busType managed : BitVec 32} {ret : Int}

theorem AtEnd.congr {lo old : Loop DaemonCb IfacePtr} {wire : Wire} (atEnd : AtEnd old wire)
    (same : old.self = lo.self) : AtEnd lo wire := by
  unfold AtEnd
  rw [← same]
  exact atEnd

theorem LoopInv.fewer (inv : LoopInv st) (fewer : ∀ lo ∈ next.lib.loList, WasLoop st.lib lo)
    (stays : ∀ lo ∈ next.lib.loList, ∀ iface self wire, Listed st iface → st.ifaces.get iface = some self →
      Connected st.lib self wire → AtEnd lo wire →
        ∃ after, Listed next iface ∧ next.ifaces.get iface = some after ∧ Connected next.lib after wire) :
    LoopInv next where
  names := inv.names.fewer fewer
  wired lo member := by
    obtain ⟨old, oldMember, sameSelf, -⟩ := fewer lo member
    obtain ⟨iface, self, wire, listed, live, connected, atEnd⟩ := inv.wired old oldMember
    obtain ⟨after, stillListed, afterLive, still⟩ :=
      stays lo member iface self wire listed live connected (atEnd.congr sameSelf)
    exact ⟨iface, after, wire, stillListed, afterLive, still, atEnd.congr sameSelf⟩

theorem LoopInv.steady (inv : LoopInv st) (steady : Steady st next) : LoopInv next := by
  refine inv.fewer (fun lo member => .of_mem (steady.lib.loList ▸ member)) fun lo _ iface self wire listed live connected _ => ?_
  obtain ⟨after, afterLive, same⟩ := steady.live live
  exact ⟨after, steady.listed.mpr listed, afterLive, steady.lib.connected connected same⟩

theorem Extends.listed (extends_ : Extends st next) (listed : Listed st iface) : Listed next iface := by
  obtain ⟨position, domain, found, member⟩ := listed
  obtain ⟨more, kept⟩ := extends_.lists position domain found
  exact ⟨position, _, kept, List.mem_append_left more member⟩

theorem Extends.stays (extends_ : Extends st next) {self : Interface} {wire : Wire} (listed : Listed st iface)
    (live : st.ifaces.get iface = some self) (connected : Connected st.lib self wire) :
    ∃ after, Listed next iface ∧ next.ifaces.get iface = some after ∧ Connected next.lib after wire := by
  obtain ⟨after, afterLive, same⟩ := extends_.ifaces iface self live
  have kept := extends_.connected self wire connected
  exact ⟨after, extends_.listed listed, afterLive,
    kept.kept kept.attached (.of_mem fun _ member _ => member) same⟩

theorem ifaceBuild_loops (registry : Registry st.lib)
    (build : ifaceBuild dtblTable st outcome iface name path busType managed = .ok (made, ret))
    (apart : NamesApart st.lib) : NamesApart made.lib ∧ ∀ lo ∈ made.lib.loList,
      WasLoop st.lib lo ∨ lo.self = st.lib.cores.next ∧ (∃ path, parseUri name = some (.loop, path)) ∨
        lo.self = st.lib.cores.next + 1 ∧ (∃ target, parseUri ((busToPrefix busType ++ path).take 127) = some (.loop, target)) ∨
          ret ≠ 0 := by
  obtain ⟨opened, id, both, ep, lib, idOpened, epOpened, rfl, ended⟩ := ifaceBuild_ok build
  obtain ⟨openedRegistry, idResult⟩ := rteipcOpen_ok registry idOpened
  obtain ⟨-, epResult⟩ := rteipcOpen_ok openedRegistry epOpened
  have called : lib.loList = (rteipcXferSetcb both name (some .defaultDomainHandler) (some iface)).1.loList := by
    rcases ended with ⟨-, -, rfl⟩ | ⟨-, bound, binding, -⟩
    · rfl
    · exact (rteipcBind_ok binding).1.loList
  have bothApart := epResult.namesApart (idResult.namesApart apart)
  refine ⟨bothApart.fewer fun lo member => ?_, fun lo member => ?_⟩
  · rw [called] at member
    exact xferSetcb_before name iface member
  · rw [called] at member
    rcases openings_loops idResult epResult member with old | ⟨isSelf, path, desc, -, parsed, -⟩ |
      ⟨isSelf, path, desc, -, parsed, -⟩
    · exact .inl old
    · exact .inr (.inl ⟨isSelf, path, parsed⟩)
    · rcases idResult with ⟨failed, -⟩ | ⟨_, _, _, -, -, idMade, -⟩
      · refine .inr (.inr (.inr ?_))
        rcases ended with ⟨-, wrong, -⟩ | ⟨given, -⟩
        · rw [wrong]
          decide
        · exact (given (.inl (by rw [failed]; decide))).elim
      · exact .inr (.inr (.inl ⟨isSelf.trans idMade.fresh, path, parsed⟩))

theorem LoopInv.built (inv : LoopInv st) (connections : Connections st) (daemonInv : DaemonInv st)
    (inside : domain < st.domainList.length) (short : name.length ≤ 128)
    (build : ifaceBuild dtblTable (grown st domain) outcome st.ifaces.next name path busType managed = .ok (made, 0)) :
    LoopInv made := by
  have live : (grown st domain).ifaces.get st.ifaces.next = some (freshInterface domain) := Heap.get_alloc_next
  have registry : Registry (grown st domain).lib := daemonInv.registry
  have below : BevsBelow (grown st domain).lib := connections.below
  have names : NamesApart (grown st domain).lib := inv.names
  have extends_ := (connections.built daemonInv inside short build).2
  obtain ⟨self, wire, idPath, epPath, selfLive, -, connected, ⟨isNew, isNext⟩, idParsed, epParsed⟩ :=
    ifaceBuild_connects registry below short live build
  obtain ⟨apart, loops⟩ := ifaceBuild_loops registry build names
  have listed : Listed made st.ifaces.next := by
    obtain ⟨opened, id, both, ep, lib, -, -, rfl, -⟩ := ifaceBuild_ok build
    exact (built_listed inside).mpr (.inl rfl)
  refine ⟨apart, fun lo member => ?_⟩
  rcases loops lo member with ⟨old, oldMember, sameSelf, -⟩ | ⟨isSelf, target, parsed⟩ | ⟨isOther, target, parsed⟩ | failed
  · obtain ⟨iface, peer, other, wasListed, wasLive, was, atEnd⟩ := inv.wired old oldMember
    obtain ⟨after, stillListed, afterLive, still⟩ := extends_.stays wasListed wasLive was
    exact ⟨iface, after, other, stillListed, afterLive, still, atEnd.congr sameSelf⟩
  · obtain ⟨isLoop, -⟩ := Prod.mk.inj (Option.some.inj (idParsed.symm.trans parsed))
    exact ⟨_, self, wire, listed, selfLive, connected, .inl ⟨isSelf.trans isNew.symm, isLoop⟩⟩
  · obtain ⟨isLoop, -⟩ := Prod.mk.inj (Option.some.inj (epParsed.symm.trans parsed))
    exact ⟨_, self, wire, listed, selfLive, connected, .inr ⟨isOther.trans isNext.symm, isLoop⟩⟩
  · exact (failed rfl).elim

theorem LoopInv.opened {d : RtemgrData} (inv : LoopInv st) (connections : Connections st) (daemonInv : DaemonInv st)
    (plenty : outcome.Plenty) (returned : doRtecmdOpen dtblTable st outcome d = .ok (next, ret)) : LoopInv next := by
  have extends_ := (connections.opened daemonInv returned).2
  obtain ⟨rfl, -⟩ | ⟨intf, rest, domain, made, failed, -, found, -, -, build, ended⟩ := doRtecmdOpen_ok returned
  · exact inv
  have short : intf.name.text.length ≤ 128 := Nat.le_trans intf.name.text_length (by decide)
  rcases ended with ⟨rfl, -, rfl⟩ | ⟨wrong, -, free⟩
  · exact inv.built connections daemonInv (domainLookupById_inside found) short build
  · have live : (grown st domain).ifaces.get st.ifaces.next = some (freshInterface domain) := Heap.get_alloc_next
    refine inv.fewer (fun lo member => ?_) fun lo _ iface self wire listed live connected _ =>
      extends_.stays listed live connected
    have registry : Registry (grown st domain).lib := daemonInv.registry
    exact ifaceBuild_loopsUndone registry plenty live build wrong free member

theorem LoopInv.freed (inv : LoopInv st) (connections : Connections st) (daemonInv : DaemonInv st)
    (listed : Listed st iface) (returned : ifaceFree dtblTable st iface = .ok next) : LoopInv next := by
  obtain ⟨owner, closed, freed, first, second⟩ := ifaceFree_freed returned
  refine inv.fewer (fun lo member => ?_) fun lo member other self wire otherListed live connected atEnd => ?_
  · exact .of_mem ((closeIfOpen_loops first).1 ((closeIfOpen_loops second).1 member))
  by_cases isFreed : iface = other
  · subst isFreed
    cases freed.live.symm.trans live
    exact (connected.loops_gone daemonInv.registry first second atEnd member).elim
  · have kept := connections.freed_connected daemonInv listed returned isFreed otherListed live connected
    obtain ⟨after, afterLive, same⟩ := freed.stays (fun same => isFreed same.symm) self live
    exact ⟨after, (freed.listed daemonInv.routes).mpr ⟨fun same => isFreed same.symm, otherListed⟩, afterLive,
      kept.kept kept.attached (.of_mem fun _ member _ => member) same⟩

theorem LoopInv.closed {interfaces : List RtemgrIntf} (inv : LoopInv st) (connections : Connections st)
    (daemonInv : DaemonInv st) (returned : closeInterfaces dtblTable st interfaces = .ok next) : LoopInv next := by
  have start : DaemonInv st ∧ Connections st ∧ LoopInv st := ⟨daemonInv, connections, inv⟩
  suffices all : DaemonInv next ∧ Connections next ∧ LoopInv next from all.2.2
  apply closeInterfaces_keeps _ start returned
  intro intf _ before after iface kept found free
  obtain ⟨daemonInv, connections, inv⟩ := kept
  have listed := ifaceOf_listed found
  exact ⟨daemonInv.freed listed free, connections.freed daemonInv listed free,
    inv.freed connections daemonInv listed free⟩

theorem LoopInv.handled {msg : LoopMessage} (inv : LoopInv st) (connections : Connections st) (daemonInv : DaemonInv st)
    (plenty : msg.memory.iface.Plenty) (handled : Handled dtblTable lib st msg next) : LoopInv next := by
  obtain steady | ⟨d, ret, -, ⟨-, opened⟩ | ⟨-, closed⟩⟩ := handled.steady_or
  · exact inv.steady steady
  · exact inv.opened connections daemonInv plenty opened
  · exact inv.closed connections daemonInv (doRtecmdClose_ok closed)

end Invariant

end Rteipc
