import Rteipc.Rtemgrd.Control
import Rteipc.Rtemgrd.Loops

namespace Rteipc

/-! Which interface the callback of a loop is given: the one that has the loop,
as long as no open command takes a name that a loop has. -/

open Data

/-- The loop is that of an endpoint of the listed interface, and has its name. -/
structure LoopOf (st : Daemon (Dtbl EpPtr)) (iface : IfacePtr) (lo : Loop DaemonCb IfacePtr) : Prop where
  listed : Listed st iface
  owner : ∃ self, st.ifaces.get iface = some self ∧ self.name = lo.name ∧
    (dtblGet st.lib.epTbl self.id = some lo.self ∨ dtblGet st.lib.epTbl self.ep = some lo.self)
  type : (st.lib.cores.get lo.self).map EpCore.type = some .loop

/-- A callback is given the interface that has the loop, and the loop of every
interface calls back with it. -/
structure OwnersCalled (st : Daemon (Dtbl EpPtr)) : Prop where
  owned : ∀ lo ∈ st.lib.loList, ∀ iface, lo.arg = some iface → LoopOf st iface lo
  called : ∀ iface self ep, Listed st iface → st.ifaces.get iface = some self → dtblGet st.lib.epTbl self.id = some ep →
    (st.lib.cores.get ep).map EpCore.type = some .loop →
      ∃ lo ∈ st.lib.loList, lo.self = ep ∧ lo.name = self.name ∧ lo.cb = some .defaultDomainHandler ∧ lo.arg = some iface

/-- An open command in the message builds its interface under a free name. -/
def OpensClean (lib : PacketLib) (st : Daemon (Dtbl EpPtr)) (msg : LoopMessage) : Prop :=
  ∀ d, Requests lib msg d → d.cmd.action.toNat = 2 → OpenClean st msg.memory.iface d

/-! ## The openings and the callback -/

section Library

variable {st opened both closed final : Lib} {idOutcome epOutcome outcome : OpenOutcome} {name uri : List UInt8}
  {id ep ret : Int} {iface other : IfacePtr} {lo : Loop DaemonCb IfacePtr}

theorem OpenResult.member (result : OpenResult st outcome uri opened ret) (short : uri.length ≤ 128)
    (member : lo ∈ opened.loList) :
    lo ∈ st.loList ∨ lo = ⟨st.cores.next, uri, none, none⟩ ∧ OpensLoop st outcome uri ∧
      opened.cores.next = st.cores.next + 1 := by
  obtain ⟨same, -⟩ | ⟨added, opens, number, -, made⟩ := result.loops short
  · rw [same] at member
    exact .inl member
  · rw [added] at member
    obtain old | new := List.mem_append.mp member
    · exact .inl old
    · exact .inr ⟨List.mem_singleton.mp new, opens, made.fresh⟩

theorem OpenResult.old (result : OpenResult st outcome uri opened ret) (short : uri.length ≤ 128)
    (member : lo ∈ st.loList) : lo ∈ opened.loList := by
  obtain ⟨more, added, -⟩ := result.added short
  rw [added]
  exact List.mem_append_left more member

/-- The loops after the openings that were not there before, told apart by their endpoints. -/
theorem openings_member (idResult : OpenResult st idOutcome name opened id) (epResult : OpenResult opened epOutcome uri both ep)
    (nameShort : name.length ≤ 128) (uriShort : uri.length ≤ 128) (member : lo ∈ both.loList) :
    lo ∈ st.loList ∨
      lo = ⟨st.cores.next, name, none, none⟩ ∧ OpensLoop st idOutcome name ∧ opened.cores.next = st.cores.next + 1 ∨
        lo = ⟨opened.cores.next, uri, none, none⟩ ∧ OpensLoop opened epOutcome uri := by
  obtain inOpened | ⟨isNew, opens, -⟩ := epResult.member uriShort member
  · obtain old | new := idResult.member nameShort inOpened
    · exact .inl old
    · exact .inr (.inl new)
  · exact .inr (.inr ⟨isNew, opens⟩)

theorem openings_fresh (idResult : OpenResult st idOutcome name opened id)
    (epResult : OpenResult opened epOutcome uri both ep) (nameShort : name.length ≤ 128) (uriShort : uri.length ≤ 128)
    (free : lookupLo st.loList name = none) {found : Loop DaemonCb IfacePtr}
    (named : lookupLo both.loList name = some found) : st.cores.next ≤ found.self := by
  obtain old | ⟨rfl, -, -⟩ | ⟨rfl, -⟩ :=
    openings_member idResult epResult nameShort uriShort (List.mem_of_find?_eq_some named)
  · have isNamed := List.find?_some named
    exact (List.find?_eq_none.mp free found old isNamed).elim
  · exact Nat.le_refl _
  · exact idResult.grows.fresh

/-- Where the name was free, the callback is registered with one of the new loops. -/
theorem openings_called (registry : Registry st) (idResult : OpenResult st idOutcome name opened id)
    (epResult : OpenResult opened epOutcome uri both ep) (nameShort : name.length ≤ 128) (uriShort : uri.length ≤ 128)
    (free : lookupLo st.loList name = none)
    (member : lo ∈ (rteipcXferSetcb both name (some .defaultDomainHandler) (some iface)).1.loList) :
    lo ∈ st.loList ∨ lo.arg = none ∨ lo.arg = some iface ∧ lo.name = name ∧
      (lo.self = st.cores.next ∧ OpensLoop st idOutcome name ∨ lo.self = opened.cores.next ∧ OpensLoop opened epOutcome uri) := by
  have unchanged : ∀ node ∈ both.loList, node ∈ st.loList ∨ node.arg = none := by
    intro node member
    obtain old | ⟨rfl, -⟩ | ⟨rfl, -⟩ := openings_member idResult epResult nameShort uriShort member
    · exact .inl old
    · exact .inr rfl
    · exact .inr rfl
  obtain ⟨-, same⟩ | ⟨found, named, same⟩ := xferSetcb_cases both name iface
  · rw [same] at member
    obtain old | silent := unchanged lo member
    · exact .inl old
    · exact .inr (.inl silent)
  · rw [same] at member
    obtain ⟨node, inBoth, rfl⟩ := List.mem_map.mp member
    have new := openings_fresh idResult epResult nameShort uriShort free named
    have isNamed := List.find?_some named
    have inFound := openings_member idResult epResult nameShort uriShort (List.mem_of_find?_eq_some named)
    split
    next isFound =>
      refine .inr (.inr ⟨rfl, ?_⟩)
      obtain old | ⟨rfl, opens, -⟩ | ⟨rfl, opens⟩ := openings_member idResult epResult nameShort uriShort inBoth
      · have below := registry.loops node old
        rw [isFound] at below
        exact (Nat.not_lt.mpr new below).elim
      · exact ⟨rfl, .inl ⟨rfl, opens⟩⟩
      · refine ⟨?_, .inr ⟨rfl, opens⟩⟩
        obtain old | ⟨rfl, -, fresh⟩ | ⟨rfl, -⟩ := inFound
        · exact (List.find?_eq_none.mp free found old isNamed).elim
        · have same : opened.cores.next = st.cores.next := isFound
          omega
        · exact of_decide_eq_true isNamed
    next =>
      obtain old | silent := unchanged node inBoth
      · exact .inl old
      · exact .inr (.inl silent)

theorem openings_kept (registry : Registry st) (idResult : OpenResult st idOutcome name opened id)
    (epResult : OpenResult opened epOutcome uri both ep) (nameShort : name.length ≤ 128) (uriShort : uri.length ≤ 128)
    (free : lookupLo st.loList name = none) (member : lo ∈ st.loList) :
    lo ∈ (rteipcXferSetcb both name (some .defaultDomainHandler) (some iface)).1.loList := by
  have inBoth := epResult.old uriShort (idResult.old nameShort member)
  obtain ⟨-, same⟩ | ⟨found, named, same⟩ := xferSetcb_cases both name iface
  · rw [same]
    exact inBoth
  · rw [same]
    have new := openings_fresh idResult epResult nameShort uriShort free named
    have differ : lo.self ≠ found.self := Nat.ne_of_lt (Nat.lt_of_lt_of_le (registry.loops lo member) new)
    exact List.mem_map.mpr ⟨lo, inBoth, if_neg differ⟩

/-- The loop the name opens is the one that is called. -/
theorem openings_calls (iface : IfacePtr) (idResult : OpenResult st idOutcome name opened id)
    (epResult : OpenResult opened epOutcome uri both ep) (nameShort : name.length ≤ 128) (uriShort : uri.length ≤ 128)
    (free : lookupLo st.loList name = none) (opens : OpensLoop st idOutcome name) :
    (⟨st.cores.next, name, some .defaultDomainHandler, some iface⟩ : Loop DaemonCb IfacePtr) ∈
      (rteipcXferSetcb both name (some .defaultDomainHandler) (some iface)).1.loList := by
  obtain ⟨-, not⟩ | ⟨added, -⟩ := idResult.loops nameShort
  · exact (not opens).elim
  obtain ⟨more, addedMore, -⟩ := epResult.added uriShort
  have named : lookupLo both.loList name = some ⟨st.cores.next, name, none, none⟩ := by
    rw [addedMore, added, lookupLo_append, lookupLo_append, free]
    simp [lookupLo]
  obtain ⟨absent, -⟩ | ⟨found, isFound, same⟩ := xferSetcb_cases both name iface
  · cases named.symm.trans absent
  · cases named.symm.trans isFound
    rw [same]
    exact List.mem_map.mpr ⟨_, List.mem_of_find?_eq_some named, if_pos rfl⟩

/-- If none of the loops that are left refers to the interface, the others are as they were. -/
theorem rolledBack_kept (registry : Registry st) (idResult : OpenResult st idOutcome name opened id)
    (epResult : OpenResult opened epOutcome uri both ep) (openedRegistry : Registry opened)
    (nameShort : name.length ≤ 128) (uriShort : uri.length ≤ 128)
    (first : closeIfOpen dtblTable (rteipcXferSetcb both name (some .defaultDomainHandler) (some iface)).1 id = .ok closed)
    (second : closeIfOpen dtblTable closed ep = .ok final) (spared : ∀ lo ∈ final.loList, lo.arg ≠ some iface) :
    LoopsKept st final iface := by
  have calledGrows := (xferSetcb_adds both name iface).grows
  obtain ⟨firstNew, secondNew, -⟩ := rolledBack_grows registry openedRegistry idResult epResult calledGrows first second
  have stays : ∀ node : Loop DaemonCb IfacePtr, node.self < st.cores.next →
      node ∈ (rteipcXferSetcb both name (some .defaultDomainHandler) (some iface)).1.loList → node ∈ final.loList :=
    fun node old member => closeIfOpen_old secondNew second old (closeIfOpen_old firstNew first old member)
  refine ⟨fun node old => ?_, spared⟩
  have below := registry.loops node old
  have inBoth := epResult.old uriShort (idResult.old nameShort old)
  apply stays node below
  obtain ⟨-, same⟩ | ⟨found, named, same⟩ := xferSetcb_cases both name iface
  · rw [same]
    exact inBoth
  · rw [same] at stays ⊢
    refine List.mem_map.mpr ⟨node, inBoth, if_neg fun isFound => ?_⟩
    obtain ⟨called, inCalled, sameSelf, isArg⟩ := calledLoops_mem iface (List.mem_of_find?_eq_some named)
    have oldCalled : called.self < st.cores.next := by
      rw [sameSelf, ← isFound]
      exact below
    exact spared called (stays called oldCalled inCalled) isArg

/-- What is left of the openings refers to no other interface. -/
theorem rolledBack_member (idResult : OpenResult st idOutcome name opened id)
    (epResult : OpenResult opened epOutcome uri both ep) (nameShort : name.length ≤ 128) (uriShort : uri.length ≤ 128)
    (first : closeIfOpen dtblTable (rteipcXferSetcb both name (some .defaultDomainHandler) (some iface)).1 id = .ok closed)
    (second : closeIfOpen dtblTable closed ep = .ok final) (member : lo ∈ final.loList) (isArg : lo.arg = some other)
    (differ : other ≠ iface) : lo ∈ st.loList := by
  have inBoth : lo ∈ both.loList := by
    have called := (closeIfOpen_loops first).1 ((closeIfOpen_loops second).1 member)
    obtain ⟨-, same⟩ | ⟨found, -, same⟩ := xferSetcb_cases both name iface
    · rw [same] at called
      exact called
    · rw [same] at called
      obtain ⟨node, inBoth, changed⟩ := List.mem_map.mp called
      split at changed
      next =>
        rw [← changed] at isArg
        exact (differ (Option.some.inj isArg).symm).elim
      next =>
        rw [← changed]
        exact inBoth
  obtain old | ⟨rfl, -⟩ | ⟨rfl, -⟩ := openings_member idResult epResult nameShort uriShort inBoth
  · exact old
  · cases isArg
  · cases isArg

end Library

/-! ## The owner of a loop -/

/-- A listed interface of `st` is one of `next`, with the same endpoints. -/
def StaysConnected (st next : Daemon (Dtbl EpPtr)) (iface : IfacePtr) : Prop :=
  ∀ self wire, Listed st iface → st.ifaces.get iface = some self → Connected st.lib self wire →
    Listed next iface ∧ ∃ after, next.ifaces.get iface = some after ∧ after.identity = self.identity ∧
      Connected next.lib after wire

section Owners

variable {st next : Daemon (Dtbl EpPtr)} {iface : IfacePtr} {self after : Interface} {wire : Wire} {ep : EpPtr}
  {lo : Loop DaemonCb IfacePtr}

theorem Connected.first_eq {lib : Lib} (connected : Connected lib self wire) (found : dtblGet lib.epTbl self.id = some ep) :
    ep = wire.ep := by
  rw [← connected.id, connected.attached.found] at found
  exact (Option.some.inj found).symm

theorem Connected.second_eq {lib : Lib} (connected : Connected lib self wire) (found : dtblGet lib.epTbl self.ep = some ep) :
    ep = wire.other := by
  rw [← connected.ep, connected.attached.otherFound] at found
  exact (Option.some.inj found).symm

theorem LoopOf.atEnd (isOf : LoopOf st iface lo) (live : st.ifaces.get iface = some self)
    (connected : Connected st.lib self wire) : lo.name = self.name ∧ AtEnd lo wire := by
  obtain ⟨same, sameLive, named, found⟩ := isOf.owner
  cases live.symm.trans sameLive
  refine ⟨named.symm, ?_⟩
  have type := isOf.type
  obtain found | found := found
  · have isFirst := connected.first_eq found
    rw [isFirst, connected.attached.live] at type
    exact .inl ⟨isFirst, Option.some.inj type⟩
  · have isSecond := connected.second_eq found
    rw [isSecond, connected.attached.otherLive] at type
    exact .inr ⟨isSecond, Option.some.inj type⟩

theorem Connected.loopOf (connected : Connected st.lib self wire) (listed : Listed st iface)
    (live : st.ifaces.get iface = some self) (named : lo.name = self.name) (atEnd : AtEnd lo wire) : LoopOf st iface lo := by
  have attached := connected.attached
  obtain ⟨isFirst, type⟩ | ⟨isSecond, type⟩ := atEnd
  · refine ⟨listed, ⟨self, live, named.symm, .inl ?_⟩, ?_⟩
    · rw [← connected.id, isFirst]
      exact attached.found
    · rw [isFirst, attached.live, Option.map_some, type]
  · refine ⟨listed, ⟨self, live, named.symm, .inr ?_⟩, ?_⟩
    · rw [← connected.ep, isSecond]
      exact attached.otherFound
    · rw [isSecond, attached.otherLive, Option.map_some, type]

theorem LoopOf.stays (isOf : LoopOf st iface lo) (connections : Connections st) (stays : StaysConnected st next iface) :
    LoopOf next iface lo := by
  obtain ⟨self, live, -⟩ := isOf.owner
  obtain ⟨wire, connected⟩ := connections.connected iface self isOf.listed live
  obtain ⟨named, atEnd⟩ := isOf.atEnd live connected
  obtain ⟨listed, after, afterLive, same, still⟩ := stays self wire isOf.listed live connected
  exact still.loopOf listed afterLive (named.trans (identity_fields same).2.2.symm) atEnd

/-- The loop of an interface that stays called back with it before. -/
theorem OwnersCalled.loop (owners : OwnersCalled st) (connections : Connections st) (inv : RouteInv st)
    (listed : Listed st iface) (stays : StaysConnected st next iface) (live : next.ifaces.get iface = some after)
    (found : dtblGet next.lib.epTbl after.id = some ep) (type : (next.lib.cores.get ep).map EpCore.type = some .loop) :
    ∃ lo ∈ st.lib.loList, lo.self = ep ∧ lo.name = after.name ∧ lo.cb = some .defaultDomainHandler ∧ lo.arg = some iface := by
  obtain ⟨self, wasLive⟩ := inv.live listed
  obtain ⟨wire, connected⟩ := connections.connected iface self listed wasLive
  obtain ⟨-, same, sameLive, identity, still⟩ := stays self wire listed wasLive connected
  cases live.symm.trans sameLive
  obtain rfl := still.first_eq found
  rw [still.attached.live] at type
  have wasFound := connected.attached.found
  have wasType := congrArg (Option.map EpCore.type) connected.attached.live
  rw [connected.id] at wasFound
  obtain ⟨lo, member, isSelf, named, called, isArg⟩ := owners.called iface self wire.ep listed wasLive wasFound (wasType.trans type)
  exact ⟨lo, member, isSelf, named.trans (identity_fields identity).2.2.symm, called, isArg⟩

theorem Extends.staysConnected (extends_ : Extends st next) : StaysConnected st next iface := by
  intro self wire listed live connected
  obtain ⟨after, afterLive, same⟩ := extends_.ifaces iface self live
  have kept := extends_.connected self wire connected
  exact ⟨extends_.listed listed, after, afterLive, same, kept.kept kept.attached (.of_mem fun _ member _ => member) same⟩

/-- Some interfaces and their loops are gone, and the others are as they were. -/
theorem OwnersCalled.fewer (owners : OwnersCalled st) (connections : Connections st) (inv : RouteInv st)
    (olds : ∀ iface, Listed next iface → Listed st iface ∧ StaysConnected st next iface)
    (owned : ∀ lo ∈ next.lib.loList, ∀ iface, lo.arg = some iface → lo ∈ st.lib.loList ∧ Listed next iface)
    (kept : ∀ lo ∈ st.lib.loList, ∀ iface, lo.arg = some iface → Listed next iface → lo ∈ next.lib.loList) :
    OwnersCalled next where
  owned lo member iface isArg := by
    obtain ⟨old, listed⟩ := owned lo member iface isArg
    exact (owners.owned lo old iface isArg).stays connections (olds iface listed).2
  called iface after ep listed live found type := by
    obtain ⟨wasListed, stays⟩ := olds iface listed
    obtain ⟨lo, member, isSelf, named, called, isArg⟩ := owners.loop connections inv wasListed stays live found type
    exact ⟨lo, kept lo member iface isArg listed, isSelf, named, called, isArg⟩

theorem OwnersCalled.steady (owners : OwnersCalled st) (connections : Connections st) (inv : RouteInv st)
    (steady : Steady st next) : OwnersCalled next := by
  refine owners.fewer connections inv (fun iface listed => ⟨steady.listed.mp listed, steady.extends_.staysConnected⟩) ?_ ?_
  · intro lo member iface isArg
    rw [steady.lib.loList] at member
    exact ⟨member, steady.listed.mpr (owners.owned lo member iface isArg).listed⟩
  · intro lo member iface _ _
    rw [steady.lib.loList]
    exact member

/-! ## Closing -/

theorem closeIfOpen_spares {lib final : Lib} {id : Int} (misses : Misses lib id wire)
    (returned : closeIfOpen dtblTable lib id = .ok final) (atEnd : AtEnd lo wire) (member : lo ∈ lib.loList) :
    lo ∈ final.loList := by
  refine (closeIfOpen_loops returned).2 member fun isOpen found => ?_
  cases live : lib.cores.get lo.self with
  | none => rfl
  | some core =>
      obtain ⟨notFirst, notSecond⟩ := misses isOpen _ core found live
      obtain ⟨isFirst, -⟩ | ⟨isSecond, -⟩ := atEnd
      · exact (notFirst isFirst).elim
      · exact (notSecond isSecond).elim

theorem OwnersCalled.freed (owners : OwnersCalled st) (connections : Connections st) (inv : DaemonInv st)
    (listed : Listed st iface) (returned : ifaceFree dtblTable st iface = .ok next) : OwnersCalled next := by
  obtain ⟨owner, closed, freed, first, second⟩ := ifaceFree_freed returned
  have olds : ∀ other, Listed next other → other ≠ iface ∧ Listed st other := fun other => (freed.listed inv.routes).mp
  have stays : ∀ other, other ≠ iface → StaysConnected st next other := by
    intro other differ self wire otherListed live connected
    have kept := connections.freed_connected inv listed returned differ.symm otherListed live connected
    obtain ⟨after, afterLive, same⟩ := freed.stays differ self live
    exact ⟨(freed.listed inv.routes).mpr ⟨differ, otherListed⟩, after, afterLive, same,
      kept.kept kept.attached (.of_mem fun _ member _ => member) same⟩
  refine owners.fewer connections inv.routes ?_ ?_ ?_
  · intro other otherListed
    obtain ⟨differ, wasListed⟩ := olds other otherListed
    exact ⟨wasListed, stays other differ⟩
  · intro lo member other isArg
    have old := (closeIfOpen_loops first).1 ((closeIfOpen_loops second).1 member)
    have isOf := owners.owned lo old other isArg
    refine ⟨old, (freed.listed inv.routes).mpr ⟨?_, isOf.listed⟩⟩
    rintro rfl
    obtain ⟨wire, connected⟩ := connections.connected other owner listed freed.live
    exact connected.loops_gone inv.registry first second (isOf.atEnd freed.live connected).2 member
  · intro lo member other isArg otherListed
    obtain ⟨differ, wasListed⟩ := olds other otherListed
    obtain ⟨peer, peerLive⟩ := inv.routes.live wasListed
    obtain ⟨wire, connected⟩ := connections.connected other peer wasListed peerLive
    have atEnd := ((owners.owned lo member other isArg).atEnd peerLive connected).2
    obtain ⟨⟨idId, idEp⟩, epId, epEp⟩ :=
      connections.apart iface owner other peer listed freed.live wasListed peerLive differ.symm
    have misses := connected.misses inv.registry idId idEp
    have afterFirst := closeIfOpen_connected connected misses first
    have closedRegistry := closeIfOpen_registry inv.registry first
    exact closeIfOpen_spares (afterFirst.misses closedRegistry epId epEp) second atEnd
      (closeIfOpen_spares misses first atEnd member)

theorem OwnersCalled.closed {interfaces : List RtemgrIntf} (owners : OwnersCalled st) (connections : Connections st)
    (inv : DaemonInv st) (returned : closeInterfaces dtblTable st interfaces = .ok next) : OwnersCalled next := by
  have start : (DaemonInv st ∧ Connections st) ∧ OwnersCalled st := ⟨⟨inv, connections⟩, owners⟩
  suffices all : (DaemonInv next ∧ Connections next) ∧ OwnersCalled next from all.2
  apply closeInterfaces_keeps _ start returned
  intro intf _ before after iface kept found free
  obtain ⟨⟨inv, connections⟩, owners⟩ := kept
  have listed := ifaceOf_listed found
  exact ⟨⟨inv.freed listed free, connections.freed inv listed free⟩, owners.freed connections inv listed free⟩

/-! ## Opening -/

section Opening

variable {outcome : IfaceOutcome} {domain : Nat} {name path : List UInt8} {busType managed : BitVec 32} {ret : Int}
  {made : Daemon (Dtbl EpPtr)}

/-- What the two openings of a build that succeeds came to. -/
structure Openings (lib made : Lib) (outcome : IfaceOutcome) (iface : IfacePtr) (name uri : List UInt8) (opened both : Lib)
    (id ep : Int) : Prop where
  idOpened : rteipcOpen dtblTable lib outcome.id name = .ok (opened, id)
  registry : Registry opened
  idResult : OpenResult lib outcome.id name opened id
  epResult : OpenResult opened outcome.ep uri both ep
  given : ¬(id < 0 ∨ ep < 0)
  loList : made.loList = (rteipcXferSetcb both name (some .defaultDomainHandler) (some iface)).1.loList
  epTbl : made.epTbl = both.epTbl

theorem ifaceBuild_openings (registry : Registry st.lib)
    (build : ifaceBuild dtblTable st outcome iface name path busType managed = .ok (made, 0)) :
    ∃ opened both id ep,
      Openings st.lib made.lib outcome iface name ((busToPrefix busType ++ path).take 127) opened both id ep := by
  obtain ⟨opened, id, both, ep, lib, idOpened, epOpened, rfl, ⟨-, failed, -⟩ | ⟨given, bound, binding, -⟩⟩ := ifaceBuild_ok build
  · cases failed
  obtain ⟨openedRegistry, idResult⟩ := rteipcOpen_ok registry idOpened
  obtain ⟨-, epResult⟩ := rteipcOpen_ok openedRegistry epOpened
  obtain ⟨same, -⟩ := rteipcBind_ok binding
  refine ⟨opened, both, id, ep, idOpened, openedRegistry, idResult, epResult, given, same.loList, same.epTbl.trans ?_⟩
  obtain ⟨-, same⟩ | ⟨found, -, same⟩ := xferSetcb_cases both name iface
  · rw [same]
  · rw [same]
    rfl

theorem ifaceBuild_listed (inside : domain < st.domainList.length)
    (build : ifaceBuild dtblTable (grown st domain) outcome st.ifaces.next name path busType managed = .ok (made, ret)) :
    Listed made iface ↔ iface = st.ifaces.next ∨ Listed st iface := by
  obtain ⟨opened, id, both, ep, lib, -, -, rfl, -⟩ := ifaceBuild_ok build
  exact built_listed inside

section Openings

variable {lib final opened both : Lib} {uri : List UInt8} {id ep : Int}

theorem Openings.first (openings : Openings lib final outcome iface name uri opened both id ep) :
    ∃ type path, ∃ desc : Nat, id = desc ∧ parseUri name = some (type, path) ∧
      Opened lib outcome.id type path desc opened ∧ (type = .loop → OpensLoop lib outcome.id name) := by
  obtain ⟨failed, -⟩ | done := openings.idResult
  · rw [failed] at openings
    exact (openings.given (.inl (by decide))).elim
  · exact done

theorem Openings.second (openings : Openings lib final outcome iface name uri opened both id ep) :
    ∃ type path, ∃ desc : Nat, ep = desc ∧ parseUri uri = some (type, path) ∧
      Opened opened outcome.ep type path desc both ∧ (type = .loop → OpensLoop opened outcome.ep uri) := by
  obtain ⟨failed, -⟩ | done := openings.epResult
  · rw [failed] at openings
    exact (openings.given (.inr (by decide))).elim
  · exact done

/-- A loop that was opened without an entry is not found by its descriptor. -/
theorem Openings.stored (openings : Openings lib final outcome iface name uri opened both id ep) (registry : Registry lib)
    {first second : Int} (found : dtblGet final.epTbl first = some lib.cores.next)
    (foundNext : dtblGet final.epTbl second = some (lib.cores.next + 1)) :
    ¬Orphans lib outcome.id name ∧ (uri = name → ¬Orphans opened outcome.ep name) := by
  obtain ⟨type, path, desc, -, parsed, idOpened, -⟩ := openings.first
  have held := dtblGet_holds found
  have heldNext := dtblGet_holds foundNext
  rw [openings.epTbl] at held heldNext
  refine ⟨fun orphans => ?_, fun same orphans => ?_⟩
  · obtain ⟨⟨target, isLoop, -⟩, lost⟩ := orphans
    obtain ⟨rfl, -⟩ := Prod.mk.inj (Option.some.inj (parsed.symm.trans isLoop))
    exact (idOpened.newLoop registry openings.epResult.grows).unheld lost first held
  · obtain ⟨type, path, desc, -, parsed, epOpened, -⟩ := openings.second
    obtain ⟨⟨target, isLoop, -⟩, lost⟩ := orphans
    rw [← same] at isLoop
    obtain ⟨rfl, -⟩ := Prod.mk.inj (Option.some.inj (parsed.symm.trans isLoop))
    rw [← idOpened.fresh] at heldNext
    exact (epOpened.newLoop openings.registry (.refl both)).unheld lost second heldNext

end Openings

/-- An interface built under a free name is the one its loop calls. -/
theorem OwnersCalled.built (owners : OwnersCalled st) (connections : Connections st) (inv : DaemonInv st)
    (inside : domain < st.domainList.length) (short : name.length ≤ 128)
    (build : ifaceBuild dtblTable (grown st domain) outcome st.ifaces.next name path busType managed = .ok (made, 0))
    (free : lookupLo st.lib.loList name = none) : OwnersCalled made := by
  have live : (grown st domain).ifaces.get st.ifaces.next = some (freshInterface domain) := Heap.get_alloc_next
  have registry : Registry (grown st domain).lib := inv.registry
  have below : BevsBelow (grown st domain).lib := connections.below
  have extends_ := (connections.built inv inside short build).2
  obtain ⟨self, wire, idPath, epPath, selfLive, named, connected, ⟨isNew, isNext⟩, idParsed, epParsed⟩ :=
    ifaceBuild_connects registry below short live build
  obtain ⟨opened, both, id, ep, openings⟩ := ifaceBuild_openings registry build
  obtain ⟨type, target, desc, -, parsed, idOpened, opens⟩ := openings.first
  have uriShort := uri_short busType path
  have listed : Listed made st.ifaces.next := (ifaceBuild_listed inside build).mpr (.inl rfl)
  refine ⟨fun lo member iface isArg => ?_, fun iface after ep wasListed afterLive found isLoop => ?_⟩
  · rw [openings.loList] at member
    obtain old | silent | ⟨given, isNamed, new⟩ :=
      openings_called inv.registry openings.idResult openings.epResult short uriShort free member
    · exact (owners.owned lo old iface isArg).stays connections extends_.staysConnected
    · cases silent.symm.trans isArg
    · obtain rfl := Option.some.inj (given.symm.trans isArg)
      refine connected.loopOf listed selfLive (isNamed.trans named.symm) ?_
      obtain ⟨isFirst, target, parsed, -⟩ | ⟨isSecond, target, parsed, -⟩ := new
      · obtain ⟨isLoop, -⟩ := Prod.mk.inj (Option.some.inj (idParsed.symm.trans parsed))
        exact .inl ⟨isFirst.trans isNew.symm, isLoop⟩
      · obtain ⟨isLoop, -⟩ := Prod.mk.inj (Option.some.inj (epParsed.symm.trans parsed))
        exact .inr ⟨isSecond.trans (idOpened.fresh.trans isNext.symm), isLoop⟩
  · obtain rfl | old := (ifaceBuild_listed inside build).mp wasListed
    · cases selfLive.symm.trans afterLive
      obtain rfl := connected.first_eq found
      rw [connected.attached.live] at isLoop
      obtain ⟨same, -⟩ := Prod.mk.inj (Option.some.inj (parsed.symm.trans idParsed))
      have called := openings_calls st.ifaces.next openings.idResult openings.epResult short uriShort free
        (opens (same.trans (Option.some.inj isLoop)))
      rw [← openings.loList] at called
      exact ⟨_, called, isNew.symm, named.symm, rfl, rfl⟩
    · obtain ⟨lo, member, isSelf, isNamed, called, isArg⟩ :=
        owners.loop connections inv.routes old extends_.staysConnected afterLive found isLoop
      refine ⟨lo, ?_, isSelf, isNamed, called, isArg⟩
      rw [openings.loList]
      exact openings_kept inv.registry openings.idResult openings.epResult short uriShort free member

/-- The callback of a loop that was there is taken over by a build under its name. -/
theorem OwnersCalled.built_free (owners : OwnersCalled made) (connections : Connections st) (inv : DaemonInv st)
    (short : name.length ≤ 128)
    (build : ifaceBuild dtblTable (grown st domain) outcome st.ifaces.next name path busType managed = .ok (made, 0)) :
    lookupLo st.lib.loList name = none ∧ ¬Orphans st.lib outcome.id name ∧
      ((busToPrefix busType ++ path).take 127 = name → ∀ opened id,
        rteipcOpen dtblTable st.lib outcome.id name = .ok (opened, id) → ¬Orphans opened outcome.ep name) := by
  have live : (grown st domain).ifaces.get st.ifaces.next = some (freshInterface domain) := Heap.get_alloc_next
  have registry : Registry (grown st domain).lib := inv.registry
  have below : BevsBelow (grown st domain).lib := connections.below
  obtain ⟨self, wire, -, -, selfLive, -, connected, ⟨isNew, isNext⟩, -⟩ :=
    ifaceBuild_connects registry below short live build
  obtain ⟨opened, both, id, ep, openings⟩ := ifaceBuild_openings registry build
  have found := connected.attached.found
  have foundNext := connected.attached.otherFound
  rw [isNew] at found
  rw [isNext] at foundNext
  obtain ⟨stored, again⟩ := openings.stored registry found foundNext
  refine ⟨?_, stored, fun same opened' id' idOpened => ?_⟩
  · cases taken : lookupLo st.lib.loList name with
    | none => rfl
    | some lo =>
        have old := List.mem_of_find?_eq_some taken
        have named : lookupLo both.loList name = some lo := by
          obtain ⟨more, added, -⟩ := openings.idResult.added short
          obtain ⟨moreAdded, addedMore, -⟩ := openings.epResult.added (uri_short busType path)
          change opened.loList = st.lib.loList ++ more at added
          rw [addedMore, added, lookupLo_append, lookupLo_append, taken, Option.some_or, Option.some_or]
        obtain ⟨absent, -⟩ | ⟨lo', isFound, same⟩ := xferSetcb_cases both name st.ifaces.next
        · cases named.symm.trans absent
        · cases named.symm.trans isFound
          obtain ⟨called, member, isSelf, isArg⟩ := calledLoops_mem st.ifaces.next (List.mem_of_find?_eq_some named)
          rw [← same, ← openings.loList] at member
          have below := inv.registry.loops lo old
          rw [← isSelf] at below
          obtain ⟨-, ⟨isFirst, -⟩ | ⟨isSecond, -⟩⟩ :=
            (owners.owned called member st.ifaces.next isArg).atEnd selfLive connected
          · rw [isFirst, isNew] at below
            exact (Nat.lt_irrefl _ below).elim
          · rw [isSecond, isNext] at below
            exact (Nat.not_lt.mpr (Nat.le_succ _) below).elim
  · obtain ⟨rfl, -⟩ := Prod.mk.inj (Except.ok.inj (openings.idOpened.symm.trans idOpened))
    exact again same

theorem undone_lists {failed : Int} (inv : RouteInv st)
    (build : ifaceBuild dtblTable (grown st domain) outcome st.ifaces.next name path busType managed = .ok (made, failed))
    (free : ifaceFree dtblTable made st.ifaces.next = .ok next) : next.domainList = st.domainList := by
  obtain ⟨owner, closed, freed, -, -⟩ := ifaceFree_freed free
  obtain ⟨opened, id, both, ep, lib, -, -, rfl, -⟩ := ifaceBuild_ok build
  have here : owner.domain = domain := by
    have made := freed.live
    rw [Heap.get_modify_self, grown, Heap.get_alloc_next] at made
    cases made
    rfl
  rw [freed.lists, here]
  exact unlisted_grown inv

/-- A failed build leaves the owners called exactly when `iface_free` undoes its openings. -/
theorem OwnersCalled.undone {failed : Int} (owners : OwnersCalled st) (connections : Connections st) (inv : DaemonInv st)
    (extends_ : Extends st next) (short : name.length ≤ 128)
    (build : ifaceBuild dtblTable (grown st domain) outcome st.ifaces.next name path busType managed = .ok (made, failed))
    (wrong : failed ≠ 0) (free : ifaceFree dtblTable made st.ifaces.next = .ok next) :
    ∃ opened id, rteipcOpen dtblTable st.lib outcome.id name = .ok (opened, id) ∧
      (OwnersCalled next ↔ lookupLo st.lib.loList name = none ∧ ¬Orphans st.lib outcome.id name ∧
        ((busToPrefix busType ++ path).take 127 = name → ¬Orphans opened outcome.ep name)) := by
  have lists := undone_lists inv.routes build free
  have listed_iff : ∀ iface, Listed next iface ↔ Listed st iface := by
    intro iface
    unfold Listed
    rw [lists]
  obtain ⟨opened, id, both, ep, idOpened, epOpened, rfl⟩ := ifaceBuild_failed build wrong
  obtain ⟨self, closed, final, forgotten, live, first, second, forgot, rfl⟩ := ifaceFree_ok free
  have made : (Rteipc.built st (rteipcXferSetcb both name (some .defaultDomainHandler) (some st.ifaces.next)).1 domain fun self =>
      self.built id ep name ((busToPrefix busType ++ path).take 127) busType managed).ifaces.get st.ifaces.next =
        some self := live
  rw [built_get, if_pos rfl] at made
  obtain rfl := Option.some.inj made
  obtain ⟨_, ifaces, -, rfl, -⟩ := ifaceForget_ok forgot
  obtain ⟨openedRegistry, idResult⟩ := rteipcOpen_ok inv.registry idOpened
  obtain ⟨-, epResult⟩ := rteipcOpen_ok openedRegistry epOpened
  have uriShort := uri_short busType path
  have unused : ∀ lo ∈ st.lib.loList, lo.arg ≠ some st.ifaces.next :=
    fun lo member isArg => Nat.lt_irrefl _ (inv.args lo member _ isArg)
  refine ⟨opened, id, idOpened, Iff.trans ?_ (rolledBack_iff inv.registry unused short uriShort idOpened epOpened first second).2⟩
  constructor
  · intro after
    apply rolledBack_kept inv.registry idResult epResult openedRegistry short uriShort first second
    intro lo member isArg
    have wasListed := (listed_iff _).mp (after.owned lo member _ isArg).listed
    obtain ⟨owner, live⟩ := inv.routes.live wasListed
    exact Heap.live_ne_next live rfl
  · intro kept
    refine owners.fewer connections inv.routes (fun iface listed => ⟨(listed_iff iface).mp listed, extends_.staysConnected⟩) ?_ ?_
    · intro lo member iface isArg
      have differ : iface ≠ st.ifaces.next := by
        rintro rfl
        exact kept.2 lo member isArg
      have old := rolledBack_member idResult epResult short uriShort first second member isArg differ
      exact ⟨old, (listed_iff iface).mpr (owners.owned lo old iface isArg).listed⟩
    · exact fun lo member _ _ _ => kept.1 lo member

theorem OwnersCalled.opened_iff {d : RtemgrData} (owners : OwnersCalled st) (connections : Connections st) (inv : DaemonInv st)
    (returned : doRtecmdOpen dtblTable st outcome d = .ok (next, ret)) : OwnersCalled next ↔ OpenClean st outcome d := by
  have extends_ := (connections.opened inv returned).2
  obtain ⟨rfl, -, unbuilt⟩ | ⟨intf, rest, domain, made, failed, interfaces, found, calloc, pending, build, ended⟩ :=
    doRtecmdOpen_ok returned
  · exact iff_of_true owners fun intf domain builds => (unbuilt intf domain builds).elim
  have short : intf.name.text.length ≤ 128 := Nat.le_trans intf.name.text_length (by decide)
  have builds : Builds st outcome d intf domain := ⟨by rw [interfaces]; rfl, found, calloc, pending⟩
  have inside := domainLookupById_inside found
  have only : ∀ other position, Builds st outcome d other position → other = intf := by
    intro other position otherBuilds
    have first := otherBuilds.first
    rw [interfaces] at first
    exact (Option.some.inj first).symm
  obtain ⟨rfl, -, rfl⟩ | ⟨wrong, -, free⟩ := ended
  · constructor
    · intro after other position otherBuilds
      rw [only other position otherBuilds]
      exact after.built_free connections inv short build
    · intro clean
      exact owners.built connections inv inside short build (clean intf domain builds).1
  · obtain ⟨opened, id, idOpened, undone⟩ := owners.undone connections inv extends_ short build wrong free
    rw [undone]
    constructor
    · rintro ⟨free, stored, again⟩ other position otherBuilds
      rw [only other position otherBuilds]
      refine ⟨free, stored, fun same opened' id' idOpened' => ?_⟩
      obtain ⟨rfl, -⟩ := Prod.mk.inj (Except.ok.inj (idOpened.symm.trans idOpened'))
      exact again same
    · intro clean
      obtain ⟨free, stored, again⟩ := clean intf domain builds
      exact ⟨free, stored, fun same => again same opened id idOpened⟩

end Opening

end Owners

/-! ## Every run -/

section Runs

variable {lib : PacketLib} {st next : Daemon (Dtbl EpPtr)} {msg : LoopMessage}

theorem Transferred.symm {first second : Lib} (moved : Transferred first second) : Transferred second first :=
  ⟨moved.epTbl.symm, moved.cores.symm, moved.loList.symm, moved.fresh.symm, fun bev => (moved.halves bev).symm⟩

theorem Requests.open_ {d : RtemgrData} (requested : Requests lib msg d) (action : d.cmd.action.toNat = 2)
    (taken : RtemgrdStep dtblTable lib st msg next) :
    ∃ middle ret ep, doRtecmdOpen dtblTable st msg.memory.iface d = .ok (middle, ret) ∧ Transferred middle.lib ep ∧
      next = { middle with lib := ep } := by
  obtain ⟨control, parsed, received, rfl⟩ := requested
  obtain ⟨-, -, reply, returned⟩ := taken
  rw [defaultDomainHandler, if_pos control, processCtlport, received] at returned
  have packet : ctlPacket dtblTable lib msg.memory st parsed msg.data = .ok (next, reply) := returned
  obtain ⟨⟨middle, replied⟩, acted, sent⟩ := bind_ok packet
  obtain ⟨ep, moved, rfl⟩ := sendReply_transferred sent
  rw [ctlAction, action] at acted
  obtain ⟨done, opened, acted⟩ := map_ok acted
  cases acted
  exact ⟨done.1, done.2, ep, opened, moved, rfl⟩

theorem OwnersCalled.handled (owners : OwnersCalled st) (connections : Connections st) (inv : DaemonInv st)
    (clean : OpensClean lib st msg) (handled : Handled dtblTable lib st msg next) : OwnersCalled next := by
  obtain steady | ⟨d, ret, requested, ⟨action, opened⟩ | ⟨-, closed⟩⟩ := handled.steady_or
  · exact owners.steady connections inv.routes steady
  · exact (owners.opened_iff connections inv opened).mpr (clean d requested action)
  · exact owners.closed connections inv (doRtecmdClose_ok closed)

/-- A message leaves the owners called exactly when it builds nothing under a taken name. -/
theorem OwnersCalled.step_iff (owners : OwnersCalled st) (connections : Connections st) (inv : DaemonInv st)
    (taken : RtemgrdStep dtblTable lib st msg next) : OwnersCalled next ↔ OpensClean lib st msg := by
  constructor
  · intro after d requested action
    obtain ⟨middle, ret, ep, opened, moved, rfl⟩ := requested.open_ action taken
    have afterInv := inv.step taken
    have afterConnections := connections.step inv taken
    have back : Steady { middle with lib := ep } middle := Steady.of_lib moved.symm
    exact (owners.opened_iff connections inv opened).mp (after.steady afterConnections afterInv.routes back)
  · intro clean
    obtain ⟨middle, ep, handled, moved, rfl⟩ := taken.handled
    exact (owners.handled connections inv clean handled).steady (connections.handled inv handled)
      (inv.handled handled).routes (.of_lib moved)

theorem rtemgrd_owners {outcome : IfaceOutcome} (started : rtemgrd dtblTable outcome = .ok (st, 0)) : OwnersCalled st := by
  have build := rtemgrd_build started
  obtain ⟨inv, connections⟩ : DaemonInv settingUp ∧ Connections settingUp := start_connections _
  have nothing : OwnersCalled settingUp := by
    refine ⟨fun lo member => (List.not_mem_nil member).elim, fun iface self ep listed => ?_⟩
    obtain ⟨self, live⟩ := inv.routes.live listed
    cases live
  exact nothing.built connections inv Nat.zero_lt_one (by decide) build rfl

/-- From start-up on, every callback is given the interface that has its loop, and
the loop of every interface calls back with it, in every state of a run exactly
when no open command of the run takes a name that a loop has. -/
theorem owners_called_iff {outcome : IfaceOutcome} (lib : PacketLib) (started : rtemgrd dtblTable outcome = .ok (st, 0))
    (msgs : List LoopMessage) :
    Always (RtemgrdStep dtblTable lib) OwnersCalled st msgs ↔ Guarded (RtemgrdStep dtblTable lib) (OpensClean lib) st msgs := by
  have preserved : ∀ before msg after, DaemonInv before ∧ Connections before → RtemgrdStep dtblTable lib before msg after →
      DaemonInv after ∧ Connections after :=
    fun _ _ _ both taken => ⟨both.1.step taken, both.2.step both.1 taken⟩
  have exactStep : ∀ before msg after, DaemonInv before ∧ Connections before → OwnersCalled before →
      RtemgrdStep dtblTable lib before msg after → (OwnersCalled after ↔ OpensClean lib before msg) :=
    fun _ _ _ both owners taken => owners.step_iff both.2 both.1 taken
  exact always_iff_guarded preserved exactStep ⟨rtemgrd_inv started, (rtemgrd_wired started).1⟩ (rtemgrd_owners started)

theorem owners_called_iff_started :
    (∃ lo ∈ Daemon.started.lib.loList, lo.name = rtemgrdCtlport ∧ lo.cb = some .defaultDomainHandler) ∧
      ∀ msgs : List LoopMessage,
        (Always (RtemgrdStep dtblTable (.receiving listPacket)) OwnersCalled .started msgs ↔
          Guarded (RtemgrdStep dtblTable (.receiving listPacket)) (OpensClean (.receiving listPacket)) .started msgs) :=
  ⟨started_loop, owners_called_iff (.receiving listPacket) rtemgrd_started⟩

end Runs

end Rteipc
