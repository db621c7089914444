import Rteipc.Endpoint.Pair
import Rteipc.Rtemgrd.Open

namespace Rteipc

/-! The two endpoints of every listed interface stay bound to each other. -/

open Data

/-- The endpoints under the ids of the interface are attached to each other, and
its loop, where it has one, is on the list. -/
structure Connected (lib : Lib) (owner : Interface) (wire : Wire) : Prop where
  attached : Attached lib wire
  id : wire.core.id = owner.id
  ep : wire.partner.id = owner.ep
  loop : wire.core.type = .loop → ∃ lo ∈ lib.loList, lo.self = wire.ep ∧ lo.name = owner.name

/-- The loops of an endpoint keep their names. -/
def LoopsStay (st next : Lib) (ep : EpPtr) : Prop :=
  ∀ lo ∈ st.loList, lo.self = ep → ∃ kept ∈ next.loList, kept.self = lo.self ∧ kept.name = lo.name

section Library

variable {st next last lib : Lib} {self after : Interface} {wire : Wire} {id : Int} {iface : IfacePtr}

theorem identity_fields (same : after.identity = self.identity) :
    after.id = self.id ∧ after.ep = self.ep ∧ after.name = self.name := by
  have sameId := congrArg Interface.id same
  have sameEp := congrArg Interface.ep same
  have sameName := congrArg Interface.name same
  exact ⟨sameId, sameEp, sameName⟩

theorem Connected.kept (connected : Connected st self wire) (attached : Attached next wire)
    (stays : LoopsStay st next wire.ep) (same : after.identity = self.identity) : Connected next after wire := by
  obtain ⟨sameId, sameEp, sameName⟩ := identity_fields same
  refine ⟨attached, connected.id.trans sameId.symm, connected.ep.trans sameEp.symm, fun isLoop => ?_⟩
  obtain ⟨lo, member, isSelf, named⟩ := connected.loop isLoop
  obtain ⟨kept, keptMember, keptSelf, keptName⟩ := stays lo member isSelf
  exact ⟨kept, keptMember, keptSelf.trans isSelf, keptName.trans (named.trans sameName.symm)⟩

theorem LoopsStay.of_mem {ep : EpPtr} (kept : ∀ lo ∈ st.loList, lo.self = ep → lo ∈ next.loList) :
    LoopsStay st next ep :=
  fun lo member isSelf => ⟨lo, kept lo member isSelf, rfl, rfl⟩

theorem LoopsStay.trans {ep : EpPtr} (first : LoopsStay st next ep) (second : LoopsStay next last ep) :
    LoopsStay st last ep := by
  intro lo member isSelf
  obtain ⟨middle, middleMember, middleSelf, middleName⟩ := first lo member isSelf
  obtain ⟨kept, keptMember, keptSelf, keptName⟩ := second middle middleMember (middleSelf.trans isSelf)
  exact ⟨kept, keptMember, keptSelf.trans middleSelf, keptName.trans middleName⟩

/-! ## Transfers -/

theorem Transferred.bevsFrom (moved : Transferred st next) : BevsFrom st next where
  fresh := Nat.le_of_eq moved.fresh.symm
  cores ep core bev live has := by
    rw [moved.cores] at live
    exact .inl ⟨core, live, has⟩
  halves bev half other live linked := by
    have same := moved.halves bev
    rw [live, Option.map_some, eq_comm, Option.map_eq_some_iff] at same
    obtain ⟨before, old, samePartner⟩ := same
    exact .inl ⟨before, old, samePartner.trans linked⟩

theorem Transferred.attached (moved : Transferred st next) (attached : Attached st wire) : Attached next wire := by
  refine attached.spared moved.bevsFrom ⟨?_, ?_, moved.halves _, moved.halves _, fun found => ?_, fun found => ?_⟩
  · rw [moved.cores]
  · rw [moved.cores]
  · rw [moved.epTbl]
    exact found
  · rw [moved.epTbl]
    exact found

theorem Transferred.connected (moved : Transferred st next) (connected : Connected st self wire)
    (same : after.identity = self.identity) : Connected next after wire := by
  refine connected.kept (moved.attached connected.attached) (.of_mem fun lo member _ => ?_) same
  rw [moved.loList]
  exact member

/-! ## Closing -/

theorem closeIfOpen_bevsFrom (returned : closeIfOpen dtblTable st id = .ok next) : BevsFrom st next := by
  unfold closeIfOpen at returned
  split at returned
  next => exact rteipcClose_bevsFrom returned
  next =>
    cases returned
    exact (Grows.refl _).bevsFrom

/-- The id does not find the endpoints of the wire. -/
def Misses (st : Lib) (id : Int) (wire : Wire) : Prop :=
  0 ≤ id → ∀ ep core, dtblGet st.epTbl id = some ep → st.cores.get ep = some core → ep ≠ wire.ep ∧ ep ≠ wire.other

theorem closeIfOpen_connected (connected : Connected st self wire) (misses : Misses st id wire)
    (returned : closeIfOpen dtblTable st id = .ok next) : Connected next self wire := by
  have attached : Attached next wire := by
    unfold closeIfOpen at returned
    split at returned
    next isOpen =>
      refine connected.attached.closed returned fun ep found => ?_
      rcases rteipcClose_cases returned with ⟨missing, -⟩ | ⟨other, core, -, foundOther, live, -⟩
      · nomatch missing.symm.trans found
      · cases foundOther.symm.trans found
        exact misses isOpen ep core found live
    next =>
      cases returned
      exact connected.attached
  refine connected.kept attached (.of_mem fun lo member isSelf => ?_) rfl
  refine (closeIfOpen_loops returned).2 member fun isOpen found => ?_
  rw [isSelf] at found ⊢
  cases live : st.cores.get wire.ep with
  | none => rfl
  | some core => exact ((misses isOpen _ core found live).1 rfl).elim

theorem Connected.misses (connected : Connected st self wire) (registry : Registry st) (notId : id ≠ self.id)
    (notEp : id ≠ self.ep) : Misses st id wire := by
  intro _ ep core found _
  refine connected.attached.found_ne registry ?_ ?_ found
  · rw [connected.id]
    exact notId
  · rw [connected.ep]
    exact notEp

theorem FindsNew.misses {before : Lib} (new : 0 ≤ id → FindsNew before st id) (attached : Attached before wire) :
    Misses st id wire := by
  intro isOpen ep core found live
  have above := new isOpen ep core found live
  constructor
  · rintro rfl
    exact Nat.not_lt.mpr above (Heap.live_lt attached.live)
  · rintro rfl
    exact Nat.not_lt.mpr above (Heap.live_lt attached.otherLive)

/-! ## Opening -/

/-- Openings and a callback registered leave what was there alone. -/
structure Adds (st next : Lib) : Prop where
  grows : Grows st next
  stays : ∀ ep, LoopsStay st next ep

theorem Adds.trans (first : Adds st next) (second : Adds next last) : Adds st last :=
  ⟨first.grows.trans second.grows, fun ep => (first.stays ep).trans (second.stays ep)⟩

theorem Adds.connected (adds : Adds st next) (connected : Connected st self wire) : Connected next self wire :=
  connected.kept (connected.attached.grows adds.grows) (adds.stays _) rfl

theorem OpenResult.adds {outcome : OpenOutcome} {uri : List UInt8} {ret : Int}
    (result : OpenResult st outcome uri next ret) (short : uri.length ≤ 128) : Adds st next := by
  refine ⟨result.grows, fun ep => .of_mem fun lo member _ => ?_⟩
  obtain ⟨more, added, -⟩ := result.added short
  rw [added]
  exact List.mem_append_left more member

theorem xferSetcb_adds (lib : Lib) (name : List UInt8) (iface : IfacePtr) :
    Adds lib (rteipcXferSetcb lib name (some .defaultDomainHandler) (some iface)).1 := by
  rcases xferSetcb_cases lib name iface with ⟨-, same⟩ | ⟨lo, -, same⟩
  · rw [same]
    exact ⟨.refl lib, fun ep => .of_mem fun _ member _ => member⟩
  · rw [same]
    refine ⟨calledLoops_grows (.refl lib), fun ep node member _ => ?_⟩
    refine ⟨_, List.mem_map.mpr ⟨node, member, rfl⟩, ?_⟩
    split
    · exact ⟨rfl, rfl⟩
    · exact ⟨rfl, rfl⟩

theorem xferSetcb_registry (registry : Registry lib) (name : List UInt8) (iface : IfacePtr) :
    Registry (rteipcXferSetcb lib name (some .defaultDomainHandler) (some iface)).1 := by
  rcases xferSetcb_cases lib name iface with ⟨-, same⟩ | ⟨lo, -, same⟩
  · rw [same]
    exact registry
  · rw [same]
    exact calledLoops_registry registry

section Both

variable {opened both : Lib} {idOutcome epOutcome : OpenOutcome} {idType epType : EpType} {idPath epPath : List UInt8}
  {idDesc epDesc : Nat} {le re : EpPtr} {left right : EpCore}

theorem opened_found (registry : Registry st) (openedRegistry : Registry opened)
    (idOpened : Opened st idOutcome idType idPath idDesc opened)
    (epOpened : Opened opened epOutcome epType epPath epDesc both) (grows : Grows both next)
    (sameCores : next.cores = both.cores) (found : dtblGet next.epTbl idDesc = some le)
    (otherFound : dtblGet next.epTbl epDesc = some re) (live : next.cores.get le = some left)
    (otherLive : next.cores.get re = some right) (differ : le ≠ re) :
    le = st.cores.next ∧ left = ⟨idDesc, -1, idType, none⟩ ∧ re = opened.cores.next ∧
      right = ⟨epDesc, -1, epType, none⟩ := by
  have above : st.cores.next ≤ le :=
    (Grows.refl st).findsNew registry idOpened.unused (idOpened.grows.trans (epOpened.grows.trans grows)) le left found live
  have otherAbove : opened.cores.next ≤ re :=
    (Grows.refl opened).findsNew openedRegistry epOpened.unused (epOpened.grows.trans grows) re right otherFound otherLive
  rw [sameCores] at live otherLive
  have below := Heap.live_lt live
  have otherBelow := Heap.live_lt otherLive
  have fresh := idOpened.fresh
  rw [epOpened.fresh] at below otherBelow
  obtain rfl : re = opened.cores.next := Nat.le_antisymm (Nat.le_of_lt_succ otherBelow) otherAbove
  obtain rfl : le = st.cores.next := by
    rw [fresh] at below differ
    exact Nat.le_antisymm (Nat.le_of_lt_succ (Nat.lt_of_le_of_ne (Nat.le_of_lt_succ below) differ)) above
  rw [epOpened.others _ differ, idOpened.core] at live
  rw [epOpened.core] at otherLive
  exact ⟨rfl, (Option.some.inj live).symm, rfl, (Option.some.inj otherLive).symm⟩

end Both

end Library

section Building

variable {st next : Daemon (Dtbl EpPtr)} {outcome : IfaceOutcome} {iface : IfacePtr} {name path : List UInt8}
  {busType managed : BitVec 32} {ret : Int}

/-- A build leaves the interfaces that are connected so, also where it fails. -/
theorem ifaceBuild_keeps (registry : Registry st.lib) (below : BevsBelow st.lib) (short : name.length ≤ 128)
    (returned : ifaceBuild dtblTable st outcome iface name path busType managed = .ok (next, ret)) :
    BevsBelow next.lib ∧ ∀ self wire, Connected st.lib self wire → Connected next.lib self wire := by
  obtain ⟨opened, id, both, ep, lib, idOpened, epOpened, rfl, ended⟩ := ifaceBuild_ok returned
  obtain ⟨openedRegistry, idResult⟩ := rteipcOpen_ok registry idOpened
  obtain ⟨-, epResult⟩ := rteipcOpen_ok openedRegistry epOpened
  have adds := (idResult.adds short).trans ((epResult.adds (uri_short busType path)).trans (xferSetcb_adds both name iface))
  have belowCalled := adds.grows.bevsFrom.below below
  rcases ended with ⟨-, -, rfl⟩ | ⟨-, bound, binding, -⟩
  · exact ⟨belowCalled, fun self wire connected => adds.connected connected⟩
  · obtain ⟨origin, attached⟩ := rteipcBind_spared binding
    obtain ⟨same, -⟩ := rteipcBind_ok binding
    refine ⟨origin.below belowCalled, fun self wire connected => ?_⟩
    have called := adds.connected connected
    refine called.kept (attached wire called.attached) (.of_mem fun lo member _ => ?_) rfl
    rw [same.loList]
    exact member

theorem ifaceBuild_connects {before : Interface} (registry : Registry st.lib) (below : BevsBelow st.lib)
    (short : name.length ≤ 128) (live : st.ifaces.get iface = some before)
    (returned : ifaceBuild dtblTable st outcome iface name path busType managed = .ok (next, 0)) :
    ∃ self wire idPath epPath, next.ifaces.get iface = some self ∧ self.name = name ∧ Connected next.lib self wire ∧
      (wire.ep = st.lib.cores.next ∧ wire.other = st.lib.cores.next + 1) ∧
        parseUri name = some (wire.core.type, idPath) ∧
          parseUri ((busToPrefix busType ++ path).take 127) = some (wire.partner.type, epPath) := by
  obtain ⟨opened, id, both, ep, lib, idOpened, epOpened, rfl, ⟨-, failed, -⟩ | ⟨given, bound, binding, bindRet⟩⟩ :=
    ifaceBuild_ok returned
  · nomatch failed
  obtain ⟨openedRegistry, idResult⟩ := rteipcOpen_ok registry idOpened
  obtain ⟨bothRegistry, epResult⟩ := rteipcOpen_ok openedRegistry epOpened
  have idAdds := idResult.adds short
  have epAdds := epResult.adds (uri_short busType path)
  have calledAdds := xferSetcb_adds both name iface
  rcases idResult with ⟨rfl, -⟩ | ⟨idType, idPath, idDesc, rfl, idParsed, idMade, -⟩
  · exact (given (.inl (by decide))).elim
  rcases epResult with ⟨rfl, -⟩ | ⟨epType, epPath, epDesc, rfl, epParsed, epMade, -⟩
  · exact (given (.inr (by decide))).elim
  have boundGiven : ¬bound < 0 := by
    intro negative
    rw [if_pos negative] at bindRet
    nomatch bindRet
  have belowCalled := (idAdds.trans (epAdds.trans calledAdds)).grows.bevsFrom.below below
  obtain ⟨le, re, left, right, found, otherFound, differ, leftLive, rightLive, leftNamed, rightNamed, attached⟩ :=
    rteipcBind_attached (xferSetcb_registry bothRegistry name iface) belowCalled binding boundGiven
  have sameCores : (rteipcXferSetcb both name (some .defaultDomainHandler) (some iface)).1.cores = both.cores := by
    rcases xferSetcb_cases both name iface with ⟨-, same⟩ | ⟨lo, -, same⟩
    · rw [same]
    · rw [same]
      rfl
  obtain ⟨rfl, rfl, rfl, rfl⟩ := opened_found registry openedRegistry idMade epMade calledAdds.grows sameCores found
    otherFound leftLive rightLive differ
  have made : (st.ifaces.modify iface fun self => self.built idDesc epDesc name ((busToPrefix busType ++ path).take 127)
      busType managed).get iface = some (before.built idDesc epDesc name ((busToPrefix busType ++ path).take 127)
      busType managed) := by
    rw [Heap.get_modify_self, live]
    rfl
  refine ⟨_, _, idPath, epPath, made, rfl, ⟨attached, rfl, rfl, fun isLoop => ?_⟩, ⟨rfl, idMade.fresh⟩, idParsed,
    epParsed⟩
  obtain ⟨same, -⟩ := rteipcBind_ok binding
  have isLoopType : idType = .loop := isLoop
  subst isLoopType
  have new : (⟨st.lib.cores.next, name, none, none⟩ : Loop DaemonCb IfacePtr) ∈ opened.loList := by
    obtain rfl : idPath = name := (parseUri_loop idParsed).trans (List.take_of_length_le short)
    rw [idMade.loList]
    exact List.mem_append_right _ (List.mem_singleton_self _)
  obtain ⟨lo, member, isSelf, named⟩ := (epAdds.trans calledAdds).stays _ _ new rfl
  refine ⟨lo, ?_, isSelf, named⟩
  rw [same.loList]
  exact member

end Building

/-! ## Freeing -/

/-- An interface is off its list and freed. -/
structure Freed (st : Daemon (Dtbl EpPtr)) (iface : IfacePtr) (owner : Interface) (next : Daemon (Dtbl EpPtr)) :
    Prop where
  live : st.ifaces.get iface = some owner
  lists : next.domainList = st.domainList.modify owner.domain (·.remove iface)
  ctrl : next.ctrlIface = st.ctrlIface
  gone : next.ifaces.get iface = none
  others : ∀ other, other ≠ iface →
    (next.ifaces.get other).map Interface.identity = (st.ifaces.get other).map Interface.identity

section Freeing

variable {st next made : Daemon (Dtbl EpPtr)} {iface other : IfacePtr} {self : Interface}

theorem ifaceFree_freed (returned : ifaceFree dtblTable st iface = .ok next) :
    ∃ self closed, Freed st iface self next ∧ closeIfOpen dtblTable st.lib self.id = .ok closed ∧
      closeIfOpen dtblTable closed self.ep = .ok next.lib := by
  obtain ⟨self, closed, lib, forgotten, live, first, second, forgot, rfl⟩ := ifaceFree_ok returned
  obtain ⟨_, ifaces, -, rfl, -⟩ := ifaceForget_ok forgot
  refine ⟨self, closed, ⟨live, rfl, rfl, Heap.get_free_self, fun other differ => ?_⟩, first, second⟩
  exact (congrArg _ (Heap.get_free_of_ne differ)).trans ((ifaceForget_steady forgot).ifaces other)

theorem Freed.listed (freed : Freed st iface self next) (inv : RouteInv st) :
    Listed next other ↔ other ≠ iface ∧ Listed st other := by
  have same : Listed next other ↔ Listed (unlisted st st.lib self.domain iface) other := by
    unfold Listed
    rw [freed.lists]
    rfl
  exact same.trans (unlisted_listed inv freed.live)

theorem Freed.before (freed : Freed st iface self next) {after : Interface} (live : next.ifaces.get other = some after)
    (differ : other ≠ iface) : ∃ before, st.ifaces.get other = some before ∧ after.identity = before.identity := by
  have same := freed.others other differ
  rw [live, Option.map_some, eq_comm, Option.map_eq_some_iff] at same
  obtain ⟨before, old, fields⟩ := same
  exact ⟨before, old, fields.symm⟩

/-- The interface is still what it was, but for its partner and its queue. -/
def IfaceStays (st next : Daemon (Dtbl EpPtr)) (iface : IfacePtr) : Prop :=
  ∀ self, st.ifaces.get iface = some self →
    ∃ after, next.ifaces.get iface = some after ∧ after.identity = self.identity

theorem IfaceStays.refl (st : Daemon (Dtbl EpPtr)) (iface : IfacePtr) : IfaceStays st st iface :=
  fun self live => ⟨self, live, rfl⟩

theorem IfaceStays.trans (first : IfaceStays st made iface) (second : IfaceStays made next iface) :
    IfaceStays st next iface := by
  intro self live
  obtain ⟨middle, middleLive, middleSame⟩ := first self live
  obtain ⟨after, afterLive, same⟩ := second middle middleLive
  exact ⟨after, afterLive, same.trans middleSame⟩

theorem Freed.stays (freed : Freed st iface self next) (differ : other ≠ iface) : IfaceStays st next other := by
  intro peer live
  have fields := freed.others other differ
  rw [live, Option.map_some, Option.map_eq_some_iff] at fields
  exact fields

/-- After a failed build both ends are closed again, as far as they were opened. -/
theorem ifaceBuild_freed {outcome : IfaceOutcome} {name path : List UInt8} {busType managed : BitVec 32}
    {failed : Int} {before : Interface} (live : st.ifaces.get iface = some before)
    (build : ifaceBuild dtblTable st outcome iface name path busType managed = .ok (made, failed)) (wrong : failed ≠ 0)
    (free : ifaceFree dtblTable made iface = .ok next) :
    ∃ opened id both ep closed,
      rteipcOpen dtblTable st.lib outcome.id name = .ok (opened, id) ∧
        rteipcOpen dtblTable opened outcome.ep ((busToPrefix busType ++ path).take 127) = .ok (both, ep) ∧
        made.lib = (rteipcXferSetcb both name (some .defaultDomainHandler) (some iface)).1 ∧
          closeIfOpen dtblTable made.lib id = .ok closed ∧ closeIfOpen dtblTable closed ep = .ok next.lib := by
  obtain ⟨opened, id, both, ep, idOpened, epOpened, rfl⟩ := ifaceBuild_failed build wrong
  obtain ⟨self, closed, freed, first, second⟩ := ifaceFree_freed free
  have owner := freed.live
  rw [Heap.get_modify_self, live] at owner
  cases owner
  exact ⟨opened, id, both, ep, closed, idOpened, epOpened, rfl, first, second⟩

theorem ifaceBuild_rolledBack {outcome : IfaceOutcome} {name path : List UInt8} {busType managed : BitVec 32}
    {failed : Int} {before : Interface} (registry : Registry st.lib) (below : BevsBelow st.lib)
    (short : name.length ≤ 128) (live : st.ifaces.get iface = some before)
    (build : ifaceBuild dtblTable st outcome iface name path busType managed = .ok (made, failed)) (wrong : failed ≠ 0)
    (free : ifaceFree dtblTable made iface = .ok next) :
    BevsBelow next.lib ∧ ∀ self wire, Connected st.lib self wire → Connected next.lib self wire := by
  obtain ⟨madeBelow, keeps⟩ := ifaceBuild_keeps registry below short build
  obtain ⟨opened, id, both, ep, closed, idOpened, epOpened, called, first, second⟩ :=
    ifaceBuild_freed live build wrong free
  obtain ⟨openedRegistry, idResult⟩ := rteipcOpen_ok registry idOpened
  obtain ⟨-, epResult⟩ := rteipcOpen_ok openedRegistry epOpened
  have calledGrows : Grows both made.lib := by
    rw [called]
    exact (xferSetcb_adds both name iface).grows
  obtain ⟨firstNew, secondNew, -⟩ := rolledBack_grows registry openedRegistry idResult epResult calledGrows first second
  refine ⟨(closeIfOpen_bevsFrom second).below ((closeIfOpen_bevsFrom first).below madeBelow), fun self wire connected => ?_⟩
  have afterFirst := closeIfOpen_connected (keeps self wire connected) (FindsNew.misses firstNew connected.attached) first
  exact closeIfOpen_connected afterFirst (FindsNew.misses secondNew connected.attached) second

end Freeing

/-! ## The invariant -/

/-- Listed interfaces are connected, and no two of them share an id. -/
structure Connections (st : Daemon (Dtbl EpPtr)) : Prop where
  below : BevsBelow st.lib
  connected : ∀ iface self, Listed st iface → st.ifaces.get iface = some self → ∃ wire, Connected st.lib self wire
  apart : ∀ iface self other peer, Listed st iface → st.ifaces.get iface = some self → Listed st other →
    st.ifaces.get other = some peer → iface ≠ other →
      (self.id ≠ peer.id ∧ self.id ≠ peer.ep) ∧ self.ep ≠ peer.id ∧ self.ep ≠ peer.ep

section Connections

variable {lib : PacketLib} {st next : Daemon (Dtbl EpPtr)} {iface : IfacePtr}

theorem Connections.fewer (connections : Connections st) (below : BevsBelow next.lib)
    (olds : ∀ iface after, Listed next iface → next.ifaces.get iface = some after →
      ∃ self, Listed st iface ∧ st.ifaces.get iface = some self ∧ after.identity = self.identity ∧
        ∀ wire, Connected st.lib self wire → Connected next.lib after wire) : Connections next where
  below := below
  connected iface after listed live := by
    obtain ⟨self, wasListed, wasLive, -, keeps⟩ := olds iface after listed live
    obtain ⟨wire, connected⟩ := connections.connected iface self wasListed wasLive
    exact ⟨wire, keeps wire connected⟩
  apart iface after other peerAfter listed live otherListed otherLive differ := by
    obtain ⟨self, wasListed, wasLive, same, -⟩ := olds iface after listed live
    obtain ⟨peer, peerListed, peerLive, peerSame, -⟩ := olds other peerAfter otherListed otherLive
    obtain ⟨sameId, sameEp, -⟩ := identity_fields same
    obtain ⟨peerId, peerEp, -⟩ := identity_fields peerSame
    rw [sameId, sameEp, peerId, peerEp]
    exact connections.apart iface self other peer wasListed wasLive peerListed peerLive differ

theorem Steady.before (steady : Steady st next) {after : Interface} (live : next.ifaces.get iface = some after) :
    ∃ self, st.ifaces.get iface = some self ∧ after.identity = self.identity := by
  have same := steady.ifaces iface
  rw [live, Option.map_some, eq_comm, Option.map_eq_some_iff] at same
  obtain ⟨self, old, fields⟩ := same
  exact ⟨self, old, fields.symm⟩

theorem Steady.listed (steady : Steady st next) : Listed next iface ↔ Listed st iface := by
  unfold Listed
  rw [steady.lists]

theorem Connections.steady (connections : Connections st) (steady : Steady st next) : Connections next := by
  refine connections.fewer (steady.lib.bevsFrom.below connections.below) fun iface after listed live => ?_
  obtain ⟨self, wasLive, same⟩ := steady.before live
  exact ⟨self, steady.listed.mp listed, wasLive, same, fun wire connected => steady.lib.connected connected same⟩

theorem Connections.freed_connected (connections : Connections st) (inv : DaemonInv st) (listed : Listed st iface)
    (returned : ifaceFree dtblTable st iface = .ok next) {other : IfacePtr} {peer : Interface} {wire : Wire}
    (differ : iface ≠ other) (otherListed : Listed st other) (otherLive : st.ifaces.get other = some peer)
    (connected : Connected st.lib peer wire) : Connected next.lib peer wire := by
  obtain ⟨self, closed, freed, first, second⟩ := ifaceFree_freed returned
  obtain ⟨⟨idId, idEp⟩, epId, epEp⟩ :=
    connections.apart iface self other peer listed freed.live otherListed otherLive differ
  have afterFirst := closeIfOpen_connected connected (connected.misses inv.registry idId idEp) first
  have closedRegistry := closeIfOpen_registry inv.registry first
  exact closeIfOpen_connected afterFirst (afterFirst.misses closedRegistry epId epEp) second

theorem Connections.freed (connections : Connections st) (inv : DaemonInv st) (listed : Listed st iface)
    (returned : ifaceFree dtblTable st iface = .ok next) : Connections next := by
  obtain ⟨self, closed, freed, first, second⟩ := ifaceFree_freed returned
  have below := (closeIfOpen_bevsFrom second).below ((closeIfOpen_bevsFrom first).below connections.below)
  refine connections.fewer below fun other after afterListed afterLive => ?_
  obtain ⟨differ, wasListed⟩ := (freed.listed inv.routes).mp afterListed
  obtain ⟨peer, peerLive, same⟩ := freed.before afterLive differ
  refine ⟨peer, wasListed, peerLive, same, fun wire connected => ?_⟩
  have kept := connections.freed_connected inv listed returned differ.symm wasListed peerLive connected
  exact kept.kept kept.attached (.of_mem fun _ member _ => member) same

theorem DaemonInv.freed (inv : DaemonInv st) (listed : Listed st iface)
    (returned : ifaceFree dtblTable st iface = .ok next) : DaemonInv next := by
  obtain ⟨registry, args, fresh⟩ := ifaceFree_library inv.registry inv.args returned
  exact ⟨(ifaceFree_partners inv.routes listed returned).2, registry, fresh ▸ args⟩

theorem Connections.closed {interfaces : List RtemgrIntf} (connections : Connections st) (inv : DaemonInv st)
    (returned : closeInterfaces dtblTable st interfaces = .ok next) : DaemonInv next ∧ Connections next := by
  have start : DaemonInv st ∧ Connections st := ⟨inv, connections⟩
  apply closeInterfaces_keeps _ start returned
  intro intf _ before after iface kept found free
  have listed := ifaceOf_listed found
  exact ⟨kept.1.freed listed free, kept.2.freed kept.1 listed free⟩

/-- What is there stays: new interfaces come after the others. -/
structure Extends (st next : Daemon (Dtbl EpPtr)) : Prop where
  ctrl : next.ctrlIface = st.ctrlIface
  lists : ∀ (position : Nat) domain, st.domainList[position]? = some domain → ∃ more,
    next.domainList[position]? = some { domain with ifaceList := domain.ifaceList ++ more }
  ifaces : ∀ iface self, st.ifaces.get iface = some self →
    ∃ after, next.ifaces.get iface = some after ∧ after.identity = self.identity
  connected : ∀ self wire, Connected st.lib self wire → Connected next.lib self wire

theorem Steady.extends_ (steady : Steady st next) : Extends st next where
  ctrl := steady.ctrl
  lists position domain found := by
    refine ⟨[], ?_⟩
    rw [steady.lists, found, List.append_nil]
  ifaces iface self live := steady.live live
  connected self wire connected := steady.lib.connected connected rfl

theorem Connected.apart {lib : Lib} {self peer : Interface} {wire other : Wire} (first : Connected lib self wire)
    (second : Connected lib peer other) (ep : wire.ep ≠ other.ep ∧ wire.ep ≠ other.other)
    (partner : wire.other ≠ other.ep ∧ wire.other ≠ other.other) :
    (self.id ≠ peer.id ∧ self.id ≠ peer.ep) ∧ self.ep ≠ peer.id ∧ self.ep ≠ peer.ep := by
  have found := first.attached.found
  have partnerFound := first.attached.otherFound
  have peerFound := second.attached.found
  have peerPartner := second.attached.otherFound
  rw [first.id] at found
  rw [first.ep] at partnerFound
  rw [second.id] at peerFound
  rw [second.ep] at peerPartner
  refine ⟨⟨fun same => ?_, fun same => ?_⟩, fun same => ?_, fun same => ?_⟩
  · rw [same, peerFound] at found
    exact ep.1 (Option.some.inj found).symm
  · rw [same, peerPartner] at found
    exact ep.2 (Option.some.inj found).symm
  · rw [same, peerFound] at partnerFound
    exact partner.1 (Option.some.inj partnerFound).symm
  · rw [same, peerPartner] at partnerFound
    exact partner.2 (Option.some.inj partnerFound).symm

section Opening

variable {made : Daemon (Dtbl EpPtr)} {outcome : IfaceOutcome} {domain : Nat} {name path : List UInt8}
  {busType managed : BitVec 32} {ret : Int}

theorem built_extends {lib : Lib} {build : Interface → Interface}
    (connected : ∀ self wire, Connected st.lib self wire → Connected lib self wire) :
    Extends st (built st lib domain build) where
  ctrl := rfl
  lists position listed found := by
    rw [built_list, found, Option.map_some]
    split
    · exact ⟨_, rfl⟩
    · exact ⟨[], by rw [List.append_nil]⟩
  ifaces iface self live := by
    refine ⟨self, ?_, rfl⟩
    rw [built_get, if_neg (Heap.live_ne_next live), live]
  connected := connected

theorem Connections.built (connections : Connections st) (inv : DaemonInv st) (inside : domain < st.domainList.length)
    (short : name.length ≤ 128) (build : ifaceBuild dtblTable (grown st domain) outcome st.ifaces.next name path busType
      managed = .ok (made, 0)) : Connections made ∧ Extends st made := by
  have live : (grown st domain).ifaces.get st.ifaces.next = some (freshInterface domain) := Heap.get_alloc_next
  have registry : Registry (grown st domain).lib := inv.registry
  have below : BevsBelow (grown st domain).lib := connections.below
  obtain ⟨madeBelow, keeps⟩ := ifaceBuild_keeps registry below short build
  obtain ⟨self, wire, -, -, selfLive, -, connected, ⟨isNew, isNext⟩, -⟩ :=
    ifaceBuild_connects registry below short live build
  obtain ⟨opened, id, both, ep, lib, -, -, rfl, -⟩ := ifaceBuild_ok build
  have epNew : st.lib.cores.next ≤ wire.ep := Nat.le_of_eq isNew.symm
  have otherNew : st.lib.cores.next ≤ wire.other := by
    rw [isNext]
    exact Nat.le_succ _
  have extends_ : Extends st (Rteipc.built st lib domain fun self =>
      self.built id ep name ((busToPrefix busType ++ path).take 127) busType managed) := built_extends keeps
  have old : ∀ iface peer, iface ≠ st.ifaces.next → Listed (Rteipc.built st lib domain fun self =>
      self.built id ep name ((busToPrefix busType ++ path).take 127) busType managed) iface →
      (Rteipc.built st lib domain fun self =>
        self.built id ep name ((busToPrefix busType ++ path).take 127) busType managed).ifaces.get iface = some peer →
      Listed st iface ∧ st.ifaces.get iface = some peer := by
    intro iface peer differ listed peerLive
    rw [built_get, if_neg differ] at peerLive
    exact ⟨((built_listed inside).mp listed).resolve_left differ, peerLive⟩
  have apartNew : ∀ iface peer, Listed st iface → st.ifaces.get iface = some peer →
      (self.id ≠ peer.id ∧ self.id ≠ peer.ep) ∧ self.ep ≠ peer.id ∧ self.ep ≠ peer.ep := by
    intro iface peer listed peerLive
    obtain ⟨other, was⟩ := connections.connected iface peer listed peerLive
    have epOld := Heap.live_lt was.attached.live
    have otherOld := Heap.live_lt was.attached.otherLive
    refine connected.apart (keeps peer other was) ⟨?_, ?_⟩ ⟨?_, ?_⟩
    · exact (Nat.ne_of_lt (Nat.lt_of_lt_of_le epOld epNew)).symm
    · exact (Nat.ne_of_lt (Nat.lt_of_lt_of_le otherOld epNew)).symm
    · exact (Nat.ne_of_lt (Nat.lt_of_lt_of_le epOld otherNew)).symm
    · exact (Nat.ne_of_lt (Nat.lt_of_lt_of_le otherOld otherNew)).symm
  refine ⟨⟨madeBelow, fun iface peer listed peerLive => ?_, ?_⟩, extends_⟩
  · by_cases isNew : iface = st.ifaces.next
    · subst isNew
      cases selfLive.symm.trans peerLive
      exact ⟨wire, connected⟩
    · obtain ⟨wasListed, wasLive⟩ := old iface peer isNew listed peerLive
      obtain ⟨other, was⟩ := connections.connected iface peer wasListed wasLive
      exact ⟨other, keeps peer other was⟩
  · intro iface peer other third listed peerLive otherListed otherLive differ
    by_cases isNew : iface = st.ifaces.next
    · subst isNew
      cases selfLive.symm.trans peerLive
      obtain ⟨wasListed, wasLive⟩ := old other third differ.symm otherListed otherLive
      exact apartNew other third wasListed wasLive
    · obtain ⟨wasListed, wasLive⟩ := old iface peer isNew listed peerLive
      by_cases otherNew : other = st.ifaces.next
      · subst otherNew
        cases selfLive.symm.trans otherLive
        obtain ⟨⟨idId, idEp⟩, epId, epEp⟩ := apartNew iface peer wasListed wasLive
        exact ⟨⟨idId.symm, epId.symm⟩, idEp.symm, epEp.symm⟩
      · obtain ⟨otherWas, otherWasLive⟩ := old other third otherNew otherListed otherLive
        exact connections.apart iface peer other third wasListed wasLive otherWas otherWasLive differ

theorem Connections.opened {d : RtemgrData} (connections : Connections st) (inv : DaemonInv st)
    (returned : doRtecmdOpen dtblTable st outcome d = .ok (next, ret)) : Connections next ∧ Extends st next := by
  obtain ⟨rfl, -⟩ | ⟨intf, rest, domain, made, failed, -, found, -, -, build, ended⟩ := doRtecmdOpen_ok returned
  · exact ⟨connections, (Steady.refl _).extends_⟩
  have short : intf.name.text.length ≤ 128 := Nat.le_trans intf.name.text_length (by decide)
  rcases ended with ⟨rfl, -, rfl⟩ | ⟨wrong, -, free⟩
  · exact connections.built inv (domainLookupById_inside found) short build
  · have live : (grown st domain).ifaces.get st.ifaces.next = some (freshInterface domain) := Heap.get_alloc_next
    have registry : Registry (grown st domain).lib := inv.registry
    have wasBelow : BevsBelow (grown st domain).lib := connections.below
    obtain ⟨below, keeps⟩ := ifaceBuild_rolledBack registry wasBelow short live build wrong free
    obtain ⟨self, closed, freed, -, -⟩ := ifaceFree_freed free
    obtain ⟨opened, id, both, ep, lib, -, -, rfl, -⟩ := ifaceBuild_ok build
    have lists : next.domainList = st.domainList := by
      have here : self.domain = domain := by
        have made := freed.live
        rw [Heap.get_modify_self, live] at made
        cases made
        rfl
      rw [freed.lists, here]
      exact unlisted_grown inv.routes
    have same : ∀ iface, iface ≠ st.ifaces.next →
        (next.ifaces.get iface).map Interface.identity = (st.ifaces.get iface).map Interface.identity := by
      intro iface differ
      rw [freed.others iface differ]
      exact congrArg _ ((Heap.get_modify_of_ne differ).trans (Heap.get_alloc_of_ne differ))
    refine ⟨connections.fewer below fun iface after listed afterLive => ?_, freed.ctrl, fun position listed found => ?_,
      fun iface self live => ?_, keeps⟩
    · have wasListed : Listed st iface := by
        unfold Listed
        rw [← lists]
        exact listed
      obtain ⟨peer, peerLive⟩ := inv.routes.live wasListed
      have fields := same iface (Heap.live_ne_next peerLive)
      rw [afterLive, peerLive, Option.map_some, Option.map_some] at fields
      refine ⟨peer, wasListed, peerLive, Option.some.inj fields, fun wire connected => ?_⟩
      have kept := keeps peer wire connected
      exact kept.kept kept.attached (.of_mem fun _ member _ => member) (Option.some.inj fields)
    · refine ⟨[], ?_⟩
      rw [lists, found, List.append_nil]
    · have fields := same iface (Heap.live_ne_next live)
      rw [live, Option.map_some, Option.map_eq_some_iff] at fields
      exact fields

end Opening

/-! ## Every run -/

theorem Connections.handled {msg : LoopMessage} (connections : Connections st) (inv : DaemonInv st)
    (handled : Handled dtblTable lib st msg next) : Connections next := by
  obtain steady | ⟨d, ret, -, ⟨-, opened⟩ | ⟨-, closed⟩⟩ := handled.steady_or
  · exact connections.steady steady
  · exact (connections.opened inv opened).1
  · exact (connections.closed inv (doRtecmdClose_ok closed)).2

theorem Connections.step {msg : LoopMessage} (connections : Connections st) (inv : DaemonInv st)
    (taken : RtemgrdStep dtblTable lib st msg next) : Connections next := by
  obtain ⟨middle, ep, handled, moved, rfl⟩ := taken.handled
  exact (connections.handled inv handled).steady (.of_lib moved)

end Connections

end Rteipc
