import Rteipc.Endpoint.Pair

namespace Rteipc

/-! Calls on endpoints that are what they should be return. -/

open Data

variable {Cb Arg : Type} {st next : EpState (Dtbl EpPtr) Cb Arg} {wire : Wire} {ep : EpPtr} {core : EpCore} {id : Int}

/-! ## Closing -/

theorem rteipcClose_eq {unbound : EpState (Dtbl EpPtr) Cb Arg} (found : dtblGet st.epTbl id = some ep)
    (live : st.cores.get ep = some core) (unbind : unbindEndpoint dtblTable (unregistering st ep core) ep = .ok unbound) :
    rteipcClose dtblTable st id = .ok (destroyEndpoint unbound ep) := by
  have find : findEndpoint dtblTable st id = some ep := found
  rw [rteipcClose, find]
  simp only [deref_live live, closeEndpoint_eq, unregisterEndpoint, bind, Except.bind]
  have same : unbindEndpoint dtblTable
      { st with
          loList := if core.type = .loop then st.loList.filter fun lo => lo.self ≠ ep else st.loList
          epTbl := dtblTable.del st.epTbl core.id
          cores := st.cores.modify ep fun core => { core with id := -1 } } ep = .ok unbound := unbind
  rw [same]

theorem rteipcClose_idle (found : dtblGet st.epTbl id = some ep) (live : st.cores.get ep = some core)
    (idle : core.bev = none) :
    rteipcClose dtblTable st id = .ok (destroyEndpoint (unregistering st ep core) ep) := by
  have renamed : (unregistering st ep core).cores.get ep = some { core with id := -1 } := by
    rw [unregistering, Heap.get_modify_self, live]
    rfl
  exact rteipcClose_eq found live (unbindEndpoint_idle renamed idle)

theorem Attached.halves_differ (attached : Attached st wire) : wire.first ≠ wire.second := by
  intro same
  have owner := attached.owner wire.other wire.partner attached.otherLive
  exact attached.differ (owner.1 (same ▸ attached.otherBev)).symm

theorem Attached.close_eq (attached : Attached st wire) :
    rteipcClose dtblTable st wire.core.id = .ok (destroyEndpoint
      (unlinked (unregistering st wire.ep wire.core) wire.ep wire.other wire.first wire.second) wire.ep) := by
  refine rteipcClose_eq attached.found attached.live ?_
  obtain ⟨half, other, live, partner, otherLive, -⟩ := attached.pair
  have core : (unregistering st wire.ep wire.core).cores.get wire.ep = some { wire.core with id := -1 } := by
    rw [unregistering, Heap.get_modify_self, attached.live]
    rfl
  have peer : (unregistering st wire.ep wire.core).cores.get wire.other = some wire.partner :=
    (Heap.get_modify_of_ne attached.differ.symm).trans attached.otherLive
  have found : dtblTable.get (unregistering st wire.ep wire.core).epTbl wire.core.partnerId = some wire.other := by
    change dtblGet (dtblDel st.epTbl wire.core.id) wire.core.partnerId = some wire.other
    rw [dtblGet_del, attached.names]
    exact attached.otherFound
  have bevs : (unregistering st wire.ep wire.core).bevs = st.bevs := rfl
  have left : ((st.bevs.modify wire.second fun half => { half with partner := none }).free wire.first).get wire.second =
      some { other with partner := none } := by
    rw [Heap.get_free_of_ne attached.halves_differ.symm, Heap.get_modify_self, otherLive]
    rfl
  simp only [unbindEndpoint, deref_live core, attached.bev, bevs, deref_live live, partner, found, deref_live peer,
    attached.otherBev, buffereventFree, deref_live left, bind, Except.bind, ne_eq, not_true_eq_false, if_false]
  rfl

theorem Attached.closed_other (attached : Attached st wire)
    (returned : rteipcClose dtblTable st wire.core.id = .ok next) :
    next.cores.get wire.other = some wire.partner.unbound ∧ dtblGet next.epTbl wire.partner.id = some wire.other := by
  rw [attached.close_eq] at returned
  cases returned
  constructor
  · have kept : (unlinked (unregistering st wire.ep wire.core) wire.ep wire.other wire.first wire.second).cores.get
        wire.other = some wire.partner.unbound := by
      rw [unlinked_get, unregistering, Heap.get_modify_of_ne attached.differ.symm, attached.otherLive]
      simp
    exact (Heap.get_free_of_ne attached.differ.symm).trans kept
  · exact dtblGet_del.trans attached.otherFound

/-! ## Opening -/

theorem rteipcOpen_returns {outcome : OpenOutcome} {uri : List UInt8} (short : ¬(scanUri uri).1.length > 15) :
    ∃ next ret, rteipcOpen dtblTable st outcome uri = .ok (next, ret) := by
  cases parsed : parseUri uri with
  | none =>
      simp only [rteipcOpen, if_neg short, parsed]
      exact ⟨st, -1, rfl⟩
  | some target =>
      obtain ⟨type, path⟩ := target
      cases allocated : outcome.core with
      | false =>
          simp only [rteipcOpen, if_neg short, parsed, allocated]
          exact ⟨st, -1, rfl⟩
      | true =>
          by_cases negative : (dtblTable.set outcome.desc st.epTbl st.cores.next).2 < 0
          · rw [rteipcOpen_refused short parsed allocated negative]
            exact ⟨_, _, rfl⟩
          · rw [rteipcOpen_registered short parsed allocated negative]
            obtain ⟨-, sameCores, -⟩ :=
              openEndpoint_kept (withEndpoint dtblTable st outcome.desc type) outcome type st.cores.next path
            have live : (openEndpoint (withEndpoint dtblTable st outcome.desc type) outcome type st.cores.next path).1.cores.get
                st.cores.next = some ⟨(dtblTable.set outcome.desc st.epTbl st.cores.next).2, -1, type, none⟩ := by
              rw [sameCores]
              exact withEndpoint_new
            split
            · rw [unregisterEndpoint_idle live rfl]
              exact ⟨_, _, rfl⟩
            · exact ⟨_, _, rfl⟩

/-! ## Binding -/

theorem rteipcBind_eq {lh rh : Int} {le re : EpPtr} {left right : EpCore} (found : dtblGet st.epTbl lh = some le)
    (otherFound : dtblGet st.epTbl rh = some re) (differ : le ≠ re) (live : st.cores.get le = some left)
    (otherLive : st.cores.get re = some right) (idle : left.bev = none) (otherIdle : right.bev = none) :
    rteipcBind dtblTable st true lh rh =
      .ok (if epCompatible left.type right.type = 0 then (st, -1) else (bindPair st le re left right, 0)) := by
  have find : findEndpoint dtblTable st lh = some le := found
  have otherFind : findEndpoint dtblTable st rh = some re := otherFound
  simp only [rteipcBind, find, otherFind, if_neg differ, deref_live live, deref_live otherLive, bindEndpoint, idle,
    otherIdle, bind, Except.bind]
  split
  · rfl
  · rfl

/-! ## Sending -/

/-- The loop's endpoint has a half of a pair, and the other half is there. -/
def Sends (st : EpState (Dtbl EpPtr) Cb Arg) (lo : Loop Cb Arg) (second : BevPtr) : Prop :=
  ∃ core first half other, st.cores.get lo.self = some core ∧ core.bev = some first ∧ st.bevs.get first = some half ∧
    half.partner = some second ∧ st.bevs.get second = some other

theorem Attached.sends (attached : Attached st wire) {lo : Loop Cb Arg} (isSelf : lo.self = wire.ep) :
    Sends st lo wire.second := by
  obtain ⟨half, other, live, partner, otherLive, -⟩ := attached.pair
  exact ⟨wire.core, wire.first, half, other, isSelf ▸ attached.live, attached.bev, live, partner, otherLive⟩

theorem Attached.sends_back (attached : Attached st wire) {lo : Loop Cb Arg} (isOther : lo.self = wire.other) :
    Sends st lo wire.first := by
  obtain ⟨half, other, live, -, otherLive, back⟩ := attached.pair
  exact ⟨wire.partner, wire.second, other, half, isOther ▸ attached.otherLive, attached.otherBev, otherLive, back, live⟩

theorem Sends.xfer_eq {lo : Loop Cb Arg} {second : BevPtr} (sends : Sends st lo second) {name : List UInt8}
    (named : lookupLo st.loList name = some lo) (data : List UInt8) :
    rteipcXfer st name data = .ok ({ st with bevs := st.bevs.modify second fun half =>
      { half with input := rteipcBuffer half.input data } }, 0) := by
  obtain ⟨core, first, half, other, live, bev, halfLive, partner, -⟩ := sends
  simp only [rteipcXfer, named, deref_live live, bev, deref_live halfLive, partner, bind, Except.bind]

theorem rteipcXfer_returns {name : List UInt8} (wired : ∀ lo ∈ st.loList, ∃ second, Sends st lo second)
    (data : List UInt8) : ∃ next ret, rteipcXfer st name data = .ok (next, ret) := by
  cases named : lookupLo st.loList name with
  | none =>
      simp only [rteipcXfer, named]
      exact ⟨st, -1, rfl⟩
  | some lo =>
      obtain ⟨second, sends⟩ := wired lo (List.mem_of_find?_eq_some named)
      rw [sends.xfer_eq named]
      exact ⟨_, _, rfl⟩

end Rteipc
