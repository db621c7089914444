import Rteipc.Endpoint.Binding
import Rteipc.Endpoint.Registry

namespace Rteipc

/-! In the program's own table, two endpoints that are bound to each other stay
so while others are opened, bound and closed. -/

open Data

variable {Cb Arg : Type} {st next : EpState (Dtbl EpPtr) Cb Arg}

/-- No pointer is ahead of the bufferevents that were made. -/
structure BevsBelow (st : EpState (Dtbl EpPtr) Cb Arg) : Prop where
  cores : ∀ ep core bev, st.cores.get ep = some core → core.bev = some bev → bev < st.bevs.next
  halves : ∀ bev half other, st.bevs.get bev = some half → half.partner = some other → other < st.bevs.next

/-- What points to a bufferevent did so before, or the bufferevent is new. -/
structure BevsFrom (st next : EpState (Dtbl EpPtr) Cb Arg) : Prop where
  fresh : st.bevs.next ≤ next.bevs.next
  cores : ∀ ep core bev, next.cores.get ep = some core → core.bev = some bev →
    (∃ before, st.cores.get ep = some before ∧ before.bev = some bev) ∨ st.bevs.next ≤ bev ∧ bev < next.bevs.next
  halves : ∀ bev half other, next.bevs.get bev = some half → half.partner = some other →
    (∃ before, st.bevs.get bev = some before ∧ before.partner = some other) ∨
      st.bevs.next ≤ other ∧ other < next.bevs.next

/-- Two endpoints and the halves of their pair. -/
structure Wire where
  ep : EpPtr
  other : EpPtr
  core : EpCore
  partner : EpCore
  first : BevPtr
  second : BevPtr

/-- The endpoints are open and bound to each other, and nothing else points to the halves. -/
structure Attached (st : EpState (Dtbl EpPtr) Cb Arg) (wire : Wire) : Prop where
  live : st.cores.get wire.ep = some wire.core
  otherLive : st.cores.get wire.other = some wire.partner
  bev : wire.core.bev = some wire.first
  otherBev : wire.partner.bev = some wire.second
  pair : OtherHalf st.bevs wire.first wire.second
  found : dtblGet st.epTbl wire.core.id = some wire.ep
  otherFound : dtblGet st.epTbl wire.partner.id = some wire.other
  names : wire.core.partnerId = wire.partner.id
  back : wire.partner.partnerId = wire.core.id
  differ : wire.ep ≠ wire.other
  owner : ∀ ep core, st.cores.get ep = some core →
    (core.bev = some wire.first → ep = wire.ep) ∧ (core.bev = some wire.second → ep = wire.other)
  sole : ∀ bev half, st.bevs.get bev = some half →
    (half.partner = some wire.first → bev = wire.second) ∧ (half.partner = some wire.second → bev = wire.first)

/-- A step leaves the endpoints of the wire, their ids and the halves alone. -/
structure Spares (wire : Wire) (st next : EpState (Dtbl EpPtr) Cb Arg) : Prop where
  live : next.cores.get wire.ep = st.cores.get wire.ep
  otherLive : next.cores.get wire.other = st.cores.get wire.other
  first : (next.bevs.get wire.first).map Bufferevent.partner = (st.bevs.get wire.first).map Bufferevent.partner
  second : (next.bevs.get wire.second).map Bufferevent.partner = (st.bevs.get wire.second).map Bufferevent.partner
  found : dtblGet st.epTbl wire.core.id = some wire.ep → dtblGet next.epTbl wire.core.id = some wire.ep
  otherFound : dtblGet st.epTbl wire.partner.id = some wire.other → dtblGet next.epTbl wire.partner.id = some wire.other

variable {wire : Wire}

theorem Attached.boundTo (attached : Attached st wire) : BoundTo dtblTable st wire.ep wire.other :=
  ⟨wire.core, wire.partner, wire.first, wire.second, attached.live, attached.otherLive,
    attached.names ▸ attached.otherFound, attached.back ▸ attached.found, attached.bev, attached.otherBev, attached.pair⟩

theorem Attached.first_lt (attached : Attached st wire) : wire.first < st.bevs.next := by
  obtain ⟨half, -, live, -⟩ := attached.pair
  exact Heap.live_lt live

theorem Attached.second_lt (attached : Attached st wire) : wire.second < st.bevs.next := by
  obtain ⟨-, half, -, -, live, -⟩ := attached.pair
  exact Heap.live_lt live

theorem BevsFrom.below (origin : BevsFrom st next) (below : BevsBelow st) : BevsBelow next where
  cores ep core bev live has := by
    rcases origin.cores ep core bev live has with ⟨before, old, had⟩ | ⟨-, within⟩
    · exact Nat.lt_of_lt_of_le (below.cores ep before bev old had) origin.fresh
    · exact within
  halves bev half other live linked := by
    rcases origin.halves bev half other live linked with ⟨before, old, had⟩ | ⟨-, within⟩
    · exact Nat.lt_of_lt_of_le (below.halves bev before other old had) origin.fresh
    · exact within

theorem partner_kept {bevs after : Heap Bufferevent} {bev : BevPtr} {half : Bufferevent}
    (same : (after.get bev).map Bufferevent.partner = (bevs.get bev).map Bufferevent.partner)
    (live : bevs.get bev = some half) : ∃ kept, after.get bev = some kept ∧ kept.partner = half.partner := by
  rw [live, Option.map_some, Option.map_eq_some_iff] at same
  exact same

theorem Attached.spared (attached : Attached st wire) (origin : BevsFrom st next) (spares : Spares wire st next) :
    Attached next wire where
  live := spares.live.trans attached.live
  otherLive := spares.otherLive.trans attached.otherLive
  bev := attached.bev
  otherBev := attached.otherBev
  pair := by
    obtain ⟨half, other, live, partner, otherLive, back⟩ := attached.pair
    obtain ⟨kept, keptLive, samePartner⟩ := partner_kept spares.first live
    obtain ⟨otherKept, otherKeptLive, sameBack⟩ := partner_kept spares.second otherLive
    exact ⟨kept, otherKept, keptLive, samePartner.trans partner, otherKeptLive, sameBack.trans back⟩
  found := spares.found attached.found
  otherFound := spares.otherFound attached.otherFound
  names := attached.names
  back := attached.back
  differ := attached.differ
  owner ep core live := by
    constructor
    · intro has
      rcases origin.cores ep core _ live has with ⟨before, old, had⟩ | ⟨new, -⟩
      · exact (attached.owner ep before old).1 had
      · exact (Nat.not_lt.mpr new attached.first_lt).elim
    · intro has
      rcases origin.cores ep core _ live has with ⟨before, old, had⟩ | ⟨new, -⟩
      · exact (attached.owner ep before old).2 had
      · exact (Nat.not_lt.mpr new attached.second_lt).elim
  sole bev half live := by
    constructor
    · intro linked
      rcases origin.halves bev half _ live linked with ⟨before, old, had⟩ | ⟨new, -⟩
      · exact (attached.sole bev before old).1 had
      · exact (Nat.not_lt.mpr new attached.first_lt).elim
    · intro linked
      rcases origin.halves bev half _ live linked with ⟨before, old, had⟩ | ⟨new, -⟩
      · exact (attached.sole bev before old).2 had
      · exact (Nat.not_lt.mpr new attached.second_lt).elim

/-! ## Opening -/

theorem Grows.bevsFrom (grows : Grows st next) : BevsFrom st next where
  fresh := by
    rw [grows.bevs]
  cores ep core bev live has := by
    by_cases old : ep < st.cores.next
    · rw [grows.cores ep old] at live
      exact .inl ⟨core, live, has⟩
    · have idle := grows.idle ep core (Nat.not_lt.mp old) live
      nomatch idle.symm.trans has
  halves bev half other live linked := by
    rw [grows.bevs] at live
    exact .inl ⟨half, live, linked⟩

theorem Grows.spares (grows : Grows st next) (attached : Attached st wire) : Spares wire st next where
  live := grows.cores _ (Heap.live_lt attached.live)
  otherLive := grows.cores _ (Heap.live_lt attached.otherLive)
  first := by
    rw [grows.bevs]
  second := by
    rw [grows.bevs]
  found := grows.dtblGet
  otherFound := grows.dtblGet

theorem Attached.grows (attached : Attached st wire) (grows : Grows st next) : Attached next wire :=
  attached.spared grows.bevsFrom (grows.spares attached)

/-! ## Binding -/

section Binding

variable {le re : EpPtr} {left right : EpCore}

theorem bindPair_half {bev : BevPtr} {half : Bufferevent}
    (live : (bindPair st le re left right).bevs.get bev = some half) :
    bev = st.bevs.next ∧ half.partner = some (st.bevs.next + 1) ∨
      bev = st.bevs.next + 1 ∧ half.partner = some st.bevs.next ∨ st.bevs.get bev = some half := by
  by_cases isSecond : bev = st.bevs.next + 1
  · subst isSecond
    have made : (bindPair st le re left right).bevs.get (st.bevs.next + 1) = some ⟨some st.bevs.next, []⟩ :=
      Heap.get_alloc_next
    rw [made] at live
    cases live
    exact .inr (.inl ⟨rfl, rfl⟩)
  · have before : (st.bevs.alloc ⟨some (st.bevs.next + 1), []⟩).get bev = some half := by
      rw [← live]
      exact (Heap.get_alloc_of_ne isSecond).symm
    by_cases isFirst : bev = st.bevs.next
    · subst isFirst
      rw [Heap.get_alloc_next] at before
      cases before
      exact .inl ⟨rfl, rfl⟩
    · rw [Heap.get_alloc_of_ne isFirst] at before
      exact .inr (.inr before)

theorem bindPair_bevsFrom (live : st.cores.get le = some left) (otherLive : st.cores.get re = some right)
    (differ : le ≠ re) : BevsFrom st (bindPair st le re left right) := by
  have made : (bindPair st le re left right).bevs.next = st.bevs.next + 1 + 1 := rfl
  refine ⟨?_, ?_, ?_⟩
  · rw [made]
    exact Nat.le_add_right _ 2
  · intro ep core bev epLive has
    rw [made]
    rcases bindPair_live live otherLive differ epLive with ⟨-, rfl⟩ | ⟨-, rfl⟩ | ⟨-, -, old⟩
    · cases has
      exact .inr ⟨Nat.le_refl _, Nat.lt_add_of_pos_right Nat.two_pos⟩
    · cases has
      exact .inr ⟨Nat.le_succ _, Nat.lt_succ_self _⟩
    · exact .inl ⟨core, old, has⟩
  · intro bev half other halfLive linked
    rw [made]
    rcases bindPair_half halfLive with ⟨-, partner⟩ | ⟨-, partner⟩ | old
    · cases linked.symm.trans partner
      exact .inr ⟨Nat.le_succ _, Nat.lt_succ_self _⟩
    · cases linked.symm.trans partner
      exact .inr ⟨Nat.le_refl _, Nat.lt_add_of_pos_right Nat.two_pos⟩
    · exact .inl ⟨half, old, linked⟩

theorem Attached.bindPair (attached : Attached st wire) (live : st.cores.get le = some left)
    (otherLive : st.cores.get re = some right) (differ : le ≠ re) (leftIdle : left.bev = none)
    (rightIdle : right.bev = none) : Attached (bindPair st le re left right) wire := by
  have bound : ∀ ep core, st.cores.get ep = some core → core.bev = none → wire.ep ≠ ep ∧ wire.other ≠ ep := by
    intro ep core epLive idle
    constructor
    · rintro rfl
      cases attached.live.symm.trans epLive
      nomatch idle.symm.trans attached.bev
    · rintro rfl
      cases attached.otherLive.symm.trans epLive
      nomatch idle.symm.trans attached.otherBev
  have notLeft := bound le left live leftIdle
  have notRight := bound re right otherLive rightIdle
  refine attached.spared (bindPair_bevsFrom live otherLive differ) ⟨?_, ?_, ?_, ?_, id, id⟩
  · exact bindPair_kept notLeft.1 notRight.1
  · exact bindPair_kept notLeft.2 notRight.2
  · rw [bindPair_bev attached.first_lt]
  · rw [bindPair_bev attached.second_lt]

def newWire (st : EpState (Dtbl EpPtr) Cb Arg) (le re : EpPtr) (left right : EpCore) : Wire where
  ep := le
  other := re
  core := { left with bev := some st.bevs.next, partnerId := right.id }
  partner := { right with bev := some (st.bevs.next + 1), partnerId := left.id }
  first := st.bevs.next
  second := st.bevs.next + 1

theorem BevsBelow.bindPair_attached (below : BevsBelow st) (live : st.cores.get le = some left)
    (otherLive : st.cores.get re = some right) (differ : le ≠ re) (found : dtblGet st.epTbl left.id = some le)
    (otherFound : dtblGet st.epTbl right.id = some re) :
    Attached (bindPair st le re left right) (newWire st le re left right) where
  live := bindPair_left live differ
  otherLive := bindPair_right otherLive differ
  bev := rfl
  otherBev := rfl
  pair := bindPair_pair
  found := found
  otherFound := otherFound
  names := rfl
  back := rfl
  differ := differ
  owner ep core epLive := by
    have unowned : ∀ bev, st.cores.get ep = some core → core.bev = some bev → bev < st.bevs.next :=
      fun bev old has => below.cores ep core bev old has
    rcases bindPair_live live otherLive differ epLive with ⟨isLeft, rfl⟩ | ⟨isRight, rfl⟩ | ⟨-, -, old⟩
    · refine ⟨fun _ => isLeft, fun second => ?_⟩
      have same := Option.some.inj second
      exact (Nat.succ_ne_self _ same.symm).elim
    · refine ⟨fun first => ?_, fun _ => isRight⟩
      have same := Option.some.inj first
      exact (Nat.succ_ne_self _ same).elim
    · refine ⟨fun first => ?_, fun second => ?_⟩
      · exact (Nat.lt_irrefl _ (unowned _ old first)).elim
      · exact (Nat.not_lt.mpr (Nat.le_succ _) (unowned _ old second)).elim
  sole bev half halfLive := by
    have unlinked : ∀ other, st.bevs.get bev = some half → half.partner = some other → other < st.bevs.next :=
      fun other old linked => below.halves bev half other old linked
    rcases bindPair_half halfLive with ⟨isFirst, partner⟩ | ⟨isSecond, partner⟩ | old
    · refine ⟨fun first => ?_, fun _ => isFirst⟩
      have same := Option.some.inj (partner.symm.trans first)
      exact (Nat.succ_ne_self _ same).elim
    · refine ⟨fun _ => isSecond, fun second => ?_⟩
      have same := Option.some.inj (partner.symm.trans second)
      exact (Nat.succ_ne_self _ same.symm).elim
    · refine ⟨fun first => ?_, fun second => ?_⟩
      · exact (Nat.lt_irrefl _ (unlinked _ old first)).elim
      · exact (Nat.not_lt.mpr (Nat.le_succ _) (unlinked _ old second)).elim

theorem rteipcBind_spared {pair : Bool} {lh rh ret : Int}
    (returned : rteipcBind dtblTable st pair lh rh = .ok (next, ret)) :
    BevsFrom st next ∧ ∀ wire, Attached st wire → Attached next wire := by
  rcases rteipcBind_cases returned with ⟨rfl, -⟩ | ⟨le, re, left, right, -, -, differ, live, otherLive, idle, otherIdle, rfl, -⟩
  · exact ⟨(Grows.refl _).bevsFrom, fun _ attached => attached⟩
  · exact ⟨bindPair_bevsFrom live otherLive differ,
      fun _ attached => attached.bindPair live otherLive differ idle otherIdle⟩

theorem rteipcBind_attached {pair : Bool} {lh rh ret : Int} (registry : Registry st) (below : BevsBelow st)
    (returned : rteipcBind dtblTable st pair lh rh = .ok (next, ret)) (given : ¬ret < 0) :
    ∃ le re left right, dtblGet st.epTbl lh = some le ∧ dtblGet st.epTbl rh = some re ∧ le ≠ re ∧
      st.cores.get le = some left ∧ st.cores.get re = some right ∧ left.id = lh ∧ right.id = rh ∧
        Attached next (newWire st le re left right) := by
  rcases rteipcBind_cases returned with ⟨-, failed⟩ | ⟨le, re, left, right, found, otherFound, differ, live, otherLive,
    -, -, rfl, -⟩
  · rw [failed] at given
    exact (given (by decide)).elim
  · obtain ⟨named, -⟩ := registry.live lh le left (dtblGet_holds found) live
    obtain ⟨otherNamed, -⟩ := registry.live rh re right (dtblGet_holds otherFound) otherLive
    refine ⟨le, re, left, right, found, otherFound, differ, live, otherLive, named, otherNamed,
      below.bindPair_attached live otherLive differ ?_ ?_⟩
    · rw [named]
      exact found
    · rw [otherNamed]
      exact otherFound

end Binding

/-! ## Closing -/

section Closing

variable {ep other : EpPtr} {core partner : EpCore} {first second : BevPtr} {half : Bufferevent} {id : Int}

/-- The endpoint out of the table, when it is to be unbound. -/
def unregistering (st : EpState (Dtbl EpPtr) Cb Arg) (ep : EpPtr) (core : EpCore) : EpState (Dtbl EpPtr) Cb Arg :=
  { st with
      epTbl := dtblDel st.epTbl core.id
      cores := st.cores.modify ep fun core => { core with id := -1 }
      loList := if core.type = .loop then st.loList.filter fun lo => lo.self ≠ ep else st.loList }

theorem rteipcClose_cases (returned : rteipcClose dtblTable st id = .ok next) :
    dtblGet st.epTbl id = none ∧ next = st ∨
      ∃ ep core unbound, dtblGet st.epTbl id = some ep ∧ st.cores.get ep = some core ∧
        unbindEndpoint dtblTable (unregistering st ep core) ep = .ok unbound ∧ next = destroyEndpoint unbound ep := by
  unfold rteipcClose at returned
  split at returned
  next missing =>
    cases returned
    exact .inl ⟨missing, rfl⟩
  next ep found =>
    obtain ⟨core, read, returned⟩ := bind_ok returned
    obtain ⟨unbound, unregistered, returned⟩ := bind_ok returned
    cases returned
    have live := deref_ok read
    refine .inr ⟨ep, core, unbound, found, live, ?_, rfl⟩
    rw [closeEndpoint_eq] at unregistered
    simp only [unregisterEndpoint, deref_live live, bind, Except.bind] at unregistered
    exact unregistered

/-- What a pair that is unbound consists of has nothing to do with the wire. -/
theorem Attached.apart (attached : Attached st wire) (live : st.cores.get ep = some core) (bev : core.bev = some first)
    (halfLive : st.bevs.get first = some half) (linked : half.partner = some second) (notEp : ep ≠ wire.ep)
    (notOther : ep ≠ wire.other) :
    (wire.first ≠ first ∧ wire.first ≠ second) ∧ wire.second ≠ first ∧ wire.second ≠ second := by
  have owner := attached.owner ep core live
  have sole := attached.sole first half halfLive
  have firstApart : wire.first ≠ first := fun same => notEp (owner.1 (same ▸ bev))
  have secondApart : wire.second ≠ first := fun same => notOther (owner.2 (same ▸ bev))
  refine ⟨⟨firstApart, fun same => ?_⟩, secondApart, fun same => ?_⟩
  · exact secondApart (sole.1 (same ▸ linked)).symm
  · exact firstApart (sole.2 (same ▸ linked)).symm

theorem unlinked_half {bev : BevPtr} (live : (unlinked st ep other first second).bevs.get bev = some half) :
    bev ≠ first ∧ bev ≠ second ∧ st.bevs.get bev = some half := by
  obtain ⟨notSecond, live⟩ := Heap.get_free_some live
  obtain ⟨notFirst, live⟩ := Heap.get_free_some live
  rw [Heap.get_modify_of_ne notSecond] at live
  exact ⟨notFirst, notSecond, live⟩

theorem rteipcClose_bevsFrom (returned : rteipcClose dtblTable st id = .ok next) : BevsFrom st next := by
  rcases rteipcClose_cases returned with ⟨-, rfl⟩ | ⟨ep, core, unbound, -, -, unbind, rfl⟩
  · exact (Grows.refl _).bevsFrom
  rcases unbindEndpoint_cases unbind with ⟨rfl, -⟩ | ⟨_, _, other, first, second, _, -, -, -, -, -, -, rfl⟩
  · refine ⟨Nat.le_refl _, fun kept after bev live has => ?_, fun bev half linkedTo live linked => ?_⟩
    · obtain ⟨differ, live⟩ := Heap.get_free_some live
      exact .inl ⟨after, (Heap.get_modify_of_ne differ).symm.trans live, has⟩
    · exact .inl ⟨half, live, linked⟩
  · refine ⟨Nat.le_refl _, fun kept after bev live has => ?_, fun bev half linkedTo live linked => ?_⟩
    · obtain ⟨differ, live⟩ := Heap.get_free_some live
      obtain ⟨before, old, -, ⟨none, -⟩ | ⟨-, -, rfl⟩⟩ := unlinked_live live
      · nomatch none.symm.trans has
      · exact .inl ⟨after, (Heap.get_modify_of_ne differ).symm.trans old, has⟩
    · have kept : (unlinked (unregistering st ep core) ep other first second).bevs.get bev = some half := live
      exact .inl ⟨half, (unlinked_half kept).2.2, linked⟩

theorem Attached.closed (attached : Attached st wire) (returned : rteipcClose dtblTable st id = .ok next)
    (apart : ∀ ep, dtblGet st.epTbl id = some ep → ep ≠ wire.ep ∧ ep ≠ wire.other) : Attached next wire := by
  refine attached.spared (rteipcClose_bevsFrom returned) ?_
  rcases rteipcClose_cases returned with ⟨-, rfl⟩ | ⟨ep, core, unbound, found, live, unbind, rfl⟩
  · exact (Grows.refl _).spares attached
  obtain ⟨notEp, notOther⟩ := apart ep found
  have unchanged : ∀ kept, kept ≠ ep → (unregistering st ep core).cores.get kept = st.cores.get kept :=
    fun kept differ => Heap.get_modify_of_ne differ
  rcases unbindEndpoint_cases unbind with ⟨rfl, -⟩ | ⟨before, partner, other, first, second, half, beforeLive, bev, halfLive,
    linked, partnerLive, partnerBev, rfl⟩
  · refine ⟨?_, ?_, rfl, rfl, fun found => ?_, fun found => ?_⟩
    · exact (Heap.get_free_of_ne notEp.symm).trans (unchanged _ notEp.symm)
    · exact (Heap.get_free_of_ne notOther.symm).trans (unchanged _ notOther.symm)
    · exact dtblGet_del.trans found
    · exact dtblGet_del.trans found
  · have isCore : core.bev = some first := by
      change (st.cores.modify ep _).get ep = some before at beforeLive
      rw [Heap.get_modify_self, live] at beforeLive
      cases beforeLive
      exact bev
    obtain ⟨⟨firstApart, firstKept⟩, secondApart, secondKept⟩ :=
      attached.apart live isCore halfLive linked notEp notOther
    have epKept : wire.ep ≠ other := by
      rintro rfl
      rw [unchanged _ notEp.symm, attached.live] at partnerLive
      cases partnerLive
      exact firstKept (Option.some.inj (attached.bev.symm.trans partnerBev))
    have otherKept : wire.other ≠ other := by
      rintro rfl
      rw [unchanged _ notOther.symm, attached.otherLive] at partnerLive
      cases partnerLive
      exact secondKept (Option.some.inj (attached.otherBev.symm.trans partnerBev))
    have bevKept : ∀ bev, bev ≠ first → bev ≠ second →
        (unlinked (unregistering st ep core) ep other first second).bevs.get bev = st.bevs.get bev :=
      fun bev notFirst notSecond => unlinked_bev notFirst notSecond
    refine ⟨?_, ?_, ?_, ?_, fun found => ?_, fun found => ?_⟩
    · exact (Heap.get_free_of_ne notEp.symm).trans ((unlinked_kept notEp.symm epKept).trans (unchanged _ notEp.symm))
    · exact (Heap.get_free_of_ne notOther.symm).trans
        ((unlinked_kept notOther.symm otherKept).trans (unchanged _ notOther.symm))
    · exact congrArg _ (bevKept _ firstApart firstKept)
    · exact congrArg _ (bevKept _ secondApart secondKept)
    · exact dtblGet_del.trans found
    · exact dtblGet_del.trans found

/-- An id finds the endpoints of the wire only if it is one of theirs. -/
theorem Attached.found_ne (attached : Attached st wire) (registry : Registry st) (notCore : id ≠ wire.core.id)
    (notPartner : id ≠ wire.partner.id) (found : dtblGet st.epTbl id = some ep) : ep ≠ wire.ep ∧ ep ≠ wire.other := by
  constructor
  · rintro rfl
    obtain ⟨named, -⟩ := registry.live id _ _ (dtblGet_holds found) attached.live
    exact notCore named.symm
  · rintro rfl
    obtain ⟨named, -⟩ := registry.live id _ _ (dtblGet_holds found) attached.otherLive
    exact notPartner named.symm

end Closing

end Rteipc
