import Rteipc.Data.Run
import Rteipc.Endpoint

namespace Rteipc

/-! Bindings between endpoints are a matching.

The descriptor table is taken as what lookups need of it: a live descriptor
resolves to the endpoint registered under it and any other to nothing.
-/

open Data

structure DescTable.Resolves {Table : Type} (tbl : DescTable Table) : Prop where
  start : ∀ id, tbl.get tbl.start id = none
  negative : ∀ table id, id < 0 → tbl.get table id = none
  set : ∀ alloc table ep, 0 ≤ (tbl.set alloc table ep).2 →
    tbl.get table (tbl.set alloc table ep).2 = none ∧
      ∀ id, tbl.get (tbl.set alloc table ep).1 id =
        if id = (tbl.set alloc table ep).2 then some ep else tbl.get table id
  failed : ∀ alloc table ep, (tbl.set alloc table ep).2 < 0 →
    ∀ id, tbl.get (tbl.set alloc table ep).1 id = tbl.get table id
  del : ∀ table id other, tbl.get (tbl.del table id) other = if other = id then none else tbl.get table other

variable {Table Cb Arg : Type} {tbl : DescTable Table} {st next : EpState Table Cb Arg}

/-! ## The calls and what holds between them -/

inductive EpCall where
  | rteipcOpen (outcome : OpenOutcome) (uri : List UInt8)
  | rteipcBind (pair : Bool) (lh rh : Int)
  | rteipcUnbind (id : Int)
  | rteipcClose (id : Int)

/-- The state and the value returned; the last two calls return nothing. -/
def EpState.call (tbl : DescTable Table) (st : EpState Table Cb Arg) :
    EpCall → Except Fault (EpState Table Cb Arg × Int)
  | .rteipcOpen outcome uri => Rteipc.rteipcOpen tbl st outcome uri
  | .rteipcBind pair lh rh => Rteipc.rteipcBind tbl st pair lh rh
  | .rteipcUnbind id => (Rteipc.rteipcUnbind tbl st id).map (·, 0)
  | .rteipcClose id => (Rteipc.rteipcClose tbl st id).map (·, 0)

def EpStep (tbl : DescTable Table) (st : EpState Table Cb Arg) (call : EpCall)
    (next : EpState Table Cb Arg) : Prop :=
  ∃ ret, st.call tbl call = .ok (next, ret)

def OtherHalf (bevs : Heap Bufferevent) (first second : BevPtr) : Prop :=
  ∃ half other, bevs.get first = some half ∧ half.partner = some second ∧
    bevs.get second = some other ∧ other.partner = some first

/-- The endpoint's partner id names the other, which names it back, and their
bufferevents are the halves of one pair. -/
def BoundTo (tbl : DescTable Table) (st : EpState Table Cb Arg) (ep other : EpPtr) : Prop :=
  ∃ core partner first second,
    st.cores.get ep = some core ∧ st.cores.get other = some partner ∧
      tbl.get st.epTbl core.partnerId = some other ∧ tbl.get st.epTbl partner.partnerId = some ep ∧
        core.bev = some first ∧ partner.bev = some second ∧ OtherHalf st.bevs first second

structure Matching (tbl : DescTable Table) (st : EpState Table Cb Arg) : Prop where
  bound : ∀ ep core, st.cores.get ep = some core → (core.bev.isSome ↔ ∃ other, other ≠ ep ∧ BoundTo tbl st ep other)
  idle : ∀ ep core, st.cores.get ep = some core → core.bev = none → tbl.get st.epTbl core.partnerId = none
  single : ∀ ep other third, BoundTo tbl st ep third → BoundTo tbl st other third → ep = other

/-- What every call keeps. -/
structure EpInv (tbl : DescTable Table) (st : EpState Table Cb Arg) : Prop where
  registered : ∀ ep core, st.cores.get ep = some core → tbl.get st.epTbl core.id = some ep
  resolves : ∀ id ep, tbl.get st.epTbl id = some ep → ∃ core, st.cores.get ep = some core ∧ core.id = id
  idle : ∀ ep core, st.cores.get ep = some core → core.bev = none → core.partnerId = -1
  bound : ∀ ep core first, st.cores.get ep = some core → core.bev = some first →
    ∃ other partner second, other ≠ ep ∧ st.cores.get other = some partner ∧
      core.partnerId = partner.id ∧ partner.partnerId = core.id ∧ partner.bev = some second ∧
        OtherHalf st.bevs first second
  owner : ∀ ep core other partner bev, st.cores.get ep = some core → st.cores.get other = some partner →
    core.bev = some bev → partner.bev = some bev → ep = other

/-- No two endpoints have a half in common. -/
def OneOwner (st : EpState Table Cb Arg) : Prop :=
  ∀ ep core other partner bev, st.cores.get ep = some core → st.cores.get other = some partner →
    core.bev = some bev → partner.bev = some bev → ep = other

theorem OtherHalf.symm {bevs : Heap Bufferevent} {first second : BevPtr} (pair : OtherHalf bevs first second) :
    OtherHalf bevs second first := by
  obtain ⟨half, other, live, partner, otherLive, back⟩ := pair
  exact ⟨other, half, otherLive, back, live, partner⟩

theorem OtherHalf.unique {bevs : Heap Bufferevent} {first second third : BevPtr}
    (pair : OtherHalf bevs first second) (again : OtherHalf bevs first third) : second = third := by
  obtain ⟨half, -, live, partner, -⟩ := pair
  obtain ⟨same, -, live', partner', -⟩ := again
  obtain rfl := Option.some.inj (live.symm.trans live')
  exact Option.some.inj (partner.symm.trans partner')

theorem OtherHalf.congr {bevs changed : Heap Bufferevent} {first second : BevPtr}
    (pair : OtherHalf bevs first second) (firstSame : changed.get first = bevs.get first)
    (secondSame : changed.get second = bevs.get second) : OtherHalf changed first second := by
  obtain ⟨half, other, live, partner, otherLive, back⟩ := pair
  exact ⟨half, other, firstSame.trans live, partner, secondSame.trans otherLive, back⟩

theorem EpInv.start (laws : tbl.Resolves) : EpInv tbl (EpState.start tbl : EpState Table Cb Arg) where
  registered _ _ live := nomatch live
  resolves id ep found := by
    rw [EpState.start, laws.start id] at found
    nomatch found
  idle _ _ live := nomatch live
  bound _ _ _ live := nomatch live
  owner _ _ _ _ _ live := nomatch live

theorem EpInv.id_inj (inv : EpInv tbl st) {ep other : EpPtr} {core partner : EpCore}
    (live : st.cores.get ep = some core) (otherLive : st.cores.get other = some partner)
    (same : core.id = partner.id) : ep = other := by
  have found := inv.registered ep core live
  rw [same, inv.registered other partner otherLive] at found
  exact (Option.some.inj found).symm

theorem EpInv.matching (laws : tbl.Resolves) (inv : EpInv tbl st) : Matching tbl st := by
  refine ⟨?_, ?_, ?_⟩
  · intro ep core live
    refine ⟨fun isBound => ?_, fun isBound => ?_⟩
    · obtain ⟨first, bev⟩ := Option.isSome_iff_exists.mp isBound
      obtain ⟨other, partner, second, differ, otherLive, names, namesBack, otherBev, pair⟩ :=
        inv.bound ep core first live bev
      refine ⟨other, differ, core, partner, first, second, live, otherLive, ?_, ?_, bev, otherBev, pair⟩
      · rw [names]
        exact inv.registered other partner otherLive
      · rw [namesBack]
        exact inv.registered ep core live
    · obtain ⟨_, -, same, _, _, _, live', -, -, -, bev, -⟩ := isBound
      obtain rfl := Option.some.inj (live.symm.trans live')
      rw [bev]
      rfl
  · intro ep core live unbound
    rw [inv.idle ep core live unbound]
    exact laws.negative _ _ (by decide)
  · intro ep other third first second
    obtain ⟨_, partner, _, _, _, live, _, back, _⟩ := first
    obtain ⟨_, same, _, _, _, live', _, back', _⟩ := second
    obtain rfl := Option.some.inj (live.symm.trans live')
    exact Option.some.inj (back.symm.trans back')

/-- Lookups are all that the invariant looks at. -/
theorem EpInv.congr (inv : EpInv tbl st) (cores : ∀ ep, next.cores.get ep = st.cores.get ep)
    (bevs : ∀ bev, next.bevs.get bev = st.bevs.get bev)
    (table : ∀ id, tbl.get next.epTbl id = tbl.get st.epTbl id) : EpInv tbl next where
  registered ep core live := by
    rw [table]
    exact inv.registered ep core ((cores ep).symm.trans live)
  resolves id ep found := by
    rw [cores]
    exact inv.resolves id ep ((table id).symm.trans found)
  idle ep core live := inv.idle ep core ((cores ep).symm.trans live)
  bound ep core first live bev := by
    obtain ⟨other, partner, second, differ, otherLive, names, namesBack, otherBev, pair⟩ :=
      inv.bound ep core first ((cores ep).symm.trans live) bev
    exact ⟨other, partner, second, differ, (cores other).trans otherLive, names, namesBack, otherBev,
      pair.congr (bevs first) (bevs second)⟩
  owner ep core other partner bev live otherLive :=
    inv.owner ep core other partner bev ((cores ep).symm.trans live) ((cores other).symm.trans otherLive)

/-! ## What each change keeps -/

section Changes

variable {ep other : EpPtr} {core partner : EpCore} {first second : BevPtr}

theorem EpInv.remove (laws : tbl.Resolves) (inv : EpInv tbl st) (live : st.cores.get ep = some core)
    (unbound : core.bev = none) :
    EpInv tbl { st with epTbl := tbl.del st.epTbl core.id, cores := st.cores.free ep } where
  registered kept keptCore keptLive := by
    obtain ⟨differ, keptLive⟩ := Heap.get_free_some keptLive
    rw [laws.del, if_neg fun same => differ (inv.id_inj keptLive live same)]
    exact inv.registered kept keptCore keptLive
  resolves id kept found := by
    rw [laws.del] at found
    split at found
    next => nomatch found
    next otherId =>
      obtain ⟨keptCore, keptLive, named⟩ := inv.resolves id kept found
      refine ⟨keptCore, ?_, named⟩
      rw [Heap.get_free_of_ne]
      · exact keptLive
      · intro same
        subst same
        obtain rfl := Option.some.inj (live.symm.trans keptLive)
        exact otherId named.symm
  idle kept keptCore keptLive := inv.idle kept keptCore (Heap.get_free_some keptLive).2
  bound kept keptCore bev keptLive keptBev := by
    obtain ⟨peer, peerCore, half, differ, peerLive, names, back, peerBev, pair⟩ :=
      inv.bound kept keptCore bev (Heap.get_free_some keptLive).2 keptBev
    refine ⟨peer, peerCore, half, differ, ?_, names, back, peerBev, pair⟩
    rw [Heap.get_free_of_ne]
    · exact peerLive
    · intro same
      subst same
      obtain rfl := Option.some.inj (live.symm.trans peerLive)
      rw [unbound] at peerBev
      nomatch peerBev
  owner kept keptCore peer peerCore bev keptLive peerLive :=
    inv.owner kept keptCore peer peerCore bev (Heap.get_free_some keptLive).2 (Heap.get_free_some peerLive).2

theorem unlinked_get {kept : EpPtr} :
    (unlinked st ep other first second).cores.get kept =
      (st.cores.get kept).map fun core => if kept = ep ∨ kept = other then core.unbound else core := by
  rw [unlinked, Heap.get_modify, Heap.get_modify, Option.map_map]
  congr 1
  funext core
  by_cases isOther : kept = other
  · simp only [Function.comp_apply, if_pos isOther, if_pos (Or.inr isOther : kept = ep ∨ kept = other)]
    split <;> rfl
  · simp only [Function.comp_apply, isOther, or_false, if_false]

theorem unlinked_kept {kept : EpPtr} (notEp : kept ≠ ep) (notOther : kept ≠ other) :
    (unlinked st ep other first second).cores.get kept = st.cores.get kept := by
  rw [unlinked_get]
  simp only [notEp, notOther, or_self, if_false, Option.map_id']

theorem unlinked_bev {bev : BevPtr} (notFirst : bev ≠ first) (notSecond : bev ≠ second) :
    (unlinked st ep other first second).bevs.get bev = st.bevs.get bev :=
  (Heap.get_free_of_ne notSecond).trans
    ((Heap.get_free_of_ne notFirst).trans (Heap.get_modify_of_ne notSecond))

theorem unlinked_live {kept : EpPtr} {after : EpCore}
    (live : (unlinked st ep other first second).cores.get kept = some after) :
    ∃ before, st.cores.get kept = some before ∧ after.id = before.id ∧
      (after.bev = none ∧ after.partnerId = -1 ∨ kept ≠ ep ∧ kept ≠ other ∧ after = before) := by
  rw [unlinked_get, Option.map_eq_some_iff] at live
  obtain ⟨before, beforeLive, rfl⟩ := live
  refine ⟨before, beforeLive, ?_⟩
  split
  next => exact ⟨rfl, .inl ⟨rfl, rfl⟩⟩
  next neither => exact ⟨rfl, .inr ⟨(not_or.mp neither).1, (not_or.mp neither).2, rfl⟩⟩

theorem OneOwner.unlink (owner : OneOwner st) : OneOwner (unlinked st ep other first second) := by
  intro kept after peer peerAfter half keptLive peerLive keptBev peerBev
  obtain ⟨before, beforeLive, -, ⟨none, -⟩ | ⟨-, -, rfl⟩⟩ := unlinked_live keptLive
  · nomatch none.symm.trans keptBev
  · obtain ⟨peerBefore, peerBeforeLive, -, ⟨none, -⟩ | ⟨-, -, rfl⟩⟩ := unlinked_live peerLive
    · nomatch none.symm.trans peerBev
    · exact owner kept after peer peerAfter half beforeLive peerBeforeLive keptBev peerBev

theorem OneOwner.unlinked_peer (owner : OneOwner st) (live : st.cores.get ep = some core)
    (bev : core.bev = some first) (otherLive : st.cores.get other = some partner) (otherBev : partner.bev = some second)
    (pair : OtherHalf st.bevs first second) {kept peer : EpPtr} {before peerCore : EpCore} {half peerHalf : BevPtr}
    (beforeLive : st.cores.get kept = some before) (keptBev : before.bev = some half) (notEp : kept ≠ ep)
    (notOther : kept ≠ other) (peerLive : st.cores.get peer = some peerCore) (peerBev : peerCore.bev = some peerHalf)
    (peerPair : OtherHalf st.bevs half peerHalf) :
    (unlinked st ep other first second).cores.get peer = some peerCore ∧
      OtherHalf (unlinked st ep other first second).bevs half peerHalf := by
  have notFirst : half ≠ first := by
    rintro rfl
    exact notEp (owner _ _ _ _ _ beforeLive live keptBev bev)
  have notSecond : half ≠ second := by
    rintro rfl
    exact notOther (owner _ _ _ _ _ beforeLive otherLive keptBev otherBev)
  have peerNotFirst : peerHalf ≠ first := by
    rintro rfl
    exact notSecond (peerPair.symm.unique pair)
  have peerNotSecond : peerHalf ≠ second := by
    rintro rfl
    exact notFirst (peerPair.symm.unique pair.symm)
  refine ⟨?_, peerPair.congr (unlinked_bev notFirst notSecond) (unlinked_bev peerNotFirst peerNotSecond)⟩
  rw [unlinked_kept, peerLive]
  · rintro rfl
    cases live.symm.trans peerLive
    exact peerNotFirst (Option.some.inj (peerBev.symm.trans bev))
  · rintro rfl
    cases otherLive.symm.trans peerLive
    exact peerNotSecond (Option.some.inj (peerBev.symm.trans otherBev))

theorem EpInv.unlink (inv : EpInv tbl st) (live : st.cores.get ep = some core) (bev : core.bev = some first)
    (otherLive : st.cores.get other = some partner) (otherBev : partner.bev = some second)
    (pair : OtherHalf st.bevs first second) : EpInv tbl (unlinked st ep other first second) where
  registered kept after keptLive := by
    obtain ⟨before, beforeLive, sameId, -⟩ := unlinked_live keptLive
    rw [sameId]
    exact inv.registered kept before beforeLive
  resolves id kept found := by
    obtain ⟨before, beforeLive, named⟩ := inv.resolves id kept found
    rw [unlinked_get, beforeLive]
    refine ⟨_, rfl, ?_⟩
    rw [← named]
    split <;> rfl
  idle kept after keptLive unbound := by
    obtain ⟨before, beforeLive, -, ⟨-, none⟩ | ⟨-, -, rfl⟩⟩ := unlinked_live keptLive
    · exact none
    · exact inv.idle kept after beforeLive unbound
  bound kept after half keptLive keptBev := by
    obtain ⟨before, beforeLive, -, ⟨none, -⟩ | ⟨notEp, notOther, rfl⟩⟩ := unlinked_live keptLive
    · rw [none] at keptBev
      nomatch keptBev
    · obtain ⟨peer, peerCore, peerHalf, differ, peerLive, names, back, peerBev, peerPair⟩ :=
        inv.bound kept after half beforeLive keptBev
      obtain ⟨peerKept, pairKept⟩ := OneOwner.unlinked_peer inv.owner live bev otherLive otherBev pair beforeLive keptBev
        notEp notOther peerLive peerBev peerPair
      exact ⟨peer, peerCore, peerHalf, differ, peerKept, names, back, peerBev, pairKept⟩
  owner := OneOwner.unlink inv.owner

theorem EpInv.pair_live (inv : EpInv tbl st) (live : st.cores.get ep = some core)
    (bev : core.bev = some first) : first < st.bevs.next := by
  obtain ⟨_, _, _, _, _, _, _, _, half, _, halfLive, _⟩ := inv.bound ep core first live bev
  exact Heap.live_lt halfLive

theorem bindPair_kept {kept : EpPtr} (notEp : kept ≠ ep) (notOther : kept ≠ other) :
    (bindPair st ep other core partner).cores.get kept = st.cores.get kept :=
  (Heap.get_modify_of_ne notOther).trans (Heap.get_modify_of_ne notEp)

theorem bindPair_left (live : st.cores.get ep = some core) (differ : ep ≠ other) :
    (bindPair st ep other core partner).cores.get ep =
      some { core with bev := some st.bevs.next, partnerId := partner.id } := by
  rw [bindPair, Heap.get_modify_of_ne differ, Heap.get_modify_self, live]
  rfl

theorem bindPair_right (otherLive : st.cores.get other = some partner) (differ : ep ≠ other) :
    (bindPair st ep other core partner).cores.get other =
      some { partner with bev := some (st.bevs.next + 1), partnerId := core.id } := by
  rw [bindPair, Heap.get_modify_self, Heap.get_modify_of_ne differ.symm, otherLive]
  rfl

theorem bindPair_pair :
    OtherHalf (bindPair st ep other core partner).bevs st.bevs.next (st.bevs.next + 1) := by
  have differ : st.bevs.next ≠ (st.bevs.alloc ⟨some (st.bevs.next + 1), []⟩).next := Nat.ne_of_lt (Nat.lt_succ_self _)
  exact ⟨_, _, (Heap.get_alloc_of_ne differ).trans Heap.get_alloc_next, rfl, Heap.get_alloc_next, rfl⟩

theorem bindPair_bev {bev : BevPtr} (old : bev < st.bevs.next) :
    (bindPair st ep other core partner).bevs.get bev = st.bevs.get bev := by
  rw [bindPair, Heap.get_alloc_of_ne, Heap.get_alloc_of_ne]
  · exact Nat.ne_of_lt old
  · exact Nat.ne_of_lt (Nat.lt_succ_of_lt old)

theorem bindPair_live {kept : EpPtr} {after : EpCore} (live : st.cores.get ep = some core)
    (otherLive : st.cores.get other = some partner) (differ : ep ≠ other)
    (keptLive : (bindPair st ep other core partner).cores.get kept = some after) :
    kept = ep ∧ after = { core with bev := some st.bevs.next, partnerId := partner.id } ∨
      kept = other ∧ after = { partner with bev := some (st.bevs.next + 1), partnerId := core.id } ∨
        kept ≠ ep ∧ kept ≠ other ∧ st.cores.get kept = some after := by
  by_cases isEp : kept = ep
  · subst isEp
    rw [bindPair_left live differ] at keptLive
    exact .inl ⟨rfl, (Option.some.inj keptLive).symm⟩
  · by_cases isOther : kept = other
    · subst isOther
      rw [bindPair_right otherLive differ] at keptLive
      exact .inr (.inl ⟨rfl, (Option.some.inj keptLive).symm⟩)
    · rw [bindPair_kept isEp isOther] at keptLive
      exact .inr (.inr ⟨isEp, isOther, keptLive⟩)

theorem bindPair_owned {kept : EpPtr} {after : EpCore} {half : Nat}
    (old : ∀ kept after half, st.cores.get kept = some after → after.bev = some half → half < st.bevs.next)
    (live : st.cores.get ep = some core) (otherLive : st.cores.get other = some partner) (differ : ep ≠ other)
    (keptLive : (bindPair st ep other core partner).cores.get kept = some after) (keptBev : after.bev = some half) :
    kept = ep ∧ half = st.bevs.next ∨ kept = other ∧ half = st.bevs.next + 1 ∨
      half < st.bevs.next ∧ st.cores.get kept = some after := by
  obtain ⟨isEp, rfl⟩ | ⟨isOther, rfl⟩ | ⟨-, -, keptLive⟩ := bindPair_live live otherLive differ keptLive
  · exact .inl ⟨isEp, (Option.some.inj keptBev).symm⟩
  · exact .inr (.inl ⟨isOther, (Option.some.inj keptBev).symm⟩)
  · exact .inr (.inr ⟨old kept after half keptLive keptBev, keptLive⟩)

theorem OneOwner.bindPair (owner : OneOwner st)
    (old : ∀ kept after half, st.cores.get kept = some after → after.bev = some half → half < st.bevs.next)
    (live : st.cores.get ep = some core) (otherLive : st.cores.get other = some partner) (differ : ep ≠ other) :
    OneOwner (bindPair st ep other core partner) := by
  intro kept after peer peerAfter half keptLive peerLive keptBev peerBev
  obtain ⟨isEp, isNew⟩ | ⟨isOther, isNew⟩ | ⟨isOld, keptLive⟩ :=
      bindPair_owned old live otherLive differ keptLive keptBev <;>
    obtain ⟨peerIsEp, peerIsNew⟩ | ⟨peerIsOther, peerIsNew⟩ | ⟨peerIsOld, peerLive⟩ :=
      bindPair_owned old live otherLive differ peerLive peerBev <;>
    first
      | exact isEp.trans peerIsEp.symm
      | exact isOther.trans peerIsOther.symm
      | exact owner kept after peer peerAfter half keptLive peerLive keptBev peerBev
      | omega

theorem bindPair_old {kept : EpPtr} {before : EpCore} {half : BevPtr} (live : st.cores.get ep = some core)
    (otherLive : st.cores.get other = some partner) (unbound : core.bev = none) (otherUnbound : partner.bev = none)
    (keptLive : st.cores.get kept = some before) (keptBev : before.bev = some half) :
    (bindPair st ep other core partner).cores.get kept = some before := by
  rw [bindPair_kept, keptLive]
  · rintro rfl
    cases live.symm.trans keptLive
    nomatch unbound.symm.trans keptBev
  · rintro rfl
    cases otherLive.symm.trans keptLive
    nomatch otherUnbound.symm.trans keptBev

theorem EpInv.bindPair (inv : EpInv tbl st) (live : st.cores.get ep = some core)
    (otherLive : st.cores.get other = some partner) (differ : ep ≠ other) (unbound : core.bev = none)
    (otherUnbound : partner.bev = none) : EpInv tbl (bindPair st ep other core partner) where
  registered kept after keptLive := by
    obtain ⟨rfl, rfl⟩ | ⟨rfl, rfl⟩ | ⟨-, -, keptLive⟩ := bindPair_live live otherLive differ keptLive
    · exact inv.registered kept core live
    · exact inv.registered kept partner otherLive
    · exact inv.registered kept after keptLive
  resolves id kept found := by
    obtain ⟨before, beforeLive, named⟩ := inv.resolves id kept found
    by_cases isEp : kept = ep
    · subst isEp
      obtain rfl := Option.some.inj (live.symm.trans beforeLive)
      exact ⟨_, bindPair_left live differ, named⟩
    · by_cases isOther : kept = other
      · subst isOther
        obtain rfl := Option.some.inj (otherLive.symm.trans beforeLive)
        exact ⟨_, bindPair_right otherLive differ, named⟩
      · exact ⟨before, (bindPair_kept isEp isOther).trans beforeLive, named⟩
  idle kept after keptLive none := by
    obtain ⟨-, rfl⟩ | ⟨-, rfl⟩ | ⟨-, -, keptLive⟩ := bindPair_live live otherLive differ keptLive
    · nomatch none
    · nomatch none
    · exact inv.idle kept after keptLive none
  bound kept after half keptLive keptBev := by
    obtain ⟨rfl, rfl⟩ | ⟨rfl, rfl⟩ | ⟨-, -, keptLive⟩ := bindPair_live live otherLive differ keptLive
    · obtain rfl := Option.some.inj keptBev
      exact ⟨other, _, _, differ.symm, bindPair_right otherLive differ, rfl, rfl, rfl, bindPair_pair⟩
    · obtain rfl := Option.some.inj keptBev
      exact ⟨ep, _, _, differ, bindPair_left live differ, rfl, rfl, rfl, bindPair_pair.symm⟩
    · obtain ⟨peer, peerCore, peerHalf, peerDiffer, peerLive, names, back, peerBev, pair⟩ :=
        inv.bound kept after half keptLive keptBev
      refine ⟨peer, peerCore, peerHalf, peerDiffer, bindPair_old live otherLive unbound otherUnbound peerLive peerBev,
        names, back, peerBev, pair.congr (bindPair_bev ?_) (bindPair_bev ?_)⟩
      · exact inv.pair_live keptLive keptBev
      · exact inv.pair_live peerLive peerBev
  owner := OneOwner.bindPair inv.owner (fun _ _ _ => inv.pair_live) live otherLive differ

theorem OneOwner.withEndpoint {alloc : DtblAlloc} {type : EpType} (owner : OneOwner st) :
    OneOwner (withEndpoint tbl st alloc type) := by
  intro kept after peer peerAfter half keptLive peerLive keptBev peerBev
  obtain ⟨-, rfl⟩ | ⟨-, keptLive⟩ := withEndpoint_live keptLive
  · nomatch keptBev
  · obtain ⟨-, rfl⟩ | ⟨-, peerLive⟩ := withEndpoint_live peerLive
    · nomatch peerBev
    · exact owner kept after peer peerAfter half keptLive peerLive keptBev peerBev

theorem EpInv.register (laws : tbl.Resolves) (inv : EpInv tbl st) (alloc : DtblAlloc) (type : EpType)
    (given : 0 ≤ (tbl.set alloc st.epTbl st.cores.next).2) : EpInv tbl (withEndpoint tbl st alloc type) := by
  obtain ⟨unused, found⟩ := laws.set alloc st.epTbl st.cores.next given
  refine ⟨?_, ?_, ?_, ?_, ?_⟩
  · intro kept after keptLive
    change tbl.get (tbl.set alloc st.epTbl st.cores.next).1 after.id = some kept
    obtain ⟨rfl, rfl⟩ | ⟨-, keptLive⟩ := withEndpoint_live keptLive
    · rw [found, if_pos rfl]
    · have known := inv.registered kept after keptLive
      rw [found, if_neg, known]
      intro same
      rw [same, unused] at known
      nomatch known
  · intro id kept known
    change tbl.get (tbl.set alloc st.epTbl st.cores.next).1 id = some kept at known
    rw [found] at known
    split at known
    next isNew =>
      obtain rfl := Option.some.inj known
      exact ⟨_, withEndpoint_new, isNew.symm⟩
    next =>
      obtain ⟨before, beforeLive, named⟩ := inv.resolves id kept known
      exact ⟨before, withEndpoint_old beforeLive, named⟩
  · intro kept after keptLive unbound
    obtain ⟨-, rfl⟩ | ⟨-, keptLive⟩ := withEndpoint_live keptLive
    · rfl
    · exact inv.idle kept after keptLive unbound
  · intro kept after half keptLive keptBev
    obtain ⟨-, rfl⟩ | ⟨-, keptLive⟩ := withEndpoint_live keptLive
    · nomatch keptBev
    · obtain ⟨peer, peerCore, peerHalf, differ, peerLive, names, back, peerBev, pair⟩ :=
        inv.bound kept after half keptLive keptBev
      exact ⟨peer, peerCore, peerHalf, differ, withEndpoint_old peerLive, names, back, peerBev, pair⟩
  · exact OneOwner.withEndpoint inv.owner

/-! ## What each call does -/

theorem buffereventFree_pair {bevs : Heap Bufferevent} {half : Bufferevent} (live : bevs.get first = some half)
    (linked : half.partner = some second) :
    buffereventFree bevs first =
      .ok ((bevs.modify second fun half => { half with partner := none }).free first) := by
  simp only [buffereventFree, deref_live live, linked, bind, Except.bind]

theorem buffereventFree_single {bevs : Heap Bufferevent} {half : Bufferevent} (live : bevs.get first = some half)
    (alone : half.partner = none) : buffereventFree bevs first = .ok (bevs.free first) := by
  simp only [buffereventFree, deref_live live, alone, bind, Except.bind]

theorem unbindEndpoint_bound (live : st.cores.get ep = some core) (bev : core.bev = some first)
    (found : tbl.get st.epTbl core.partnerId = some other) (otherLive : st.cores.get other = some partner)
    (otherBev : partner.bev = some second) (differ : first ≠ second)
    (pair : OtherHalf st.bevs first second) :
    unbindEndpoint tbl st ep = .ok (unlinked st ep other first second) := by
  obtain ⟨half, otherHalf, halfLive, linked, otherHalfLive, back⟩ := pair
  have alone : ((st.bevs.modify second fun half => { half with partner := none }).free first).get second =
      some { otherHalf with partner := none } := by
    rw [Heap.get_free_of_ne differ.symm, Heap.get_modify_self, otherHalfLive]
    rfl
  simp only [unbindEndpoint, deref_live live, bev, deref_live halfLive, linked, found, deref_live otherLive,
    otherBev, ne_eq, not_true_eq_false, if_false, buffereventFree_pair halfLive linked,
    buffereventFree_single alone rfl, bind, Except.bind]
  rfl

/-- Every endpoint has the bufferevent and the partner id it had. -/
def SameBindings (st next : EpState Table Cb Arg) : Prop :=
  ∀ ep core, st.cores.get ep = some core →
    ∃ after, next.cores.get ep = some after ∧ after.bev = core.bev ∧ after.partnerId = core.partnerId

theorem SameBindings.of_kept (kept : ∀ ep core, st.cores.get ep = some core → next.cores.get ep = some core) :
    SameBindings st next :=
  fun ep core live => ⟨core, kept ep core live, rfl, rfl⟩

theorem EpInv.unbindEndpoint (inv : EpInv tbl st) (live : st.cores.get ep = some core) :
    ∃ next, unbindEndpoint tbl st ep = .ok next ∧ EpInv tbl next := by
  cases bev : core.bev with
  | none => exact ⟨st, unbindEndpoint_idle live bev, inv⟩
  | some first =>
      obtain ⟨other, partner, second, differ, otherLive, names, -, otherBev, pair⟩ :=
        inv.bound ep core first live bev
      have found : tbl.get st.epTbl core.partnerId = some other := by
        rw [names]
        exact inv.registered other partner otherLive
      have distinct : first ≠ second := by
        rintro rfl
        exact differ (inv.owner _ _ _ _ _ otherLive live otherBev bev)
      exact ⟨_, unbindEndpoint_bound live bev found otherLive otherBev distinct pair,
        inv.unlink live bev otherLive otherBev pair⟩

/-- Taking an endpoint out of the table and freeing it. The partner is looked
up after the descriptor is deleted, and found, since it is another one. -/
theorem EpInv.unregister (laws : tbl.Resolves) (inv : EpInv tbl st) (live : st.cores.get ep = some core) :
    ∃ next, unregisterEndpoint tbl st ep = .ok next ∧ EpInv tbl (destroyEndpoint next ep) ∧
      (core.bev = none → ∀ kept, kept ≠ ep → next.cores.get kept = st.cores.get kept) := by
  let renamed := fun core : EpCore => { core with id := -1 }
  have renamedLive : (st.cores.modify ep renamed).get ep = some (renamed core) := by
    rw [Heap.get_modify_self, live]
    rfl
  have unfolded : unregisterEndpoint tbl st ep =
      Rteipc.unbindEndpoint tbl
        { st with epTbl := tbl.del st.epTbl core.id, cores := st.cores.modify ep renamed } ep := by
    simp only [unregisterEndpoint, deref_live live, bind, Except.bind]
    rfl
  cases bev : core.bev with
  | none =>
      refine ⟨_, unregisterEndpoint_idle live bev, ?_, fun _ kept differ => Heap.get_modify_of_ne differ⟩
      refine (inv.remove laws live bev).congr (fun kept => ?_) (fun _ => rfl) (fun _ => rfl)
      by_cases same : kept = ep
      · rw [same]
        exact Heap.get_free_self.trans Heap.get_free_self.symm
      · rw [destroyEndpoint, Heap.get_free_of_ne same, Heap.get_free_of_ne same, Heap.get_modify_of_ne same]
  | some first =>
      obtain ⟨other, partner, second, differ, otherLive, names, -, otherBev, pair⟩ :=
        inv.bound ep core first live bev
      have found : tbl.get (tbl.del st.epTbl core.id) core.partnerId = some other := by
        rw [laws.del, names, if_neg fun same => differ (inv.id_inj otherLive live same)]
        exact inv.registered other partner otherLive
      have distinct : first ≠ second := by
        rintro rfl
        exact differ (inv.owner _ _ _ _ _ otherLive live otherBev bev)
      have unbound : (unlinked st ep other first second).cores.get ep = some core.unbound := by
        rw [unlinked_get, live, Option.map_some, if_pos (.inl rfl)]
      have removed := (inv.unlink live bev otherLive otherBev pair).remove laws unbound rfl
      refine ⟨_, unfolded.trans (unbindEndpoint_bound renamedLive bev found
        ((Heap.get_modify_of_ne differ).trans otherLive) otherBev distinct pair), ?_,
        fun unbound => by cases unbound⟩
      refine removed.congr (fun kept => ?_) (fun _ => rfl) (fun _ => rfl)
      by_cases same : kept = ep
      · rw [same]
        exact Heap.get_free_self.trans Heap.get_free_self.symm
      · rw [destroyEndpoint, Heap.get_free_of_ne same, Heap.get_free_of_ne same, unlinked_get, unlinked_get,
          Heap.get_modify_of_ne same]

end Changes

theorem EpInv.find (inv : EpInv tbl st) {id : Int} {ep : EpPtr} (found : findEndpoint tbl st id = some ep) :
    ∃ core, st.cores.get ep = some core := by
  obtain ⟨core, live, -⟩ := inv.resolves id ep found
  exact ⟨core, live⟩

theorem EpInv.rteipcUnbind (inv : EpInv tbl st) (id : Int) :
    ∃ next, rteipcUnbind tbl st id = .ok next ∧ EpInv tbl next := by
  cases found : findEndpoint tbl st id with
  | none => exact ⟨st, by rw [Rteipc.rteipcUnbind, found], inv⟩
  | some ep =>
      obtain ⟨core, live⟩ := inv.find found
      obtain ⟨next, unbound, after⟩ := inv.unbindEndpoint live
      exact ⟨next, by rw [Rteipc.rteipcUnbind, found]; exact unbound, after⟩

theorem EpInv.rteipcClose (laws : tbl.Resolves) (inv : EpInv tbl st) (id : Int) :
    ∃ next, rteipcClose tbl st id = .ok next ∧ EpInv tbl next := by
  cases found : findEndpoint tbl st id with
  | none => exact ⟨st, by rw [Rteipc.rteipcClose, found], inv⟩
  | some ep =>
      obtain ⟨core, live⟩ := inv.find found
      have sameCores : (closeEndpoint st core.type ep).cores = st.cores := by cases core.type <;> rfl
      have sameBevs : (closeEndpoint st core.type ep).bevs = st.bevs := by cases core.type <;> rfl
      have sameTable : (closeEndpoint st core.type ep).epTbl = st.epTbl := by cases core.type <;> rfl
      have closed : EpInv tbl (closeEndpoint st core.type ep) :=
        inv.congr (fun _ => by rw [sameCores]) (fun _ => by rw [sameBevs]) (fun _ => by rw [sameTable])
      obtain ⟨next, unregistered, after, -⟩ := closed.unregister laws (sameCores ▸ live)
      refine ⟨destroyEndpoint next ep, ?_, after⟩
      simp only [Rteipc.rteipcClose, found, deref_live live, unregistered, bind, Except.bind]

theorem EpInv.rteipcBind (inv : EpInv tbl st) (pair : Bool) (lh rh : Int) :
    ∃ next ret, rteipcBind tbl st pair lh rh = .ok (next, ret) ∧ EpInv tbl next ∧ (ret < 0 → next = st) := by
  cases left : findEndpoint tbl st lh with
  | none => exact ⟨st, -1, by rw [Rteipc.rteipcBind, left], inv, fun _ => rfl⟩
  | some le =>
      cases right : findEndpoint tbl st rh with
      | none => exact ⟨st, -1, by rw [Rteipc.rteipcBind, left, right], inv, fun _ => rfl⟩
      | some re =>
          obtain ⟨core, live⟩ := inv.find left
          obtain ⟨partner, otherLive⟩ := inv.find right
          by_cases same : le = re
          · exact ⟨st, -1, by simp only [Rteipc.rteipcBind, left, right, if_pos same], inv, fun _ => rfl⟩
          · simp only [Rteipc.rteipcBind, left, right, if_neg same, deref_live live, deref_live otherLive,
              bindEndpoint, bind, Except.bind]
            split
            next => exact ⟨st, -1, rfl, inv, fun _ => rfl⟩
            next =>
              split
              next => exact ⟨st, -1, rfl, inv, fun _ => rfl⟩
              next free =>
                simp only [Bool.or_eq_true, not_or, Bool.not_eq_true, Option.isSome_eq_false_iff,
                  Option.isNone_iff_eq_none] at free
                split
                next => exact ⟨st, -1, rfl, inv, fun _ => rfl⟩
                next =>
                  have bound := inv.bindPair live otherLive same free.1 free.2
                  exact ⟨_, 0, rfl, bound, fun failed => absurd failed (by decide)⟩

theorem EpInv.openRegistered (laws : tbl.Resolves) (inv : EpInv tbl st) (outcome : OpenOutcome) (type : EpType)
    {ep : EpPtr} {core : EpCore} (path : List UInt8) (live : st.cores.get ep = some core)
    (unbound : core.bev = none) :
    EpInv tbl (openEndpoint st outcome type ep path).1 ∧
      ∃ next, unregisterEndpoint tbl (openEndpoint st outcome type ep path).1 ep = .ok next ∧
        EpInv tbl (destroyEndpoint next ep) ∧ ∀ kept, kept ≠ ep → next.cores.get kept = st.cores.get kept := by
  obtain ⟨sameTable, sameCores, sameBevs⟩ := openEndpoint_kept st outcome type ep path
  have opened : EpInv tbl (openEndpoint st outcome type ep path).1 :=
    inv.congr (fun _ => by rw [sameCores]) (fun _ => by rw [sameBevs]) (fun _ => by rw [sameTable])
  obtain ⟨next, unregistered, after, frame⟩ := opened.unregister laws (sameCores ▸ live)
  refine ⟨opened, next, unregistered, after, fun kept differ => ?_⟩
  rw [frame unbound kept differ, sameCores]

/-- An opening that fails leaves every other endpoint as it was. -/
theorem EpInv.rteipcOpen_short (laws : tbl.Resolves) (inv : EpInv tbl st) (outcome : OpenOutcome) {uri : List UInt8}
    (long : ¬(scanUri uri).1.length > 15) :
    ∃ next ret, rteipcOpen tbl st outcome uri = .ok (next, ret) ∧ EpInv tbl next ∧
      (ret < 0 → SameBindings st next) := by
  have unchanged : SameBindings st st := .of_kept fun _ _ live => live
  cases parsed : parseUri uri with
  | none => exact ⟨st, -1, by simp only [Rteipc.rteipcOpen, if_neg long, parsed], inv, fun _ => unchanged⟩
  | some target =>
      obtain ⟨type, path⟩ := target
      cases allocated : outcome.core with
      | false =>
          refine ⟨st, -1, ?_, inv, fun _ => unchanged⟩
          simp only [Rteipc.rteipcOpen, if_neg long, parsed, allocated]
          rfl
      | true =>
          by_cases refused : (tbl.set outcome.desc st.epTbl st.cores.next).2 < 0
          · refine ⟨_, -1, rteipcOpen_refused long parsed allocated refused, ?_, ?_⟩
            · exact inv.congr (fun _ => Heap.get_alloc_free) (fun _ => rfl) (laws.failed _ _ _ refused)
            · exact fun _ => .of_kept fun kept before live => Heap.get_alloc_free.trans live
          · have registered := inv.register laws outcome.desc type (Int.not_lt.mp refused)
            obtain ⟨opened, next, unregistered, after, frame⟩ :=
              registered.openRegistered laws outcome type path withEndpoint_new rfl
            rw [rteipcOpen_registered long parsed allocated refused]
            split
            next =>
              rw [unregistered]
              refine ⟨_, -1, rfl, after, fun _ => .of_kept fun kept before live => ?_⟩
              have old := Heap.live_ne_next live
              rw [destroyEndpoint, Heap.get_free_of_ne old, frame kept old]
              exact withEndpoint_old live
            next => exact ⟨_, _, rfl, opened, fun negative => (refused negative).elim⟩

theorem EpInv.rteipcOpen (laws : tbl.Resolves) (inv : EpInv tbl st) (outcome : OpenOutcome) (uri : List UInt8) :
    rteipcOpen tbl st outcome uri = .error .overflow ∨
      ∃ next ret, rteipcOpen tbl st outcome uri = .ok (next, ret) ∧ EpInv tbl next ∧
        (ret < 0 → SameBindings st next) := by
  by_cases long : (scanUri uri).1.length > 15
  · exact .inl (if_pos long)
  · exact .inr (inv.rteipcOpen_short laws outcome long)

/-! ## Runs -/

/-- No assertion fails: the one way a call does not return is the overlong
protocol of a URI. -/
theorem EpInv.call (laws : tbl.Resolves) (inv : EpInv tbl st) (call : EpCall) :
    st.call tbl call = .error .overflow ∨
      ∃ next ret, st.call tbl call = .ok (next, ret) ∧ EpInv tbl next ∧ (ret < 0 → SameBindings st next) := by
  cases call with
  | rteipcOpen outcome uri => exact inv.rteipcOpen laws outcome uri
  | rteipcBind pair lh rh =>
      obtain ⟨next, ret, bound, after, failed⟩ := inv.rteipcBind pair lh rh
      refine .inr ⟨next, ret, bound, after, fun negative => ?_⟩
      rw [failed negative]
      exact .of_kept fun _ _ live => live
  | rteipcUnbind id =>
      obtain ⟨next, unbound, after⟩ := inv.rteipcUnbind id
      refine .inr ⟨next, 0, ?_, after, nofun⟩
      rw [EpState.call, unbound]
      rfl
  | rteipcClose id =>
      obtain ⟨next, closed, after⟩ := inv.rteipcClose laws id
      refine .inr ⟨next, 0, ?_, after, nofun⟩
      rw [EpState.call, closed]
      rfl

theorem EpInv.step (laws : tbl.Resolves) (inv : EpInv tbl st) {call : EpCall} (taken : EpStep tbl st call next) :
    EpInv tbl next := by
  obtain ⟨ret, returned⟩ := taken
  obtain overflow | ⟨after, ret', returned', afterInv, -⟩ := inv.call laws call
  · rw [overflow] at returned
    nomatch returned
  · rw [returned'] at returned
    obtain ⟨rfl, -⟩ := Prod.mk.inj (Except.ok.inj returned)
    exact afterInv

theorem EpInv.run (laws : tbl.Resolves) {calls : List EpCall}
    (run : Reaches (EpStep tbl) (EpState.start tbl) calls st) : EpInv tbl st :=
  run.invariant (fun _ _ _ (inv : EpInv tbl _) taken => inv.step laws taken) (.start laws)

/-- In every state a sequence of calls reaches the bindings are a matching, no
further call fails an assertion or uses a freed endpoint, and one that returns
an error leaves all bindings as they were. -/
theorem bindings_are_matching (laws : tbl.Resolves) {calls : List EpCall}
    (run : Reaches (EpStep tbl) (EpState.start tbl) calls st) :
    Matching tbl st ∧
      (∀ call fault, st.call tbl call = .error fault → fault = .overflow) ∧
        ∀ call next ret, st.call tbl call = .ok (next, ret) → ret < 0 → SameBindings st next := by
  have inv := EpInv.run laws run
  refine ⟨inv.matching laws, fun call fault failed => ?_, fun call next ret returned negative => ?_⟩
  · obtain overflow | ⟨_, _, returned, -⟩ := inv.call laws call
    · rw [overflow] at failed
      exact (Except.error.inj failed).symm
    · rw [returned] at failed
      nomatch failed
  · obtain overflow | ⟨after, ret', returned', -, same⟩ := inv.call laws call
    · rw [overflow] at returned
      nomatch returned
    · rw [returned'] at returned
      obtain ⟨rfl, rfl⟩ := Prod.mk.inj (Except.ok.inj returned)
      exact same negative

/-- A table that never gives a descriptor out again. -/
def growingTable : DescTable (List (Option EpPtr)) where
  start := []
  set alloc table ep := if alloc.entry then (table ++ [some ep], table.length) else (table, -1)
  get table id := if id < 0 then none else table.getD id.toNat none
  del table id := if id < 0 then table else table.set id.toNat none

theorem growingTable_resolves : growingTable.Resolves where
  start id := by simp [growingTable]
  negative table id negative := if_pos negative
  set alloc table ep given := by
    cases entry : alloc.entry with
    | false => simp [growingTable, entry] at given
    | true =>
        simp only [growingTable, entry, if_true]
        refine ⟨by simp, fun id => ?_⟩
        by_cases negative : id < 0
        · rw [if_pos negative, if_pos negative, if_neg (by omega)]
        rw [if_neg negative, if_neg negative]
        simp only [List.getD_eq_getElem?_getD]
        obtain before | same | after := Nat.lt_trichotomy id.toNat table.length
        · rw [if_neg (by omega), List.getElem?_append_left before]
        · rw [if_pos (by omega), same]
          simp
        · rw [if_neg (by omega), List.getElem?_eq_none (by simp; omega), List.getElem?_eq_none (by omega)]
  failed alloc table ep refused id := by
    cases entry : alloc.entry with
    | false => simp [growingTable, entry]
    | true =>
        simp only [growingTable, entry, if_true] at refused
        omega
  del table id other := by
    simp only [growingTable]
    by_cases negative : other < 0
    · rw [if_pos negative, if_pos negative]
      split <;> rfl
    rw [if_neg negative, if_neg negative]
    by_cases deleted : id < 0
    · rw [if_pos deleted, if_neg (by omega)]
    rw [if_neg deleted]
    simp only [List.getD_eq_getElem?_getD, List.getElem?_set]
    by_cases same : other = id
    · rw [if_pos same, if_pos (by omega)]
      split <;> rfl
    · rw [if_neg same, if_neg (by omega)]

def boundLoops : List EpCall :=
  [.rteipcOpen ⟨true, .succeeds, true, true⟩ (ascii "a"), .rteipcOpen ⟨true, .succeeds, true, true⟩ (ascii "b"),
    .rteipcBind true 0 1]

theorem bindings_are_matching_two : ∃ st : EpState (List (Option EpPtr)) Unit Unit,
    Reaches (EpStep growingTable) (EpState.start growingTable) boundLoops st ∧
      Matching growingTable st ∧
        (∀ call fault, st.call growingTable call = .error fault → fault = .overflow) ∧
          ∀ call next ret, st.call growingTable call = .ok (next, ret) → ret < 0 → SameBindings st next := by
  obtain ⟨st, run⟩ : ∃ st : EpState (List (Option EpPtr)) Unit Unit,
      Reaches (EpStep growingTable) (EpState.start growingTable) boundLoops st :=
    ⟨_, .cons ⟨0, rfl⟩ (.cons ⟨1, rfl⟩ (.cons ⟨0, rfl⟩ (.nil _)))⟩
  exact ⟨st, run, bindings_are_matching growingTable_resolves run⟩

end Rteipc
