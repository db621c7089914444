import Rteipc.Endpoint

namespace Rteipc

/-! The descriptors of the program's own table, whatever its allocations do.

An entry is never removed, so it may name a freed endpoint; but an entry whose
endpoint is live carries that endpoint's id, and the id is marked in use.
-/

open Data

variable {Cb Arg : Type} {st next : EpState (Dtbl EpPtr) Cb Arg}

def Holds (table : Dtbl EpPtr) (id : Int) (ep : EpPtr) : Prop :=
  ∃ entry ∈ table.entryList, entry.id = id ∧ entry.value = some ep

structure Registry (st : EpState (Dtbl EpPtr) Cb Arg) : Prop where
  room : st.epTbl.Room
  stored : ∀ entry ∈ st.epTbl.entryList, entry.value.isSome
  known : ∀ id ep, Holds st.epTbl id ep → ep < st.cores.next
  live : ∀ id ep core, Holds st.epTbl id ep → st.cores.get ep = some core →
    core.id = id ∧ ∃ used : Nat, id = used ∧ dtblUsed st.epTbl used = true
  single : ∀ id ep other core peer, Holds st.epTbl id ep → Holds st.epTbl id other →
    st.cores.get ep = some core → st.cores.get other = some peer → ep = other
  loops : ∀ lo ∈ st.loList, lo.self < st.cores.next

theorem Registry.start : Registry (EpState.start dtblTable : EpState (Dtbl EpPtr) Cb Arg) where
  room := nofun
  stored := nofun
  known _ _ held := by
    obtain ⟨entry, member, -⟩ := held
    nomatch member
  live _ _ _ _ live := nomatch live
  single _ _ _ _ _ _ _ live := nomatch live
  loops := nofun

theorem dtblGet_holds {table : Dtbl EpPtr} {id : Int} {ep : EpPtr} (found : dtblGet table id = some ep) :
    Holds table id ep := dtblGet_entry found

/-- A held id is found, if not always with that endpoint. -/
theorem Registry.found (registry : Registry st) {id : Int} {ep : EpPtr} (held : Holds st.epTbl id ep) :
    ∃ first, dtblGet st.epTbl id = some first := by
  obtain ⟨entry, member, named, -⟩ := held
  cases first : st.epTbl.entryList.find? fun entry => entry.id == id with
  | none => exact (List.find?_eq_none.mp first entry member (beq_iff_eq.mpr named)).elim
  | some other =>
      obtain ⟨value, stored⟩ := Option.isSome_iff_exists.mp (registry.stored other (List.mem_of_find?_eq_some first))
      refine ⟨value, ?_⟩
      rw [dtblGet, first]
      exact stored

/-! ## Calls that register nothing -/

/-- The table, the loops and the ids are as before. -/
structure SameIds (st next : EpState (Dtbl EpPtr) Cb Arg) : Prop where
  epTbl : next.epTbl = st.epTbl
  loList : next.loList = st.loList
  fresh : next.cores.next = st.cores.next
  ids : ∀ ep, (next.cores.get ep).map EpCore.id = (st.cores.get ep).map EpCore.id

theorem SameIds.refl (st : EpState (Dtbl EpPtr) Cb Arg) : SameIds st st := ⟨rfl, rfl, rfl, fun _ => rfl⟩

theorem SameIds.core (same : SameIds st next) {ep : EpPtr} {after : EpCore} (live : next.cores.get ep = some after) :
    ∃ before, st.cores.get ep = some before ∧ before.id = after.id := by
  have ids := same.ids ep
  rw [live, Option.map_some, eq_comm, Option.map_eq_some_iff] at ids
  exact ids

theorem unbindEndpoint_sameIds {ep : EpPtr} (returned : unbindEndpoint dtblTable st ep = .ok next) :
    SameIds st next := by
  obtain ⟨rfl, -⟩ | ⟨_, _, other, _, _, _, -, -, -, -, -, -, rfl⟩ := unbindEndpoint_cases returned
  · exact .refl _
  · refine ⟨rfl, rfl, rfl, fun kept => (Heap.map_get_modify ?_).trans (Heap.map_get_modify ?_)⟩
    · exact fun _ => rfl
    · exact fun _ => rfl

theorem rteipcBind_ok {pair : Bool} {lh rh ret : Int}
    (returned : rteipcBind dtblTable st pair lh rh = .ok (next, ret)) : SameIds st next ∧ (ret < 0 → next = st) := by
  obtain ⟨rfl, -⟩ | ⟨_, _, _, _, -, -, -, -, -, -, -, rfl, rfl⟩ := rteipcBind_cases returned
  · exact ⟨.refl _, fun _ => rfl⟩
  · refine ⟨⟨rfl, rfl, rfl, fun kept => (Heap.map_get_modify ?_).trans (Heap.map_get_modify ?_)⟩, nofun⟩
    · exact fun _ => rfl
    · exact fun _ => rfl

theorem Registry.congr (registry : Registry st) (same : SameIds st next) : Registry next where
  room := same.epTbl ▸ registry.room
  stored := same.epTbl ▸ registry.stored
  known id ep held := by
    rw [same.fresh]
    exact registry.known id ep (same.epTbl ▸ held)
  live id ep core held live := by
    obtain ⟨before, beforeLive, sameId⟩ := same.core live
    rw [same.epTbl] at held ⊢
    rw [← sameId]
    exact registry.live id ep before held beforeLive
  single id ep other core peer held otherHeld live otherLive := by
    obtain ⟨before, beforeLive, -⟩ := same.core live
    obtain ⟨peerBefore, peerLive, -⟩ := same.core otherLive
    rw [same.epTbl] at held otherHeld
    exact registry.single id ep other before peerBefore held otherHeld beforeLive peerLive
  loops lo member := by
    rw [same.fresh]
    exact registry.loops lo (same.loList ▸ member)

/-! ## Closing -/

/-- What taking an endpoint out of the table and freeing it comes to. -/
structure Unregistered (st : EpState (Dtbl EpPtr) Cb Arg) (ep : EpPtr) (core : EpCore)
    (next : EpState (Dtbl EpPtr) Cb Arg) : Prop where
  epTbl : next.epTbl = dtblDel st.epTbl core.id
  loList : next.loList = st.loList
  fresh : next.cores.next = st.cores.next
  freed : next.cores.get ep = none
  ids : ∀ other, other ≠ ep → (next.cores.get other).map EpCore.id = (st.cores.get other).map EpCore.id
  idle : core.bev = none → next.bevs = st.bevs ∧ ∀ other, other ≠ ep → next.cores.get other = st.cores.get other

theorem unregisterEndpoint_ok {ep : EpPtr} {core : EpCore} {closed : EpState (Dtbl EpPtr) Cb Arg}
    (live : st.cores.get ep = some core) (returned : unregisterEndpoint dtblTable st ep = .ok closed) :
    Unregistered st ep core (destroyEndpoint closed ep) := by
  have result := returned
  simp only [unregisterEndpoint, deref_live live] at result
  have same := unbindEndpoint_sameIds result
  refine ⟨same.epTbl, same.loList, same.fresh, Heap.get_free_self, fun other differ => ?_, fun unbound => ?_⟩
  · rw [destroyEndpoint, Heap.get_free_of_ne differ, same.ids]
    exact congrArg _ (Heap.get_modify_of_ne differ)
  · rw [unregisterEndpoint_idle live unbound] at returned
    cases returned
    exact ⟨rfl, fun other differ => (Heap.get_free_of_ne differ).trans (Heap.get_modify_of_ne differ)⟩

theorem Unregistered.holds {ep : EpPtr} {core : EpCore} (closed : Unregistered st ep core next) {id : Int}
    {other : EpPtr} : Holds next.epTbl id other ↔ Holds st.epTbl id other := by
  unfold Holds
  rw [closed.epTbl, dtblDel_entryList]

theorem Unregistered.core {ep other : EpPtr} {core after : EpCore} (closed : Unregistered st ep core next)
    (live : next.cores.get other = some after) :
    other ≠ ep ∧ ∃ before, st.cores.get other = some before ∧ before.id = after.id := by
  have differ : other ≠ ep := by
    intro same
    rw [same, closed.freed] at live
    nomatch live
  have ids := closed.ids other differ
  rw [live, Option.map_some, eq_comm, Option.map_eq_some_iff] at ids
  exact ⟨differ, ids⟩

theorem Registry.unregistered (registry : Registry st) {ep : EpPtr} {core : EpCore} {id : Nat}
    (closed : Unregistered st ep core next) (named : core.id = id)
    (only : ∀ other peer, Holds st.epTbl id other → st.cores.get other = some peer → other = ep) :
    Registry next where
  room := by
    rw [closed.epTbl]
    exact dtblDel_room registry.room core.id
  stored := by
    rw [closed.epTbl, dtblDel_entryList]
    exact registry.stored
  known desc other held := by
    rw [closed.fresh]
    exact registry.known desc other (closed.holds.mp held)
  live desc other after held live := by
    obtain ⟨differ, before, beforeLive, sameId⟩ := closed.core live
    obtain ⟨isDesc, used, rfl, marked⟩ := registry.live desc other before (closed.holds.mp held) beforeLive
    refine ⟨sameId.symm.trans isDesc, used, rfl, ?_⟩
    have distinct : id ≠ used := by
      intro same
      rw [← same] at held
      exact differ (only other before (closed.holds.mp held) beforeLive)
    rw [closed.epTbl, named, dtblDel_used distinct]
    exact marked
  single desc other third after peer held thirdHeld live thirdLive := by
    obtain ⟨-, before, beforeLive, -⟩ := closed.core live
    obtain ⟨-, peerBefore, peerLive, -⟩ := closed.core thirdLive
    exact registry.single desc other third before peerBefore (closed.holds.mp held) (closed.holds.mp thirdHeld)
      beforeLive peerLive
  loops lo member := by
    rw [closed.fresh]
    exact registry.loops lo (closed.loList ▸ member)

theorem Registry.withLoops (registry : Registry st) {loList : List (Loop Cb Arg)}
    (loops : ∀ lo ∈ loList, lo.self < st.cores.next) : Registry { st with loList } where
  room := registry.room
  stored := registry.stored
  known := registry.known
  live := registry.live
  single := registry.single
  loops := loops

/-- Closing does nothing to an unknown id, and else takes the endpoint found
out of the table and off the list of loops. -/
theorem rteipcClose_ok {id : Int} (returned : rteipcClose dtblTable st id = .ok next) :
    dtblGet st.epTbl id = none ∧ next = st ∨
      ∃ ep core, dtblGet st.epTbl id = some ep ∧ st.cores.get ep = some core ∧
        Unregistered (closeEndpoint st core.type ep) ep core next := by
  unfold rteipcClose at returned
  split at returned
  next missing =>
    obtain rfl := Except.ok.inj returned
    exact .inl ⟨missing, rfl⟩
  next ep found =>
    obtain ⟨core, read, returned⟩ := bind_ok returned
    obtain ⟨closed, unregistered, returned⟩ := bind_ok returned
    obtain rfl := Except.ok.inj returned
    have live := deref_ok read
    refine .inr ⟨ep, core, found, live, unregisterEndpoint_ok ?_ unregistered⟩
    rw [closeEndpoint_eq]
    exact live

theorem Registry.closed (registry : Registry st) {id : Int} (returned : rteipcClose dtblTable st id = .ok next) :
    Registry next := by
  obtain ⟨-, rfl⟩ | ⟨ep, core, found, live, closed⟩ := rteipcClose_ok returned
  · exact registry
  · obtain ⟨named, used, rfl, -⟩ := registry.live id ep core (dtblGet_holds found) live
    have unlooped : Registry (closeEndpoint st core.type ep) := by
      rw [closeEndpoint_eq]
      refine registry.withLoops fun lo member => ?_
      split at member
      next => exact registry.loops lo (List.mem_filter.mp member).1
      next => exact registry.loops lo member
    refine unlooped.unregistered closed named fun other peer held otherLive => ?_
    rw [closeEndpoint_eq] at held otherLive
    exact registry.single used other ep peer core held (dtblGet_holds found) otherLive live

/-! ## Opening -/

/-- An endpoint opened under a free id, stored where its entry could be allocated. -/
structure Opened (st : EpState (Dtbl EpPtr) Cb Arg) (outcome : OpenOutcome) (type : EpType) (path : List UInt8)
    (id : Nat) (next : EpState (Dtbl EpPtr) Cb Arg) : Prop where
  fresh : next.cores.next = st.cores.next + 1
  core : next.cores.get st.cores.next = some ⟨id, -1, type, none⟩
  others : ∀ ep, ep ≠ st.cores.next → next.cores.get ep = st.cores.get ep
  bevs : next.bevs = st.bevs
  loList : next.loList = st.loList ++ newLoops type st.cores.next path
  unused : dtblUsed st.epTbl id = false
  entries : next.epTbl.entryList =
    st.epTbl.entryList ++ if outcome.desc.entry then [⟨id, some st.cores.next⟩] else []

/-- An opening that failed. The entry may stay behind. -/
structure Refused (st next : EpState (Dtbl EpPtr) Cb Arg) : Prop where
  fresh : st.cores.next ≤ next.cores.next
  cores : ∀ ep, next.cores.get ep = st.cores.get ep
  bevs : next.bevs = st.bevs
  loList : next.loList = st.loList
  entries : ∃ more, next.epTbl.entryList = st.epTbl.entryList ++ more ∧
    ∀ entry ∈ more, entry.value = some st.cores.next

/-- `rteipc_open` of a loop gets through to `loop_open` and that succeeds. -/
def OpensLoop (st : EpState (Dtbl EpPtr) Cb Arg) (outcome : OpenOutcome) (uri : List UInt8) : Prop :=
  ∃ path, parseUri uri = some (.loop, path) ∧ outcome.core = true ∧
    0 ≤ (dtblTable.set outcome.desc st.epTbl st.cores.next).2 ∧ LoopOpens st.loList outcome path

section Opening

variable {outcome : OpenOutcome} {type : EpType} {uri path : List UInt8} {ret : Int}

theorem withEndpoint_entries (registry : Registry st) (type : EpType)
    (given : 0 ≤ (dtblTable.set outcome.desc st.epTbl st.cores.next).2) :
    ∃ id : Nat, (dtblTable.set outcome.desc st.epTbl st.cores.next).2 = id ∧ dtblUsed st.epTbl id = false ∧
      (withEndpoint dtblTable st outcome.desc type).epTbl.entryList =
        (st.epTbl.entryList ++ if outcome.desc.entry then [⟨(id : Int), some st.cores.next⟩] else []) ∧
      ∀ other, dtblUsed (withEndpoint dtblTable st outcome.desc type).epTbl other =
        (outcome.desc.entry && decide (id = other) || dtblUsed st.epTbl other) := by
  obtain ⟨-, -, set⟩ : _ ∧ _ ∧ (_ ∨ ∃ id : Nat, (dtblSet outcome.desc st.epTbl (some st.cores.next)).2 = id ∧ _) :=
    dtblSet_cases registry.room
  obtain ⟨negative, -⟩ | ⟨id, named, unused, ⟨lost, entries, used⟩ | ⟨kept, entries, used⟩⟩ := set
  · exact (Int.not_lt.mpr given negative).elim
  · refine ⟨id, named, unused, ?_, fun other => ?_⟩
    · rw [lost, if_neg Bool.false_ne_true, List.append_nil]
      exact entries
    · rw [lost, Bool.false_and, Bool.false_or]
      exact used other
  · refine ⟨id, named, unused, ?_, fun other => ?_⟩
    · rw [kept, if_pos rfl]
      exact entries
    · rw [kept, Bool.true_and]
      exact used other

theorem holds_append {table after : Dtbl EpPtr} {id : Int} {ep : EpPtr} {stored : Bool}
    (entries : after.entryList = table.entryList ++ if stored then [⟨id, some ep⟩] else []) {desc : Int}
    {other : EpPtr} (held : Holds after desc other) :
    Holds table desc other ∨ stored = true ∧ desc = id ∧ other = ep := by
  obtain ⟨entry, member, isDesc, value⟩ := held
  rw [entries] at member
  obtain old | new := List.mem_append.mp member
  · exact .inl ⟨entry, old, isDesc, value⟩
  · split at new
    next isStored =>
      obtain rfl := List.mem_singleton.mp new
      exact .inr ⟨isStored, isDesc.symm, (Option.some.inj value).symm⟩
    next => nomatch new

theorem Registry.unheld (registry : Registry st) {id : Nat} (unused : dtblUsed st.epTbl id = false) {ep : EpPtr}
    (held : Holds st.epTbl id ep) : st.cores.get ep = none := by
  cases live : st.cores.get ep with
  | none => rfl
  | some core =>
      obtain ⟨-, used, same, marked⟩ := registry.live id ep core held live
      obtain rfl := Int.ofNat.inj same
      rw [unused] at marked
      nomatch marked

theorem Registry.opened (registry : Registry st) (type : EpType)
    (given : 0 ≤ (dtblTable.set outcome.desc st.epTbl st.cores.next).2) :
    Registry (withEndpoint dtblTable st outcome.desc type) := by
  obtain ⟨id, named, unused, entries, used⟩ := withEndpoint_entries registry type given
  have oldLive : ∀ {desc ep core}, Holds st.epTbl desc ep →
      (withEndpoint dtblTable st outcome.desc type).cores.get ep = some core → st.cores.get ep = some core := by
    intro desc ep core old live
    obtain ⟨isNew, -⟩ | ⟨-, live⟩ := withEndpoint_live live
    · exact ((Nat.ne_of_lt (registry.known desc ep old)) isNew).elim
    · exact live
  refine ⟨?_, ?_, ?_, ?_, ?_, ?_⟩
  · exact (dtblSet_cases registry.room).1
  · intro entry member
    rw [entries] at member
    obtain old | new := List.mem_append.mp member
    · exact registry.stored entry old
    · split at new
      next =>
        obtain rfl := List.mem_singleton.mp new
        rfl
      next => nomatch new
  · intro desc ep holds
    obtain old | ⟨-, -, rfl⟩ := holds_append entries holds
    · exact Nat.lt_succ_of_lt (registry.known desc ep old)
    · exact Nat.lt_succ_self _
  · intro desc ep core holds live
    obtain old | ⟨stored, rfl, rfl⟩ := holds_append entries holds
    · obtain ⟨isDesc, number, rfl, marked⟩ := registry.live desc ep core old (oldLive old live)
      refine ⟨isDesc, number, rfl, ?_⟩
      rw [used, marked, Bool.or_true]
    · rw [withEndpoint_new] at live
      obtain rfl := Option.some.inj live
      refine ⟨named, id, rfl, ?_⟩
      rw [used, stored, decide_eq_true rfl]
      rfl
  · intro desc ep other core peer holds otherHolds live otherLive
    obtain old | ⟨-, rfl, rfl⟩ := holds_append entries holds
    · obtain otherOld | ⟨-, rfl, rfl⟩ := holds_append entries otherHolds
      · exact registry.single desc ep other core peer old otherOld (oldLive old live) (oldLive otherOld otherLive)
      · exact nomatch (registry.unheld unused old).symm.trans (oldLive old live)
    · obtain otherOld | ⟨-, -, rfl⟩ := holds_append entries otherHolds
      · exact nomatch (registry.unheld unused otherOld).symm.trans (oldLive otherOld otherLive)
      · rfl
  · intro lo member
    exact Nat.lt_succ_of_lt (registry.loops lo member)

theorem Registry.only (registry : Registry st) {id : Nat} (unused : dtblUsed st.epTbl id = false) {stored : Bool}
    (entries : next.epTbl.entryList = st.epTbl.entryList ++ if stored then [⟨(id : Int), some st.cores.next⟩] else [])
    (others : ∀ ep, ep ≠ st.cores.next → next.cores.get ep = st.cores.get ep) {other : EpPtr} {peer : EpCore}
    (held : Holds next.epTbl id other) (live : next.cores.get other = some peer) : other = st.cores.next := by
  obtain old | ⟨-, -, isNew⟩ := holds_append entries held
  · refine Decidable.byContradiction fun differ => ?_
    rw [others other differ] at live
    exact nomatch (registry.unheld unused old).symm.trans live
  · exact isNew

theorem Registry.refused (registry : Registry st) (type : EpType)
    (refused : (dtblTable.set outcome.desc st.epTbl st.cores.next).2 < 0) :
    Registry { st with
      epTbl := (dtblTable.set outcome.desc st.epTbl st.cores.next).1
      cores := (st.cores.alloc ⟨-1, -1, type, none⟩).free st.cores.next } ∧
    Refused st { st with
      epTbl := (dtblTable.set outcome.desc st.epTbl st.cores.next).1
      cores := (st.cores.alloc ⟨-1, -1, type, none⟩).free st.cores.next } := by
  obtain ⟨room, -, set⟩ : _ ∧ _ ∧ (_ ∨ ∃ id : Nat, (dtblSet outcome.desc st.epTbl (some st.cores.next)).2 = id ∧ _) :=
    dtblSet_cases registry.room
  obtain ⟨-, entries, used⟩ | ⟨id, named, -⟩ := set
  · have held : ∀ {id ep}, Holds (dtblTable.set outcome.desc st.epTbl st.cores.next).1 id ep ↔
        Holds st.epTbl id ep := by
      intro id ep
      unfold Holds
      rw [show (dtblTable.set outcome.desc st.epTbl st.cores.next).1.entryList = _ from entries]
    refine ⟨⟨room, ?_, ?_, ?_, ?_, ?_⟩, Nat.le_succ _, fun _ => Heap.get_alloc_free, rfl, rfl, [],
      ?_, nofun⟩
    · intro entry member
      exact registry.stored entry (entries ▸ member)
    · intro id ep holds
      exact Nat.lt_succ_of_lt (registry.known id ep (held.mp holds))
    · intro id ep core holds live
      rw [Heap.get_alloc_free] at live
      obtain ⟨isId, number, rfl, marked⟩ := registry.live id ep core (held.mp holds) live
      exact ⟨isId, number, rfl, (used number).trans marked⟩
    · intro id ep other core peer holds otherHolds live otherLive
      rw [Heap.get_alloc_free] at live otherLive
      exact registry.single id ep other core peer (held.mp holds) (held.mp otherHolds) live otherLive
    · intro lo member
      exact Nat.lt_succ_of_lt (registry.loops lo member)
    · exact entries.trans (List.append_nil _).symm
  · rw [show (dtblTable.set outcome.desc st.epTbl st.cores.next).2 = (id : Int) from named] at refused
    omega

/-- What an opening that returns has done. -/
def OpenResult (st : EpState (Dtbl EpPtr) Cb Arg) (outcome : OpenOutcome) (uri : List UInt8)
    (next : EpState (Dtbl EpPtr) Cb Arg) (ret : Int) : Prop :=
  ret = -1 ∧ Refused st next ∧ ¬OpensLoop st outcome uri ∨
    ∃ type path, ∃ id : Nat, ret = id ∧ parseUri uri = some (type, path) ∧ Opened st outcome type path id next ∧
      (type = .loop → OpensLoop st outcome uri)

theorem Registry.backendRefused (registry : Registry st) (type : EpType)
    (given : 0 ≤ (dtblTable.set outcome.desc st.epTbl st.cores.next).2) {closed : EpState (Dtbl EpPtr) Cb Arg}
    (returned : unregisterEndpoint dtblTable (withEndpoint dtblTable st outcome.desc type) st.cores.next = .ok closed) :
    Registry (destroyEndpoint closed st.cores.next) ∧ Refused st (destroyEndpoint closed st.cores.next) := by
  have out := unregisterEndpoint_ok withEndpoint_new returned
  obtain ⟨id, named, unused, entries, -⟩ := withEndpoint_entries registry type given
  have others : ∀ ep, ep ≠ st.cores.next → (withEndpoint dtblTable st outcome.desc type).cores.get ep = st.cores.get ep :=
    fun ep differ => by rw [withEndpoint_get, if_neg differ]
  obtain ⟨sameBevs, sameCores⟩ := out.idle rfl
  refine ⟨(registry.opened type given).unregistered out named fun other peer held live =>
    registry.only unused entries others held live, ?_, fun ep => ?_, sameBevs, out.loList, ?_⟩
  · rw [out.fresh]
    exact Nat.le_succ _
  · by_cases isNew : ep = st.cores.next
    · rw [isNew, out.freed]
      exact (st.cores.fresh _ (Nat.le_refl _)).symm
    · rw [sameCores ep isNew, others ep isNew]
  · have sameEntries : (destroyEndpoint closed st.cores.next).epTbl.entryList =
        st.epTbl.entryList ++ if outcome.desc.entry then [⟨(id : Int), some st.cores.next⟩] else [] := by
      rw [out.epTbl, dtblDel_entryList]
      exact entries
    refine ⟨_, sameEntries, fun entry member => ?_⟩
    split at member
    next =>
      obtain rfl := List.mem_singleton.mp member
      rfl
    next => nomatch member

theorem rteipcOpen_registered_ok (registry : Registry st) (parsed : parseUri uri = some (type, path))
    (allocated : outcome.core = true) (given : 0 ≤ (dtblTable.set outcome.desc st.epTbl st.cores.next).2)
    (returned : (if (openEndpoint (withEndpoint dtblTable st outcome.desc type) outcome type st.cores.next path).2 ≠ 0
      then do
        let closed ← unregisterEndpoint dtblTable
          (openEndpoint (withEndpoint dtblTable st outcome.desc type) outcome type st.cores.next path).1 st.cores.next
        .ok (destroyEndpoint closed st.cores.next, -1)
      else
        .ok ((openEndpoint (withEndpoint dtblTable st outcome.desc type) outcome type st.cores.next path).1,
          (dtblTable.set outcome.desc st.epTbl st.cores.next).2)) = .ok (next, ret)) :
    Registry next ∧ OpenResult st outcome uri next ret := by
  obtain ⟨same, failed, refused⟩ | ⟨opened, succeeded, opens⟩ :=
    openEndpoint_cases (withEndpoint dtblTable st outcome.desc type) outcome type st.cores.next path
  · rw [if_pos failed, same] at returned
    obtain ⟨closed, unregistered, returned⟩ := bind_ok returned
    obtain ⟨rfl, rfl⟩ := Prod.mk.inj (Except.ok.inj returned)
    obtain ⟨kept, undone⟩ := registry.backendRefused type given unregistered
    refine ⟨kept, .inl ⟨rfl, undone, fun loop => ?_⟩⟩
    obtain ⟨loopPath, found, -, -, loopOpens⟩ := loop
    obtain ⟨rfl, rfl⟩ := Prod.mk.inj (Option.some.inj (parsed.symm.trans found))
    exact refused rfl loopOpens
  · rw [if_neg (not_not.mpr succeeded), opened] at returned
    obtain ⟨rfl, rfl⟩ := Prod.mk.inj (Except.ok.inj returned)
    obtain ⟨id, named, unused, entries, -⟩ := withEndpoint_entries registry type given
    have core : (withEndpoint dtblTable st outcome.desc type).cores.get st.cores.next = some ⟨id, -1, type, none⟩ := by
      rw [withEndpoint_new, named]
    have others : ∀ ep, ep ≠ st.cores.next →
        (withEndpoint dtblTable st outcome.desc type).cores.get ep = st.cores.get ep :=
      fun ep differ => by rw [withEndpoint_get, if_neg differ]
    refine ⟨(registry.opened type given).withLoops fun lo member => ?_, .inr ⟨type, path, id, named, parsed,
      ⟨rfl, core, others, rfl, rfl, unused, entries⟩, fun isLoop => ?_⟩⟩
    · obtain old | new := List.mem_append.mp member
      · exact Nat.lt_succ_of_lt (registry.loops lo old)
      · unfold newLoops at new
        split at new
        next =>
          obtain rfl := List.mem_singleton.mp new
          exact Nat.lt_succ_self _
        next => nomatch new
    · subst isLoop
      exact ⟨path, parsed, allocated, given, opens rfl⟩

theorem rteipcOpen_ok (registry : Registry st) (returned : rteipcOpen dtblTable st outcome uri = .ok (next, ret)) :
    Registry next ∧ OpenResult st outcome uri next ret := by
  have unchanged : ¬OpensLoop st outcome uri → (.ok (st, -1) : Except Fault (EpState (Dtbl EpPtr) Cb Arg × Int)) =
      .ok (next, ret) → Registry next ∧ OpenResult st outcome uri next ret := by
    intro opens same
    obtain ⟨rfl, rfl⟩ := Prod.mk.inj (Except.ok.inj same)
    refine ⟨registry, .inl ⟨rfl, ⟨Nat.le_refl _, fun _ => rfl, rfl, rfl, [], ?_, List.forall_mem_nil _⟩, opens⟩⟩
    exact (List.append_nil _).symm
  by_cases long : (scanUri uri).1.length > 15
  · rw [rteipcOpen, if_pos long] at returned
    cases returned
  cases parsed : parseUri uri with
  | none =>
      simp only [rteipcOpen, if_neg long, parsed] at returned
      refine unchanged (fun opens => ?_) returned
      obtain ⟨path, found, -⟩ := opens
      cases parsed.symm.trans found
  | some target =>
      obtain ⟨type, path⟩ := target
      cases allocated : outcome.core with
      | false =>
          simp only [rteipcOpen, if_neg long, parsed, allocated] at returned
          refine unchanged (fun opens => ?_) returned
          obtain ⟨_, -, core, -⟩ := opens
          cases allocated.symm.trans core
      | true =>
          by_cases negative : (dtblTable.set outcome.desc st.epTbl st.cores.next).2 < 0
          · rw [rteipcOpen_refused long parsed allocated negative] at returned
            obtain ⟨rfl, rfl⟩ := Prod.mk.inj (Except.ok.inj returned)
            obtain ⟨kept, refused⟩ := registry.refused type negative
            refine ⟨kept, .inl ⟨rfl, refused, fun opens => ?_⟩⟩
            obtain ⟨_, -, -, given, -⟩ := opens
            exact Int.not_lt.mpr given negative
          · rw [rteipcOpen_registered long parsed allocated negative] at returned
            exact rteipcOpen_registered_ok registry parsed allocated (Int.not_lt.mp negative) returned

end Opening

/-! ## What was there before some endpoints -/

/-- All that was there is as it was, and what is new is not bound. -/
structure Grows (st next : EpState (Dtbl EpPtr) Cb Arg) : Prop where
  fresh : st.cores.next ≤ next.cores.next
  cores : ∀ ep, ep < st.cores.next → next.cores.get ep = st.cores.get ep
  bevs : next.bevs = st.bevs
  idle : ∀ ep core, st.cores.next ≤ ep → next.cores.get ep = some core → core.bev = none
  entries : ∃ more, next.epTbl.entryList = st.epTbl.entryList ++ more ∧
    ∀ entry ∈ more, ∀ ep, entry.value = some ep → st.cores.next ≤ ep

section Grows

variable {last : EpState (Dtbl EpPtr) Cb Arg} {id : Int} {ep : EpPtr}

theorem Grows.refl (st : EpState (Dtbl EpPtr) Cb Arg) : Grows st st := by
  refine ⟨Nat.le_refl _, fun _ _ => rfl, rfl, fun ep core above live => ?_, [], (List.append_nil _).symm, nofun⟩
  exact nomatch (st.cores.fresh ep above).symm.trans live

theorem Grows.trans (first : Grows st next) (second : Grows next last) : Grows st last := by
  obtain ⟨more, entries, new⟩ := first.entries
  obtain ⟨later, laterEntries, laterNew⟩ := second.entries
  refine ⟨Nat.le_trans first.fresh second.fresh, fun ep old => ?_, second.bevs.trans first.bevs,
    fun ep core above live => ?_, more ++ later, ?_, fun entry member ep value => ?_⟩
  · rw [second.cores ep (Nat.lt_of_lt_of_le old first.fresh), first.cores ep old]
  · by_cases old : ep < next.cores.next
    · rw [second.cores ep old] at live
      exact first.idle ep core above live
    · exact second.idle ep core (Nat.not_lt.mp old) live
  · rw [laterEntries, entries, List.append_assoc]
  · obtain early | late := List.mem_append.mp member
    · exact new entry early ep value
    · exact Nat.le_trans first.fresh (laterNew entry late ep value)

theorem Grows.holds (grows : Grows st next) (held : Holds st.epTbl id ep) : Holds next.epTbl id ep := by
  obtain ⟨more, entries, -⟩ := grows.entries
  obtain ⟨entry, member, named, value⟩ := held
  exact ⟨entry, entries ▸ List.mem_append_left more member, named, value⟩

theorem Grows.held_old (grows : Grows st next) (held : Holds next.epTbl id ep) (old : ep < st.cores.next) :
    Holds st.epTbl id ep := by
  obtain ⟨more, entries, new⟩ := grows.entries
  obtain ⟨entry, member, named, value⟩ := held
  rw [entries] at member
  obtain early | late := List.mem_append.mp member
  · exact ⟨entry, early, named, value⟩
  · exact (Nat.not_le.mpr old (new entry late ep value)).elim

theorem Grows.dtblGet (grows : Grows st next) (found : dtblGet st.epTbl id = some ep) :
    dtblGet next.epTbl id = some ep := by
  obtain ⟨more, entries, -⟩ := grows.entries
  obtain ⟨entry, first, value⟩ := Option.bind_eq_some_iff.mp found
  rw [Rteipc.dtblGet, entries, List.find?_append, first]
  exact value

theorem Refused.grows (refused : Refused st next) : Grows st next := by
  obtain ⟨more, entries, new⟩ := refused.entries
  refine ⟨refused.fresh, fun ep _ => refused.cores ep, refused.bevs, fun ep core above live => ?_, more, entries,
    fun entry member ep value => ?_⟩
  · rw [refused.cores] at live
    exact nomatch (st.cores.fresh ep above).symm.trans live
  · exact Nat.le_of_eq (Option.some.inj ((new entry member).symm.trans value))

theorem Opened.grows {outcome : OpenOutcome} {type : EpType} {path : List UInt8} {desc : Nat}
    (opened : Opened st outcome type path desc next) : Grows st next := by
  refine ⟨?_, fun ep old => opened.others ep (Nat.ne_of_lt old), opened.bevs, fun ep core above live => ?_, _,
    opened.entries, fun entry member ep value => ?_⟩
  · rw [opened.fresh]
    exact Nat.le_succ _
  · by_cases isNew : ep = st.cores.next
    · rw [isNew, opened.core] at live
      obtain rfl := Option.some.inj live
      rfl
    · rw [opened.others ep isNew] at live
      exact nomatch (st.cores.fresh ep above).symm.trans live
  · split at member
    next =>
      obtain rfl := List.mem_singleton.mp member
      exact Nat.le_of_eq (Option.some.inj value)
    next => nomatch member

theorem OpenResult.grows {outcome : OpenOutcome} {uri : List UInt8} {ret : Int}
    (result : OpenResult st outcome uri next ret) : Grows st next := by
  obtain ⟨-, refused, -⟩ | ⟨_, _, _, -, -, opened, -⟩ := result
  · exact refused.grows
  · exact opened.grows

theorem Grows.closed (grows : Grows st next) (returned : rteipcClose dtblTable next id = .ok last)
    (new : ∀ ep core, Rteipc.dtblGet next.epTbl id = some ep → next.cores.get ep = some core → st.cores.next ≤ ep) :
    Grows st last := by
  obtain ⟨-, rfl⟩ | ⟨ep, core, found, live, closed⟩ := rteipcClose_ok returned
  · exact grows
  have above := new ep core found live
  rw [closeEndpoint_eq] at closed
  obtain ⟨sameBevs, sameCores⟩ := closed.idle (grows.idle ep core above live)
  have entries : last.epTbl.entryList = next.epTbl.entryList := by
    rw [closed.epTbl]
    exact dtblDel_entryList core.id
  refine ⟨?_, fun other old => ?_, sameBevs.trans grows.bevs, fun other peer otherAbove otherLive => ?_, ?_⟩
  · rw [closed.fresh]
    exact grows.fresh
  · rw [sameCores other (Nat.ne_of_lt (Nat.lt_of_lt_of_le old above))]
    exact grows.cores other old
  · obtain ⟨differ, -⟩ := closed.core otherLive
    rw [sameCores other differ] at otherLive
    exact grows.idle other peer otherAbove otherLive
  · rw [entries]
    exact grows.entries

end Grows

theorem rteipcClose_loops {id : Int} (returned : rteipcClose dtblTable st id = .ok next) {lo : Loop Cb Arg} :
    (lo ∈ next.loList → lo ∈ st.loList ∧
        ∀ core, dtblGet st.epTbl id = some lo.self → st.cores.get lo.self = some core → core.type ≠ .loop) ∧
      (lo ∈ st.loList → (dtblGet st.epTbl id = some lo.self → st.cores.get lo.self = none) → lo ∈ next.loList) := by
  obtain ⟨missing, rfl⟩ | ⟨ep, core, found, live, closed⟩ := rteipcClose_ok returned
  · exact ⟨fun member => ⟨member, fun core found => nomatch missing.symm.trans found⟩, fun member _ => member⟩
  rw [closeEndpoint_eq] at closed
  have loops := closed.loList
  refine ⟨fun member => ?_, fun member dead => ?_⟩
  · rw [loops] at member
    split at member
    next =>
      obtain ⟨kept, differ⟩ := List.mem_filter.mp member
      refine ⟨kept, fun core' found' => ?_⟩
      exact (of_decide_eq_true differ (Option.some.inj (found'.symm.trans found))).elim
    next notLoop =>
      refine ⟨member, fun core' found' live' => ?_⟩
      have same : lo.self = ep := Option.some.inj (found'.symm.trans found)
      rw [same, live] at live'
      obtain rfl := Option.some.inj live'
      exact notLoop
  · rw [loops]
    split
    next =>
      refine List.mem_filter.mpr ⟨member, decide_eq_true fun same => ?_⟩
      rw [same] at dead
      exact nomatch (dead found).symm.trans live
    next => exact member

end Rteipc
