import Rteipc.Endpoint.Registry
import Rteipc.Rtemgrd

namespace Rteipc

/-! What a failed `iface_build` and the `iface_free` after it leave of the two
openings and of the callback registered in between. -/

open Data

abbrev Lib := EpState (Dtbl EpPtr) DaemonCb IfacePtr

variable {st lib next : Lib} {id : Int} {iface : IfacePtr}

/-! ## Names of loops -/

theorem lookupLo_append {first second : List (Loop DaemonCb IfacePtr)} {name : List UInt8} :
    lookupLo (first ++ second) name = (lookupLo first name).or (lookupLo second name) := List.find?_append

theorem lookupLo_singleton {node lo : Loop DaemonCb IfacePtr} {name : List UInt8}
    (named : lookupLo [node] name = some lo) : node.name = name ∧ lo = node := by
  rw [lookupLo, List.find?_singleton] at named
  split at named
  next same => exact ⟨of_decide_eq_true same, (Option.some.inj named).symm⟩
  next => nomatch named

/-! ## Closing what is new -/

/-- Whatever live endpoint the id finds, it is new since `st`. -/
def FindsNew (st lib : Lib) (id : Int) : Prop :=
  ∀ ep core, dtblGet lib.epTbl id = some ep → lib.cores.get ep = some core → st.cores.next ≤ ep

/-- An id that was free when the endpoints were as in `st` finds only new ones. -/
theorem Grows.findsNew {middle : Lib} (registry : Registry middle) {number : Nat}
    (unused : dtblUsed middle.epTbl number = false) (before : Grows st middle) (after : Grows st lib) :
    FindsNew st lib number := by
  intro ep core found live
  refine Nat.not_lt.mp fun old => ?_
  have held := before.holds (after.held_old (dtblGet_holds found) old)
  rw [after.cores ep old, ← before.cores ep old] at live
  exact nomatch (registry.unheld unused held).symm.trans live

theorem closeIfOpen_grows (grows : Grows st lib) (new : 0 ≤ id → FindsNew st lib id)
    (returned : closeIfOpen dtblTable lib id = .ok next) : Grows st next := by
  unfold closeIfOpen at returned
  split at returned
  next isOpen => exact grows.closed returned (new isOpen)
  next =>
    obtain rfl := Except.ok.inj returned
    exact grows

theorem closeIfOpen_entries (returned : closeIfOpen dtblTable lib id = .ok next) :
    next.epTbl.entryList = lib.epTbl.entryList := by
  unfold closeIfOpen at returned
  split at returned
  next =>
    obtain ⟨-, rfl⟩ | ⟨ep, core, -, -, closed⟩ := rteipcClose_ok returned
    · rfl
    · rw [closed.epTbl, dtblDel_entryList, closeEndpoint_eq]
  next =>
    obtain rfl := Except.ok.inj returned
    rfl

theorem closeIfOpen_loops (returned : closeIfOpen dtblTable lib id = .ok next) {lo : Loop DaemonCb IfacePtr} :
    (lo ∈ next.loList → lo ∈ lib.loList) ∧
      (lo ∈ lib.loList → (0 ≤ id → dtblGet lib.epTbl id = some lo.self → lib.cores.get lo.self = none) →
        lo ∈ next.loList) := by
  unfold closeIfOpen at returned
  split at returned
  next isOpen =>
    obtain ⟨fewer, kept⟩ := rteipcClose_loops returned
    exact ⟨fun member => (fewer member).1, fun member dead => kept member (dead isOpen)⟩
  next =>
    obtain rfl := Except.ok.inj returned
    exact ⟨fun member => member, fun member _ => member⟩

theorem closeIfOpen_old (new : 0 ≤ id → FindsNew st lib id) (returned : closeIfOpen dtblTable lib id = .ok next)
    {lo : Loop DaemonCb IfacePtr} (old : lo.self < st.cores.next) (member : lo ∈ lib.loList) : lo ∈ next.loList := by
  refine (closeIfOpen_loops returned).2 member fun isOpen found => ?_
  cases live : lib.cores.get lo.self with
  | none => rfl
  | some core => exact (Nat.not_le.mpr old (new isOpen _ _ found live)).elim

theorem closeIfOpen_registry (registry : Registry lib) (returned : closeIfOpen dtblTable lib id = .ok next) :
    Registry next := by
  unfold closeIfOpen at returned
  split at returned
  next => exact registry.closed returned
  next =>
    obtain rfl := Except.ok.inj returned
    exact registry

/-! ## A new loop -/

/-- A loop endpoint under an id, stored in the table or not. -/
structure NewLoop (lib : Lib) (id : Int) (ep : EpPtr) (stored : Bool) : Prop where
  opened : 0 ≤ id
  live : ∃ core, lib.cores.get ep = some core ∧ core.type = .loop
  held : stored = true → Holds lib.epTbl id ep
  unheld : stored = false → ∀ other, ¬Holds lib.epTbl other ep

/-- Closing the id takes the loop away exactly when the endpoint was stored. -/
theorem NewLoop.closed {ep : EpPtr} {stored : Bool} (loop : NewLoop lib id ep stored) (registry : Registry lib)
    (returned : closeIfOpen dtblTable lib id = .ok next) {lo : Loop DaemonCb IfacePtr} (named : lo.self = ep)
    (member : lo ∈ lib.loList) : lo ∈ next.loList ↔ stored = false := by
  obtain ⟨core, live, isLoop⟩ := loop.live
  cases isStored : stored with
  | false =>
      refine iff_of_true ((closeIfOpen_loops returned).2 member fun _ found => ?_) rfl
      rw [named] at found
      exact (loop.unheld isStored id (dtblGet_holds found)).elim
  | true =>
      refine iff_of_false (fun kept => ?_) Bool.noConfusion
      rw [closeIfOpen, if_pos loop.opened] at returned
      have held := loop.held isStored
      obtain ⟨first, found⟩ := registry.found held
      obtain ⟨missing, -⟩ | ⟨other, peer, foundOther, otherLive, -⟩ := rteipcClose_ok returned
      · exact nomatch missing.symm.trans found
      · have same : other = ep :=
          registry.single id other ep peer core (dtblGet_holds foundOther) held otherLive live
        rw [same, ← named] at foundOther
        rw [← named] at live
        exact ((rteipcClose_loops returned).1 kept).2 core foundOther live isLoop

/-! ## A failed build -/

/-- `rteipc_open` leaves a loop whose descriptor finds nothing, for want of an entry. -/
def Orphans (st : Lib) (outcome : OpenOutcome) (name : List UInt8) : Prop :=
  OpensLoop st outcome name ∧ outcome.desc.entry = false

/-- The loops of `st` have the callbacks they had, and none refers to the interface. -/
def LoopsKept (st final : Lib) (iface : IfacePtr) : Prop :=
  (∀ lo ∈ st.loList, lo ∈ final.loList) ∧ ∀ lo ∈ final.loList, lo.arg ≠ some iface

def calledLoops (lib : Lib) (lo : Loop DaemonCb IfacePtr) (iface : IfacePtr) : Lib :=
  { lib with loList := lib.loList.map fun node =>
      if node.self = lo.self then { node with cb := some .defaultDomainHandler, arg := some iface } else node }

theorem xferSetcb_cases (lib : Lib) (name : List UInt8) (iface : IfacePtr) :
    lookupLo lib.loList name = none ∧
        (rteipcXferSetcb lib name (some .defaultDomainHandler) (some iface)).1 = lib ∨
      ∃ lo, lookupLo lib.loList name = some lo ∧
        (rteipcXferSetcb lib name (some .defaultDomainHandler) (some iface)).1 = calledLoops lib lo iface := by
  unfold rteipcXferSetcb
  cases lookupLo lib.loList name with
  | none => exact .inl ⟨rfl, rfl⟩
  | some lo => exact .inr ⟨lo, rfl, rfl⟩

theorem calledLoops_grows {lo : Loop DaemonCb IfacePtr} (grows : Grows st lib) :
    Grows st (calledLoops lib lo iface) :=
  ⟨grows.fresh, grows.cores, grows.bevs, grows.idle, grows.entries⟩

theorem calledLoops_registry {lo : Loop DaemonCb IfacePtr} (registry : Registry lib) :
    Registry (calledLoops lib lo iface) := by
  refine registry.withLoops fun node member => ?_
  obtain ⟨before, old, rfl⟩ := List.mem_map.mp member
  split
  next => exact registry.loops before old
  next => exact registry.loops before old

theorem calledLoops_mem (iface : IfacePtr) {lo : Loop DaemonCb IfacePtr} (member : lo ∈ lib.loList) :
    ∃ node ∈ (calledLoops lib lo iface).loList, node.self = lo.self ∧ node.arg = some iface :=
  ⟨_, List.mem_map.mpr ⟨lo, member, if_pos rfl⟩, rfl, rfl⟩

/-! ### What the openings leave for it -/

section Result

variable {outcome : OpenOutcome} {uri : List UInt8} {ret : Int}

theorem OpenResult.loops (result : OpenResult st outcome uri next ret) (short : uri.length ≤ 128) :
    next.loList = st.loList ∧ ¬OpensLoop st outcome uri ∨
      next.loList = st.loList ++ [⟨st.cores.next, uri, none, none⟩] ∧ OpensLoop st outcome uri ∧
        ∃ id : Nat, ret = id ∧ Opened st outcome .loop uri id next := by
  obtain ⟨-, refused, opens⟩ | ⟨type, path, id, named, parsed, opened, opens⟩ := result
  · exact .inl ⟨refused.loList, opens⟩
  · by_cases isLoop : type = .loop
    · subst isLoop
      obtain rfl : path = uri := (parseUri_loop parsed).trans (List.take_of_length_le short)
      exact .inr ⟨opened.loList.trans (by rw [newLoops, if_pos rfl]), opens rfl, id, named, opened⟩
    · refine .inl ⟨opened.loList.trans ?_, fun other => ?_⟩
      · rw [newLoops, if_neg isLoop, List.append_nil]
      · obtain ⟨_, found, -⟩ := other
        exact isLoop (Prod.mk.inj (Option.some.inj (parsed.symm.trans found))).1

theorem OpenResult.added (result : OpenResult st outcome uri next ret) (short : uri.length ≤ 128) :
    ∃ more, next.loList = st.loList ++ more ∧ ∀ lo ∈ more, lo.arg = none := by
  obtain ⟨same, -⟩ | ⟨added, -⟩ := result.loops short
  · exact ⟨[], by rw [same, List.append_nil], nofun⟩
  · refine ⟨_, added, fun lo member => ?_⟩
    rw [List.mem_singleton.mp member]

theorem OpenResult.named (result : OpenResult st outcome uri next ret) (short : uri.length ≤ 128)
    (opens : OpensLoop st outcome uri) : (lookupLo next.loList uri).isSome := by
  obtain ⟨-, not⟩ | ⟨added, -⟩ := result.loops short
  · exact (not opens).elim
  · rw [added, lookupLo_append, Option.isSome_or]
    simp [lookupLo]

theorem not_opensLoop (short : uri.length ≤ 128) (taken : (lookupLo st.loList uri).isSome) :
    ¬OpensLoop st outcome uri := by
  intro opens
  obtain ⟨path, parsed, -, -, -, -, unnamed, -⟩ := opens
  obtain rfl : path = uri := (parseUri_loop parsed).trans (List.take_of_length_le short)
  rw [unnamed] at taken
  nomatch taken

/-- The first opening fails where the second one opens a loop of the same name. -/
theorem OpenResult.failed {middle : Lib} {other : OpenOutcome} (result : OpenResult st outcome uri next ret)
    (opens : OpensLoop middle other uri) (not : ¬OpensLoop st outcome uri) : ret = -1 := by
  obtain ⟨failed, -⟩ | ⟨type, path, id, -, parsed, -, loop⟩ := result
  · exact failed
  · obtain ⟨_, found, -⟩ := opens
    exact (not (loop (Prod.mk.inj (Option.some.inj (parsed.symm.trans found))).1)).elim

theorem OpenResult.findsNew {middle : Lib} (result : OpenResult middle outcome uri next ret)
    (registry : Registry middle) (before : Grows st middle) (after : Grows st lib) (given : 0 ≤ ret) :
    FindsNew st lib ret := by
  obtain ⟨rfl, -⟩ | ⟨_, _, id, rfl, -, opened, -⟩ := result
  · nomatch given
  · exact before.findsNew registry opened.unused after

theorem Opened.newLoop {path : List UInt8} {number : Nat} (opened : Opened st outcome .loop path number next)
    (registry : Registry st) (after : Grows next lib) : NewLoop lib number st.cores.next outcome.desc.entry where
  opened := Int.natCast_nonneg number
  live := by
    rw [after.cores st.cores.next (by rw [opened.fresh]; exact Nat.lt_succ_self _), opened.core]
    exact ⟨_, rfl, rfl⟩
  held stored := by
    refine after.holds ⟨⟨number, some st.cores.next⟩, ?_, rfl, rfl⟩
    rw [opened.entries, stored, if_pos rfl]
    exact List.mem_append_right _ (List.mem_singleton_self _)
  unheld lost other held := by
    have old := after.held_old held (by rw [opened.fresh]; exact Nat.lt_succ_self _)
    unfold Holds at old
    rw [opened.entries, lost, if_neg Bool.false_ne_true, List.append_nil] at old
    exact (Nat.lt_irrefl _ (registry.known other _ old)).elim

end Result

/-! ### What is left -/

section Undone

variable {both closed final : Lib} {ep : Int} {lo : Loop DaemonCb IfacePtr}

theorem loopsKept_old (first : closeIfOpen dtblTable (calledLoops both lo iface) id = .ok closed)
    (second : closeIfOpen dtblTable closed ep = .ok final)
    (firstNew : 0 ≤ id → FindsNew st (calledLoops both lo iface) id) (secondNew : 0 ≤ ep → FindsNew st closed ep)
    (member : lo ∈ both.loList) (old : lo.self < st.cores.next) : ¬LoopsKept st final iface := by
  obtain ⟨node, called, same, isArg⟩ := calledLoops_mem iface member
  rw [← same] at old
  have kept := closeIfOpen_old secondNew second old (closeIfOpen_old firstNew first old called)
  exact fun loops => loops.2 node kept isArg

/-- One registered with a new loop stays just as long as the loop. -/
theorem loopsKept_new (first : closeIfOpen dtblTable (calledLoops both lo iface) id = .ok closed)
    (second : closeIfOpen dtblTable closed ep = .ok final)
    (firstNew : 0 ≤ id → FindsNew st (calledLoops both lo iface) id) (secondNew : 0 ≤ ep → FindsNew st closed ep)
    (registry : Registry st) (member : lo ∈ both.loList) (new : st.cores.next ≤ lo.self)
    (olds : ∀ node ∈ st.loList, node ∈ both.loList) (unused : ∀ node ∈ both.loList, node.arg ≠ some iface)
    {stored : Bool} (stays : ∀ node ∈ (calledLoops both lo iface).loList, node.self = lo.self →
      (node ∈ final.loList ↔ stored = false)) : LoopsKept st final iface ↔ ¬stored = false := by
  refine ⟨fun kept lost => ?_, fun taken => ⟨fun node old => ?_, fun node left isArg => ?_⟩⟩
  · obtain ⟨node, called, same, isArg⟩ := calledLoops_mem iface member
    exact kept.2 node ((stays node called same).mpr lost) isArg
  · have below := registry.loops node old
    have called : node ∈ (calledLoops both lo iface).loList :=
      List.mem_map.mpr ⟨node, olds node old, if_neg (Nat.ne_of_lt (Nat.lt_of_lt_of_le below new))⟩
    exact closeIfOpen_old secondNew second below (closeIfOpen_old firstNew first below called)
  · have called := (closeIfOpen_loops first).1 ((closeIfOpen_loops second).1 left)
    obtain ⟨before, there, changed⟩ := List.mem_map.mp called
    split at changed
    next same =>
      subst changed
      exact taken ((stays _ called same).mp left)
    next =>
      subst changed
      exact unused before there isArg

section Failed

variable {opened : Lib} {idOutcome epOutcome : OpenOutcome} {name uri : List UInt8}

theorem rolledBack_grows (registry : Registry st) (openedRegistry : Registry opened)
    (idResult : OpenResult st idOutcome name opened id) (epResult : OpenResult opened epOutcome uri both ep)
    (called : Grows both lib) (first : closeIfOpen dtblTable lib id = .ok closed)
    (second : closeIfOpen dtblTable closed ep = .ok final) :
    (0 ≤ id → FindsNew st lib id) ∧ (0 ≤ ep → FindsNew st closed ep) ∧ Grows st final := by
  have beforeCall := idResult.grows.trans epResult.grows
  have firstNew := idResult.findsNew registry (.refl st) (beforeCall.trans called)
  have closedGrows := closeIfOpen_grows (beforeCall.trans called) firstNew first
  have secondNew := epResult.findsNew openedRegistry idResult.grows closedGrows
  exact ⟨firstNew, secondNew, closeIfOpen_grows closedGrows secondNew second⟩

theorem rolledBack_first {number : Nat} (registry : Registry st) (bothRegistry : Registry both)
    (idOpened : Opened st idOutcome .loop name number opened) (epResult : OpenResult opened epOutcome uri both ep)
    (self : lo.self = st.cores.next) (first : closeIfOpen dtblTable (calledLoops both lo iface) number = .ok closed)
    (second : closeIfOpen dtblTable closed ep = .ok final) {node : Loop DaemonCb IfacePtr}
    (member : node ∈ (calledLoops both lo iface).loList) (same : node.self = lo.self) :
    node ∈ final.loList ↔ idOutcome.desc.entry = false := by
  have loop : NewLoop (calledLoops both lo iface) number st.cores.next idOutcome.desc.entry :=
    idOpened.newLoop registry (calledLoops_grows epResult.grows)
  have named := same.trans self
  have stays := loop.closed (calledLoops_registry bothRegistry) first named member
  refine ⟨fun left => stays.mp ((closeIfOpen_loops second).1 left), fun lost => ?_⟩
  refine (closeIfOpen_loops second).2 (stays.mpr lost) fun _ found => ?_
  have held := dtblGet_holds found
  unfold Holds at held
  rw [closeIfOpen_entries first, named] at held
  exact (loop.unheld lost ep held).elim

/-- The loop of the second opening, when the first has failed. -/
theorem rolledBack_second {number : Nat} (openedRegistry : Registry opened) (bothRegistry : Registry both)
    (epOpened : Opened opened epOutcome .loop uri number both) (self : lo.self = opened.cores.next)
    (first : closeIfOpen dtblTable (calledLoops both lo iface) (-1) = .ok closed)
    (second : closeIfOpen dtblTable closed number = .ok final) {node : Loop DaemonCb IfacePtr}
    (member : node ∈ (calledLoops both lo iface).loList) (same : node.self = lo.self) :
    node ∈ final.loList ↔ epOutcome.desc.entry = false := by
  have loop : NewLoop (calledLoops both lo iface) number opened.cores.next epOutcome.desc.entry :=
    epOpened.newLoop openedRegistry (calledLoops_grows (.refl both))
  obtain rfl := Except.ok.inj first
  exact loop.closed (calledLoops_registry bothRegistry) second (same.trans self) member

/-- A failed build and its undoing leave the loops' callbacks alone exactly when
the name was free, and no loop of that name was opened without an entry. -/
theorem rolledBack_iff (registry : Registry st) (unused : ∀ lo ∈ st.loList, lo.arg ≠ some iface)
    (nameShort : name.length ≤ 128) (uriShort : uri.length ≤ 128)
    (idOpened : rteipcOpen dtblTable st idOutcome name = .ok (opened, id))
    (epOpened : rteipcOpen dtblTable opened epOutcome uri = .ok (both, ep))
    (first : closeIfOpen dtblTable (rteipcXferSetcb both name (some .defaultDomainHandler) (some iface)).1 id = .ok closed)
    (second : closeIfOpen dtblTable closed ep = .ok final) :
    Grows st final ∧
      (LoopsKept st final iface ↔ lookupLo st.loList name = none ∧ ¬Orphans st idOutcome name ∧
        (uri = name → ¬Orphans opened epOutcome name)) := by
  obtain ⟨openedRegistry, idResult⟩ := rteipcOpen_ok registry idOpened
  obtain ⟨bothRegistry, epResult⟩ := rteipcOpen_ok openedRegistry epOpened
  obtain ⟨idMore, idAdded, idUnused⟩ := idResult.added nameShort
  obtain ⟨epMore, epAdded, epUnused⟩ := epResult.added uriShort
  have added : both.loList = st.loList ++ (idMore ++ epMore) := by rw [epAdded, idAdded, List.append_assoc]
  have olds : ∀ node ∈ st.loList, node ∈ both.loList := fun node old => added ▸ List.mem_append_left _ old
  have uncalled : ∀ node ∈ both.loList, node.arg ≠ some iface := by
    intro node member isArg
    rw [added] at member
    obtain old | new := List.mem_append.mp member
    · exact unused node old isArg
    · obtain new | new := List.mem_append.mp new
      · exact nomatch (idUnused node new).symm.trans isArg
      · exact nomatch (epUnused node new).symm.trans isArg
  obtain ⟨unnamed, same⟩ | ⟨lo, named, called⟩ := xferSetcb_cases both name iface
  · rw [same] at first
    obtain ⟨firstNew, secondNew, grows⟩ :=
      rolledBack_grows registry openedRegistry idResult epResult (.refl both) first second
    have kept : LoopsKept st final iface := by
      refine ⟨fun node old => ?_, fun node left => ?_⟩
      · have below := registry.loops node old
        exact closeIfOpen_old secondNew second below (closeIfOpen_old firstNew first below (olds node old))
      · exact uncalled node ((closeIfOpen_loops first).1 ((closeIfOpen_loops second).1 left))
    refine ⟨grows, iff_of_true kept ⟨?_, fun orphans => ?_, fun same orphans => ?_⟩⟩
    · rw [added, lookupLo_append, Option.or_eq_none_iff] at unnamed
      exact unnamed.1
    · have found := idResult.named nameShort orphans.1
      rw [epAdded, lookupLo_append, Option.or_eq_none_iff] at unnamed
      rw [unnamed.1] at found
      nomatch found
    · subst same
      have found := epResult.named uriShort orphans.1
      rw [unnamed] at found
      nomatch found
  · rw [called] at first
    obtain ⟨firstNew, secondNew, grows⟩ :=
      rolledBack_grows registry openedRegistry idResult epResult (calledLoops_grows (.refl both)) first second
    refine ⟨grows, ?_⟩
    have member := List.mem_of_find?_eq_some named
    have decided : ∀ {stored : Bool}, st.cores.next ≤ lo.self → (∀ node ∈ (calledLoops both lo iface).loList,
        node.self = lo.self → (node ∈ final.loList ↔ stored = false)) →
        (LoopsKept st final iface ↔ ¬stored = false) := fun new stays =>
      loopsKept_new first second firstNew secondNew registry member new olds uncalled stays
    cases old : lookupLo st.loList name with
    | some node =>
        rw [added, lookupLo_append, old, Option.some_or] at named
        obtain rfl := Option.some.inj named
        have below := registry.loops node (List.mem_of_find?_eq_some old)
        exact iff_of_false (loopsKept_old first second firstNew secondNew member below) fun free => nomatch free.1
    | none =>
        rw [eq_self_iff_true, true_and]
        obtain ⟨idSame, notOpened⟩ | ⟨idLoop, opens, number, rfl, made⟩ := idResult.loops nameShort
        · obtain ⟨epSame, -⟩ | ⟨epLoop, opens, number, rfl, made⟩ := epResult.loops uriShort
          · rw [epSame, idSame, old] at named
            nomatch named
          · rw [epLoop, idSame, lookupLo_append, old, Option.none_or] at named
            obtain ⟨rfl, rfl⟩ := lookupLo_singleton named
            obtain rfl := idResult.failed opens notOpened
            have stays := decided idResult.grows.fresh fun node called same =>
              rolledBack_second openedRegistry bothRegistry made rfl first second called same
            rw [stays]
            refine ⟨fun stored => ⟨fun orphans => notOpened orphans.1, fun _ orphans => stored orphans.2⟩, ?_⟩
            exact fun free lost => free.2 rfl ⟨opens, lost⟩
        · rw [epAdded, idLoop, lookupLo_append, lookupLo_append, old, Option.none_or] at named
          have taken : lookupLo [⟨st.cores.next, name, none, none⟩] name =
              some (⟨st.cores.next, name, none, none⟩ : Loop DaemonCb IfacePtr) := by simp [lookupLo]
          rw [taken, Option.some_or] at named
          obtain rfl := Option.some.inj named
          have stays := decided (Nat.le_refl _) fun node called same =>
            rolledBack_first registry bothRegistry made epResult rfl first second called same
          rw [stays]
          have again : ¬OpensLoop opened epOutcome name := by
            refine not_opensLoop nameShort ?_
            rw [idLoop, lookupLo_append, taken, Option.isSome_or]
            exact Bool.or_true _
          refine ⟨fun stored => ⟨fun orphans => stored orphans.2, fun _ orphans => again orphans.1⟩, ?_⟩
          exact fun free lost => free.1 ⟨opens, lost⟩

end Failed

end Undone

end Rteipc
