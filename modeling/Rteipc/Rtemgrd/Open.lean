import Rteipc.Rtemgrd.Rollback
import Rteipc.Rtemgrd.Steps

namespace Rteipc

/-! What opening and closing interfaces does to the descriptors and the loops of
the program's own table, and what a failed open command leaves behind. -/

open Data

/-- The callbacks refer to interfaces that were created before. -/
def ArgsBelow (lib : Lib) (bound : IfacePtr) : Prop := ∀ lo ∈ lib.loList, ∀ iface, lo.arg = some iface → iface < bound

/-- What holds in every state the daemon reaches. -/
structure DaemonInv (st : Daemon (Dtbl EpPtr)) : Prop where
  routes : RouteInv st
  registry : Registry st.lib
  args : ArgsBelow st.lib st.ifaces.next

theorem CharArray.text_length {size : Nat} (array : CharArray size) : array.text.length ≤ size := by
  have shorter : array.text.length ≤ array.bytes.length := (List.takeWhile_sublist _).length_le
  rwa [array.full] at shorter

theorem Transferred.sameIds {st next : Lib} (moved : Transferred st next) : SameIds st next := by
  refine ⟨moved.epTbl, moved.loList, ?_, fun ep => ?_⟩
  · rw [moved.cores]
  · rw [moved.cores]

section Library

variable {st next : Lib} {bound : IfacePtr}

theorem ArgsBelow.mono (args : ArgsBelow st bound) {above : IfacePtr} (more : bound ≤ above) : ArgsBelow st above :=
  fun lo member iface isArg => Nat.lt_of_lt_of_le (args lo member iface isArg) more

theorem ArgsBelow.fewer (args : ArgsBelow st bound) (fewer : ∀ lo ∈ next.loList, lo ∈ st.loList) :
    ArgsBelow next bound :=
  fun lo member => args lo (fewer lo member)

theorem SameIds.args (same : SameIds st next) (args : ArgsBelow st bound) : ArgsBelow next bound :=
  args.fewer fun _ member => same.loList ▸ member

theorem OpenResult.args {outcome : OpenOutcome} {uri : List UInt8} {ret : Int}
    (result : OpenResult st outcome uri next ret) (short : uri.length ≤ 128) (args : ArgsBelow st bound) :
    ArgsBelow next bound := by
  obtain ⟨more, added, unused⟩ := result.added short
  intro lo member iface isArg
  rw [added] at member
  rcases List.mem_append.mp member with old | new
  · exact args lo old iface isArg
  · exact nomatch (unused lo new).symm.trans isArg

theorem calledLoops_args {lo : Loop DaemonCb IfacePtr} {iface : IfacePtr} (args : ArgsBelow st bound)
    (below : iface < bound) : ArgsBelow (calledLoops st lo iface) bound := by
  intro node member other isArg
  obtain ⟨before, old, rfl⟩ := List.mem_map.mp member
  split at isArg
  next =>
    cases isArg
    exact below
  next => exact args before old other isArg

end Library

/-! ## Opening and closing -/

section Commands

variable {st next : Daemon (Dtbl EpPtr)} {iface : IfacePtr}

theorem uri_short (busType : BitVec 32) (path : List UInt8) : ((busToPrefix busType ++ path).take 127).length ≤ 128 := by
  rw [List.length_take]
  omega

theorem ifaceBuild_library {outcome : IfaceOutcome} {name path : List UInt8} {busType managed : BitVec 32} {ret : Int}
    {bound : IfacePtr} (returned : ifaceBuild dtblTable st outcome iface name path busType managed = .ok (next, ret))
    (registry : Registry st.lib) (args : ArgsBelow st.lib bound) (below : iface < bound) (short : name.length ≤ 128) :
    Registry next.lib ∧ ArgsBelow next.lib bound := by
  obtain ⟨opened, id, both, ep, lib, idOpened, epOpened, rfl, ended⟩ := ifaceBuild_ok returned
  obtain ⟨openedRegistry, idResult⟩ := rteipcOpen_ok registry idOpened
  obtain ⟨bothRegistry, epResult⟩ := rteipcOpen_ok openedRegistry epOpened
  have bothArgs := epResult.args (uri_short busType path) (idResult.args short args)
  have called : Registry (rteipcXferSetcb both name (some .defaultDomainHandler) (some iface)).1 ∧
      ArgsBelow (rteipcXferSetcb both name (some .defaultDomainHandler) (some iface)).1 bound := by
    obtain ⟨-, same⟩ | ⟨lo, -, same⟩ := xferSetcb_cases both name iface
    · rw [same]
      exact ⟨bothRegistry, bothArgs⟩
    · rw [same]
      exact ⟨calledLoops_registry bothRegistry, calledLoops_args bothArgs below⟩
  obtain ⟨-, -, rfl⟩ | ⟨-, bind, binding, -⟩ := ended
  · exact called
  · obtain ⟨same, -⟩ := rteipcBind_ok binding
    exact ⟨called.1.congr same, same.args called.2⟩

/-- A failed binding changes nothing, so a build that fails leaves what the
openings came to, whether it fails before or in `rteipc_bind`. -/
theorem ifaceBuild_failed {outcome : IfaceOutcome} {name path : List UInt8} {busType managed : BitVec 32} {failed : Int}
    (returned : ifaceBuild dtblTable st outcome iface name path busType managed = .ok (next, failed))
    (wrong : failed ≠ 0) :
    ∃ opened id both ep,
      rteipcOpen dtblTable st.lib outcome.id name = .ok (opened, id) ∧
        rteipcOpen dtblTable opened outcome.ep ((busToPrefix busType ++ path).take 127) = .ok (both, ep) ∧
        next =
          { st with
              lib := (rteipcXferSetcb both name (some .defaultDomainHandler) (some iface)).1
              ifaces := st.ifaces.modify iface fun self =>
                self.built id ep name ((busToPrefix busType ++ path).take 127) busType managed } := by
  obtain ⟨opened, id, both, ep, lib, idOpened, epOpened, rfl, ended⟩ := ifaceBuild_ok returned
  have called : lib = (rteipcXferSetcb both name (some .defaultDomainHandler) (some iface)).1 := by
    obtain ⟨-, -, called⟩ | ⟨-, bound, binding, ret⟩ := ended
    · exact called
    · apply (rteipcBind_ok binding).2
      apply Int.not_le.mp
      intro given
      rw [ret, if_neg (Int.not_lt.mpr given)] at wrong
      exact wrong rfl
  subst called
  exact ⟨opened, id, both, ep, idOpened, epOpened, rfl⟩

theorem ifaceFree_library {bound : IfacePtr} (registry : Registry st.lib) (args : ArgsBelow st.lib bound)
    (returned : ifaceFree dtblTable st iface = .ok next) :
    Registry next.lib ∧ ArgsBelow next.lib bound ∧ next.ifaces.next = st.ifaces.next := by
  obtain ⟨self, idClosed, lib, forgotten, -, first, second, forgot, rfl⟩ := ifaceFree_ok returned
  obtain ⟨_, ifaces, -, rfl, -⟩ := ifaceForget_ok forgot
  refine ⟨closeIfOpen_registry (closeIfOpen_registry registry first) second, args.fewer fun lo member => ?_,
    (ifaceForget_steady forgot).fresh⟩
  exact (closeIfOpen_loops first).1 ((closeIfOpen_loops second).1 member)

theorem doRtecmdClose_library {d : RtemgrData} {ret : Int} (registry : Registry st.lib)
    (args : ArgsBelow st.lib st.ifaces.next) (returned : doRtecmdClose dtblTable st d = .ok (next, ret)) :
    Registry next.lib ∧ ArgsBelow next.lib next.ifaces.next := by
  have start : Registry st.lib ∧ ArgsBelow st.lib st.ifaces.next := ⟨registry, args⟩
  apply closeInterfaces_keeps _ start (doRtecmdClose_ok returned)
  intro intf _ before after iface kept _ free
  obtain ⟨freedRegistry, freedArgs, fresh⟩ := ifaceFree_library kept.1 kept.2 free
  exact ⟨freedRegistry, fresh ▸ freedArgs⟩

theorem doRtecmdOpen_library {outcome : IfaceOutcome} {d : RtemgrData} {ret : Int} (registry : Registry st.lib)
    (args : ArgsBelow st.lib st.ifaces.next) (returned : doRtecmdOpen dtblTable st outcome d = .ok (next, ret)) :
    Registry next.lib ∧ ArgsBelow next.lib next.ifaces.next := by
  obtain ⟨rfl, -⟩ | ⟨intf, rest, domain, made, failed, -, -, -, -, build, ended⟩ := doRtecmdOpen_ok returned
  · exact ⟨registry, args⟩
  have short : intf.name.text.length ≤ 128 := Nat.le_trans intf.name.text_length (by decide)
  have grownArgs : ArgsBelow st.lib (st.ifaces.next + 1) := args.mono (Nat.le_succ _)
  obtain ⟨madeRegistry, madeArgs⟩ :=
    ifaceBuild_library build registry grownArgs (Nat.lt_succ_self _) short
  have fresh : made.ifaces.next = st.ifaces.next + 1 := by
    obtain ⟨_, _, _, _, _, -, -, rfl, -⟩ := ifaceBuild_ok build
    rfl
  obtain ⟨-, -, rfl⟩ | ⟨-, -, free⟩ := ended
  · exact ⟨madeRegistry, fresh ▸ madeArgs⟩
  · obtain ⟨freedRegistry, freedArgs, same⟩ := ifaceFree_library madeRegistry madeArgs free
    rw [same, fresh]
    exact ⟨freedRegistry, freedArgs⟩

end Commands

/-! ## The invariant of the daemon -/

section Invariant

variable {lib : PacketLib} {st next : Daemon (Dtbl EpPtr)} {msg : LoopMessage}

theorem DaemonInv.handled (inv : DaemonInv st) (handled : Handled dtblTable lib st msg next) : DaemonInv next := by
  have routes := inv.routes.handled handled
  obtain steady | ⟨d, ret, -, ⟨-, opened⟩ | ⟨-, closed⟩⟩ := handled.steady_or
  · have same := steady.lib.sameIds
    exact ⟨routes, inv.registry.congr same, steady.fresh ▸ same.args inv.args⟩
  · obtain ⟨registry, args⟩ := doRtecmdOpen_library inv.registry inv.args opened
    exact ⟨routes, registry, args⟩
  · obtain ⟨registry, args⟩ := doRtecmdClose_library inv.registry inv.args closed
    exact ⟨routes, registry, args⟩

theorem DaemonInv.step (inv : DaemonInv st) (taken : RtemgrdStep dtblTable lib st msg next) : DaemonInv next := by
  obtain ⟨middle, ep, handled, moved, rfl⟩ := taken.handled
  have kept := inv.handled handled
  have same := moved.sameIds
  exact ⟨(SameRoutes.of_lib middle ep).same_inv kept.routes, kept.registry.congr same, same.args kept.args⟩

theorem rtemgrd_inv {outcome : IfaceOutcome} {ret : Int} (started : rtemgrd dtblTable outcome = .ok (st, ret)) :
    DaemonInv st := by
  have routes := (rtemgrd_routes started).1
  obtain ⟨rfl, -⟩ | build := rtemgrd_ok started
  · exact ⟨routes, .start, nofun⟩
  · have nothing : ArgsBelow (EpState.start dtblTable) 1 := nofun
    obtain ⟨registry, args⟩ := ifaceBuild_library build .start nothing Nat.zero_lt_one (by decide)
    refine ⟨routes, registry, ?_⟩
    obtain ⟨_, _, _, _, _, -, -, rfl, -⟩ := ifaceBuild_ok build
    exact args

theorem DaemonInv.run (inv : DaemonInv st) {msgs : List LoopMessage}
    (run : Reaches (RtemgrdStep dtblTable lib) st msgs next) : DaemonInv next :=
  run.invariant (fun _ _ _ kept taken => kept.step taken) inv

end Invariant

/-! ## A failed open command -/

/-- All that was there is as it was, and no loop refers to the interface that
was created and freed. -/
structure OpenUndone (st next : Daemon (Dtbl EpPtr)) : Prop where
  lists : next.domainList = st.domainList
  ctrl : next.ctrlIface = st.ctrlIface
  ifaces : ∀ iface self, st.ifaces.get iface = some self → next.ifaces.get iface = some self
  endpoints : ∀ id ep, dtblGet st.lib.epTbl id = some ep → dtblGet next.lib.epTbl id = some ep
  cores : ∀ ep core, st.lib.cores.get ep = some core → next.lib.cores.get ep = some core
  bevs : next.lib.bevs = st.lib.bevs
  loops : LoopsKept st.lib next.lib st.ifaces.next

/-- Where an interface is built, its name is free, and `rteipc_open` leaves no
loop of that name without a descriptor, be it for the name or for a URI that is
the same text. -/
def OpenClean (st : Daemon (Dtbl EpPtr)) (outcome : IfaceOutcome) (d : RtemgrData) : Prop :=
  ∀ intf domain, Builds st outcome d intf domain →
    lookupLo st.lib.loList intf.name.text = none ∧ ¬Orphans st.lib outcome.id intf.name.text ∧
      ((busToPrefix intf.busType ++ intf.path.text).take 127 = intf.name.text →
        ∀ opened id, rteipcOpen dtblTable st.lib outcome.id intf.name.text = .ok (opened, id) →
          ¬Orphans opened outcome.ep intf.name.text)

section Failed

variable {st next made : Daemon (Dtbl EpPtr)} {domain : Nat}

theorem Domain.remove_new {domain : Domain} {iface : IfacePtr} (new : iface ∉ domain.ifaceList) :
    ({ domain with ifaceList := domain.ifaceList ++ [iface] } : Domain).remove iface = domain := by
  have kept : domain.ifaceList.filter (fun other => decide (other ≠ iface)) = domain.ifaceList := by
    apply List.filter_eq_self.mpr
    intro other member
    exact decide_eq_true fun same => new (same ▸ member)
  have gone : [iface].filter (fun other => decide (other ≠ iface)) = [] := by
    simp
  rw [Domain.remove, List.filter_append, kept, gone, List.append_nil]

theorem unlisted_grown (inv : RouteInv st) :
    (grown st domain).domainList.modify domain (·.remove st.ifaces.next) = st.domainList := by
  apply List.ext_getElem?
  intro position
  rw [List.getElem?_modify, grown, List.getElem?_modify]
  cases found : st.domainList[position]? with
  | none => rfl
  | some before =>
      apply congrArg some
      dsimp only
      split
      next =>
        apply Domain.remove_new
        intro member
        obtain ⟨self, live, -⟩ := inv.listed position before _ found member
        exact Heap.live_ne_next live rfl
      next => rfl

/-- Nothing that was there refers to the new interface, so forgetting it changes nothing. -/
theorem forget_new {iface : IfacePtr} {self : Interface} (inv : RouteInv st) (live : st.ifaces.get iface = some self)
    (lists : made.domainList = st.domainList) (old : made.ifaces.get iface = some self)
    (forgets : ∀ new, made.ifaces.get st.ifaces.next = some new → new.partner = none)
    (returned : ifaceForget made st.ifaces.next = .ok next) : next.ifaces.get iface = some self := by
  obtain ⟨new, ifaces, newLive, rfl, ⟨-, ⟨-, rfl⟩ | ⟨partner, routed, -⟩⟩ | ⟨-, rfl⟩⟩ := ifaceForget_ok returned
  · exact old
  · exact nomatch routed.symm.trans (forgets new newLive)
  · change (made.domainList.foldl _ made.ifaces).get iface = _
    rw [forgetAll_get, old, Option.map_some]
    split
    next listed =>
      rw [lists, ← listed_iff] at listed
      unfold Interface.forgetting
      split
      next refers =>
        have below := inv.named iface self.node st.ifaces.next (partners_some.mpr ⟨listed, self, live, rfl⟩) refers.2
        exact (Nat.lt_irrefl _ below.2).elim
      next => rfl
    next => rfl

/-- `iface_free` closes what the openings of a failed build opened. -/
theorem ifaceBuild_undone {outcome : IfaceOutcome} {name path : List UInt8} {busType managed : BitVec 32} {failed : Int}
    (inv : DaemonInv st) (short : name.length ≤ 128)
    (build : ifaceBuild dtblTable (grown st domain) outcome st.ifaces.next name path busType managed = .ok (made, failed))
    (wrong : failed ≠ 0) (free : ifaceFree dtblTable made st.ifaces.next = .ok next) :
    ∃ opened id, rteipcOpen dtblTable st.lib outcome.id name = .ok (opened, id) ∧
      (OpenUndone st next ↔ lookupLo st.lib.loList name = none ∧ ¬Orphans st.lib outcome.id name ∧
        ((busToPrefix busType ++ path).take 127 = name → ¬Orphans opened outcome.ep name)) := by
  obtain ⟨opened, id, both, ep, idOpened, epOpened, rfl⟩ := ifaceBuild_failed build wrong
  obtain ⟨self, idClosed, final, forgotten, live, first, second, forgot, rfl⟩ := ifaceFree_ok free
  change (built st _ domain _).ifaces.get st.ifaces.next = some self at live
  rw [built_get, if_pos rfl] at live
  obtain rfl := Option.some.inj live
  have unused : ∀ lo ∈ st.lib.loList, lo.arg ≠ some st.ifaces.next :=
    fun lo member isArg => Nat.lt_irrefl _ (inv.args lo member _ isArg)
  obtain ⟨grows, loops⟩ := rolledBack_iff inv.registry unused short (uri_short busType path) idOpened epOpened first second
  refine ⟨opened, id, idOpened, ?_⟩
  rw [← loops]
  obtain ⟨_, ifaces, -, rfl, -⟩ := ifaceForget_ok forgot
  refine ⟨fun undone => undone.loops, fun kept => ⟨unlisted_grown inv.routes, rfl, fun iface self live => ?_,
    fun id ep found => grows.dtblGet found, fun ep core live => ?_, grows.bevs, kept⟩⟩
  · have differ : iface ≠ st.ifaces.next := Heap.live_ne_next live
    refine (Heap.get_free_of_ne differ).trans (forget_new inv.routes live (unlisted_grown inv.routes) ?_ ?_ forgot)
    · change (built st st.lib domain _).ifaces.get iface = some self
      rw [built_get, if_neg differ, live]
    · intro new newLive
      change (built st st.lib domain _).ifaces.get st.ifaces.next = some new at newLive
      rw [built_get, if_pos rfl] at newLive
      obtain rfl := Option.some.inj newLive
      rfl
  · exact (grows.cores ep (Heap.live_lt live)).trans live

/-- In every state the daemon reaches, an open command that fails leaves all as
it was exactly when its name was free and memory held for the entries of loops. -/
theorem open_undone_iff {start : Daemon (Dtbl EpPtr)} {setup outcome : IfaceOutcome} {lib : PacketLib}
    {msgs : List LoopMessage} {d : RtemgrData} (started : rtemgrd dtblTable setup = .ok (start, 0))
    (reached : Reaches (RtemgrdStep dtblTable lib) start msgs st)
    (failed : doRtecmdOpen dtblTable st outcome d = .ok (next, -1)) : OpenUndone st next ↔ OpenClean st outcome d := by
  have inv := (rtemgrd_inv started).run reached
  obtain ⟨rfl, -, unbuilt⟩ | ⟨intf, rest, domain, made, ret, interfaces, found, calloc, pending, build, ended⟩ :=
    doRtecmdOpen_ok failed
  · refine iff_of_true ⟨rfl, rfl, fun _ _ live => live, fun _ _ found => found, fun _ _ live => live, rfl, ?_⟩ ?_
    · exact ⟨fun _ member => member, fun lo member isArg => Nat.lt_irrefl _ (inv.args lo member _ isArg)⟩
    · exact fun intf domain builds => (unbuilt intf domain builds).elim
  · obtain ⟨-, done, -⟩ | ⟨wrong, -, free⟩ := ended
    · nomatch done
    have short : intf.name.text.length ≤ 128 := Nat.le_trans intf.name.text_length (by decide)
    have builds : Builds st outcome d intf domain := ⟨by rw [interfaces]; rfl, found, calloc, pending⟩
    obtain ⟨opened, id, idOpened, undone⟩ := ifaceBuild_undone inv short build wrong free
    rw [undone]
    refine ⟨fun clean other position otherBuilds => ?_, fun clean => ?_⟩
    · have first := otherBuilds.first
      rw [interfaces] at first
      obtain rfl := Option.some.inj first
      refine ⟨clean.1, clean.2.1, fun same opened' id' idOpened' => ?_⟩
      obtain ⟨rfl, -⟩ := Prod.mk.inj (Except.ok.inj (idOpened.symm.trans idOpened'))
      exact clean.2.2 same
    · obtain ⟨free, stored, again⟩ := clean intf domain builds
      exact ⟨free, stored, fun same => again same opened id idOpened⟩

end Failed

/-- The daemon after a command to open an interface, which may have failed. -/
def Daemon.afterOpen (st : Daemon (Dtbl EpPtr)) (outcome : IfaceOutcome) (d : RtemgrData) : Daemon (Dtbl EpPtr) :=
  st.evaluated (doRtecmdOpen dtblTable st outcome d)

theorem afterOpen_returned {st : Daemon (Dtbl EpPtr)} {outcome : IfaceOutcome} {d : RtemgrData} {ret : Int}
    (returns : ((doRtecmdOpen dtblTable st outcome d).map Prod.snd).toOption = some ret) :
    doRtecmdOpen dtblTable st outcome d = .ok (st.afterOpen outcome d, ret) := evaluated_returned returns

/-- The backend of the second endpoint cannot be opened. -/
def backendRefuses : IfaceOutcome := { allSucceeds with ep := ⟨true, .succeeds, false, true⟩ }

theorem open_undone_iff_refused : ∃ next,
    doRtecmdOpen dtblTable .started backendRefuses (rawPacket ["a"]) = .ok (next, -1) ∧
      (OpenUndone .started next ↔ OpenClean .started backendRefuses (rawPacket ["a"])) := by
  have failed : doRtecmdOpen dtblTable .started backendRefuses (rawPacket ["a"]) = .ok (_, -1) :=
    afterOpen_returned (by decide +kernel)
  have reached : Reaches (RtemgrdStep dtblTable (.receiving rtemgrDataAlloc)) .started [] .started := .nil _
  exact ⟨_, failed, open_undone_iff rtemgrd_started reached failed⟩

/-- A second interface of the name of the first one is freed, but not before the
loop of the first one refers to it. -/
theorem open_twice_dangles : ¬ ∀ outcome d next,
    doRtecmdOpen dtblTable .started outcome d = .ok (next, -1) → OpenUndone .started next := by
  intro undone
  have failed : doRtecmdOpen dtblTable .started allSucceeds (rawPacket ["@rtemgrd"]) = .ok (_, -1) :=
    afterOpen_returned (by decide +kernel)
  have refers : (Daemon.started.afterOpen allSucceeds (rawPacket ["@rtemgrd"])).lib.loList.map Loop.arg = [some 1] := by
    decide +kernel
  have created : Daemon.started.ifaces.next = 1 := by decide +kernel
  have kept := (undone _ _ _ failed).loops
  obtain ⟨lo, member, isArg⟩ := List.mem_map.mp (refers ▸ List.mem_singleton_self (some 1))
  rw [created] at kept
  exact kept.2 lo member isArg

end Rteipc
