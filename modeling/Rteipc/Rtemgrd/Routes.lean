import Rteipc.Data.Partners
import Rteipc.Data.Run
import Rteipc.Rtemgrd

namespace Rteipc

/-! Routes between interfaces: in the graph of partners the managed interfaces
are hubs and every command is one operation on the graph. -/

open Data

variable {Table : Type} {tbl : DescTable Table} {st next : Daemon Table}

def Listed (st : Daemon Table) (iface : IfacePtr) : Prop :=
  ∃ (position : Nat) (domain : Domain), st.domainList[position]? = some domain ∧ iface ∈ domain.ifaceList

/-- No route dangles, a managed interface has none, and one between raw
interfaces goes both ways. -/
structure RoutesMutual (st : Daemon Table) : Prop where
  present : ∀ iface self partner, Listed st iface → st.ifaces.get iface = some self →
    self.partner = some partner → Listed st partner ∧ (st.ifaces.get partner).isSome
  managed : ∀ iface self, Listed st iface → st.ifaces.get iface = some self → self.managed ≠ 0 → self.partner = none
  mutual_raw : ∀ iface self partner other, Listed st iface → st.ifaces.get iface = some self → self.managed = 0 →
    self.partner = some partner → st.ifaces.get partner = some other → other.managed = 0 → other.partner = some iface

def Interface.node (self : Interface) : Node IfacePtr := ⟨self.managed ≠ 0, self.partner⟩

open Classical in
/-- The graph of partners of the listed interfaces. -/
noncomputable def Daemon.partners (st : Daemon Table) : Partners IfacePtr :=
  fun iface => if Listed st iface then (st.ifaces.get iface).map Interface.node else none

/-- A listed interface is live, and on the list of its own domain only. -/
def AtHome (st : Daemon Table) : Prop :=
  ∀ (position : Nat) domain iface, st.domainList[position]? = some domain → iface ∈ domain.ifaceList →
    ∃ self, st.ifaces.get iface = some self ∧ self.domain = position

structure RouteInv (st : Daemon Table) : Prop where
  listed : AtHome st
  named : Respects (fun iface partner => iface ≠ partner ∧ partner < st.ifaces.next) st.partners

theorem RouteInv.apart (inv : RouteInv st) : Respects (· ≠ ·) st.partners := inv.named.mono fun _ _ both => both.1

theorem RouteInv.live (inv : RouteInv st) {iface : IfacePtr} (listed : Listed st iface) :
    ∃ self, st.ifaces.get iface = some self := by
  obtain ⟨position, domain, found, member⟩ := listed
  obtain ⟨self, live, -⟩ := inv.listed position domain iface found member
  exact ⟨self, live⟩

theorem partners_listed {iface : IfacePtr} (listed : Listed st iface) :
    st.partners iface = (st.ifaces.get iface).map Interface.node := if_pos listed

theorem partners_unlisted {iface : IfacePtr} (unlisted : ¬Listed st iface) : st.partners iface = none :=
  if_neg unlisted

theorem partners_some {iface : IfacePtr} {node : Node IfacePtr} :
    st.partners iface = some node ↔ Listed st iface ∧ ∃ self, st.ifaces.get iface = some self ∧ self.node = node := by
  unfold Daemon.partners
  split
  next listed => rw [Option.map_eq_some_iff, and_iff_right listed]
  next unlisted => exact ⟨nofun, fun found => (unlisted found.1).elim⟩

theorem routesMutual_iff : RoutesMutual st ↔ Mutual st.partners := by
  refine ⟨fun routes => ⟨?_, ?_, ?_⟩, fun good => ⟨?_, ?_, ?_⟩⟩
  · intro iface node partner found names
    obtain ⟨listed, self, live, rfl⟩ := partners_some.mp found
    obtain ⟨partnerListed, partnerLive⟩ := routes.present iface self partner listed live names
    obtain ⟨other, otherLive⟩ := Option.isSome_iff_exists.mp partnerLive
    exact Option.isSome_of_eq_some (partners_some.mpr ⟨partnerListed, other, otherLive, rfl⟩)
  · intro iface node found isHub
    obtain ⟨listed, self, live, rfl⟩ := partners_some.mp found
    exact routes.managed iface self listed live (of_decide_eq_true isHub)
  · intro iface node partner peer found names there raw
    obtain ⟨listed, self, live, rfl⟩ := partners_some.mp found
    obtain ⟨-, other, otherLive, rfl⟩ := partners_some.mp there
    refine routes.mutual_raw iface self partner other listed live ?_ names otherLive ?_
    · refine Decidable.byContradiction fun managed => ?_
      exact nomatch (routes.managed iface self listed live managed).symm.trans names
    · exact Decidable.byContradiction fun managed => raw (decide_eq_true managed)
  · intro iface self partner listed live names
    have present := good.present iface self.node partner (partners_some.mpr ⟨listed, self, live, rfl⟩) names
    obtain ⟨node, there⟩ := Option.isSome_iff_exists.mp present
    obtain ⟨partnerListed, other, otherLive, -⟩ := partners_some.mp there
    exact ⟨partnerListed, Option.isSome_of_eq_some otherLive⟩
  · intro iface self listed live managed
    exact good.hub iface self.node (partners_some.mpr ⟨listed, self, live, rfl⟩) (decide_eq_true managed)
  · intro iface self partner other listed live _ names otherLive raw
    have found : st.partners iface = some self.node := partners_some.mpr ⟨listed, self, live, rfl⟩
    obtain ⟨node, there⟩ := Option.isSome_iff_exists.mp (good.present iface self.node partner found names)
    obtain ⟨-, same, sameLive, rfl⟩ := partners_some.mp there
    obtain rfl := Option.some.inj (sameLive.symm.trans otherLive)
    exact good.returned iface self.node partner same.node found names there fun isHub => of_decide_eq_true isHub raw

/-! ## Steps on the graph -/

/-- The lists and domains are as before, and each listed node is changed. -/
structure Rerouted (change : IfacePtr → Node IfacePtr → Node IfacePtr) (st next : Daemon Table) : Prop where
  lists : next.domainList = st.domainList
  fresh : next.ifaces.next = st.ifaces.next
  ifaces : ∀ iface, Listed st iface →
    (next.ifaces.get iface).map (fun after => (after.domain, after.node)) =
      (st.ifaces.get iface).map fun before => (before.domain, change iface before.node)

/-- A step that changes no route. -/
abbrev SameRoutes (st next : Daemon Table) : Prop := Rerouted (fun _ node => node) st next

section Rerouted

variable {change : IfacePtr → Node IfacePtr → Node IfacePtr}

theorem Rerouted.listed (step : Rerouted change st next) {iface : IfacePtr} :
    Listed next iface ↔ Listed st iface := by
  unfold Listed
  rw [step.lists]

theorem Rerouted.trans {last : Daemon Table} (first : Rerouted change st next) (second : SameRoutes next last) :
    Rerouted change st last :=
  ⟨second.lists.trans first.lists, second.fresh.trans first.fresh, fun iface listed =>
    (second.ifaces iface (first.listed.mpr listed)).trans (first.ifaces iface listed)⟩

theorem Rerouted.partners (step : Rerouted change st next) :
    next.partners = fun iface => (st.partners iface).map (change iface) := by
  funext iface
  by_cases listed : Listed st iface
  · have nodes := congrArg (Option.map Prod.snd) (step.ifaces iface listed)
    rw [Option.map_map, Option.map_map] at nodes
    rw [partners_listed listed, partners_listed (step.listed.mpr listed), Option.map_map]
    exact nodes
  · rw [partners_unlisted listed, partners_unlisted fun after => listed (step.listed.mp after)]
    rfl

theorem Rerouted.atHome (step : Rerouted change st next) (home : AtHome st) : AtHome next := by
  intro position domain iface found member
  rw [step.lists] at found
  obtain ⟨self, live, here⟩ := home position domain iface found member
  have kept := step.ifaces iface ⟨position, domain, found, member⟩
  rw [live, Option.map_some, Option.map_eq_some_iff] at kept
  obtain ⟨after, afterLive, fields⟩ := kept
  exact ⟨after, afterLive, (Prod.mk.inj fields).1.trans here⟩

theorem Rerouted.same_partners (same : SameRoutes st next) : next.partners = st.partners := by
  rw [same.partners]
  funext iface
  exact Option.map_id'

theorem Rerouted.same_inv (same : SameRoutes st next) (inv : RouteInv st) : RouteInv next := by
  refine ⟨same.atHome inv.listed, ?_⟩
  rw [same.same_partners, same.fresh]
  exact inv.named

theorem SameRoutes.of_lib (st : Daemon Table) (lib : EpState Table DaemonCb IfacePtr) : SameRoutes st { st with lib } :=
  ⟨rfl, rfl, fun _ _ => rfl⟩

theorem Rerouted.of_modify (st : Daemon Table) (iface : IfacePtr) (modified : Interface → Interface)
    (kept : ∀ self, st.ifaces.get iface = some self →
      (modified self).domain = self.domain ∧ (modified self).node = change iface self.node)
    (others : ∀ other node, other ≠ iface → change other node = node) :
    Rerouted change st { st with ifaces := st.ifaces.modify iface modified } := by
  refine ⟨rfl, rfl, fun other _ => ?_⟩
  by_cases same : other = iface
  · subst same
    rw [Heap.get_modify_self, Option.map_map]
    cases live : st.ifaces.get other with
    | none => rfl
    | some self =>
        obtain ⟨sameDomain, node⟩ := kept self live
        rw [Option.map_some, Option.map_some, Function.comp_apply, sameDomain, node]
  · rw [Heap.get_modify_of_ne same]
    congr 1
    funext before
    rw [others other before.node same]

end Rerouted

theorem ifaceRawHandler_sameRoutes {emitLib : EmitLib} {memory : Memory} {iface : IfacePtr} {data : List UInt8}
    (returned : ifaceRawHandler emitLib memory st iface data = .ok next) : SameRoutes st next := by
  obtain ⟨lib, rfl, -⟩ | rfl := ifaceRawHandler_ok returned
  · exact .of_lib st lib
  · refine .of_modify st iface _ (fun self _ => ?_) fun _ _ _ => rfl
    unfold ifacePending
    split <;> exact ⟨rfl, rfl⟩

theorem triggerLoop_sameRoutes {emitLib : EmitLib} {memory : Nat → Memory} {iface : IfacePtr} {fuel : Nat}
    (returned : triggerLoop emitLib memory iface fuel st = .ok next) : SameRoutes st next := by
  induction fuel generalizing st with
  | zero =>
      obtain rfl := Except.ok.inj returned
      exact .of_lib st st.lib
  | succ fuel ih =>
      obtain ⟨self, -, returned⟩ := bind_ok returned
      split at returned
      next msg pending drained =>
        obtain ⟨handled, handler, returned⟩ := bind_ok returned
        have queue : SameRoutes st { st with ifaces := st.ifaces.modify iface fun self => { self with pending } } :=
          .of_modify st iface _ (fun _ _ => ⟨rfl, rfl⟩) fun _ _ _ => rfl
        exact queue.trans ((ifaceRawHandler_sameRoutes handler).trans (ih returned))
      next =>
        obtain rfl := Except.ok.inj returned
        exact .of_lib st st.lib

theorem ifaceTrigger_sameRoutes {emitLib : EmitLib} {memory : Nat → Memory} {iface : IfacePtr}
    (returned : ifaceTrigger emitLib memory st iface = .ok next) : SameRoutes st next := by
  obtain ⟨self, -, returned⟩ := bind_ok returned
  split at returned
  next =>
    obtain rfl := Except.ok.inj returned
    exact .of_lib st st.lib
  next => exact triggerLoop_sameRoutes returned

def routedNode (iface other kept : IfacePtr) (node : Node IfacePtr) : Node IfacePtr :=
  if kept = iface ∧ ¬node.hub then { node with partner := some other } else node

theorem routeSide_rerouted {emitLib : EmitLib} {memory : Nat → Memory} {iface other : IfacePtr}
    (returned : routeSide emitLib memory st iface other = .ok next) : Rerouted (routedNode iface other) st next := by
  obtain ⟨self, read, returned⟩ := bind_ok returned
  have live := deref_ok read
  have elsewhere : ∀ (kept : IfacePtr) (node : Node IfacePtr), kept ≠ iface → routedNode iface other kept node = node :=
    fun kept node differ => if_neg fun both => differ both.1
  split at returned
  next raw =>
    have notHub : ¬self.node.hub := fun isHub => absurd raw (of_decide_eq_true isHub)
    refine (Rerouted.of_modify st iface _ (fun same live' => ?_) elsewhere).trans (ifaceTrigger_sameRoutes returned)
    obtain rfl := Option.some.inj (live.symm.trans live')
    exact ⟨rfl, (if_pos ⟨rfl, notHub⟩).symm⟩
  next managed =>
    obtain rfl := Except.ok.inj returned
    refine ⟨rfl, rfl, fun kept _ => ?_⟩
    by_cases same : kept = iface
    · subst same
      have isHub : routedNode kept other kept self.node = self.node := if_neg fun both => both.2 (decide_eq_true managed)
      rw [live, Option.map_some, Option.map_some, isHub]
    · congr 1
      funext before
      rw [elsewhere kept before.node same]

/-! ## Opening -/

def built (st : Daemon Table) (lib : EpState Table DaemonCb IfacePtr) (domain : Nat)
    (build : Interface → Interface) : Daemon Table :=
  { grown st domain with
      lib
      ifaces := (grown st domain).ifaces.modify st.ifaces.next build }

variable {lib : EpState Table DaemonCb IfacePtr} {domain : Nat} {build : Interface → Interface}

theorem built_get {iface : IfacePtr} : (built st lib domain build).ifaces.get iface =
    if iface = st.ifaces.next then some (build (freshInterface domain)) else st.ifaces.get iface := by
  split
  next same =>
    subst same
    exact Heap.get_modify_self.trans (by rw [grown, Heap.get_alloc_next, Option.map_some])
  next differ => exact (Heap.get_modify_of_ne differ).trans (Heap.get_alloc_of_ne differ)

theorem built_list {position : Nat} : (built st lib domain build).domainList[position]? =
    (st.domainList[position]?).map fun listed =>
      if domain = position then { listed with ifaceList := listed.ifaceList ++ [st.ifaces.next] } else listed :=
  List.getElem?_modify _ _ _ _

theorem built_listed (inside : domain < st.domainList.length) {iface : IfacePtr} :
    Listed (built st lib domain build) iface ↔ iface = st.ifaces.next ∨ Listed st iface := by
  refine ⟨fun listed => ?_, fun listed => ?_⟩
  · obtain ⟨position, _, found, member⟩ := listed
    rw [built_list, Option.map_eq_some_iff] at found
    obtain ⟨before, there, rfl⟩ := found
    split at member
    next =>
      obtain old | new := List.mem_append.mp member
      · exact .inr ⟨position, before, there, old⟩
      · exact .inl (List.mem_singleton.mp new)
    next => exact .inr ⟨position, before, there, member⟩
  · obtain rfl | ⟨position, before, there, member⟩ := listed
    · have found : (built st lib domain build).domainList[domain]? = some
          { st.domainList[domain] with ifaceList := st.domainList[domain].ifaceList ++ [st.ifaces.next] } := by
        rw [built_list, List.getElem?_eq_getElem inside, Option.map_some, if_pos rfl]
      exact ⟨domain, _, found, List.mem_append_right _ (List.mem_singleton_self _)⟩
    · obtain ⟨after, found, kept⟩ : ∃ after, (built st lib domain build).domainList[position]? = some after ∧
          iface ∈ after.ifaceList := by
        rw [built_list, there, Option.map_some]
        refine ⟨_, rfl, ?_⟩
        split
        next => exact List.mem_append_left _ member
        next => exact member
      exact ⟨position, after, found, kept⟩

theorem built_partners (inside : domain < st.domainList.length)
    (alone : (build (freshInterface domain)).partner = none) :
    (built st lib domain build).partners =
      st.partners.add st.ifaces.next (build (freshInterface domain)).node.hub := by
  funext iface
  unfold Partners.add
  by_cases new : iface = st.ifaces.next
  · rw [partners_listed ((built_listed inside).mpr (.inl new)), built_get, if_pos new, if_pos new, Option.map_some]
    unfold Interface.node
    rw [alone]
  · rw [if_neg new]
    by_cases listed : Listed st iface
    · rw [partners_listed listed, partners_listed ((built_listed inside).mpr (.inr listed)), built_get, if_neg new]
    · rw [partners_unlisted listed, partners_unlisted fun after => ((built_listed inside).mp after).elim new listed]

theorem next_unlisted : st.partners st.ifaces.next = none := by
  cases found : st.partners st.ifaces.next with
  | none => rfl
  | some node =>
      obtain ⟨-, self, live, -⟩ := partners_some.mp found
      exact (Heap.live_ne_next live rfl).elim

theorem RouteInv.built (inv : RouteInv st) (inside : domain < st.domainList.length)
    (alone : (build (freshInterface domain)).partner = none)
    (here : (build (freshInterface domain)).domain = domain) : RouteInv (built st lib domain build) where
  listed position _ iface found member := by
    rw [built_list, Option.map_eq_some_iff] at found
    obtain ⟨before, there, rfl⟩ := found
    have old : iface ∈ before.ifaceList →
        ∃ self, (Rteipc.built st lib domain build).ifaces.get iface = some self ∧ self.domain = position := by
      intro member
      obtain ⟨self, live, selfHere⟩ := inv.listed position before iface there member
      refine ⟨self, ?_, selfHere⟩
      rw [built_get, if_neg (Heap.live_ne_next live), live]
    split at member
    next same =>
      obtain older | new := List.mem_append.mp member
      · exact old older
      · refine ⟨_, ?_, here.trans same⟩
        rw [built_get, if_pos (List.mem_singleton.mp new)]
    next => exact old member
  named := by
    rw [built_partners inside alone]
    exact (inv.named.mono fun _ _ both => ⟨both.1, Nat.lt_succ_of_lt both.2⟩).add _ _

/-! ## Forgetting and freeing -/

theorem listed_iff {iface : IfacePtr} : Listed st iface ↔ ∃ domain ∈ st.domainList, iface ∈ domain.ifaceList := by
  refine ⟨fun listed => ?_, fun listed => ?_⟩
  · obtain ⟨position, domain, found, member⟩ := listed
    exact ⟨domain, List.mem_of_getElem? found, member⟩
  · obtain ⟨domain, found, member⟩ := listed
    obtain ⟨position, there⟩ := List.mem_iff_getElem?.mp found
    exact ⟨position, domain, there, member⟩

theorem forgets_raw {self : Interface} {iface other : IfacePtr} {node : Node IfacePtr} (raw : self.managed = 0) :
    self.node.forgets iface other node = decide (self.partner.isSome ∧ (other = iface ∨ self.partner = some other)) :=
  if_neg fun isHub => absurd raw (of_decide_eq_true isHub)

theorem forgets_managed {self : Interface} {iface other : IfacePtr} {node : Node IfacePtr}
    (managed : self.managed ≠ 0) :
    self.node.forgets iface other node = decide (other ≠ iface ∧ node.partner = some iface) :=
  if_pos (decide_eq_true managed)

theorem forgetting_node {self : Interface} {iface forget : IfacePtr} :
    (self.forgetting iface forget).node =
      if iface ≠ forget ∧ self.partner = some forget then self.node.alone else self.node := by
  unfold Interface.forgetting
  split <;> rfl

def forgottenNode (self : Interface) (iface other : IfacePtr) (node : Node IfacePtr) : Node IfacePtr :=
  if self.node.forgets iface other node then node.alone else node

theorem ifaceForget_rerouted {iface : IfacePtr} (returned : ifaceForget st iface = .ok next) :
    ∃ self, st.ifaces.get iface = some self ∧ Rerouted (forgottenNode self iface) st next := by
  obtain ⟨self, ifaces, live, rfl, changed⟩ := ifaceForget_ok returned
  have fresh : ifaces.next = st.ifaces.next := by
    obtain ⟨-, ⟨-, rfl⟩ | ⟨_, -, rfl⟩⟩ | ⟨-, rfl⟩ := changed
    · rfl
    · rfl
    · exact forgetAll_next
  refine ⟨self, live, rfl, fresh, fun other listed => ?_⟩
  obtain ⟨raw, ⟨alone, rfl⟩ | ⟨partner, routed, rfl⟩⟩ | ⟨managed, rfl⟩ := changed
  · congr 1
    funext before
    rw [forgottenNode, forgets_raw raw, alone, decide_eq_false (fun present => nomatch present.1)]
    rfl
  · simp only [Heap.get_modify, Option.map_map]
    congr 1
    funext before
    simp only [Function.comp_apply, forgottenNode, forgets_raw raw, routed, Option.isSome_some, true_and,
      Option.some.injEq, decide_eq_true_eq]
    by_cases either : other = iface ∨ partner = other
    · rw [if_pos either]
      obtain rfl | rfl := either
      · rw [if_pos rfl]
        split <;> rfl
      · rw [if_pos rfl]
        split <;> rfl
    · obtain ⟨notSelf, notPartner⟩ := not_or.mp either
      rw [if_neg either, if_neg notSelf, if_neg fun same => notPartner same.symm]
  · rw [forgetAll_get, Option.map_map]
    congr 1
    funext before
    simp only [Function.comp_apply, if_pos (listed_iff.mp listed), forgottenNode, forgets_managed managed,
      decide_eq_true_eq, Prod.mk.injEq]
    refine ⟨?_, forgetting_node⟩
    unfold Interface.forgetting
    split <;> rfl

theorem ifaceForget_partners {iface : IfacePtr} (inv : RouteInv st) (listed : Listed st iface)
    (returned : ifaceForget st iface = .ok next) : next.partners = st.partners.forget iface ∧ RouteInv next := by
  obtain ⟨self, live, step⟩ := ifaceForget_rerouted returned
  have graph : next.partners = st.partners.forget iface := by
    rw [step.partners]
    funext other
    exact (Partners.forget_of_some (partners_some.mpr ⟨listed, self, live, rfl⟩)).symm
  refine ⟨graph, step.atHome inv.listed, ?_⟩
  rw [graph, step.fresh]
  exact inv.named.forget iface

def unlisted (st : Daemon Table) (lib : EpState Table DaemonCb IfacePtr) (domain : Nat) (iface : IfacePtr) :
    Daemon Table :=
  { st with lib, domainList := st.domainList.modify domain (·.remove iface) }

section Unlisted

variable {iface : IfacePtr} {self : Interface}

theorem unlisted_list {position : Nat} : (unlisted st lib domain iface).domainList[position]? =
    (st.domainList[position]?).map fun listed => if domain = position then listed.remove iface else listed :=
  List.getElem?_modify _ _ _ _

theorem unlisted_member (inv : RouteInv st) (live : st.ifaces.get iface = some self) {position : Nat}
    {after : Domain} (found : (unlisted st lib self.domain iface).domainList[position]? = some after)
    {other : IfacePtr} (member : other ∈ after.ifaceList) :
    other ≠ iface ∧ ∃ before, st.domainList[position]? = some before ∧ other ∈ before.ifaceList := by
  rw [unlisted_list, Option.map_eq_some_iff] at found
  obtain ⟨before, there, rfl⟩ := found
  split at member
  next =>
    obtain ⟨member, differ⟩ := List.mem_filter.mp member
    exact ⟨of_decide_eq_true differ, before, there, member⟩
  next elsewhere =>
    refine ⟨fun same => ?_, before, there, member⟩
    subst same
    obtain ⟨_, live', here⟩ := inv.listed position before other there member
    obtain rfl := Option.some.inj (live.symm.trans live')
    exact elsewhere here

theorem unlisted_listed (inv : RouteInv st) (live : st.ifaces.get iface = some self) {other : IfacePtr} :
    Listed (unlisted st lib self.domain iface) other ↔ other ≠ iface ∧ Listed st other := by
  refine ⟨fun after => ?_, fun before => ?_⟩
  · obtain ⟨position, domain, found, member⟩ := after
    obtain ⟨differ, before, there, member⟩ := unlisted_member inv live found member
    exact ⟨differ, position, before, there, member⟩
  · obtain ⟨differ, position, before, found, member⟩ := before
    obtain ⟨after, there, kept⟩ : ∃ after, (unlisted st lib self.domain iface).domainList[position]? = some after ∧
        other ∈ after.ifaceList := by
      rw [unlisted_list, found, Option.map_some]
      refine ⟨_, rfl, ?_⟩
      split
      next => exact List.mem_filter.mpr ⟨member, decide_eq_true differ⟩
      next => exact member
    exact ⟨position, after, there, kept⟩

theorem unlisted_partners (inv : RouteInv st) (live : st.ifaces.get iface = some self) (other : IfacePtr) :
    (unlisted st lib self.domain iface).partners other = if other = iface then none else st.partners other := by
  split
  next same => exact partners_unlisted fun after => ((unlisted_listed inv live).mp after).1 same
  next differ =>
    by_cases listed : Listed st other
    · rw [partners_listed listed, partners_listed ((unlisted_listed inv live).mpr ⟨differ, listed⟩)]
      rfl
    · rw [partners_unlisted listed, partners_unlisted fun after => listed ((unlisted_listed inv live).mp after).2]

/-- Freeing takes the node out of the graph and forgets it. -/
theorem ifaceFree_partners (inv : RouteInv st) (listed : Listed st iface)
    (returned : ifaceFree tbl st iface = .ok next) : next.partners = st.partners.remove iface ∧ RouteInv next := by
  obtain ⟨self, idClosed, lib, forgotten, live, -, -, forgot, rfl⟩ := ifaceFree_ok returned
  obtain ⟨self', live', step⟩ := ifaceForget_rerouted forgot
  obtain rfl := Option.some.inj (live.symm.trans live')
  let freed : Daemon Table := { forgotten with ifaces := forgotten.ifaces.free iface }
  have listedAfter : ∀ other, Listed freed other ↔ other ≠ iface ∧ Listed st other := fun other => by
    have removed : Listed (unlisted st lib self.domain iface) other ↔ other ≠ iface ∧ Listed st other :=
      unlisted_listed inv live
    exact step.listed.trans removed
  have graph : freed.partners = st.partners.remove iface := by
    funext other
    unfold Partners.remove
    by_cases same : other = iface
    · rw [if_pos same, partners_unlisted fun after => ((listedAfter other).mp after).1 same]
    · have kept : freed.partners other = forgotten.partners other := by
        by_cases forgottenListed : Listed forgotten other
        · have freedListed : Listed freed other := forgottenListed
          rw [partners_listed freedListed, partners_listed forgottenListed]
          exact congrArg _ (Heap.get_free_of_ne same)
        · rw [partners_unlisted forgottenListed]
          exact partners_unlisted forgottenListed
      rw [if_neg same, kept, step.partners, Partners.forget_of_some (partners_some.mpr ⟨listed, self, live, rfl⟩)]
      exact congrArg _ ((unlisted_partners inv live other).trans (if_neg same))
  refine ⟨graph, ?_, ?_⟩
  · intro position domain other found member
    change forgotten.domainList[position]? = some domain at found
    rw [step.lists] at found
    obtain ⟨differ, before, there, beforeMember⟩ := unlisted_member inv live found member
    obtain ⟨peer, peerLive, here⟩ := inv.listed position before other there beforeMember
    have fields := step.ifaces other ⟨position, domain, found, member⟩
    change _ = (st.ifaces.get other).map _ at fields
    rw [peerLive, Option.map_some, Option.map_eq_some_iff] at fields
    obtain ⟨after, afterLive, fields⟩ := fields
    exact ⟨after, (Heap.get_free_of_ne differ).trans afterLive, (Prod.mk.inj fields).1.trans here⟩
  · change Respects _ freed.partners
    rw [graph]
    exact (inv.named.remove iface).mono fun _ _ both => ⟨both.1, both.2.trans_eq step.fresh.symm⟩

end Unlisted

/-! ## Commands -/

theorem ifaceOf_listed {intf : RtemgrIntf} {iface : IfacePtr} (found : ifaceOf st intf = some iface) :
    Listed st iface := by
  obtain ⟨position, -, found⟩ := Option.bind_eq_some_iff.mp found
  obtain ⟨domain, there, found⟩ := Option.bind_eq_some_iff.mp found
  exact ⟨position, domain, there, List.mem_of_find?_eq_some found⟩

theorem domainLookupById_inside {id : BitVec 32} {position : Nat} (found : domainLookupById st id = some position) :
    position < st.domainList.length := (List.findIdx?_eq_some_iff_getElem.mp found).1

theorem doRtecmdClose_routes {d : RtemgrData} {ret : Int} (inv : RouteInv st)
    (returned : doRtecmdClose tbl st d = .ok (next, ret)) :
    RouteInv next ∧ (Mutual st.partners → Mutual next.partners) := by
  have start : RouteInv st ∧ (Mutual st.partners → Mutual st.partners) := ⟨inv, id⟩
  apply closeInterfaces_keeps _ start (doRtecmdClose_ok returned)
  intro intf _ before after iface kept found free
  obtain ⟨beforeInv, goodBefore⟩ := kept
  have listed := ifaceOf_listed found
  obtain ⟨graph, afterInv⟩ := ifaceFree_partners beforeInv listed free
  obtain ⟨self, live⟩ := beforeInv.live listed
  refine ⟨afterInv, fun good => ?_⟩
  rw [graph]
  exact (goodBefore good).remove (partners_some.mpr ⟨listed, self, live, rfl⟩) beforeInv.apart

theorem doRtecmdOpen_routes {outcome : IfaceOutcome} {d : RtemgrData} {ret : Int} (inv : RouteInv st)
    (returned : doRtecmdOpen tbl st outcome d = .ok (next, ret)) :
    RouteInv next ∧ (Mutual st.partners → Mutual next.partners) := by
  obtain ⟨rfl, -⟩ | ⟨intf, rest, domain, made, failed, -, found, -, -, build, ended⟩ := doRtecmdOpen_ok returned
  · exact ⟨inv, id⟩
  obtain ⟨opened, id, both, ep, lib, -, -, rfl, -⟩ := ifaceBuild_ok build
  have inside := domainLookupById_inside found
  let make : Interface → Interface := fun self =>
    self.built id ep intf.name.text ((busToPrefix intf.busType ++ intf.path.text).take 127) intf.busType intf.managed
  have madeInv : RouteInv (built st lib domain make) := inv.built inside rfl rfl
  have madeGood : Mutual st.partners → Mutual (built st lib domain make).partners := by
    intro good
    rw [built_partners inside rfl]
    exact good.add next_unlisted _
  obtain ⟨-, -, rfl⟩ | ⟨-, -, free⟩ := ended
  · exact ⟨madeInv, madeGood⟩
  · have listed : Listed (built st lib domain make) st.ifaces.next := (built_listed inside).mpr (.inl rfl)
    obtain ⟨self, live⟩ := madeInv.live listed
    obtain ⟨graph, nextInv⟩ := ifaceFree_partners madeInv listed free
    refine ⟨nextInv, fun good => ?_⟩
    rw [graph]
    exact (madeGood good).remove (partners_some.mpr ⟨listed, self, live, rfl⟩) madeInv.apart

/-- The two interfaces a route command sets partners of. -/
def routedPair (st : Daemon Table) (d : RtemgrData) : Option (IfacePtr × IfacePtr) :=
  match d.interfaces with
  | [lh, rh] =>
      match ifaceOf st lh, ifaceOf st rh with
      | some l, some r => if l = r then none else some (l, r)
      | _, _ => none
  | _ => none

theorem doRtecmdRoute_routes {emitLib : EmitLib} {left right : Nat → Memory} {d : RtemgrData} {ret : Int}
    (inv : RouteInv st) (returned : doRtecmdRoute emitLib st left right d = .ok (next, ret)) :
    RouteInv next ∧
      (routedPair st d = none ∧ next = st ∨
        ∃ l r, routedPair st d = some (l, r) ∧ l ≠ r ∧ Listed st l ∧ Listed st r ∧
          next.partners = st.partners.connect l r) := by
  unfold doRtecmdRoute at returned
  unfold routedPair
  rcases interfaces : d.interfaces with _ | ⟨lh, _ | ⟨rh, _ | ⟨third, rest⟩⟩⟩
  case cons.cons.nil =>
    simp only [interfaces] at returned
    cases foundLeft : ifaceOf st lh with
    | none =>
        simp only [foundLeft] at returned
        cases returned
        exact ⟨inv, .inl ⟨by simp only [foundLeft], rfl⟩⟩
    | some l =>
        cases foundRight : ifaceOf st rh with
        | none =>
            simp only [foundLeft, foundRight] at returned
            cases returned
            exact ⟨inv, .inl ⟨by simp only [foundLeft, foundRight], rfl⟩⟩
        | some r =>
            simp only [foundLeft, foundRight] at returned ⊢
            split at returned
            next same =>
              cases returned
              exact ⟨inv, .inl ⟨if_pos same, rfl⟩⟩
            next differ =>
              obtain ⟨middle, leftSide, returned⟩ := bind_ok returned
              obtain ⟨last, rightSide, returned⟩ := bind_ok returned
              cases returned
              have first := routeSide_rerouted leftSide
              have second := routeSide_rerouted rightSide
              have graph : next.partners = st.partners.connect l r := by
                rw [second.partners, first.partners]
                rfl
              have leftListed := ifaceOf_listed foundLeft
              have rightListed := ifaceOf_listed foundRight
              refine ⟨⟨second.atHome (first.atHome inv.listed), ?_⟩, .inr ⟨l, r, if_neg differ, differ, leftListed, rightListed,
                graph⟩⟩
              obtain ⟨leftSelf, leftLive⟩ := inv.live leftListed
              obtain ⟨rightSelf, rightLive⟩ := inv.live rightListed
              rw [graph, second.fresh, first.fresh]
              exact inv.named.connect differ ⟨differ, Heap.live_lt rightLive⟩ ⟨Ne.symm differ, Heap.live_lt leftLive⟩
  all_goals
    simp only [interfaces] at returned
    cases returned
    exact ⟨inv, .inl ⟨rfl, rfl⟩⟩

/-! ## Runs -/

theorem doRtecmdForget_routes {d : RtemgrData} {ret : Int} (inv : RouteInv st)
    (returned : doRtecmdForget st d = .ok (next, ret)) :
    RouteInv next ∧ (Mutual st.partners → Mutual next.partners) := by
  obtain rfl | ⟨intf, -, iface, found, forget⟩ := doRtecmdForget_ok returned
  · exact ⟨inv, id⟩
  · obtain ⟨graph, nextInv⟩ := ifaceForget_partners inv (ifaceOf_listed found) forget
    refine ⟨nextInv, fun good => ?_⟩
    rw [graph]
    exact good.forget iface

theorem ifaceRawData_sameRoutes {emitLib : EmitLib} {memory : Memory} {iface : IfacePtr} {data : List UInt8}
    (returned : ifaceRawData emitLib memory st iface data = .ok next) : SameRoutes st next := by
  obtain ⟨self, -, returned⟩ := bind_ok returned
  split at returned
  next => exact ifaceRawHandler_sameRoutes returned
  next =>
    obtain rfl := Except.ok.inj returned
    exact .of_lib st st.lib

/-- A raw partner of the interface is the other one. -/
def RouteFree (st : Daemon Table) (iface other : IfacePtr) : Prop :=
  ∀ self partner peer, st.ifaces.get iface = some self → self.partner = some partner →
    st.ifaces.get partner = some peer → peer.managed = 0 → partner = other

/-- A route command leaves no raw partner of its two interfaces behind. -/
def LeavesNoPartner (st : Daemon Table) : DaemonCall → Prop
  | .rtecmdRoute _ _ d => ∀ l r, routedPair st d = some (l, r) → RouteFree st l r ∧ RouteFree st r l
  | _ => True

theorem routeFree_iff (good : Mutual st.partners) {iface other : IfacePtr} (listed : Listed st iface) :
    RouteFree st iface other ↔ Partners.Free st.partners iface other := by
  refine ⟨fun free => ?_, fun free => ?_⟩
  · intro node partner peer found names there raw
    obtain ⟨-, self, live, rfl⟩ := partners_some.mp found
    obtain ⟨-, peerSelf, peerLive, rfl⟩ := partners_some.mp there
    exact free self partner peerSelf live names peerLive
      (Decidable.byContradiction fun managed => raw (decide_eq_true managed))
  · intro self partner peer live names peerLive raw
    have found : st.partners iface = some self.node := partners_some.mpr ⟨listed, self, live, rfl⟩
    obtain ⟨node, there⟩ := Option.isSome_iff_exists.mp (good.present iface self.node partner found names)
    obtain ⟨-, same, sameLive, rfl⟩ := partners_some.mp there
    obtain rfl := Option.some.inj (sameLive.symm.trans peerLive)
    exact free self.node partner same.node found names there fun isHub => absurd raw (of_decide_eq_true isHub)

variable {emitLib : EmitLib} {call : DaemonCall}

theorem RouteInv.step (inv : RouteInv st) (taken : DaemonStep tbl emitLib st call next) :
    RouteInv next ∧ (Mutual st.partners → (Mutual next.partners ↔ LeavesNoPartner st call)) := by
  have keeps : RouteInv next ∧ (Mutual st.partners → Mutual next.partners) → LeavesNoPartner st call →
      RouteInv next ∧ (Mutual st.partners → (Mutual next.partners ↔ LeavesNoPartner st call)) :=
    fun kept leaves => ⟨kept.1, fun good => iff_of_true (kept.2 good) leaves⟩
  obtain ⟨ret, returned⟩ := taken
  cases call with
  | rtecmdOpen outcome d => exact keeps (doRtecmdOpen_routes inv returned) trivial
  | rtecmdClose d => exact keeps (doRtecmdClose_routes inv returned) trivial
  | rtecmdForget d => exact keeps (doRtecmdForget_routes inv returned) trivial
  | rawData memory iface data =>
      obtain ⟨after, handled, returned⟩ := map_ok returned
      obtain ⟨rfl, -⟩ := Prod.mk.inj returned
      have same := ifaceRawData_sameRoutes handled
      refine keeps ⟨same.same_inv inv, fun good => ?_⟩ trivial
      rw [same.same_partners]
      exact good
  | rtecmdRoute left right d =>
      obtain ⟨nextInv, ⟨none, rfl⟩ | ⟨l, r, pair, differ, listedLeft, listedRight, graph⟩⟩ :=
        doRtecmdRoute_routes inv returned
      · exact keeps ⟨inv, id⟩ fun l r pair => nomatch none.symm.trans pair
      · refine ⟨nextInv, fun good => ?_⟩
        obtain ⟨leftSelf, leftLive⟩ := inv.live listedLeft
        obtain ⟨rightSelf, rightLive⟩ := inv.live listedRight
        rw [graph, mutual_connect_iff good inv.apart
          (partners_some.mpr ⟨listedLeft, leftSelf, leftLive, rfl⟩)
          (partners_some.mpr ⟨listedRight, rightSelf, rightLive, rfl⟩) differ,
          ← routeFree_iff good listedLeft, ← routeFree_iff good listedRight]
        refine ⟨fun free l' r' pair' => ?_, fun leaves => leaves l r pair⟩
        obtain ⟨rfl, rfl⟩ := Prod.mk.inj (Option.some.inj (pair.symm.trans pair'))
        exact free

theorem start_routes (ctrlIface : Option IfacePtr) :
    RouteInv { Daemon.start tbl with ctrlIface } ∧ Mutual (Daemon.partners { Daemon.start tbl with ctrlIface }) := by
  have nothing : ∀ iface, Daemon.partners { Daemon.start tbl with ctrlIface } iface = none := by
    intro iface
    by_cases listed : Listed { Daemon.start tbl with ctrlIface } iface
    · exact partners_listed listed
    · exact partners_unlisted listed
  refine ⟨⟨?_, ?_⟩, ?_, ?_, ?_⟩
  · intro position domain iface found member
    cases position with
    | zero =>
        obtain rfl := Option.some.inj found
        nomatch member
    | succ position => nomatch found
  · intro iface node partner found
    exact nomatch (nothing iface).symm.trans found
  · intro iface node partner found
    exact nomatch (nothing iface).symm.trans found
  · intro iface node found
    exact nomatch (nothing iface).symm.trans found
  · intro iface node partner other found
    exact nomatch (nothing iface).symm.trans found

theorem rtemgrd_routes {outcome : IfaceOutcome} {ret : Int} (started : rtemgrd tbl outcome = .ok (st, ret)) :
    RouteInv st ∧ Mutual st.partners := by
  obtain ⟨rfl, -⟩ | build := rtemgrd_ok started
  · exact start_routes none
  · obtain ⟨opened, id, both, ep, lib, -, -, rfl, -⟩ := ifaceBuild_ok build
    let before : Daemon Table := { Daemon.start tbl with ctrlIface := some (Daemon.start tbl).ifaces.next }
    let make : Interface → Interface := fun self =>
      self.built id ep rtemgrdCtlport ((busToPrefix EpType.ipc.number ++ rtemgrdCtlport).take 127) EpType.ipc.number 1
    obtain ⟨inv, good⟩ : RouteInv before ∧ Mutual before.partners := start_routes _
    have inside : 0 < before.domainList.length := Nat.zero_lt_succ 0
    have madeInv : RouteInv (built before lib 0 make) := inv.built inside rfl rfl
    refine ⟨madeInv, ?_⟩
    change Mutual (built before lib 0 make).partners
    rw [built_partners inside rfl]
    exact good.add next_unlisted _

/-- Starting from the control interface, routes are mutual in every state of a
run exactly when no route command of it leaves a raw partner behind. -/
theorem routes_mutual_iff {outcome : IfaceOutcome} {calls : List DaemonCall} (emitLib : EmitLib)
    (started : rtemgrd tbl outcome = .ok (st, 0)) :
    Always (DaemonStep tbl emitLib) RoutesMutual st calls ↔
      Guarded (DaemonStep tbl emitLib) LeavesNoPartner st calls := by
  obtain ⟨startInv, startGood⟩ := rtemgrd_routes started
  have preserved : ∀ before call after, RouteInv before → DaemonStep tbl emitLib before call after → RouteInv after :=
    fun _ _ _ inv taken => (inv.step taken).1
  have exactStep : ∀ before call after, RouteInv before → RoutesMutual before →
      DaemonStep tbl emitLib before call after → (RoutesMutual after ↔ LeavesNoPartner before call) := by
    intro before call after inv good taken
    rw [routesMutual_iff]
    exact (inv.step taken).2 (routesMutual_iff.mp good)
  exact always_iff_guarded preserved exactStep startInv (routesMutual_iff.mpr startGood)

def allSucceeds : IfaceOutcome where
  calloc := true
  pending := true
  id := ⟨true, .succeeds, true, true⟩
  ep := ⟨true, .succeeds, true, true⟩
  pair := true

def rawPacket (names : List String) : RtemgrData where
  cmd := rtemgrDataAlloc.cmd
  interfaces := names.map fun name =>
    { freshIntf with busType := 1, name := strncpy 16 (ascii name), path := strncpy 128 (ascii name) }

def noEmit : EmitLib := ⟨fun _ => [], fun _ => []⟩

def noMemory : Nat → Memory := fun _ => ⟨fun _ => false, false, false, false, false⟩

def openThree : List DaemonCall :=
  [.rtecmdOpen allSucceeds (rawPacket ["a"]), .rtecmdOpen allSucceeds (rawPacket ["b"]),
    .rtecmdOpen allSucceeds (rawPacket ["c"])]

theorem routes_mutual_iff_three : ∃ start, rtemgrd dtblTable allSucceeds = .ok (start, 0) ∧
    (Always (DaemonStep dtblTable noEmit) RoutesMutual start openThree ↔
      Guarded (DaemonStep dtblTable noEmit) LeavesNoPartner start openThree) := by
  obtain ⟨start, started⟩ : ∃ start, rtemgrd dtblTable allSucceeds = .ok (start, 0) := ⟨_, rfl⟩
  exact ⟨start, started, routes_mutual_iff noEmit started⟩

def Daemon.started : Daemon (Dtbl EpPtr) := (Daemon.start dtblTable).evaluated (rtemgrd dtblTable allSucceeds)

theorem rtemgrd_started : rtemgrd dtblTable allSucceeds = .ok (Daemon.started, 0) :=
  evaluated_returned (by decide +kernel)

def Daemon.opened (st : Daemon (Dtbl EpPtr)) (name : String) : Daemon (Dtbl EpPtr) :=
  st.evaluated (doRtecmdOpen dtblTable st allSucceeds (rawPacket [name]))

theorem opened_step {st : Daemon (Dtbl EpPtr)} {name : String}
    (opens : ((doRtecmdOpen dtblTable st allSucceeds (rawPacket [name])).map Prod.snd).toOption = some 0) :
    DaemonStep dtblTable noEmit st (.rtecmdOpen allSucceeds (rawPacket [name])) (st.opened name) :=
  ⟨0, evaluated_returned opens⟩

/-- Routing `a` to `c` leaves `b` with `a` as its partner, also after `a` is freed. -/
theorem reroute_dangles : ∃ start st, rtemgrd dtblTable allSucceeds = .ok (start, 0) ∧
    Reaches (DaemonStep dtblTable noEmit) start
      (openThree ++ [.rtecmdRoute noMemory noMemory (rawPacket ["a", "b"]),
        .rtecmdRoute noMemory noMemory (rawPacket ["a", "c"]), .rtecmdClose (rawPacket ["a"])]) st ∧
      ¬RoutesMutual st := by
  refine ⟨_, _, rfl, .cons ⟨0, rfl⟩ (.cons ⟨0, rfl⟩ (.cons ⟨0, rfl⟩ (.cons ⟨0, rfl⟩ (.cons ⟨0, rfl⟩ (.cons ⟨0, rfl⟩
    (.nil _)))))), fun routes => ?_⟩
  obtain ⟨-, live⟩ := routes.present 2 _ 1 ⟨0, _, rfl, by decide⟩ rfl rfl
  exact Bool.false_ne_true live

end Rteipc
