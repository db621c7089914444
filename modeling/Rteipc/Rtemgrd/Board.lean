import Rteipc.Data.Switchboard
import Rteipc.Rtemgrd.Listing
import Rteipc.Rtemgrd.Survives

namespace Rteipc

/-! The daemon as its users see it: a switchboard of interfaces on which the
commands of the control packets act, and nothing else does. -/

open Data

/-! ## Interfaces and addresses -/

/-- What is told of an interface. -/
structure Entry where
  name : List UInt8
  busType : BitVec 32
  path : List UInt8
  managed : BitVec 32
deriving DecidableEq, Repr

def Interface.entry (self : Interface) : Entry := ⟨self.name, self.busType, self.ownPath, self.managed⟩

/-- The one domain has id 0. -/
def Entry.address (entry : Entry) : BitVec 32 × List UInt8 := (0, entry.name)

def RtemgrIntf.address (intf : RtemgrIntf) : BitVec 32 × List UInt8 := (intf.domain, intf.name.text)

/-- The entry of an interface that is opened; its URI is cut to 127 bytes. -/
def RtemgrIntf.entry (intf : RtemgrIntf) : Entry :=
  ⟨intf.name.text, intf.busType, intf.path.text.take (127 - (busToPrefix intf.busType).length), intf.managed⟩

abbrev Board := Switchboard IfacePtr Entry

abbrev BoardCommand := Command IfacePtr Entry (BitVec 32 × List UInt8)

/-- What a packet asks for. An interface is opened as `fresh`, unless the reply
says that this failed. -/
def RtemgrData.command (d : RtemgrData) (fresh : IfacePtr) (error : BitVec 32) : BoardCommand :=
  match d.cmd.action.toNat, d.interfaces with
  | 2, intf :: _ => if error = 0 then .join fresh intf.entry (intf.managed ≠ 0) else .nothing
  | 3, interfaces => .leave (interfaces.map RtemgrIntf.address)
  | 4, [left, right] => .connect left.address right.address
  | 5, intf :: _ => .forget intf.address
  | _, _ => .nothing

def Daemon.party (st : Daemon (Dtbl EpPtr)) (iface : IfacePtr) : Option (IfacePtr × Entry) :=
  (st.ifaces.get iface).map fun self => (iface, self.entry)

noncomputable def Daemon.board (st : Daemon (Dtbl EpPtr)) : Board :=
  ⟨(st.domainList.flatMap Domain.ifaceList).filterMap st.party, st.partners⟩

/-! ## The one domain -/

def OneDomain (st : Daemon (Dtbl EpPtr)) : Prop := ∃ ifaces, st.domainList = [⟨0, ifaces⟩]

section Domains

variable {st next made : Daemon (Dtbl EpPtr)} {iface : IfacePtr} {ifaces : List IfacePtr} {intf : RtemgrIntf}
  {self : Interface} {domain : Nat}

theorem board_parties (one : st.domainList = [⟨0, ifaces⟩]) : st.board.parties = ifaces.filterMap st.party := by
  simp only [Daemon.board, one, List.flatMap_cons, List.flatMap_nil, List.append_nil]

theorem listed_one (one : st.domainList = [⟨0, ifaces⟩]) : Listed st iface ↔ iface ∈ ifaces := by
  rw [listed_iff, one]
  simp only [List.mem_singleton, exists_eq_left]

theorem one_inside (one : st.domainList = [⟨0, ifaces⟩]) (inside : domain < st.domainList.length) : domain = 0 := by
  rw [one, List.length_singleton] at inside
  exact Nat.lt_one_iff.mp inside

theorem domainLookupById_one (one : st.domainList = [⟨0, ifaces⟩]) {id : BitVec 32} :
    domainLookupById st id = if 0 = id then some 0 else none := by
  rw [domainLookupById, one, List.findIdx?_cons]
  by_cases here : 0 = id
  · rw [if_pos (decide_eq_true here), if_pos here]
  · rw [if_neg (fun same => here (of_decide_eq_true same)), if_neg here]
    rfl

/-- An interface is found on the switchboard as the daemon finds it. -/
theorem board_find (one : st.domainList = [⟨0, ifaces⟩]) : st.board.find Entry.address intf.address = ifaceOf st intf := by
  let wanted : IfacePtr → Bool := fun iface =>
    (st.ifaces.get iface).any fun self => decide (self.entry.address = intf.address)
  have left : st.board.find Entry.address intf.address = ifaces.find? wanted := by
    have same : (fun iface => (st.party iface).any fun party => decide (party.2.address = intf.address)) = wanted := by
      funext iface
      exact Option.any_map
    rw [Switchboard.find, board_parties one, List.find?_filterMap, same]
    cases found : ifaces.find? wanted with
    | none => rfl
    | some iface =>
        have isWanted := List.find?_some found
        obtain ⟨self, live, -⟩ := (Option.any_eq_true _ _).mp isWanted
        rw [Option.bind_some, Daemon.party, live]
        rfl
  have right : ifaceOf st intf = ifaces.find? wanted := by
    rw [ifaceOf, domainLookupById_one one]
    by_cases here : 0 = intf.domain
    · have same : (fun iface => (st.ifaces.get iface).any fun self => strmatch self.name intf.name.text) = wanted := by
        funext iface
        refine congrArg (Option.any · (st.ifaces.get iface)) ?_
        funext self
        rw [Bool.eq_iff_iff, strmatch_iff, decide_eq_true_iff, Interface.entry, Entry.address, RtemgrIntf.address,
          Prod.mk.injEq, and_iff_right here]
      rw [if_pos here, ifaceLookupByName, Option.bind_some, one, List.getElem?_cons_zero, Option.bind_some, same]
    · rw [if_neg here, ifaceLookupByName, Option.bind_none, eq_comm, List.find?_eq_none]
      intro iface _ isWanted
      obtain ⟨self, -, named⟩ := (Option.any_eq_true _ _).mp isWanted
      exact here (congrArg Prod.fst (of_decide_eq_true named))
  rw [left, right]

theorem party_of_identity
    (same : (next.ifaces.get iface).map Interface.identity = (st.ifaces.get iface).map Interface.identity) :
    next.party iface = st.party iface := by
  have entries := congrArg (Option.map fun self => (iface, self.entry)) same
  rw [Option.map_map, Option.map_map] at entries
  exact entries

theorem Steady.board (steady : Steady st next) : next.board = { st.board with partners := next.partners } := by
  have parties : next.party = st.party := funext fun iface => party_of_identity (steady.ifaces iface)
  rw [Daemon.board, Daemon.board, steady.lists, parties]

theorem ifaceFree_board (one : st.domainList = [⟨0, ifaces⟩]) (inv : RouteInv st) (listed : Listed st iface)
    (returned : ifaceFree dtblTable st iface = .ok next) :
    next.domainList = [⟨0, ifaces.filter fun other => other ≠ iface⟩] ∧ next.board = st.board.remove iface := by
  obtain ⟨owner, closed, freed, -, -⟩ := ifaceFree_freed returned
  have home : owner.domain = 0 := by
    obtain ⟨position, listing, found, member⟩ := listed
    obtain ⟨same, live, here⟩ := inv.listed position listing iface found member
    cases live.symm.trans freed.live
    exact here.trans (one_inside one (List.getElem?_eq_some_iff.mp found).1)
  have lists : next.domainList = [⟨0, ifaces.filter fun other => other ≠ iface⟩] := by
    rw [freed.lists, one, home]
    rfl
  refine ⟨lists, ?_⟩
  have graph := (ifaceFree_partners inv listed returned).1
  have parties : next.board.parties = (st.board.remove iface).parties := by
    rw [board_parties lists, Switchboard.remove, board_parties one, List.filter_filterMap, List.filterMap_filter]
    refine List.filterMap_congr fun other _ => ?_
    by_cases same : other = iface
    · rw [if_neg (by simp [same]), Daemon.party]
      cases st.ifaces.get other with
      | none => rfl
      | some self => simp [Option.filter_some, same]
    · rw [if_pos (decide_eq_true same), party_of_identity (freed.others other same), Daemon.party]
      cases st.ifaces.get other with
      | none => rfl
      | some self => simp [Option.filter_some, same]
  have whole : ∀ board : Board, board = ⟨board.parties, board.partners⟩ := fun _ => rfl
  rw [whole next.board, parties]
  exact congrArg (Switchboard.mk _) graph

theorem closeInterfaces_board {interfaces : List RtemgrIntf} (one : OneDomain st) (inv : RouteInv st)
    (returned : closeInterfaces dtblTable st interfaces = .ok next) :
    OneDomain next ∧ next.board = st.board.leave Entry.address (interfaces.map RtemgrIntf.address) := by
  induction interfaces generalizing st with
  | nil =>
      cases returned
      exact ⟨one, rfl⟩
  | cons intf rest ih =>
      obtain ⟨ifaces, lists⟩ := one
      unfold closeInterfaces at returned
      rw [List.map_cons, Switchboard.leave, board_find lists]
      split at returned
      next absent =>
        rw [absent]
        exact ih ⟨ifaces, lists⟩ inv returned
      next iface found =>
        obtain ⟨middle, free, returned⟩ := bind_ok returned
        have listed := ifaceOf_listed found
        obtain ⟨fewer, removed⟩ := ifaceFree_board lists inv listed free
        obtain ⟨kept, last⟩ := ih ⟨_, fewer⟩ (ifaceFree_partners inv listed free).2 returned
        rw [removed] at last
        rw [found]
        exact ⟨kept, last⟩

theorem routedPair_board (lists : st.domainList = [⟨0, ifaces⟩]) {d : RtemgrData} (action : d.cmd.action.toNat = 4)
    (fresh : IfacePtr) (error : BitVec 32) :
    st.board.obey Entry.address (d.command fresh error) =
      match routedPair st d with
      | none => st.board
      | some (l, r) => { st.board with partners := st.partners.connect l r } := by
  unfold RtemgrData.command routedPair
  rcases interfaces : d.interfaces with _ | ⟨lh, _ | ⟨rh, _ | ⟨third, rest⟩⟩⟩
  all_goals simp only [action]
  case cons.cons.nil =>
    simp only [Switchboard.obey, board_find lists]
    cases ifaceOf st lh with
    | none => rfl
    | some l =>
        cases ifaceOf st rh with
        | none => rfl
        | some r =>
            by_cases same : l = r
            · simp only [if_pos same]
            · simp only [if_neg same]
              rfl
  all_goals rfl

theorem doRtecmdRoute_board {emitLib : EmitLib} {left right : Nat → Memory} {d : RtemgrData} {ret : Int}
    (one : OneDomain st) (inv : RouteInv st) (action : d.cmd.action.toNat = 4)
    (returned : doRtecmdRoute emitLib st left right d = .ok (next, ret)) (fresh : IfacePtr) (error : BitVec 32) :
    next.board = st.board.obey Entry.address (d.command fresh error) := by
  obtain ⟨ifaces, lists⟩ := one
  rw [routedPair_board lists action]
  obtain ⟨-, ⟨none, rfl⟩ | ⟨l, r, pair, -, -, -, graph⟩⟩ := doRtecmdRoute_routes inv returned
  · rw [none]
  · rw [pair, (doRtecmdRoute_steady returned).board, graph]

theorem doRtecmdForget_board {d : RtemgrData} {ret : Int} (one : OneDomain st) (inv : RouteInv st)
    (action : d.cmd.action.toNat = 5) (returned : doRtecmdForget st d = .ok (next, ret)) (fresh : IfacePtr)
    (error : BitVec 32) : next.board = st.board.obey Entry.address (d.command fresh error) := by
  obtain ⟨ifaces, lists⟩ := one
  unfold doRtecmdForget at returned
  unfold RtemgrData.command
  split at returned
  next => cases returned
  next intf rest interfaces =>
    simp only [action, interfaces, Switchboard.obey, board_find lists]
    split at returned
    next absent =>
      cases returned
      rw [absent]
    next iface found =>
      obtain ⟨forgotten, forget, returned⟩ := map_ok returned
      cases returned
      rw [found, (ifaceForget_steady forget).board, (ifaceForget_partners inv (ifaceOf_listed found) forget).1]
      rfl

theorem party_ne_next {party : IfacePtr × Entry} (member : party ∈ ifaces.filterMap st.party) : party.1 ≠ st.ifaces.next := by
  obtain ⟨iface, -, isParty⟩ := List.mem_filterMap.mp member
  obtain ⟨self, live, rfl⟩ := Option.map_eq_some_iff.mp isParty
  exact Heap.live_ne_next live

theorem built_board (inv : RouteInv st) (lists : st.domainList = [⟨0, ifaces⟩]) {lib : Lib} {build : Interface → Interface}
    (alone : (build (freshInterface 0)).partner = none) :
    (built st lib 0 build).domainList = [⟨0, ifaces ++ [st.ifaces.next]⟩] ∧
      (built st lib 0 build).board =
        st.board.join st.ifaces.next (build (freshInterface 0)).entry (build (freshInterface 0)).node.hub := by
  have inside : 0 < st.domainList.length := by
    rw [lists]
    exact Nat.zero_lt_one
  have longer : (built st lib 0 build).domainList = [⟨0, ifaces ++ [st.ifaces.next]⟩] := by
    simp only [built, grown, lists]
    rfl
  refine ⟨longer, ?_⟩
  have parties : (built st lib 0 build).board.parties = st.board.parties ++ [(st.ifaces.next, (build (freshInterface 0)).entry)] := by
    rw [board_parties longer, board_parties lists, List.filterMap_append]
    refine congrArg₂ _ (List.filterMap_congr fun iface member => ?_) ?_
    · obtain ⟨self, live⟩ := inv.live ((listed_one lists).mpr member)
      rw [Daemon.party, Daemon.party, built_get, if_neg (Heap.live_ne_next live)]
    · rw [List.filterMap_cons, Daemon.party, built_get, if_pos rfl]
      rfl
  have graph : (built st lib 0 build).board.partners = st.partners.add st.ifaces.next (build (freshInterface 0)).node.hub :=
    built_partners inside alone
  have whole : ∀ board : Board, board = ⟨board.parties, board.partners⟩ := fun _ => rfl
  rw [whole (built st lib 0 build).board, parties, graph]
  rfl

/-- A party that has just joined leaves no trace when it is removed. -/
theorem board_rolledBack (inv : RouteInv st) (lists : st.domainList = [⟨0, ifaces⟩]) (entry : Entry) (hub : Bool) :
    (st.board.join st.ifaces.next entry hub).remove st.ifaces.next = st.board := by
  have parties : (st.board.parties ++ [(st.ifaces.next, entry)]).filter (fun party => party.1 ≠ st.ifaces.next) =
      st.board.parties := by
    rw [List.filter_append, List.filter_cons_of_neg (by simp), List.filter_nil, List.append_nil, List.filter_eq_self]
    intro party member
    rw [board_parties lists] at member
    exact decide_eq_true (party_ne_next member)
  have unnamed : Respects (fun _ partner => partner ≠ st.ifaces.next) st.partners :=
    inv.named.mono fun _ _ both => Nat.ne_of_lt both.2
  rw [Switchboard.remove, Switchboard.join]
  dsimp only
  rw [parties]
  exact congrArg (Switchboard.mk _) (Partners.remove_add next_unlisted unnamed hub)

theorem built_entry {intf : RtemgrIntf} {id ep : Int} :
    ((freshInterface domain).built id ep intf.name.text ((busToPrefix intf.busType ++ intf.path.text).take 127) intf.busType
      intf.managed).entry = intf.entry := by
  simp only [Interface.entry, Interface.ownPath, Interface.built, RtemgrIntf.entry, List.drop_take, List.drop_left]

theorem doRtecmdOpen_board {outcome : IfaceOutcome} {d : RtemgrData} {ret : Int} (one : OneDomain st) (inv : RouteInv st)
    (action : d.cmd.action.toNat = 2) (returned : doRtecmdOpen dtblTable st outcome d = .ok (next, ret)) :
    OneDomain next ∧ next.board = st.board.obey Entry.address (d.command st.ifaces.next (BitVec.ofInt 32 ret)) := by
  have refused : d.command st.ifaces.next (BitVec.ofInt 32 (-1)) = .nothing := by
    unfold RtemgrData.command
    cases d.interfaces with
    | nil => simp only [action]
    | cons intf rest =>
        simp only [action]
        rfl
  obtain ⟨rfl, rfl, -⟩ | ⟨intf, rest, domain, made, failed, interfaces, found, -, -, build, ended⟩ := doRtecmdOpen_ok returned
  · rw [refused]
    exact ⟨one, rfl⟩
  obtain ⟨ifaces, lists⟩ := one
  have inside := domainLookupById_inside found
  obtain rfl := one_inside lists inside
  obtain ⟨opened, id, both, ep, lib, -, -, rfl, -⟩ := ifaceBuild_ok build
  let make : Interface → Interface := fun self =>
    self.built id ep intf.name.text ((busToPrefix intf.busType ++ intf.path.text).take 127) intf.busType intf.managed
  have alone : (make (freshInterface 0)).partner = none := rfl
  obtain ⟨longer, joined⟩ := @built_board _ _ inv lists lib make alone
  have isEntry : (make (freshInterface 0)).entry = intf.entry := built_entry
  rw [isEntry] at joined
  obtain ⟨-, rfl, rfl⟩ | ⟨-, rfl, free⟩ := ended
  · refine ⟨⟨_, longer⟩, ?_⟩
    unfold RtemgrData.command
    simp only [action, interfaces]
    exact joined
  · have madeInv : RouteInv (built st lib 0 make) := inv.built inside alone rfl
    have listed : Listed (built st lib 0 make) st.ifaces.next := (built_listed inside).mpr (.inl rfl)
    obtain ⟨fewer, removed⟩ := ifaceFree_board longer madeInv listed free
    rw [joined, board_rolledBack inv lists] at removed
    rw [refused]
    exact ⟨⟨_, fewer⟩, removed⟩

end Domains

/-! ## Steps -/

section Steps

variable {lib : PacketLib} {st next : Daemon (Dtbl EpPtr)} {memory : CtlMemory} {d reply : RtemgrData} {data : List UInt8}

theorem OneDomain.steady (one : OneDomain st) (steady : Steady st next) : OneDomain next := by
  obtain ⟨ifaces, lists⟩ := one
  exact ⟨ifaces, steady.lists.trans lists⟩

theorem Steady.same_board (steady : Steady st next) (same : SameRoutes st next) : next.board = st.board := by
  rw [steady.board, same.same_partners]
  rfl

theorem ifaceManagedHandler_board {managed : ManagedMemory} {iface : IfacePtr} (one : OneDomain st)
    (returned : ifaceManagedHandler lib managed st iface data = .ok next) : OneDomain next ∧ next.board = st.board := by
  obtain ⟨call, -, returned⟩ := bind_ok returned
  split at returned
  next =>
    cases returned
    exact ⟨one, rfl⟩
  next =>
    obtain ⟨sent, -, returned⟩ := bind_ok returned
    cases returned
    exact ⟨one, rfl⟩

theorem command_nothing {fresh : IfacePtr} {error : BitVec 32}
    (other : ¬(d.cmd.action.toNat = 2 ∨ d.cmd.action.toNat = 3 ∨ d.cmd.action.toNat = 4 ∨ d.cmd.action.toNat = 5)) :
    d.command fresh error = .nothing := by
  unfold RtemgrData.command
  split
  next action _ => exact (other (.inl action)).elim
  next action => exact (other (.inr (.inl action))).elim
  next action _ => exact (other (.inr (.inr (.inl action)))).elim
  next action _ => exact (other (.inr (.inr (.inr action)))).elim
  next => rfl

/-- The command of a packet is carried out on the switchboard. -/
theorem ctlAction_board (one : OneDomain st) (inv : RouteInv st)
    (returned : ctlAction dtblTable lib memory st d data = .ok (next, reply)) :
    OneDomain next ∧ next.board = st.board.obey Entry.address (d.command st.ifaces.next reply.cmd.error) := by
  have same : ¬(d.cmd.action.toNat = 2 ∨ d.cmd.action.toNat = 3 ∨ d.cmd.action.toNat = 4 ∨ d.cmd.action.toNat = 5) →
      OneDomain next ∧ next.board = st.board →
        OneDomain next ∧ next.board = st.board.obey Entry.address (d.command st.ifaces.next reply.cmd.error) := by
    intro other kept
    rw [command_nothing other]
    exact kept
  unfold ctlAction at returned
  split at returned
  next action =>
    obtain ⟨done, -, returned⟩ := map_ok returned
    cases returned
    exact same (by rw [action]; decide) ⟨one, rfl⟩
  next action =>
    obtain ⟨done, opened, returned⟩ := map_ok returned
    cases returned
    exact doRtecmdOpen_board one inv action opened
  next action =>
    obtain ⟨done, closed, returned⟩ := map_ok returned
    cases returned
    obtain ⟨kept, left⟩ := closeInterfaces_board one inv (doRtecmdClose_ok closed)
    refine ⟨kept, left.trans ?_⟩
    simp only [RtemgrData.command, action, Switchboard.obey]
  next action =>
    obtain ⟨done, routed, returned⟩ := map_ok returned
    cases returned
    exact ⟨one.steady (doRtecmdRoute_steady routed), doRtecmdRoute_board one inv action routed _ _⟩
  next action =>
    obtain ⟨done, forgot, returned⟩ := map_ok returned
    cases returned
    exact ⟨one.steady (doRtecmdForget_steady forgot), doRtecmdForget_board one inv action forgot _ _⟩
  next action =>
    split at returned
    next => cases returned
    next =>
      obtain ⟨done, handled, returned⟩ := map_ok returned
      cases returned
      exact same (by rw [action]; decide) (ifaceManagedHandler_board one handled)
  next action =>
    obtain ⟨⟨after, result⟩, shown, returned⟩ := map_ok returned
    cases returned
    have steady : Steady st after := by
      obtain rfl | ⟨iface, pending, rfl⟩ := doRtecmdCat_ok shown
      · exact .refl after
      · exact .of_modify st iface _ fun _ => rfl
    exact same (by rw [action]; decide) ⟨one.steady steady, steady.same_board (doRtecmdCat_sameRoutes shown)⟩
  next _ opens closes routes forgets _ _ =>
    cases returned
    refine same (fun other => ?_) ⟨one, rfl⟩
    obtain action | action | action | action := other
    · exact opens action
    · exact closes action
    · exact routes action
    · exact forgets action

/-! ### Turns -/

/-- One message handled, and the reply that is handed over for it. -/
structure Turn where
  msg : LoopMessage
  reply : Option (List UInt8 × Int)

def TurnStep (lib : PacketLib) (st : Daemon (Dtbl EpPtr)) (turn : Turn) (next : Daemon (Dtbl EpPtr)) : Prop :=
  turn.msg.loop ∈ st.lib.loList ∧ turn.msg.loop.cb = some .defaultDomainHandler ∧
    defaultDomainHandler dtblTable lib st turn.msg = .ok (next, turn.reply)

/-- The packet in a message for the control port. -/
def Turn.packet (turn : Turn) (lib : PacketLib) : Option RtemgrData :=
  if strmatch turn.msg.loop.name rtemgrdCtlport then
    match receivePacket lib turn.msg.memory.packet turn.msg.data with
    | .ok received => received
    | .error _ => none
  else none

/-- The reply holds this error. -/
def Turn.Reports (turn : Turn) (lib : PacketLib) (error : BitVec 32) : Prop :=
  ∀ document sent, turn.reply = some (document, sent) →
    ∃ reply : RtemgrData, document = lib.write (rtemgrDataEmit lib.encode reply) ∧ reply.cmd.error = error

/-- What a turn does to the switchboard: the command of its packet, if it has
one. Whether an interface could be opened stands in the reply. -/
def BoardStep (lib : PacketLib) (board : Board) (turn : Turn) (after : Board) : Prop :=
  match turn.packet lib with
  | none => after = board
  | some d => ∃ fresh error, (∀ party ∈ board.parties, party.1 ≠ fresh) ∧ turn.Reports lib error ∧
      after = board.obey Entry.address (d.command fresh error)

theorem sendReply_document {emit : Bool} {sent : Option (List UInt8 × Int)} {document : List UInt8} {ret : Int}
    (returned : sendReply lib.toEmitLib emit st d = .ok (next, sent)) (handed : sent = some (document, ret)) :
    document = lib.write (rtemgrDataEmit lib.encode d) := by
  unfold sendReply at returned
  split at returned
  next => cases returned
  split at returned
  next =>
    cases returned
    cases handed
  split at returned
  next =>
    cases returned
    cases handed
  next written fits =>
    obtain ⟨done, -, returned⟩ := bind_ok returned
    cases returned
    cases handed
    exact (emitInto_some fits).2

theorem TurnStep.board {turn : Turn} (one : OneDomain st) (inv : RouteInv st) (taken : TurnStep lib st turn next) :
    OneDomain next ∧ BoardStep lib st.board turn next.board := by
  obtain ⟨msg, reply⟩ := turn
  obtain ⟨-, -, returned⟩ := taken
  unfold BoardStep Turn.packet
  unfold defaultDomainHandler at returned
  split at returned
  next control =>
    rw [if_pos control]
    obtain ⟨received, read, returned⟩ := bind_ok returned
    dsimp only at read returned ⊢
    rw [read]
    cases received with
    | none =>
        cases returned
        exact ⟨one, rfl⟩
    | some d =>
        obtain ⟨⟨middle, replied⟩, action, returned⟩ := bind_ok returned
        obtain ⟨ep, -, rfl⟩ := sendReply_transferred returned
        obtain ⟨kept, obeyed⟩ := ctlAction_board one inv action
        refine ⟨kept, st.ifaces.next, replied.cmd.error, ?_, ?_, obeyed⟩
        · obtain ⟨ifaces, lists⟩ := one
          intro party member
          rw [board_parties lists] at member
          exact party_ne_next member
        · intro document sent handed
          exact ⟨replied, sendReply_document returned handed, rfl⟩
  next other =>
    rw [if_neg other]
    dsimp only at returned ⊢
    split at returned
    next =>
      cases returned
      exact ⟨one, rfl⟩
    next iface _ =>
      obtain ⟨after, handler, returned⟩ := map_ok returned
      cases returned
      obtain ⟨self, -, handler⟩ := bind_ok handler
      split at handler
      next =>
        cases handler
        exact ⟨one, rfl⟩
      next =>
        have steady := ifaceRawHandler_steady handler
        exact ⟨one.steady steady, steady.same_board (ifaceRawHandler_sameRoutes handler)⟩
      next => exact ifaceManagedHandler_board one handler

end Steps

/-! ## Runs -/

/-- The control interface. -/
def ctrlEntry : Entry := ⟨rtemgrdCtlport, EpType.ipc.number, rtemgrdCtlport, 1⟩

section Runs

variable {lib : PacketLib} {st start next : Daemon (Dtbl EpPtr)} {outcome : IfaceOutcome}

theorem TurnStep.taken {turn : Turn} (taken : TurnStep lib st turn next) : RtemgrdStep dtblTable lib st turn.msg next :=
  ⟨taken.1, taken.2.1, turn.reply, taken.2.2⟩

theorem rtemgrd_board (started : rtemgrd dtblTable outcome = .ok (st, 0)) : OneDomain st ∧ ∃ ctrl,
    st.ctrlIface = some ctrl ∧ st.board = Switchboard.empty.join ctrl ctrlEntry true := by
  have build := rtemgrd_build started
  obtain ⟨inv, -⟩ : DaemonInv settingUp ∧ Connections settingUp := start_connections _
  obtain ⟨opened, id, both, ep, lib, -, -, rfl, -⟩ := ifaceBuild_ok build
  let make : Interface → Interface := fun self =>
    self.built id ep rtemgrdCtlport ((busToPrefix EpType.ipc.number ++ rtemgrdCtlport).take 127) EpType.ipc.number 1
  obtain ⟨longer, joined⟩ := @built_board _ _ inv.routes rfl lib make rfl
  have nobody : settingUp.board = Switchboard.empty := by
    have unnamed : settingUp.partners = fun _ => none := by
      funext iface
      refine partners_unlisted fun listed => ?_
      exact (List.not_mem_nil ((listed_one rfl).mp listed)).elim
    rw [Daemon.board, unnamed]
    rfl
  have path : ((busToPrefix EpType.ipc.number ++ rtemgrdCtlport).take 127).drop (busToPrefix EpType.ipc.number).length =
      rtemgrdCtlport := by
    decide +kernel
  have isEntry : (make (freshInterface 0)).entry = ctrlEntry :=
    congrArg (Entry.mk rtemgrdCtlport EpType.ipc.number · 1) path
  rw [nobody, isEntry] at joined
  exact ⟨⟨_, longer⟩, settingUp.ifaces.next, rfl, joined⟩

theorem board_run {turns : List Turn} (reached : Reaches (TurnStep lib) start turns st) (one : OneDomain start)
    (inv : DaemonInv start) : Reaches (BoardStep lib) start.board turns st.board := by
  induction reached with
  | nil state => exact .nil state.board
  | cons taken _ ih =>
      obtain ⟨kept, step⟩ := taken.board one inv.routes
      exact .cons step (ih kept (inv.step taken.taken))

/-- Whatever messages it handles, the daemon is a switchboard that carries out the
commands of the packets at the control port, and nothing else: only whether an
interface could be opened is not known from them, and the reply tells. -/
theorem daemon_refines_board (lib : PacketLib) (started : rtemgrd dtblTable outcome = .ok (start, 0)) {turns : List Turn}
    (reached : Reaches (TurnStep lib) start turns st) :
    ∃ ctrl, start.ctrlIface = some ctrl ∧
      Reaches (BoardStep lib) (Switchboard.empty.join ctrl ctrlEntry true) turns st.board := by
  obtain ⟨one, ctrl, pointer, board⟩ := rtemgrd_board started
  refine ⟨ctrl, pointer, ?_⟩
  rw [← board]
  exact board_run reached one (rtemgrd_inv started)

/-- One interface is opened. -/
theorem daemon_refines_board_open : ∃ turn st ctrl,
    TurnStep (.receiving (openPacket 1 "a" "b")) .started turn st ∧ Daemon.started.ctrlIface = some ctrl ∧
      Reaches (BoardStep (.receiving (openPacket 1 "a" "b"))) (Switchboard.empty.join ctrl ctrlEntry true) [turn] st.board := by
  obtain ⟨lo, member, named, called⟩ := started_loop
  let lib : PacketLib := .receiving (openPacket 1 "a" "b")
  have returns : (processCtlport dtblTable lib .succeeds .started []).toBool = true := by decide +kernel
  cases handled : processCtlport dtblTable lib .succeeds .started [] with
  | error fault =>
      rw [handled] at returns
      cases returns
  | ok done =>
      let turn : Turn := ⟨⟨.succeeds, plentyOfMemory 0, lo, []⟩, done.2⟩
      have taken : TurnStep lib .started turn done.1 := by
        refine ⟨member, called, ?_⟩
        rw [defaultDomainHandler, if_pos (strmatch_iff.mpr named)]
        exact handled
      obtain ⟨ctrl, pointer, reaches⟩ := daemon_refines_board lib rtemgrd_started (.cons taken (.nil _))
      exact ⟨turn, done.1, ctrl, taken, pointer, reaches⟩

example : (Daemon.served (openPacket 1 "a" "b")).board.parties = [(0, ctrlEntry), (1, ⟨ascii "a", 1, ascii "b", 0⟩)] := by
  decide +kernel

end Runs

end Rteipc
