import Rteipc.Rtemgr.Told
import Rteipc.Rtemgrd.Board

namespace Rteipc

/-! The table that `rtemgr list` prints: it shows every interface of the daemon
but the control interface. -/

open Data

/-! ## Ids -/

/-- Every entry of the table has one of its 128 ids. -/
structure IdsBelow (table : Dtbl EpPtr) : Prop where
  entries : table.maxEntries = 2
  below : ∀ entry ∈ table.entryList, 0 ≤ entry.id ∧ entry.id < 128

section Table

variable {table : Dtbl EpPtr} {st next : Lib} {id : Int}

theorem IdsBelow.found {ep : EpPtr} (below : IdsBelow table) (found : dtblGet table id = some ep) : 0 ≤ id ∧ id < 128 := by
  obtain ⟨entry, member, rfl, -⟩ := dtblGet_entry found
  exact below.below entry member

theorem IdsBelow.set (below : IdsBelow table) (alloc : DtblAlloc) (ep : EpPtr) :
    IdsBelow (dtblTable.set alloc table ep).1 := by
  change IdsBelow (dtblSet alloc table (some ep)).1
  cases allocated : dtblDesc alloc table with
  | none =>
      rw [dtblSet_noDesc allocated]
      exact below
  | some desc =>
      by_cases failed : dtblNextId desc table.nextEntry table.maxEntries < 0
      · rw [dtblSet_full allocated failed]
        exact ⟨below.entries, below.below⟩
      · obtain ⟨id, chosen, bound, -⟩ := dtblNextId_spec (Int.not_lt.mp failed)
        cases entry : alloc.entry with
        | false =>
            rw [dtblSet_lost allocated chosen entry]
            exact ⟨below.entries, below.below⟩
        | true =>
            rw [dtblSet_stored allocated chosen entry]
            refine ⟨below.entries, fun other member => ?_⟩
            obtain old | new := List.mem_append.mp member
            · exact below.below other old
            · obtain rfl := List.mem_singleton.mp new
              rw [below.entries, descBitWidth] at bound
              dsimp only
              omega

theorem IdsBelow.del (below : IdsBelow table) (id : Int) : IdsBelow (dtblDel table id) := by
  refine ⟨?_, ?_⟩
  · unfold dtblDel
    split
    next => exact below.entries
    next => exact below.entries
  · rw [dtblDel_entryList]
    exact below.below

theorem rteipcOpen_idsBelow {outcome : OpenOutcome} {uri : List UInt8} {ret : Int} (below : IdsBelow st.epTbl)
    (returned : rteipcOpen dtblTable st outcome uri = .ok (next, ret)) : IdsBelow next.epTbl := by
  have set := below.set outcome.desc st.cores.next
  by_cases long : (scanUri uri).1.length > 15
  · rw [rteipcOpen, if_pos long] at returned
    cases returned
  cases parsed : parseUri uri with
  | none =>
      simp only [rteipcOpen, if_neg long, parsed] at returned
      cases returned
      exact below
  | some target =>
      obtain ⟨type, path⟩ := target
      cases allocated : outcome.core with
      | false =>
          simp only [rteipcOpen, if_neg long, parsed, allocated] at returned
          cases returned
          exact below
      | true =>
          by_cases refused : (dtblTable.set outcome.desc st.epTbl st.cores.next).2 < 0
          · rw [rteipcOpen_refused long parsed allocated refused] at returned
            cases returned
            exact set
          · rw [rteipcOpen_registered long parsed allocated refused] at returned
            obtain ⟨same, failed, -⟩ | ⟨opened, succeeded, -⟩ :=
              openEndpoint_cases (withEndpoint dtblTable st outcome.desc type) outcome type st.cores.next path
            · rw [if_pos failed, same, unregisterEndpoint_idle withEndpoint_new rfl] at returned
              cases returned
              exact set.del _
            · rw [if_neg (not_not.mpr succeeded), opened] at returned
              cases returned
              exact set

theorem closeIfOpen_idsBelow (below : IdsBelow st.epTbl) (returned : closeIfOpen dtblTable st id = .ok next) :
    IdsBelow next.epTbl := by
  unfold closeIfOpen at returned
  split at returned
  next =>
    obtain ⟨-, rfl⟩ | ⟨ep, core, -, -, closed⟩ := rteipcClose_ok returned
    · exact below
    · rw [closed.epTbl, closeEndpoint_eq]
      exact below.del _
  next =>
    cases returned
    exact below

theorem xferSetcb_epTbl (lib : Lib) (name : List UInt8) (iface : IfacePtr) :
    (rteipcXferSetcb lib name (some .defaultDomainHandler) (some iface)).1.epTbl = lib.epTbl := by
  obtain ⟨-, same⟩ | ⟨lo, -, same⟩ := xferSetcb_cases lib name iface
  · rw [same]
  · rw [same]
    rfl

end Table

section Daemon

variable {lib : PacketLib} {st next made : Daemon (Dtbl EpPtr)} {outcome : IfaceOutcome} {iface : IfacePtr}
  {name path : List UInt8} {busType managed : BitVec 32} {ret : Int} {msg : LoopMessage}

theorem ifaceBuild_idsBelow (below : IdsBelow st.lib.epTbl)
    (build : ifaceBuild dtblTable st outcome iface name path busType managed = .ok (made, ret)) : IdsBelow made.lib.epTbl := by
  obtain ⟨opened, id, both, ep, lib, idOpened, epOpened, rfl, ended⟩ := ifaceBuild_ok build
  have called : IdsBelow (rteipcXferSetcb both name (some .defaultDomainHandler) (some iface)).1.epTbl := by
    rw [xferSetcb_epTbl]
    exact rteipcOpen_idsBelow (rteipcOpen_idsBelow below idOpened) epOpened
  obtain ⟨-, -, rfl⟩ | ⟨-, bound, binding, -⟩ := ended
  · exact called
  · have same := (rteipcBind_ok binding).1.epTbl
    exact same ▸ called

theorem ifaceFree_idsBelow (below : IdsBelow st.lib.epTbl) (returned : ifaceFree dtblTable st iface = .ok next) :
    IdsBelow next.lib.epTbl := by
  obtain ⟨self, closed, -, first, second⟩ := ifaceFree_freed returned
  exact closeIfOpen_idsBelow (closeIfOpen_idsBelow below first) second

theorem doRtecmdOpen_idsBelow {d : RtemgrData} (below : IdsBelow st.lib.epTbl)
    (returned : doRtecmdOpen dtblTable st outcome d = .ok (next, ret)) : IdsBelow next.lib.epTbl := by
  obtain ⟨rfl, -⟩ | ⟨intf, rest, domain, made, failed, -, -, -, -, build, ended⟩ := doRtecmdOpen_ok returned
  · exact below
  have kept : IdsBelow (grown st domain).lib.epTbl := below
  obtain ⟨rfl, -, rfl⟩ | ⟨-, -, free⟩ := ended
  · exact ifaceBuild_idsBelow kept build
  · exact ifaceFree_idsBelow (ifaceBuild_idsBelow kept build) free

theorem IdsBelow.step (below : IdsBelow st.lib.epTbl) (taken : RtemgrdStep dtblTable lib st msg next) :
    IdsBelow next.lib.epTbl := by
  obtain ⟨middle, ep, handled, moved, rfl⟩ := taken.handled
  suffices kept : IdsBelow middle.lib.epTbl from moved.epTbl ▸ kept
  obtain steady | ⟨d, ret, -, ⟨-, opened⟩ | ⟨-, closed⟩⟩ := handled.steady_or
  · exact steady.lib.epTbl ▸ below
  · exact doRtecmdOpen_idsBelow below opened
  · exact closeInterfaces_keeps (fun _ _ _ _ _ kept _ free => ifaceFree_idsBelow kept free) below (doRtecmdClose_ok closed)

end Daemon

/-! ## Rows -/

/-- The partner of an interface; a managed interface has any number of them. -/
def Board.route (board : Board) (iface : IfacePtr) (entry : Entry) : List UInt8 :=
  if entry.managed ≠ 0 then ascii "**"
  else
    match ((board.partners iface).bind Node.partner).bind board.info with
    | none => ascii "--"
    | some other => if other.name = [] then ascii "--" else other.name

def Board.row (board : Board) (party : IfacePtr × Entry) : List UInt8 :=
  tableLine party.2.name (busToStr party.2.busType) party.2.path (board.route party.1 party.2)

/-- A row for every party but the hidden one. -/
def Board.table (board : Board) (hidden : Option IfacePtr) : List UInt8 :=
  tableHead ++ (board.parties.filter fun party => hidden ≠ some party.1).flatMap board.row

section Rows

variable {st next : Daemon (Dtbl EpPtr)} {ctrl iface : IfacePtr} {wire : Wire} {record : RtemgrIntf} {owner : Interface}

/-- A listed interface is a party. -/
theorem board_info (listed : Listed st iface) (live : st.ifaces.get iface = some owner) :
    st.board.info iface = some owner.entry := by
  let wanted : IfacePtr → Bool := fun other => (st.party other).any fun party => decide (party.1 = iface)
  have is_wanted : ∀ other, wanted other = true → other = iface := by
    intro other isWanted
    obtain ⟨party, isParty, same⟩ := (Option.any_eq_true _ _).mp isWanted
    obtain ⟨self, -, rfl⟩ := Option.map_eq_some_iff.mp isParty
    exact of_decide_eq_true same
  have member : iface ∈ st.domainList.flatMap Domain.ifaceList := by
    obtain ⟨domain, inside, member⟩ := listed_iff.mp listed
    exact List.mem_flatMap.mpr ⟨domain, inside, member⟩
  have isParty : st.party iface = some (iface, owner.entry) := by
    rw [Daemon.party, live]
    rfl
  rw [Switchboard.info, Daemon.board, List.find?_filterMap]
  cases found : (st.domainList.flatMap Domain.ifaceList).find? wanted with
  | none =>
      have absent := List.find?_eq_none.mp found iface member
      simp [wanted, isParty] at absent
  | some other =>
      obtain rfl := is_wanted other (List.find?_some found)
      rw [Option.bind_some, isParty]
      rfl

theorem Describes.line (describes : Describes st owner record) (good : Mutual st.partners) (listed : Listed st iface)
    (live : st.ifaces.get iface = some owner) : record.line = st.board.row (iface, owner.entry) := by
  have graph : (st.board.partners iface).bind Node.partner = owner.partner := by
    change (st.partners iface).bind Node.partner = owner.partner
    rw [partners_listed listed, live]
    rfl
  rw [RtemgrIntf.line, describes.name, describes.busType, describes.path, describes.managed, Board.row, Board.route, graph]
  cases partner : owner.partner with
  | none =>
      rw [describes.alone partner]
      rfl
  | some other =>
      obtain ⟨peer, peerLive, named⟩ := describes.partner other partner
      have peerListed := ((routesMutual_iff.mpr good).present iface owner other listed live partner).1
      rw [named, Option.bind_some, board_info peerListed peerLive]
      by_cases empty : peer.name = []
      · simp only [empty, Interface.entry, ne_eq, not_true_eq_false, if_false, if_true]
      · simp only [empty, Interface.entry, ne_eq, not_false_eq_true, if_true, if_false]

/-- The daemon in a considerate run. -/
structure Listing (ctrl : IfacePtr) (wire : Wire) (st : Daemon (Dtbl EpPtr)) : Prop where
  healthy : Healthy ctrl wire st
  built : AllBuilt st
  below : IdsBelow st.lib.epTbl
  ctrlId : wire.core.id = 0

theorem Listing.step {lib : PacketLib} {msg : LoopMessage} (listing : Listing ctrl wire st)
    (considerate : Considerate lib st msg) (taken : RtemgrdStep dtblTable lib st msg next) : Listing ctrl wire next where
  healthy := listing.healthy.step considerate taken
  built := listing.built.step taken
  below := listing.below.step taken
  ctrlId := listing.ctrlId

/-- The record of the control interface is the one with id 0. -/
theorem Listing.zero_iff (listing : Listing ctrl wire st) (listed : Listed st iface)
    (described : DescribesAt st iface record) : record.id = 0 ↔ st.ctrlIface = some iface := by
  obtain ⟨owner, live, describes⟩ := described
  obtain ⟨healthy, -, below, ctrlId⟩ := listing
  have wired := healthy.serving.wired
  obtain ⟨ctrlOwner, ctrlLive, -, ctrlConnected⟩ := wired.owner
  have isZero : ctrlOwner.id = 0 := ctrlConnected.id.symm.trans ctrlId
  rw [describes.id, wired.pointer, Option.some.injEq]
  constructor
  · intro zero
    by_contra differ
    obtain ⟨rest, first⟩ := wired.listed
    have ctrlListed : Listed st ctrl := ⟨0, _, first, List.mem_cons_self⟩
    have apart := (healthy.serving.connections.apart iface owner ctrl ctrlOwner listed live ctrlListed ctrlLive
      (fun same => differ same.symm)).1.1
    obtain ⟨other, connected⟩ := healthy.serving.connections.connected iface owner listed live
    have bounds := below.found connected.attached.found
    rw [connected.id] at bounds
    have bits : (owner.id % (2 ^ 32 : Nat)).toNat = 0 := (BitVec.toNat_ofInt _).symm.trans (congrArg BitVec.toNat zero)
    have alsoZero : owner.id = 0 := by omega
    exact apart (alsoZero.trans isZero.symm)
  · rintro rfl
    cases live.symm.trans ctrlLive
    rw [isZero]
    rfl

/-- A list reply is printed as the table of the switchboard. -/
theorem Listing.table (listing : Listing ctrl wire st) (short : UrisShort st)
    (paths : ∀ domain ∈ st.domainList, PathsFollow [] (domain.ifaceList.filterMap st.ifaces.get)) :
    tableText (listRecords st) = st.board.table st.ctrlIface := by
  have routes := listing.healthy.serving.daemon.routes
  have partners := partnersLive_of_mutual listing.healthy.routes
  obtain ⟨reply, returned, described⟩ :=
    (listsAll_iff routes listing.built short rtemgrDataAlloc).mpr ⟨partners, paths⟩
  rw [doRtecmdList_eq routes partners] at returned
  cases returned
  have listed : ∀ iface ∈ st.domainList.flatMap Domain.ifaceList, Listed st iface := by
    intro iface member
    obtain ⟨domain, inside, member⟩ := List.mem_flatMap.mp member
    exact listed_iff.mpr ⟨domain, inside, member⟩
  have all := (List.forall₂_and_left _ _).mpr ⟨listed, described⟩
  have shown : ∀ ⦃iface record⦄, Listed st iface ∧ DescribesAt st iface record →
      Option.Rel (fun party record => record.line = st.board.row party ∧ (record.id = 0 ↔ st.ctrlIface = some party.1))
        (st.party iface) (some record) := by
    intro iface record related
    obtain ⟨owner, live, describes⟩ := related.2
    rw [Daemon.party, live]
    exact .some ⟨describes.line listing.healthy.routes related.1 live, listing.zero_iff related.1 related.2⟩
  have parties := List.rel_filterMap shown all
  rw [List.filterMap_some] at parties
  have kept : ∀ ⦃party : IfacePtr × Entry⦄ ⦃record : RtemgrIntf⦄,
      record.line = st.board.row party ∧ (record.id = 0 ↔ st.ctrlIface = some party.1) →
        (decide (st.ctrlIface ≠ some party.1) = true ↔ decide (record.id ≠ 0) = true) := by
    intro party record related
    rw [decide_eq_true_iff, decide_eq_true_iff, ne_eq, ne_eq, related.2]
  have lines : ∀ ⦃party : IfacePtr × Entry⦄ ⦃record : RtemgrIntf⦄,
      record.line = st.board.row party ∧ (record.id = 0 ↔ st.ctrlIface = some party.1) →
        List.Forall₂ Eq (st.board.row party) record.line := by
    intro party record related
    rw [List.forall₂_eq_eq_eq, related.1]
  have rows := List.rel_flatMap (List.rel_filter kept parties) lines
  rw [List.forall₂_eq_eq_eq] at rows
  exact congrArg (tableHead ++ ·) rows.symm

end Rows

/-! ## Command lines -/

/-- Where the daemon looks for a name on the command line, of which it gets 16 bytes. -/
def lineAddress (name : List UInt8) : BitVec 32 × List UInt8 := (0, (strncpy 16 name).text)

/-- What the users of `close`, `route` and `forget` ask for. -/
def lineCommand (action : BitVec 32) (operands : List (List UInt8)) : BoardCommand :=
  match action.toNat, operands with
  | 3, names => .leave (names.map lineAddress)
  | 4, [left, right] => .connect (lineAddress left) (lineAddress right)
  | 5, [name] => .forget (lineAddress name)
  | _, _ => .nothing

theorem stored_address (name : List UInt8) : (storedIntf (freshIntf.named name)).address = lineAddress name := by
  rw [RtemgrIntf.address, storedIntf_name]
  rfl

/-- A command line of names is as long as the subcommand wants it, and comes to the
daemon as the command on these names. -/
theorem line_commands {lib : PacketLib} {cli : CliMemory} {entry : RtemgrAction} {options : List CliOption}
    {operands : List (List UInt8)} {d : RtemgrData} {document : List UInt8} {memory : PacketMemory} (back : lib.ReadsBack)
    (writes : lib.WritesAll) (member : entry ∈ rtemgrActions)
    (names : entry.action = 3 ∨ entry.action = 4 ∨ entry.action = 5)
    (accepted : subcmdOptCheck cli entry options operands = .ok (some d))
    (sent : emitInto lib.toEmitLib d 4096 = some document) (succeeds : memory.alloc = .succeeds) :
    namesCount entry.action operands.length ∧ ∃ received, receivePacket lib memory document = .ok (some received) ∧
      ∀ fresh error, received.command fresh error = lineCommand entry.action operands := by
  have namesOnly : entry.action = 3 ∨ entry.action = 4 ∨ entry.action = 5 ∨ entry.action = 7 := by
    obtain close | route | forget := names
    · exact .inl close
    · exact .inr (.inl route)
    · exact .inr (.inr (.inl forget))
  obtain ⟨rfl, count⟩ := accepted_names accepted member namesOnly
  obtain ⟨room, rfl⟩ := emitInto_some sent
  have few := (written_small writes room).1
  have empty : (namesPacket entry.action operands).cmd.val.s.toNat < 4294967296 := by
    change (0 : BitVec 64).toNat < 4294967296
    decide
  refine ⟨count, _, receivePacket_written back succeeds empty (Nat.lt_of_le_of_lt few (by decide)), fun fresh error => ?_⟩
  have interfaces : ((namesPacket entry.action operands).received lib memory).interfaces =
      operands.map fun name => storedIntf (freshIntf.named name) := List.map_map
  have action : ((namesPacket entry.action operands).received lib memory).cmd.action = entry.action := rfl
  unfold namesCount at count
  obtain close | route | forget := names
  · have isClose : entry.action.toNat = 3 := congrArg BitVec.toNat close
    simp only [RtemgrData.command, lineCommand, action, isClose, interfaces, List.map_map]
    exact congrArg _ (List.map_congr_left fun name _ => stored_address name)
  · have isRoute : entry.action.toNat = 4 := congrArg BitVec.toNat route
    rw [if_neg (by rw [route]; decide), if_pos route] at count
    obtain ⟨left, right, rfl⟩ := List.length_eq_two.mp count
    simp only [RtemgrData.command, lineCommand, action, isRoute, interfaces, List.map_cons, List.map_nil, stored_address]
  · have isForget : entry.action.toNat = 5 := congrArg BitVec.toNat forget
    rw [if_neg (by rw [forget]; decide), if_neg (by rw [forget]; decide)] at count
    obtain ⟨name, rfl⟩ := List.length_eq_one_iff.mp count
    simp only [RtemgrData.command, lineCommand, action, isForget, interfaces, List.map_cons, List.map_nil, stored_address]

/-- `rtemgr route a b` -/
theorem line_commands_route : ∃ document received,
    emitInto PacketLib.lines.toEmitLib (namesPacket 4 [ascii "a", ascii "b"]) 4096 = some document ∧
      receivePacket .lines .succeeds document = .ok (some received) ∧
        ∀ fresh error, received.command fresh error = lineCommand 4 [ascii "a", ascii "b"] := by
  have accepted : subcmdOptCheck .succeeds (rtemgrActions[4]) [] [ascii "a", ascii "b"] =
      .ok (some (namesPacket 4 [ascii "a", ascii "b"])) := by decide +kernel
  have sent : emitInto PacketLib.lines.toEmitLib (namesPacket 4 [ascii "a", ascii "b"]) 4096 =
      some (PacketLib.lines.write (rtemgrDataEmit Base64.encode (namesPacket 4 [ascii "a", ascii "b"]))) := by decide +kernel
  obtain ⟨-, received, read, commands⟩ := line_commands lines_readsBack lines_writesAll (List.getElem_mem _)
    (.inr (.inl rfl)) accepted sent (rfl : PacketMemory.succeeds.alloc = .succeeds)
  exact ⟨_, received, sent, read, commands⟩

/-! ## Every run -/

/-- Where the paths can be listed, `rtemgr list` prints the table of the daemon. -/
def Shows (lib : PacketLib) (st : Daemon (Dtbl EpPtr)) : Prop :=
  UrisShort st → (∀ domain ∈ st.domainList, PathsFollow [] (domain.ifaceList.filterMap st.ifaces.get)) →
    ∀ cli entry options operands d document memory client, entry ∈ rtemgrActions →
      subcmdOptCheck cli entry options operands = .ok (some d) → d.cmd.action.toNat = 1 →
        emitInto lib.toEmitLib d 4096 = some document → Requested lib memory st d → PacketMemory.alloc client = .succeeds →
          ∃ next reply, processCtlport dtblTable lib memory st document = .ok (next, some (reply, 0)) ∧
            LastFrame next reply ∧ replyCallback lib client reply = .ok (some (st.board.table st.ctrlIface))

section Runs

variable {lib : PacketLib} {st : Daemon (Dtbl EpPtr)} {ctrl : IfacePtr} {wire : Wire}

theorem Listing.shows (listing : Listing ctrl wire st) (back : lib.ReadsBack) (writes : lib.WritesAll) : Shows lib st := by
  intro short paths cli entry options operands d document memory client member accepted list sent requested succeeds
  obtain ⟨next, reply, handled, last, printed⟩ :=
    listing.healthy.tells back writes cli entry options operands d document memory client member accepted sent requested
      succeeds
  have isTable : told memory st d = tableText (listRecords st) := by simp only [told, list]
  rw [isTable, listing.table short paths] at printed
  exact ⟨next, reply, handled, last, printed⟩

end Runs

end Rteipc
