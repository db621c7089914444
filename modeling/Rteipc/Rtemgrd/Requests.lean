import Rteipc.Data.Run
import Rteipc.Rtemgrd.Absent
import Rteipc.Rtemgrd.Control
import Rteipc.Rtemgrd.Returns

namespace Rteipc

/-! Every control request the daemon can carry out is answered once, if the
answer fits the buffer it is written to. -/

open Data

/-! ## The answer to a packet -/

/-- The allocations that handling a control packet depends on succeed. -/
structure CtlMemory.Plenty (memory : CtlMemory) : Prop where
  packet : memory.packet.alloc = .succeeds
  managed : memory.managed.packet.alloc = .succeeds
  realloc : ∀ count, memory.realloc count = true
  iface : memory.iface.Plenty
  cat : memory.cat.Plenty
  emit : memory.emit = true

/-- Carrying out the command follows no bad pointer, and the control interface is not closed. -/
def CtlSound (lib : PacketLib) (memory : CtlMemory) (st : Daemon (Dtbl EpPtr)) (d : RtemgrData) (data : List UInt8) :
    Prop :=
  match d.cmd.action.toNat with
  | 1 => PartnersLive st
  | 2 => OpenSound st memory.iface d
  | 3 => CloseSound st d.interfaces ∧ ∀ intf ∈ d.interfaces, ¬NamesCtrl intf
  | 4 => True
  | 5 => ForgetSound st d
  | 6 => XferSound lib memory.managed st data
  | 7 => CatSound memory.cat st d
  | _ => True

def ctlReply (memory : CtlMemory) (st : Daemon (Dtbl EpPtr)) (d : RtemgrData) : RtemgrData :=
  match d.cmd.action.toNat with
  | 1 => RtemgrData.withError { d with interfaces := listRecords st } 0
  | 2 => d.withError (openError st memory.iface d)
  | 3 => d.withError (closeError d)
  | 4 => d.withError (routeError st d)
  | 5 => d.withError (forgetError st d)
  | 6 => d.withError 0
  | 7 => catAnswer memory.cat st d
  | _ => d.withError (-1)

section Reply

variable {memory : CtlMemory} {st : Daemon (Dtbl EpPtr)} {d : RtemgrData}

theorem catAnswer_withError (memory : CatMemory) (st : Daemon (Dtbl EpPtr)) (d : RtemgrData) (error : Int) :
    catAnswer memory st (d.withError error) = catAnswer memory st d := by
  have value (text : List UInt8) :
      (catValue memory (d.withError error) text).1.withError 0 = (catValue memory d text).1.withError 0 := by
    unfold catValue
    simp only
    split
    · rfl
    split
    · rfl
    · rfl
  have same : namedIface st (d.withError error) = namedIface st d := rfl
  unfold catAnswer
  rw [same]
  cases namedIface st d with
  | none => rfl
  | some self => simp only [value]; rfl

theorem ctlReply_withError (error : Int) : ctlReply memory st (d.withError error) = ctlReply memory st d := by
  have same : (d.withError error).cmd.action = d.cmd.action := rfl
  unfold ctlReply
  rw [same]
  split
  case h_7 => exact catAnswer_withError memory.cat st d error
  all_goals rfl

end Reply

/-! ## Serving -/

/-- The control interface is there with its endpoints, and every loop can be written to. -/
structure Serving (ctrl : IfacePtr) (wire : Wire) (st : Daemon (Dtbl EpPtr)) : Prop where
  daemon : DaemonInv st
  connections : Connections st
  loops : LoopInv st
  wired : CtrlWired ctrl wire st
  managed : ∃ self, st.ifaces.get ctrl = some self ∧ self.managed ≠ 0
  hubs : HubsAlone st.partners

section Serving

variable {lib : PacketLib} {st next : Daemon (Dtbl EpPtr)} {ctrl : IfacePtr} {wire : Wire} {msg : LoopMessage}
  {memory : CtlMemory} {d : RtemgrData} {data : List UInt8}

theorem Serving.handled (serving : Serving ctrl wire st) (plenty : msg.memory.iface.Plenty)
    (spared : CtrlSpared lib msg) (handled : Handled dtblTable lib st msg next) : Serving ctrl wire next := by
  obtain ⟨daemon, connections, loops, wired, ⟨self, live, managed⟩, hubs⟩ := serving
  obtain ⟨keptWired, stays⟩ := wired.handled connections daemon spared handled
  obtain ⟨after, afterLive, same⟩ := stays self live
  have sameManaged : after.identity.managed = self.identity.managed := congrArg Interface.managed same
  refine ⟨daemon.handled handled, connections.handled daemon handled, loops.handled connections daemon plenty handled,
    keptWired, ⟨after, afterLive, ?_⟩, HubsAlone.handled daemon.routes hubs handled⟩
  exact fun raw => managed (sameManaged.symm.trans raw)

theorem Serving.step (serving : Serving ctrl wire st) (plenty : msg.memory.iface.Plenty) (spared : CtrlSpared lib msg)
    (taken : RtemgrdStep dtblTable lib st msg next) : Serving ctrl wire next := by
  obtain ⟨middle, ep, handled, moved, rfl⟩ := taken.handled
  exact (serving.handled plenty spared handled).handled plenty spared (.transferred moved)

theorem rtemgrd_serving {outcome : IfaceOutcome} (started : rtemgrd dtblTable outcome = .ok (st, 0)) :
    ∃ ctrl wire, Serving ctrl wire st := by
  have build := rtemgrd_build started
  have inv := rtemgrd_inv started
  obtain ⟨connections, ctrl, wire, wired⟩ := rtemgrd_wired started
  obtain ⟨before, unconnected⟩ : DaemonInv settingUp ∧ Connections settingUp := start_connections _
  have none : LoopInv settingUp := ⟨nofun, nofun⟩
  refine ⟨ctrl, wire, inv, connections, none.built unconnected before Nat.zero_lt_one (by decide) build, wired, ?_,
    rtemgrd_hubs started⟩
  obtain ⟨opened, id, both, ep, lib, -, -, rfl, -⟩ := ifaceBuild_ok build
  obtain rfl : settingUp.ifaces.next = ctrl := Option.some.inj wired.pointer
  have isManaged : (1#32 : BitVec 32) ≠ 0 := by decide
  exact ⟨_, Heap.get_modify_self.trans (congrArg _ Heap.get_alloc_next), isManaged⟩

/-- What the control interface sends to itself is not asked of a partner. -/
theorem Serving.alone (serving : Serving ctrl wire st) :
    ∃ self, st.ifaces.get ctrl = some self ∧ PartnerLive st self := by
  obtain ⟨self, live, managed⟩ := serving.managed
  obtain ⟨rest, first⟩ := serving.wired.listed
  have listed : Listed st ctrl := ⟨0, _, first, List.mem_cons_self⟩
  have alone : self.partner = none :=
    serving.hubs ctrl self.node (partners_some.mpr ⟨listed, self, live, rfl⟩) (decide_eq_true managed)
  refine ⟨self, live, fun partner names => ?_⟩
  nomatch alone.symm.trans names

/-- A sound command is carried out, and the reply is made of the state before it. -/
theorem Serving.answers {parsed : RtemgrData} (serving : Serving ctrl wire st) (plenty : memory.Plenty)
    (received : receivePacket lib memory.packet data = .ok (some parsed)) (sound : CtlSound lib memory st d data) :
    ∃ next, ctlAction dtblTable lib memory st d data = .ok (next, ctlReply memory st d) := by
  have routes := serving.daemon.routes
  by_cases list : d.cmd.action.toNat = 1
  · have realloc : memory.realloc = fun _ => true := funext plenty.realloc
    simp only [CtlSound, list] at sound
    simp only [ctlAction, ctlReply, list, realloc, doRtecmdList_eq routes sound]
    exact ⟨st, rfl⟩
  by_cases opens : d.cmd.action.toNat = 2
  · simp only [CtlSound, opens] at sound
    obtain ⟨next, opened⟩ := doRtecmdOpen_returns serving.daemon.registry plenty.iface sound
    simp only [ctlAction, ctlReply, opens, opened]
    exact ⟨next, rfl⟩
  by_cases closes : d.cmd.action.toNat = 3
  · simp only [CtlSound, closes] at sound
    obtain ⟨next, closed⟩ := doRtecmdClose_returns serving.connections serving.daemon sound.1
    simp only [ctlAction, ctlReply, closes, closed]
    exact ⟨next, rfl⟩
  by_cases route : d.cmd.action.toNat = 4
  · obtain ⟨next, routed⟩ :
        ∃ next, doRtecmdRoute lib.toEmitLib st memory.left memory.right d = .ok (next, routeError st d) :=
      doRtecmdRoute_returns routes serving.loops
    simp only [ctlAction, ctlReply, route, routed]
    exact ⟨next, rfl⟩
  by_cases forget : d.cmd.action.toNat = 5
  · simp only [CtlSound, forget] at sound
    obtain ⟨next, forgot⟩ := doRtecmdForget_returns routes sound
    simp only [ctlAction, ctlReply, forget, forgot]
    exact ⟨next, rfl⟩
  by_cases xfer : d.cmd.action.toNat = 6
  · simp only [CtlSound, xfer] at sound
    obtain ⟨again, parsedAgain⟩ := receivePacket_again (plenty.managed.trans plenty.packet.symm) received
    obtain ⟨self, live, partner⟩ := serving.alone
    obtain ⟨next, handled⟩ := ifaceManagedHandler_returns routes serving.loops live partner parsedAgain sound
    simp only [ctlAction, ctlReply, xfer, serving.wired.pointer, handled]
    exact ⟨next, rfl⟩
  by_cases cat : d.cmd.action.toNat = 7
  · simp only [CtlSound, cat] at sound
    obtain ⟨next, reply, ret, shown, answer⟩ := doRtecmdCat_returns routes plenty.cat sound
    simp only [ctlAction, ctlReply, cat, shown, ← answer]
    exact ⟨next, rfl⟩
  · have acted : ctlAction dtblTable lib memory st d data = .ok (st, d.withError (-1)) := by
      unfold ctlAction
      split
      all_goals first | contradiction | rfl
    have reply : ctlReply memory st d = d.withError (-1) := by
      unfold ctlReply
      split
      all_goals first | contradiction | rfl
    rw [acted, reply]
    exact ⟨st, rfl⟩

/-! ## The reply -/

/-- The last frame that arrived at the IPC endpoint of the control interface. -/
def LastFrame (st : Daemon (Dtbl EpPtr)) (document : List UInt8) : Prop :=
  ∃ ctrl self ipc core bev half before, st.ctrlIface = some ctrl ∧ st.ifaces.get ctrl = some self ∧
    dtblGet st.lib.epTbl self.ep = some ipc ∧ st.lib.cores.get ipc = some core ∧ core.bev = some bev ∧
      st.lib.bevs.get bev = some half ∧ half.input = before ++ frame document

/-- The control loop is found by its name, and what is sent to it arrives. -/
theorem Serving.reply (serving : Serving ctrl wire st) (document : List UInt8) :
    ∃ ep, rteipcXfer st.lib rtemgrdCtlport document = .ok (ep, 0) ∧ LastFrame { st with lib := ep } document := by
  obtain ⟨self, live, named, connected⟩ := serving.wired.owner
  have attached := connected.attached
  obtain ⟨node, member, isSelf, nodeName⟩ := connected.loop serving.wired.loopType
  have isNamed : node.name = rtemgrdCtlport := nodeName.trans named
  have found : ∃ lo, lookupLo st.lib.loList rtemgrdCtlport = some lo := by
    cases looked : lookupLo st.lib.loList rtemgrdCtlport with
    | some lo => exact ⟨lo, rfl⟩
    | none =>
        have absent := List.find?_eq_none.mp looked node member
        simp [isNamed] at absent
  obtain ⟨lo, found⟩ := found
  have sameName : lo.name = node.name := by
    have matches_ := List.find?_some found
    simp only [decide_eq_true_eq] at matches_
    exact matches_.trans isNamed.symm
  have sameSelf := serving.loops.names lo (List.mem_of_find?_eq_some found) node member sameName
  have sends := attached.sends (sameSelf.trans isSelf)
  obtain ⟨half, other, -, -, otherLive, -⟩ := attached.pair
  have ipcFound : dtblGet st.lib.epTbl self.ep = some wire.other := connected.ep ▸ attached.otherFound
  have arrived : (st.lib.bevs.modify wire.second fun half => { half with input := rteipcBuffer half.input document }).get
      wire.second = some { other with input := rteipcBuffer other.input document } :=
    Heap.get_modify_self.trans (congrArg _ otherLive)
  exact ⟨_, sends.xfer_eq found document, ctrl, self, wire.other, wire.partner, wire.second, _, other.input,
    serving.wired.pointer, live, ipcFound, attached.otherLive, attached.otherBev, arrived, rfl⟩

theorem CtlSound.withError (sound : CtlSound lib memory st d data) (error : Int) :
    CtlSound lib memory st (d.withError error) data := by
  have same : (d.withError error).cmd.action = d.cmd.action := rfl
  unfold CtlSound at sound ⊢
  rw [same]
  split
  case h_2 action =>
    simp only [action] at sound
    exact fun intf domain builds => sound intf domain ⟨builds.first, builds.found, builds.calloc, builds.pending⟩
  case h_5 action =>
    simp only [action] at sound
    exact ⟨sound.given, sound.partner⟩
  case h_7 action =>
    simp only [action] at sound
    exact ⟨sound.given, sound.partner, sound.times⟩
  case h_8 => trivial
  all_goals
    next action =>
      simp only [action] at sound
      exact sound

/-- After a sound command there is a reply to send, and a control loop to send it on. -/
theorem Serving.sends (serving : Serving ctrl wire st) (plenty : memory.Plenty)
    (received : receivePacket lib memory.packet data = .ok (some d)) (sound : CtlSound lib memory st d data) :
    ∃ after, Serving ctrl wire after ∧ processCtlport dtblTable lib memory st data =
      sendReply lib.toEmitLib true after (ctlReply memory st d) := by
  let msg : LoopMessage := ⟨memory, plentyOfMemory 0, ⟨0, rtemgrdCtlport, none, none⟩, data⟩
  have requested : Requests lib msg (d.withError (-1)) := ⟨strmatch_iff.mpr rfl, d, received, rfl⟩
  have spared : CtrlSpared lib msg := by
    rintro other ⟨-, parsed, again, rfl⟩ action
    cases received.symm.trans again
    have isClose : d.cmd.action.toNat = 3 := action
    simp only [CtlSound, isClose] at sound
    exact sound.2
  obtain ⟨after, acted⟩ := serving.answers plenty received (sound.withError (-1))
  rw [ctlReply_withError] at acted
  refine ⟨after, serving.handled plenty.iface spared (ctlAction_handled requested acted), ?_⟩
  simp only [processCtlport, received, ctlPacket, acted, plenty.emit, bind, Except.bind]

theorem Serving.replies_iff (serving : Serving ctrl wire st) (plenty : memory.Plenty)
    (received : receivePacket lib memory.packet data = .ok (some d)) (sound : CtlSound lib memory st d data)
    (given : (ctlReply memory st d).cmd.val.v = none → (ctlReply memory st d).cmd.val.s = 0) :
    (∃ next document, processCtlport dtblTable lib memory st data = .ok (next, some (document, 0)) ∧
        LastFrame next document) ↔
      (lib.write (rtemgrDataEmit lib.encode (ctlReply memory st d))).length ≤ 4096 := by
  obtain ⟨after, kept, processed⟩ := serving.sends plenty received sound
  have notNull : ¬((ctlReply memory st d).cmd.val.v = none ∧ (ctlReply memory st d).cmd.val.s ≠ 0) :=
    fun null => null.2 (given null.1)
  rw [processed, sendReply, if_neg notNull]
  simp only [emitInto, Bool.not_true, Bool.false_eq_true, if_false]
  by_cases fits : (lib.write (rtemgrDataEmit lib.encode (ctlReply memory st d))).length ≤ 4096
  · obtain ⟨ep, sent, last⟩ := kept.reply (lib.write (rtemgrDataEmit lib.encode (ctlReply memory st d)))
    simp only [if_pos fits, sent, bind, Except.bind]
    exact iff_of_true ⟨_, _, rfl, last⟩ fits
  · simp only [if_neg fits]
    refine iff_of_false ?_ fits
    rintro ⟨next, document, nothing, -⟩
    nomatch nothing

end Serving

/-! ## Every run -/

/-- Whatever control packet is accepted, its reply is sent exactly if it fits in
4096 bytes, where carrying out the command follows no bad pointer and the
payload of the reply is there. -/
def Answers (lib : PacketLib) (st : Daemon (Dtbl EpPtr)) : Prop :=
  ∀ memory data d, CtlMemory.Plenty memory → receivePacket lib memory.packet data = .ok (some d) →
    CtlSound lib memory st d data →
      ((ctlReply memory st d).cmd.val.v = none → (ctlReply memory st d).cmd.val.s = 0) →
        ((∃ next document, processCtlport dtblTable lib memory st data = .ok (next, some (document, 0)) ∧
            LastFrame next document) ↔
          (lib.write (rtemgrDataEmit lib.encode (ctlReply memory st d))).length ≤ 4096)

/-- In every state of a run that spares the control interface, a control request
that can be carried out is answered exactly if its reply fits the buffer. -/
theorem requests_answered (lib : PacketLib) {outcome : IfaceOutcome} {st : Daemon (Dtbl EpPtr)}
    {msgs : List LoopMessage} (started : rtemgrd dtblTable outcome = .ok (st, 0))
    (guarded : Guarded (RtemgrdStep dtblTable lib) (fun _ msg => msg.memory.iface.Plenty ∧ CtrlSpared lib msg) st msgs) :
    Always (RtemgrdStep dtblTable lib) (Answers lib) st msgs := by
  obtain ⟨ctrl, wire, serving⟩ := rtemgrd_serving started
  have preserved : ∀ before msg after, Serving ctrl wire before → msg.memory.iface.Plenty ∧ CtrlSpared lib msg →
      RtemgrdStep dtblTable lib before msg after → Serving ctrl wire after :=
    fun _ _ _ serving met taken => serving.step met.1 met.2 taken
  exact guarded.always preserved
    (fun _ serving _ _ _ plenty received sound given => serving.replies_iff plenty received sound given) serving

/-! ## A reply that does not fit -/

theorem inMemory_payload {val : RtecmdVal} (given : val.s ≠ 0 → val.v.isSome) (beyond : List UInt8) :
    (val.inMemory beyond).s = val.s ∧ (val.inMemory beyond).payload.length = val.s.toNat := by
  unfold RtecmdVal.inMemory
  split
  next empty => simp [RtecmdVal.payload, empty]
  next nonempty =>
    obtain ⟨v, written⟩ := Option.isSome_iff_exists.mp (given nonempty)
    simp only [RtecmdVal.payload, written, Option.map_some, Option.getD_some, List.length_take, List.length_append,
      List.length_replicate, true_and]
    omega

theorem receivePacket_emit (d : RtemgrData) (data : List UInt8) (size : d.cmd.val.s.toNat < 4294967296)
    (count : d.interfaces.length < 2147483648) :
    ∃ parsed, receivePacket (.receiving d) .succeeds data = .ok (some parsed) ∧
      parsed.cmd.action = d.cmd.action ∧ parsed.interfaces = d.interfaces.map storedIntf ∧
        parsed.cmd.val.s = d.cmd.val.s ∧ parsed.cmd.val.payload.length = d.cmd.val.s.toNat := by
  let stored : RtemgrData := ⟨{ d.cmd with val := storedVal Base64.encode d.cmd.val }, d.interfaces.map storedIntf⟩
  have decoded : ∃ parsed, decodePayload Base64.decode .succeeds stored = some parsed ∧
      parsed.d.cmd.action = d.cmd.action ∧ parsed.d.interfaces = d.interfaces.map storedIntf ∧
        parsed.d.cmd.val.s = d.cmd.val.s ∧ parsed.d.cmd.val.v.isSome = true := by
    have text : stored.cmd.val.v = some (cString (Base64.encode d.cmd.val.payload)) := rfl
    by_cases empty : stored.cmd.val.s = 0
    · exact ⟨_, decodePayload_empty empty, rfl, rfl, rfl, rfl⟩
    · exact ⟨_, decodePayload_text text empty rfl, rfl, rfl, rfl, rfl⟩
  obtain ⟨parsed, decoded, action, interfaces, sameSize, given⟩ := decoded
  have accepted := rtemgrDataParse_ok (parse_emit Base64.encode d size count) decoded
  obtain ⟨memorySize, memoryPayload⟩ := inMemory_payload (fun _ => given) []
  refine ⟨{ parsed.d with cmd.val := parsed.d.cmd.val.inMemory [] }, ?_, action, interfaces, memorySize.trans sameSize, ?_⟩
  · simp only [receivePacket, PacketLib.receiving, PacketMemory.succeeds, accepted]
  · rw [← sameSize]
    exact memoryPayload

theorem scalarsLength_written (d : RtemgrData) (events : List YamlEvent) :
    scalarsLength events ≤ ((PacketLib.receiving d).write events).length := by
  induction events with
  | nil => simp [scalarsLength]
  | cons event rest ih =>
      simp only [scalarsLength, PacketLib.receiving, List.map_cons, List.sum_cons, List.flatMap_cons, List.length_append,
        List.length_singleton] at ih ⊢
      omega

/-- What a client sends with `rtecmd_xfer` to an interface that is not open. -/
def longPacket : RtemgrData :=
  { namedPacket 6 ["a"] with cmd := ⟨6, 0, ⟨some (List.replicate 4096 65), 4096, ⟨0, 0⟩⟩⟩ }

theorem CtlMemory.succeeds_plenty : CtlMemory.Plenty .succeeds where
  packet := rfl
  managed := rfl
  realloc _ := rfl
  iface := ⟨rfl, rfl, rfl, ⟨rfl, rfl⟩, ⟨rfl, rfl⟩, ⟨rfl, rfl⟩⟩
  cat := ⟨rfl, fun _ _ => rfl, rfl⟩
  emit := rfl

/-- The run of a daemon that is asked for its list. -/
theorem requests_answered_list : ∃ msg,
    (∃ next, RtemgrdStep dtblTable (.receiving listPacket) .started msg next) ∧
      Always (RtemgrdStep dtblTable (.receiving listPacket)) (Answers (.receiving listPacket)) .started [msg] := by
  obtain ⟨lo, member, named, called⟩ := started_loop
  let msg : LoopMessage := ⟨.succeeds, plentyOfMemory 0, lo, []⟩
  have control : strmatch msg.loop.name rtemgrdCtlport = true := strmatch_iff.mpr named
  have returns : (processCtlport dtblTable (.receiving listPacket) .succeeds .started []).toBool = true := by decide +kernel
  have taken : ∃ next, RtemgrdStep dtblTable (.receiving listPacket) .started msg next := by
    cases handled : processCtlport dtblTable (.receiving listPacket) .succeeds .started [] with
    | error fault =>
        rw [handled] at returns
        cases returns
    | ok done =>
        refine ⟨done.1, member, called, done.2, ?_⟩
        rw [defaultDomainHandler, if_pos control]
        exact handled
  have spared : CtrlSpared (.receiving listPacket) msg := by
    rintro d ⟨-, parsed, received, rfl⟩ close
    obtain ⟨same, sameReceived, action, -⟩ := receivePacket_emit listPacket [] (by decide) (by decide)
    cases sameReceived.symm.trans received
    have isList : (parsed.withError (-1)).cmd.action.toNat = 1 := congrArg BitVec.toNat action
    cases isList.symm.trans close
  exact ⟨msg, taken, requests_answered _ rtemgrd_started fun _ _ => ⟨⟨CtlMemory.succeeds_plenty.iface, spared⟩, trivial⟩⟩

/-- The reply with the payload of the request does not fit, and is dropped. -/
theorem long_reply_lost : ¬ ∀ lib msgs st memory data d, Reaches (RtemgrdStep dtblTable lib) .started msgs st →
    CtlMemory.Plenty memory → receivePacket lib memory.packet data = .ok (some d) →
      ∃ next document, processCtlport dtblTable lib memory st data = .ok (next, some (document, 0)) := by
  intro answered
  obtain ⟨ctrl, wire, serving⟩ := rtemgrd_serving rtemgrd_started
  obtain ⟨parsed, received, action, interfaces, size, payload⟩ :=
    receivePacket_emit longPacket [] (by decide) (by decide)
  have isXfer : parsed.cmd.action.toNat = 6 := congrArg BitVec.toNat action
  have unknown : (longPacket.interfaces.map storedIntf).head?.bind (ifaceOf Daemon.started) = none := by decide +kernel
  have sound : CtlSound (.receiving longPacket) .succeeds .started parsed [] := by
    simp only [CtlSound, isXfer]
    intro d dest value again _ named
    cases received.symm.trans again
    rw [namedIface, interfaces, unknown] at named
    nomatch named
  have plenty := CtlMemory.succeeds_plenty
  obtain ⟨after, -, processed⟩ := serving.sends plenty received sound
  obtain ⟨next, document, replied⟩ := answered (.receiving longPacket) [] .started .succeeds [] parsed (.nil _) plenty received
  have reply : ctlReply .succeeds .started parsed = parsed.withError 0 := by simp only [ctlReply, isXfer]
  have long : ¬((PacketLib.receiving longPacket).write
      (rtemgrDataEmit Base64.encode (parsed.withError 0))).length ≤ 4096 := by
    have written := scalarsLength_written longPacket (rtemgrDataEmit Base64.encode (parsed.withError 0))
    rw [scalarsLength_emit, cString_eq_self (Base64.nul_not_mem_encode _), Base64.encode_length] at written
    have whole : (parsed.withError 0).cmd.val.payload.length = 4096 := payload
    omega
  rw [processed, reply, sendReply] at replied
  split at replied
  next => nomatch replied
  next =>
    have lost : emitInto (PacketLib.receiving longPacket).toEmitLib (parsed.withError 0) 4096 = none := if_neg long
    simp only [lost] at replied
    nomatch replied

end Rteipc
