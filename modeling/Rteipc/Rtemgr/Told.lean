import Rteipc.Rtemgr.Client
import Rteipc.Rtemgr.Decode
import Rteipc.Rtemgrd.Survives

namespace Rteipc

/-! What the user of `rtemgr` is told of a request: what the daemon made of it. -/

open Data

/-! ## Packets that are sent -/

/-- The packet as it is read back from its document. -/
def RtemgrData.received (d : RtemgrData) (lib : PacketLib) (memory : PacketMemory) : RtemgrData where
  cmd :=
    { d.cmd with
      val :=
        RtecmdVal.inMemory
          ⟨some (if d.cmd.val.s = 0 then cString (lib.encode d.cmd.val.payload) else d.cmd.val.payload), d.cmd.val.s,
            d.cmd.val.extra⟩ memory.beyond }
  interfaces := d.interfaces.map storedIntf

/-- libyaml writes at least the scalars, and libb64 a character for every byte. -/
structure PacketLib.WritesAll (lib : PacketLib) : Prop where
  scalars : ∀ events, scalarsLength events ≤ (lib.write events).length
  payload : ∀ payload, payload.length ≤ (cString (lib.encode payload)).length

section Packets

variable {lib : PacketLib} {memory : PacketMemory} {d : RtemgrData} {intf : RtemgrIntf} {st : Daemon (Dtbl EpPtr)}

theorem receivePacket_written (back : lib.ReadsBack) (succeeds : memory.alloc = .succeeds)
    (size : d.cmd.val.s.toNat < 4294967296) (count : d.interfaces.length < 2147483648) :
    receivePacket lib memory (lib.write (rtemgrDataEmit lib.encode d)) = .ok (some (d.received lib memory)) := by
  have ended := parse_emit lib.encode d size count
  rw [← back.events, ← succeeds] at ended
  by_cases empty : d.cmd.val.s = 0
  · have parsed := @rtemgrDataParse_ok lib.decode _ _ _ _ ended (decodePayload_empty empty)
    simp only [receivePacket, parsed, RtemgrData.received, storedVal, empty, if_true]
  · have parsed := @rtemgrDataParse_ok lib.decode _ _ _ _ ended
      (decodePayload_text rfl empty (by rw [succeeds]; rfl))
    simp only [receivePacket, parsed, RtemgrData.received, storedVal, if_neg empty, back.decode]

@[simp] theorem storedIntf_name : (storedIntf intf).name.text = intf.name.text :=
  strncpy_fits (nul_not_mem_cString _) (text_length_le _)

@[simp] theorem storedIntf_path : (storedIntf intf).path.text = intf.path.text :=
  strncpy_fits (nul_not_mem_cString _) (text_length_le _)

@[simp] theorem storedIntf_partner : (storedIntf intf).partner.text = intf.partner.text :=
  strncpy_fits (nul_not_mem_cString _) (text_length_le _)

theorem ifaceOf_stored : ifaceOf st (storedIntf intf) = ifaceOf st intf := by
  simp only [ifaceOf, storedIntf_name]
  rfl

theorem namedIface_received : namedIface st (d.received lib memory) = namedIface st d := by
  simp only [namedIface, RtemgrData.received]
  cases d.interfaces with
  | nil => rfl
  | cons intf rest => simp only [List.map_cons, List.head?_cons, Option.bind_some, ifaceOf_stored]

theorem routedPair_received : routedPair st (d.received lib memory) = routedPair st d := by
  simp only [routedPair, RtemgrData.received]
  rcases d.interfaces with _ | ⟨lh, _ | ⟨rh, _ | ⟨third, rest⟩⟩⟩
  · rfl
  · rfl
  · simp only [List.map_cons, List.map_nil, ifaceOf_stored]
  · rfl

theorem openError_received {outcome : IfaceOutcome} : openError st outcome (d.received lib memory) = openError st outcome d := by
  simp only [openError, RtemgrData.received]
  cases d.interfaces with
  | nil => rfl
  | cons intf rest =>
      simp only [List.map_cons, storedIntf_name, storedIntf_path]
      rfl

/-- What fits the client's and the daemon's buffers is small. -/
theorem written_small (writes : lib.WritesAll) (fits : (lib.write (rtemgrDataEmit lib.encode d)).length ≤ 4096) :
    d.interfaces.length ≤ 4096 ∧ d.cmd.val.payload.length ≤ 4096 := by
  have scalars := Nat.le_trans (writes.scalars _) fits
  have payload := writes.payload d.cmd.val.payload
  rw [scalarsLength_emit] at scalars
  have each : d.interfaces.length ≤ (d.interfaces.map RtemgrIntf.textLength).sum := by
    induction d.interfaces with
    | nil => exact Nat.le_refl _
    | cons intf rest ih =>
        rw [List.length_cons, List.map_cons, List.sum_cons, RtemgrIntf.textLength]
        omega
  rw [RtemgrData.textLength] at scalars
  omega

end Packets

/-! ## The answers -/

/-- The table of these interfaces, but for the control interface. -/
def tableText (records : List RtemgrIntf) : List UInt8 :=
  tableHead ++ (records.filter fun intf => intf.id ≠ 0).flatMap RtemgrIntf.line

/-- What the user is told of a request that is handled in this state. -/
def told (memory : CtlMemory) (st : Daemon (Dtbl EpPtr)) (d : RtemgrData) : List UInt8 :=
  let names := d.interfaces.map fun intf => quoted intf.name.text
  let name := names.headD []
  match d.cmd.action.toNat with
  | 1 => tableText (listRecords st)
  | 2 =>
      if openError st memory.iface d = 0 then ascii "Successfully created " ++ name ++ ascii ".\n"
      else ascii "Failed to create " ++ name ++ ascii ".\n"
  | 3 => ascii "Successfully closed.\n"
  | 4 =>
      match names with
      | [left, right] =>
          if (routedPair st d).isSome then ascii "Successfully bound " ++ left ++ ascii " and " ++ right ++ ascii ".\n"
          else ascii "Failed to bind " ++ left ++ ascii " and " ++ right ++ ascii ".\n"
      | _ => ascii "Unknown error occured.\n"
  | 5 =>
      if (namedIface st d).isSome then ascii "Successfully unbound " ++ name ++ ascii ".\n"
      else ascii "Failed to unbind " ++ name ++ ascii ".\n"
  | 6 => ascii "Data successfully transfered to " ++ name ++ ascii ".\n"
  | 7 =>
      match namedIface st d with
      | none => ascii "Failed to read data from " ++ name ++ ascii ".\n"
      | some self =>
          if self.partner = none then cString ((catText memory.cat self).toOption.getD []) ++ ascii "\n"
          else ascii "Failed to read data from " ++ name ++ ascii ".\n"
  | _ => []

section Answers

variable {lib : PacketLib} {client : PacketMemory} {memory : CtlMemory} {d : RtemgrData} {st : Daemon (Dtbl EpPtr)}

theorem line_stored (intf : RtemgrIntf) : (storedIntf intf).line = intf.line := by
  simp only [RtemgrIntf.line, storedIntf_name, storedIntf_path, storedIntf_partner]
  rfl

theorem tableText_stored (records : List RtemgrIntf) : tableText (records.map storedIntf) = tableText records := by
  have same : (fun intf : RtemgrIntf => decide (intf.id ≠ 0)) ∘ storedIntf = fun intf => decide (intf.id ≠ 0) := rfl
  rw [tableText, tableText, List.filter_map, same, List.flatMap_map]
  simp only [line_stored]

/-- On its way a reply keeps what is printed of it, but for the data of a cat. -/
theorem replyText_received (memory : PacketMemory) (other : d.cmd.action.toNat ≠ 7) :
    replyText (d.received lib memory) = replyText d := by
  unfold replyText
  cases interfaces : d.interfaces with
  | nil => simp only [RtemgrData.received, interfaces, List.map_nil]
  | cons intf rest =>
      have table := tableText_stored (intf :: rest)
      simp only [tableText, List.map_cons] at table
      simp only [RtemgrData.received, interfaces, List.map_cons, storedIntf_name, table]
      split
      case h_7 => contradiction
      case h_4 =>
        rcases rest with _ | ⟨second, _ | ⟨third, others⟩⟩
        · rfl
        · simp only [List.map_cons, List.map_nil, storedIntf_name]
        · rfl
      all_goals rfl

theorem replyText_error (error : Int) (packet : PacketMemory) (other : d.cmd.action.toNat ≠ 7) :
    replyText (((d.received lib packet).withError error).received lib client) = replyText (d.withError error) := by
  have sent : (d.withError error).cmd.action.toNat ≠ 7 := other
  have read : ((d.withError error).received lib packet).cmd.action.toNat ≠ 7 := other
  exact (replyText_received client read).trans (replyText_received packet sent)

theorem openError_either {outcome : IfaceOutcome} : openError st outcome d = 0 ∨ openError st outcome d = -1 := by
  unfold openError
  split
  next => exact .inr rfl
  next =>
    split
    next => exact .inr rfl
    next =>
      split
      next => exact .inl rfl
      next => exact .inr rfl

/-- The texts of a cat are objects in memory. -/
def CatShort (memory : CatMemory) (st : Daemon (Dtbl EpPtr)) (d : RtemgrData) : Prop :=
  ∀ self text, namedIface st d = some self → catText memory self = .ok text → text.length < 2147483648

theorem precisely_text {text beyond : List UInt8} (short : text.length < 2147483648) :
    precisely ((BitVec.ofNat 64 text.length).setWidth 32) (text ++ beyond) = cString text := by
  have size : ((BitVec.ofNat 64 text.length).setWidth 32).toNat = text.length := by
    simp only [BitVec.toNat_setWidth, BitVec.toNat_ofNat]
    omega
  have positive : ¬((BitVec.ofNat 64 text.length).setWidth 32).toInt < 0 := by
    rw [BitVec.toInt_eq_toNat_of_lt (by rw [size]; omega)]
    omega
  rw [precisely, if_neg positive, size, List.take_left']
  rfl

/-- The payload of a packet is what is printed of it, whatever lies behind. -/
theorem received_printed (memory : PacketMemory) (whole : d.cmd.val.payload.length = d.cmd.val.s.toNat)
    (short : d.cmd.val.s.toNat < 2147483648) :
    ∃ v, (d.received lib memory).cmd.val.v = some v ∧
      precisely ((d.received lib memory).cmd.val.s.setWidth 32) v = cString d.cmd.val.payload := by
  by_cases empty : d.cmd.val.s = 0
  · have nothing : d.cmd.val.payload = [] := by
      rw [empty] at whole
      exact List.length_eq_zero_iff.mp whole
    refine ⟨cString (lib.encode d.cmd.val.payload), ?_, ?_⟩
    · simp only [RtemgrData.received, RtecmdVal.inMemory, empty, if_true]
    · simp only [RtemgrData.received, RtecmdVal.inMemory, empty, if_true, nothing]
      rfl
  · have size : d.cmd.val.s = BitVec.ofNat 64 d.cmd.val.payload.length := by
      rw [whole, BitVec.ofNat_toNat, BitVec.setWidth_eq]
    refine ⟨d.cmd.val.payload ++ (memory.beyond ++ List.replicate d.cmd.val.s.toNat 0), ?_, ?_⟩
    · simp only [RtemgrData.received, RtecmdVal.inMemory, if_neg empty, Option.map_some, List.append_assoc]
    · have kept : (d.received lib memory).cmd.val.s = d.cmd.val.s := by
        simp only [RtemgrData.received, RtecmdVal.inMemory, if_neg empty]
      rw [kept, size, precisely_text (by rw [whole]; exact short)]

theorem replyText_read (given : d.interfaces ≠ []) (cat : d.cmd.action.toNat = 7) (success : d.cmd.error = 0)
    {v : List UInt8} (data : d.cmd.val.v = some v) :
    replyText d = .ok (precisely (d.cmd.val.s.setWidth 32) v ++ ascii "\n") := by
  obtain ⟨intf, rest, interfaces⟩ := List.exists_cons_of_ne_nil given
  simp only [replyText, interfaces, cat, success, data, if_true]

/-- The data of a cat that was answered. -/
theorem replyText_data (value : memory.cat.value = true) {text : List UInt8} (short : text.length < 2147483648)
    (given : d.interfaces ≠ []) (cat : d.cmd.action.toNat = 7) :
    replyText (((catValue memory.cat d text).1.withError 0).received lib client) = .ok (cString text ++ ascii "\n") := by
  have size : (BitVec.ofNat 64 text.length).toNat = text.length := by
    rw [BitVec.toNat_ofNat]
    omega
  have answer : ∃ packet : RtemgrData, (catValue memory.cat d text).1.withError 0 = packet ∧
      packet.interfaces = d.interfaces ∧ packet.cmd.action = d.cmd.action ∧ packet.cmd.error = 0 ∧
        packet.cmd.val.s = BitVec.ofNat 64 text.length ∧ packet.cmd.val.payload = text := by
    refine ⟨_, rfl, ?_⟩
    unfold catValue
    dsimp only
    split
    next empty =>
      refine ⟨rfl, rfl, rfl, rfl, ?_⟩
      rw [empty]
      exact List.take_zero
    next =>
      rw [value, if_neg (by decide)]
      refine ⟨rfl, rfl, rfl, rfl, ?_⟩
      simp only [RtecmdVal.payload, RtemgrData.withError, Rtecmd.withError, Option.getD_some, size, List.take_length]
  obtain ⟨packet, reply, interfaces, action, success, length, payload⟩ := answer
  have bytes : packet.cmd.val.s.toNat = text.length := by rw [length, size]
  obtain ⟨v, data, printed⟩ := @received_printed lib packet client (by rw [payload, bytes]) (by rw [bytes]; exact short)
  have some : (packet.received lib client).interfaces ≠ [] := by
    intro empty
    rw [RtemgrData.received, List.map_eq_nil_iff, interfaces] at empty
    exact given empty
  have isCat : (packet.received lib client).cmd.action.toNat = 7 := (congrArg BitVec.toNat action).trans cat
  rw [reply, replyText_read some isCat success data, printed, payload]

theorem replyText_cat (plenty : memory.Plenty) (given : d.interfaces ≠ []) (short : CatShort memory.cat st d)
    (cat : d.cmd.action.toNat = 7) :
    replyText ((ctlReply memory st (d.received lib memory.packet)).received lib client) = .ok (told memory st d) := by
  obtain ⟨intf, rest, interfaces⟩ := List.exists_cons_of_ne_nil given
  have sameAction : (d.received lib memory.packet).cmd.action = d.cmd.action := rfl
  have fails : BitVec.ofInt 32 (-1) ≠ 0 := by decide
  have answer : ctlReply memory st (d.received lib memory.packet) = catAnswer memory.cat st (d.received lib memory.packet) := by
    simp only [ctlReply, sameAction, cat]
  have refused : replyText (((d.received lib memory.packet).withError (-1)).received lib client) =
      .ok (ascii "Failed to read data from " ++ quoted intf.name.text ++ ascii ".\n") := by
    simp only [replyText, RtemgrData.received, RtemgrData.withError, Rtecmd.withError, interfaces, cat, fails, if_false,
      List.map_cons, storedIntf_name]
  rw [answer, catAnswer, namedIface_received]
  simp only [told, cat, interfaces, List.map_cons, List.headD_cons]
  cases named : namedIface st d with
  | none => exact refused
  | some self =>
      simp only
      split
      next alone =>
        have text : ((catText memory.cat self).toOption.getD []).length < 2147483648 := by
          cases shown : catText memory.cat self with
          | error fault => exact Nat.zero_lt_succ _
          | ok text => exact short self text named shown
        have some : (d.received lib memory.packet).interfaces ≠ [] := by
          simp only [RtemgrData.received, interfaces, List.map_cons]
          exact List.cons_ne_nil _ _
        exact replyText_data plenty.cat.value text some cat
      next => exact refused

theorem replyText_answer (plenty : memory.Plenty) (given : d.interfaces ≠ []) (listed : listRecords st ≠ [])
    (short : d.cmd.action.toNat = 7 → CatShort memory.cat st d) :
    replyText ((ctlReply memory st (d.received lib memory.packet)).received lib client) = .ok (told memory st d) := by
  by_cases cat : d.cmd.action.toNat = 7
  · exact replyText_cat plenty given (short cat) cat
  obtain ⟨intf, rest, interfaces⟩ := List.exists_cons_of_ne_nil given
  have sameAction : (d.received lib memory.packet).cmd.action = d.cmd.action := rfl
  have succeeds : BitVec.ofInt 32 0 = 0 := rfl
  have fails : BitVec.ofInt 32 (-1) ≠ 0 := by decide
  by_cases list : d.cmd.action.toNat = 1
  · obtain ⟨first, records, isList⟩ := List.exists_cons_of_ne_nil listed
    have reply : ctlReply memory st (d.received lib memory.packet) =
        RtemgrData.withError { d.received lib memory.packet with interfaces := listRecords st } 0 := by
      simp only [ctlReply, sameAction, list]
    have isReply : (RtemgrData.withError { d.received lib memory.packet with interfaces := listRecords st } 0).cmd.action =
        d.cmd.action := rfl
    rw [reply, replyText_received client (by rw [isReply, list]; decide)]
    simp only [replyText, RtemgrData.withError, Rtecmd.withError, isList, sameAction, list, told, tableText]
  have error : ∀ error, ctlReply memory st (d.received lib memory.packet) = (d.received lib memory.packet).withError error →
      replyText ((ctlReply memory st (d.received lib memory.packet)).received lib client) =
        replyText (d.withError error) := by
    intro error reply
    rw [reply, replyText_error error memory.packet cat]
  have same : ∀ error, (d.withError error).cmd.action = d.cmd.action ∧
      (d.withError error).cmd.error = BitVec.ofInt 32 error ∧ (d.withError error).interfaces = intf :: rest :=
    fun error => ⟨rfl, rfl, interfaces⟩
  by_cases opens : d.cmd.action.toNat = 2
  · rw [error (openError st memory.iface d) (by simp only [ctlReply, sameAction, opens, openError_received])]
    simp only [replyText, same, opens, told, interfaces, List.map_cons, List.headD_cons]
    have isError : openError st memory.iface d = 0 ∨ openError st memory.iface d = -1 := openError_either
    obtain success | failure := isError
    · simp only [success, succeeds, if_true]
    · simp only [failure, fails, if_false]
      rfl
  by_cases closes : d.cmd.action.toNat = 3
  · have closed : closeError (d.received lib memory.packet) = 0 :=
      if_neg fun empty => given (List.map_eq_nil_iff.mp empty)
    rw [error 0 (by simp only [ctlReply, sameAction, closes, closed])]
    simp only [replyText, same, closes, told, succeeds, if_true]
    rfl
  by_cases route : d.cmd.action.toNat = 4
  · rw [error (if (routedPair st d).isSome then 0 else -1)
      (by simp only [ctlReply, sameAction, route, routeError, routedPair_received])]
    simp only [replyText, same, route, told, interfaces]
    rcases rest with _ | ⟨second, _ | ⟨third, others⟩⟩
    · rfl
    · by_cases routed : (routedPair st d).isSome = true
      · simp only [routed, succeeds, if_true, List.map_cons, List.map_nil]
      · simp only [if_neg routed, fails, if_false, List.map_cons, List.map_nil]
    · rfl
  by_cases forget : d.cmd.action.toNat = 5
  · rw [error (forgetError st d) (by simp only [ctlReply, sameAction, forget, forgetError, namedIface_received])]
    simp only [replyText, same, forget, told, interfaces, forgetError, List.map_cons, List.headD_cons]
    cases named : namedIface st d with
    | none => simp only [fails, if_false, Option.isSome_none, Bool.false_eq_true]
    | some self => simp only [succeeds, if_true, Option.isSome_some]
  by_cases xfer : d.cmd.action.toNat = 6
  · rw [error 0 (by simp only [ctlReply, sameAction, xfer])]
    simp only [replyText, same, xfer, told, interfaces, succeeds, if_true, List.map_cons, List.headD_cons]
  · have reply : ctlReply memory st (d.received lib memory.packet) = (d.received lib memory.packet).withError (-1) := by
      unfold ctlReply
      rw [sameAction]
      split
      all_goals first | contradiction | rfl
    have silent : replyText (d.withError (-1)) = .ok [] := by
      unfold replyText
      rw [(same (-1)).2.2, (same (-1)).1]
      dsimp only
      split
      all_goals first | contradiction | rfl
    have nothing : told memory st d = [] := by
      unfold told
      dsimp only
      split
      all_goals first | contradiction | rfl
    rw [error (-1) reply, silent, nothing]

/-- The payload of a packet is there, with all its bytes. -/
structure Carried (d : RtemgrData) : Prop where
  given : d.cmd.val.v ≠ none
  whole : d.cmd.val.payload.length = d.cmd.val.s.toNat

theorem received_carried (d : RtemgrData) (memory : PacketMemory) : Carried (d.received lib memory) := by
  by_cases empty : d.cmd.val.s = 0
  · refine ⟨?_, ?_⟩
    · simp [RtemgrData.received, RtecmdVal.inMemory, empty]
    · simp [RtemgrData.received, RtecmdVal.inMemory, RtecmdVal.payload, empty]
  · refine ⟨?_, ?_⟩
    · simp only [RtemgrData.received, RtecmdVal.inMemory, if_neg empty, Option.map_some]
      exact Option.some_ne_none _
    · simp only [RtemgrData.received, RtecmdVal.inMemory, RtecmdVal.payload, if_neg empty, Option.map_some, Option.getD_some,
        List.length_take, List.length_append, List.length_replicate]
      omega

theorem ctlReply_carried (plenty : memory.Plenty) (carried : Carried d)
    (short : d.cmd.action.toNat = 7 → CatShort memory.cat st d) :
    Carried (ctlReply memory st d) := by
  have failed : ∀ error, Carried (d.withError error) := fun _ => ⟨carried.given, carried.whole⟩
  unfold ctlReply
  split
  case h_1 => exact ⟨carried.given, carried.whole⟩
  case h_7 cat =>
    unfold catAnswer
    split
    next => exact failed _
    next self named =>
      split
      next =>
        unfold catValue
        dsimp only
        split
        next empty =>
          rw [empty]
          exact ⟨carried.given, List.length_take.trans (Nat.zero_min _)⟩
        next given =>
          rw [plenty.cat.value, if_neg (by decide)]
          have isText : ((catText memory.cat self).toOption.getD []).length < 2147483648 := by
            cases shown : catText memory.cat self with
            | error fault => exact Nat.zero_lt_succ _
            | ok text => exact short cat self text named shown
          refine ⟨Option.some_ne_none _, ?_⟩
          simp only [RtemgrData.withError, Rtecmd.withError, RtecmdVal.payload, Option.getD_some, BitVec.toNat_ofNat,
            List.length_take]
          omega
      next => exact failed _
  all_goals exact failed _

theorem listRecords_given {ctrl : IfacePtr} {wire : Wire} (wired : CtrlWired ctrl wire st) : listRecords st ≠ [] := by
  obtain ⟨rest, first⟩ := wired.listed
  obtain ⟨self, live, -⟩ := wired.owner
  have member : (⟨0, ctrl :: rest⟩ : Domain) ∈ st.domainList := List.mem_of_getElem? first
  intro empty
  have nothing := List.flatMap_eq_nil_iff.mp empty _ member
  rw [domainRecords, live] at nothing
  cases nothing

end Answers

/-! ## Every run -/

/-- The daemon can carry out the request and answer it, and has memory for both. -/
structure Requested (lib : PacketLib) (memory : CtlMemory) (st : Daemon (Dtbl EpPtr)) (d : RtemgrData) : Prop where
  plenty : memory.Plenty
  text : (d.cmd.val.v.getD []).length < 18446744073709551616
  command : CommandSound lib memory st (d.received lib memory.packet) (lib.write (rtemgrDataEmit lib.encode d))
  short : d.cmd.action.toNat = 7 → CatShort memory.cat st d
  fits : (lib.write (rtemgrDataEmit lib.encode (ctlReply memory st (d.received lib memory.packet)))).length ≤ 4096

/-- The user of a command line that the client accepts and can send is told what the
daemon makes of it. -/
def Tells (lib : PacketLib) (st : Daemon (Dtbl EpPtr)) : Prop :=
  ∀ cli entry options operands d document memory client, entry ∈ rtemgrActions →
    subcmdOptCheck cli entry options operands = .ok (some d) → emitInto lib.toEmitLib d 4096 = some document →
      Requested lib memory st d → PacketMemory.alloc client = .succeeds →
        ∃ next reply, processCtlport dtblTable lib memory st document = .ok (next, some (reply, 0)) ∧
          LastFrame next reply ∧ replyCallback lib client reply = .ok (some (told memory st d))

section Runs

variable {lib : PacketLib} {st : Daemon (Dtbl EpPtr)} {ctrl : IfacePtr} {wire : Wire} {memory : CtlMemory}
  {d : RtemgrData} {data : List UInt8}

theorem Serving.replies (serving : Serving ctrl wire st) (plenty : memory.Plenty)
    (received : receivePacket lib memory.packet data = .ok (some d)) (sound : CtlSound lib memory st d data)
    (given : (ctlReply memory st d).cmd.val.v ≠ none)
    (fits : (lib.write (rtemgrDataEmit lib.encode (ctlReply memory st d))).length ≤ 4096) :
    ∃ next, processCtlport dtblTable lib memory st data =
        .ok (next, some (lib.write (rtemgrDataEmit lib.encode (ctlReply memory st d)), 0)) ∧
      LastFrame next (lib.write (rtemgrDataEmit lib.encode (ctlReply memory st d))) := by
  obtain ⟨after, kept, processed⟩ := serving.sends plenty received sound
  obtain ⟨ep, sent, last⟩ := kept.reply (lib.write (rtemgrDataEmit lib.encode (ctlReply memory st d)))
  refine ⟨{ after with lib := ep }, ?_, last⟩
  rw [processed, sendReply, if_neg fun null => given null.1]
  simp only [emitInto, Bool.not_true, Bool.false_eq_true, if_false, if_pos fits, sent, bind, Except.bind]

theorem Healthy.tells (healthy : Healthy ctrl wire st) (back : lib.ReadsBack) (writes : lib.WritesAll) : Tells lib st := by
  intro cli entry options operands d document memory client member accepted sent requested succeeds
  obtain ⟨plenty, text, command, short, fits⟩ := requested
  have asks := accepted_asks accepted member
  obtain ⟨room, rfl⟩ := emitInto_some sent
  obtain ⟨count, payload⟩ := written_small writes room
  have size : d.cmd.val.s.toNat < 4294967296 := by
    have whole : d.cmd.val.s.toNat = (d.cmd.val.v.getD []).length := by
      rw [asks.size, BitVec.toNat_ofNat]
      exact Nat.mod_eq_of_lt text
    rw [RtecmdVal.payload, List.take_of_length_le (Nat.le_of_eq whole.symm)] at payload
    omega
  have received := receivePacket_written back plenty.packet size (by omega)
  have shortReceived : (d.received lib memory.packet).cmd.action.toNat = 7 →
      CatShort memory.cat st (d.received lib memory.packet) := by
    intro cat self shown named
    exact short cat self shown (namedIface_received.symm.trans named)
  have carried := ctlReply_carried plenty (received_carried d memory.packet) shortReceived
  have sound := command.ctlSound healthy.serving.daemon.routes healthy.routes
  obtain ⟨next, processed, last⟩ := healthy.serving.replies plenty received sound carried.given fits
  obtain ⟨replyCount, replyPayload⟩ := written_small writes fits
  rw [carried.whole] at replyPayload
  have replySize : (ctlReply memory st (d.received lib memory.packet)).cmd.val.s.toNat < 4294967296 := by omega
  have read := receivePacket_written back succeeds replySize (by omega)
  refine ⟨next, _, processed, last, ?_⟩
  simp only [replyCallback, read, bind, Except.bind,
    replyText_answer plenty asks.given (listRecords_given healthy.serving.wired) short]
  rfl

theorem lines_writesAll : PacketLib.lines.WritesAll where
  scalars events := by
    induction events with
    | nil => simp [scalarsLength]
    | cons event rest ih =>
        have text : event.text.length ≤ event.line.length := by
          simp only [YamlEvent.line, List.length_append, List.length_cons, List.length_flatMap, List.length_nil,
            List.map_const', List.sum_replicate_nat]
          omega
        simp only [scalarsLength, PacketLib.lines, List.map_cons, List.sum_cons, List.flatMap_cons, List.length_append]
          at ih ⊢
        omega
  payload payload := by
    change payload.length ≤ (cString (Base64.encode payload)).length
    rw [cString_eq_self (Base64.nul_not_mem_encode payload), Base64.encode_length]
    omega

def CliMemory.succeeds : CliMemory := ⟨true, fun _ => true, fun _ => true, fun _ => .cleared, fun _ => .cleared⟩

end Runs

end Rteipc
