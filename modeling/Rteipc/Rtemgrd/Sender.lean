import Rteipc.Packet.RoundTrip
import Rteipc.Rtemgrd.Pending
import Rteipc.Rtemgrd.Steps

namespace Rteipc

/-! What the client of a managed interface learns about the sender of a packet
that another managed interface passes on. -/

open Data

variable {Table : Type} {lib : PacketLib} {memory : ManagedMemory} {st : Daemon Table} {iface found : IfacePtr}
  {self dest : Interface} {intf : RtemgrIntf} {data document : List UInt8}

/-- The data of an interface a packet from it shows. -/
structure SenderData where
  id : Int
  busType : BitVec 32
  name : List UInt8
  uri : List UInt8
  domain : BitVec 32
  managed : BitVec 32
deriving DecidableEq, Repr

def Daemon.sender (st : Daemon Table) (self : Interface) : SenderData where
  id := self.id
  busType := self.busType
  name := self.name
  uri := self.uri
  domain := ((st.domainList[self.domain]?).map Domain.id).getD 0
  managed := self.managed

/-- The record of the sender in a document, as the library's parser reads it. -/
def senderRecord (lib : PacketLib) (document : List UInt8) : Option RtemgrIntf :=
  match receivePacket lib .succeeds document with
  | .ok (some d) => d.interfaces.head?
  | _ => none

/-- Data with a record of an interface makes the sender pass a document on to
it, and that interface is a managed one. -/
structure Forwards (lib : PacketLib) (memory : ManagedMemory) (st : Daemon Table) (iface found : IfacePtr)
    (data : List UInt8) (intf : RtemgrIntf) (document : List UInt8) : Prop where
  packet : ∃ d, receivePacket lib memory.packet data = .ok (some d) ∧ d.interfaces = [intf]
  names : ifaceOf st intf = some found
  passed : ∃ dest, st.ifaces.get found = some dest ∧ dest.managed ≠ 0 ∧
    managedCall lib memory st iface data = .ok (some (.rteipcXfer dest.name document))

/-! ## The packet that is passed on -/

theorem hexCall_call {extra : Extra} {value : List UInt8} {call : XferCall}
    (returned : hexCall memory dest extra value = .ok (some call)) (name document : List UInt8) :
    call ≠ .rteipcXfer name document := by
  obtain ⟨arr, -, returned⟩ := bind_ok returned
  rintro rfl
  split at returned
  next => nomatch returned
  next =>
    split at returned
    next =>
      split at returned
      next =>
        split at returned
        next => nomatch returned
        next => nomatch returned
      next => nomatch returned
    next => nomatch returned

theorem forwardCall_ok {cmd : Rtecmd} {len : Nat} {name : List UInt8} (live : st.ifaces.get iface = some self)
    (returned : forwardCall lib memory st iface dest intf cmd len = .ok (some (.rteipcXfer name document))) :
    ∃ partner, partnerName st self = .ok partner ∧
      document = lib.write (rtemgrDataEmit lib.encode ⟨cmd, [intf.sentBy self (st.sender self).domain partner]⟩) := by
  unfold forwardCall at returned
  split at returned
  next => cases returned
  next =>
    obtain ⟨same, read, returned⟩ := bind_ok returned
    cases (deref_ok read).symm.trans live
    obtain ⟨partner, named, returned⟩ := bind_ok returned
    refine ⟨partner, named, ?_⟩
    dsimp only at returned
    split at returned
    next => cases returned
    next =>
      obtain ⟨whole, fits, same⟩ := Option.map_eq_some_iff.mp (Except.ok.inj returned)
      cases same
      unfold emitInto at fits
      dsimp only at fits
      split at fits
      next =>
        cases fits
        rfl
      next => cases fits

theorem Forwards.written (forwards : Forwards lib memory st iface found data intf document)
    (live : st.ifaces.get iface = some self) :
    ∃ cmd partner, partnerName st self = .ok partner ∧
      document = lib.write (rtemgrDataEmit lib.encode ⟨cmd, [intf.sentBy self (st.sender self).domain partner]⟩) := by
  obtain ⟨d, received, interfaces⟩ := forwards.packet
  obtain ⟨dest, destLive, managed, call⟩ := forwards.passed
  simp only [managedCall, received, bind, Except.bind, packetCall, interfaces, forwards.names, deref_live destLive]
    at call
  split at call
  next => nomatch call
  next value given =>
    split at call
    next => nomatch call
    next =>
      unfold payloadCall at call
      dsimp only at call
      by_cases socket : dest.busType = EpType.ipc.number ∨ dest.busType = EpType.inet.number ∨
          dest.busType = EpType.tty.number ∨ dest.busType = EpType.sysfs.number
      · rw [if_pos socket, if_neg managed] at call
        exact ⟨d.cmd, forwardCall_ok live call⟩
      · rw [if_neg socket] at call
        split at call
        next => nomatch call
        next =>
          split at call
          next => exact (hexCall_call call _ _ rfl).elim
          next => nomatch call

/-! ## The record in it -/

theorem strcpy_text {size : Nat} (array : CharArray size) (text : List UInt8) :
    (array.strcpy text).text = cString (text.take size) := by
  change cString ((text ++ 0 :: array.bytes.drop (text.length + 1)).take size) = _
  rw [List.take_append]
  cases room : size - text.length with
  | zero => rw [List.take_zero, List.append_nil]
  | succ room =>
      rw [List.take_succ_cons]
      by_cases nul : 0 ∈ text.take size
      · exact cString_append_nul nul _
      · rw [cString_append nul, cString_eq_self nul]
        exact List.append_nil _

theorem text_length_le {size : Nat} (array : CharArray size) : array.text.length ≤ size :=
  Nat.le_trans (List.takeWhile_prefix _).length_le (Nat.le_of_eq array.full)

/-- The record of a sender with a partner's name. -/
def SenderData.record (sender : SenderData) (partner : List UInt8) : RtemgrIntf where
  id := BitVec.ofInt 32 sender.id
  busType := sender.busType
  name := strncpy 16 (cString (sender.name.take 16))
  path := strncpy 128 (cString (sender.uri.take 128))
  domain := sender.domain
  managed := sender.managed
  partner := strncpy 16 partner

/-- All but the partner of one without a partner is overwritten. -/
theorem storedIntf_sentBy : storedIntf (intf.sentBy self (st.sender self).domain none) =
    (st.sender self).record intf.partner.text := by
  simp only [storedIntf, RtemgrIntf.sentBy, strcpy_text, SenderData.record, Daemon.sender]

theorem record_partner {sender : SenderData} : (sender.record intf.partner.text).partner.text = intf.partner.text :=
  strncpy_fits (nul_not_mem_cString _) (text_length_le _)

/-- The parser reads an emitted record back, whatever the size of the payload. -/
theorem senderRecord_emitted (reads : ∀ events, lib.events (lib.write events) = events) (cmd : Rtecmd) :
    senderRecord lib (lib.write (rtemgrDataEmit lib.encode ⟨cmd, [intf]⟩)) = some (storedIntf intf) := by
  have parsed := parse_emitted lib.encode ⟨cmd, [intf]⟩ (by decide : 1 < 2147483648)
  have succeeds : PacketMemory.succeeds.alloc = .succeeds := rfl
  unfold senderRecord receivePacket
  rw [reads, succeeds]
  by_cases empty : (storedCmd lib.encode cmd).val.s = 0
  · rw [rtemgrDataParse_ok parsed (decodePayload_empty empty)]
    rfl
  · rw [rtemgrDataParse_ok parsed (decodePayload_text rfl empty rfl)]
    rfl

/-! ## Two packets -/

section Packets

variable {tbl : DescTable Table}

/-- A managed interface in a state that some run of the daemon reaches. -/
structure ManagedSender (tbl : DescTable Table) (lib : PacketLib) (st : Daemon Table) (iface : IfacePtr)
    (owner : Interface) : Prop where
  reached : ∃ outcome start msgs, rtemgrd tbl outcome = .ok (start, 0) ∧ Reaches (RtemgrdStep tbl lib) start msgs st
  listed : Listed st iface
  live : st.ifaces.get iface = some owner
  managed : owner.managed ≠ 0

/-- No route leads from it. -/
theorem ManagedSender.alone (sender : ManagedSender tbl lib st iface self) : self.partner = none := by
  obtain ⟨outcome, start, msgs, started, run⟩ := sender.reached
  have inv : RouteInv st ∧ HubsAlone st.partners := by
    have first : RouteInv start ∧ HubsAlone start.partners := ⟨(rtemgrd_routes started).1, rtemgrd_hubs started⟩
    apply run.invariant _ first
    intro before msg after kept taken
    obtain ⟨routes, hubs⟩ : RouteInv before ∧ HubsAlone before.partners := kept
    obtain ⟨middle, ep, handled, -, rfl⟩ := taken.handled
    have same := SameRoutes.of_lib middle ep
    refine ⟨same.same_inv (routes.handled handled), ?_⟩
    rw [same.same_partners]
    exact HubsAlone.handled routes hubs handled
  exact inv.2 iface self.node (partners_some.mpr ⟨sender.listed, self, sender.live, rfl⟩)
    (decide_eq_true sender.managed)

theorem ManagedSender.record_eq (sender : ManagedSender tbl lib st iface self)
    (reads : ∀ events, lib.events (lib.write events) = events)
    (forwards : Forwards lib memory st iface found data intf document) :
    senderRecord lib document = some ((st.sender self).record intf.partner.text) := by
  obtain ⟨cmd, partner, named, rfl⟩ := forwards.written sender.live
  have unnamed : partner = none := by
    simp only [partnerName, sender.alone] at named
    exact (Except.ok.inj named).symm
  rw [unnamed, senderRecord_emitted reads, storedIntf_sentBy]

/-- What the destination reads about the sender of two packets is the same
exactly when the packets name the same partner: the rest is the sender's own. -/
theorem sender_record_same_iff {memory' : ManagedMemory} {st' : Daemon Table} {iface' found' : IfacePtr}
    {self' : Interface} {intf' : RtemgrIntf} {data' document' : List UInt8}
    (reads : ∀ events, lib.events (lib.write events) = events) (sender : ManagedSender tbl lib st iface self)
    (sender' : ManagedSender tbl lib st' iface' self') (same : st.sender self = st'.sender self')
    (forwards : Forwards lib memory st iface found data intf document)
    (forwards' : Forwards lib memory' st' iface' found' data' intf' document') :
    senderRecord lib document = senderRecord lib document' ↔ intf.partner.text = intf'.partner.text := by
  rw [sender.record_eq reads forwards, sender'.record_eq reads forwards', same, Option.some.injEq]
  constructor
  · intro same
    rw [← record_partner, same, record_partner]
  · intro same
    rw [same]

end Packets

/-! ## A library that reads back what it writes -/

def YamlEvent.tag : YamlEvent → UInt8
  | .streamStart => 2
  | .documentStart => 3
  | .mappingStart => 4
  | .mappingEnd => 5
  | .sequenceStart => 6
  | .sequenceEnd => 7
  | .scalar _ => 8
  | .alias => 9
  | .documentEnd => 10
  | .streamEnd => 11

def YamlEvent.ofTag (tag : UInt8) (text : List UInt8) : YamlEvent :=
  if tag = 2 then .streamStart
  else if tag = 3 then .documentStart
  else if tag = 4 then .mappingStart
  else if tag = 5 then .mappingEnd
  else if tag = 6 then .sequenceStart
  else if tag = 7 then .sequenceEnd
  else if tag = 8 then .scalar text
  else if tag = 9 then .alias
  else if tag = 10 then .documentEnd
  else .streamEnd

/-- The tag, then every byte of the text behind a 1, and a 0. -/
def YamlEvent.line (event : YamlEvent) : List UInt8 := event.tag :: (event.text.flatMap fun byte => [1, byte]) ++ [0]

def readText : List UInt8 → List UInt8 × List UInt8
  | 1 :: byte :: rest => (byte :: (readText rest).1, (readText rest).2)
  | _ :: rest => ([], rest)
  | [] => ([], [])

def readLines : Nat → List UInt8 → List YamlEvent
  | fuel + 1, tag :: rest => .ofTag tag (readText rest).1 :: readLines fuel (readText rest).2
  | _, _ => []

theorem readText_line (text rest : List UInt8) :
    readText ((text.flatMap fun byte => [1, byte]) ++ 0 :: rest) = (text, rest) := by
  induction text with
  | nil => rfl
  | cons byte text ih => simp [readText, ih]

theorem readLines_lines (events : List YamlEvent) {fuel : Nat} (enough : events.length ≤ fuel) :
    readLines fuel (events.flatMap YamlEvent.line) = events := by
  induction events generalizing fuel with
  | nil => cases fuel <;> rfl
  | cons event events ih =>
      cases fuel with
      | zero => nomatch enough
      | succ fuel =>
          have read : YamlEvent.ofTag event.tag event.text = event := by cases event <;> rfl
          simp [YamlEvent.line, readLines, readText_line, read, ih (Nat.le_of_succ_le_succ enough)]

def PacketLib.lines : PacketLib where
  encode := Base64.encode
  write events := events.flatMap YamlEvent.line
  events bytes := readLines bytes.length bytes
  decode := Base64.decode

theorem lines_read (events : List YamlEvent) :
    PacketLib.lines.events (PacketLib.lines.write events) = events := by
  apply readLines_lines
  induction events with
  | nil => exact Nat.le_refl _
  | cons event events ih =>
      simp only [PacketLib.lines, List.flatMap_cons, List.length_append, List.length_cons, YamlEvent.line] at ih ⊢
      omega

/-! ## The control interface as sender and destination -/

/-- A packet that names it, with a partner's name. -/
def toCtlport (partner : String) : RtemgrData where
  cmd := ⟨6, 0, ⟨some [120], 1, ⟨0, 0⟩⟩⟩
  interfaces := [{ freshIntf with name := strncpy 16 rtemgrdCtlport, partner := strncpy 16 (ascii partner) }]

def sentToCtlport (partner : String) : List UInt8 :=
  PacketLib.lines.write (rtemgrDataEmit Base64.encode (toCtlport partner))

def receivedByCtlport (partner : String) : RtemgrData :=
  match receivePacket .lines .succeeds (sentToCtlport partner) with
  | .ok (some d) => d
  | _ => rtemgrDataAlloc

def passedByCtlport (partner : String) : List UInt8 :=
  match managedCall .lines .succeeds .started 0 (sentToCtlport partner) with
  | .ok (some (.rteipcXfer _ document)) => document
  | _ => []

def ctlportRecord (partner : String) : RtemgrIntf := (receivedByCtlport partner).interfaces.headD freshIntf

theorem ctlport_sender :
    ManagedSender dtblTable .lines .started 0 ((Daemon.started.ifaces.get 0).getD (freshInterface 0)) where
  reached := ⟨allSucceeds, .started, [], rtemgrd_started, .nil _⟩
  listed := by
    have first : Daemon.started.domainList = [⟨0, [0]⟩] := by decide +kernel
    rw [Listed, first]
    exact ⟨0, ⟨0, [0]⟩, rfl, List.mem_singleton_self 0⟩
  live := by decide +kernel
  managed := by decide +kernel

/-- The packet is received, and passed on to the control interface. -/
def CtlportPasses (partner : String) : Prop :=
  receivePacket .lines .succeeds (sentToCtlport partner) = .ok (some (receivedByCtlport partner)) ∧
    (receivedByCtlport partner).interfaces = [ctlportRecord partner] ∧
      ifaceOf Daemon.started (ctlportRecord partner) = some 0 ∧
        managedCall .lines .succeeds .started 0 (sentToCtlport partner) =
          .ok (some (.rteipcXfer rtemgrdCtlport (passedByCtlport partner)))

instance (partner : String) : Decidable (CtlportPasses partner) := inferInstanceAs (Decidable (_ ∧ _ ∧ _ ∧ _))

theorem CtlportPasses.forwards {partner : String} (passes : CtlportPasses partner) :
    Forwards .lines .succeeds .started 0 0 (sentToCtlport partner) (ctlportRecord partner)
      (passedByCtlport partner) where
  packet := ⟨receivedByCtlport partner, passes.1, passes.2.1⟩
  names := passes.2.2.1
  passed := by
    have named : ((Daemon.started.ifaces.get 0).getD (freshInterface 0)).name = rtemgrdCtlport := by decide +kernel
    have call := passes.2.2.2
    rw [← named] at call
    exact ⟨_, ctlport_sender.live, ctlport_sender.managed, call⟩

theorem passes_a : CtlportPasses "a" := by decide +kernel

theorem passes_b : CtlportPasses "b" := by decide +kernel

/-- Two packets of the control interface to itself. -/
theorem sender_record_same_ctlport :
    senderRecord .lines (passedByCtlport "a") = senderRecord .lines (passedByCtlport "b") ↔
      (ctlportRecord "a").partner.text = (ctlportRecord "b").partner.text :=
  sender_record_same_iff lines_read ctlport_sender ctlport_sender rfl passes_a.forwards passes_b.forwards

/-- The partner a packet names is passed on as the sender's. -/
theorem sender_record_forged :
    ¬ ∀ (lib : PacketLib) (st : Daemon (Dtbl EpPtr)) (iface found : IfacePtr) (self : Interface)
      (memory : ManagedMemory) (data data' : List UInt8) (d d' : RtemgrData) (intf intf' : RtemgrIntf)
      (document document' : List UInt8), (∀ events, lib.events (lib.write events) = events) →
        ManagedSender dtblTable lib st iface self →
          receivePacket lib memory.packet data = .ok (some d) → receivePacket lib memory.packet data' = .ok (some d') →
            d.cmd = d'.cmd → intf.name = intf'.name → intf.domain = intf'.domain →
              Forwards lib memory st iface found data intf document →
                Forwards lib memory st iface found data' intf' document' →
                  senderRecord lib document = senderRecord lib document' := by
  intro same
  have records := same .lines .started 0 0 _ .succeeds _ _ _ _ _ _ _ _ lines_read ctlport_sender passes_a.1 passes_b.1
    (by decide +kernel) (by decide +kernel) (by decide +kernel) passes_a.forwards passes_b.forwards
  have differ : senderRecord .lines (passedByCtlport "a") ≠ senderRecord .lines (passedByCtlport "b") := by
    decide +kernel
  exact differ records

end Rteipc
