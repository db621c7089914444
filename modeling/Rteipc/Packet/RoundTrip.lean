import Rteipc.Data.Base64
import Rteipc.Packet.Emit
import Rteipc.Packet.Parse

namespace Rteipc

/-! Parsing what was emitted gives the packet back. -/

structure SameIntf (intf parsed : RtemgrIntf) : Prop where
  id : parsed.id = intf.id
  busType : parsed.busType = intf.busType
  name : parsed.name.text = intf.name.text
  path : parsed.path.text = intf.path.text
  domain : parsed.domain = intf.domain
  managed : parsed.managed = intf.managed
  partner : parsed.partner.text = intf.partner.text

/-- Equal in every field; arrays are compared as C strings, payloads up to their size. -/
structure SamePacket (d parsed : RtemgrData) : Prop where
  action : parsed.cmd.action = d.cmd.action
  error : parsed.cmd.error = d.cmd.error
  payload : parsed.cmd.val.payload = d.cmd.val.payload
  s : parsed.cmd.val.s = d.cmd.val.s
  extra : parsed.cmd.val.extra = d.cmd.val.extra
  interfaces : List.Forall₂ SameIntf d.interfaces parsed.interfaces

/-- Every text leaves room for its NUL in its array. -/
structure Terminated (intf : RtemgrIntf) : Prop where
  name : intf.name.text.length < 16
  path : intf.path.text.length < 128
  partner : intf.partner.text.length < 16

/-! ## Keys and values -/

def Item.name : Item → String
  | .itemNone => ""
  | .nrIntf => "nr_intf"
  | .cmdAct => "action"
  | .cmdErr => "error"
  | .valV => "v"
  | .valS => "s"
  | .extAddr => "addr"
  | .extRsize => "rsize"
  | .intfId => "id"
  | .intfBus => "bus_type"
  | .intfName => "name"
  | .intfPath => "path"
  | .intfDom => "domain"
  | .intfManaged => "managed"
  | .intfPartner => "partner"

theorem key_item {item : Item} (present : item ≠ .itemNone) (seqNest fieldStart : Int) :
    ParseCursor.key ⟨item.field, .itemNone, seqNest, fieldStart⟩ (cString (ascii item.name)) =
      ⟨item.field, item, seqNest, fieldStart⟩ := by
  cases item
  case itemNone => exact (present rfl).elim
  all_goals rfl

variable {alloc : ParseAlloc} {cursor : ParseCursor} {d d' : RtemgrData} {intf intf' : Bool}
  {idxIntf dups dups' : Nat} {event : YamlEvent} {rest : List YamlEvent}

theorem parseEvents_cons {state next : ParseState} (running : event ≠ .streamEnd)
    (parsed : parseEvent alloc state event = .ok next) :
    parseEvents alloc state (event :: rest) = parseEvents alloc next rest := by
  rw [parseEvents, parsed]
  exact if_neg running

theorem parseEvents_to (moved : ParseCursor) (running : event ≠ .streamEnd)
    (parsed : parseEvent alloc ⟨cursor, d, intf, idxIntf, dups⟩ event =
      .ok ⟨moved, d, intf, idxIntf, dups⟩) :
    parseEvents alloc ⟨cursor, d, intf, idxIntf, dups⟩ (event :: rest) =
      parseEvents alloc ⟨moved, d, intf, idxIntf, dups⟩ rest :=
  parseEvents_cons running parsed

/-- A key and its value. Whatever the value's text is, it is not taken for a key. -/
theorem parseEvents_pair (item : Item) {value : List UInt8} {seqNest fieldStart : Int}
    (present : item ≠ .itemNone)
    (stored : storeItem alloc ⟨⟨item.field, item, seqNest, fieldStart⟩, d, intf, idxIntf, dups⟩ (cString value) =
      .ok ⟨⟨item.field, item, seqNest, fieldStart⟩, d', intf', idxIntf, dups'⟩) :
    parseEvents alloc ⟨⟨item.field, .itemNone, seqNest, fieldStart⟩, d, intf, idxIntf, dups⟩
        (.key item.name :: .scalar value :: rest) =
      parseEvents alloc ⟨⟨item.field, .itemNone, seqNest, fieldStart⟩, d', intf', idxIntf, dups'⟩ rest := by
  have named : parseEvent alloc ⟨⟨item.field, .itemNone, seqNest, fieldStart⟩, d, intf, idxIntf, dups⟩
      (.key item.name) = .ok ⟨⟨item.field, item, seqNest, fieldStart⟩, d, intf, idxIntf, dups⟩ := by
    rw [YamlEvent.key, parseEvent, parseScalar, if_pos rfl, key_item present]
  have valued : parseEvent alloc ⟨⟨item.field, item, seqNest, fieldStart⟩, d, intf, idxIntf, dups⟩
      (.scalar value) = .ok ⟨⟨item.field, .itemNone, seqNest, fieldStart⟩, d', intf', idxIntf, dups'⟩ := by
    rw [parseEvent, parseScalar, if_neg present, stored]
  rw [parseEvents_cons (by simp) named, parseEvents_cons (by simp) valued]

/-! ## The command -/

theorem parse_extra (addr rsize : List UInt8) (rest : List YamlEvent) :
    parseEvents alloc ⟨⟨.val, .itemNone, 2, 0⟩, d, intf, idxIntf, dups⟩
        (.key "extra" :: .sequenceStart :: .mappingStart :: .key "addr" :: .scalar addr ::
          .key "rsize" :: .scalar rsize :: .mappingEnd :: .sequenceEnd :: rest) =
      parseEvents alloc
        ⟨⟨.val, .itemNone, 2, 0⟩,
          { d with cmd.val.extra :=
              ⟨(strtoul (cString addr) 0).setWidth 16, (strtoul (cString rsize) 0).setWidth 16⟩ },
          intf, idxIntf, dups⟩ rest := by
  refine (parseEvents_to ⟨.ext, .itemNone, 2, 0⟩ (by simp) rfl).trans ?_
  refine (parseEvents_to ⟨.ext, .itemNone, 3, 0⟩ (by simp) rfl).trans ?_
  refine (parseEvents_to ⟨.ext, .itemNone, 3, 0⟩ (by simp) rfl).trans ?_
  refine (parseEvents_pair .extAddr (by decide) rfl).trans ?_
  refine (parseEvents_pair .extRsize (by decide) rfl).trans ?_
  refine (parseEvents_to ⟨.ext, .itemNone, 3, 0⟩ (by simp) rfl).trans ?_
  exact parseEvents_to ⟨.val, .itemNone, 2, 0⟩ (by simp) rfl

theorem parse_val (v s addr rsize : List UInt8) (rest : List YamlEvent) :
    parseEvents .succeeds ⟨⟨.cmd, .itemNone, 1, 0⟩, d, intf, idxIntf, dups⟩
        (.key "val" :: .sequenceStart :: .mappingStart :: .key "v" :: .scalar v :: .key "s" :: .scalar s ::
          .key "extra" :: .sequenceStart :: .mappingStart :: .key "addr" :: .scalar addr ::
          .key "rsize" :: .scalar rsize :: .mappingEnd :: .sequenceEnd :: .mappingEnd :: .sequenceEnd :: rest) =
      parseEvents .succeeds
        ⟨⟨.cmd, .itemNone, 1, 0⟩,
          { d with cmd.val := ⟨some (cString v), strtoul (cString s) 0,
              ⟨(strtoul (cString addr) 0).setWidth 16, (strtoul (cString rsize) 0).setWidth 16⟩⟩ },
          intf, idxIntf, dups + 1⟩ rest := by
  refine (parseEvents_to ⟨.val, .itemNone, 1, 0⟩ (by simp) rfl).trans ?_
  refine (parseEvents_to ⟨.val, .itemNone, 2, 0⟩ (by simp) rfl).trans ?_
  refine (parseEvents_to ⟨.val, .itemNone, 2, 0⟩ (by simp) rfl).trans ?_
  refine (parseEvents_pair .valV (by decide) rfl).trans ?_
  refine (parseEvents_pair .valS (by decide) rfl).trans ?_
  refine (parse_extra addr rsize _).trans ?_
  refine (parseEvents_to ⟨.val, .itemNone, 2, 0⟩ (by simp) rfl).trans ?_
  exact parseEvents_to ⟨.cmd, .itemNone, 1, 0⟩ (by simp) rfl

/-- The number of interfaces comes before them, so room is made for all. -/
theorem storeNrIntf_declares {state : ParseState} {count : Nat} (none : state.d.interfaces = [])
    (small : count < 2147483648) :
    storeNrIntf .succeeds state (cString (printInt (BitVec.ofNat 32 count))) =
      .ok { state with d.interfaces := List.replicate count freshIntf, intf := true } := by
  have declared : (BitVec.ofNat 32 count).toInt = count := by
    rw [BitVec.toInt_eq_toNat_cond, BitVec.toNat_ofNat]
    omega
  rw [storeNrIntf, cString_printInt, strtoul_printInt, declared, none, List.length_nil]
  simp only [ParseAlloc.succeeds, Nat.cast_zero, Int.sub_zero, Int.toNat_natCast, growInterfaces_all, none,
    List.nil_append]

def storedVal (encode : List UInt8 → List UInt8) (val : RtecmdVal) : RtecmdVal :=
  { val with v := some (cString (encode val.payload)) }

/-- Of the size the low 32 bits are left. -/
def storedCmd (encode : List UInt8 → List UInt8) (cmd : Rtecmd) : Rtecmd :=
  { cmd with val := { storedVal encode cmd.val with s := (cmd.val.s.setWidth 32).setWidth 64 } }

theorem storedCmd_small {encode : List UInt8 → List UInt8} {cmd : Rtecmd} (size : cmd.val.s.toNat < 4294967296) :
    storedCmd encode cmd = { cmd with val := storedVal encode cmd.val } := by
  have whole : (cmd.val.s.setWidth 32).setWidth 64 = cmd.val.s := by
    apply BitVec.eq_of_toNat_eq
    simp only [BitVec.toNat_setWidth]
    omega
  rw [storedCmd, whole]
  rfl

theorem parse_cmd (encode : List UInt8 → List UInt8) (d : RtemgrData) (rest : List YamlEvent)
    (count : d.interfaces.length < 2147483648) :
    parseEvents .succeeds .start (emitCmd encode d ++ rest) =
      parseEvents .succeeds
        ⟨⟨.intf, .itemNone, 1, 0⟩, ⟨storedCmd encode d.cmd, List.replicate d.interfaces.length freshIntf⟩,
          true, 0, 1⟩ rest := by
  have shortRead : ∀ value : BitVec 16,
      (strtoul (cString (printUnsigned (value.setWidth 32))) 0).setWidth 16 = value := by
    intro value
    have bound := value.isLt
    rw [cString_printUnsigned, strtoul_printUnsigned]
    apply BitVec.eq_of_toNat_eq
    simp only [BitVec.toNat_setWidth]
    omega
  have intRead : ∀ value : BitVec 32,
      (strtoul (cString (printInt value)) 0).setWidth 32 = value := by
    intro value
    rw [cString_printInt, strtoul_printInt]
  simp only [emitCmd, List.cons_append, List.nil_append]
  refine (parseEvents_to ⟨.topLevel, .itemNone, 0, 0⟩ (by simp) rfl).trans ?_
  refine (parseEvents_to ⟨.topLevel, .itemNone, 0, 0⟩ (by simp) rfl).trans ?_
  refine (parseEvents_to ⟨.topLevel, .itemNone, 0, 0⟩ (by simp) rfl).trans ?_
  refine (parseEvents_to ⟨.cmd, .itemNone, 0, 0⟩ (by simp) rfl).trans ?_
  refine (parseEvents_to ⟨.cmd, .itemNone, 1, 0⟩ (by simp) rfl).trans ?_
  refine (parseEvents_to ⟨.cmd, .itemNone, 1, 0⟩ (by simp) rfl).trans ?_
  refine (parseEvents_pair .cmdAct (by decide) rfl).trans ?_
  refine (parseEvents_pair .cmdErr (by decide) rfl).trans ?_
  refine (parse_val _ _ _ _ _).trans ?_
  refine (parseEvents_to ⟨.cmd, .itemNone, 1, 0⟩ (by simp) rfl).trans ?_
  refine (parseEvents_to ⟨.topLevel, .itemNone, 0, 0⟩ (by simp) rfl).trans ?_
  refine (parseEvents_pair .nrIntf (by decide) (storeNrIntf_declares rfl count)).trans ?_
  refine (parseEvents_to ⟨.intf, .itemNone, 0, 0⟩ (by simp) rfl).trans ?_
  refine (parseEvents_to ⟨.intf, .itemNone, 1, 0⟩ (by simp) rfl).trans ?_
  rw [intRead, intRead, cString_printUnsigned, strtoul_printUnsigned, shortRead, shortRead, cString_cString]
  rfl

/-! ## The interfaces -/

/-- What is left of an interface after a trip: the arrays hold zeros after their texts. -/
def storedIntf (intf : RtemgrIntf) : RtemgrIntf :=
  { intf with
      name := strncpy 16 intf.name.text
      path := strncpy 128 intf.path.text
      partner := strncpy 16 intf.partner.text }

theorem storeIntf_at (cursor : ParseCursor) (cmd : Rtecmd) (done later : List RtemgrIntf) (old : RtemgrIntf)
    (dups : Nat) (set : RtemgrIntf → RtemgrIntf) :
    storeIntf ⟨cursor, ⟨cmd, done ++ old :: later⟩, true, done.length, dups⟩ set =
      .ok ⟨cursor, ⟨cmd, done ++ set old :: later⟩, true, done.length, dups⟩ := by
  have inside : done.length < (done ++ old :: later).length := by
    rw [List.length_append, List.length_cons]
    omega
  rw [storeIntf, if_pos ⟨rfl, inside⟩]
  simp only [List.modify_eq_take_drop, List.take_left, List.drop_left, List.modifyHead_cons]

theorem parse_interface (cmd : Rtecmd) (done later : List RtemgrIntf) (old intf : RtemgrIntf)
    (dups : Nat) (rest : List YamlEvent) :
    parseEvents alloc ⟨⟨.intf, .itemNone, 1, 0⟩, ⟨cmd, done ++ old :: later⟩, true, done.length, dups⟩
        (emitInterface intf ++ rest) =
      parseEvents alloc
        ⟨⟨.intf, .itemNone, 1, 0⟩, ⟨cmd, done ++ storedIntf intf :: later⟩, true, done.length + 1, dups⟩
        rest := by
  simp only [emitInterface, List.cons_append, List.nil_append]
  refine (parseEvents_to ⟨.intf, .itemNone, 1, 0⟩ (by simp) rfl).trans ?_
  refine (parseEvents_pair .intfId (by decide) (storeIntf_at _ _ _ _ _ _ _)).trans ?_
  refine (parseEvents_pair .intfBus (by decide) (storeIntf_at _ _ _ _ _ _ _)).trans ?_
  refine (parseEvents_pair .intfName (by decide) (storeIntf_at _ _ _ _ _ _ _)).trans ?_
  refine (parseEvents_pair .intfPath (by decide) (storeIntf_at _ _ _ _ _ _ _)).trans ?_
  refine (parseEvents_pair .intfDom (by decide) (storeIntf_at _ _ _ _ _ _ _)).trans ?_
  refine (parseEvents_pair .intfManaged (by decide) (storeIntf_at _ _ _ _ _ _ _)).trans ?_
  refine (parseEvents_pair .intfPartner (by decide) (storeIntf_at _ _ _ _ _ _ _)).trans ?_
  refine (parseEvents_cons (by simp) rfl).trans ?_
  simp only [cString_printInt, strtoul_printInt, CharArray.text, cString_cString]
  rfl

theorem parse_interfaces (alloc : ParseAlloc) (cmd : Rtecmd) (interfaces done : List RtemgrIntf) (dups : Nat)
    (rest : List YamlEvent) :
    parseEvents alloc
        ⟨⟨.intf, .itemNone, 1, 0⟩, ⟨cmd, done ++ List.replicate interfaces.length freshIntf⟩, true,
          done.length, dups⟩
        (interfaces.flatMap emitInterface ++ rest) =
      parseEvents alloc
        ⟨⟨.intf, .itemNone, 1, 0⟩, ⟨cmd, done ++ interfaces.map storedIntf⟩, true,
          done.length + interfaces.length, dups⟩ rest := by
  induction interfaces generalizing done with
  | nil => rfl
  | cons intf later ih =>
      have next := ih (done ++ [storedIntf intf])
      rw [List.flatMap_cons, List.append_assoc, List.length_cons, List.replicate_succ, parse_interface]
      simp only [List.append_assoc, List.singleton_append, List.length_append, List.length_singleton] at next
      rw [next, List.map_cons]
      congr 2
      omega

theorem parse_end (cmd : Rtecmd) (interfaces : List RtemgrIntf) (idxIntf dups : Nat) :
    parseEvents alloc ⟨⟨.intf, .itemNone, 1, 0⟩, ⟨cmd, interfaces⟩, true, idxIntf, dups⟩ emitEnd =
      .ok ⟨⟨.topLevel, .itemNone, 0, 0⟩, ⟨cmd, interfaces⟩, true, idxIntf, dups⟩ := by
  refine (parseEvents_to ⟨.topLevel, .itemNone, 0, 0⟩ (by simp) rfl).trans ?_
  refine (parseEvents_to ⟨.topLevel, .itemNone, 0, 0⟩ (by simp) rfl).trans ?_
  rfl

theorem parse_emitted (encode : List UInt8 → List UInt8) (d : RtemgrData)
    (count : d.interfaces.length < 2147483648) :
    parseEvents .succeeds .start (rtemgrDataEmit encode d) =
      .ok
        ⟨⟨.topLevel, .itemNone, 0, 0⟩, ⟨storedCmd encode d.cmd, d.interfaces.map storedIntf⟩, true,
          d.interfaces.length, 1⟩ := by
  have each := parse_interfaces .succeeds (storedCmd encode d.cmd) d.interfaces [] 1 emitEnd
  rw [rtemgrDataEmit, List.append_assoc, parse_cmd encode d _ count]
  refine each.trans ?_
  rw [parse_end, List.length_nil, Nat.zero_add, List.nil_append]

theorem parse_emit (encode : List UInt8 → List UInt8) (d : RtemgrData)
    (size : d.cmd.val.s.toNat < 4294967296) (count : d.interfaces.length < 2147483648) :
    parseEvents .succeeds .start (rtemgrDataEmit encode d) =
      .ok
        ⟨⟨.topLevel, .itemNone, 0, 0⟩,
          ⟨{ d.cmd with val := storedVal encode d.cmd.val }, d.interfaces.map storedIntf⟩,
          true, d.interfaces.length, 1⟩ := by
  rw [parse_emitted encode d count, storedCmd_small size]

theorem storedIntf_same {intf : RtemgrIntf} (terminated : Terminated intf) :
    SameIntf intf (storedIntf intf) where
  id := rfl
  busType := rfl
  name := strncpy_text (nul_not_mem_cString _) terminated.name
  path := strncpy_text (nul_not_mem_cString _) terminated.path
  domain := rfl
  managed := rfl
  partner := strncpy_text (nul_not_mem_cString _) terminated.partner

/-- Whatever the packet holds, parsing its events gives an equal packet. The
hypotheses on `d` are the types' bounds: the payload has `s` bytes, `%u` prints
32 bits of the size, and the number of interfaces is an `int`. -/
theorem packet_round_trip (encode decode : List UInt8 → List UInt8) (d : RtemgrData)
    (undoes : ∀ payload, decode (cString (encode payload)) = payload)
    (given : (d.cmd.val.v.getD []).length = d.cmd.val.s.toNat)
    (size : d.cmd.val.s.toNat < 4294967296) (count : d.interfaces.length < 2147483648)
    (terminated : ∀ intf ∈ d.interfaces, Terminated intf) :
    ∃ parsed, rtemgrDataParse decode .succeeds (rtemgrDataEmit encode d) = .packet parsed ∧
      SamePacket d parsed.d := by
  have same : List.Forall₂ SameIntf d.interfaces (d.interfaces.map storedIntf) := by
    apply List.forall₂_map_right_iff.mpr
    exact List.forall₂_same.mpr fun intf member => storedIntf_same (terminated intf member)
  have ended := parse_emit encode d size count
  by_cases empty : d.cmd.val.s = 0
  · refine ⟨_, rtemgrDataParse_ok ended (decodePayload_empty empty), rfl, rfl, ?_, rfl, rfl, same⟩
    rw [RtecmdVal.payload, RtecmdVal.payload, storedVal, empty]
    rfl
  · have whole : d.cmd.val.payload = d.cmd.val.v.getD [] := List.take_of_length_le (by omega)
    refine ⟨_, rtemgrDataParse_ok ended (decodePayload_text rfl empty rfl), rfl, rfl, ?_, rfl, rfl, same⟩
    simp only [storedVal, undoes, whole]
    exact List.take_of_length_le (by rw [← given]; exact Nat.le_refl _)

/-- A packet whose texts are keys of the format and whose numbers are negative. -/
def keyPacket : RtemgrData where
  cmd := ⟨-1, 0, ⟨some [1, 2, 0], 3, ⟨0x1f, 65535⟩⟩⟩
  interfaces :=
    [ ⟨-1, 4, strncpy 16 (ascii "cmd"), strncpy 128 (ascii "interfaces"), 0, 1, strncpy 16 (ascii "id")⟩,
      ⟨7, -1, strncpy 16 (ascii "nr_intf"), strncpy 128 [], -2, 0, strncpy 16 [0xc3, 0xa9]⟩ ]

theorem packet_round_trip_keys :
    ∃ parsed, rtemgrDataParse Data.Base64.decode .succeeds
        (rtemgrDataEmit Data.Base64.encode keyPacket) = .packet parsed ∧ SamePacket keyPacket parsed.d :=
  packet_round_trip Data.Base64.encode Data.Base64.decode keyPacket
    (fun payload => by rw [cString_eq_self (Data.Base64.nul_not_mem_encode payload), Data.Base64.decode_encode])
    (by decide) (by decide) (by decide)
    (fun intf member => by
      obtain rfl | rfl := List.mem_pair.mp member
      · exact ⟨by decide, by decide, by decide⟩
      · exact ⟨by decide, by decide, by decide⟩)

end Rteipc
