import Rteipc.Packet

namespace Rteipc

/-! `rtemgr_data_parse` as a machine over libyaml's events. -/

inductive Field where
  | topLevel
  | cmd
  | val
  | ext
  | intf
deriving DecidableEq, Repr

inductive Item where
  | itemNone
  | nrIntf
  | cmdAct
  | cmdErr
  | valV
  | valS
  | extAddr
  | extRsize
  | intfId
  | intfBus
  | intfName
  | intfPath
  | intfDom
  | intfManaged
  | intfPartner
deriving DecidableEq, Repr

/-- The field of the document an item is read in. -/
def Item.field : Item → Field
  | .itemNone | .nrIntf => .topLevel
  | .cmdAct | .cmdErr => .cmd
  | .valV | .valS => .val
  | .extAddr | .extRsize => .ext
  | .intfId | .intfBus | .intfName | .intfPath | .intfDom | .intfManaged | .intfPartner => .intf

/-- The variables that say where in the document the loop is. -/
structure ParseCursor where
  field : Field
  item : Item
  seqNest : Int
  fieldStart : Int
deriving DecidableEq, Repr

/-- The loop's variables. `intf` tells whether the pointer has been assigned;
it then equals `d->interfaces`. `dups` counts the calls of `strdup`. -/
structure ParseState where
  cursor : ParseCursor
  d : RtemgrData
  intf : Bool
  idxIntf : Nat
  dups : Nat
deriving DecidableEq, Repr

def ParseState.start : ParseState where
  cursor := ⟨.topLevel, .itemNone, 0, 0⟩
  d := rtemgrDataAlloc
  intf := false
  idxIntf := 0
  dups := 0

/-- How the loop is left before the end of the stream. `outOfBounds` is an
access `intf[idx_intf]` with `intf` unassigned or the index outside it. -/
inductive ParseStop where
  | error
  | outOfBounds
deriving DecidableEq, Repr

/-- Which allocations succeed: `realloc` by the number of interfaces asked
for, `strdup` by its earlier calls, and the buffer of the decoded payload. -/
structure ParseAlloc where
  realloc : Nat → Bool
  strdup : Nat → Bool
  payload : Bool

def ParseAlloc.succeeds : ParseAlloc := ⟨fun _ => true, fun _ => true, true⟩

def ParseCursor.openSequence (cursor : ParseCursor) : ParseCursor :=
  { cursor with seqNest := cursor.seqNest + 1 }

/-- The test for `VAL` comes before the one for `EXT`, so one end leaves one level. -/
def ParseCursor.closeSequence (cursor : ParseCursor) : ParseCursor :=
  let seqNest := cursor.seqNest - 1
  let field := if seqNest ≤ cursor.fieldStart then .topLevel else cursor.field
  let field := if field = .val then .cmd else field
  let field := if field = .ext then .val else field
  { cursor with seqNest, field }

/-- A scalar where a key is due. -/
def ParseCursor.key (cursor : ParseCursor) (value : List UInt8) : ParseCursor :=
  match cursor.field with
  | .topLevel =>
      if strmatch value (ascii "nr_intf") then { cursor with item := .nrIntf }
      else if strmatch value (ascii "cmd") then
        { cursor with field := .cmd, fieldStart := cursor.seqNest }
      else if strmatch value (ascii "interfaces") then
        { cursor with field := .intf, fieldStart := cursor.seqNest }
      else { cursor with fieldStart := cursor.seqNest }
  | .cmd =>
      if strmatch value (ascii "action") then { cursor with item := .cmdAct }
      else if strmatch value (ascii "error") then { cursor with item := .cmdErr }
      else if strmatch value (ascii "val") then { cursor with field := .val }
      else cursor
  | .val =>
      if strmatch value (ascii "v") then { cursor with item := .valV }
      else if strmatch value (ascii "s") then { cursor with item := .valS }
      else if strmatch value (ascii "extra") then { cursor with field := .ext }
      else cursor
  | .ext =>
      if strmatch value (ascii "addr") then { cursor with item := .extAddr }
      else if strmatch value (ascii "rsize") then { cursor with item := .extRsize }
      else cursor
  | .intf =>
      if strmatch value (ascii "id") then { cursor with item := .intfId }
      else if strmatch value (ascii "bus_type") then { cursor with item := .intfBus }
      else if strmatch value (ascii "name") then { cursor with item := .intfName }
      else if strmatch value (ascii "path") then { cursor with item := .intfPath }
      else if strmatch value (ascii "domain") then { cursor with item := .intfDom }
      else if strmatch value (ascii "managed") then { cursor with item := .intfManaged }
      else if strmatch value (ascii "partner") then { cursor with item := .intfPartner }
      else cursor

/-- `count` rounds of `while (nr_intf > d->nr_intf)`. -/
def growInterfaces (realloc : Nat → Bool) (d : RtemgrData) : Nat → Option RtemgrData
  | 0 => some d
  | count + 1 =>
      match rtemgrDataAllocInterface realloc d with
      | none => none
      | some d => growInterfaces realloc d count

theorem growInterfaces_all (d : RtemgrData) (count : Nat) :
    growInterfaces (fun _ => true) d count =
      some { d with interfaces := d.interfaces ++ List.replicate count freshIntf } := by
  induction count generalizing d with
  | zero => rw [growInterfaces, List.replicate_zero, List.append_nil]
  | succ count ih =>
      rw [growInterfaces, rtemgrDataAllocInterface, if_pos rfl]
      simp only [ih, List.append_assoc, List.singleton_append, List.replicate_succ]

def storeNrIntf (alloc : ParseAlloc) (state : ParseState) (value : List UInt8) :
    Except ParseStop ParseState :=
  let nrIntf := ((strtoul value 0).setWidth 32).toInt
  match growInterfaces alloc.realloc state.d (nrIntf - state.d.interfaces.length).toNat with
  | none => .error .error
  | some d => .ok { state with d, intf := true }

/-- An assignment to a member of `intf[idx_intf]`. -/
def storeIntf (state : ParseState) (set : RtemgrIntf → RtemgrIntf) : Except ParseStop ParseState :=
  if state.intf ∧ state.idxIntf < state.d.interfaces.length then
    .ok { state with d.interfaces := state.d.interfaces.modify state.idxIntf set }
  else .error .outOfBounds

def storeV (alloc : ParseAlloc) (state : ParseState) (value : List UInt8) : ParseState :=
  { state with
      d.cmd.val.v := if alloc.strdup state.dups then some value else none
      dups := state.dups + 1 }

/-- A scalar where the value of `item` is due. An item that is not one of the
field it is met in is dropped. -/
def storeItem (alloc : ParseAlloc) (state : ParseState) (value : List UInt8) :
    Except ParseStop ParseState :=
  match state.cursor.field, state.cursor.item with
  | .topLevel, .nrIntf => storeNrIntf alloc state value
  | .cmd, .cmdAct => .ok { state with d.cmd.action := (strtoul value 0).setWidth 32 }
  | .cmd, .cmdErr => .ok { state with d.cmd.error := (strtoul value 0).setWidth 32 }
  | .val, .valV => .ok (storeV alloc state value)
  | .val, .valS => .ok { state with d.cmd.val.s := strtoul value 0 }
  | .ext, .extAddr => .ok { state with d.cmd.val.extra.addr := (strtoul value 0).setWidth 16 }
  | .ext, .extRsize => .ok { state with d.cmd.val.extra.rsize := (strtoul value 0).setWidth 16 }
  | .intf, .intfId =>
      storeIntf state fun intf => { intf with id := (strtoul value 0).setWidth 32 }
  | .intf, .intfBus =>
      storeIntf state fun intf => { intf with busType := (strtoul value 0).setWidth 32 }
  | .intf, .intfName => storeIntf state fun intf => { intf with name := strncpy 16 value }
  | .intf, .intfPath => storeIntf state fun intf => { intf with path := strncpy 128 value }
  | .intf, .intfDom =>
      storeIntf state fun intf => { intf with domain := (strtoul value 0).setWidth 32 }
  | .intf, .intfManaged =>
      storeIntf state fun intf => { intf with managed := (strtoul value 0).setWidth 32 }
  | .intf, .intfPartner => storeIntf state fun intf => { intf with partner := strncpy 16 value }
  | _, _ => .ok state

def parseScalar (alloc : ParseAlloc) (state : ParseState) (value : List UInt8) :
    Except ParseStop ParseState :=
  if state.cursor.item = .itemNone then .ok { state with cursor := state.cursor.key value }
  else
    match storeItem alloc state value with
    | .error stop => .error stop
    | .ok state => .ok { state with cursor.item := .itemNone }

def parseEvent (alloc : ParseAlloc) (state : ParseState) : YamlEvent → Except ParseStop ParseState
  | .sequenceStart => .ok { state with cursor := state.cursor.openSequence }
  | .sequenceEnd => .ok { state with cursor := state.cursor.closeSequence }
  | .mappingEnd =>
      .ok (if state.cursor.field = .intf then { state with idxIntf := state.idxIntf + 1 } else state)
  | .scalar value => parseScalar alloc state (cString value)
  | _ => .ok state

/-- The event loop. Without an end of the stream `yaml_parser_parse` has failed. -/
def parseEvents (alloc : ParseAlloc) : ParseState → List YamlEvent → Except ParseStop ParseState
  | _, [] => .error .error
  | state, event :: rest =>
      match parseEvent alloc state event with
      | .error stop => .error stop
      | .ok state => if event = .streamEnd then .ok state else parseEvents alloc state rest

/-- `produced` is the number of bytes `decode_base64` writes into the buffer of
`s` bytes, whose size it is not given. -/
structure ParsedPacket where
  d : RtemgrData
  produced : Nat
deriving DecidableEq, Repr

def decodePayload (decode : List UInt8 → List UInt8) (alloc : ParseAlloc) (d : RtemgrData) :
    Option ParsedPacket :=
  match d.cmd.val.v with
  | none => some ⟨d, 0⟩
  | some text =>
      if d.cmd.val.s = 0 then some ⟨d, 0⟩
      else if alloc.payload then
        some ⟨{ d with cmd.val.v := some (decode text) }, (decode text).length⟩
      else none

theorem decodePayload_empty {decode : List UInt8 → List UInt8} {alloc : ParseAlloc} {d : RtemgrData}
    (empty : d.cmd.val.s = 0) : decodePayload decode alloc d = some ⟨d, 0⟩ := by
  unfold decodePayload
  split
  · rfl
  · exact if_pos empty

theorem decodePayload_null {decode : List UInt8 → List UInt8} {alloc : ParseAlloc} {d : RtemgrData}
    (null : d.cmd.val.v = none) : decodePayload decode alloc d = some ⟨d, 0⟩ := by
  rw [decodePayload, null]

theorem decodePayload_text {decode : List UInt8 → List UInt8} {alloc : ParseAlloc} {d : RtemgrData}
    {text : List UInt8} (given : d.cmd.val.v = some text) (nonempty : d.cmd.val.s ≠ 0)
    (room : alloc.payload = true) :
    decodePayload decode alloc d =
      some ⟨{ d with cmd.val.v := some (decode text) }, (decode text).length⟩ := by
  simp only [decodePayload, given]
  rw [if_neg nonempty, if_pos room]

inductive ParseResult where
  | null
  | outOfBounds
  | packet (parsed : ParsedPacket)
deriving DecidableEq, Repr

def rtemgrDataParse (decode : List UInt8 → List UInt8) (alloc : ParseAlloc) (events : List YamlEvent) :
    ParseResult :=
  match parseEvents alloc .start events with
  | .error .outOfBounds => .outOfBounds
  | .error .error => .null
  | .ok state =>
      match decodePayload decode alloc state.d with
      | none => .null
      | some parsed => .packet parsed

theorem rtemgrDataParse_ok {decode : List UInt8 → List UInt8} {alloc : ParseAlloc}
    {events : List YamlEvent} {state : ParseState} {parsed : ParsedPacket}
    (ended : parseEvents alloc .start events = .ok state)
    (decoded : decodePayload decode alloc state.d = some parsed) :
    rtemgrDataParse decode alloc events = .packet parsed := by
  simp only [rtemgrDataParse, ended, decoded]

end Rteipc
