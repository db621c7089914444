import Rteipc.Packet

namespace Rteipc

/-! `rtemgr_data_emit` as the events it hands to libyaml, in order. -/

def YamlEvent.key (text : String) : YamlEvent := .scalar (ascii text)

@[simp] theorem YamlEvent.key_ne_streamEnd (text : String) : YamlEvent.key text ≠ .streamEnd := by
  simp [YamlEvent.key]

def emitInterface (intf : RtemgrIntf) : List YamlEvent :=
  [ .mappingStart,
    .key "id", .scalar (printInt intf.id),
    .key "bus_type", .scalar (printInt intf.busType),
    .key "name", .scalar intf.name.text,
    .key "path", .scalar intf.path.text,
    .key "domain", .scalar (printInt intf.domain),
    .key "managed", .scalar (printInt intf.managed),
    .key "partner", .scalar intf.partner.text,
    .mappingEnd ]

/-- From the start of the document to the key `interfaces`. `encode` is what
`encode_base64` writes for the payload; `%u` prints the low 32 bits of `s`. -/
def emitCmd (encode : List UInt8 → List UInt8) (d : RtemgrData) : List YamlEvent :=
  [ .streamStart, .documentStart, .mappingStart,
    .key "cmd", .sequenceStart, .mappingStart,
      .key "action", .scalar (printInt d.cmd.action),
      .key "error", .scalar (printInt d.cmd.error),
      .key "val", .sequenceStart, .mappingStart,
        .key "v", .scalar (cString (encode d.cmd.val.payload)),
        .key "s", .scalar (printUnsigned (d.cmd.val.s.setWidth 32)),
        .key "extra", .sequenceStart, .mappingStart,
          .key "addr", .scalar (printUnsigned (d.cmd.val.extra.addr.setWidth 32)),
          .key "rsize", .scalar (printUnsigned (d.cmd.val.extra.rsize.setWidth 32)),
        .mappingEnd, .sequenceEnd,
      .mappingEnd, .sequenceEnd,
    .mappingEnd, .sequenceEnd,
    .key "nr_intf", .scalar (printInt (BitVec.ofNat 32 d.interfaces.length)),
    .key "interfaces", .sequenceStart ]

def emitEnd : List YamlEvent := [.sequenceEnd, .mappingEnd, .documentEnd, .streamEnd]

def rtemgrDataEmit (encode : List UInt8 → List UInt8) (d : RtemgrData) : List YamlEvent :=
  emitCmd encode d ++ d.interfaces.flatMap emitInterface ++ emitEnd

/-! ## The size of the texts -/

def YamlEvent.text : YamlEvent → List UInt8
  | .scalar value => value
  | _ => []

/-- The number of bytes in all scalars. -/
def scalarsLength (events : List YamlEvent) : Nat := (events.map fun event => event.text.length).sum

/-- The keys of an interface have 38 bytes. -/
def RtemgrIntf.textLength (intf : RtemgrIntf) : Nat :=
  38 + (printInt intf.id).length + (printInt intf.busType).length + intf.name.text.length + intf.path.text.length +
    (printInt intf.domain).length + (printInt intf.managed).length + intf.partner.text.length

/-- The scalars of a packet but for the payload; the keys have 50 bytes. -/
def RtemgrData.textLength (d : RtemgrData) : Nat :=
  50 + (printInt d.cmd.action).length + (printInt d.cmd.error).length +
    (printUnsigned (d.cmd.val.s.setWidth 32)).length + (printUnsigned (d.cmd.val.extra.addr.setWidth 32)).length +
    (printUnsigned (d.cmd.val.extra.rsize.setWidth 32)).length +
    (printInt (BitVec.ofNat 32 d.interfaces.length)).length + (d.interfaces.map RtemgrIntf.textLength).sum

theorem scalarsLength_append (first second : List YamlEvent) :
    scalarsLength (first ++ second) = scalarsLength first + scalarsLength second := by
  simp [scalarsLength]

theorem scalarsLength_interface (intf : RtemgrIntf) : scalarsLength (emitInterface intf) = intf.textLength := by
  have keys : ["id", "bus_type", "name", "path", "domain", "managed", "partner"].map (fun key => (ascii key).length) =
      [2, 8, 4, 4, 6, 7, 7] := rfl
  simp only [List.map_cons, List.map_nil, List.cons.injEq, and_true] at keys
  simp only [scalarsLength, emitInterface, YamlEvent.key, List.map_cons, List.map_nil, List.sum_cons, List.sum_nil,
    YamlEvent.text, List.length_nil, RtemgrIntf.textLength, keys]
  omega

theorem scalarsLength_interfaces (interfaces : List RtemgrIntf) :
    scalarsLength (interfaces.flatMap emitInterface) = (interfaces.map RtemgrIntf.textLength).sum := by
  induction interfaces with
  | nil => rfl
  | cons intf rest ih =>
      rw [List.flatMap_cons, scalarsLength_append, ih, scalarsLength_interface, List.map_cons, List.sum_cons]

theorem scalarsLength_emit (encode : List UInt8 → List UInt8) (d : RtemgrData) :
    scalarsLength (rtemgrDataEmit encode d) = (cString (encode d.cmd.val.payload)).length + d.textLength := by
  have ended : scalarsLength emitEnd = 0 := rfl
  have keys : ["cmd", "action", "error", "val", "v", "s", "extra", "addr", "rsize", "nr_intf", "interfaces"].map
      (fun key => (ascii key).length) = [3, 6, 5, 3, 1, 1, 5, 4, 5, 7, 10] := rfl
  simp only [List.map_cons, List.map_nil, List.cons.injEq, and_true] at keys
  rw [rtemgrDataEmit, scalarsLength_append, scalarsLength_append, scalarsLength_interfaces, ended]
  simp only [scalarsLength, emitCmd, YamlEvent.key, List.map_cons, List.map_nil, List.sum_cons, List.sum_nil,
    YamlEvent.text, List.length_nil, RtemgrData.textLength, keys]
  omega

end Rteipc
