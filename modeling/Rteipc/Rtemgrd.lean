import Rteipc.Endpoint
import Rteipc.Packet.Emit

namespace Rteipc

/-! The daemon `rtemgrd.c`: its interfaces, the data that arrives at the raw
ones, and the commands that open, close, route and forget interfaces. -/

open Data

abbrev IfacePtr := Nat

/-- What `iface->handler` points to. -/
inductive IfaceHandler where
  | raw
  | managed
deriving DecidableEq, Repr

/-- The callback the daemon registers with its loops. -/
inductive DaemonCb where
  | defaultDomainHandler
deriving DecidableEq, Repr

/-- `domain` is the position in the list of domains. -/
structure Interface where
  id : Int
  ep : Int
  name : List UInt8
  uri : List UInt8
  busType : BitVec 32
  domain : Nat
  managed : BitVec 32
  handler : Option IfaceHandler
  partner : Option IfacePtr
  pending : Evbuffer
deriving DecidableEq, Repr

structure Domain where
  id : BitVec 32
  ifaceList : List IfacePtr
deriving DecidableEq, Repr

structure Daemon (Table : Type) where
  lib : EpState Table DaemonCb IfacePtr
  ifaces : Heap Interface
  domainList : List Domain
  ctrlIface : Option IfacePtr

variable {Table : Type} (tbl : DescTable Table)

def EpType.number : EpType → BitVec 32
  | .ipc => 1
  | .tty => 2
  | .gpio => 3
  | .spi => 4
  | .i2c => 5
  | .sysfs => 6
  | .inet => 7
  | .loop => 8

def busPrefixTbl : List (EpType × List UInt8) :=
  [(.ipc, ascii "ipc://"), (.inet, ascii "inet://"), (.tty, ascii "tty://"), (.gpio, ascii "gpio://"),
    (.spi, ascii "spi://"), (.i2c, ascii "i2c://"), (.sysfs, ascii "sysfs://")]

def busToPrefix (bus : BitVec 32) : List UInt8 :=
  ((busPrefixTbl.find? fun entry => entry.1.number = bus).map Prod.snd).getD []

/-! ## Domains and interfaces -/

/-- A listed interface is live: `iface_free`, the one place that frees
interfaces of a list, unlinks them first. -/
def ifaceLookupByName (st : Daemon Table) (domain : Option Nat) (name : List UInt8) : Option IfacePtr :=
  domain.bind fun position =>
    (st.domainList[position]?).bind fun domain =>
      domain.ifaceList.find? fun iface => (st.ifaces.get iface).any fun self => strmatch self.name name

def domainLookupById (st : Daemon Table) (id : BitVec 32) : Option Nat :=
  st.domainList.findIdx? fun domain => domain.id = id

/-- The zeroed `struct interface` with its domain and an empty queue. -/
def freshInterface (domain : Nat) : Interface where
  id := 0
  ep := 0
  name := []
  uri := []
  busType := 0
  domain := domain
  managed := 0
  handler := none
  partner := none
  pending := []

/-- Outcomes of the allocations in `iface_new`, and of what `iface_build` does. -/
structure IfaceOutcome where
  calloc : Bool
  pending : Bool
  id : OpenOutcome
  ep : OpenOutcome
  pair : Bool
deriving DecidableEq, Repr

def ifaceNew (st : Daemon Table) (outcome : IfaceOutcome) (domain : Nat) : Daemon Table × Option IfacePtr :=
  if !outcome.calloc then (st, none)
  else if !outcome.pending then (st, none)
  else
    let iface := st.ifaces.next
    ({ st with
        ifaces := st.ifaces.alloc (freshInterface domain)
        domainList := st.domainList.modify domain fun domain =>
          { domain with ifaceList := domain.ifaceList ++ [iface] } }, some iface)

def Interface.unrouted (self : Interface) : Interface := { self with partner := none }

/-- The body of the loop in `__do_forget`. -/
def Interface.forgetting (self : Interface) (iface forget : IfacePtr) : Interface :=
  if iface ≠ forget ∧ self.partner = some forget then self.unrouted else self

def doForget (ifaces : Heap Interface) (domain : Domain) (forget : IfacePtr) : Heap Interface :=
  domain.ifaceList.foldl (fun ifaces iface => ifaces.modify iface (·.forgetting iface forget)) ifaces

def ifaceForget (st : Daemon Table) (iface : IfacePtr) : Except Fault (Daemon Table) := do
  let self ← deref st.ifaces iface
  if self.managed = 0 then
    match self.partner with
    | none => .ok st
    | some partner => do
        let _ ← deref st.ifaces partner
        .ok { st with ifaces := (st.ifaces.modify partner .unrouted).modify iface .unrouted }
  else
    .ok { st with ifaces := st.domainList.foldl (fun ifaces domain => doForget ifaces domain iface) st.ifaces }

def Domain.remove (domain : Domain) (iface : IfacePtr) : Domain :=
  { domain with ifaceList := domain.ifaceList.filter fun other => other ≠ iface }

def closeIfOpen (lib : EpState Table DaemonCb IfacePtr) (id : Int) :
    Except Fault (EpState Table DaemonCb IfacePtr) :=
  if id ≥ 0 then rteipcClose tbl lib id else .ok lib

def ifaceFree (st : Daemon Table) (iface : IfacePtr) : Except Fault (Daemon Table) := do
  let self ← deref st.ifaces iface
  let lib ← closeIfOpen tbl st.lib self.id
  let lib ← closeIfOpen tbl lib self.ep
  let st ← ifaceForget { st with lib, domainList := st.domainList.modify self.domain (·.remove iface) } iface
  .ok { st with ifaces := st.ifaces.free iface }

/-- The fields `iface_build` sets. -/
def Interface.built (self : Interface) (id ep : Int) (name uri : List UInt8) (busType managed : BitVec 32) :
    Interface :=
  { self with
      id
      ep
      name
      uri
      busType
      managed
      handler := some (if managed ≠ 0 then .managed else .raw) }

/-- `strcpy` has 16 bytes of room for the name. A path that fills its 128 bytes
is read on after them, but the URI is cut before that shows. -/
def ifaceBuild (st : Daemon Table) (outcome : IfaceOutcome) (iface : IfacePtr) (name path : List UInt8)
    (busType managed : BitVec 32) : Except Fault (Daemon Table × Int) :=
  if name.length ≥ 16 then .error .overflow
  else do
    let uri := (busToPrefix busType ++ path).take 127
    let (lib, id) ← rteipcOpen tbl st.lib outcome.id name
    let (lib, ep) ← rteipcOpen tbl lib outcome.ep uri
    let lib := (rteipcXferSetcb lib name (some .defaultDomainHandler) (some iface)).1
    let ifaces := st.ifaces.modify iface fun self => self.built id ep name uri busType managed
    if id < 0 ∨ ep < 0 then .ok ({ st with lib, ifaces }, -1)
    else do
      let (lib, bound) ← rteipcBind tbl lib outcome.pair id ep
      .ok ({ st with lib, ifaces }, if bound < 0 then -1 else 0)

/-! ## Data from the backend of a raw interface -/

/-- What the raw handler needs of `rtemgr_data_emit`: the encoder and the text
libyaml writes for a sequence of events. -/
structure EmitLib where
  encode : List UInt8 → List UInt8
  write : List YamlEvent → List UInt8

/-- Outcomes of the allocations made for one message. -/
structure Memory where
  malloc : Nat → Bool
  evbuffer : Bool
  packet : Bool
  interface : Bool
  emit : Bool

def ifacePending (self : Interface) (memory : Memory) (data : List UInt8) : Interface :=
  if memory.evbuffer then { self with pending := self.pending ++ (htonl data.length ++ data) } else self

/-- The packet `iface_raw_handler` sends to a managed partner. -/
def senderPacket (self : Interface) (domain : BitVec 32) (partner data : List UInt8) : RtemgrData where
  cmd := ⟨6, 0, ⟨some data, BitVec.ofNat 64 data.length, ⟨0, 0⟩⟩⟩
  interfaces :=
    [{ id := BitVec.ofInt 32 self.id
       busType := self.busType
       name := strncpy 16 self.name
       path := strncpy 128 self.uri
       domain := domain
       managed := self.managed
       partner := strncpy 16 partner }]

/-- The document, where memory is found and it fits the buffer. -/
def senderDocument (emitLib : EmitLib) (memory : Memory) (d : RtemgrData) (len : Nat) : Option (List UInt8) :=
  let bufsz := max (len * 3 / 2) 512
  let document := emitLib.write (rtemgrDataEmit emitLib.encode d)
  if memory.malloc len && memory.malloc bufsz && memory.packet && memory.interface && memory.emit &&
      decide (document.length ≤ bufsz) then some document
  else none

def ifaceRawHandler (emitLib : EmitLib) (memory : Memory) (st : Daemon Table) (iface : IfacePtr)
    (data : List UInt8) : Except Fault (Daemon Table) := do
  let self ← deref st.ifaces iface
  match self.partner with
  | none => .ok { st with ifaces := st.ifaces.modify iface fun self => ifacePending self memory data }
  | some partner => do
      let other ← deref st.ifaces partner
      if other.managed = 0 then do
        let sent ← rteipcXfer st.lib other.name data
        .ok { st with lib := sent.1 }
      else
        let domain := ((st.domainList[self.domain]?).map Domain.id).getD 0
        match senderDocument emitLib memory (senderPacket self domain other.name data) data.length with
        | none => .ok st
        | some document => do
            let sent ← rteipcXfer st.lib other.name document
            .ok { st with lib := sent.1 }

/-- The queue holds whole frames, so a message drained has all its bytes. Only
raw interfaces are triggered: their handler is `iface_raw_handler`. -/
def triggerLoop (emitLib : EmitLib) (memory : Nat → Memory) (iface : IfacePtr) :
    Nat → Daemon Table → Except Fault (Daemon Table)
  | 0, st => .ok st
  | fuel + 1, st => do
      let self ← deref st.ifaces iface
      match rteipcMsgDrain (memory fuel).malloc self.pending with
      | (.message _ msg, pending) => do
          let drained := { st with ifaces := st.ifaces.modify iface fun self => { self with pending } }
          let st ← ifaceRawHandler emitLib (memory fuel) drained iface msg
          triggerLoop emitLib memory iface fuel st
      | _ => .ok st

/-- A message takes its header off the queue, so the fuel is never used up. -/
def ifaceTrigger (emitLib : EmitLib) (memory : Nat → Memory) (st : Daemon Table) (iface : IfacePtr) :
    Except Fault (Daemon Table) := do
  let self ← deref st.ifaces iface
  match self.partner with
  | none => .ok st
  | some _ => triggerLoop emitLib memory iface (self.pending.length + 1) st

/-! ## Commands -/

def doRtecmdOpen (st : Daemon Table) (outcome : IfaceOutcome) (d : RtemgrData) :
    Except Fault (Daemon Table × Int) :=
  match d.interfaces with
  | [] => .ok (st, -1)
  | intf :: _ =>
      match domainLookupById st intf.domain with
      | none => .ok (st, -1)
      | some domain =>
          match ifaceNew st outcome domain with
          | (st, none) => .ok (st, -1)
          | (st, some iface) => do
              let built ← ifaceBuild tbl st outcome iface intf.name.text intf.path.text intf.busType intf.managed
              if built.2 ≠ 0 then do
                let st ← ifaceFree tbl built.1 iface
                .ok (st, -1)
              else .ok (built.1, 0)

def ifaceOf (st : Daemon Table) (intf : RtemgrIntf) : Option IfacePtr :=
  ifaceLookupByName st (domainLookupById st intf.domain) intf.name.text

def closeInterfaces (st : Daemon Table) : List RtemgrIntf → Except Fault (Daemon Table)
  | [] => .ok st
  | intf :: rest =>
      match ifaceOf st intf with
      | none => closeInterfaces st rest
      | some iface => do
          let st ← ifaceFree tbl st iface
          closeInterfaces st rest

def doRtecmdClose (st : Daemon Table) (d : RtemgrData) : Except Fault (Daemon Table × Int) :=
  if d.interfaces = [] then .ok (st, -1)
  else (closeInterfaces tbl st d.interfaces).map (·, 0)

/-- One half of `do_rtecmd_route`. -/
def routeSide (emitLib : EmitLib) (memory : Nat → Memory) (st : Daemon Table) (iface other : IfacePtr) :
    Except Fault (Daemon Table) := do
  let self ← deref st.ifaces iface
  if self.managed = 0 then
    ifaceTrigger emitLib memory
      { st with ifaces := st.ifaces.modify iface fun self => { self with partner := some other } } iface
  else .ok st

def doRtecmdRoute (emitLib : EmitLib) (st : Daemon Table) (left right : Nat → Memory) (d : RtemgrData) :
    Except Fault (Daemon Table × Int) :=
  match d.interfaces with
  | [lh, rh] =>
      match ifaceOf st lh, ifaceOf st rh with
      | some ifaceLh, some ifaceRh =>
          if ifaceLh = ifaceRh then .ok (st, -1)
          else do
            let st ← routeSide emitLib left st ifaceLh ifaceRh
            let st ← routeSide emitLib right st ifaceRh ifaceLh
            .ok (st, 0)
      | _, _ => .ok (st, -1)
  | _ => .ok (st, -1)

/-- The first interface of the packet is read without a look at their number. -/
def doRtecmdForget (st : Daemon Table) (d : RtemgrData) : Except Fault (Daemon Table × Int) :=
  match d.interfaces with
  | [] => .error .absentInterface
  | intf :: _ =>
      match ifaceOf st intf with
      | none => .ok (st, -1)
      | some iface => (ifaceForget st iface).map (·, 0)

/-! ## The daemon -/

inductive DaemonCall where
  | rtecmdOpen (outcome : IfaceOutcome) (d : RtemgrData)
  | rtecmdClose (d : RtemgrData)
  | rtecmdRoute (left right : Nat → Memory) (d : RtemgrData)
  | rtecmdForget (d : RtemgrData)
  | rawData (memory : Memory) (iface : IfacePtr) (data : List UInt8)

/-- What an interface's raw handler does with arriving data. -/
def ifaceRawData (emitLib : EmitLib) (memory : Memory) (st : Daemon Table) (iface : IfacePtr)
    (data : List UInt8) : Except Fault (Daemon Table) := do
  let self ← deref st.ifaces iface
  if self.handler = some .raw then ifaceRawHandler emitLib memory st iface data else .ok st

def Daemon.call (emitLib : EmitLib) (st : Daemon Table) : DaemonCall → Except Fault (Daemon Table × Int)
  | .rtecmdOpen outcome d => doRtecmdOpen tbl st outcome d
  | .rtecmdClose d => doRtecmdClose tbl st d
  | .rtecmdRoute left right d => doRtecmdRoute emitLib st left right d
  | .rtecmdForget d => doRtecmdForget st d
  | .rawData memory iface data => (ifaceRawData emitLib memory st iface data).map (·, 0)

def DaemonStep (emitLib : EmitLib) (st : Daemon Table) (call : DaemonCall) (next : Daemon Table) : Prop :=
  ∃ ret, st.call tbl emitLib call = .ok (next, ret)

/-- The static variables before `main`, with the default domain in its list. -/
def Daemon.start : Daemon Table where
  lib := .start tbl
  ifaces := .empty
  domainList := [⟨0, []⟩]
  ctrlIface := none

def rtemgrdCtlport : List UInt8 := ascii "@rtemgrd"

/-- The set-up of the control interface; on -1 the daemon exits. -/
def rtemgrd (outcome : IfaceOutcome) : Except Fault (Daemon Table × Int) :=
  match ifaceNew (.start tbl) outcome 0 with
  | (st, none) => .ok (st, -1)
  | (st, some iface) =>
      ifaceBuild tbl { st with ctrlIface := some iface } outcome iface rtemgrdCtlport rtemgrdCtlport
        EpType.ipc.number 1

/-! ## What a call that returns has done -/

section Returned

variable {tbl} {st next : Daemon Table} {outcome : IfaceOutcome} {iface : IfacePtr} {ret : Int}

def grown (st : Daemon Table) (domain : Nat) : Daemon Table :=
  { st with
      ifaces := st.ifaces.alloc (freshInterface domain)
      domainList := st.domainList.modify domain fun domain =>
        { domain with ifaceList := domain.ifaceList ++ [st.ifaces.next] } }

theorem ifaceNew_cases (st : Daemon Table) (outcome : IfaceOutcome) (domain : Nat) :
    ((outcome.calloc = false ∨ outcome.pending = false) ∧ ifaceNew st outcome domain = (st, none)) ∨
      outcome.calloc = true ∧ outcome.pending = true ∧
        ifaceNew st outcome domain = (grown st domain, some st.ifaces.next) := by
  unfold ifaceNew
  cases outcome.calloc with
  | false => exact .inl ⟨.inl rfl, rfl⟩
  | true =>
      cases outcome.pending with
      | false => exact .inl ⟨.inr rfl, rfl⟩
      | true => exact .inr ⟨rfl, rfl, rfl⟩

theorem ifaceBuild_ok {name path : List UInt8} {busType managed : BitVec 32}
    (returned : ifaceBuild tbl st outcome iface name path busType managed = .ok (next, ret)) :
    ∃ opened id both ep lib,
      rteipcOpen tbl st.lib outcome.id name = .ok (opened, id) ∧
        rteipcOpen tbl opened outcome.ep ((busToPrefix busType ++ path).take 127) = .ok (both, ep) ∧
        next =
          { st with
              lib
              ifaces := st.ifaces.modify iface fun self =>
                self.built id ep name ((busToPrefix busType ++ path).take 127) busType managed } ∧
        let called := (rteipcXferSetcb both name (some .defaultDomainHandler) (some iface)).1
        ((id < 0 ∨ ep < 0) ∧ ret = -1 ∧ lib = called ∨
          ¬(id < 0 ∨ ep < 0) ∧ ∃ bound, rteipcBind tbl called outcome.pair id ep = .ok (lib, bound) ∧
            ret = if bound < 0 then -1 else 0) := by
  unfold ifaceBuild at returned
  split at returned
  next => nomatch returned
  obtain ⟨⟨opened, id⟩, idOpened, returned⟩ := bind_ok returned
  obtain ⟨⟨both, ep⟩, epOpened, returned⟩ := bind_ok returned
  simp only at returned
  split at returned
  next failed =>
    obtain ⟨rfl, rfl⟩ := Prod.mk.inj (Except.ok.inj returned)
    exact ⟨opened, id, both, ep, _, idOpened, epOpened, rfl, .inl ⟨failed, rfl, rfl⟩⟩
  next succeeded =>
    obtain ⟨⟨lib, bound⟩, bind, returned⟩ := bind_ok returned
    obtain ⟨rfl, rfl⟩ := Prod.mk.inj (Except.ok.inj returned)
    exact ⟨opened, id, both, ep, lib, idOpened, epOpened, rfl, .inr ⟨succeeded, bound, bind, rfl⟩⟩

theorem forgetting_twice {self : Interface} {forget : IfacePtr} :
    (self.forgetting iface forget).forgetting iface forget = self.forgetting iface forget := by
  unfold Interface.forgetting
  split
  next => exact if_neg fun again => nomatch again.2
  next => rfl

open Classical in
theorem doForget_get {ifaces : Heap Interface} {domain : Domain} {forget : IfacePtr} :
    (doForget ifaces domain forget).get iface = (ifaces.get iface).map fun self =>
      if iface ∈ domain.ifaceList then self.forgetting iface forget else self := by
  unfold doForget
  induction domain.ifaceList generalizing ifaces with
  | nil => simp
  | cons first rest ih =>
      rw [List.foldl_cons, ih, Heap.get_modify, Option.map_map]
      congr 1
      funext self
      by_cases same : iface = first
      · subst same
        simp [forgetting_twice]
      · simp [same]

open Classical in
theorem forgetAll_get {ifaces : Heap Interface} {domains : List Domain} {forget : IfacePtr} :
    (domains.foldl (fun ifaces domain => doForget ifaces domain forget) ifaces).get iface =
      (ifaces.get iface).map fun self =>
        if ∃ domain ∈ domains, iface ∈ domain.ifaceList then self.forgetting iface forget else self := by
  induction domains generalizing ifaces with
  | nil => simp
  | cons first rest ih =>
      rw [List.foldl_cons, ih, doForget_get, Option.map_map]
      congr 1
      funext self
      by_cases here : iface ∈ first.ifaceList
      · simp [here, forgetting_twice]
      · simp [here]

theorem doForget_next {ifaces : Heap Interface} {domain : Domain} {forget : IfacePtr} :
    (doForget ifaces domain forget).next = ifaces.next := by
  unfold doForget
  induction domain.ifaceList generalizing ifaces with
  | nil => rfl
  | cons first rest ih => exact ih

theorem forgetAll_next {ifaces : Heap Interface} {domains : List Domain} {forget : IfacePtr} :
    (domains.foldl (fun ifaces domain => doForget ifaces domain forget) ifaces).next = ifaces.next := by
  induction domains generalizing ifaces with
  | nil => rfl
  | cons first rest ih => exact ih.trans doForget_next

theorem ifaceForget_ok (returned : ifaceForget st iface = .ok next) :
    ∃ self ifaces, st.ifaces.get iface = some self ∧ next = { st with ifaces } ∧
      (self.managed = 0 ∧
          (self.partner = none ∧ ifaces = st.ifaces ∨
            ∃ partner, self.partner = some partner ∧
              ifaces = (st.ifaces.modify partner .unrouted).modify iface .unrouted) ∨
        self.managed ≠ 0 ∧
          ifaces = st.domainList.foldl (fun ifaces domain => doForget ifaces domain iface) st.ifaces) := by
  unfold ifaceForget at returned
  obtain ⟨self, read, returned⟩ := bind_ok returned
  refine ⟨self, next.ifaces, deref_ok read, ?_⟩
  split at returned
  next raw =>
    split at returned
    next alone =>
      obtain rfl := Except.ok.inj returned
      exact ⟨rfl, .inl ⟨raw, .inl ⟨alone, rfl⟩⟩⟩
    next partner routed =>
      obtain ⟨_, -, returned⟩ := bind_ok returned
      obtain rfl := Except.ok.inj returned
      exact ⟨rfl, .inl ⟨raw, .inr ⟨partner, routed, rfl⟩⟩⟩
  next managed =>
    obtain rfl := Except.ok.inj returned
    exact ⟨rfl, .inr ⟨managed, rfl⟩⟩

theorem ifaceFree_ok (returned : ifaceFree tbl st iface = .ok next) :
    ∃ self idClosed lib forgotten, st.ifaces.get iface = some self ∧
      closeIfOpen tbl st.lib self.id = .ok idClosed ∧ closeIfOpen tbl idClosed self.ep = .ok lib ∧
        ifaceForget { st with lib, domainList := st.domainList.modify self.domain (·.remove iface) } iface =
          .ok forgotten ∧
        next = { forgotten with ifaces := forgotten.ifaces.free iface } := by
  unfold ifaceFree at returned
  obtain ⟨self, read, returned⟩ := bind_ok returned
  obtain ⟨idClosed, closedId, returned⟩ := bind_ok returned
  obtain ⟨lib, closedEp, returned⟩ := bind_ok returned
  obtain ⟨forgotten, forgot, returned⟩ := bind_ok returned
  exact ⟨self, idClosed, lib, forgotten, deref_ok read, closedId, closedEp, forgot, (Except.ok.inj returned).symm⟩

/-- What `do_rtecmd_open` needs to get as far as `iface_build`. -/
structure Builds (st : Daemon Table) (outcome : IfaceOutcome) (d : RtemgrData) (intf : RtemgrIntf) (domain : Nat) :
    Prop where
  first : d.interfaces.head? = some intf
  found : domainLookupById st intf.domain = some domain
  calloc : outcome.calloc = true
  pending : outcome.pending = true

theorem doRtecmdOpen_ok {d : RtemgrData} (returned : doRtecmdOpen tbl st outcome d = .ok (next, ret)) :
    next = st ∧ ret = -1 ∧ (∀ intf domain, ¬Builds st outcome d intf domain) ∨
      ∃ intf rest domain built failed, d.interfaces = intf :: rest ∧
        domainLookupById st intf.domain = some domain ∧ outcome.calloc = true ∧ outcome.pending = true ∧
        ifaceBuild tbl (grown st domain) outcome st.ifaces.next intf.name.text intf.path.text intf.busType
          intf.managed = .ok (built, failed) ∧
        (failed = 0 ∧ ret = 0 ∧ next = built ∨
          failed ≠ 0 ∧ ret = -1 ∧ ifaceFree tbl built st.ifaces.next = .ok next) := by
  unfold doRtecmdOpen at returned
  split at returned
  next none =>
    obtain ⟨rfl, rfl⟩ := Prod.mk.inj (Except.ok.inj returned)
    refine .inl ⟨rfl, rfl, fun intf domain builds => ?_⟩
    have first := builds.first
    rw [none] at first
    nomatch first
  next intf rest interfaces =>
    have only : ∀ {other domain}, Builds st outcome d other domain → other = intf := fun builds => by
      have first := builds.first
      rw [interfaces] at first
      exact (Option.some.inj first).symm
    split at returned
    next unknown =>
      obtain ⟨rfl, rfl⟩ := Prod.mk.inj (Except.ok.inj returned)
      refine .inl ⟨rfl, rfl, fun other domain builds => ?_⟩
      have found := builds.found
      rw [only builds, unknown] at found
      nomatch found
    next domain found =>
      obtain ⟨failed, refused⟩ | ⟨calloc, pending, created⟩ := ifaceNew_cases st outcome domain
      · rw [refused] at returned
        obtain ⟨rfl, rfl⟩ := Prod.mk.inj (Except.ok.inj returned)
        refine .inl ⟨rfl, rfl, fun other domain builds => ?_⟩
        obtain failed | failed := failed
        · exact nomatch failed.symm.trans builds.calloc
        · exact nomatch failed.symm.trans builds.pending
      · rw [created] at returned
        simp only at returned
        obtain ⟨⟨built, failed⟩, build, returned⟩ := bind_ok returned
        refine .inr ⟨intf, rest, domain, built, failed, interfaces, found, calloc, pending, build, ?_⟩
        simp only at returned
        split at returned
        next wrong =>
          obtain ⟨freed, free, returned⟩ := bind_ok returned
          obtain ⟨rfl, rfl⟩ := Prod.mk.inj (Except.ok.inj returned)
          exact .inr ⟨wrong, rfl, free⟩
        next right =>
          obtain ⟨rfl, rfl⟩ := Prod.mk.inj (Except.ok.inj returned)
          exact .inl ⟨not_not.mp right, rfl, rfl⟩

theorem closeInterfaces_keeps {good : Daemon Table → Prop} {interfaces : List RtemgrIntf}
    (freed : ∀ intf ∈ interfaces, ∀ before after iface, good before → ifaceOf before intf = some iface →
      ifaceFree tbl before iface = .ok after → good after)
    (start : good st) (returned : closeInterfaces tbl st interfaces = .ok next) : good next := by
  induction interfaces generalizing st with
  | nil =>
      cases returned
      exact start
  | cons intf rest ih =>
      have later := fun other member => freed other (List.mem_cons_of_mem intf member)
      unfold closeInterfaces at returned
      split at returned
      next => exact ih later start returned
      next iface found =>
        obtain ⟨after, free, returned⟩ := bind_ok returned
        exact ih later (freed intf List.mem_cons_self st after iface start found free) returned

/-- A packet without interfaces closes none of them. -/
theorem doRtecmdClose_ok {d : RtemgrData} (returned : doRtecmdClose tbl st d = .ok (next, ret)) :
    closeInterfaces tbl st d.interfaces = .ok next := by
  unfold doRtecmdClose at returned
  split at returned
  next none =>
    cases returned
    rw [none]
    rfl
  next =>
    obtain ⟨closed, close, returned⟩ := map_ok returned
    cases returned
    exact close

theorem doRtecmdForget_ok {d : RtemgrData} (returned : doRtecmdForget st d = .ok (next, ret)) :
    next = st ∨ ∃ intf ∈ d.interfaces, ∃ iface, ifaceOf st intf = some iface ∧ ifaceForget st iface = .ok next := by
  unfold doRtecmdForget at returned
  split at returned
  next => nomatch returned
  next intf rest interfaces =>
    split at returned
    next =>
      cases returned
      exact .inl rfl
    next iface found =>
      obtain ⟨forgotten, forget, returned⟩ := map_ok returned
      cases returned
      exact .inr ⟨intf, interfaces ▸ List.mem_cons_self, iface, found, forget⟩

theorem rtemgrd_ok (started : rtemgrd tbl outcome = .ok (st, ret)) :
    st = .start tbl ∧ ret = -1 ∨
      ifaceBuild tbl (grown { Daemon.start tbl with ctrlIface := some (Daemon.start tbl).ifaces.next } 0) outcome
        (Daemon.start tbl).ifaces.next rtemgrdCtlport rtemgrdCtlport EpType.ipc.number 1 = .ok (st, ret) := by
  unfold rtemgrd at started
  obtain ⟨-, refused⟩ | ⟨-, -, created⟩ := ifaceNew_cases (.start tbl) outcome 0
  · rw [refused] at started
    cases started
    exact .inl ⟨rfl, rfl⟩
  · rw [created] at started
    exact .inr started

/-- Data at a raw interface is sent on, or queued, or dropped. -/
theorem ifaceRawHandler_ok {emitLib : EmitLib} {memory : Memory} {data : List UInt8}
    (returned : ifaceRawHandler emitLib memory st iface data = .ok next) :
    (∃ lib, next = { st with lib } ∧ (lib = st.lib ∨ ∃ name sent ret, rteipcXfer st.lib name sent = .ok (lib, ret))) ∨
      next = { st with ifaces := st.ifaces.modify iface fun self => ifacePending self memory data } := by
  unfold ifaceRawHandler at returned
  obtain ⟨self, -, returned⟩ := bind_ok returned
  split at returned
  next => exact .inr (Except.ok.inj returned).symm
  next partner routed =>
    left
    obtain ⟨other, -, returned⟩ := bind_ok returned
    split at returned
    next =>
      obtain ⟨sent, sending, returned⟩ := bind_ok returned
      exact ⟨sent.1, (Except.ok.inj returned).symm, .inr ⟨_, _, _, sending⟩⟩
    next =>
      simp only at returned
      split at returned
      next => exact ⟨st.lib, (Except.ok.inj returned).symm, .inl rfl⟩
      next =>
        obtain ⟨sent, sending, returned⟩ := bind_ok returned
        exact ⟨sent.1, (Except.ok.inj returned).symm, .inr ⟨_, _, _, sending⟩⟩

def Daemon.evaluated (st : Daemon Table) (result : Except Fault (Daemon Table × Int)) : Daemon Table :=
  (result.toOption.getD (st, 0)).1

theorem evaluated_returned {result : Except Fault (Daemon Table × Int)}
    (returns : (result.map Prod.snd).toOption = some ret) : result = .ok (st.evaluated result, ret) := by
  cases result with
  | error fault => nomatch returns
  | ok value =>
      obtain rfl := Option.some.inj returns
      rfl

end Returned

end Rteipc
