import Rteipc.Endpoint.Uri
import Rteipc.Rtemgrd.Answers

namespace Rteipc

/-! The commands that send or open something return as well: every loop can be
written to, and what was opened can be bound or closed again. -/

open Data

/-! ## Sending -/

section Sending

variable {st : Daemon (Dtbl EpPtr)} {emitLib : EmitLib} {iface partner : IfacePtr} {self other : Interface}

theorem LoopInv.sent (inv : LoopInv st) (name data : List UInt8) :
    ∃ ep ret, Transferred st.lib ep ∧ rteipcXfer st.lib name data = .ok (ep, ret) := by
  obtain ⟨ep, ret, sent⟩ := rteipcXfer_returns (fun lo member => inv.sends member) data
  exact ⟨ep, ret, rteipcXfer_transferred sent, sent⟩

/-- What arrives at an interface with a partner is sent on, or dropped. -/
theorem ifaceRawHandler_sends (inv : LoopInv st) (live : st.ifaces.get iface = some self)
    (names : self.partner = some partner) (there : st.ifaces.get partner = some other) (memory : Memory)
    (data : List UInt8) :
    ∃ ep, Transferred st.lib ep ∧ ifaceRawHandler emitLib memory st iface data = .ok { st with lib := ep } := by
  simp only [ifaceRawHandler, deref_live live, names, deref_live there, bind, Except.bind]
  split
  next =>
    obtain ⟨ep, ret, moved, sent⟩ := inv.sent other.name data
    rw [sent]
    exact ⟨ep, moved, rfl⟩
  next =>
    split
    next => exact ⟨st.lib, .refl st.lib, rfl⟩
    next document _ =>
      obtain ⟨ep, ret, moved, sent⟩ := inv.sent other.name document
      rw [sent]
      exact ⟨ep, moved, rfl⟩

theorem triggerLoop_returns {memory : Nat → Memory} {fuel : Nat} (inv : LoopInv st)
    (live : st.ifaces.get iface = some self) (names : self.partner = some partner)
    (there : st.ifaces.get partner = some other) : ∃ next, triggerLoop emitLib memory iface fuel st = .ok next := by
  induction fuel generalizing st self other with
  | zero => exact ⟨st, rfl⟩
  | succ fuel ih =>
      simp only [triggerLoop, deref_live live, bind, Except.bind]
      cases drained : rteipcMsgDrain (memory fuel).malloc self.pending with
      | mk result pending =>
          cases result with
          | empty => exact ⟨st, rfl⟩
          | failed => exact ⟨st, rfl⟩
          | message size msg =>
              let queued : Daemon (Dtbl EpPtr) :=
                { st with ifaces := st.ifaces.modify iface fun self => { self with pending } }
              have steady : Steady st queued := .of_modify st iface _ fun _ => rfl
              have here : queued.ifaces.get iface = some { self with pending } := by
                simp [queued, Heap.get_modify_self, live]
              obtain ⟨after, afterLive, -⟩ := steady.live there
              have sends : ∃ ep, Transferred queued.lib ep ∧
                  ifaceRawHandler emitLib (memory fuel) queued iface msg = .ok { queued with lib := ep } :=
                ifaceRawHandler_sends (inv.steady steady) here names afterLive (memory fuel) msg
              obtain ⟨ep, moved, handled⟩ := sends
              simp only
              rw [handled]
              exact ih ((inv.steady steady).steady (.of_lib moved)) here names afterLive

theorem routeSide_returns {memory : Nat → Memory} (inv : LoopInv st) (live : st.ifaces.get iface = some self)
    (there : st.ifaces.get partner = some other) : ∃ next, routeSide emitLib memory st iface partner = .ok next := by
  simp only [routeSide, deref_live live, bind, Except.bind]
  split
  next =>
    let routed : Daemon (Dtbl EpPtr) :=
      { st with ifaces := st.ifaces.modify iface fun self => { self with partner := some partner } }
    have steady : Steady st routed := .of_modify st iface _ fun _ => rfl
    have here : routed.ifaces.get iface = some { self with partner := some partner } := by
      simp [routed, Heap.get_modify_self, live]
    obtain ⟨after, afterLive, -⟩ := steady.live there
    simp only [ifaceTrigger, bind, Except.bind]
    rw [deref_live here]
    exact triggerLoop_returns (inv.steady steady) here rfl afterLive
  next => exact ⟨st, rfl⟩

def routeError {Table : Type} (st : Daemon Table) (d : RtemgrData) : Int := if (routedPair st d).isSome then 0 else -1

theorem doRtecmdRoute_returns {left right : Nat → Memory} {d : RtemgrData} (routes : RouteInv st) (inv : LoopInv st) :
    ∃ next, doRtecmdRoute emitLib st left right d = .ok (next, routeError st d) := by
  unfold doRtecmdRoute routeError routedPair
  rcases d.interfaces with _ | ⟨lh, _ | ⟨rh, _ | ⟨third, rest⟩⟩⟩
  case cons.cons.nil =>
    cases foundLeft : ifaceOf st lh with
    | none => exact ⟨st, by simp [foundLeft]⟩
    | some l =>
        cases foundRight : ifaceOf st rh with
        | none => exact ⟨st, by simp [foundLeft, foundRight]⟩
        | some r =>
            by_cases same : l = r
            · exact ⟨st, by simp [foundLeft, foundRight, same]⟩
            · obtain ⟨self, live⟩ := routes.live (ifaceOf_listed foundLeft)
              obtain ⟨other, there⟩ := routes.live (ifaceOf_listed foundRight)
              have leftSide : ∃ middle, routeSide emitLib left st l r = .ok middle := routeSide_returns inv live there
              obtain ⟨middle, first⟩ := leftSide
              have steady := routeSide_steady first
              obtain ⟨leftAfter, leftLive, -⟩ := steady.live live
              obtain ⟨rightAfter, rightLive, -⟩ := steady.live there
              have rightSide : ∃ next, routeSide emitLib right middle r l = .ok next :=
                routeSide_returns (inv.steady steady) rightLive leftLive
              obtain ⟨next, second⟩ := rightSide
              exact ⟨next, by simp [foundLeft, foundRight, same, first, second, bind, Except.bind]⟩
  all_goals exact ⟨st, rfl⟩

end Sending

/-! ## xfer -/

section Xfer

variable {st : Daemon (Dtbl EpPtr)} {lib : PacketLib} {memory : ManagedMemory} {iface : IfacePtr} {self dest : Interface}
  {d : RtemgrData} {data value : List UInt8}

theorem XferCall.run_returns (inv : LoopInv st) (call : XferCall) : ∃ sent, call.run st.lib = .ok sent := by
  obtain ⟨ep, ret, -, sent⟩ := inv.sent call.message.1 call.message.2
  exact ⟨(ep, ret), (call.run_eq st.lib).trans sent⟩

/-- Some other character than a space, if there is one at all. -/
def HexText (str : List UInt8) : Prop := str = [] ∨ tokens str ≠ []

theorem hexCall_returns {extra : Extra} (text : HexText (cString value)) :
    ∃ call, hexCall memory dest extra value = .ok call := by
  have array : ∃ arr, hexToArray memory.hex (cString value) = .ok arr := by
    unfold hexToArray
    split
    next => exact ⟨_, rfl⟩
    next given =>
      split
      next => exact ⟨_, rfl⟩
      next => exact ⟨_, if_neg (text.resolve_left given)⟩
  obtain ⟨arr, array⟩ := array
  simp only [hexCall, array, bind, Except.bind]
  split
  · exact ⟨_, rfl⟩
  split
  · split
    · split
      · exact ⟨_, rfl⟩
      · exact ⟨_, rfl⟩
    · exact ⟨_, rfl⟩
  · exact ⟨_, rfl⟩

theorem forwardCall_returns {intf : RtemgrIntf} {cmd : Rtecmd} {len : Nat} (live : st.ifaces.get iface = some self)
    (partner : PartnerLive st self) : ∃ call, forwardCall lib memory st iface dest intf cmd len = .ok call := by
  simp only [forwardCall, deref_live live, partnerName_eq partner, bind, Except.bind]
  split
  · exact ⟨_, rfl⟩
  split
  · exact ⟨_, rfl⟩
  · exact ⟨_, rfl⟩

/-- Where the transfer is for an SPI or an I2C device, `strtok` finds something in the payload. -/
def XferSound (lib : PacketLib) (memory : ManagedMemory) (st : Daemon (Dtbl EpPtr)) (data : List UInt8) : Prop :=
  ∀ d dest value, receivePacket lib memory.packet data = .ok (some d) → d.interfaces.length = 1 →
    namedIface st d = some dest → d.cmd.val.v = some value → d.cmd.val.s ≠ 0 →
      dest.busType = EpType.spi.number ∨ dest.busType = EpType.i2c.number → HexText (cString value)

theorem packetCall_returns {len : Nat} (routes : RouteInv st) (live : st.ifaces.get iface = some self)
    (partner : PartnerLive st self)
    (hex : d.interfaces.length = 1 → ∀ dest value, namedIface st d = some dest → d.cmd.val.v = some value →
      d.cmd.val.s ≠ 0 → dest.busType = EpType.spi.number ∨ dest.busType = EpType.i2c.number → HexText (cString value)) :
    ∃ call, packetCall lib memory st iface d len = .ok call := by
  unfold packetCall
  unfold namedIface at hex
  rcases interfaces : d.interfaces with _ | ⟨intf, _ | ⟨other, rest⟩⟩
  case cons.nil =>
    rw [interfaces] at hex
    simp only
    cases found : ifaceOf st intf with
    | none => exact ⟨_, rfl⟩
    | some there =>
        obtain ⟨dest, destLive⟩ := routes.live (ifaceOf_listed found)
        simp only [deref_live destLive, bind, Except.bind]
        cases given : d.cmd.val.v with
        | none => exact ⟨_, rfl⟩
        | some value =>
            simp only
            split
            next => exact ⟨_, rfl⟩
            next nonempty =>
              have named : ((List.head? [intf]).bind (ifaceOf st)).bind st.ifaces.get = some dest := by
                simp [found, destLive]
              unfold payloadCall
              simp only
              split
              next =>
                split
                next => exact ⟨_, rfl⟩
                next => exact forwardCall_returns live partner
              next =>
                split
                next => exact ⟨_, rfl⟩
                next =>
                  split
                  next isHex => exact hexCall_returns (hex rfl dest value named given nonempty isHex)
                  next => exact ⟨_, rfl⟩
  all_goals exact ⟨_, rfl⟩

theorem ifaceManagedHandler_returns {received : RtemgrData} (routes : RouteInv st) (inv : LoopInv st)
    (live : st.ifaces.get iface = some self) (partner : PartnerLive st self)
    (parsed : receivePacket lib memory.packet data = .ok (some received)) (sound : XferSound lib memory st data) :
    ∃ next, ifaceManagedHandler lib memory st iface data = .ok next := by
  have called : ∃ call, packetCall lib memory st iface received data.length = .ok call := by
    apply packetCall_returns routes live partner
    intro single dest value named given nonempty bus
    exact sound received dest value parsed single named given nonempty bus
  obtain ⟨call, called⟩ := called
  simp only [ifaceManagedHandler, managedCall, parsed, bind, Except.bind, called]
  cases call with
  | none => exact ⟨st, rfl⟩
  | some call =>
      obtain ⟨sent, run⟩ := call.run_returns inv
      simp only [run]
      exact ⟨_, rfl⟩

/-- The same bytes are read the same way again, but for what lies behind them. -/
theorem receivePacket_again {first second : PacketMemory} (same : second.alloc = first.alloc)
    (received : receivePacket lib first data = .ok (some d)) : ∃ again, receivePacket lib second data = .ok (some again) := by
  unfold receivePacket at received ⊢
  rw [same]
  split at received
  next => nomatch received
  next => nomatch received
  next parsed accepted =>
    exact ⟨_, rfl⟩

end Xfer

/-! ## open -/

/-- The id is that of an endpoint which is not bound. -/
def IdleUnder (lib : Lib) (id : Int) (ep : EpPtr) (type : EpType) : Prop :=
  dtblGet lib.epTbl id = some ep ∧ lib.cores.get ep = some ⟨id, -1, type, none⟩

/-- Nothing is found under a descriptor before it is given out. -/
def DescClean (lib : Lib) (outcome : OpenOutcome) (uri : List UInt8) : Prop :=
  ∀ opened id, rteipcOpen dtblTable lib outcome uri = .ok (opened, id) → 0 ≤ id → dtblGet lib.epTbl id = none

section Library

variable {lib next opened both : Lib} {outcome : OpenOutcome} {id other ret : Int} {ep : EpPtr} {type : EpType}
  {uri : List UInt8}

theorem IdleUnder.grows (idle : IdleUnder lib id ep type) (grows : Grows lib next) : IdleUnder next id ep type := by
  obtain ⟨found, live⟩ := idle
  refine ⟨grows.dtblGet found, ?_⟩
  rw [grows.cores ep (Heap.live_lt live)]
  exact live

theorem Opened.idle {path : List UInt8} {desc : Nat} (made : Opened lib outcome type path desc next)
    (registry : Registry lib) (stored : outcome.desc.entry = true) (clean : dtblGet lib.epTbl desc = none) :
    IdleUnder next desc lib.cores.next type := by
  refine ⟨?_, made.core⟩
  have entries := made.entries
  rw [stored, if_pos rfl] at entries
  have unknown : lib.epTbl.entryList.find? (fun entry => entry.id == (desc : Int)) = none := by
    cases first : lib.epTbl.entryList.find? fun entry => entry.id == (desc : Int) with
    | none => rfl
    | some entry =>
        obtain ⟨value, known⟩ := Option.isSome_iff_exists.mp (registry.stored entry (List.mem_of_find?_eq_some first))
        rw [dtblGet, first, Option.bind_some, known] at clean
        cases clean
  simp [dtblGet, entries, List.find?_append, unknown]

theorem OpenResult.idle (result : OpenResult lib outcome uri next ret) (registry : Registry lib)
    (plenty : outcome.desc = .succeeds) (returned : rteipcOpen dtblTable lib outcome uri = .ok (next, ret))
    (clean : DescClean lib outcome uri) (given : 0 ≤ ret) :
    ∃ type path, parseUri uri = some (type, path) ∧ IdleUnder next ret lib.cores.next type := by
  rcases result with ⟨rfl, -⟩ | ⟨type, path, desc, rfl, parsed, made, -⟩
  · nomatch given
  · have stored : outcome.desc.entry = true := by
      rw [plenty]
      rfl
    exact ⟨type, path, parsed, made.idle registry stored (clean next desc returned given)⟩

theorem closeIfOpen_returns (idle : 0 ≤ id → ∃ ep type, IdleUnder lib id ep type) :
    ∃ closed, closeIfOpen dtblTable lib id = .ok closed ∧
      ∀ other ep type, other ≠ id → IdleUnder lib other ep type → IdleUnder closed other ep type := by
  by_cases given : 0 ≤ id
  · obtain ⟨ep, type, found, live⟩ := idle given
    refine ⟨_, (if_pos given).trans (rteipcClose_idle found live rfl), fun other peer otherType differ idle => ?_⟩
    obtain ⟨otherFound, otherLive⟩ := idle
    have apart : peer ≠ ep := by
      rintro rfl
      cases live.symm.trans otherLive
      exact differ rfl
    refine ⟨dtblGet_del.trans otherFound, ?_⟩
    refine (Heap.get_free_of_ne apart).trans ?_
    exact (Heap.get_modify_of_ne apart).trans otherLive
  · exact ⟨lib, if_neg given, fun other ep type _ idle => idle⟩

end Library

def compatibleUris (name uri : List UInt8) : Bool :=
  match parseUri name, parseUri uri with
  | some (left, _), some (right, _) => decide (epCompatible left right ≠ 0)
  | _, _ => false

/-- Both endpoints of an interface can be opened, and bound to each other. -/
def opensPair (lib : Lib) (outcome : IfaceOutcome) (name uri : List UInt8) : Bool :=
  match rteipcOpen dtblTable lib outcome.id name with
  | .error _ => false
  | .ok (opened, id) =>
      match rteipcOpen dtblTable opened outcome.ep uri with
      | .error _ => false
      | .ok (_, ep) => decide (¬(id < 0 ∨ ep < 0)) && compatibleUris name uri

/-- The texts fit the arrays they are stored in, and the descriptors given out are clean. -/
structure BuildSound (lib : Lib) (outcome : IfaceOutcome) (name uri : List UInt8) : Prop where
  nameFits : name.length < 16
  uriFits : (scanUri uri).1.length ≤ 15
  idClean : DescClean lib outcome.id name
  epClean : ∀ opened id, rteipcOpen dtblTable lib outcome.id name = .ok (opened, id) → DescClean opened outcome.ep uri

theorem scanUri_protocol_length (uri : List UInt8) : (scanUri uri).1.length ≤ uri.length := by
  rw [scanUri_protocol]
  exact (List.takeWhile_sublist _).length_le

/-- What the two openings of a build come to. -/
structure PairOpened (lib : Lib) (name uri : List UInt8) (id ep : Int) : Prop where
  left : 0 ≤ id → ∃ le type path, parseUri name = some (type, path) ∧ IdleUnder lib id le type
  right : 0 ≤ ep → ∃ re type path, parseUri uri = some (type, path) ∧ IdleUnder lib ep re type
  apart : 0 ≤ ep → ep ≠ id

section Pair

variable {lib opened both called : Lib} {outcome : IfaceOutcome} {name uri : List UInt8} {id ep : Int}

theorem rteipcOpen_pair (registry : Registry lib) (plenty : outcome.Plenty) (sound : BuildSound lib outcome name uri)
    (idOpened : rteipcOpen dtblTable lib outcome.id name = .ok (opened, id))
    (epOpened : rteipcOpen dtblTable opened outcome.ep uri = .ok (both, ep)) (grows : Grows both called) :
    PairOpened called name uri id ep := by
  obtain ⟨openedRegistry, idResult⟩ := rteipcOpen_ok registry idOpened
  obtain ⟨-, epResult⟩ := rteipcOpen_ok openedRegistry epOpened
  have leftIdle := idResult.idle registry plenty.desc.1 idOpened sound.idClean
  have rightIdle := epResult.idle openedRegistry plenty.desc.2 epOpened (sound.epClean opened id idOpened)
  constructor
  · intro given
    obtain ⟨type, path, parsed, idle⟩ := leftIdle given
    exact ⟨_, type, path, parsed, idle.grows (epResult.grows.trans grows)⟩
  · intro given
    obtain ⟨type, path, parsed, idle⟩ := rightIdle given
    exact ⟨_, type, path, parsed, idle.grows grows⟩
  · rintro given rfl
    obtain ⟨type, path, -, idle⟩ := leftIdle given
    have unknown := sound.epClean opened ep idOpened both ep epOpened given
    nomatch unknown.symm.trans idle.1

theorem PairOpened.closes (pair : PairOpened lib name uri id ep) :
    ∃ closed final, closeIfOpen dtblTable lib id = .ok closed ∧ closeIfOpen dtblTable closed ep = .ok final := by
  have first : 0 ≤ id → ∃ le type, IdleUnder lib id le type := by
    intro given
    obtain ⟨le, type, -, -, idle⟩ := pair.left given
    exact ⟨le, type, idle⟩
  obtain ⟨closed, firstClosed, keeps⟩ := closeIfOpen_returns first
  have second : 0 ≤ ep → ∃ re type, IdleUnder closed ep re type := by
    intro given
    obtain ⟨re, type, -, -, idle⟩ := pair.right given
    exact ⟨re, type, keeps ep re type (pair.apart given) idle⟩
  obtain ⟨final, secondClosed, -⟩ := closeIfOpen_returns second
  exact ⟨closed, final, firstClosed, secondClosed⟩

/-- The endpoints are bound where their types are compatible. -/
theorem PairOpened.binds (pair : PairOpened lib name uri id ep) (given : ¬(id < 0 ∨ ep < 0)) :
    ∃ bound, rteipcBind dtblTable lib true id ep = .ok (bound, if compatibleUris name uri then 0 else -1) ∧
      (compatibleUris name uri = false → bound = lib) := by
  have idGiven : 0 ≤ id := by omega
  have epGiven : 0 ≤ ep := by omega
  obtain ⟨le, left, _, leftParsed, leftFound, leftLive⟩ := pair.left idGiven
  obtain ⟨re, right, _, rightParsed, rightFound, rightLive⟩ := pair.right epGiven
  have differ : le ≠ re := by
    rintro rfl
    cases leftLive.symm.trans rightLive
    exact pair.apart epGiven rfl
  rw [rteipcBind_eq leftFound rightFound differ leftLive rightLive rfl rfl]
  by_cases incompatible : epCompatible left right = 0
  · exact ⟨lib, by simp [compatibleUris, leftParsed, rightParsed, incompatible]⟩
  · have compatible : compatibleUris name uri = true := by simp [compatibleUris, leftParsed, rightParsed, incompatible]
    rw [if_neg incompatible, compatible]
    exact ⟨_, rfl, nofun⟩

end Pair

section Building

variable {st : Daemon (Dtbl EpPtr)} {outcome : IfaceOutcome} {name path : List UInt8} {busType : BitVec 32}
  {d : RtemgrData}

theorem ifaceBuild_answers (iface : IfacePtr) (managed : BitVec 32) (registry : Registry st.lib) (plenty : outcome.Plenty)
    (sound : BuildSound st.lib outcome name ((busToPrefix busType ++ path).take 127)) :
    ∃ lib id ep, ifaceBuild dtblTable st outcome iface name path busType managed =
        .ok ({ st with
            lib
            ifaces := st.ifaces.modify iface fun self =>
              self.built id ep name ((busToPrefix busType ++ path).take 127) busType managed },
          if opensPair st.lib outcome name ((busToPrefix busType ++ path).take 127) then 0 else -1) ∧
      (opensPair st.lib outcome name ((busToPrefix busType ++ path).take 127) = false →
        ∃ closed final, closeIfOpen dtblTable lib id = .ok closed ∧ closeIfOpen dtblTable closed ep = .ok final) := by
  have fits : ¬name.length ≥ 16 := Nat.not_le.mpr sound.nameFits
  have nameShort : ¬(scanUri name).1.length > 15 := by
    have shorter := scanUri_protocol_length name
    omega
  have idOpens : ∃ opened id, rteipcOpen dtblTable st.lib outcome.id name = .ok (opened, id) :=
    rteipcOpen_returns nameShort
  obtain ⟨opened, id, idOpened⟩ := idOpens
  have epOpens : ∃ both ep, rteipcOpen dtblTable opened outcome.ep ((busToPrefix busType ++ path).take 127) =
      .ok (both, ep) := rteipcOpen_returns (Nat.not_lt.mpr sound.uriFits)
  obtain ⟨both, ep, epOpened⟩ := epOpens
  have pair := rteipcOpen_pair registry plenty sound idOpened epOpened (xferSetcb_adds both name iface).grows
  simp only [ifaceBuild, if_neg fits, idOpened, epOpened, bind, Except.bind, opensPair]
  by_cases failed : id < 0 ∨ ep < 0
  · refine ⟨_, id, ep, ?_, fun _ => pair.closes⟩
    simp [failed]
  · obtain ⟨bound, binding, unbound⟩ := pair.binds failed
    refine ⟨bound, id, ep, ?_, fun incompatible => ?_⟩
    · simp only [failed, plenty.pair, binding, not_false_eq_true, decide_true, Bool.true_and, if_false]
      cases compatibleUris name ((busToPrefix busType ++ path).take 127) with
      | true => rfl
      | false => rfl
    · simp only [failed, not_false_eq_true, decide_true, Bool.true_and] at incompatible
      rw [unbound incompatible]
      exact pair.closes

/-- What the command builds, if it builds anything, is sound. -/
def OpenSound (st : Daemon (Dtbl EpPtr)) (outcome : IfaceOutcome) (d : RtemgrData) : Prop :=
  ∀ intf domain, Builds st outcome d intf domain →
    BuildSound st.lib outcome intf.name.text ((busToPrefix intf.busType ++ intf.path.text).take 127)

def openError (st : Daemon (Dtbl EpPtr)) (outcome : IfaceOutcome) (d : RtemgrData) : Int :=
  match d.interfaces with
  | [] => -1
  | intf :: _ =>
      match domainLookupById st intf.domain with
      | none => -1
      | some _ =>
          if opensPair st.lib outcome intf.name.text ((busToPrefix intf.busType ++ intf.path.text).take 127) then 0
          else -1

theorem doRtecmdOpen_returns (registry : Registry st.lib) (plenty : outcome.Plenty) (sound : OpenSound st outcome d) :
    ∃ next, doRtecmdOpen dtblTable st outcome d = .ok (next, openError st outcome d) := by
  unfold doRtecmdOpen openError
  cases interfaces : d.interfaces with
  | nil => exact ⟨st, rfl⟩
  | cons intf rest =>
      simp only
      cases found : domainLookupById st intf.domain with
      | none => exact ⟨st, rfl⟩
      | some domain =>
          have first : d.interfaces.head? = some intf := by rw [interfaces, List.head?_cons]
          have grownSound := sound intf domain ⟨first, found, plenty.calloc, plenty.pending⟩
          have created : ifaceNew st outcome domain = (grown st domain, some st.ifaces.next) := by
            simp [ifaceNew, grown, plenty.calloc, plenty.pending]
          have sameLib : (grown st domain).lib = st.lib := rfl
          have grownRegistry : Registry (grown st domain).lib := registry
          obtain ⟨lib, id, ep, build, closes⟩ :=
            ifaceBuild_answers st.ifaces.next intf.managed grownRegistry plenty grownSound
          rw [sameLib] at build closes
          simp only [created, build, bind, Except.bind]
          cases works : opensPair st.lib outcome intf.name.text
              ((busToPrefix intf.busType ++ intf.path.text).take 127) with
          | true => exact ⟨_, rfl⟩
          | false =>
              obtain ⟨closed, final, firstClosed, secondClosed⟩ := closes works
              let make : Interface → Interface := fun self => self.built id ep intf.name.text
                ((busToPrefix intf.busType ++ intf.path.text).take 127) intf.busType intf.managed
              have live : (built st lib domain make).ifaces.get st.ifaces.next = some (make (freshInterface domain)) :=
                built_get.trans (if_pos rfl)
              obtain ⟨freed, free⟩ := ifaceFree_returns live firstClosed secondClosed nofun
              refine ⟨freed, ?_⟩
              change (ifaceFree dtblTable (built st lib domain make) st.ifaces.next >>= fun st => .ok (st, -1)) = _
              rw [free]
              rfl

end Building

end Rteipc
