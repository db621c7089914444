import Rteipc.Endpoint.Binding
import Rteipc.Message.Stream

namespace Rteipc

/-! The transfer functions of `ep_loop.c`: what is sent on a loop arrives at the
endpoint the loop is bound to. -/

open Data

/-! ## Transfers -/

section Transfers

variable {Table Cb Arg : Type} (st : EpState Table Cb Arg)

def rteipcEvxfer (name : List UInt8) (buf : Evbuffer) : Except Fault (EpState Table Cb Arg × Int) :=
  match lookupLo st.loList name with
  | none => .ok (st, -1)
  | some lo => do
      let core ← deref st.cores lo.self
      match core.bev with
      | none => .error .nullDereference
      | some bev =>
          let half ← deref st.bevs bev
          match half.partner with
          | none => .ok (st, 0)
          | some other =>
              .ok ({ st with bevs := st.bevs.modify other fun half =>
                  { half with input := (rteipcEvbuffer half.input buf).1 } }, 0)

/-- A `uint16_t` in the memory of a little-endian host. -/
def shortBytes (value : BitVec 16) : List UInt8 :=
  [UInt8.ofNat value.toNat, UInt8.ofNat (value.toNat / 256)]

def rteipcGpioXfer (name : List UInt8) (value : UInt8) : Except Fault (EpState Table Cb Arg × Int) :=
  rteipcEvxfer st name [if value > 1 then 1 else value]

def rteipcSpiXfer (name data : List UInt8) (len : BitVec 16) (rdmode : Bool) :
    Except Fault (EpState Table Cb Arg × Int) :=
  rteipcEvxfer st name (shortBytes len ++ [if rdmode then 1 else 0] ++ data.take len.toNat)

def rteipcI2cXfer (name : List UInt8) (addr : BitVec 16) (data : List UInt8) (wlen rlen : BitVec 16) :
    Except Fault (EpState Table Cb Arg × Int) :=
  rteipcEvxfer st name (shortBytes addr ++ shortBytes wlen ++ shortBytes rlen ++ data.take wlen.toNat)

/-- A `val` that is NULL asks for the current value. -/
def sysfsMessage (attr : List UInt8) : Option (List UInt8) → List UInt8
  | none => attr
  | some val => attr ++ 61 :: val

def rteipcSysfsXfer (name : List UInt8) (attr val : Option (List UInt8)) :
    Except Fault (EpState Table Cb Arg × Int) :=
  match attr with
  | none => .ok (st, -1)
  | some attr => rteipcEvxfer st name (sysfsMessage attr val)

end Transfers

/-- A call of one of the transfer functions. -/
inductive XferCall where
  | rteipcXfer (name data : List UInt8)
  | rteipcGpioXfer (name : List UInt8) (value : UInt8)
  | rteipcSpiXfer (name data : List UInt8) (len : BitVec 16) (rdmode : Bool)
  | rteipcI2cXfer (name : List UInt8) (addr : BitVec 16) (data : List UInt8) (wlen rlen : BitVec 16)
deriving DecidableEq, Repr

def XferCall.run {Table Cb Arg : Type} (st : EpState Table Cb Arg) :
    XferCall → Except Fault (EpState Table Cb Arg × Int)
  | .rteipcXfer name data => Rteipc.rteipcXfer st name data
  | .rteipcGpioXfer name value => Rteipc.rteipcGpioXfer st name value
  | .rteipcSpiXfer name data len rdmode => Rteipc.rteipcSpiXfer st name data len rdmode
  | .rteipcI2cXfer name addr data wlen rlen => Rteipc.rteipcI2cXfer st name addr data wlen rlen

/-- A call of any function that sends on a loop. -/
inductive LoopSend where
  | xfer (call : XferCall)
  | rteipcEvxfer (name : List UInt8) (buf : Evbuffer)
  | rteipcSysfsXfer (name : List UInt8) (attr val : Option (List UInt8))
deriving DecidableEq, Repr

def LoopSend.run {Table Cb Arg : Type} (st : EpState Table Cb Arg) :
    LoopSend → Except Fault (EpState Table Cb Arg × Int)
  | .xfer call => call.run st
  | .rteipcEvxfer name buf => Rteipc.rteipcEvxfer st name buf
  | .rteipcSysfsXfer name attr val => Rteipc.rteipcSysfsXfer st name attr val

/-- The loop a call looks up and the payload it sends there. -/
def XferCall.message : XferCall → List UInt8 × List UInt8
  | .rteipcXfer name data => (name, data)
  | .rteipcGpioXfer name value => (name, [if value > 1 then 1 else value])
  | .rteipcSpiXfer name data len rdmode =>
      (name, shortBytes len ++ [if rdmode then 1 else 0] ++ data.take len.toNat)
  | .rteipcI2cXfer name addr data wlen rlen =>
      (name, shortBytes addr ++ shortBytes wlen ++ shortBytes rlen ++ data.take wlen.toNat)

/-- Without an attribute no loop is looked up. -/
def LoopSend.message : LoopSend → Option (List UInt8 × List UInt8)
  | .xfer call => some call.message
  | .rteipcEvxfer name buf => some (name, buf)
  | .rteipcSysfsXfer name attr val => attr.map fun attr => (name, sysfsMessage attr val)

/-- Every transfer function sends one message, in the layout of its bus. -/
theorem XferCall.run_eq {Table Cb Arg : Type} (st : EpState Table Cb Arg) (call : XferCall) :
    call.run st = Rteipc.rteipcXfer st call.message.1 call.message.2 := by
  cases call <;> rfl

/-! ## Endpoints in pairs -/

section Pairs

variable {Table Cb Arg : Type} {tbl : DescTable Table} {st next : EpState Table Cb Arg}

/-- The halves of every pair belong to two endpoints, and every loop to one of its type. -/
structure EndpointsPaired (st : EpState Table Cb Arg) : Prop where
  bound : ∀ ep core first, st.cores.get ep = some core → core.bev = some first →
    ∃ other partner second, other ≠ ep ∧ st.cores.get other = some partner ∧ partner.bev = some second ∧
      OtherHalf st.bevs first second
  owner : OneOwner st
  loops : ∀ lo ∈ st.loList, ∃ core, st.cores.get lo.self = some core ∧ core.type = .loop

def EpCore.wiring (core : EpCore) : EpType × Option BevPtr := (core.type, core.bev)

variable {ep other : EpPtr} {core partner : EpCore} {first second : BevPtr}

theorem EndpointsPaired.start : EndpointsPaired (EpState.start tbl : EpState Table Cb Arg) where
  bound _ _ _ live := nomatch live
  owner _ _ _ _ _ live := nomatch live
  loops := nofun

theorem wiring_live {cores before : Heap EpCore}
    (same : (cores.get ep).map EpCore.wiring = (before.get ep).map EpCore.wiring) (live : cores.get ep = some core) :
    ∃ old, before.get ep = some old ∧ old.type = core.type ∧ old.bev = core.bev := by
  rw [live, Option.map_some, eq_comm, Option.map_eq_some_iff] at same
  obtain ⟨old, oldLive, sameWiring⟩ := same
  obtain ⟨sameType, sameBev⟩ := Prod.mk.inj sameWiring
  exact ⟨old, oldLive, sameType, sameBev⟩

theorem EndpointsPaired.congr (paired : EndpointsPaired st)
    (cores : ∀ ep, (next.cores.get ep).map EpCore.wiring = (st.cores.get ep).map EpCore.wiring)
    (bevs : next.bevs = st.bevs) (loops : ∀ lo ∈ next.loList, lo ∈ st.loList) : EndpointsPaired next where
  bound ep core first live bev := by
    obtain ⟨old, oldLive, -, sameBev⟩ := wiring_live (cores ep) live
    obtain ⟨other, partner, second, differ, otherLive, otherBev, pair⟩ :=
      paired.bound ep old first oldLive (sameBev.trans bev)
    obtain ⟨kept, keptLive, -, keptBev⟩ := wiring_live (cores other).symm otherLive
    exact ⟨other, kept, second, differ, keptLive, keptBev.trans otherBev, bevs ▸ pair⟩
  owner ep core other partner bev live otherLive has otherHas := by
    obtain ⟨old, oldLive, -, sameBev⟩ := wiring_live (cores ep) live
    obtain ⟨oldPartner, oldOtherLive, -, sameOtherBev⟩ := wiring_live (cores other) otherLive
    exact paired.owner ep old other oldPartner bev oldLive oldOtherLive (sameBev.trans has)
      (sameOtherBev.trans otherHas)
  loops lo member := by
    obtain ⟨core, live, isLoop⟩ := paired.loops lo (loops lo member)
    obtain ⟨kept, keptLive, sameType, -⟩ := wiring_live (cores lo.self).symm live
    exact ⟨kept, keptLive, sameType.trans isLoop⟩

theorem EndpointsPaired.half_lt (paired : EndpointsPaired st) (live : st.cores.get ep = some core)
    (bev : core.bev = some first) : first < st.bevs.next := by
  obtain ⟨_, _, _, _, _, _, half, _, halfLive, _⟩ := paired.bound ep core first live bev
  exact Heap.live_lt halfLive

theorem EndpointsPaired.bindPair (paired : EndpointsPaired st) (live : st.cores.get ep = some core)
    (otherLive : st.cores.get other = some partner) (differ : ep ≠ other) (unbound : core.bev = none)
    (otherUnbound : partner.bev = none) : EndpointsPaired (bindPair st ep other core partner) where
  bound kept after half keptLive keptBev := by
    obtain ⟨rfl, rfl⟩ | ⟨rfl, rfl⟩ | ⟨-, -, keptLive⟩ := bindPair_live live otherLive differ keptLive
    · cases keptBev
      exact ⟨other, _, _, differ.symm, bindPair_right otherLive differ, rfl, bindPair_pair⟩
    · cases keptBev
      exact ⟨ep, _, _, differ, bindPair_left live differ, rfl, bindPair_pair.symm⟩
    · obtain ⟨peer, peerCore, peerHalf, peerDiffer, peerLive, peerBev, pair⟩ :=
        paired.bound kept after half keptLive keptBev
      refine ⟨peer, peerCore, peerHalf, peerDiffer, bindPair_old live otherLive unbound otherUnbound peerLive peerBev,
        peerBev, pair.congr (bindPair_bev ?_) (bindPair_bev ?_)⟩
      · exact paired.half_lt keptLive keptBev
      · exact paired.half_lt peerLive peerBev
  owner := OneOwner.bindPair paired.owner (fun _ _ _ => paired.half_lt) live otherLive differ
  loops lo member := by
    obtain ⟨before, beforeLive, isLoop⟩ := paired.loops lo member
    by_cases isEp : lo.self = ep
    · rw [isEp, live] at beforeLive
      cases beforeLive
      rw [isEp]
      exact ⟨_, bindPair_left live differ, isLoop⟩
    · by_cases isOther : lo.self = other
      · rw [isOther, otherLive] at beforeLive
        cases beforeLive
        rw [isOther]
        exact ⟨_, bindPair_right otherLive differ, isLoop⟩
      · exact ⟨before, (bindPair_kept isEp isOther).trans beforeLive, isLoop⟩

theorem EndpointsPaired.unlink (paired : EndpointsPaired st) (live : st.cores.get ep = some core)
    (bev : core.bev = some first) (otherLive : st.cores.get other = some partner) (otherBev : partner.bev = some second)
    (pair : OtherHalf st.bevs first second) : EndpointsPaired (unlinked st ep other first second) where
  bound kept after half keptLive keptBev := by
    obtain ⟨before, beforeLive, -, ⟨none, -⟩ | ⟨notEp, notOther, rfl⟩⟩ := unlinked_live keptLive
    · nomatch none.symm.trans keptBev
    · obtain ⟨peer, peerCore, peerHalf, differ, peerLive, peerBev, peerPair⟩ :=
        paired.bound kept after half beforeLive keptBev
      obtain ⟨peerKept, pairKept⟩ := paired.owner.unlinked_peer live bev otherLive otherBev pair beforeLive keptBev
        notEp notOther peerLive peerBev peerPair
      exact ⟨peer, peerCore, peerHalf, differ, peerKept, peerBev, pairKept⟩
  owner := paired.owner.unlink
  loops lo member := by
    obtain ⟨before, beforeLive, isLoop⟩ := paired.loops lo member
    rw [unlinked_get, beforeLive]
    refine ⟨_, rfl, ?_⟩
    split
    next => exact isLoop
    next => exact isLoop

theorem EndpointsPaired.withEndpoint {alloc : DtblAlloc} {type : EpType} (paired : EndpointsPaired st) :
    EndpointsPaired (withEndpoint tbl st alloc type) where
  bound kept after half keptLive keptBev := by
    obtain ⟨-, rfl⟩ | ⟨-, keptLive⟩ := withEndpoint_live keptLive
    · nomatch keptBev
    · obtain ⟨peer, peerCore, peerHalf, differ, peerLive, peerBev, pair⟩ :=
        paired.bound kept after half keptLive keptBev
      exact ⟨peer, peerCore, peerHalf, differ, withEndpoint_old peerLive, peerBev, pair⟩
  owner := paired.owner.withEndpoint
  loops lo member := by
    obtain ⟨before, beforeLive, isLoop⟩ := paired.loops lo member
    exact ⟨before, withEndpoint_old beforeLive, isLoop⟩

theorem EndpointsPaired.destroy (paired : EndpointsPaired st)
    (idle : ∀ core, st.cores.get ep = some core → core.bev = none) (unlooped : ∀ lo ∈ st.loList, lo.self ≠ ep) :
    EndpointsPaired (destroyEndpoint st ep) where
  bound kept after half keptLive keptBev := by
    obtain ⟨peer, peerCore, peerHalf, differ, peerLive, peerBev, pair⟩ :=
      paired.bound kept after half (Heap.get_free_some keptLive).2 keptBev
    refine ⟨peer, peerCore, peerHalf, differ, (Heap.get_free_of_ne ?_).trans peerLive, peerBev, pair⟩
    rintro rfl
    nomatch (idle peerCore peerLive).symm.trans peerBev
  owner kept after peer peerAfter half keptLive peerLive :=
    paired.owner kept after peer peerAfter half (Heap.get_free_some keptLive).2 (Heap.get_free_some peerLive).2
  loops lo member := by
    obtain ⟨before, beforeLive, isLoop⟩ := paired.loops lo member
    exact ⟨before, (Heap.get_free_of_ne (unlooped lo member)).trans beforeLive, isLoop⟩

theorem EndpointsPaired.unbindEndpoint (paired : EndpointsPaired st)
    (returned : unbindEndpoint tbl st ep = .ok next) :
    EndpointsPaired next ∧ next.loList = st.loList ∧ ∀ core, next.cores.get ep = some core → core.bev = none := by
  obtain ⟨rfl, alone⟩ | ⟨core, partner, other, first, second, half, live, bev, halfLive, linked, otherLive, otherBev,
    rfl⟩ := unbindEndpoint_cases returned
  · refine ⟨paired, rfl, fun core live => ?_⟩
    cases bev : core.bev with
    | none => rfl
    | some first =>
        obtain ⟨_, _, _, -, -, -, half, _, halfLive, linked, -⟩ := paired.bound ep core first live bev
        nomatch (alone core first half live bev halfLive).symm.trans linked
  · obtain ⟨peer, peerCore, peerHalf, -, peerLive, peerBev, pair⟩ := paired.bound ep core first live bev
    have isSecond : peerHalf = second := by
      obtain ⟨same, -, sameLive, partner, -⟩ := pair
      cases halfLive.symm.trans sameLive
      exact Option.some.inj (partner.symm.trans linked)
    refine ⟨paired.unlink live bev otherLive otherBev (isSecond ▸ pair), rfl, fun after afterLive => ?_⟩
    rw [unlinked_get, live, Option.map_some, if_pos (.inl rfl)] at afterLive
    cases afterLive
    rfl

theorem EndpointsPaired.unregister (paired : EndpointsPaired st) (unlooped : ∀ lo ∈ st.loList, lo.self ≠ ep)
    (returned : unregisterEndpoint tbl st ep = .ok next) : EndpointsPaired (destroyEndpoint next ep) := by
  obtain ⟨core, -, returned⟩ := bind_ok returned
  have renamed : EndpointsPaired
      { st with
          epTbl := tbl.del st.epTbl core.id
          cores := st.cores.modify ep fun core => { core with id := -1 } } :=
    paired.congr (fun _ => Heap.map_get_modify fun _ => rfl) rfl fun lo member => member
  obtain ⟨unbound, sameLoops, idle⟩ := renamed.unbindEndpoint returned
  exact unbound.destroy idle (sameLoops ▸ unlooped)

/-! ## What each call keeps -/

theorem EndpointsPaired.rteipcOpen {outcome : OpenOutcome} {uri : List UInt8} {ret : Int} (paired : EndpointsPaired st)
    (returned : rteipcOpen tbl st outcome uri = .ok (next, ret)) : EndpointsPaired next := by
  obtain ⟨-, cores, bevs, loops, -⟩ | ⟨type, path, -, -, rfl, -⟩ := rteipcOpen_cases returned
  · exact paired.congr (fun kept => by rw [cores]) bevs fun lo member => loops ▸ member
  · have registered : EndpointsPaired (Rteipc.withEndpoint tbl st outcome.desc type) := paired.withEndpoint
    refine ⟨registered.bound, registered.owner, fun lo member => ?_⟩
    obtain old | new := List.mem_append.mp member
    · exact registered.loops lo old
    · unfold newLoops at new
      split at new
      next isLoop =>
        cases List.mem_singleton.mp new
        exact ⟨_, withEndpoint_new, isLoop⟩
      next => nomatch new

theorem EndpointsPaired.rteipcClose {id : Int} (paired : EndpointsPaired st)
    (returned : rteipcClose tbl st id = .ok next) : EndpointsPaired next := by
  unfold Rteipc.rteipcClose at returned
  split at returned
  next =>
    cases returned
    exact paired
  next ep found =>
    obtain ⟨core, read, returned⟩ := bind_ok returned
    obtain ⟨unbound, unregistered, returned⟩ := bind_ok returned
    cases returned
    rw [closeEndpoint_eq] at unregistered
    apply EndpointsPaired.unregister _ _ unregistered
    · refine ⟨paired.bound, paired.owner, fun lo member => ?_⟩
      split at member
      next => exact paired.loops lo (List.mem_filter.mp member).1
      next => exact paired.loops lo member
    · intro lo member
      split at member
      next => exact of_decide_eq_true (List.mem_filter.mp member).2
      next other =>
        rintro rfl
        obtain ⟨same, live, isLoop⟩ := paired.loops lo member
        cases (deref_ok read).symm.trans live
        exact other isLoop

theorem EndpointsPaired.step {call : EpCall} (paired : EndpointsPaired st) (taken : EpStep tbl st call next) :
    EndpointsPaired next := by
  obtain ⟨ret, returned⟩ := taken
  cases call with
  | rteipcOpen outcome uri => exact paired.rteipcOpen returned
  | rteipcBind pair lh rh =>
      obtain ⟨rfl, -⟩ | ⟨le, re, left, right, -, -, differ, live, otherLive, idle, otherIdle, rfl, -⟩ :=
        rteipcBind_cases returned
      · exact paired
      · exact paired.bindPair live otherLive differ idle otherIdle
  | rteipcUnbind id =>
      obtain ⟨after, unbound, same⟩ := map_ok returned
      cases same
      unfold Rteipc.rteipcUnbind at unbound
      split at unbound
      next =>
        cases unbound
        exact paired
      next => exact (paired.unbindEndpoint unbound).1
  | rteipcClose id =>
      obtain ⟨after, closed, same⟩ := map_ok returned
      cases same
      exact paired.rteipcClose closed

theorem EndpointsPaired.run {calls : List EpCall} (run : Reaches (EpStep tbl) (EpState.start tbl) calls st) :
    EndpointsPaired st :=
  run.invariant (fun _ _ _ (paired : EndpointsPaired _) taken => paired.step taken) .start

/-! ## Sending -/

/-- One frame as a receiver reads it. -/
def IsFrame (bytes data : List UInt8) : Prop := headerValue bytes = some data.length ∧ bytes.drop 4 = data

theorem isFrame_frame_iff (data : List UInt8) : IsFrame (frame data) data ↔ data.length < 2 ^ 32 := by
  have payload : (frame data).drop 4 = data := List.drop_left' rfl
  rw [IsFrame, payload, frame, headerValue_htonl, Option.some.injEq, and_iff_left rfl]
  omega

def EpState.arrived (st : EpState Table Cb Arg) (bev : BevPtr) (bytes : List UInt8) : EpState Table Cb Arg :=
  { st with bevs := st.bevs.modify bev fun half => { half with input := half.input ++ bytes } }

def LoopBound (st : EpState Table Cb Arg) (name : List UInt8) : Prop :=
  ∃ lo core, lookupLo st.loList name = some lo ∧ st.cores.get lo.self = some core ∧ core.bev ≠ none

/-- The payload arrives, in one frame, at the endpoint the loop is bound to. -/
def Delivers (st : EpState Table Cb Arg) (name data : List UInt8) (next : EpState Table Cb Arg) : Prop :=
  ∃ lo core first other partner second bytes, lookupLo st.loList name = some lo ∧ st.cores.get lo.self = some core ∧
    core.bev = some first ∧ st.cores.get other = some partner ∧ partner.bev = some second ∧
      OtherHalf st.bevs first second ∧ IsFrame bytes data ∧ next = st.arrived second bytes

/-- A call delivers its payload and returns 0, or returns -1 and changes nothing. -/
def SendDefined (st : EpState Table Cb Arg) (send : LoopSend) : Prop :=
  send.run st = .ok (st, -1) ∨
    ∃ name data next, send.message = some (name, data) ∧ Delivers st name data next ∧ send.run st = .ok (next, 0)

theorem LoopSend.run_eq {send : LoopSend} {name data : List UInt8} (sends : send.message = some (name, data)) :
    send.run st = rteipcXfer st name data := by
  cases send with
  | xfer call =>
      have message : call.message = (name, data) := Option.some.inj sends
      have run := call.run_eq st
      rw [message] at run
      exact run
  | rteipcEvxfer name buf =>
      cases sends
      rfl
  | rteipcSysfsXfer name attr val =>
      cases attr with
      | none => nomatch sends
      | some attr =>
          cases sends
          rfl

theorem LoopSend.run_none {send : LoopSend} (silent : send.message = none) : send.run st = .ok (st, -1) := by
  cases send with
  | xfer call => nomatch silent
  | rteipcEvxfer name buf => nomatch silent
  | rteipcSysfsXfer name attr val =>
      cases attr with
      | none => rfl
      | some attr => nomatch silent

variable {name : List UInt8} {lo : Loop Cb Arg}

/-- On a bound loop the frame is written to the other half. -/
theorem EndpointsPaired.xfer (paired : EndpointsPaired st) (named : lookupLo st.loList name = some lo)
    (live : st.cores.get lo.self = some core) (bev : core.bev = some first) (data : List UInt8) :
    ∃ other partner second, st.cores.get other = some partner ∧ partner.bev = some second ∧
      OtherHalf st.bevs first second ∧ rteipcXfer st name data = .ok (st.arrived second (frame data), 0) := by
  obtain ⟨other, partner, second, -, otherLive, otherBev, pair⟩ := paired.bound lo.self core first live bev
  have ⟨half, _, halfLive, linked, _⟩ := pair
  refine ⟨other, partner, second, otherLive, otherBev, pair, ?_⟩
  simp only [rteipcXfer, named, deref_live live, bev, deref_live halfLive, linked, bind, Except.bind]
  rfl

theorem arrived_inj {third : BevPtr} {bytes more : List UInt8} {half : Bufferevent}
    (live : st.bevs.get second = some half) (written : more ≠ [])
    (same : st.arrived second more = st.arrived third bytes) : bytes = more := by
  have halves := congrArg (fun after : EpState Table Cb Arg => after.bevs.get second) same
  simp only [EpState.arrived, Heap.get_modify, live, Option.map_some, if_true, Option.some.injEq] at halves
  split at halves
  next =>
    rw [Bufferevent.mk.injEq, List.append_cancel_left_eq] at halves
    exact halves.2.symm
  next =>
    have none := congrArg Bufferevent.input halves
    exact (written (List.append_right_eq_self.mp none)).elim

/-- In every state that opening, binding, unbinding and closing endpoints leads
to, sending is defined where there is no such loop, and on a bound loop for
payloads the header has room for. -/
theorem loop_send_defined_iff {calls : List EpCall} (run : Reaches (EpStep tbl) (EpState.start tbl) calls st)
    (send : LoopSend) :
    SendDefined st send ↔
      ∀ name data, send.message = some (name, data) →
        lookupLo st.loList name = none ∨ LoopBound st name ∧ data.length < 2 ^ 32 := by
  have paired := EndpointsPaired.run run
  cases sends : send.message with
  | none => exact ⟨fun _ => nofun, fun _ => .inl (LoopSend.run_none sends)⟩
  | some message =>
      obtain ⟨name, data⟩ := message
      have run_eq : send.run st = rteipcXfer st name data := LoopSend.run_eq sends
      unfold SendDefined
      rw [run_eq, sends]
      cases named : lookupLo st.loList name with
      | none =>
          have refused : rteipcXfer st name data = .ok (st, -1) := by
            simp only [rteipcXfer, named]
          refine ⟨fun _ other payload same => ?_, fun _ => .inl refused⟩
          cases same
          exact .inl named
      | some lo =>
          obtain ⟨core, live, -⟩ := paired.loops lo (List.mem_of_find?_eq_some named)
          cases bev : core.bev with
          | none =>
              have fault : rteipcXfer st name data = .error .nullDereference := by
                simp only [rteipcXfer, named, deref_live live, bev, bind, Except.bind]
              rw [fault]
              constructor
              · rintro (none | ⟨_, _, _, -, -, none⟩)
                · nomatch none
                · nomatch none
              · intro ready
                obtain absent | ⟨⟨lo', core', named', live', isBound⟩, -⟩ := ready name data rfl
                · nomatch named.symm.trans absent
                · cases named.symm.trans named'
                  cases live.symm.trans live'
                  exact (isBound bev).elim
          | some first =>
              obtain ⟨other, partner, second, otherLive, otherBev, pair, sent⟩ :=
                paired.xfer named live bev data
              rw [sent]
              constructor
              · rintro (failed | ⟨_, _, after, same, delivers, returned⟩) name' data' same'
                · have returned := (Prod.mk.inj (Except.ok.inj failed)).2
                  nomatch returned
                · cases same
                  cases same'
                  cases returned
                  obtain ⟨_, half, -, -, halfLive, -⟩ := pair
                  obtain ⟨_, _, _, _, _, third, bytes, -, -, -, -, -, -, framed, same⟩ := delivers
                  have whole : bytes = frame data := arrived_inj halfLive (List.cons_ne_nil _ _) same
                  rw [whole, isFrame_frame_iff] at framed
                  refine .inr ⟨⟨lo, core, named, live, ?_⟩, framed⟩
                  rw [bev]
                  nofun
              · intro ready
                obtain absent | ⟨-, fits⟩ := ready name data rfl
                · nomatch named.symm.trans absent
                · exact .inr ⟨name, data, _, rfl, ⟨lo, core, first, other, partner, second, frame data, named, live, bev,
                    otherLive, otherBev, pair, (isFrame_frame_iff data).mpr fits, rfl⟩, rfl⟩

end Pairs

/-- A loop that is opened and, where it is bound, another bound to it. -/
def openLoops (bound : Bool) : List EpCall :=
  .rteipcOpen ⟨true, .succeeds, true, true⟩ (ascii "a") ::
    if bound then [.rteipcOpen ⟨true, .succeeds, true, true⟩ (ascii "b"), .rteipcBind true 0 1] else []

/-- Sending on one of two bound loops. -/
theorem loop_send_defined_bound : ∃ st : EpState (Dtbl EpPtr) Unit Unit,
    Reaches (EpStep dtblTable) (EpState.start dtblTable) (openLoops true) st ∧
      (SendDefined st (.xfer (.rteipcXfer (ascii "a") [1])) ↔
        ∀ name data, LoopSend.message (.xfer (.rteipcXfer (ascii "a") [1])) = some (name, data) →
          lookupLo st.loList name = none ∨ LoopBound st name ∧ data.length < 2 ^ 32) := by
  obtain ⟨st, run⟩ : ∃ st : EpState (Dtbl EpPtr) Unit Unit,
      Reaches (EpStep dtblTable) (EpState.start dtblTable) (openLoops true) st :=
    ⟨_, .cons ⟨0, rfl⟩ (.cons ⟨1, rfl⟩ (.cons ⟨0, rfl⟩ (.nil _)))⟩
  exact ⟨st, run, loop_send_defined_iff run _⟩

/-- A loop that was opened and not bound has no bufferevent to write to. -/
theorem loop_send_unbound :
    ¬ ∀ (calls : List EpCall) (st : EpState (Dtbl EpPtr) Unit Unit) (send : LoopSend),
      Reaches (EpStep dtblTable) (EpState.start dtblTable) calls st →
        (∀ name data, send.message = some (name, data) → data ≠ []) → SendDefined st send := by
  intro all
  obtain ⟨st, run, fault⟩ : ∃ st : EpState (Dtbl EpPtr) Unit Unit,
      Reaches (EpStep dtblTable) (EpState.start dtblTable) (openLoops false) st ∧
        LoopSend.run st (.xfer (.rteipcXfer (ascii "a") [1])) = .error .nullDereference :=
    ⟨_, .cons ⟨0, rfl⟩ (.nil _), rfl⟩
  have sends : ∀ name data, LoopSend.message (.xfer (.rteipcXfer (ascii "a") [1])) = some (name, data) → data ≠ [] := by
    intro name data same
    cases same
    exact List.cons_ne_nil _ _
  obtain failed | ⟨_, _, _, -, -, returned⟩ := all (openLoops false) st _ run sends
  · nomatch fault.symm.trans failed
  · nomatch fault.symm.trans returned

end Rteipc
