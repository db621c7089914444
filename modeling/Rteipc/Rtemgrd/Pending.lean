import Rteipc.Data.Ledger
import Rteipc.Data.Run
import Rteipc.Message.Stream
import Rteipc.Rtemgrd.Ctlport
import Rteipc.Rtemgrd.Routes

namespace Rteipc

/-! The ways of a message through a raw interface: straight to the partner, or
through the pending queue to a later partner or to `cat`. -/

open Data

variable {Table : Type}

/-! ## The handlers with a record of what they hand on -/

/-- Messages, each with the interface it arrived at. -/
abbrev Traffic := List (IfacePtr × List UInt8)

def rawHandlerTraffic (emitLib : EmitLib) (memory : Memory) (st : Daemon Table) (iface : IfacePtr)
    (data : List UInt8) : Except Fault (Daemon Table × Traffic) := do
  let self ← deref st.ifaces iface
  match self.partner with
  | none => .ok ({ st with ifaces := st.ifaces.modify iface fun self => ifacePending self memory data }, [])
  | some partner => do
      let other ← deref st.ifaces partner
      if other.managed = 0 then do
        let sent ← rteipcXfer st.lib other.name data
        .ok ({ st with lib := sent.1 }, [(iface, data)])
      else
        let domain := ((st.domainList[self.domain]?).map Domain.id).getD 0
        match senderDocument emitLib memory (senderPacket self domain other.name data) data.length with
        | none => .ok (st, [])
        | some document => do
            let sent ← rteipcXfer st.lib other.name document
            .ok ({ st with lib := sent.1 }, [(iface, data)])

def triggerTraffic (emitLib : EmitLib) (memory : Nat → Memory) (iface : IfacePtr) :
    Nat → Daemon Table → Except Fault (Daemon Table × Traffic)
  | 0, st => .ok (st, [])
  | fuel + 1, st => do
      let self ← deref st.ifaces iface
      match rteipcMsgDrain (memory fuel).malloc self.pending with
      | (.message _ msg, pending) => do
          let drained := { st with ifaces := st.ifaces.modify iface fun self => { self with pending } }
          let handled ← rawHandlerTraffic emitLib (memory fuel) drained iface msg
          let later ← triggerTraffic emitLib memory iface fuel handled.1
          .ok (later.1, handled.2 ++ later.2)
      | _ => .ok (st, [])

def routeSideTraffic (emitLib : EmitLib) (memory : Nat → Memory) (st : Daemon Table) (iface other : IfacePtr) :
    Except Fault (Daemon Table × Traffic) := do
  let self ← deref st.ifaces iface
  if self.managed = 0 then do
    let st := { st with ifaces := st.ifaces.modify iface fun self => { self with partner := some other } }
    let self ← deref st.ifaces iface
    match self.partner with
    | none => .ok (st, [])
    | some _ => triggerTraffic emitLib memory iface (self.pending.length + 1) st
  else .ok (st, [])

def routeTraffic (emitLib : EmitLib) (st : Daemon Table) (left right : Nat → Memory) (d : RtemgrData) :
    Except Fault (Daemon Table × Traffic) :=
  match d.interfaces with
  | [lh, rh] =>
      match ifaceOf st lh, ifaceOf st rh with
      | some ifaceLh, some ifaceRh =>
          if ifaceLh = ifaceRh then .ok (st, [])
          else do
            let first ← routeSideTraffic emitLib left st ifaceLh ifaceRh
            let second ← routeSideTraffic emitLib right first.1 ifaceRh ifaceLh
            .ok (second.1, first.2 ++ second.2)
      | _, _ => .ok (st, [])
  | _ => .ok (st, [])

def catLoopTraffic (memory : CatMemory) (busType : BitVec 32) (iface : IfacePtr) :
    Nat → Evbuffer → Evbuffer → Except Fault ((Bool × Evbuffer × Evbuffer) × Traffic)
  | 0, pending, buf => .ok ((true, pending, buf), [])
  | fuel + 1, pending, buf =>
      match rteipcMsgDrain (memory.malloc fuel) pending with
      | (.empty, pending) => .ok ((true, pending, buf), [])
      | (.failed, pending) => .ok ((false, pending, buf), [])
      | (.message _ msg, pending) => do
          let line ← catLine memory fuel busType msg
          let later ← catLoopTraffic memory busType iface fuel pending (buf ++ line)
          .ok (later.1, (iface, msg) :: later.2)

def catTraffic (memory : CatMemory) (st : Daemon Table) (d : RtemgrData) :
    Except Fault ((Daemon Table × RtemgrData × Int) × Traffic) :=
  match d.interfaces with
  | [] => .error .absentInterface
  | intf :: _ =>
      match ifaceOf st intf with
      | none => .ok ((st, d, -1), [])
      | some iface => do
          let self ← deref st.ifaces iface
          match self.partner with
          | some partner => do
              let _ ← deref st.ifaces partner
              .ok ((st, d, -1), [])
          | none =>
              if !memory.evbuffer then .ok ((st, d, -1), [])
              else do
                let ((whole, pending, buf), traffic) ←
                  catLoopTraffic memory self.busType iface (self.pending.length + 1) self.pending []
                let st := { st with ifaces := st.ifaces.modify iface fun self => { self with pending } }
                if !whole then .ok ((st, d, -1), traffic)
                else .ok ((st, catValue memory d buf), traffic)

/-! ### The record changes nothing -/

theorem bind_erase {α β γ : Type} (first : Except Fault α) (rest : α → Except Fault β) (change : β → γ) :
    (first >>= rest).map change = first >>= fun value => (rest value).map change := by
  cases first <;> rfl

theorem bind_fst {α β : Type} {first : Except Fault (α × Traffic)} {plain : Except Fault α}
    (erased : first.map Prod.fst = plain) (rest : α → Except Fault β) :
    (first >>= fun value => rest value.1) = plain >>= rest := by
  rw [← erased]
  cases first <;> rfl

theorem rawHandlerTraffic_erase (emitLib : EmitLib) (memory : Memory) (st : Daemon Table) (iface : IfacePtr)
    (data : List UInt8) :
    (rawHandlerTraffic emitLib memory st iface data).map Prod.fst = ifaceRawHandler emitLib memory st iface data := by
  rw [rawHandlerTraffic, ifaceRawHandler, bind_erase]
  congr 1
  funext self
  cases self.partner with
  | none => rfl
  | some partner =>
      rw [bind_erase]
      congr 1
      funext other
      split
      · rw [bind_erase]
        rfl
      · simp only
        cases senderDocument emitLib memory
          (senderPacket self (((st.domainList[self.domain]?).map Domain.id).getD 0) other.name data) data.length with
        | none => rfl
        | some document =>
            simp only
            rw [bind_erase]
            rfl

theorem triggerTraffic_erase (emitLib : EmitLib) (memory : Nat → Memory) (iface : IfacePtr) (fuel : Nat)
    (st : Daemon Table) :
    (triggerTraffic emitLib memory iface fuel st).map Prod.fst = triggerLoop emitLib memory iface fuel st := by
  induction fuel generalizing st with
  | zero => rfl
  | succ fuel ih =>
      rw [triggerTraffic, triggerLoop, bind_erase]
      congr 1
      funext self
      cases rteipcMsgDrain (memory fuel).malloc self.pending with
      | mk result pending =>
          cases result with
          | empty => rfl
          | failed => rfl
          | message size msg =>
              simp only
              rw [← bind_fst (rawHandlerTraffic_erase _ _ _ _ _), bind_erase]
              congr 1
              funext handled
              rw [← ih, bind_erase]
              cases triggerTraffic emitLib memory iface fuel handled.1 <;> rfl

theorem routeSideTraffic_erase (emitLib : EmitLib) (memory : Nat → Memory) (st : Daemon Table)
    (iface other : IfacePtr) :
    (routeSideTraffic emitLib memory st iface other).map Prod.fst = routeSide emitLib memory st iface other := by
  rw [routeSideTraffic, routeSide, bind_erase]
  congr 1
  funext self
  split
  next =>
    simp only [ifaceTrigger]
    rw [bind_erase]
    congr 1
    funext self
    cases self.partner with
    | none => rfl
    | some partner => exact triggerTraffic_erase _ _ _ _ _
  next => rfl

theorem routeTraffic_erase (emitLib : EmitLib) (st : Daemon Table) (left right : Nat → Memory) (d : RtemgrData) :
    (routeTraffic emitLib st left right d).map Prod.fst =
      (doRtecmdRoute emitLib st left right d).map Prod.fst := by
  unfold routeTraffic doRtecmdRoute
  rcases d.interfaces with _ | ⟨lh, _ | ⟨rh, _ | ⟨third, rest⟩⟩⟩
  case cons.cons.nil =>
    dsimp only
    cases ifaceOf st lh with
    | none => rfl
    | some ifaceLh =>
        cases ifaceOf st rh with
        | none => rfl
        | some ifaceRh =>
            simp only
            split
            · rfl
            · rw [← bind_fst (routeSideTraffic_erase _ _ _ _ _), bind_erase, bind_erase]
              congr 1
              funext first
              rw [← bind_fst (routeSideTraffic_erase _ _ _ _ _), bind_erase, bind_erase]
              rfl
  all_goals rfl

theorem catLoopTraffic_erase (memory : CatMemory) (busType : BitVec 32) (iface : IfacePtr) (fuel : Nat)
    (pending buf : Evbuffer) :
    (catLoopTraffic memory busType iface fuel pending buf).map Prod.fst =
      catLoop memory busType fuel pending buf := by
  induction fuel generalizing pending buf with
  | zero => rfl
  | succ fuel ih =>
      rw [catLoopTraffic, catLoop]
      cases rteipcMsgDrain (memory.malloc fuel) pending with
      | mk result pending =>
          cases result with
          | empty => rfl
          | failed => rfl
          | message size msg =>
              simp only
              rw [bind_erase]
              congr 1
              funext line
              rw [← ih, bind_erase]
              cases catLoopTraffic memory busType iface fuel pending (buf ++ line) <;> rfl

theorem catTraffic_erase (memory : CatMemory) (st : Daemon Table) (d : RtemgrData) :
    (catTraffic memory st d).map Prod.fst = doRtecmdCat memory st d := by
  unfold catTraffic doRtecmdCat
  cases d.interfaces with
  | nil => rfl
  | cons intf rest =>
      dsimp only
      cases ifaceOf st intf with
      | none => rfl
      | some iface =>
          dsimp only
          rw [bind_erase]
          congr 1
          funext self
          cases self.partner with
          | some partner =>
              simp only
              rw [bind_erase]
              rfl
          | none =>
              simp only
              split
              · rfl
              · rw [← catLoopTraffic_erase memory self.busType iface, bind_erase]
                cases catLoopTraffic memory self.busType iface (self.pending.length + 1) self.pending [] with
                | error fault => rfl
                | ok result =>
                    obtain ⟨⟨whole, pending, buf⟩, traffic⟩ := result
                    cases whole <;> rfl

/-! ## Queues of whole frames -/

/-- What a length of 32 bits can announce. `iface_raw_handler` gets its messages
from `rteipc_msg_drain`, so they are no longer. -/
def Framed (data : List UInt8) : Prop := data ≠ [] ∧ data.length < 4294967296

/-- A whole message a receiving loop has drained. -/
def Drained (data : List UInt8) : Prop :=
  ∃ malloc buf rest, rteipcMsgDrain malloc buf = (.message data.length data, rest)

theorem Drained.framed {data : List UInt8} (drained : Drained data) : Framed data := by
  obtain ⟨malloc, buf, rest, taken⟩ := drained
  simp only [rteipcMsgDrain] at taken
  split at taken
  next => cases taken
  next given =>
    split at taken
    next => cases taken
    next =>
      obtain ⟨same, -⟩ := Prod.mk.inj taken
      have size : msgLength buf = data.length := (DrainResult.message.inj same).1
      refine ⟨fun none => given (by rw [size, none]; rfl), ?_⟩
      rw [← size, msgLength_eq]
      cases header : headerValue buf with
      | none => exact Nat.zero_lt_succ _
      | some len =>
          have bound := headerValue_lt header
          dsimp only
          split <;> omega

/-- A whole frame at the front of a queue is drained as it was put there, with
any header, since the wrapping test only ever lets too much pass. -/
theorem drain_framed {malloc : Nat → Bool} (allocated : ∀ size, malloc size = true) {data : List UInt8}
    (framed : Framed data) (rest : Evbuffer) :
    rteipcMsgDrain malloc (frame data ++ rest) = (.message data.length data, rest) := by
  have length : msgLength (frame data ++ rest) = data.length := by
    have small := framed.2
    have header := headerValue_htonl data.length (data ++ rest)
    rw [Nat.mod_eq_of_lt small] at header
    rw [frame, List.append_assoc, msgLength_eq, header]
    simp only [List.length_append, htonl_length]
    have wrapped := Nat.mod_le (data.length + 4) 4294967296
    rw [if_neg (by omega)]
  have nonempty : ¬data.length = 0 := fun none => framed.1 (List.length_eq_zero_iff.mp none)
  have payload : (frame data ++ rest).drop 4 = data ++ rest := by
    rw [frame, List.append_assoc]
    exact List.drop_left' rfl
  simp only [rteipcMsgDrain, length, if_neg nonempty, allocated, Bool.true_eq_false, if_false, payload,
    List.take_left', List.drop_left']

theorem drain_nil {malloc : Nat → Bool} : rteipcMsgDrain malloc [] = (.empty, []) := rfl

theorem frames_length (waiting : List (List UInt8)) : waiting.length ≤ (waiting.flatMap frame).length := by
  induction waiting with
  | nil => exact Nat.le_refl _
  | cons msg rest ih =>
      simp only [List.flatMap_cons, List.length_append, List.length_cons, frame, htonl_length] at ih ⊢
      omega

/-! ## One interface at a time -/

/-- One interface is replaced, the lists and the other interfaces stay. -/
structure Replaced (st next : Daemon Table) (iface : IfacePtr) (after : Interface) : Prop where
  lists : next.domainList = st.domainList
  here : next.ifaces.get iface = some after
  elsewhere : ∀ other, other ≠ iface → next.ifaces.get other = st.ifaces.get other

section Replaced

variable {st next : Daemon Table} {iface : IfacePtr} {self after : Interface}

theorem Replaced.trans {last : Daemon Table} {final : Interface} (first : Replaced st next iface after)
    (second : Replaced next last iface final) : Replaced st last iface final :=
  ⟨second.lists.trans first.lists, second.here, fun other differ =>
    (second.elsewhere other differ).trans (first.elsewhere other differ)⟩

theorem Replaced.of_modify (change : Interface → Interface) (live : st.ifaces.get iface = some self) :
    Replaced st { st with ifaces := st.ifaces.modify iface change } iface (change self) := by
  refine ⟨rfl, ?_, fun other differ => Heap.get_modify_of_ne differ⟩
  rw [Heap.get_modify_self, live, Option.map_some]

theorem Replaced.of_lib (live : st.ifaces.get iface = some self) (lib : EpState Table DaemonCb IfacePtr) :
    Replaced st { st with lib } iface self := ⟨rfl, live, fun _ _ => rfl⟩

end Replaced

/-- An interface whose handler is the raw one. -/
def RawIface (st : Daemon Table) (iface : IfacePtr) : Prop :=
  ∃ self, st.ifaces.get iface = some self ∧ self.managed = 0

theorem Replaced.rawIface {st next : Daemon Table} {iface : IfacePtr} {self after : Interface}
    (replaced : Replaced st next iface after) (live : st.ifaces.get iface = some self)
    (managed : after.managed = self.managed) {other : IfacePtr} : RawIface next other ↔ RawIface st other := by
  unfold RawIface
  by_cases same : other = iface
  · subst same
    rw [replaced.here, live]
    simp [managed]
  · rw [replaced.elsewhere other same]

section Traffic

variable {emitLib : EmitLib} {st next : Daemon Table} {iface partner : IfacePtr} {self : Interface}
  {traffic : Traffic} {data : List UInt8}

theorem rawHandlerTraffic_waits {memory : Memory} (live : st.ifaces.get iface = some self)
    (alone : self.partner = none)
    (returned : rawHandlerTraffic emitLib memory st iface data = .ok (next, traffic)) :
    Replaced st next iface (ifacePending self memory data) ∧ traffic = [] := by
  obtain ⟨same, read, returned⟩ := bind_ok returned
  obtain rfl := Option.some.inj (live.symm.trans (deref_ok read))
  rw [alone] at returned
  obtain ⟨rfl, rfl⟩ := Prod.mk.inj (Except.ok.inj returned)
  exact ⟨.of_modify _ live, rfl⟩

theorem rawHandlerTraffic_goes {memory : Memory} (live : st.ifaces.get iface = some self)
    (routed : self.partner = some partner) (raw : RawIface st partner)
    (returned : rawHandlerTraffic emitLib memory st iface data = .ok (next, traffic)) :
    Replaced st next iface self ∧ traffic = [(iface, data)] := by
  obtain ⟨same, read, returned⟩ := bind_ok returned
  obtain rfl := Option.some.inj (live.symm.trans (deref_ok read))
  rw [routed] at returned
  obtain ⟨other, peer, returned⟩ := bind_ok returned
  obtain ⟨found, otherLive, otherRaw⟩ := raw
  obtain rfl := Option.some.inj (otherLive.symm.trans (deref_ok peer))
  rw [if_pos otherRaw] at returned
  obtain ⟨sent, -, returned⟩ := bind_ok returned
  obtain ⟨rfl, rfl⟩ := Prod.mk.inj (Except.ok.inj returned)
  exact ⟨.of_lib live sent.1, rfl⟩

theorem triggerTraffic_drains {memory : Nat → Memory} (allocated : ∀ round size, (memory round).malloc size = true)
    {waiting : List (List UInt8)} (framed : ∀ msg ∈ waiting, Framed msg) {fuel : Nat} (enough : waiting.length < fuel)
    (live : st.ifaces.get iface = some self) (queue : self.pending = waiting.flatMap frame)
    (routed : self.partner = some partner) (raw : RawIface st partner)
    (returned : triggerTraffic emitLib memory iface fuel st = .ok (next, traffic)) :
    Replaced st next iface { self with pending := [] } ∧ traffic = waiting.map (iface, ·) := by
  induction waiting generalizing st next self traffic fuel with
  | nil =>
      cases fuel with
      | zero => nomatch enough
      | succ fuel =>
          obtain ⟨same, read, returned⟩ := bind_ok returned
          obtain rfl := Option.some.inj (live.symm.trans (deref_ok read))
          have empty : self.pending = [] := queue
          rw [empty, drain_nil] at returned
          obtain ⟨rfl, rfl⟩ := Prod.mk.inj (Except.ok.inj returned)
          have unchanged : { self with pending := [] } = self := by rw [← empty]
          rw [unchanged]
          exact ⟨.of_lib live st.lib, rfl⟩
  | cons msg rest ih =>
      cases fuel with
      | zero => nomatch enough
      | succ fuel =>
          obtain ⟨same, read, returned⟩ := bind_ok returned
          obtain rfl := Option.some.inj (live.symm.trans (deref_ok read))
          rw [queue, List.flatMap_cons, drain_framed (allocated fuel) (framed msg List.mem_cons_self)] at returned
          obtain ⟨⟨handled, sent⟩, handler, returned⟩ := bind_ok returned
          obtain ⟨⟨last, later⟩, loop, returned⟩ := bind_ok returned
          obtain ⟨rfl, rfl⟩ := Prod.mk.inj (Except.ok.inj returned)
          have drained := Replaced.of_modify (fun self => { self with pending := rest.flatMap frame }) live
          have stillRaw := (drained.rawIface live rfl).mpr raw
          obtain ⟨passed, rfl⟩ := rawHandlerTraffic_goes drained.here routed stillRaw handler
          obtain ⟨emptied, rfl⟩ := ih (fun msg member => framed msg (List.mem_cons_of_mem _ member))
            (Nat.lt_of_succ_lt_succ enough) passed.here rfl routed
            ((passed.rawIface drained.here rfl).mpr stillRaw) loop
          exact ⟨(drained.trans passed).trans emptied, rfl⟩

theorem routeSideTraffic_drains {memory : Nat → Memory}
    (allocated : ∀ round size, (memory round).malloc size = true) {waiting : List (List UInt8)}
    (framed : ∀ msg ∈ waiting, Framed msg) (live : st.ifaces.get iface = some self) (raw : self.managed = 0)
    (queue : self.pending = waiting.flatMap frame) (partnerRaw : RawIface st partner)
    (returned : routeSideTraffic emitLib memory st iface partner = .ok (next, traffic)) :
    Replaced st next iface { self with partner := some partner, pending := [] } ∧
      traffic = waiting.map (iface, ·) := by
  obtain ⟨same, read, returned⟩ := bind_ok returned
  obtain rfl := Option.some.inj (live.symm.trans (deref_ok read))
  rw [if_pos raw] at returned
  obtain ⟨routed, read, returned⟩ := bind_ok returned
  have replaced := Replaced.of_modify (fun self => { self with partner := some partner }) live
  obtain rfl := Option.some.inj (replaced.here.symm.trans (deref_ok read))
  have enough : waiting.length < self.pending.length + 1 := by
    rw [queue]
    exact Nat.lt_succ_of_le (frames_length waiting)
  obtain ⟨emptied, rfl⟩ := triggerTraffic_drains allocated framed enough replaced.here queue rfl
    ((replaced.rawIface live rfl).mpr partnerRaw) returned
  exact ⟨replaced.trans emptied, rfl⟩

theorem catLoopTraffic_drains {memory : CatMemory} (allocated : ∀ round size, memory.malloc round size = true)
    {busType : BitVec 32} {waiting : List (List UInt8)} (framed : ∀ msg ∈ waiting, Framed msg) {fuel : Nat}
    (enough : waiting.length < fuel) {buf last : Evbuffer} {whole : Bool} {pending : Evbuffer}
    (returned : catLoopTraffic memory busType iface fuel (waiting.flatMap frame) buf =
      .ok ((whole, pending, last), traffic)) :
    pending = [] ∧ traffic = waiting.map (iface, ·) := by
  induction waiting generalizing fuel buf traffic with
  | nil =>
      cases fuel with
      | zero => nomatch enough
      | succ fuel =>
          rw [catLoopTraffic, List.flatMap_nil, drain_nil] at returned
          obtain ⟨same, rfl⟩ := Prod.mk.inj (Except.ok.inj returned)
          exact ⟨((Prod.mk.inj (Prod.mk.inj same).2).1).symm, rfl⟩
  | cons msg rest ih =>
      cases fuel with
      | zero => nomatch enough
      | succ fuel =>
          rw [catLoopTraffic, List.flatMap_cons, drain_framed (allocated fuel) (framed msg List.mem_cons_self)]
            at returned
          obtain ⟨line, -, returned⟩ := bind_ok returned
          obtain ⟨⟨result, later⟩, loop, returned⟩ := bind_ok returned
          obtain ⟨rfl, rfl⟩ := Prod.mk.inj (Except.ok.inj returned)
          obtain ⟨rfl, rfl⟩ := ih (fun msg member => framed msg (List.mem_cons_of_mem _ member))
            (Nat.lt_of_succ_lt_succ enough) loop
          exact ⟨rfl, rfl⟩

end Traffic

/-! ## Accounts -/

def messagesOf (iface : IfacePtr) (log : Traffic) : List (List UInt8) :=
  (log.filter fun entry => entry.1 = iface).map Prod.snd

@[simp] theorem messagesOf_nil {iface : IfacePtr} : messagesOf iface [] = [] := rfl

@[simp] theorem messagesOf_append {iface : IfacePtr} {first second : Traffic} :
    messagesOf iface (first ++ second) = messagesOf iface first ++ messagesOf iface second := by
  simp [messagesOf]

theorem messagesOf_self (iface : IfacePtr) (msgs : List (List UInt8)) :
    messagesOf iface (msgs.map (iface, ·)) = msgs := by
  simp [messagesOf, List.filter_map, Function.comp_def]

theorem messagesOf_other {iface other : IfacePtr} (differ : other ≠ iface) (msgs : List (List UInt8)) :
    messagesOf other (msgs.map (iface, ·)) = [] := by
  simp [messagesOf, List.filter_map, Function.comp_def, Ne.symm differ]

/-- The queue is the frames of what waits in a sound account. -/
def Accounted (self : Interface) (arrived gone : List (List UInt8)) : Prop :=
  ∃ waiting, (∀ msg ∈ waiting, Framed msg) ∧ self.pending = waiting.flatMap frame ∧
    (Ledger.mk arrived gone waiting self.partner.isSome).Sound

section Accounted

variable {self : Interface} {arrived gone : List (List UInt8)} {data : List UInt8}

theorem Accounted.waits (account : Accounted self arrived gone) (alone : self.partner = none) {memory : Memory}
    (memoryFound : memory.evbuffer = true) (framed : Framed data) :
    Accounted (ifacePending self memory data) (arrived ++ [data]) gone := by
  obtain ⟨waiting, allFramed, queue, sound⟩ := account
  rw [ifacePending, if_pos memoryFound]
  refine ⟨waiting ++ [data], ?_, ?_, ?_⟩
  · intro msg member
    rcases List.mem_append.mp member with old | new
    · exact allFramed msg old
    · rw [List.mem_singleton.mp new]
      exact framed
  · simp [queue, frame]
  · rw [alone] at sound ⊢
    simpa [Ledger.arrive] using sound.arrive data

theorem Accounted.goes (account : Accounted self arrived gone) {partner : IfacePtr}
    (routed : self.partner = some partner) : Accounted self (arrived ++ [data]) (gone ++ [data]) := by
  obtain ⟨waiting, allFramed, queue, sound⟩ := account
  refine ⟨waiting, allFramed, queue, ?_⟩
  rw [routed] at sound ⊢
  simpa [Ledger.arrive] using sound.arrive data

theorem Accounted.unrouted (account : Accounted self arrived gone) : Accounted self.unrouted arrived gone := by
  obtain ⟨waiting, allFramed, queue, sound⟩ := account
  exact ⟨waiting, allFramed, queue, sound.forget⟩

end Accounted

/-! ## Runs -/

/-- The daemon with a record of what arrived at its raw interfaces, and of what
they handed to `rteipc_xfer` or `cat` drained. -/
structure Watched (Table : Type) where
  daemon : Daemon Table
  arrived : Traffic
  gone : Traffic

def Watched.start (st : Daemon Table) : Watched Table := ⟨st, [], []⟩

inductive PendingCall where
  | arrival (memory : Memory) (iface : IfacePtr) (data : List UInt8)
  | rtecmdRoute (left right : Nat → Memory) (d : RtemgrData)
  | rtecmdForget (d : RtemgrData)
  | rtecmdCat (memory : CatMemory) (d : RtemgrData)

/-- The daemon's own code for a call. -/
def Daemon.pendingCall (emitLib : EmitLib) (st : Daemon Table) : PendingCall → Except Fault (Daemon Table)
  | .arrival memory iface data => ifaceRawHandler emitLib memory st iface data
  | .rtecmdRoute left right d => (doRtecmdRoute emitLib st left right d).map Prod.fst
  | .rtecmdForget d => (doRtecmdForget st d).map Prod.fst
  | .rtecmdCat memory d => (doRtecmdCat memory st d).map Prod.fst

def Watched.call (emitLib : EmitLib) (st : Watched Table) : PendingCall → Except Fault (Watched Table)
  | .arrival memory iface data =>
      (rawHandlerTraffic emitLib memory st.daemon iface data).map fun done =>
        ⟨done.1, st.arrived ++ [(iface, data)], st.gone ++ done.2⟩
  | .rtecmdRoute left right d =>
      (routeTraffic emitLib st.daemon left right d).map fun done => ⟨done.1, st.arrived, st.gone ++ done.2⟩
  | .rtecmdForget d => (doRtecmdForget st.daemon d).map fun done => ⟨done.1, st.arrived, st.gone⟩
  | .rtecmdCat memory d =>
      (catTraffic memory st.daemon d).map fun done => ⟨done.1.1, st.arrived, st.gone ++ done.2⟩

theorem map_erase {α β γ : Type} {first : Except Fault α} {change : α → β} {erase : β → γ} :
    (first.map change).map erase = first.map fun value => erase (change value) := by
  cases first <;> rfl

/-- Watching the daemon does not change what it does. -/
theorem watched_call_daemon (emitLib : EmitLib) (st : Watched Table) (call : PendingCall) :
    (st.call emitLib call).map Watched.daemon = st.daemon.pendingCall emitLib call := by
  cases call with
  | arrival memory iface data =>
      rw [Watched.call, map_erase]
      exact rawHandlerTraffic_erase _ _ _ _ _
  | rtecmdRoute left right d =>
      rw [Watched.call, map_erase]
      exact routeTraffic_erase _ _ _ _ _
  | rtecmdForget d =>
      rw [Watched.call, map_erase]
      rfl
  | rtecmdCat memory d =>
      rw [Watched.call, map_erase, Daemon.pendingCall, ← catTraffic_erase, map_erase]

def NamesRaw (st : Daemon Table) (d : RtemgrData) : Prop :=
  ∀ intf ∈ d.interfaces, ∀ iface, ifaceOf st intf = some iface → RawIface st iface

/-- A call among the raw interfaces whose allocations succeed. -/
def AmongRaw (st : Daemon Table) : PendingCall → Prop
  | .arrival memory iface data => RawIface st iface ∧ memory.evbuffer = true ∧ Drained data
  | .rtecmdRoute left right d =>
      NamesRaw st d ∧ (∀ round size, (left round).malloc size = true) ∧ ∀ round size, (right round).malloc size = true
  | .rtecmdForget d => NamesRaw st d
  | .rtecmdCat memory d =>
      NamesRaw st d ∧ memory.evbuffer = true ∧ (∀ round size, memory.malloc round size = true) ∧ memory.value = true

def PendingStep (emitLib : EmitLib) (st : Watched Table) (call : PendingCall) (next : Watched Table) : Prop :=
  AmongRaw st.daemon call ∧ st.call emitLib call = .ok next

/-- Every raw interface has its account, and only raw partners. -/
structure PendingInv (st : Watched Table) : Prop where
  accounted : ∀ iface self, st.daemon.ifaces.get iface = some self → self.managed = 0 →
    Accounted self (messagesOf iface st.arrived) (messagesOf iface st.gone)
  partners : ∀ iface self partner, st.daemon.ifaces.get iface = some self → self.managed = 0 →
    self.partner = some partner → RawIface st.daemon partner

section Steps

variable {emitLib : EmitLib} {st : Watched Table} {next : Daemon Table} {iface : IfacePtr} {self after : Interface}
  {traffic : Traffic}

/-- Replacing one interface keeps the accounts, if its own new one is good and
nothing is recorded for another. -/
theorem PendingInv.replace (inv : PendingInv st) (replaced : Replaced st.daemon next iface after)
    (live : st.daemon.ifaces.get iface = some self) (managed : after.managed = self.managed)
    (partner : ∀ partner, after.partner = some partner → RawIface st.daemon partner) {arrived gone : Traffic}
    (account : Accounted after (messagesOf iface arrived) (messagesOf iface gone))
    (others : ∀ other, other ≠ iface →
      messagesOf other arrived = messagesOf other st.arrived ∧ messagesOf other gone = messagesOf other st.gone) :
    PendingInv ⟨next, arrived, gone⟩ := by
  refine ⟨fun other found foundLive raw => ?_, fun other found peer foundLive raw names => ?_⟩
  · by_cases same : other = iface
    · subst same
      obtain rfl := Option.some.inj (replaced.here.symm.trans foundLive)
      exact account
    · obtain ⟨sameArrived, sameGone⟩ := others other same
      simp only [sameArrived, sameGone]
      exact inv.accounted other found ((replaced.elsewhere other same).symm.trans foundLive) raw
  · refine (replaced.rawIface live managed).mpr ?_
    by_cases same : other = iface
    · subst same
      obtain rfl := Option.some.inj (replaced.here.symm.trans foundLive)
      exact partner peer names
    · exact inv.partners other found peer ((replaced.elsewhere other same).symm.trans foundLive) raw names

theorem PendingInv.unrouted (inv : PendingInv st) (raw : RawIface st.daemon iface) :
    PendingInv ⟨{ st.daemon with ifaces := st.daemon.ifaces.modify iface .unrouted }, st.arrived, st.gone⟩ := by
  obtain ⟨self, live, selfRaw⟩ := raw
  exact inv.replace (.of_modify Interface.unrouted live) live rfl (fun partner names => nomatch names)
    (inv.accounted iface self live selfRaw).unrouted fun other differ => ⟨rfl, rfl⟩

theorem PendingInv.arrival (inv : PendingInv st) {memory : Memory} {data : List UInt8}
    (raw : RawIface st.daemon iface) (memoryFound : memory.evbuffer = true) (drained : Drained data)
    (returned : rawHandlerTraffic emitLib memory st.daemon iface data = .ok (next, traffic)) :
    PendingInv ⟨next, st.arrived ++ [(iface, data)], st.gone ++ traffic⟩ := by
  obtain ⟨self, live, selfRaw⟩ := raw
  have account := inv.accounted iface self live selfRaw
  have one : messagesOf iface [(iface, data)] = [data] := messagesOf_self iface [data]
  have others : ∀ other, other ≠ iface → messagesOf other [(iface, data)] = [] :=
    fun other differ => messagesOf_other differ [data]
  cases routed : self.partner with
  | none =>
      obtain ⟨replaced, rfl⟩ := rawHandlerTraffic_waits live routed returned
      have pending : ifacePending self memory data =
          { self with pending := self.pending ++ (htonl data.length ++ data) } := if_pos memoryFound
      refine inv.replace replaced live (by rw [pending]) (fun partner names => ?_) ?_ fun other differ => ?_
      · rw [pending] at names
        exact nomatch routed.symm.trans names
      · simpa only [messagesOf_append, one, messagesOf_nil, List.append_nil] using
          account.waits routed memoryFound drained.framed
      · simp [others other differ]
  | some partner =>
      have partnerRaw := inv.partners iface self partner live selfRaw routed
      obtain ⟨replaced, rfl⟩ := rawHandlerTraffic_goes live routed partnerRaw returned
      refine inv.replace replaced live rfl (inv.partners iface self · live selfRaw) ?_ fun other differ => ?_
      · simpa only [messagesOf_append, one] using account.goes routed
      · simp [others other differ]

theorem PendingInv.drained (inv : PendingInv st) (live : st.daemon.ifaces.get iface = some self)
    (replaced : Replaced st.daemon next iface after) (managed : after.managed = self.managed)
    (partner : ∀ partner, after.partner = some partner → RawIface st.daemon partner) (empty : after.pending = [])
    {waiting : List (List UInt8)}
    (sound : (Ledger.mk (messagesOf iface st.arrived) (messagesOf iface st.gone) waiting self.partner.isSome).Sound) :
    PendingInv ⟨next, st.arrived, st.gone ++ waiting.map (iface, ·)⟩ := by
  refine inv.replace replaced live managed partner ⟨[], nofun, empty, ?_⟩ fun other differ => ?_
  · rw [messagesOf_append, messagesOf_self]
    exact ⟨sound.flush.conserved, fun _ => rfl⟩
  · simp [messagesOf_other differ]

theorem PendingInv.routeSide (inv : PendingInv st) {memory : Nat → Memory} {other : IfacePtr}
    (allocated : ∀ round size, (memory round).malloc size = true) (raw : RawIface st.daemon iface)
    (otherRaw : RawIface st.daemon other)
    (returned : routeSideTraffic emitLib memory st.daemon iface other = .ok (next, traffic)) :
    PendingInv ⟨next, st.arrived, st.gone ++ traffic⟩ ∧ ∀ kept, RawIface st.daemon kept → RawIface next kept := by
  obtain ⟨self, live, selfRaw⟩ := raw
  obtain ⟨waiting, framed, queue, sound⟩ := inv.accounted iface self live selfRaw
  obtain ⟨replaced, rfl⟩ := routeSideTraffic_drains allocated framed live selfRaw queue otherRaw returned
  refine ⟨inv.drained live replaced rfl (fun partner names => ?_) rfl sound,
    fun kept => (replaced.rawIface live rfl).mpr⟩
  obtain rfl := Option.some.inj names
  exact otherRaw

theorem PendingInv.route (inv : PendingInv st) {left right : Nat → Memory} {d : RtemgrData}
    (among : AmongRaw st.daemon (.rtecmdRoute left right d))
    (returned : routeTraffic emitLib st.daemon left right d = .ok (next, traffic)) :
    PendingInv ⟨next, st.arrived, st.gone ++ traffic⟩ := by
  obtain ⟨named, leftMemory, rightMemory⟩ := among
  have nothing : .ok (st.daemon, []) = (.ok (next, traffic) : Except Fault (Daemon Table × Traffic)) →
      PendingInv ⟨next, st.arrived, st.gone ++ traffic⟩ := by
    intro same
    obtain ⟨rfl, rfl⟩ := Prod.mk.inj (Except.ok.inj same)
    rw [List.append_nil]
    exact inv
  unfold routeTraffic at returned
  split at returned
  next lh rh pair =>
    split at returned
    next l r foundLeft foundRight =>
      split at returned
      next => exact nothing returned
      next differ =>
        obtain ⟨⟨middle, first⟩, leftSide, returned⟩ := bind_ok returned
        obtain ⟨⟨last, second⟩, rightSide, returned⟩ := bind_ok returned
        obtain ⟨rfl, rfl⟩ := Prod.mk.inj (Except.ok.inj returned)
        have leftRaw := named lh (by simp [pair]) l foundLeft
        have rightRaw := named rh (by simp [pair]) r foundRight
        obtain ⟨middleInv, kept⟩ := inv.routeSide leftMemory leftRaw rightRaw leftSide
        obtain ⟨lastInv, -⟩ := middleInv.routeSide rightMemory (kept r rightRaw) (kept l leftRaw) rightSide
        rwa [List.append_assoc] at lastInv
    next => exact nothing returned
  next => exact nothing returned

theorem PendingInv.forget (inv : PendingInv st) {d : RtemgrData} {ret : Int} (named : NamesRaw st.daemon d)
    (returned : doRtecmdForget st.daemon d = .ok (next, ret)) : PendingInv ⟨next, st.arrived, st.gone⟩ := by
  obtain rfl | ⟨intf, member, iface, found, forget⟩ := doRtecmdForget_ok returned
  · exact inv
  have raw := named intf member iface found
  obtain ⟨self, ifaces, live, rfl, changed⟩ := ifaceForget_ok forget
  obtain ⟨same, sameLive, selfRaw⟩ := raw
  obtain rfl := Option.some.inj (live.symm.trans sameLive)
  obtain ⟨-, ⟨-, rfl⟩ | ⟨partner, routed, rfl⟩⟩ | ⟨managed, -⟩ := changed
  · exact inv
  · have partnerRaw := inv.partners iface self partner live selfRaw routed
    have ⟨peer, peerLive, _⟩ := partnerRaw
    have replaced := Replaced.of_modify Interface.unrouted peerLive
    exact (inv.unrouted partnerRaw).unrouted ((replaced.rawIface peerLive rfl).mpr ⟨self, live, selfRaw⟩)
  · exact (managed selfRaw).elim

theorem PendingInv.cat (inv : PendingInv st) {memory : CatMemory} {d : RtemgrData} {reply : RtemgrData × Int}
    (among : AmongRaw st.daemon (.rtecmdCat memory d))
    (returned : catTraffic memory st.daemon d = .ok ((next, reply), traffic)) :
    PendingInv ⟨next, st.arrived, st.gone ++ traffic⟩ := by
  obtain ⟨named, memoryFound, allocated, -⟩ := among
  unfold catTraffic at returned
  split at returned
  next => nomatch returned
  next intf rest interfaces =>
    split at returned
    next =>
      obtain ⟨same, rfl⟩ := Prod.mk.inj (Except.ok.inj returned)
      obtain ⟨rfl, -⟩ := Prod.mk.inj same
      rwa [List.append_nil]
    next iface found =>
      obtain ⟨self, read, returned⟩ := bind_ok returned
      have live := deref_ok read
      obtain ⟨same, sameLive, selfRaw⟩ := named intf (by simp [interfaces]) iface found
      obtain rfl := Option.some.inj (live.symm.trans sameLive)
      split at returned
      next partner routed =>
        obtain ⟨_, -, returned⟩ := bind_ok returned
        obtain ⟨same, rfl⟩ := Prod.mk.inj (Except.ok.inj returned)
        obtain ⟨rfl, -⟩ := Prod.mk.inj same
        rwa [List.append_nil]
      next alone =>
        rw [memoryFound] at returned
        obtain ⟨⟨⟨whole, pending, buf⟩, drained⟩, loop, returned⟩ := bind_ok returned
        obtain ⟨waiting, framed, queue, sound⟩ := inv.accounted iface self live selfRaw
        have enough : waiting.length < self.pending.length + 1 := by
          rw [queue]
          exact Nat.lt_succ_of_le (frames_length waiting)
        rw [queue] at loop enough
        obtain ⟨rfl, rfl⟩ := catLoopTraffic_drains allocated framed enough loop
        have replaced := Replaced.of_modify (fun self => { self with pending := [] }) live
        have drained := inv.drained live replaced rfl (fun partner names => nomatch alone.symm.trans names) rfl sound
        cases whole with
        | false =>
            obtain ⟨same, rfl⟩ := Prod.mk.inj (Except.ok.inj returned)
            obtain ⟨rfl, -⟩ := Prod.mk.inj same
            exact drained
        | true =>
            obtain ⟨same, rfl⟩ := Prod.mk.inj (Except.ok.inj returned)
            obtain ⟨rfl, -⟩ := Prod.mk.inj same
            exact drained

theorem PendingInv.step (inv : PendingInv st) {call : PendingCall} {last : Watched Table}
    (taken : PendingStep emitLib st call last) : PendingInv last := by
  obtain ⟨among, returned⟩ := taken
  cases call with
  | arrival memory iface data =>
      obtain ⟨⟨next, traffic⟩, handled, rfl⟩ := map_ok returned
      exact inv.arrival among.1 among.2.1 among.2.2 handled
  | rtecmdRoute left right d =>
      obtain ⟨⟨next, traffic⟩, routed, rfl⟩ := map_ok returned
      exact inv.route among routed
  | rtecmdForget d =>
      obtain ⟨⟨next, ret⟩, forgotten, rfl⟩ := map_ok returned
      exact inv.forget among forgotten
  | rtecmdCat memory d =>
      obtain ⟨⟨⟨next, reply⟩, traffic⟩, drained, rfl⟩ := map_ok returned
      exact inv.cat among drained

end Steps

/-! ## Before anything arrives -/

def Quiet (st : Daemon Table) : Prop :=
  ∀ iface self, st.ifaces.get iface = some self → self.partner = none ∧ self.pending = []

section Quiet

variable {tbl : DescTable Table} {emitLib : EmitLib} {st next : Daemon Table} {iface : IfacePtr}

theorem Quiet.modify (quiet : Quiet st) (change : Interface → Interface)
    (kept : ∀ self : Interface, self.partner = none → (change self).partner = none ∧ (change self).pending = self.pending) :
    Quiet { st with ifaces := st.ifaces.modify iface change } := by
  intro other self live
  rw [Heap.get_modify, Option.map_eq_some_iff] at live
  obtain ⟨before, found, rfl⟩ := live
  obtain ⟨alone, empty⟩ := quiet other before found
  split
  next => exact ⟨(kept before alone).1, (kept before alone).2.trans empty⟩
  next => exact ⟨alone, empty⟩

theorem Quiet.grown (quiet : Quiet st) (domain : Nat) : Quiet (grown st domain) := by
  intro other self live
  by_cases new : other = st.ifaces.next
  · subst new
    obtain rfl := Option.some.inj (Heap.get_alloc_next.symm.trans live)
    exact ⟨rfl, rfl⟩
  · exact quiet other self ((Heap.get_alloc_of_ne new).symm.trans live)

theorem Quiet.ifaceBuild (quiet : Quiet st) {outcome : IfaceOutcome} {name path : List UInt8}
    {busType managed : BitVec 32} {ret : Int}
    (returned : ifaceBuild tbl st outcome iface name path busType managed = .ok (next, ret)) : Quiet next := by
  obtain ⟨_, _, _, _, lib, -, -, rfl, -⟩ := ifaceBuild_ok returned
  exact quiet.modify _ fun self alone => ⟨alone, rfl⟩

theorem Quiet.ifaceFree (quiet : Quiet st) (returned : ifaceFree tbl st iface = .ok next) : Quiet next := by
  obtain ⟨_, _, lib, forgotten, -, -, -, forgot, rfl⟩ := ifaceFree_ok returned
  suffices Quiet forgotten from fun other self live => this other self (Heap.get_free_some live).2
  obtain ⟨self, ifaces, -, rfl, changed⟩ := ifaceForget_ok forgot
  obtain ⟨-, ⟨-, rfl⟩ | ⟨partner, -, rfl⟩⟩ | ⟨-, rfl⟩ := changed
  · exact quiet
  · exact (quiet.modify .unrouted fun self alone => ⟨rfl, rfl⟩).modify .unrouted fun self alone => ⟨rfl, rfl⟩
  · intro other self live
    rw [forgetAll_get, Option.map_eq_some_iff] at live
    obtain ⟨before, found, rfl⟩ := live
    have old := quiet other before found
    split
    next =>
      unfold Interface.forgetting
      split
      next => exact ⟨rfl, old.2⟩
      next => exact old
    next => exact old

/-- The calls that make up the set of interfaces. -/
def DaemonCall.SetsUp : DaemonCall → Prop
  | .rtecmdOpen _ _ | .rtecmdClose _ => True
  | _ => False

theorem Quiet.step {call : DaemonCall} (quiet : Quiet st) (setsUp : call.SetsUp)
    (taken : DaemonStep tbl emitLib st call next) : Quiet next := by
  obtain ⟨ret, returned⟩ := taken
  cases call with
  | rtecmdOpen outcome d =>
      obtain ⟨rfl, -⟩ | ⟨intf, rest, domain, made, failed, -, -, -, -, build, ended⟩ := doRtecmdOpen_ok returned
      · exact quiet
      · have madeQuiet := (quiet.grown domain).ifaceBuild build
        obtain ⟨-, -, rfl⟩ | ⟨-, -, free⟩ := ended
        · exact madeQuiet
        · exact madeQuiet.ifaceFree free
  | rtecmdClose d =>
      apply closeInterfaces_keeps _ quiet (doRtecmdClose_ok returned)
      intro intf _ before after iface kept _ free
      exact kept.ifaceFree free
  | rtecmdRoute => exact setsUp.elim
  | rtecmdForget => exact setsUp.elim
  | rawData => exact setsUp.elim

theorem rtemgrd_quiet {outcome : IfaceOutcome} {ret : Int} (started : rtemgrd tbl outcome = .ok (st, ret)) :
    Quiet st := by
  have none : Quiet (Daemon.start tbl) := fun _ _ live => nomatch live
  obtain ⟨rfl, -⟩ | build := rtemgrd_ok started
  · exact none
  · have settingUp : Quiet { Daemon.start tbl with ctrlIface := some (Daemon.start tbl).ifaces.next } := none
    exact (settingUp.grown 0).ifaceBuild build

theorem rtemgrd_hubs {outcome : IfaceOutcome} {ret : Int} (started : rtemgrd tbl outcome = .ok (st, ret)) :
    HubsAlone st.partners := by
  intro iface node found isHub
  obtain ⟨-, self, live, rfl⟩ := partners_some.mp found
  exact (rtemgrd_quiet started iface self live).1

theorem Quiet.run {calls : List DaemonCall} (quiet : Quiet st) (setUp : ∀ call ∈ calls, call.SetsUp)
    (run : Reaches (DaemonStep tbl emitLib) st calls next) : Quiet next := by
  induction run with
  | nil => exact quiet
  | cons taken _ ih =>
      exact ih (quiet.step (setUp _ List.mem_cons_self) taken) fun call member =>
        setUp call (List.mem_cons_of_mem _ member)

theorem Quiet.pendingInv (quiet : Quiet st) : PendingInv (.start st) where
  accounted iface self live _ := by
    obtain ⟨alone, empty⟩ := quiet iface self live
    refine ⟨[], nofun, empty, ?_⟩
    rw [alone]
    exact Ledger.sound_start
  partners iface self partner live _ names := nomatch (quiet iface self live).1.symm.trans names

end Quiet

/-- In every state of a run among the raw interfaces that were set up, what an
interface has handed on followed by the frames in its queue is what arrived at
it, and with a partner its queue is empty. -/
theorem pending_in_order {tbl : DescTable Table} {emitLib : EmitLib} {outcome : IfaceOutcome}
    {start st : Daemon Table} {setup : List DaemonCall} {calls : List PendingCall} {last : Watched Table}
    {iface : IfacePtr} {self : Interface} (started : rtemgrd tbl outcome = .ok (start, 0))
    (setUp : ∀ call ∈ setup, call.SetsUp) (opened : Reaches (DaemonStep tbl emitLib) start setup st)
    (run : Reaches (PendingStep emitLib) (Watched.start st) calls last)
    (live : last.daemon.ifaces.get iface = some self) (raw : self.managed = 0) :
    (∃ waiting, (∀ msg ∈ waiting, Framed msg) ∧ self.pending = waiting.flatMap frame ∧
      messagesOf iface last.gone ++ waiting = messagesOf iface last.arrived) ∧
      (self.partner.isSome = true → self.pending = []) := by
  have quiet := (rtemgrd_quiet started).run setUp opened
  have inv : PendingInv last := run.invariant (fun _ _ _ inv taken => inv.step taken) quiet.pendingInv
  obtain ⟨waiting, framed, queue, sound⟩ := inv.accounted iface self live raw
  refine ⟨⟨waiting, framed, queue, sound.conserved⟩, fun routed => ?_⟩
  have none : waiting = [] := sound.flushed routed
  rw [queue, none, List.flatMap_nil]

def plentyOfMemory : Nat → Memory := fun _ => ⟨fun _ => true, true, true, true, true⟩

theorem Drained.of_deliverable {data : List UInt8} (deliverable : Deliverable data) : Drained data :=
  ⟨allocates, _, [], drain_frame deliverable []⟩

theorem RawIface.of_managed {st : Daemon Table} {iface : IfacePtr}
    (raw : (st.ifaces.get iface).map Interface.managed = some 0) : RawIface st iface :=
  Option.map_eq_some_iff.mp raw

/-- The state a call that is evaluated leads to. -/
def Watched.after (st : Watched Table) (emitLib : EmitLib) (call : PendingCall) : Watched Table :=
  (st.call emitLib call).toOption.getD st

theorem watched_after {st : Watched Table} {emitLib : EmitLib} {call : PendingCall}
    (returns : (st.call emitLib call).toBool = true) : st.call emitLib call = .ok (st.after emitLib call) := by
  unfold Watched.after
  cases called : st.call emitLib call with
  | error fault =>
      rw [called] at returns
      nomatch returns
  | ok next => rfl

/-- Two messages arrive at `a` before it is routed to `b`, and one after. -/
def arrivalsAndRoute : List PendingCall :=
  [.arrival (plentyOfMemory 0) 1 [7], .arrival (plentyOfMemory 0) 1 [8, 9],
    .rtecmdRoute plentyOfMemory plentyOfMemory (rawPacket ["a", "b"]), .arrival (plentyOfMemory 0) 1 [10]]

def openPair : List DaemonCall :=
  [.rtecmdOpen allSucceeds (rawPacket ["a"]), .rtecmdOpen allSucceeds (rawPacket ["b"])]

theorem pending_in_order_pair : ∃ st last self,
    Reaches (DaemonStep dtblTable noEmit) Daemon.started openPair st ∧
      Reaches (PendingStep noEmit) (Watched.start st) arrivalsAndRoute last ∧
      last.daemon.ifaces.get 1 = some self ∧ messagesOf 1 last.gone = [[7], [8, 9], [10]] ∧
      (∃ waiting, (∀ msg ∈ waiting, Framed msg) ∧ self.pending = waiting.flatMap frame ∧
        messagesOf 1 last.gone ++ waiting = messagesOf 1 last.arrived) ∧
      (self.partner.isSome = true → self.pending = []) := by
  have setUp : ∀ call ∈ openPair, call.SetsUp := by simp [openPair, DaemonCall.SetsUp]
  have opened : Reaches (DaemonStep dtblTable noEmit) Daemon.started openPair ((Daemon.started.opened "a").opened "b") :=
    .cons (opened_step (by decide +kernel)) (.cons (opened_step (by decide +kernel)) (.nil _))
  have ran : ∃ last, Reaches (PendingStep noEmit) (Watched.start ((Daemon.started.opened "a").opened "b"))
      arrivalsAndRoute last ∧ RawIface last.daemon 1 ∧ messagesOf 1 last.gone = [[7], [8, 9], [10]] := by
    refine ⟨_, .cons ⟨⟨.of_managed ?_, rfl, .of_deliverable ⟨by decide, by decide⟩⟩, watched_after ?_⟩
      (.cons ⟨⟨.of_managed ?_, rfl, .of_deliverable ⟨by decide, by decide⟩⟩, watched_after ?_⟩
        (.cons ⟨⟨?named, fun _ _ => rfl, fun _ _ => rfl⟩, watched_after ?_⟩
          (.cons ⟨⟨.of_managed ?_, rfl, .of_deliverable ⟨by decide, by decide⟩⟩, watched_after ?_⟩ (.nil _)))),
      .of_managed ?_, ?_⟩
    case named =>
      intro intf member iface found
      rcases List.mem_cons.mp member with rfl | member
      · obtain rfl : 1 = iface := Option.some.inj (Eq.trans (by decide +kernel) found)
        exact .of_managed (by decide +kernel)
      · obtain rfl := List.mem_singleton.mp member
        obtain rfl : 2 = iface := Option.some.inj (Eq.trans (by decide +kernel) found)
        exact .of_managed (by decide +kernel)
    all_goals decide +kernel
  obtain ⟨last, run, ⟨self, live, raw⟩, gone⟩ := ran
  exact ⟨_, last, self, opened, run, live, gone, pending_in_order rtemgrd_started setUp opened run live raw⟩

end Rteipc
