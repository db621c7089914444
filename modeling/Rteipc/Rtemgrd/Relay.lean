import Rteipc.Rtemgrd.Pending
import Rteipc.Rtemgrd.Steps

namespace Rteipc

/-! `loop_on_data` at the loops of the daemon, and what it makes of the bytes for
two raw interfaces that are routed to each other. -/

open Data

section Relay

variable {Table : Type} (tbl : DescTable Table) (lib : PacketLib) (self : EpPtr) (memory : Nat → CtlMemory) (raw : Nat → Memory)

/-- The callback may free the loop, which the next round looks at. -/
def loopRounds : Nat → Evbuffer → Daemon Table → Except Fault (Daemon Table × Evbuffer)
  | 0, buf, st => .ok (st, buf)
  | fuel + 1, buf, st =>
      match rteipcMsgDrain (raw fuel).malloc buf with
      | (.message _ msg, buf) =>
          match st.lib.loList.find? fun lo => lo.self = self with
          | none => .error .useAfterFree
          | some lo =>
              match lo.cb with
              | none => loopRounds fuel buf st
              | some .defaultDomainHandler => do
                  let handled ← defaultDomainHandler tbl lib st ⟨memory fuel, raw fuel, lo, msg⟩
                  loopRounds fuel buf handled.1
      | _ => .ok (st, buf)

/-- The bufferevent is held until its callback returns, so the input stays valid
when the endpoint is closed meanwhile. Nothing else is written to it. -/
def loopOnData (st : Daemon Table) : Except Fault (Daemon Table) := do
  let core ← deref st.lib.cores self
  match core.bev with
  | none => .ok st
  | some bev => do
      let half ← deref st.lib.bevs bev
      let (st, input) ← loopRounds tbl lib self memory raw (half.input.length + 1) half.input st
      .ok { st with lib := { st.lib with bevs := st.lib.bevs.modify bev fun half => { half with input } } }

end Relay

/-! ## Two raw interfaces -/

/-- A raw interface with its loop and the halves of the pair between the loop
and the endpoint of the backend. -/
structure RawEnd where
  iface : IfacePtr
  lo : Loop DaemonCb IfacePtr
  loopBev : BevPtr
  backendBev : BevPtr

/-- What waits in the halves and in the queue of a raw interface. -/
structure EndQueues where
  loop : Evbuffer
  pending : Evbuffer
  backend : Evbuffer

def EndQueues.none : EndQueues := ⟨[], [], []⟩

/-- The interface is a raw one with this partner, its loop is on the list under
its name and calls back with it, and the queues are as given. -/
structure RawEnd.At {Table : Type} (own : RawEnd) (st : Daemon Table) (partner : Option IfacePtr) (queues : EndQueues) :
    Prop where
  iface : ∃ self, st.ifaces.get own.iface = some self ∧ self.managed = 0 ∧ self.handler = some .raw ∧
    self.name = own.lo.name ∧ self.partner = partner ∧ self.pending = queues.pending
  found : st.lib.loList.find? (fun lo => lo.self = own.lo.self) = some own.lo
  named : lookupLo st.lib.loList own.lo.name = some own.lo
  cb : own.lo.cb = some .defaultDomainHandler
  arg : own.lo.arg = some own.iface
  other : strmatch own.lo.name rtemgrdCtlport = false
  core : ∃ core, st.lib.cores.get own.lo.self = some core ∧ core.bev = some own.loopBev
  loop : st.lib.bevs.get own.loopBev = some ⟨some own.backendBev, queues.loop⟩
  backend : st.lib.bevs.get own.backendBev = some ⟨some own.loopBev, queues.backend⟩

def partnerOf (routed : Bool) (other : RawEnd) : Option IfacePtr := if routed then some other.iface else none

/-- Two raw interfaces, each of which may be routed to the other. -/
structure RawPair {Table : Type} (left right : RawEnd) (st : Daemon Table) (leftRouted rightRouted : Bool)
    (leftQueues rightQueues : EndQueues) : Prop where
  leftAt : left.At st (partnerOf leftRouted right) leftQueues
  rightAt : right.At st (partnerOf rightRouted left) rightQueues
  ifaces : left.iface ≠ right.iface
  halves : [left.loopBev, left.backendBev, right.loopBev, right.backendBev].Nodup

/-- Frames that come to an interface wait there, or go to the partner. -/
def handOver (routed : Bool) (bytes : Evbuffer) (own other : EndQueues) : EndQueues × EndQueues :=
  if routed then (own, { other with backend := other.backend ++ bytes })
  else ({ own with pending := own.pending ++ bytes }, other)

/-- Memory is found for every message and to queue it. -/
structure Memory.Queues (memory : Memory) : Prop where
  malloc : ∀ size, memory.malloc size = true
  evbuffer : memory.evbuffer = true

section Pair

variable {Table : Type} {tbl : DescTable Table} {lib : PacketLib} {left right own : RawEnd}
  {st next : Daemon Table} {leftRouted rightRouted routed : Bool} {leftQueues rightQueues queues other : EndQueues}
  {partner : Option IfacePtr} {bytes more : Evbuffer} {data : List UInt8}

theorem handOver_nil : handOver routed [] queues other = (queues, other) := by
  cases routed <;> simp [handOver]

theorem handOver_append : handOver routed (bytes ++ more) queues other =
    handOver routed more (handOver routed bytes queues other).1 (handOver routed bytes queues other).2 := by
  cases routed <;> simp [handOver]

/-! ## What one change does to an interface -/

theorem RawEnd.At.replaced (at_ : own.At st partner queues) {after : Interface} {newPartner : Option IfacePtr}
    {pending : Evbuffer} (lib : next.lib = st.lib) (here : next.ifaces.get own.iface = some after)
    (raw : after.managed = 0) (handler : after.handler = some .raw) (name : after.name = own.lo.name)
    (routed : after.partner = newPartner) (queue : after.pending = pending) :
    own.At next newPartner { queues with pending } := by
  refine ⟨⟨after, here, raw, handler, name, routed, queue⟩, ?_, ?_, at_.cb, at_.arg, at_.other, ?_, ?_, ?_⟩
  · rw [lib]
    exact at_.found
  · rw [lib]
    exact at_.named
  · rw [lib]
    exact at_.core
  · rw [lib]
    exact at_.loop
  · rw [lib]
    exact at_.backend

theorem RawEnd.At.elsewhere (at_ : own.At st partner queues) (lib : next.lib = st.lib)
    (same : next.ifaces.get own.iface = st.ifaces.get own.iface) : own.At next partner queues := by
  obtain ⟨self, live, raw, handler, name, routed, queue⟩ := at_.iface
  exact at_.replaced lib (same.trans live) raw handler name routed queue

theorem RawEnd.At.moved (at_ : own.At st partner queues) {loop backend : Evbuffer} (ifaces : next.ifaces = st.ifaces)
    (moved : Transferred st.lib next.lib) (first : next.lib.bevs.get own.loopBev = some ⟨some own.backendBev, loop⟩)
    (second : next.lib.bevs.get own.backendBev = some ⟨some own.loopBev, backend⟩) :
    own.At next partner { queues with loop, backend } := by
  refine ⟨?_, ?_, ?_, at_.cb, at_.arg, at_.other, ?_, first, second⟩
  · rw [ifaces]
    exact at_.iface
  · rw [moved.loList]
    exact at_.found
  · rw [moved.loList]
    exact at_.named
  · rw [moved.cores]
    exact at_.core

/-- What is written to the loop arrives at the half of the backend. -/
theorem RawEnd.At.xfer (at_ : own.At st partner queues) (data : List UInt8) :
    rteipcXfer st.lib own.lo.name data = .ok (st.lib.arrived own.backendBev (frame data), 0) := by
  obtain ⟨core, live, bev⟩ := at_.core
  simp only [rteipcXfer, at_.named, deref_live live, bev, deref_live at_.loop, bind, Except.bind]
  rfl

/-! ## What one change does to the two -/

theorem RawPair.symm (pair : RawPair left right st leftRouted rightRouted leftQueues rightQueues) :
    RawPair right left st rightRouted leftRouted rightQueues leftQueues := by
  refine ⟨pair.rightAt, pair.leftAt, pair.ifaces.symm, ?_⟩
  have halves := pair.halves
  simp only [List.nodup_cons, List.mem_cons, List.not_mem_nil, or_false, not_or] at halves ⊢
  grind

/-- The input of one half of the left interface is changed. -/
theorem RawPair.storeLoop (pair : RawPair left right st leftRouted rightRouted leftQueues rightQueues)
    (change : Bufferevent → Bufferevent) {loop : Evbuffer}
    (changed : change ⟨some left.backendBev, leftQueues.loop⟩ = ⟨some left.backendBev, loop⟩)
    (kept : ∀ half, (change half).partner = half.partner) :
    RawPair left right { st with lib := { st.lib with bevs := st.lib.bevs.modify left.loopBev change } } leftRouted
      rightRouted { leftQueues with loop } rightQueues := by
  have moved := Transferred.arrive st.lib left.loopBev change kept
  have halves := pair.halves
  simp only [List.nodup_cons, List.mem_cons, List.not_mem_nil, or_false, not_or] at halves
  obtain ⟨⟨first, second, third⟩, -⟩ := halves
  refine ⟨pair.leftAt.moved rfl moved ?_ ?_, pair.rightAt.moved rfl moved ?_ ?_, pair.ifaces, pair.halves⟩
  · exact Heap.get_modify_self.trans (by rw [pair.leftAt.loop, Option.map_some, changed])
  · exact (Heap.get_modify_of_ne (Ne.symm first)).trans pair.leftAt.backend
  · exact (Heap.get_modify_of_ne (Ne.symm second)).trans pair.rightAt.loop
  · exact (Heap.get_modify_of_ne (Ne.symm third)).trans pair.rightAt.backend

theorem RawPair.storeBackend (pair : RawPair left right st leftRouted rightRouted leftQueues rightQueues)
    (change : Bufferevent → Bufferevent) {backend : Evbuffer}
    (changed : change ⟨some left.loopBev, leftQueues.backend⟩ = ⟨some left.loopBev, backend⟩)
    (kept : ∀ half, (change half).partner = half.partner) :
    RawPair left right { st with lib := { st.lib with bevs := st.lib.bevs.modify left.backendBev change } } leftRouted
      rightRouted { leftQueues with backend } rightQueues := by
  have moved := Transferred.arrive st.lib left.backendBev change kept
  have halves := pair.halves
  simp only [List.nodup_cons, List.mem_cons, List.not_mem_nil, or_false, not_or] at halves
  obtain ⟨⟨first, -⟩, ⟨second, third⟩, -⟩ := halves
  refine ⟨pair.leftAt.moved rfl moved ?_ ?_, pair.rightAt.moved rfl moved ?_ ?_, pair.ifaces, pair.halves⟩
  · exact (Heap.get_modify_of_ne first).trans pair.leftAt.loop
  · exact Heap.get_modify_self.trans (by rw [pair.leftAt.backend, Option.map_some, changed])
  · exact (Heap.get_modify_of_ne (Ne.symm second)).trans pair.rightAt.loop
  · exact (Heap.get_modify_of_ne (Ne.symm third)).trans pair.rightAt.backend

/-- The left interface gets another partner or queue. -/
theorem RawPair.replaceLeft (pair : RawPair left right st leftRouted rightRouted leftQueues rightQueues)
    {change : Interface → Interface} {pending : Evbuffer} {routed : Bool}
    (identity : ∀ self, (change self).identity = self.identity)
    (partner : ∀ self, st.ifaces.get left.iface = some self → (change self).partner = partnerOf routed right)
    (queue : ∀ self, st.ifaces.get left.iface = some self → (change self).pending = pending) :
    RawPair left right { st with ifaces := st.ifaces.modify left.iface change } routed rightRouted
      { leftQueues with pending } rightQueues := by
  obtain ⟨self, live, raw, handler, name, -, -⟩ := pair.leftAt.iface
  have here : (st.ifaces.modify left.iface change).get left.iface = some (change self) := by
    rw [Heap.get_modify_self, live, Option.map_some]
  have same := identity self
  have sameManaged := congrArg Interface.managed same
  have sameHandler := congrArg Interface.handler same
  have sameName := congrArg Interface.name same
  refine ⟨?_, ?_, pair.ifaces, pair.halves⟩
  · exact pair.leftAt.replaced rfl here (sameManaged.trans raw) (sameHandler.trans handler) (sameName.trans name)
      (partner self live) (queue self live)
  · exact pair.rightAt.elsewhere rfl (Heap.get_modify_of_ne pair.ifaces.symm)

/-! ## The handler -/

theorem RawPair.ifaceRawHandler (emitLib : EmitLib)
    (pair : RawPair left right st leftRouted rightRouted leftQueues rightQueues) {memory : Memory}
    (queues : memory.evbuffer = true) (data : List UInt8) :
    ∃ next, Rteipc.ifaceRawHandler emitLib memory st left.iface data = .ok next ∧
      RawPair left right next leftRouted rightRouted (handOver leftRouted (frame data) leftQueues rightQueues).1
        (handOver leftRouted (frame data) leftQueues rightQueues).2 := by
  obtain ⟨self, live, raw, -, -, routed, queue⟩ := pair.leftAt.iface
  obtain ⟨other, otherLive, otherRaw, -, otherName, -, -⟩ := pair.rightAt.iface
  cases leftRouted with
  | false =>
      have alone : self.partner = none := routed
      refine ⟨{ st with ifaces := st.ifaces.modify left.iface fun self => ifacePending self memory data }, ?_, ?_⟩
      · simp only [Rteipc.ifaceRawHandler, deref_live live, alone, bind, Except.bind]
      · apply pair.replaceLeft
        · intro self
          simp only [ifacePending, queues, if_true]
          rfl
        · intro same found
          obtain rfl := Option.some.inj (live.symm.trans found)
          simp only [ifacePending, queues, if_true]
          exact routed
        · intro same found
          obtain rfl := Option.some.inj (live.symm.trans found)
          simp only [ifacePending, queues, if_true, queue]
          rfl
  | true =>
      have names : self.partner = some right.iface := routed
      refine ⟨{ st with lib := st.lib.arrived right.backendBev (frame data) }, ?_, ?_⟩
      · simp only [Rteipc.ifaceRawHandler, deref_live live, names, deref_live otherLive, otherRaw, if_true, otherName,
          pair.rightAt.xfer data, bind, Except.bind]
      · exact (pair.symm.storeBackend (fun half => { half with input := half.input ++ frame data }) rfl fun _ => rfl).symm

theorem RawPair.defaultDomainHandler (tbl : DescTable Table) (lib : PacketLib)
    (pair : RawPair left right st leftRouted rightRouted leftQueues rightQueues) (memory : CtlMemory)
    {raw : Memory} (queues : raw.evbuffer = true) (data : List UInt8) :
    ∃ next, Rteipc.defaultDomainHandler tbl lib st ⟨memory, raw, left.lo, data⟩ = .ok (next, none) ∧
      RawPair left right next leftRouted rightRouted (handOver leftRouted (frame data) leftQueues rightQueues).1
        (handOver leftRouted (frame data) leftQueues rightQueues).2 := by
  obtain ⟨self, live, -, handler, -⟩ := pair.leftAt.iface
  obtain ⟨next, handled, after⟩ := pair.ifaceRawHandler lib.toEmitLib queues data
  refine ⟨next, ?_, after⟩
  simp only [Rteipc.defaultDomainHandler, pair.leftAt.other, Bool.false_eq_true, if_false, pair.leftAt.arg, ifaceHandler,
    deref_live live, handler, bind, Except.bind, handled, Except.map]

/-! ## The loop -/

/-- `rteipc_msg_drain` takes no message off the rest. -/
def NoMessage (rest : Evbuffer) : Prop := ∀ malloc size msg, (rteipcMsgDrain malloc rest).1 ≠ .message size msg

theorem loopRounds_stops {self : EpPtr} {memory : Nat → CtlMemory} {raw : Nat → Memory} {rest : Evbuffer}
    (nothing : NoMessage rest) (fuel : Nat) : loopRounds tbl lib self memory raw fuel rest st = .ok (st, rest) := by
  cases fuel with
  | zero => rfl
  | succ fuel =>
      have stops := nothing (raw fuel).malloc
      cases drained : rteipcMsgDrain (raw fuel).malloc rest with
      | mk result left =>
          rw [drained] at stops
          cases result with
          | message size msg => exact (stops size msg rfl).elim
          | empty => simp only [loopRounds, drained]
          | failed => simp only [loopRounds, drained]

theorem loopRounds_message {self : EpPtr} {memory : Nat → CtlMemory} {raw : Nat → Memory} {fuel size : Nat}
    {buf rest : Evbuffer} {msg : List UInt8} {lo : Loop DaemonCb IfacePtr} {reply : Option (List UInt8 × Int)}
    (drained : rteipcMsgDrain (raw fuel).malloc buf = (.message size msg, rest))
    (found : st.lib.loList.find? (fun lo => lo.self = self) = some lo) (called : lo.cb = some .defaultDomainHandler)
    (handled : defaultDomainHandler tbl lib st ⟨memory fuel, raw fuel, lo, msg⟩ = .ok (next, reply)) :
    loopRounds tbl lib self memory raw (fuel + 1) buf st = loopRounds tbl lib self memory raw fuel rest next := by
  simp only [loopRounds, drained, found, called, handled, bind, Except.bind]

theorem RawPair.loopRounds (tbl : DescTable Table) (lib : PacketLib)
    (pair : RawPair left right st leftRouted rightRouted leftQueues rightQueues) (memory : Nat → CtlMemory)
    {raw : Nat → Memory} (queues : ∀ round, (raw round).Queues) {msgs : List (List UInt8)}
    (framed : ∀ msg ∈ msgs, Framed msg) {rest : Evbuffer} (nothing : NoMessage rest) {fuel : Nat}
    (enough : msgs.length ≤ fuel) :
    ∃ next, Rteipc.loopRounds tbl lib left.lo.self memory raw fuel (msgs.flatMap frame ++ rest) st = .ok (next, rest) ∧
      RawPair left right next leftRouted rightRouted (handOver leftRouted (msgs.flatMap frame) leftQueues rightQueues).1
        (handOver leftRouted (msgs.flatMap frame) leftQueues rightQueues).2 := by
  induction msgs generalizing st leftQueues rightQueues fuel with
  | nil =>
      refine ⟨st, loopRounds_stops nothing fuel, ?_⟩
      rw [List.flatMap_nil, handOver_nil]
      exact pair
  | cons msg later ih =>
      cases fuel with
      | zero => cases enough
      | succ fuel =>
          obtain ⟨middle, handled, pairMiddle⟩ :=
            pair.defaultDomainHandler tbl lib (memory fuel) (queues fuel).evbuffer msg
          obtain ⟨next, looped, pairNext⟩ := ih pairMiddle (fun other member => framed other (List.mem_cons_of_mem _ member))
            (Nat.le_of_succ_le_succ enough)
          refine ⟨next, ?_, ?_⟩
          · rw [List.flatMap_cons, List.append_assoc]
            have drained := drain_framed (queues fuel).malloc (framed msg List.mem_cons_self) (later.flatMap frame ++ rest)
            exact (loopRounds_message drained pair.leftAt.found pair.leftAt.cb handled).trans looped
          · rw [List.flatMap_cons, handOver_append]
            exact pairNext

/-- All whole messages in the input of the loop are handed over. -/
theorem RawPair.loopOnData (tbl : DescTable Table) (lib : PacketLib)
    (pair : RawPair left right st leftRouted rightRouted leftQueues rightQueues) (memory : Nat → CtlMemory)
    {raw : Nat → Memory} (queues : ∀ round, (raw round).Queues) {msgs : List (List UInt8)}
    (framed : ∀ msg ∈ msgs, Framed msg) {rest : Evbuffer} (nothing : NoMessage rest)
    (input : leftQueues.loop = msgs.flatMap frame ++ rest) :
    ∃ next, Rteipc.loopOnData tbl lib left.lo.self memory raw st = .ok next ∧
      RawPair left right next leftRouted rightRouted
        { (handOver leftRouted (msgs.flatMap frame) leftQueues rightQueues).1 with loop := rest }
        (handOver leftRouted (msgs.flatMap frame) leftQueues rightQueues).2 := by
  obtain ⟨core, live, bev⟩ := pair.leftAt.core
  have enough : msgs.length ≤ leftQueues.loop.length + 1 := by
    have frames := frames_length msgs
    rw [input, List.length_append]
    omega
  obtain ⟨next, looped, pairNext⟩ := pair.loopRounds tbl lib memory queues framed nothing enough
  refine ⟨_, ?_, pairNext.storeLoop (fun half => { half with input := rest }) rfl fun _ => rfl⟩
  rw [← input] at looped
  simp only [Rteipc.loopOnData, deref_live live, bev, deref_live pair.leftAt.loop, bind, Except.bind, looped]

/-! ## Routing and forgetting -/

theorem RawPair.triggerLoop (emitLib : EmitLib)
    (pair : RawPair left right st true rightRouted leftQueues rightQueues) {memory : Nat → Memory}
    (queues : ∀ round, (memory round).Queues) {msgs : List (List UInt8)}
    (framed : ∀ msg ∈ msgs, Framed msg) (pending : leftQueues.pending = msgs.flatMap frame) {fuel : Nat}
    (enough : msgs.length < fuel) :
    ∃ next, Rteipc.triggerLoop emitLib memory left.iface fuel st = .ok next ∧
      RawPair left right next true rightRouted { leftQueues with pending := [] }
        { rightQueues with backend := rightQueues.backend ++ msgs.flatMap frame } := by
  induction msgs generalizing st leftQueues rightQueues fuel with
  | nil =>
      cases fuel with
      | zero => cases enough
      | succ fuel =>
          obtain ⟨self, live, -, -, -, -, queue⟩ := pair.leftAt.iface
          have empty : self.pending = [] := queue.trans pending
          refine ⟨st, ?_, ?_⟩
          · simp only [Rteipc.triggerLoop, deref_live live, empty, drain_nil, bind, Except.bind]
          · have unchanged : { leftQueues with pending := [] } = leftQueues := by
              rw [← @List.flatMap_nil _ _ frame, ← pending]
            rw [unchanged, List.flatMap_nil, List.append_nil]
            exact pair
  | cons msg later ih =>
      cases fuel with
      | zero => cases enough
      | succ fuel =>
          obtain ⟨self, live, -, -, -, routed, queue⟩ := pair.leftAt.iface
          have drained : RawPair left right
              { st with ifaces := st.ifaces.modify left.iface fun self => { self with pending := later.flatMap frame } } true
              rightRouted { leftQueues with pending := later.flatMap frame } rightQueues := by
            apply pair.replaceLeft
            · exact fun _ => rfl
            · intro same found
              obtain rfl := Option.some.inj (live.symm.trans found)
              exact routed
            · exact fun _ _ => rfl
          obtain ⟨middle, handled, pairMiddle⟩ := drained.ifaceRawHandler emitLib (queues fuel).evbuffer msg
          obtain ⟨next, looped, pairNext⟩ := ih pairMiddle (fun other member => framed other (List.mem_cons_of_mem _ member))
            rfl (Nat.lt_of_succ_lt_succ enough)
          refine ⟨next, ?_, ?_⟩
          · simp only [Rteipc.triggerLoop, deref_live live, queue, pending, List.flatMap_cons,
              drain_framed (queues fuel).malloc (framed msg List.mem_cons_self), bind, Except.bind, handled]
            exact looped
          · rw [List.flatMap_cons, ← List.append_assoc]
            exact pairNext

/-- What waited goes to the partner, now that there is one. -/
theorem RawPair.routeSide (emitLib : EmitLib)
    (pair : RawPair left right st leftRouted rightRouted leftQueues rightQueues) {memory : Nat → Memory}
    (queues : ∀ round, (memory round).Queues) {msgs : List (List UInt8)}
    (framed : ∀ msg ∈ msgs, Framed msg) (pending : leftQueues.pending = msgs.flatMap frame) :
    ∃ next, Rteipc.routeSide emitLib memory st left.iface right.iface = .ok next ∧
      RawPair left right next true rightRouted { leftQueues with pending := [] }
        { rightQueues with backend := rightQueues.backend ++ leftQueues.pending } := by
  obtain ⟨self, live, raw, -, -, -, queue⟩ := pair.leftAt.iface
  have routed : RawPair left right
      { st with ifaces := st.ifaces.modify left.iface fun self => { self with partner := some right.iface } } true
      rightRouted { leftQueues with pending := leftQueues.pending } rightQueues := by
    apply pair.replaceLeft
    · exact fun _ => rfl
    · exact fun _ _ => rfl
    · intro same found
      obtain rfl := Option.some.inj (live.symm.trans found)
      exact queue
  have here := (Replaced.of_modify (fun self => { self with partner := some right.iface }) live).here
  have enough : msgs.length < leftQueues.pending.length + 1 := by
    rw [pending]
    exact Nat.lt_succ_of_le (frames_length msgs)
  obtain ⟨next, looped, pairNext⟩ := routed.triggerLoop emitLib queues framed pending enough
  refine ⟨next, ?_, ?_⟩
  · simp only [Rteipc.routeSide, deref_live live, raw, if_true, ifaceTrigger, deref_live here, queue, bind, Except.bind]
    exact looped
  · rw [pending]
    exact pairNext

/-- A route command for the two, in this order. -/
theorem RawPair.doRtecmdRoute (emitLib : EmitLib)
    (pair : RawPair left right st leftRouted rightRouted leftQueues rightQueues) {first second : Nat → Memory}
    (firstQueues : ∀ round, (first round).Queues) (secondQueues : ∀ round, (second round).Queues)
    {msgs others : List (List UInt8)} (framed : ∀ msg ∈ msgs, Framed msg) (othersFramed : ∀ msg ∈ others, Framed msg)
    (pending : leftQueues.pending = msgs.flatMap frame) (othersPending : rightQueues.pending = others.flatMap frame)
    {d : RtemgrData} {lh rh : RtemgrIntf} (interfaces : d.interfaces = [lh, rh]) (lhNamed : ifaceOf st lh = some left.iface)
    (rhNamed : ifaceOf st rh = some right.iface) :
    ∃ next, Rteipc.doRtecmdRoute emitLib st first second d = .ok (next, 0) ∧
      RawPair left right next true true
        ⟨leftQueues.loop, [], leftQueues.backend ++ rightQueues.pending⟩
        ⟨rightQueues.loop, [], rightQueues.backend ++ leftQueues.pending⟩ := by
  obtain ⟨middle, routedLeft, pairMiddle⟩ := pair.routeSide emitLib firstQueues framed pending
  obtain ⟨next, routedRight, pairNext⟩ := pairMiddle.symm.routeSide emitLib secondQueues othersFramed othersPending
  refine ⟨next, ?_, pairNext.symm⟩
  simp only [Rteipc.doRtecmdRoute, interfaces, lhNamed, rhNamed, if_neg pair.ifaces, routedLeft, routedRight, bind,
    Except.bind]

/-- A forget command for the left one of two that are routed both or not at all. -/
theorem RawPair.doRtecmdForget (pair : RawPair left right st routed routed leftQueues rightQueues) {d : RtemgrData}
    {intf : RtemgrIntf} {rest : List RtemgrIntf} (interfaces : d.interfaces = intf :: rest)
    (named : ifaceOf st intf = some left.iface) :
    ∃ next, Rteipc.doRtecmdForget st d = .ok (next, 0) ∧ RawPair left right next false false leftQueues rightQueues := by
  obtain ⟨self, live, raw, -, -, partner, queue⟩ := pair.leftAt.iface
  obtain ⟨other, otherLive, -, -, -, -, otherQueue⟩ := pair.rightAt.iface
  cases routed with
  | false =>
      have alone : self.partner = none := partner
      refine ⟨st, ?_, pair⟩
      simp only [Rteipc.doRtecmdForget, interfaces, named, ifaceForget, deref_live live, raw, if_true, alone, bind,
        Except.bind, Except.map]
  | true =>
      have names : self.partner = some right.iface := partner
      have first : RawPair right left { st with ifaces := st.ifaces.modify right.iface .unrouted } false true
          { rightQueues with pending := rightQueues.pending } leftQueues := by
        apply pair.symm.replaceLeft
        · exact fun _ => rfl
        · exact fun _ _ => rfl
        · intro same found
          obtain rfl := Option.some.inj (otherLive.symm.trans found)
          exact otherQueue
      have still : (st.ifaces.modify right.iface .unrouted).get left.iface = some self :=
        (Heap.get_modify_of_ne pair.ifaces).trans live
      refine ⟨{ st with ifaces := (st.ifaces.modify right.iface .unrouted).modify left.iface .unrouted }, ?_, ?_⟩
      · simp only [Rteipc.doRtecmdForget, interfaces, named, ifaceForget, deref_live live, raw, if_true, names,
          deref_live otherLive, bind, Except.bind, Except.map]
      · apply first.symm.replaceLeft
        · exact fun _ => rfl
        · exact fun _ _ => rfl
        · intro same found
          obtain rfl := Option.some.inj (still.symm.trans found)
          exact queue

end Pair

end Rteipc
