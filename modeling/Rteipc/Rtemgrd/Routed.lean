import Rteipc.Ep.Served
import Rteipc.Rtemgr.Decode
import Rteipc.Rtemgrd.Relay

namespace Rteipc

/-! A client and a device at two raw interfaces of the daemon that are routed to
each other, beside a client that is connected to the device's endpoint itself. -/

open Data

/-- What one half of a pair of bufferevents and the other have in their inputs. -/
def boundPair (bevs : Heap Bufferevent) (bev : BevPtr) : Option (BoundPair UInt8) :=
  (bevs.get bev).bind fun half => half.partner.bind fun other => (bevs.get other).map fun peer => ⟨half.input, peer.input⟩

def storePair (bevs : Heap Bufferevent) (bev : BevPtr) : Option (BoundPair UInt8) → Heap Bufferevent
  | none => bevs
  | some pair =>
      match (bevs.get bev).bind Bufferevent.partner with
      | none => bevs
      | some other =>
          (bevs.modify bev fun half => { half with input := pair.input }).modify other fun half =>
            { half with input := pair.peer }

def Daemon.withPair {Table : Type} (st : Daemon Table) (bev : BevPtr) (pair : Option (BoundPair UInt8)) : Daemon Table :=
  { st with lib := { st.lib with bevs := storePair st.lib.bevs bev pair } }

/-- The client's connection and its IPC endpoint, the daemon, and the device's
endpoint; the rest is as in `Bridge`. -/
structure Routed (Table Ep Event : Type) where
  daemon : Daemon Table
  output : Evbuffer
  input : Evbuffer
  cli : Option (ClientBev UInt8)
  accepting : Bool
  ep : Ep
  sent : List (List UInt8)
  happened : List Event
  received : List (Nat × List UInt8)

/-- `elsewhere` is what the daemon does for its other interfaces. -/
inductive RoutedEvent (Table Event : Type) where
  | rteipcSend (data : List UInt8)
  | arrive (count : Nat)
  | loopOnData (self : EpPtr) (memory : Nat → CtlMemory) (raw : Nat → Memory)
  | onData
  | upstream (event : Event)
  | ipcOnData
  | read (count : Nat)
  | rtecmdRoute (first second : Nat → Memory) (d : RtemgrData)
  | rtecmdForget (d : RtemgrData)
  | elsewhere (daemon : Daemon Table)

namespace Routed

variable {Table Ep Event : Type} (tbl : DescTable Table) (lib : PacketLib) (backend : Backend Ep Event)
  (left right : RawEnd) (st : Routed Table Ep Event)

/-- The client has connected to the endpoint of the left interface. -/
def start (daemon : Daemon Table) (ep : Ep) : Routed Table Ep Event := ⟨daemon, [], [], some ⟨[], []⟩, false, ep, [], [], []⟩

def withIpc (change : IpcEp UInt8 → IpcEp UInt8) : Routed Table Ep Event :=
  let ipc := change ⟨st.cli, st.accepting, boundPair st.daemon.lib.bevs left.backendBev⟩
  { st with cli := ipc.cli, accepting := ipc.accepting, daemon := st.daemon.withPair left.backendBev ipc.bev }

def onData : Except Fault (Routed Table Ep Event) :=
  match boundPair st.daemon.lib.bevs right.backendBev with
  | none => .ok st
  | some pair => do
      let (ep, input) ← backend.onData pair.input (backend.setBev st.ep (some pair.peer))
      .ok { st with ep, daemon := st.daemon.withPair right.backendBev (some ⟨input, (backend.bev ep).getD []⟩) }

def upstream (event : Event) : Routed Table Ep Event :=
  let pair := boundPair st.daemon.lib.bevs right.backendBev
  let ep := backend.upstream event (backend.setBev st.ep (pair.map BoundPair.peer))
  { st with
    ep
    daemon := st.daemon.withPair right.backendBev (pair.map fun pair => { pair with peer := (backend.bev ep).getD [] })
    happened := st.happened ++ [event] }

def read (count : Nat) : Routed Table Ep Event :=
  match st.cli with
  | none => st
  | some cli =>
      let (msgs, input) := msgDrainAll allocates (st.input ++ cli.output.take count)
      { st with input, cli := some { cli with output := cli.output.drop count }, received := st.received ++ msgs }

def step : RoutedEvent Table Event → Except Fault (Routed Table Ep Event)
  | .rteipcSend data => .ok { st with output := rteipcBuffer st.output data, sent := st.sent ++ [data] }
  | .arrive count =>
      .ok { st.withIpc left (IpcEp.arrive · (st.output.take count)) with output := st.output.drop count }
  | .loopOnData self memory raw => do
      let daemon ← loopOnData tbl lib self memory raw st.daemon
      .ok { st with daemon }
  | .onData => st.onData backend right
  | .upstream event => .ok (st.upstream backend right event)
  | .ipcOnData => .ok (st.withIpc left IpcEp.ipcOnData)
  | .read count => .ok (st.read count)
  | .rtecmdRoute first second d => do
      let (daemon, _) ← doRtecmdRoute lib.toEmitLib st.daemon first second d
      .ok { st with daemon }
  | .rtecmdForget d => do
      let (daemon, _) ← doRtecmdForget st.daemon d
      .ok { st with daemon }
  | .elsewhere daemon => .ok { st with daemon }

/-- The client sends good messages, memory is found for those the daemon handles,
a route command names the two interfaces and a forget command one of them, and
whatever else the daemon does leaves the two alone. -/
def Permitted (Good : Nat × List UInt8 → Prop) : RoutedEvent Table Event → Prop
  | .rteipcSend data => Good (sized data)
  | .loopOnData self _ raw => (self = left.lo.self ∨ self = right.lo.self) ∧ ∀ round, (raw round).Queues
  | .upstream _ => backend.listens st.ep = true
  | .rtecmdRoute first second d =>
      (∀ round, (first round).Queues) ∧ (∀ round, (second round).Queues) ∧
        ∃ lh rh, d.interfaces = [lh, rh] ∧
          (ifaceOf st.daemon lh = some left.iface ∧ ifaceOf st.daemon rh = some right.iface ∨
            ifaceOf st.daemon lh = some right.iface ∧ ifaceOf st.daemon rh = some left.iface)
  | .rtecmdForget d =>
      ∃ intf rest, d.interfaces = intf :: rest ∧
        (ifaceOf st.daemon intf = some left.iface ∨ ifaceOf st.daemon intf = some right.iface)
  | .elsewhere daemon =>
      ∀ leftRouted rightRouted leftQueues rightQueues,
        RawPair left right st.daemon leftRouted rightRouted leftQueues rightQueues →
          RawPair left right daemon leftRouted rightRouted leftQueues rightQueues
  | _ => True

/-- No byte is on its way. -/
def Settled : Prop :=
  st.output = [] ∧ st.input = [] ∧ st.cli = some ⟨[], []⟩ ∧
    ∃ routed, RawPair left right st.daemon routed routed .none .none

end Routed

def RoutedStep {Table Ep Event : Type} (tbl : DescTable Table) (lib : PacketLib) (backend : Backend Ep Event)
    (left right : RawEnd) (Good : Nat × List UInt8 → Prop) (st : Except Fault (Routed Table Ep Event))
    (event : RoutedEvent Table Event) (next : Except Fault (Routed Table Ep Event)) : Prop :=
  ∃ now, st = .ok now ∧ now.Permitted backend left right Good event ∧ now.step tbl lib backend left right event = next

/-- The client of the routed interfaces has been served as the direct one. -/
def SameService {Table Ep Event : Type} (left right : RawEnd) :
    Except Fault (Routed Table Ep Event) → Except Fault (Bridge Ep Event) → Prop
  | .ok st, .ok direct =>
      direct.ep = st.ep ∧ direct.sent = st.sent ∧ direct.happened = st.happened ∧ direct.received = st.received ∧
        (st.Settled left right → direct.Settled)
  | .error _, .error _ => True
  | _, _ => False

/-! ## The direct client, step by step -/

section Direct

variable {Ep Event : Type} {backend : Backend Ep Event} {st : Bridge Ep Event} {pair : BoundPair UInt8} {down : Evbuffer}

/-- What a step of the bridge does to its channel. -/
def Backend.move (backend : Backend Ep Event) (channel : Channel Ep (Nat × List UInt8) UInt8 Event) :
    BridgeEvent Event → Option (Channel Ep (Nat × List UInt8) UInt8 Event)
  | .rteipcSend data => some (channel.send msgFormat (sized data))
  | .arrive count => some (channel.arrive count)
  | .onData => channel.onData backend.code
  | .upstream event => some (channel.event backend.code event)
  | .ipcOnData => some channel.forward
  | .read count => some (channel.receive msgFormat drainFuel count)

theorem Bridge.Linked.move (linked : st.Linked pair down) (event : BridgeEvent Event) :
    match backend.move (st.channel pair down) event with
    | none => ∃ fault, st.step backend event = .error fault
    | some moved => ∃ (after : Bridge Ep Event) (nextPair : _) (nextDown : _), st.step backend event = .ok after ∧
        after.Linked nextPair nextDown ∧ after.channel nextPair nextDown = moved := by
  cases event with
  | rteipcSend data =>
      obtain ⟨after, ran, still, moved⟩ := @Bridge.Linked.rteipcSend Ep Event backend st pair down linked data
      exact ⟨after, pair, down, ran, still, moved⟩
  | arrive count =>
      obtain ⟨after, arrived, ran, still, moved⟩ := @Bridge.Linked.arrive Ep Event backend st pair down linked count
      exact ⟨after, arrived, down, ran, still, moved⟩
  | onData =>
      have ran := @Bridge.Linked.onData Ep Event backend st pair down linked
      rw [Backend.move]
      cases handled : (st.channel pair down).onData backend.code with
      | none =>
          rw [handled] at ran
          exact ran
      | some moved =>
          rw [handled] at ran
          obtain ⟨after, served, stepped, still, same⟩ := ran
          exact ⟨after, served, down, stepped, still, same⟩
  | upstream event =>
      obtain ⟨after, reported, ran, still, moved⟩ := @Bridge.Linked.upstream Ep Event backend st pair down linked event
      exact ⟨after, reported, down, ran, still, moved⟩
  | ipcOnData =>
      obtain ⟨after, forwarded, ran, still, moved⟩ := @Bridge.Linked.ipcOnData Ep Event backend st pair down linked
      exact ⟨after, forwarded, _, ran, still, moved⟩
  | read count =>
      obtain ⟨after, ran, still, moved⟩ := @Bridge.Linked.read Ep Event backend st pair down linked count
      exact ⟨after, pair, _, ran, still, moved⟩

end Direct

/-! ## Frames -/

def Frames (bytes : Evbuffer) : Prop := ∃ msgs : List (List UInt8), (∀ msg ∈ msgs, Deliverable msg) ∧ bytes = msgs.flatMap frame

section Frames

variable {bytes more : Evbuffer} {data : List UInt8}

theorem Frames.nil : Frames [] := ⟨[], fun _ member => (List.not_mem_nil member).elim, rfl⟩

theorem Frames.append (first : Frames bytes) (second : Frames more) : Frames (bytes ++ more) := by
  obtain ⟨msgs, deliverable, rfl⟩ := first
  obtain ⟨later, deliverableLater, rfl⟩ := second
  refine ⟨msgs ++ later, ?_, List.flatMap_append.symm⟩
  intro msg member
  obtain early | late := List.mem_append.mp member
  · exact deliverable msg early
  · exact deliverableLater msg late

theorem Frames.frame (deliverable : Deliverable data) : Frames (Rteipc.frame data) := by
  refine ⟨[data], ?_, ?_⟩
  · intro msg member
    rw [List.mem_singleton.mp member]
    exact deliverable
  · rw [List.flatMap_singleton]

theorem Frames.encodeAll {msgs : List (Nat × List UInt8)} (valid : ∀ msg ∈ msgs, msgFormat.Valid msg) :
    Frames (msgFormat.encodeAll msgs) := by
  refine ⟨msgs.map Prod.snd, ?_, ?_⟩
  · intro data member
    obtain ⟨msg, listed, rfl⟩ := List.mem_map.mp member
    exact (valid msg listed).2
  · rw [List.flatMap_map]
    rfl

theorem Deliverable.framed (deliverable : Deliverable data) : Framed data := (Drained.of_deliverable deliverable).framed

theorem NoMessage.nil : NoMessage [] := by
  intro malloc size msg
  rw [drain_nil]
  exact DrainResult.noConfusion

/-- What has come of some frames are whole ones and the beginning of the next. -/
theorem Frames.split (frames : Frames (bytes ++ more)) :
    ∃ (msgs : List (List UInt8)) (rest : Evbuffer), (∀ msg ∈ msgs, Deliverable msg) ∧ bytes = msgs.flatMap Rteipc.frame ++ rest ∧ Frames (rest ++ more) ∧
      NoMessage rest := by
  obtain ⟨msgs, deliverable, stream⟩ := frames
  have arrived : bytes <+: msgFormat.encodeAll (msgs.map sized) ++ [] := by
    rw [msgFormat_encodeAll, List.append_nil, ← stream]
    exact List.prefix_append _ _
  obtain ⟨next, rest, parts, split, waiting⟩ := FrameFormat.whole_split arrived
  obtain ⟨done, later, same, doneSized, laterSized⟩ := List.map_eq_append_iff.mp parts
  have deliverableDone : ∀ msg ∈ done, Deliverable msg := fun msg member =>
    deliverable msg (same ▸ List.mem_append_left _ member)
  have deliverableLater : ∀ msg ∈ later, Deliverable msg := fun msg member =>
    deliverable msg (same ▸ List.mem_append_right _ member)
  rw [← doneSized, msgFormat_encodeAll] at split
  refine ⟨done, rest, deliverableDone, split, ⟨later, deliverableLater, ?_⟩, ?_⟩
  · rw [split, same, List.flatMap_append, List.append_assoc] at stream
    exact List.append_cancel_left stream
  · intro malloc size msg
    apply drain_waiting_none _ waiting
    rw [← laterSized]
    exact sized_valid deliverableLater

end Frames

/-! ## The routed client, step by step -/

section Pair

variable {Table : Type} {left right own : RawEnd} {st : Daemon Table} {leftRouted rightRouted : Bool}
  {leftQueues rightQueues queues : EndQueues} {partner : Option IfacePtr}

theorem RawEnd.At.boundPair (at_ : own.At st partner queues) :
    Rteipc.boundPair st.lib.bevs own.backendBev = some ⟨queues.backend, queues.loop⟩ := by
  simp only [Rteipc.boundPair, at_.backend, at_.loop, Option.bind_some, Option.map_some]

theorem RawPair.withPair (pair : RawPair left right st leftRouted rightRouted leftQueues rightQueues)
    (bound : BoundPair UInt8) :
    RawPair left right (st.withPair left.backendBev (some bound)) leftRouted rightRouted
      ⟨bound.peer, leftQueues.pending, bound.input⟩ rightQueues := by
  have own := pair.storeBackend (fun half => { half with input := bound.input }) rfl fun _ => rfl
  have both := own.storeLoop (fun half => { half with input := bound.peer }) rfl fun _ => rfl
  have stored : st.withPair left.backendBev (some bound) =
      { st with lib := { st.lib with bevs := (st.lib.bevs.modify left.backendBev fun half =>
          { half with input := bound.input }).modify left.loopBev fun half => { half with input := bound.peer } } } := by
    simp only [Daemon.withPair, storePair, pair.leftAt.backend, Option.bind_some]
  rw [stored]
  exact both

end Pair

/-- Where the bytes are that are on their way. -/
structure RoutedView where
  routed : Bool
  left : EndQueues
  right : EndQueues
  down : Evbuffer

section Steps

variable {Table Ep Event : Type} (tbl : DescTable Table) (lib : PacketLib) (backend : Backend Ep Event) {left right : RawEnd}
  {st : Routed Table Ep Event} {view : RoutedView}

/-- Only the bytes between the client's socket and the left loop may break off
within a message. -/
structure Routed.Inv (left right : RawEnd) (st : Routed Table Ep Event) (view : RoutedView) : Prop where
  pair : RawPair left right st.daemon view.routed view.routed view.left view.right
  cli : st.cli = some ⟨[], view.down⟩
  accepting : st.accepting = false
  passed : view.routed = true → view.left.pending = [] ∧ view.right.pending = []
  held : Frames view.left.pending
  answers : Frames view.right.pending
  coming : Frames (view.left.loop ++ st.output)
  reports : Frames view.right.loop

/-- The routed interfaces as one channel: what the daemon has yet to hand over
is on its way to the device or to the client. -/
def Routed.channel (st : Routed Table Ep Event) (view : RoutedView) : Channel Ep (Nat × List UInt8) UInt8 Event where
  up := view.left.pending ++ view.left.loop ++ st.output
  inbox := view.right.backend
  code := st.ep
  outbox := view.right.loop
  down := view.down ++ view.left.backend ++ view.right.pending
  input := st.input
  sent := st.sent.map sized
  happened := st.happened
  received := st.received

theorem Routed.Inv.rteipcSend (inv : st.Inv left right view) {data : List UInt8} (deliverable : Deliverable data) :
    ∃ next, st.step tbl lib backend left right (.rteipcSend data) = .ok next ∧ next.Inv left right view ∧
      next.channel view = (st.channel view).send msgFormat (sized data) := by
  refine ⟨_, rfl, ⟨inv.pair, inv.cli, inv.accepting, inv.passed, inv.held, inv.answers, ?_, inv.reports⟩, ?_⟩
  · have more := inv.coming.append (Frames.frame deliverable)
    rw [List.append_assoc] at more
    exact more
  · simp [Routed.channel, Channel.send, msgFormat, sized]

theorem Routed.Inv.arrive (inv : st.Inv left right view) (count : Nat) :
    ∃ next, st.step tbl lib backend left right (.arrive count) = .ok next ∧
      next.Inv left right { view with left := { view.left with loop := view.left.loop ++ st.output.take count } } ∧
      next.output = st.output.drop count ∧
      next.channel { view with left := { view.left with loop := view.left.loop ++ st.output.take count } } =
        st.channel view := by
  have bound := inv.pair.leftAt.boundPair
  refine ⟨_, rfl, ⟨?_, ?_, ?_, inv.passed, inv.held, inv.answers, ?_, inv.reports⟩, rfl, ?_⟩
  · simp only [Routed.withIpc, bound, inv.cli, IpcEp.arrive, IpcEp.readCb, Option.map_some, List.nil_append]
    exact inv.pair.withPair ⟨view.left.backend, view.left.loop ++ st.output.take count⟩
  · simp only [Routed.withIpc, bound, inv.cli, IpcEp.arrive, IpcEp.readCb, Option.map_some]
  · simp only [Routed.withIpc, bound, inv.cli, IpcEp.arrive, IpcEp.readCb, Option.map_some, inv.accepting]
  · simpa using inv.coming
  · simp [Routed.channel, Routed.withIpc]

theorem Routed.Inv.ipcOnData (inv : st.Inv left right view) :
    ∃ next, st.step tbl lib backend left right .ipcOnData = .ok next ∧
      next.Inv left right { view with left := { view.left with backend := [] }, down := view.down ++ view.left.backend } ∧
      next.channel { view with left := { view.left with backend := [] }, down := view.down ++ view.left.backend } =
        st.channel view := by
  have bound := inv.pair.leftAt.boundPair
  refine ⟨_, rfl, ⟨?_, ?_, ?_, inv.passed, inv.held, inv.answers, inv.coming, inv.reports⟩, ?_⟩
  · simp only [Routed.withIpc, bound, inv.cli, IpcEp.ipcOnData]
    exact inv.pair.withPair ⟨[], view.left.loop⟩
  · simp only [Routed.withIpc, bound, inv.cli, IpcEp.ipcOnData]
  · simp only [Routed.withIpc, bound, inv.cli, IpcEp.ipcOnData, inv.accepting]
  · simp [Routed.channel, Routed.withIpc]

theorem Routed.Inv.read (inv : st.Inv left right view) (count : Nat) :
    ∃ next, st.step tbl lib backend left right (.read count) = .ok next ∧
      next.Inv left right { view with down := view.down.drop count } ∧
      next.channel { view with down := view.down.drop count } =
        (st.channel view).receive msgFormat drainFuel (view.down.take count).length := by
  have drained := msgDrainAll_eq_drain (st.input ++ view.down.take count)
  refine ⟨_, rfl, ⟨?_, ?_, ?_, inv.passed, inv.held, inv.answers, ?_, inv.reports⟩, ?_⟩
  · simp only [Routed.read, inv.cli]
    exact inv.pair
  · simp only [Routed.read, inv.cli]
  · simp only [Routed.read, inv.cli, inv.accepting]
  · simp only [Routed.read, inv.cli]
    exact inv.coming
  · have first : (view.down ++ view.left.backend ++ view.right.pending).take (view.down.take count).length =
        view.down.take count := by
      rw [List.append_assoc, List.take_append_of_le_length (by simp)]
      exact (List.prefix_iff_eq_take.mp (List.take_prefix count view.down)).symm
    have left : (view.down ++ view.left.backend ++ view.right.pending).drop (view.down.take count).length =
        view.down.drop count ++ view.left.backend ++ view.right.pending := by
      rw [List.append_assoc, List.drop_append_of_le_length (by simp), List.length_take, List.append_assoc]
      congr 1
      exact List.drop_eq_drop_iff.mpr (by omega)
    simp only [Routed.read, inv.cli, Routed.channel, Channel.receive, first, left, drained]

section Served

variable {Dev : Type} {server : Server Dev (Nat × List UInt8) Event} {seen : Ep → Dev} {Good : Nat × List UInt8 → Prop}
  {Ready : Ep → List (Nat × List UInt8) → Prop} {dev : Dev} {log : List ((Nat × List UInt8) ⊕ Event)}
  {waiting undelivered : List (Nat × List UInt8)} (implements : backend.code.Implements msgFormat server seen Good Ready)

include implements

theorem Routed.Inv.upstream (inv : st.Inv left right view) (event : Event) :
    ∃ next viewNext, st.step tbl lib backend left right (.upstream event) = .ok next ∧ next.Inv left right viewNext ∧
      next.channel viewNext = (st.channel view).event backend.code event := by
  have bound := inv.pair.rightAt.boundPair
  have wrote := (implements.notifies st.ep view.right.loop event).2
  have frames := Frames.encodeAll (implements.reports (seen st.ep) event)
  refine ⟨_, { view with right := ⟨(backend.code.onEvent st.ep view.right.loop event).2, view.right.pending, view.right.backend⟩ },
    rfl, ⟨?_, inv.cli, inv.accepting, inv.passed, inv.held, inv.answers, inv.coming, ?_⟩, ?_⟩
  · simp only [Routed.upstream, bound, Option.map_some]
    exact (inv.pair.symm.withPair ⟨view.right.backend, (backend.code.onEvent st.ep view.right.loop event).2⟩).symm
  · rw [wrote]
    exact inv.reports.append frames
  · simp only [Routed.upstream, bound, Option.map_some, Routed.channel, Channel.event, Backend.code]

/-- What the device finds in its half and writes to it is what it would find and
write without the daemon. -/
theorem Routed.Inv.onData (inv : st.Inv left right view)
    (explained : (st.channel view).Explained msgFormat server seen Good dev log waiting undelivered) :
    (∃ next output input, st.step tbl lib backend left right .onData = .ok next ∧
      next.Inv left right { view with right := ⟨output, view.right.pending, input⟩ } ∧
      (st.channel view).onData backend.code =
        some (next.channel { view with right := ⟨output, view.right.pending, input⟩ })) ∨
    (∃ fault, st.step tbl lib backend left right .onData = .error fault) ∧ (st.channel view).onData backend.code = none := by
  have bound := inv.pair.rightAt.boundPair
  have ran : st.step tbl lib backend left right .onData =
      (backend.onData view.right.backend (backend.setBev st.ep (some view.right.loop))).bind fun done =>
        .ok { st with
          ep := done.1
          daemon := st.daemon.withPair right.backendBev (some ⟨done.2, (backend.bev done.1).getD []⟩) } := by
    simp only [Routed.step, Routed.onData, bound]
    rfl
  have answered := @Channel.Explained.answered _ _ _ _ _ _ _ _ _ _ _ drainFuel _ _ _ _ _ implements msgFormat_stuck_nil drainFuel_enough
    explained
  rw [ran]
  cases handled : backend.onData view.right.backend (backend.setBev st.ep (some view.right.loop)) with
  | error fault =>
      refine .inr ⟨⟨fault, rfl⟩, ?_⟩
      simp only [Channel.onData, Routed.channel, Backend.code, handled, Option.map_none]
  | ok done =>
      have code : (st.channel view).onData backend.code =
          some { st.channel view with code := done.1, outbox := (backend.bev done.1).getD [], inbox := done.2 } := by
        simp only [Channel.onData, Routed.channel, Backend.code, handled, Option.map_some]
      obtain ⟨replies, valid, wrote⟩ := answered code
      refine .inl ⟨_, (backend.bev done.1).getD [], done.2, rfl,
        ⟨?_, inv.cli, inv.accepting, inv.passed, inv.held, inv.answers, inv.coming, ?_⟩, code⟩
      · exact (inv.pair.symm.withPair ⟨done.2, (backend.bev done.1).getD []⟩).symm
      · have frames := inv.reports.append (Frames.encodeAll valid)
        change Frames ((backend.bev done.1).getD [])
        have whole : (backend.bev done.1).getD [] = view.right.loop ++ msgFormat.encodeAll replies := wrote
        rw [whole]
        exact frames

end Served

/-- The loop of the client's side hands whole messages over to the device's half. -/
theorem Routed.Inv.leftPasses (inv : st.Inv left right view) (routed : view.routed = true) (memory : Nat → CtlMemory)
    {raw : Nat → Memory} (queues : ∀ round, (raw round).Queues) :
    ∃ next msgs rest, st.step tbl lib backend left right (.loopOnData left.lo.self memory raw) = .ok next ∧
      next.Inv left right
        { view with
          left := { view.left with loop := rest }
          right := { view.right with backend := view.right.backend ++ msgs } } ∧
      NoMessage rest ∧ next.output = st.output ∧
      next.channel
        { view with
          left := { view.left with loop := rest }
          right := { view.right with backend := view.right.backend ++ msgs } } = (st.channel view).arrive msgs.length := by
  obtain ⟨msgs, rest, deliverable, input, coming, nothing⟩ := inv.coming.split
  obtain ⟨none, -⟩ := inv.passed routed
  obtain ⟨daemon, looped, pair⟩ := inv.pair.loopOnData tbl lib memory queues
    (fun msg member => (deliverable msg member).framed) nothing input
  rw [routed] at pair
  refine ⟨{ st with daemon }, msgs.flatMap frame, rest, ?_,
    ⟨?_, inv.cli, inv.accepting, inv.passed, inv.held, inv.answers, coming, inv.reports⟩, nothing, rfl, ?_⟩
  · simp only [Routed.step, looped, bind, Except.bind]
  · rw [routed]
    exact pair
  · simp [Routed.channel, Channel.arrive, input, none, List.append_assoc]

/-- Without a partner it has them wait. -/
theorem Routed.Inv.leftWaits (inv : st.Inv left right view) (alone : view.routed = false) (memory : Nat → CtlMemory)
    {raw : Nat → Memory} (queues : ∀ round, (raw round).Queues) :
    ∃ next viewNext, st.step tbl lib backend left right (.loopOnData left.lo.self memory raw) = .ok next ∧
      next.Inv left right viewNext ∧ next.channel viewNext = st.channel view := by
  obtain ⟨msgs, rest, deliverable, input, coming, nothing⟩ := inv.coming.split
  obtain ⟨daemon, looped, pair⟩ := inv.pair.loopOnData tbl lib memory queues
    (fun msg member => (deliverable msg member).framed) nothing input
  rw [alone] at pair
  refine ⟨{ st with daemon }, ⟨false, ⟨rest, view.left.pending ++ msgs.flatMap frame, view.left.backend⟩, view.right, view.down⟩,
    ?_, ⟨pair, inv.cli, inv.accepting, ?_, ?_, inv.answers, coming, inv.reports⟩, ?_⟩
  · simp only [Routed.step, looped, bind, Except.bind]
  · exact fun wrong => (Bool.false_ne_true wrong).elim
  · exact inv.held.append ⟨msgs, deliverable, rfl⟩
  · simp [Routed.channel, input]

/-- The loop of the device's side hands all that the device has written over to
the client's half. -/
theorem Routed.Inv.rightPasses (inv : st.Inv left right view) (routed : view.routed = true) (memory : Nat → CtlMemory)
    {raw : Nat → Memory} (queues : ∀ round, (raw round).Queues) :
    ∃ next, st.step tbl lib backend left right (.loopOnData right.lo.self memory raw) = .ok next ∧
      next.Inv left right
        { view with
          left := { view.left with backend := view.left.backend ++ view.right.loop }
          right := { view.right with loop := [] } } ∧
      next.channel
        { view with
          left := { view.left with backend := view.left.backend ++ view.right.loop }
          right := { view.right with loop := [] } } = (st.channel view).forward := by
  obtain ⟨msgs, deliverable, input⟩ := inv.reports
  obtain ⟨-, none⟩ := inv.passed routed
  obtain ⟨daemon, looped, pair⟩ := inv.pair.symm.loopOnData tbl lib memory queues
    (fun msg member => (deliverable msg member).framed) NoMessage.nil (input.trans (List.append_nil _).symm)
  rw [routed, ← input] at pair
  refine ⟨{ st with daemon }, ?_, ⟨?_, inv.cli, inv.accepting, inv.passed, inv.held, inv.answers, inv.coming, Frames.nil⟩, ?_⟩
  · simp only [Routed.step, looped, bind, Except.bind]
  · rw [routed]
    exact pair.symm
  · simp [Routed.channel, Channel.forward, none]

theorem Routed.Inv.rightWaits (inv : st.Inv left right view) (alone : view.routed = false) (memory : Nat → CtlMemory)
    {raw : Nat → Memory} (queues : ∀ round, (raw round).Queues) :
    ∃ next viewNext, st.step tbl lib backend left right (.loopOnData right.lo.self memory raw) = .ok next ∧
      next.Inv left right viewNext ∧ next.channel viewNext = (st.channel view).forward := by
  obtain ⟨msgs, deliverable, input⟩ := inv.reports
  obtain ⟨daemon, looped, pair⟩ := inv.pair.symm.loopOnData tbl lib memory queues
    (fun msg member => (deliverable msg member).framed) NoMessage.nil (input.trans (List.append_nil _).symm)
  rw [alone, ← input] at pair
  refine ⟨{ st with daemon },
    ⟨false, view.left, ⟨[], view.right.pending ++ view.right.loop, view.right.backend⟩, view.down⟩, ?_,
    ⟨pair.symm, inv.cli, inv.accepting, ?_, inv.held, inv.answers.append inv.reports, inv.coming, Frames.nil⟩, ?_⟩
  · simp only [Routed.step, looped, bind, Except.bind]
  · exact fun wrong => (Bool.false_ne_true wrong).elim
  · simp [Routed.channel, Channel.forward]

/-- What waited goes on when the interfaces are routed to each other. -/
theorem Routed.Inv.rtecmdRoute (inv : st.Inv left right view) {first second : Nat → Memory} {d : RtemgrData}
    {Good : Nat × List UInt8 → Prop} (permitted : st.Permitted backend left right Good (.rtecmdRoute first second d)) :
    ∃ next viewNext, st.step tbl lib backend left right (.rtecmdRoute first second d) = .ok next ∧
      next.Inv left right viewNext ∧ next.channel viewNext = (st.channel view).arrive view.left.pending.length := by
  obtain ⟨firstQueues, secondQueues, lh, rh, interfaces, names⟩ := permitted
  obtain ⟨msgs, deliverable, held⟩ := inv.held
  obtain ⟨others, deliverableOthers, answers⟩ := inv.answers
  have framed : ∀ msg ∈ msgs, Framed msg := fun msg member => (deliverable msg member).framed
  have framedOthers : ∀ msg ∈ others, Framed msg := fun msg member => (deliverableOthers msg member).framed
  obtain ⟨daemon, returned, pair⟩ : ∃ daemon, doRtecmdRoute lib.toEmitLib st.daemon first second d = .ok (daemon, 0) ∧
      RawPair left right daemon true true ⟨view.left.loop, [], view.left.backend ++ view.right.pending⟩
        ⟨view.right.loop, [], view.right.backend ++ view.left.pending⟩ := by
    obtain ⟨lhNamed, rhNamed⟩ | ⟨lhNamed, rhNamed⟩ := names
    · exact inv.pair.doRtecmdRoute lib.toEmitLib firstQueues secondQueues framed framedOthers held answers interfaces lhNamed rhNamed
    · obtain ⟨daemon, returned, pair⟩ :=
        inv.pair.symm.doRtecmdRoute lib.toEmitLib firstQueues secondQueues framedOthers framed answers held interfaces lhNamed rhNamed
      exact ⟨daemon, returned, pair.symm⟩
  refine ⟨{ st with daemon }, ⟨true, _, _, view.down⟩, ?_,
    ⟨pair, inv.cli, inv.accepting, fun _ => ⟨rfl, rfl⟩, Frames.nil, Frames.nil, inv.coming, inv.reports⟩, ?_⟩
  · simp only [Routed.step, returned, bind, Except.bind]
  · simp [Routed.channel, Channel.arrive, List.append_assoc]

theorem Routed.Inv.rtecmdForget (inv : st.Inv left right view) {d : RtemgrData}
    {Good : Nat × List UInt8 → Prop} (permitted : st.Permitted backend left right Good (.rtecmdForget d)) :
    ∃ next viewNext, st.step tbl lib backend left right (.rtecmdForget d) = .ok next ∧ next.Inv left right viewNext ∧
      next.channel viewNext = st.channel view := by
  obtain ⟨intf, rest, interfaces, names⟩ := permitted
  obtain ⟨daemon, returned, pair⟩ : ∃ daemon, doRtecmdForget st.daemon d = .ok (daemon, 0) ∧
      RawPair left right daemon false false view.left view.right := by
    obtain named | named := names
    · exact inv.pair.doRtecmdForget interfaces named
    · obtain ⟨daemon, returned, pair⟩ := inv.pair.symm.doRtecmdForget interfaces named
      exact ⟨daemon, returned, pair.symm⟩
  refine ⟨{ st with daemon }, { view with routed := false }, ?_,
    ⟨pair, inv.cli, inv.accepting, ?_, inv.held, inv.answers, inv.coming, inv.reports⟩, rfl⟩
  · simp only [Routed.step, returned, bind, Except.bind]
  · exact fun wrong => (Bool.false_ne_true wrong).elim

/-! ## The two clients side by side -/

theorem RawEnd.At.queues_eq {Table : Type} {own : RawEnd} {st : Daemon Table} {partner other : Option IfacePtr}
    {queues same : EndQueues} (at_ : own.At st partner queues) (again : own.At st other same) : queues = same := by
  obtain ⟨self, live, -, -, -, -, pending⟩ := at_.iface
  obtain ⟨found, liveAgain, -, -, -, -, pendingAgain⟩ := again.iface
  cases live.symm.trans liveAgain
  have loop := Option.some.inj (at_.loop.symm.trans again.loop)
  have backend := Option.some.inj (at_.backend.symm.trans again.backend)
  obtain ⟨loop, held, input⟩ := queues
  obtain ⟨loopAgain, heldAgain, inputAgain⟩ := same
  simp_all

/-- What the direct client has on its way is what the routed one has, and the
server explains both. -/
structure Routed.Beside {Dev : Type} (left right : RawEnd) (server : Server Dev (Nat × List UInt8) Event) (seen : Ep → Dev)
    (Good : Nat × List UInt8 → Prop) (dev : Dev) (st : Routed Table Ep Event) (direct : Bridge Ep Event)
    (view : RoutedView) : Prop where
  inv : st.Inv left right view
  direct : ∃ pair down, direct.Linked pair down ∧ direct.channel pair down = st.channel view
  explained : ∃ log waiting undelivered, (st.channel view).Explained msgFormat server seen Good dev log waiting undelivered

/-- The routed client and the direct one are beside each other, or both have failed. -/
def Alongside {Dev : Type} (left right : RawEnd) (server : Server Dev (Nat × List UInt8) Event) (seen : Ep → Dev)
    (Good : Nat × List UInt8 → Prop) (dev : Dev) : Except Fault (Routed Table Ep Event) → Except Fault (Bridge Ep Event) → Prop
  | .ok st, .ok direct => ∃ view, st.Beside left right server seen Good dev direct view
  | .error _, .error _ => True
  | _, _ => False

section Beside

variable {Dev : Type} {server : Server Dev (Nat × List UInt8) Event} {seen : Ep → Dev} {Good : Nat × List UInt8 → Prop}
  {Ready : Ep → List (Nat × List UInt8) → Prop} {dev : Dev} {direct : Bridge Ep Event} {next : Routed Table Ep Event}
  {viewNext : RoutedView}

variable {tbl lib backend}

theorem Routed.Beside.start {daemon : Daemon Table} {routed : Bool} (idle : RawPair left right daemon routed routed .none .none)
    (ep : Ep) :
    (Routed.start daemon ep : Routed Table Ep Event).Beside left right server seen Good (seen ep) (Bridge.start ep)
      ⟨routed, .none, .none, []⟩ where
  inv := ⟨idle, rfl, rfl, fun _ => ⟨rfl, rfl⟩, Frames.nil, Frames.nil, Frames.nil, Frames.nil⟩
  direct := ⟨⟨[], []⟩, [], rfl, rfl⟩
  explained := ⟨[], [], [], Channel.Explained.start ep rfl⟩

/-- A step that moves bytes within the daemon only is no step of the direct client. -/
theorem Routed.Beside.hidden (beside : st.Beside left right server seen Good dev direct view)
    (inv : next.Inv left right viewNext) (same : next.channel viewNext = st.channel view) :
    next.Beside left right server seen Good dev direct viewNext := by
  refine ⟨inv, ?_, ?_⟩
  · rw [same]
    exact beside.direct
  · rw [same]
    exact beside.explained

/-- Every other step is one of the direct client. -/
theorem Routed.Beside.moved (implements : backend.code.Implements msgFormat server seen Good Ready)
    (beside : st.Beside left right server seen Good dev direct view) (inv : next.Inv left right viewNext)
    {event : BridgeEvent Event} (good : ∀ data, event = .rteipcSend data → Good (sized data))
    (listens : ∀ happened, event = .upstream happened → backend.listens st.ep = true)
    (moved : backend.move (st.channel view) event = some (next.channel viewNext)) :
    ∃ after, Reaches (BridgeStep backend) (.ok direct) [event] (.ok after) ∧
      next.Beside left right server seen Good dev after viewNext := by
  obtain ⟨pair, down, linked, same⟩ := beside.direct
  obtain ⟨log, waiting, undelivered, explained⟩ := beside.explained
  have stepped := @Bridge.Linked.move Ep Event backend direct pair down linked event
  rw [same, moved] at stepped
  obtain ⟨after, pairNext, downNext, ran, linkedNext, sameNext⟩ := stepped
  have code : direct.ep = st.ep := congrArg Channel.code same
  refine ⟨after, .cons ⟨direct, rfl, ?_, ran⟩ (.nil _), inv, ⟨pairNext, downNext, linkedNext, sameNext⟩, ?_⟩
  · intro happened isEvent
    rw [code]
    exact listens happened isEvent
  · cases event with
    | rteipcSend data =>
        rw [← Option.some.inj moved]
        exact ⟨_, _, _, explained.send (good data rfl)⟩
    | arrive count =>
        rw [← Option.some.inj moved]
        exact ⟨_, _, _, explained.arrive count⟩
    | onData =>
        have handled := explained.onData implements msgFormat_stuck_nil drainFuel_enough
        have ready : Ready (st.channel view).code ((st.channel view).batch msgFormat drainFuel) := by
          by_contra unready
          have failed := handled.2 unready
          rw [Backend.move, failed] at moved
          cases moved
        obtain ⟨left, served, -, ran, explainedNext⟩ := handled.1 ready
        rw [Backend.move, ran] at moved
        rw [← Option.some.inj moved]
        exact ⟨_, _, _, explainedNext⟩
    | upstream event =>
        rw [← Option.some.inj moved]
        exact ⟨_, _, _, explained.event implements event⟩
    | ipcOnData =>
        rw [← Option.some.inj moved]
        exact ⟨_, _, _, explained.forward⟩
    | read count =>
        rw [← Option.some.inj moved]
        obtain ⟨now, later, -, explainedNext⟩ := explained.receive msgFormat_stuck_nil drainFuel_enough count
        exact ⟨_, _, _, explainedNext⟩

theorem Routed.Beside.same (beside : st.Beside left right server seen Good dev direct view) :
    SameService left right (.ok st) (.ok direct) := by
  obtain ⟨pair, down, linked, same⟩ := beside.direct
  refine ⟨congrArg Channel.code same, ?_, congrArg Channel.happened same, congrArg Channel.received same, ?_⟩
  · apply List.map_injective_iff.mpr _ (congrArg Channel.sent same)
    exact fun data other => fun sizes => (Prod.mk.inj sizes).2
  · intro settled
    obtain ⟨output, input, cli, routed, idle⟩ := settled
    have leftEmpty := beside.inv.pair.leftAt.queues_eq idle.leftAt
    have rightEmpty := beside.inv.pair.rightAt.queues_eq idle.rightAt
    have nothing : view.down = [] := by
      have socket := beside.inv.cli.symm.trans cli
      exact congrArg ClientBev.output (Option.some.inj socket)
    have empty : st.channel view = ⟨[], [], st.ep, [], [], [], st.sent.map sized, st.happened, st.received⟩ := by
      simp only [Routed.channel, leftEmpty, rightEmpty, nothing, output, input, EndQueues.none, List.append_nil]
    rw [empty] at same
    have pairInput : pair.input = [] := congrArg Channel.outbox same
    have pairPeer : pair.peer = [] := congrArg Channel.inbox same
    have below : down = [] := congrArg Channel.down same
    rw [Bridge.Linked, below] at linked
    refine ⟨congrArg Channel.up same, congrArg Channel.input same, ?_, ?_⟩
    · rw [linked]
    · rw [linked]
      exact congrArg some (congrArg₂ BoundPair.mk pairInput pairPeer)

theorem Routed.Beside.step (implements : backend.code.Implements msgFormat server seen Good Ready)
    (beside : st.Beside left right server seen Good dev direct view) {event : RoutedEvent Table Event}
    (permitted : st.Permitted backend left right Good event) :
    ∃ moves after, Reaches (BridgeStep backend) (.ok direct) moves after ∧
      Alongside left right server seen Good dev (st.step tbl lib backend left right event) after := by
  have inv := beside.inv
  have hidden : ∀ next viewNext, st.step tbl lib backend left right event = .ok next → next.Inv left right viewNext →
      next.channel viewNext = st.channel view → ∃ moves after, Reaches (BridgeStep backend) (.ok direct) moves after ∧
        Alongside left right server seen Good dev (st.step tbl lib backend left right event) after := by
    intro next viewNext ran invNext same
    rw [ran]
    exact ⟨[], .ok direct, .nil _, viewNext, beside.hidden invNext same⟩
  have moved : ∀ next viewNext move, st.step tbl lib backend left right event = .ok next → next.Inv left right viewNext →
      (∀ data, move = .rteipcSend data → Good (sized data)) →
      (∀ happened, move = .upstream happened → backend.listens st.ep = true) →
      backend.move (st.channel view) move = some (next.channel viewNext) →
      ∃ moves after, Reaches (BridgeStep backend) (.ok direct) moves after ∧
        Alongside left right server seen Good dev (st.step tbl lib backend left right event) after := by
    intro next viewNext move ran invNext good listens same
    obtain ⟨after, run, besideNext⟩ := beside.moved implements invNext good listens same
    rw [ran]
    exact ⟨[move], .ok after, run, viewNext, besideNext⟩
  cases event with
  | rteipcSend data =>
      obtain ⟨next, ran, invNext, same⟩ := inv.rteipcSend tbl lib backend (implements.good _ permitted).2
      apply moved next view (.rteipcSend data) ran invNext
      · intro sent isSent
        cases isSent
        exact permitted
      · simp
      · rw [same]
        rfl
  | arrive count =>
      obtain ⟨next, ran, invNext, -, same⟩ := inv.arrive tbl lib backend count
      exact hidden next _ ran invNext same
  | loopOnData self memory raw =>
      obtain ⟨isLoop, queues⟩ := permitted
      obtain rfl | rfl := isLoop
      · cases routed : view.routed with
        | false =>
            obtain ⟨next, viewNext, ran, invNext, same⟩ := inv.leftWaits tbl lib backend routed memory queues
            exact hidden next viewNext ran invNext same
        | true =>
            obtain ⟨next, msgs, rest, ran, invNext, -, -, same⟩ := inv.leftPasses tbl lib backend routed memory queues
            apply moved next _ (.arrive msgs.length) ran invNext
            · simp
            · simp
            · rw [same]
              rfl
      · obtain ⟨next, viewNext, ran, invNext, same⟩ : ∃ next viewNext,
            st.step tbl lib backend left right (.loopOnData right.lo.self memory raw) = .ok next ∧
              next.Inv left right viewNext ∧ next.channel viewNext = (st.channel view).forward := by
          cases routed : view.routed with
          | false => exact inv.rightWaits tbl lib backend routed memory queues
          | true =>
              obtain ⟨next, ran, invNext, same⟩ := inv.rightPasses tbl lib backend routed memory queues
              exact ⟨next, _, ran, invNext, same⟩
        apply moved next viewNext .ipcOnData ran invNext
        · simp
        · simp
        · rw [same]
          rfl
  | onData =>
      obtain ⟨log, waiting, undelivered, explained⟩ := beside.explained
      obtain ⟨next, output, input, ran, invNext, same⟩ | ⟨⟨fault, ran⟩, failed⟩ := inv.onData tbl lib backend implements explained
      · apply moved next _ .onData ran invNext
        · simp
        · simp
        · exact same
      · obtain ⟨pair, down, linked, channel⟩ := beside.direct
        have stepped := @Bridge.Linked.move Ep Event backend direct pair down linked .onData
        rw [channel, Backend.move, failed] at stepped
        obtain ⟨directFault, directRan⟩ := stepped
        rw [ran]
        refine ⟨[.onData], .error directFault, .cons ⟨direct, rfl, ?_, directRan⟩ (.nil _), trivial⟩
        simp
  | upstream happened =>
      obtain ⟨next, viewNext, ran, invNext, same⟩ := inv.upstream tbl lib backend implements happened
      apply moved next viewNext (.upstream happened) ran invNext
      · simp
      · exact fun _ _ => permitted
      · rw [same]
        rfl
  | ipcOnData =>
      obtain ⟨next, ran, invNext, same⟩ := inv.ipcOnData tbl lib backend
      exact hidden next _ ran invNext same
  | read count =>
      obtain ⟨next, ran, invNext, same⟩ := inv.read tbl lib backend count
      apply moved next _ (.read (view.down.take count).length) ran invNext
      · simp
      · simp
      · rw [same]
        rfl
  | rtecmdRoute first second d =>
      obtain ⟨next, viewNext, ran, invNext, same⟩ := inv.rtecmdRoute tbl lib backend permitted
      apply moved next viewNext (.arrive view.left.pending.length) ran invNext
      · simp
      · simp
      · rw [same]
        rfl
  | rtecmdForget d =>
      obtain ⟨next, viewNext, ran, invNext, same⟩ := inv.rtecmdForget tbl lib backend permitted
      exact hidden next viewNext ran invNext same
  | elsewhere daemon =>
      have pair := permitted view.routed view.routed view.left view.right inv.pair
      exact hidden { st with daemon } view rfl
        ⟨pair, inv.cli, inv.accepting, inv.passed, inv.held, inv.answers, inv.coming, inv.reports⟩ rfl

theorem Alongside.run (implements : backend.code.Implements msgFormat server seen Good Ready) {daemon : Daemon Table}
    {routed : Bool} (idle : RawPair left right daemon routed routed .none .none) (ep : Ep)
    {events : List (RoutedEvent Table Event)} {last : Except Fault (Routed Table Ep Event)}
    (run : Reaches (RoutedStep tbl lib backend left right Good) (.ok (.start daemon ep)) events last) :
    ∃ moves direct, Reaches (BridgeStep backend) (.ok (Bridge.start ep)) moves direct ∧
      Alongside left right server seen Good (seen ep) last direct := by
  have start : Alongside left right server seen Good (seen ep) (.ok (Routed.start daemon ep : Routed Table Ep Event))
      (.ok (Bridge.start ep : Bridge Ep Event)) := ⟨_, Routed.Beside.start idle ep⟩
  have answers : ∀ before event after direct, Alongside left right server seen Good (seen ep) before direct →
      RoutedStep tbl lib backend left right Good before event after →
        ∃ moves next, Reaches (BridgeStep backend) direct moves next ∧
          Alongside left right server seen Good (seen ep) after next := by
    intro before event after direct follows taken
    obtain ⟨st, rfl, permitted, rfl⟩ := taken
    cases direct with
    | error fault => exact follows.elim
    | ok direct =>
        obtain ⟨view, beside⟩ := follows
        exact beside.step implements permitted
  exact run.simulated answers start

/-- Routing two raw interfaces to each other is transparent. Whatever the client,
the device and the daemon do and in which order, and whenever the interfaces are
routed and forgotten, the client and the device get what they would get if the
client were connected to the device's endpoint itself. -/
theorem routed_refines_direct (implements : backend.code.Implements msgFormat server seen Good Ready) {daemon : Daemon Table}
    {routed : Bool} (idle : RawPair left right daemon routed routed .none .none) (ep : Ep)
    {events : List (RoutedEvent Table Event)} {last : Except Fault (Routed Table Ep Event)}
    (run : Reaches (RoutedStep tbl lib backend left right Good) (.ok (.start daemon ep)) events last) :
    ∃ moves direct, Reaches (BridgeStep backend) (.ok (Bridge.start ep)) moves direct ∧ SameService left right last direct := by
  obtain ⟨moves, direct, directRun, follows⟩ := Alongside.run implements idle ep run
  refine ⟨moves, direct, directRun, ?_⟩
  cases last with
  | error fault =>
      cases direct with
      | error directFault => trivial
      | ok direct => exact follows.elim
  | ok st =>
      cases direct with
      | error directFault => exact follows.elim
      | ok direct =>
          obtain ⟨view, beside⟩ := follows
          exact beside.same

/-! ## All bytes moved on -/

/-- The messages on their way to the device once the interfaces are routed. -/
def Routed.batch (left right : RawEnd) (st : Routed Table Ep Event) : List (Nat × List UInt8) :=
  let device := (boundPair st.daemon.lib.bevs right.backendBev).map BoundPair.input
  let loop := (boundPair st.daemon.lib.bevs left.backendBev).map BoundPair.peer
  (msgDrainAll allocates (device.getD [] ++ (loop.getD [] ++ st.output))).1

theorem Routed.Inv.batch (inv : st.Inv left right view) (routed : view.routed = true) :
    st.batch left right = ((st.channel view).arrive (st.channel view).up.length).batch msgFormat drainFuel := by
  obtain ⟨none, -⟩ := inv.passed routed
  simp only [Routed.batch, inv.pair.leftAt.boundPair, inv.pair.rightAt.boundPair, Option.map_some, Option.getD_some,
    msgDrainAll_eq_drain, Channel.batch, Channel.arrive, List.take_length, Routed.channel, none, List.nil_append]

theorem Frames.eq_nil {bytes : Evbuffer} (frames : Frames bytes) (nothing : NoMessage bytes) : bytes = [] := by
  obtain ⟨msgs, deliverable, rfl⟩ := frames
  cases msgs with
  | nil => rfl
  | cons msg rest =>
      have drained := drain_frame (deliverable msg List.mem_cons_self) (rest.flatMap Rteipc.frame)
      rw [List.flatMap_cons] at nothing
      exact (nothing allocates msg.length msg (congrArg Prod.fst drained)).elim

section Passing

variable (tbl lib backend)

/-- With nothing left in the client's connection everything gets to the device. -/
theorem Routed.Inv.leftEmpties (inv : st.Inv left right view) (routed : view.routed = true) (sentOff : st.output = [])
    (memory : Nat → CtlMemory) {raw : Nat → Memory} (queues : ∀ round, (raw round).Queues) :
    ∃ next viewNext, st.step tbl lib backend left right (.loopOnData left.lo.self memory raw) = .ok next ∧
      next.Inv left right viewNext ∧ viewNext.routed = true ∧
        next.channel viewNext = (st.channel view).arrive (st.channel view).up.length := by
  obtain ⟨next, msgs, rest, ran, invNext, nothing, output, passed⟩ :=
    inv.leftPasses tbl lib backend routed memory queues
  rw [sentOff] at output
  have coming := invNext.coming
  rw [output, List.append_nil] at coming
  have whole : rest = [] := coming.eq_nil nothing
  refine ⟨next, _, ran, invNext, routed, ?_⟩
  have up := congrArg Channel.up passed
  simp only [Routed.channel, Channel.arrive, output, whole, (inv.passed routed).1, List.append_nil] at up
  have enough : (st.channel view).up.length ≤ msgs.length := by
    apply List.drop_eq_nil_iff.mp
    rw [Routed.channel, (inv.passed routed).1]
    exact up.symm
  rw [passed]
  simp only [Channel.arrive, List.take_of_length_le enough, List.drop_of_length_le enough, List.take_length, List.drop_length]

/-- Everything the device has written gets to the client. -/
theorem Routed.Inv.toClient (inv : st.Inv left right view) (routed : view.routed = true) (memory : Nat → CtlMemory)
    {raw : Nat → Memory} (queues : ∀ round, (raw round).Queues) :
    ∃ first second count third viewNext, st.step tbl lib backend left right (.loopOnData right.lo.self memory raw) = .ok first ∧
      first.step tbl lib backend left right .ipcOnData = .ok second ∧
        second.step tbl lib backend left right (.read count) = .ok third ∧ third.Inv left right viewNext ∧
          third.channel viewNext =
            (st.channel view).forward.receive msgFormat drainFuel (st.channel view).forward.down.length := by
  obtain ⟨first, ranFirst, invFirst, sameFirst⟩ :=
    inv.rightPasses tbl lib backend routed memory queues
  obtain ⟨second, ranSecond, invSecond, sameSecond⟩ := invFirst.ipcOnData tbl lib backend
  obtain ⟨third, ranThird, invThird, sameThird⟩ := invSecond.read tbl lib backend
    (view.down ++ (view.left.backend ++ view.right.loop)).length
  refine ⟨first, second, _, third, _, ranFirst, ranSecond, ranThird, invThird, ?_⟩
  rw [sameThird, sameSecond, sameFirst]
  simp only [Routed.channel, Channel.forward, (inv.passed routed).2, List.append_nil, List.take_length, List.append_assoc]

end Passing

/-- The bytes on their way, once the interfaces are routed to each other. -/
theorem Routed.Inv.settled (inv : st.Inv left right view) (settled : (st.channel view).Settled) : st.Settled left right := by
  obtain ⟨up, inbox, outbox, down, input⟩ := settled
  simp only [Routed.channel, List.append_eq_nil_iff] at up inbox outbox down input
  obtain ⟨⟨held, loop⟩, output⟩ := up
  obtain ⟨⟨below, backend⟩, answers⟩ := down
  have leftEmpty : view.left = .none := by
    obtain ⟨viewRouted, ⟨leftLoop, leftPending, leftBackend⟩, viewRight, viewDown⟩ := view
    simp_all [EndQueues.none]
  have rightEmpty : view.right = .none := by
    obtain ⟨viewRouted, viewLeft, ⟨rightLoop, rightPending, rightBackend⟩, viewDown⟩ := view
    simp_all [EndQueues.none]
  have pair := inv.pair
  rw [leftEmpty, rightEmpty] at pair
  refine ⟨output, input, ?_, view.routed, pair⟩
  rw [inv.cli, below]

/-- In every state of every run in which the two interfaces are routed to each
other, and what is on its way to the device is ready to be handled, moving all
bytes on serves all that the client has sent and delivers all answers and reports. -/
theorem routed_completes (implements : backend.code.Implements msgFormat server seen Good Ready) {daemon : Daemon Table}
    {routed : Bool} (idle : RawPair left right daemon routed routed .none .none) (ep : Ep)
    {events : List (RoutedEvent Table Event)}
    (run : Reaches (RoutedStep tbl lib backend left right Good) (.ok (.start daemon ep)) events (.ok st))
    (partner : (st.daemon.ifaces.get left.iface).map Interface.partner = some (some right.iface))
    (ready : Ready st.ep (st.batch left right)) {memory : Nat → CtlMemory} {raw : Nat → Memory}
    (queues : ∀ round, (raw round).Queues) :
    ∃ count after, Reaches (RoutedStep tbl lib backend left right Good) (.ok st)
        [.arrive st.output.length, .loopOnData left.lo.self memory raw, .onData, .loopOnData right.lo.self memory raw,
          .ipcOnData, .read count] (.ok after) ∧
      after.Settled left right ∧ ∃ log, Server.requests log = st.sent.map sized ∧ Server.events log = st.happened ∧
        (server.run (seen ep) log).1 = seen after.ep ∧ after.received = (server.run (seen ep) log).2 := by
  obtain ⟨moves, direct, -, follows⟩ := Alongside.run implements idle ep run
  cases direct with
  | error fault => exact follows.elim
  | ok direct =>
      obtain ⟨view, beside⟩ := follows
      obtain ⟨log, waiting, undelivered, explained⟩ := beside.explained
      have inv := beside.inv
      have isRouted : view.routed = true := by
        obtain ⟨self, live, -, -, -, names, -⟩ := inv.pair.leftAt.iface
        rw [live, Option.map_some, names] at partner
        cases flag : view.routed with
        | true => rfl
        | false =>
            rw [flag] at partner
            cases Option.some.inj partner
      rw [inv.batch isRouted] at ready
      obtain ⟨served, handled, settled⟩ := explained.flush implements msgFormat_stuck_nil drainFuel_enough ready
      obtain ⟨later, same, -, again, explainedServed⟩ :=
        ((explained.arrive (st.channel view).up.length).onData implements msgFormat_stuck_nil drainFuel_enough).1 ready
      cases handled.symm.trans again
      obtain ⟨first, ranFirst, invFirst, output, sameFirst⟩ :=
        inv.arrive tbl lib backend st.output.length
      rw [List.drop_length] at output
      obtain ⟨second, viewSecond, ranSecond, invSecond, routedSecond, sameSecond⟩ :=
        invFirst.leftEmpties tbl lib backend isRouted output memory queues
      rw [sameFirst] at sameSecond
      have explainedSecond := explained.arrive (st.channel view).up.length
      rw [← sameSecond] at explainedSecond handled
      obtain ⟨third, deviceOut, deviceIn, ranThird, invThird, sameThird⟩ | ⟨-, failed⟩ :=
        invSecond.onData tbl lib backend implements explainedSecond
      · rw [handled] at sameThird
        obtain ⟨fourth, fifth, count, last, viewLast, ranFourth, ranFifth, ranLast, invLast, sameLast⟩ :=
          invThird.toClient tbl lib backend routedSecond memory queues
        rw [← Option.some.inj sameThird] at sameLast
        obtain ⟨now, left_, -, explainedLast⟩ :=
          explainedServed.forward.receive msgFormat_stuck_nil drainFuel_enough served.forward.down.length
        rw [← sameLast] at settled explainedLast
        obtain ⟨log, -, events, code, -, all⟩ := explainedLast.sequential msgFormat_stuck_nil implements.good
        obtain ⟨requests, received⟩ := all settled
        have kept : served.sent = st.sent.map sized ∧ served.happened = st.happened := by
          simp only [Channel.onData, Option.map_eq_some_iff] at again
          obtain ⟨_, -, rfl⟩ := again
          exact ⟨rfl, rfl⟩
        have sentLast : (last.channel viewLast).sent = served.sent := by
          rw [sameLast]
          rfl
        have happenedLast : (last.channel viewLast).happened = served.happened := by
          rw [sameLast]
          rfl
        refine ⟨count, last, ?_, invLast.settled settled, log, ?_, ?_, code, received⟩
        · exact .cons ⟨st, rfl, trivial, ranFirst⟩ (.cons ⟨first, rfl, ⟨.inl rfl, queues⟩, ranSecond⟩
            (.cons ⟨second, rfl, trivial, ranThird⟩ (.cons ⟨third, rfl, ⟨.inr rfl, queues⟩, ranFourth⟩
              (.cons ⟨fourth, rfl, trivial, ranFifth⟩ (.cons ⟨fifth, rfl, trivial, ranLast⟩ (.nil _))))))
        · rw [requests, sentLast, kept.1]
        · rw [events, happenedLast, kept.2]
      · rw [handled] at failed
        cases failed

end Beside

end Steps

/-! ## A client of a GPIO line -/

def openLineDocument : List UInt8 := PacketLib.lines.write (rtemgrDataEmit Base64.encode (openPacket 3 "c" "d"))

/-- The daemon with the raw interfaces `a`, for clients, and `c`, for a line. -/
def Daemon.withLine : Daemon (Dtbl EpPtr) :=
  ((processCtlport dtblTable .lines .succeeds .withRaw openLineDocument).toOption.map Prod.fst).getD .started

theorem withLine_reached : DaemonReaches .lines .withLine := by
  have loops : (rtemgrdCtlport, some DaemonCb.defaultDomainHandler) ∈
      Daemon.withRaw.lib.loList.map fun lo => (lo.name, lo.cb) := by decide +kernel
  obtain ⟨lo, member, fields⟩ := List.mem_map.mp loops
  rw [Prod.mk.injEq] at fields
  exact withRaw_reached.served ⟨lo, member, fields⟩ (by decide +kernel)

def clientEnd : RawEnd := ⟨1, ⟨2, ascii "a", some .defaultDomainHandler, some 1⟩, 2, 3⟩

def lineEnd : RawEnd := ⟨2, ⟨4, ascii "c", some .defaultDomainHandler, some 2⟩, 4, 5⟩

theorem withLine_pair : RawPair clientEnd lineEnd Daemon.withLine false false .none .none where
  leftAt := by
    refine ⟨⟨(Daemon.withLine.ifaces.get 1).getD (freshInterface 0), ?_⟩, ?_, ?_, rfl, rfl, ?_,
      ⟨(Daemon.withLine.lib.cores.get 2).getD ⟨0, 0, .ipc, none⟩, ?_⟩, ?_, ?_⟩
    all_goals decide +kernel
  rightAt := by
    refine ⟨⟨(Daemon.withLine.ifaces.get 2).getD (freshInterface 0), ?_⟩, ?_, ?_, rfl, rfl, ?_,
      ⟨(Daemon.withLine.lib.cores.get 4).getD ⟨0, 0, .ipc, none⟩, ?_⟩, ?_, ?_⟩
    all_goals decide +kernel
  ifaces := by decide
  halves := by decide

def rawIntf (name : String) : RtemgrIntf :=
  { freshIntf with busType := 1, name := strncpy 16 (ascii name), path := strncpy 128 (ascii name) }

/-- The client sends a 1, and the interfaces are routed to each other. -/
def lineEvents : List (RoutedEvent (Dtbl EpPtr) LineEvent) :=
  [.rteipcSend [1], .rtecmdRoute plentyOfMemory plentyOfMemory (rawPacket ["a", "c"])]

theorem lineEvents_run {daemon : Daemon (Dtbl EpPtr)} (pair : RawPair clientEnd lineEnd daemon false false .none .none)
    (client : ifaceOf daemon (rawIntf "a") = some clientEnd.iface) (line : ifaceOf daemon (rawIntf "c") = some lineEnd.iface)
    (ep : GpioEp UInt8) :
    ∃ st, Reaches (RoutedStep dtblTable .lines (gpioBackend plainLine) clientEnd lineEnd (Fetched plainLine.malloc))
        (.ok (.start daemon ep)) lineEvents (.ok st) ∧
      RawPair clientEnd lineEnd st.daemon true true .none .none := by
  have interfaces : (rawPacket ["a", "c"]).interfaces = [rawIntf "a", rawIntf "c"] := rfl
  have queues : ∀ round, (plentyOfMemory round).Queues := fun _ => ⟨fun _ => rfl, rfl⟩
  have framed : ∀ msg ∈ ([] : List (List UInt8)), Framed msg := fun _ member => (List.not_mem_nil member).elim
  obtain ⟨routed, returned, pairRouted⟩ := pair.doRtecmdRoute PacketLib.lines.toEmitLib queues queues framed framed rfl rfl
    interfaces client line
  refine ⟨⟨routed, rteipcBuffer [] [1], [], some ⟨[], []⟩, false, ep, [[1]], [], []⟩, ?_, pairRouted⟩
  refine .cons ⟨_, rfl, ?_, rfl⟩ (.cons ⟨_, rfl, ?_, ?_⟩ (.nil _))
  · exact ⟨⟨rfl, by decide, by decide⟩, rfl⟩
  · exact ⟨queues, queues, _, _, interfaces, .inl ⟨client, line⟩⟩
  · simp only [Routed.step, Routed.start, returned, bind, Except.bind]
    rfl

theorem withLine_run (ep : GpioEp UInt8) :
    ∃ st, Reaches (RoutedStep dtblTable .lines (gpioBackend plainLine) clientEnd lineEnd (Fetched plainLine.malloc))
        (.ok (.start .withLine ep)) lineEvents (.ok st) ∧
      RawPair clientEnd lineEnd st.daemon true true .none .none :=
  lineEvents_run withLine_pair (by decide +kernel) (by decide +kernel) ep

theorem routed_refines_direct_line :
    ∃ st moves direct,
      Reaches (BridgeStep (gpioBackend plainLine)) (.ok (Bridge.start ⟨0, true, false, none⟩)) moves direct ∧
        SameService clientEnd lineEnd (.ok st) direct ∧
          Reaches (RoutedStep dtblTable .lines (gpioBackend plainLine) clientEnd lineEnd (Fetched plainLine.malloc))
            (.ok (.start .withLine ⟨0, true, false, none⟩)) lineEvents (.ok st) := by
  have implements := (gpio_handles plainLine).implements (gpioLoop_law plainLine) fun _ _ => rfl
  obtain ⟨st, run, -⟩ := withLine_run ⟨0, true, false, none⟩
  obtain ⟨moves, direct, reached, same⟩ := routed_refines_direct implements withLine_pair ⟨0, true, false, none⟩ run
  exact ⟨st, moves, direct, reached, same, run⟩

theorem routed_completes_line :
    ∃ (st : Routed (Dtbl EpPtr) (GpioEp UInt8) LineEvent) (count : Nat) (after : _),
      Reaches (RoutedStep dtblTable .lines (gpioBackend plainLine) clientEnd lineEnd (Fetched plainLine.malloc))
          (.ok (.start .withLine ⟨0, true, false, none⟩)) (lineEvents ++
            [.arrive st.output.length, .loopOnData 2 (fun _ => .succeeds) plentyOfMemory, .onData,
              .loopOnData 4 (fun _ => .succeeds) plentyOfMemory, .ipcOnData, .read count]) (.ok after) ∧
        after.Settled clientEnd lineEnd := by
  have implements := (gpio_handles plainLine).implements (gpioLoop_law plainLine) fun _ _ => rfl
  obtain ⟨st, run, routed⟩ := withLine_run ⟨0, true, false, none⟩
  obtain ⟨self, live, -, -, -, partner, -⟩ := routed.leftAt.iface
  have named : (st.daemon.ifaces.get clientEnd.iface).map Interface.partner = some (some lineEnd.iface) := by
    rw [live, Option.map_some, partner]
    rfl
  have queues : ∀ round, (plentyOfMemory round).Queues := fun _ => ⟨fun _ => rfl, rfl⟩
  obtain ⟨count, after, moves, settled, -⟩ := @routed_completes _ _ _ dtblTable .lines _ _ _ st _ _ _ _ _ implements _ _
    withLine_pair ⟨0, true, false, none⟩ lineEvents run named (by simp) (fun _ => .succeeds) plentyOfMemory queues
  exact ⟨st, count, after, run.append moves, settled⟩

end Rteipc
