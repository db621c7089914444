import Rteipc.Data.Run
import Rteipc.Data.Server
import Rteipc.Ep.Ipc
import Rteipc.Message.Loop

namespace Rteipc

/-! A client, the IPC endpoint that serves it, and the endpoint of a device that
this one is bound to: `connect.c`, `ep_ipc.c` and one of the other backends. -/

open Data

/-- What a backend does at its half of a pair. `listens` tells whether its event
is added, and `bev` is what its half has been given to send. -/
structure Backend (Ep Event : Type) where
  onData : Evbuffer → Ep → Except Fault (Ep × Evbuffer)
  listens : Ep → Bool
  upstream : Event → Ep → Ep
  bev : Ep → Option Evbuffer
  setBev : Ep → Option Evbuffer → Ep

/-- `output` and `input` are those of the client's connection, `sent` and
`received` what it has been given to send and has called back with. -/
structure Bridge (Ep Event : Type) where
  output : Evbuffer
  input : Evbuffer
  ipc : IpcEp UInt8
  ep : Ep
  sent : List (List UInt8)
  happened : List Event
  received : List (Nat × List UInt8)

inductive BridgeEvent (Event : Type) where
  | rteipcSend (data : List UInt8)
  | arrive (count : Nat)
  | onData
  | upstream (event : Event)
  | ipcOnData
  | read (count : Nat)
deriving DecidableEq, Repr

namespace Bridge

variable {Ep Event : Type} (backend : Backend Ep Event) (st : Bridge Ep Event)

/-- The client has connected to the bound endpoint. -/
def start (ep : Ep) : Bridge Ep Event := ⟨[], [], (IpcEp.bound UInt8).listenCb, ep, [], [], []⟩

/-- What the half of the device's endpoint has in its input. -/
def peer : Evbuffer := (st.ipc.bev.map BoundPair.peer).getD []

/-- The messages complete in the input of the device's endpoint. -/
def batch : List (Nat × List UInt8) := (msgDrainAll allocates st.peer).1

def onData : Except Fault (Bridge Ep Event) :=
  match st.ipc.bev with
  | none => .ok st
  | some pair => do
      let (ep, peer) ← backend.onData pair.peer (backend.setBev st.ep (some pair.input))
      .ok { st with ep, ipc := { st.ipc with bev := some ⟨(backend.bev ep).getD [], peer⟩ } }

def upstream (event : Event) : Bridge Ep Event :=
  let ep := backend.upstream event (backend.setBev st.ep (st.ipc.bev.map BoundPair.input))
  { st with
    ep
    ipc := { st.ipc with bev := st.ipc.bev.map fun pair => { pair with input := (backend.bev ep).getD [] } }
    happened := st.happened ++ [event] }

/-- `connect_read_cb`, with memory for every message. -/
def read (count : Nat) : Bridge Ep Event :=
  match st.ipc.cli with
  | none => st
  | some cli =>
      let (msgs, input) := msgDrainAll allocates (st.input ++ cli.output.take count)
      { st with
        input
        ipc := { st.ipc with cli := some { cli with output := cli.output.drop count } }
        received := st.received ++ msgs }

/-- The sockets carry some of the bytes at a time. -/
def step : BridgeEvent Event → Except Fault (Bridge Ep Event)
  | .rteipcSend data => .ok { st with output := rteipcBuffer st.output data, sent := st.sent ++ [data] }
  | .arrive count => .ok { st with output := st.output.drop count, ipc := st.ipc.arrive (st.output.take count) }
  | .onData => st.onData backend
  | .upstream event => .ok (st.upstream backend event)
  | .ipcOnData => .ok { st with ipc := st.ipc.ipcOnData }
  | .read count => .ok (st.read count)

/-- All bytes are moved on. -/
def flush : Except Fault (Bridge Ep Event) := do
  let st ← st.step backend (.arrive st.output.length)
  let st ← st.step backend .onData
  let st ← st.step backend .ipcOnData
  st.step backend (.read ((st.ipc.cli.map ClientBev.output).getD []).length)

/-- No byte is on its way. -/
def Settled : Prop :=
  st.output = [] ∧ st.input = [] ∧ st.ipc.cli = some ⟨[], []⟩ ∧ st.ipc.bev = some ⟨[], []⟩

end Bridge

/-- A fault ends the run, and an event comes while the backend listens for it. -/
def BridgeStep {Ep Event : Type} (backend : Backend Ep Event) (st : Except Fault (Bridge Ep Event))
    (event : BridgeEvent Event) (next : Except Fault (Bridge Ep Event)) : Prop :=
  ∃ now, st = .ok now ∧ (∀ happened, event = .upstream happened → backend.listens now.ep = true) ∧
    now.step backend event = next

/-! ## What the bridge is for -/

section Bridge

variable {Ep Event Dev : Type}

/-- The device is as the server that handles the first messages sent and the
events that came one after the other, and the client has the first of the
answers. When no byte is on its way all messages are handled and the client has
all answers, and this comes about when the bytes are moved. -/
structure Serves (backend : Backend Ep Event) (server : Server Dev (Nat × List UInt8) Event) (view : Ep → Dev) (dev : Dev)
    (Ready : Ep → List (Nat × List UInt8) → Prop) (st : Bridge Ep Event) : Prop where
  inOrder : ∃ log : List ((Nat × List UInt8) ⊕ Event), Server.requests log <+: st.sent.map sized ∧
    Server.events log = st.happened ∧ (server.run dev log).1 = view st.ep ∧ st.received <+: (server.run dev log).2 ∧
    (st.Settled → Server.requests log = st.sent.map sized ∧ st.received = (server.run dev log).2)
  completes : Ready st.ep (msgDrainAll allocates (st.peer ++ st.output)).1 →
    ∃ after, st.flush backend = .ok after ∧ after.Settled

def ServesAlways (backend : Backend Ep Event) (server : Server Dev (Nat × List UInt8) Event) (view : Ep → Dev) (dev : Dev)
    (Ready : Ep → List (Nat × List UInt8) → Prop) : Except Fault (Bridge Ep Event) → Prop
  | .ok st => Serves backend server view dev Ready st
  | .error _ => False

/-- The messages that `on_data` finds are ready to be handled. -/
def ReadyBatch (Ready : Ep → List (Nat × List UInt8) → Prop) : Except Fault (Bridge Ep Event) → BridgeEvent Event → Prop
  | .ok st, .onData => Ready st.ep st.batch
  | _, _ => True

/-! ## The bridge as a channel -/

def Backend.code (backend : Backend Ep Event) : ServerCode Ep UInt8 Event where
  onData ep output input :=
    match backend.onData input (backend.setBev ep (some output)) with
    | .error _ => none
    | .ok (after, left) => some (after, (backend.bev after).getD [], left)
  onEvent ep output event :=
    let after := backend.upstream event (backend.setBev ep (some output))
    (after, (backend.bev after).getD [])

def Bridge.channel (st : Bridge Ep Event) (pair : BoundPair UInt8) (down : Evbuffer) :
    Channel Ep (Nat × List UInt8) UInt8 Event where
  up := st.output
  inbox := pair.peer
  code := st.ep
  outbox := pair.input
  down
  input := st.input
  sent := st.sent.map sized
  happened := st.happened
  received := st.received

/-- Fuel for the messages in the bytes. -/
abbrev drainFuel (buf : Evbuffer) : Nat := buf.length + 1

theorem drainFuel_enough : ∀ done rest, (∀ msg ∈ done, msgFormat.Valid msg) →
    done.length < drainFuel (msgFormat.encodeAll done ++ rest) :=
  fun done rest _ => msgFormat_enough done rest

theorem msgDrainAll_eq_drain (buf : Evbuffer) : msgDrainAll allocates buf = msgFormat.drain (drainFuel buf) buf :=
  msgLoop_eq_drain _ buf

/-- The client is connected to the endpoint, and all that it has written has been taken over. -/
def Bridge.Linked (st : Bridge Ep Event) (pair : BoundPair UInt8) (down : Evbuffer) : Prop :=
  st.ipc = ⟨some ⟨[], down⟩, false, some pair⟩

/-- The client is connected, and the log explains the channel. -/
structure BridgeInv (server : Server Dev (Nat × List UInt8) Event) (view : Ep → Dev) (Good : (Nat × List UInt8) → Prop)
    (dev : Dev) (st : Bridge Ep Event) : Prop where
  linked : ∃ pair down, st.Linked pair down ∧ ∃ log waiting undelivered,
    (st.channel pair down).Explained msgFormat server view Good dev log waiting undelivered

variable {backend : Backend Ep Event} {server : Server Dev (Nat × List UInt8) Event} {view : Ep → Dev} {dev : Dev}
  {Good : (Nat × List UInt8) → Prop} {Ready : Ep → List (Nat × List UInt8) → Prop} {st next : Bridge Ep Event}
  {pair : BoundPair UInt8} {down : Evbuffer}

theorem BridgeInv.start (ep : Ep) : BridgeInv server view Good (view ep) (Bridge.start ep : Bridge Ep Event) :=
  ⟨⟨[], []⟩, [], rfl, [], [], [], Channel.Explained.start ep rfl⟩

/-! A step of the bridge is a move of the channel. -/

theorem Bridge.Linked.rteipcSend (linked : st.Linked pair down) (data : List UInt8) :
    ∃ after : Bridge Ep Event, st.step backend (.rteipcSend data) = .ok after ∧ after.Linked pair down ∧
      after.channel pair down = (st.channel pair down).send msgFormat (sized data) := by
  refine ⟨_, rfl, linked, ?_⟩
  simp [Bridge.channel, Channel.send, msgFormat, sized]

theorem Bridge.Linked.arrive (linked : st.Linked pair down) (count : Nat) :
    ∃ (after : Bridge Ep Event) (arrived : _), st.step backend (.arrive count) = .ok after ∧ after.Linked arrived down ∧
      after.channel arrived down = (st.channel pair down).arrive count := by
  refine ⟨_, ⟨pair.input, pair.peer ++ st.output.take count⟩, rfl, ?_, rfl⟩
  simp only [Bridge.Linked] at linked
  simp [Bridge.Linked, IpcEp.arrive, IpcEp.readCb, linked]

theorem Bridge.Linked.upstream (linked : st.Linked pair down) (event : Event) :
    ∃ (after : Bridge Ep Event) (reported : _), st.step backend (.upstream event) = .ok after ∧
      after.Linked reported down ∧ after.channel reported down = (st.channel pair down).event backend.code event := by
  simp only [Bridge.Linked] at linked
  refine ⟨_, ⟨(backend.code.onEvent st.ep pair.input event).2, pair.peer⟩, rfl, ?_, ?_⟩
  · simp only [Bridge.Linked, Bridge.upstream, linked, Option.map_some]
    rfl
  · simp only [Bridge.upstream, linked, Option.map_some]
    rfl

theorem Bridge.Linked.ipcOnData (linked : st.Linked pair down) :
    ∃ (after : Bridge Ep Event) (forwarded : _), st.step backend .ipcOnData = .ok after ∧
      after.Linked forwarded (down ++ pair.input) ∧
        after.channel forwarded (down ++ pair.input) = (st.channel pair down).forward := by
  refine ⟨_, ⟨[], pair.peer⟩, rfl, ?_, rfl⟩
  simp only [Bridge.Linked] at linked
  simp [Bridge.Linked, IpcEp.ipcOnData, linked]

theorem Bridge.Linked.read (linked : st.Linked pair down) (count : Nat) :
    ∃ after : Bridge Ep Event, st.step backend (.read count) = .ok after ∧ after.Linked pair (down.drop count) ∧
      after.channel pair (down.drop count) = (st.channel pair down).receive msgFormat drainFuel count := by
  simp only [Bridge.Linked] at linked
  refine ⟨_, rfl, ?_, ?_⟩
  · simp only [Bridge.Linked, Bridge.read, linked]
  · simp only [Bridge.read, linked, Bridge.channel, Channel.receive, msgDrainAll_eq_drain]

theorem Bridge.Linked.onData (linked : st.Linked pair down) :
    match (st.channel pair down).onData backend.code with
    | none => ∃ fault, st.step backend .onData = .error fault
    | some moved => ∃ (after : Bridge Ep Event) (served : _), st.step backend .onData = .ok after ∧
        after.Linked served down ∧ after.channel served down = moved := by
  simp only [Bridge.Linked] at linked
  have ran : st.step backend .onData =
      (backend.onData pair.peer (backend.setBev st.ep (some pair.input))).bind fun done =>
        .ok { st with ep := done.1, ipc := { st.ipc with bev := some ⟨(backend.bev done.1).getD [], done.2⟩ } } := by
    simp only [Bridge.step, Bridge.onData, linked]
    rfl
  rw [ran]
  simp only [Channel.onData, Bridge.channel, Backend.code]
  cases backend.onData pair.peer (backend.setBev st.ep (some pair.input)) with
  | error fault => exact ⟨fault, rfl⟩
  | ok done => exact ⟨_, ⟨(backend.bev done.1).getD [], done.2⟩, rfl, by rw [Bridge.Linked, linked], rfl⟩

theorem Bridge.Linked.batch (linked : st.Linked pair down) :
    st.batch = (st.channel pair down).batch msgFormat drainFuel := by
  simp only [Bridge.Linked] at linked
  simp only [Bridge.batch, Bridge.peer, linked, Option.map_some, Option.getD_some, msgDrainAll_eq_drain, Channel.batch,
    Bridge.channel]

section Steps

variable (implements : backend.code.Implements msgFormat server view Good Ready)

include implements

theorem BridgeInv.step {event : BridgeEvent Event} (inv : BridgeInv server view Good dev st)
    (good : ∀ data, event = .rteipcSend data → Good (sized data)) (ready : ReadyBatch Ready (.ok st) event) :
    ∃ after, st.step backend event = .ok after ∧ BridgeInv server view Good dev after := by
  obtain ⟨pair, down, linked, log, waiting, undelivered, explained⟩ := inv.linked
  cases event with
  | rteipcSend data =>
      obtain ⟨after, ran, still, moved⟩ := @Bridge.Linked.rteipcSend Ep Event backend st pair down linked data
      refine ⟨after, ran, pair, down, still, log, waiting ++ [sized data], undelivered, ?_⟩
      rw [moved]
      exact explained.send (good data rfl)
  | arrive count =>
      obtain ⟨after, arrived, ran, still, moved⟩ := @Bridge.Linked.arrive Ep Event backend st pair down linked count
      refine ⟨after, ran, arrived, down, still, log, waiting, undelivered, ?_⟩
      rw [moved]
      exact explained.arrive count
  | onData =>
      have handled := (explained.onData implements msgFormat_stuck_nil drainFuel_enough).1
      rw [← linked.batch] at handled
      obtain ⟨left, served, -, code, explainedNext⟩ := handled ready
      have ran := @Bridge.Linked.onData Ep Event backend st pair down linked
      rw [code] at ran
      obtain ⟨after, pairNext, stepped, still, moved⟩ := ran
      rw [← moved] at explainedNext
      exact ⟨after, stepped, pairNext, down, still, _, left, _, explainedNext⟩
  | upstream event =>
      obtain ⟨after, reported, ran, still, moved⟩ := @Bridge.Linked.upstream Ep Event backend st pair down linked event
      have explainedNext := explained.event implements event
      rw [← moved] at explainedNext
      exact ⟨after, ran, reported, down, still, _, waiting, _, explainedNext⟩
  | ipcOnData =>
      obtain ⟨after, forwarded, ran, still, moved⟩ := @Bridge.Linked.ipcOnData Ep Event backend st pair down linked
      refine ⟨after, ran, forwarded, _, still, log, waiting, undelivered, ?_⟩
      rw [moved]
      exact explained.forward
  | read count =>
      obtain ⟨after, ran, still, moved⟩ := @Bridge.Linked.read Ep Event backend st pair down linked count
      obtain ⟨now, later, -, explainedNext⟩ := explained.receive msgFormat_stuck_nil drainFuel_enough count
      refine ⟨after, ran, pair, _, still, log, waiting, later, ?_⟩
      rw [moved]
      exact explainedNext

theorem BridgeInv.unready (inv : BridgeInv server view Good dev st) (unready : ¬Ready st.ep st.batch) :
    ∃ fault, st.step backend .onData = .error fault := by
  obtain ⟨pair, down, linked, log, waiting, undelivered, explained⟩ := inv.linked
  have faults := (explained.onData implements msgFormat_stuck_nil drainFuel_enough).2
  rw [← linked.batch] at faults
  have ran := @Bridge.Linked.onData Ep Event backend st pair down linked
  rwa [faults unready] at ran

theorem BridgeInv.completes (inv : BridgeInv server view Good dev st)
    (ready : Ready st.ep (msgDrainAll allocates (st.peer ++ st.output)).1) :
    ∃ after, st.flush backend = .ok after ∧ after.Settled := by
  obtain ⟨pair, down, linked, log, waiting, undelivered, explained⟩ := inv.linked
  obtain ⟨first, arrived, ranFirst, linkedFirst, movedFirst⟩ :=
    @Bridge.Linked.arrive Ep Event backend st pair down linked st.output.length
  have batch : (msgDrainAll allocates (st.peer ++ st.output)).1 =
      ((st.channel pair down).arrive (st.channel pair down).up.length).batch msgFormat drainFuel := by
    simp only [Bridge.Linked] at linked
    simp only [Bridge.peer, linked, Option.map_some, Option.getD_some, msgDrainAll_eq_drain, Channel.batch, Bridge.channel,
      Channel.arrive, List.take_length]
  rw [batch] at ready
  obtain ⟨served, code, settled⟩ := explained.flush implements msgFormat_stuck_nil drainFuel_enough ready
  rw [show (st.channel pair down).up = st.output from rfl, ← movedFirst] at code
  have ranSecond := @Bridge.Linked.onData Ep Event backend first arrived down linkedFirst
  rw [code] at ranSecond
  obtain ⟨second, pairNext, ranSecond, linkedSecond, movedSecond⟩ := ranSecond
  obtain ⟨third, forwarded, ranThird, linkedThird, movedThird⟩ :=
    @Bridge.Linked.ipcOnData Ep Event backend second pairNext down linkedSecond
  obtain ⟨last, ranLast, linkedLast, movedLast⟩ :=
    @Bridge.Linked.read Ep Event backend third forwarded _ linkedThird (down ++ pairNext.input).length
  have waits : (third.ipc.cli.map ClientBev.output).getD [] = down ++ pairNext.input := by
    simp only [Bridge.Linked] at linkedThird
    simp only [linkedThird, Option.map_some, Option.getD_some]
  have flushed : st.flush backend = .ok last := by
    simp only [Bridge.flush, ranFirst, ranSecond, ranThird, bind, Except.bind, waits, ranLast]
  refine ⟨last, flushed, ?_⟩
  rw [movedThird, movedSecond] at movedLast
  have toClient : (down ++ pairNext.input).length = served.forward.down.length := by
    rw [← movedSecond]
    rfl
  rw [toClient] at movedLast linkedLast
  rw [← movedLast] at settled
  obtain ⟨output, peer, pairInput, -, input⟩ := settled
  refine ⟨output, input, ?_, ?_⟩
  · rw [Bridge.Linked] at linkedLast
    rw [linkedLast, ← toClient, List.drop_length]
  · rw [Bridge.Linked] at linkedLast
    rw [linkedLast]
    exact congrArg some (congrArg₂ BoundPair.mk pairInput peer)

theorem BridgeInv.serves (inv : BridgeInv server view Good dev st) : Serves backend server view dev Ready st := by
  refine ⟨?_, fun ready => inv.completes implements ready⟩
  obtain ⟨pair, down, linked, log, waiting, undelivered, explained⟩ := inv.linked
  obtain ⟨log, requests, happened, code, received, settled⟩ := explained.sequential msgFormat_stuck_nil implements.good
  refine ⟨log, requests, happened, code, received, fun quiet => settled ?_⟩
  obtain ⟨output, input, cli, bev⟩ := quiet
  rw [Bridge.Linked] at linked
  rw [linked] at cli bev
  obtain ⟨-, toClient⟩ := ClientBev.mk.inj (Option.some.inj cli)
  obtain ⟨pairInput, peer⟩ := BoundPair.mk.inj (Option.some.inj bev)
  exact ⟨output, peer, pairInput, toClient, input⟩

/-- In every run the backend serves the client in order if and only if what it
finds in its input is always ready to be handled. -/
theorem bridge_serves_iff (ep : Ep) (events : List (BridgeEvent Event))
    (good : ∀ data, .rteipcSend data ∈ events → Good (sized data)) :
    Always (BridgeStep backend) (ServesAlways backend server view (view ep) Ready) (.ok (Bridge.start ep)) events ↔
      Guarded (BridgeStep backend) (ReadyBatch Ready) (.ok (Bridge.start ep)) events := by
  suffices from_inv : ∀ st : Bridge Ep Event, BridgeInv server view Good (view ep) st →
      (Always (BridgeStep backend) (ServesAlways backend server view (view ep) Ready) (.ok st) events ↔
        Guarded (BridgeStep backend) (ReadyBatch Ready) (.ok st) events) from from_inv _ (BridgeInv.start ep)
  induction events with
  | nil => exact fun st inv => iff_of_true (inv.serves implements) trivial
  | cons event rest ih =>
      intro st inv
      have goodNow : ∀ data, event = .rteipcSend data → Good (sized data) := fun data same =>
        good data (same ▸ List.mem_cons_self)
      have goodLater : ∀ data, .rteipcSend data ∈ rest → Good (sized data) := fun data member =>
        good data (List.mem_cons_of_mem _ member)
      constructor
      · intro always next taken
        have following := always.2 next taken
        obtain ⟨now, same, -, ran⟩ := taken
        cases same
        have ready : ReadyBatch Ready (.ok st) event := by
          cases event with
          | onData =>
              by_contra unready
              obtain ⟨fault, faulted⟩ := inv.unready implements unready
              rw [ran] at faulted
              rw [faulted] at following
              exact following.start
          | rteipcSend | arrive | upstream | ipcOnData | read => trivial
        obtain ⟨after, stepped, invNext⟩ := inv.step implements goodNow ready
        rw [ran] at stepped
        subst stepped
        exact ⟨ready, (ih goodLater after invNext).mp following⟩
      · intro guarded
        refine ⟨inv.serves implements, fun next taken => ?_⟩
        obtain ⟨ready, following⟩ := guarded next taken
        obtain ⟨now, same, -, ran⟩ := taken
        cases same
        obtain ⟨after, stepped, invNext⟩ := inv.step implements goodNow ready
        rw [ran] at stepped
        subst stepped
        exact (ih goodLater after invNext).mpr following

end Steps

end Bridge

end Rteipc
