import Rteipc.Data.Relay
import Rteipc.Endpoint.Binding
import Rteipc.Ep.Ipc

namespace Rteipc

/-! The IPC and INET endpoint of `ep_ipc.c` while clients come and go and it is
bound and unbound: what restarts the flow that was held back. -/

open Data

/-! ## Binding seen from one endpoint -/

namespace IpcEp

variable {Byte : Type} (self : IpcEp Byte)

def opened (Byte : Type) : IpcEp Byte := ⟨none, true, none⟩

/-- A new pair is empty, and the client is not looked at. -/
def bindEndpoint : IpcEp Byte := { self with bev := some ⟨[], []⟩ }

/-- `bufferevent_free` drops what the pair still holds. -/
def unbindEndpoint : IpcEp Byte := { self with bev := none }

/-- What has come from the client and was not forwarded. -/
def clientInput : List Byte := (self.cli.map ClientBev.input).getD []

/-- What has come from the endpoint it is bound to and was not forwarded. -/
def pairInput : List Byte := (self.bev.map BoundPair.input).getD []

/-- `bufferevent_flush` at the end of `listen_cb` finds something to read. -/
def flushes : Bool := !self.pairInput.isEmpty

end IpcEp

/-- The pair of an endpoint, as its half and the input of the other one. -/
def EpState.boundPair {Table Cb Arg : Type} (st : EpState Table Cb Arg) (ep : EpPtr) : Option (BoundPair UInt8) := do
  let core ← st.cores.get ep
  let half ← st.bevs.get (← core.bev)
  let other ← st.bevs.get (← half.partner)
  some ⟨half.input, other.input⟩

section Views

variable {Table Cb Arg : Type} {st : EpState Table Cb Arg} {ep other : EpPtr} {core partner : EpCore}

theorem bindPair_halves :
    (bindPair st ep other core partner).bevs.get st.bevs.next = some ⟨some (st.bevs.next + 1), []⟩ ∧
      (bindPair st ep other core partner).bevs.get (st.bevs.next + 1) = some ⟨some st.bevs.next, []⟩ := by
  simp [bindPair, Heap.alloc]

theorem bindPair_boundPair (live : st.cores.get ep = some core) (otherLive : st.cores.get other = some partner)
    (differ : ep ≠ other) :
    (bindPair st ep other core partner).boundPair ep = some ⟨[], []⟩ ∧
      (bindPair st ep other core partner).boundPair other = some ⟨[], []⟩ := by
  constructor
  · simp [EpState.boundPair, bindPair_left live differ, bindPair_halves]
  · simp [EpState.boundPair, bindPair_right otherLive differ, bindPair_halves]

theorem unlinked_boundPair {first second : BevPtr} (live : st.cores.get ep = some core) :
    (unlinked st ep other first second).boundPair ep = none := by
  simp [EpState.boundPair, unlinked_get, live, EpCore.unbound]

end Views

/-! ## Events -/

/-- The endpoint, whether the read callback of its half is to run, and what the
clients and the endpoints it was bound to have written and been given so far. -/
structure FlowState (Byte : Type) where
  ep : IpcEp Byte
  triggered : Bool
  clients : List (List Byte)
  client : List Byte
  partners : List (List Byte)
  partner : List Byte
  delivered : List Byte
  served : List Byte

namespace FlowState

variable {Byte : Type} (st : FlowState Byte)

def start (Byte : Type) : FlowState Byte := ⟨.opened Byte, false, [], [], [], [], [], []⟩

def toPartners : List Byte := st.delivered ++ (st.ep.bev.map BoundPair.peer).getD []

def toClients : List Byte := st.served ++ (st.ep.cli.map ClientBev.output).getD []

end FlowState

inductive FlowEvent (Byte : Type) where
  | connect
  | arrive (bytes : List Byte)
  | disconnect
  | peerWrites (bytes : List Byte)
  | onData
  | rteipcBind
  | rteipcUnbind

variable {Byte : Type}

/-- A read callback fires on new data.  That of the client's socket runs at
once, and that of the pair is deferred until `onData`. -/
inductive FlowStep (st : FlowState Byte) : FlowEvent Byte → FlowState Byte → Prop
  | connect (accepting : st.ep.accepting = true) :
      FlowStep st .connect { st with ep := st.ep.listenCb, triggered := st.triggered || st.ep.flushes }
  | arrive (bytes : List Byte) (connected : st.ep.cli.isSome = true) (new : bytes ≠ []) :
      FlowStep st (.arrive bytes) { st with ep := st.ep.arrive bytes, client := st.client ++ bytes }
  | disconnect (connected : st.ep.cli.isSome = true) :
      FlowStep st .disconnect
        { st with
            ep := st.ep.eventCb
            clients := st.clients ++ [st.client]
            client := []
            served := st.toClients }
  | peerWrites (bytes : List Byte) (bound : st.ep.bev.isSome = true) (new : bytes ≠ []) :
      FlowStep st (.peerWrites bytes)
        { st with ep := st.ep.peerWrites bytes, triggered := true, partner := st.partner ++ bytes }
  | onData (triggered : st.triggered = true) :
      FlowStep st .onData { st with ep := st.ep.ipcOnData, triggered := false }
  | rteipcBind (idle : st.ep.bev = none) : FlowStep st .rteipcBind { st with ep := st.ep.bindEndpoint }
  | rteipcUnbind (bound : st.ep.bev.isSome = true) :
      FlowStep st .rteipcUnbind
        { st with
            ep := st.ep.unbindEndpoint
            triggered := false
            partners := st.partners ++ [st.partner]
            partner := []
            delivered := st.toPartners }

/-- Nothing waits at a bound endpoint with a client once the triggered callback
has run, and each direction is a relay. -/
structure Flows (st : FlowState Byte) : Prop where
  settled : st.triggered = false → st.ep.cli.isSome = true → st.ep.bev.isSome = true →
    st.ep.clientInput = [] ∧ st.ep.pairInput = []
  fromClients : Relays st.clients st.client st.ep.clientInput st.toPartners
  fromPartners : Relays st.partners st.partner st.ep.pairInput st.toClients

/-- The endpoint is bound while nothing of the client waits. -/
def ClientForwarded (st : FlowState Byte) : FlowEvent Byte → Prop
  | .rteipcBind => st.ep.clientInput = []
  | _ => True

/-! ## What every step keeps -/

/-- With a client, what waits in the pair has triggered the read callback. -/
structure FlowInv (st : FlowState Byte) : Prop where
  accepting : st.ep.accepting = true → st.ep.cli = none
  clear : st.ep.bev.isSome = true → st.ep.clientInput = []
  pending : st.ep.cli.isSome = true → st.ep.pairInput ≠ [] → st.triggered = true
  idle : st.ep.bev = none → st.triggered = false
  fromClients : Relays st.clients st.client st.ep.clientInput st.toPartners
  fromPartners : Relays st.partners st.partner st.ep.pairInput st.toClients

section Steps

variable {st next : FlowState Byte}

theorem FlowInv.start : FlowInv (FlowState.start Byte) where
  accepting _ := rfl
  clear bound := nomatch bound
  pending connected := nomatch connected
  idle _ := rfl
  fromClients := .start
  fromPartners := .start

theorem FlowInv.flows (inv : FlowInv st) : Flows st where
  settled untriggered connected bound := by
    refine ⟨inv.clear bound, ?_⟩
    by_contra waits
    nomatch untriggered.symm.trans (inv.pending connected waits)
  fromClients := inv.fromClients
  fromPartners := inv.fromPartners

theorem FlowInv.connect (inv : FlowInv st) (accepting : st.ep.accepting = true) :
    FlowInv { st with ep := st.ep.listenCb, triggered := st.triggered || st.ep.flushes } := by
  have alone := inv.accepting accepting
  refine ⟨nofun, fun _ => rfl, fun _ waits => ?_, fun unbound => ?_, ?_, ?_⟩
  · have left : st.ep.pairInput ≠ [] := waits
    simp [IpcEp.flushes, left]
  · have none : st.ep.bev = none := unbound
    simp [inv.idle none, IpcEp.flushes, IpcEp.pairInput, none]
  · have fromClients := inv.fromClients
    simp only [IpcEp.clientInput, alone] at fromClients
    exact fromClients
  · have fromPartners := inv.fromPartners
    simp only [FlowState.toClients, alone] at fromPartners
    exact fromPartners

theorem FlowInv.arrive (inv : FlowInv st) (bytes : List Byte) (connected : st.ep.cli.isSome = true) :
    FlowInv { st with ep := st.ep.arrive bytes, client := st.client ++ bytes } := by
  obtain ⟨cli, client⟩ := Option.isSome_iff_exists.mp connected
  have sent := inv.fromClients.send bytes
  have fromPartners := inv.fromPartners
  cases bound : st.ep.bev with
  | none =>
      have arrived : st.ep.arrive bytes = { st.ep with cli := some { cli with input := cli.input ++ bytes } } := by
        simp [IpcEp.arrive, IpcEp.readCb, client, bound]
      rw [arrived]
      refine ⟨fun accepting => ?_, ?_, ?_, ?_, ?_, ?_⟩
      · cases (inv.accepting accepting).symm.trans client
      · simp [bound]
      · simp [IpcEp.pairInput, bound]
      · exact fun _ => inv.idle bound
      · simpa [IpcEp.clientInput, FlowState.toPartners, client, bound] using sent
      · simpa [IpcEp.pairInput, FlowState.toClients, client, bound] using fromPartners
  | some pair =>
      have arrived : st.ep.arrive bytes = { st.ep with
          cli := some { cli with input := [] }
          bev := some { pair with peer := pair.peer ++ (cli.input ++ bytes) } } := by
        simp [IpcEp.arrive, IpcEp.readCb, client, bound]
      rw [arrived]
      refine ⟨fun accepting => ?_, fun _ => rfl, fun _ waits => ?_, fun unbound => (by cases unbound), ?_, ?_⟩
      · cases (inv.accepting accepting).symm.trans client
      · apply inv.pending connected
        simpa [IpcEp.pairInput, bound] using waits
      · simpa [IpcEp.clientInput, FlowState.toPartners, client, bound] using sent.forward
      · simpa [IpcEp.pairInput, FlowState.toClients, client, bound] using fromPartners

theorem FlowInv.disconnect (inv : FlowInv st) :
    FlowInv
      { st with ep := st.ep.eventCb, clients := st.clients ++ [st.client], client := [], served := st.toClients } := by
  refine ⟨fun _ => rfl, fun _ => rfl, nofun, inv.idle, inv.fromClients.leave, ?_⟩
  simpa [IpcEp.eventCb, FlowState.toClients, IpcEp.pairInput] using inv.fromPartners

theorem FlowInv.peerWrites (inv : FlowInv st) (bytes : List Byte) (bound : st.ep.bev.isSome = true) :
    FlowInv { st with ep := st.ep.peerWrites bytes, triggered := true, partner := st.partner ++ bytes } := by
  obtain ⟨pair, bound⟩ := Option.isSome_iff_exists.mp bound
  have sent := inv.fromPartners.send bytes
  have fromClients := inv.fromClients
  have wrote : st.ep.peerWrites bytes = { st.ep with bev := some { pair with input := pair.input ++ bytes } } := by
    simp [IpcEp.peerWrites, bound]
  rw [wrote]
  refine ⟨inv.accepting, fun _ => inv.clear (Option.isSome_of_eq_some bound), fun _ _ => rfl,
    fun unbound => (by cases unbound), ?_, ?_⟩
  · simpa [IpcEp.clientInput, FlowState.toPartners, bound] using fromClients
  · simpa [IpcEp.pairInput, FlowState.toClients, bound] using sent

theorem FlowInv.onData (inv : FlowInv st) : FlowInv { st with ep := st.ep.ipcOnData, triggered := false } := by
  have fromClients := inv.fromClients
  cases client : st.ep.cli with
  | none =>
      have same : st.ep.ipcOnData = st.ep := by simp [IpcEp.ipcOnData, client]
      rw [same]
      refine ⟨inv.accepting, inv.clear, fun connected => ?_, fun _ => rfl, fromClients, inv.fromPartners⟩
      simp [client] at connected
  | some cli =>
      cases bound : st.ep.bev with
      | none =>
          have same : st.ep.ipcOnData = st.ep := by simp [IpcEp.ipcOnData, bound]
          rw [same]
          refine ⟨inv.accepting, inv.clear, fun _ waits => ?_, fun _ => rfl, fromClients, inv.fromPartners⟩
          simp [IpcEp.pairInput, bound] at waits
      | some pair =>
          have moved : st.ep.ipcOnData = { st.ep with
              cli := some { cli with output := cli.output ++ pair.input }, bev := some { pair with input := [] } } := by
            simp [IpcEp.ipcOnData, client, bound]
          have cleared := inv.clear (Option.isSome_of_eq_some bound)
          rw [moved]
          refine ⟨fun accepting => ?_, fun _ => ?_, fun _ waits => (waits rfl).elim,
            fun unbound => (by cases unbound), ?_, ?_⟩
          · cases (inv.accepting accepting).symm.trans client
          · simpa [IpcEp.clientInput, client] using cleared
          · simpa [IpcEp.clientInput, FlowState.toPartners, client, bound] using fromClients
          · simpa [IpcEp.pairInput, FlowState.toClients, client, bound] using inv.fromPartners.forward

theorem FlowInv.bind (inv : FlowInv st) (idle : st.ep.bev = none) (forwarded : st.ep.clientInput = []) :
    FlowInv { st with ep := st.ep.bindEndpoint } := by
  refine ⟨inv.accepting, fun _ => forwarded, fun _ waits => (waits rfl).elim, nofun, ?_, ?_⟩
  · simpa [FlowState.toPartners, IpcEp.bindEndpoint, IpcEp.clientInput, idle] using inv.fromClients
  · simpa [FlowState.toClients, IpcEp.bindEndpoint, IpcEp.pairInput, idle] using inv.fromPartners

theorem FlowInv.unbind (inv : FlowInv st) :
    FlowInv
      { st with
          ep := st.ep.unbindEndpoint
          triggered := false
          partners := st.partners ++ [st.partner]
          partner := []
          delivered := st.toPartners } := by
  refine ⟨inv.accepting, nofun, fun _ waits => (waits rfl).elim, fun _ => rfl, ?_, inv.fromPartners.leave⟩
  simpa [FlowState.toPartners, IpcEp.unbindEndpoint, IpcEp.clientInput] using inv.fromClients

theorem FlowInv.step {event : FlowEvent Byte} (inv : FlowInv st) (forwarded : ClientForwarded st event)
    (taken : FlowStep st event next) : FlowInv next := by
  cases taken with
  | connect accepting => exact inv.connect accepting
  | arrive bytes connected => exact inv.arrive bytes connected
  | disconnect => exact inv.disconnect
  | peerWrites bytes bound => exact inv.peerWrites bytes bound
  | onData => exact inv.onData
  | rteipcBind idle => exact inv.bind idle forwarded
  | rteipcUnbind => exact inv.unbind

theorem FlowInv.bind_settled (inv : FlowInv st) (idle : st.ep.bev = none)
    (flows : Flows { st with ep := st.ep.bindEndpoint }) : st.ep.clientInput = [] := by
  cases client : st.ep.cli with
  | none => simp [IpcEp.clientInput, client]
  | some cli => exact (flows.settled (inv.idle idle) (Option.isSome_of_eq_some client) rfl).1

end Steps

/-- In every state of a run nothing is stuck at the endpoint if and only if it is
only bound while nothing of its client waits. -/
theorem flows_iff (events : List (FlowEvent Byte)) :
    Always FlowStep Flows (FlowState.start Byte) events ↔ Guarded FlowStep ClientForwarded (FlowState.start Byte) events := by
  have preserved : ∀ st event next, FlowInv st → ClientForwarded st event → FlowStep st event next → FlowInv next :=
    fun (st : FlowState Byte) _ _ inv forwarded taken => inv.step forwarded taken
  apply always_iff_guarded_of preserved _ _ FlowInv.start
  · exact fun _ inv => inv.flows
  · intro st event next inv taken flows
    cases taken with
    | rteipcBind idle => exact inv.bind_settled idle flows
    | _ => trivial

/-- A client writes a byte before the endpoint is bound. -/
theorem client_bytes_stuck : ¬ ∀ (events : List (FlowEvent UInt8)) st,
    Reaches FlowStep (FlowState.start UInt8) events st → Flows st := by
  intro all
  have run : Reaches FlowStep (FlowState.start UInt8) [.connect, .arrive [1], .rteipcBind] _ :=
    .cons (.connect rfl) (.cons (.arrive [1] rfl (List.cons_ne_nil _ _)) (.cons (.rteipcBind rfl) (.nil _)))
  have stuck := ((all _ _ run).settled rfl rfl rfl).1
  nomatch stuck

end Rteipc
