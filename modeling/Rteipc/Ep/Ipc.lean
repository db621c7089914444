import Rteipc.Data.Run
import Rteipc.Message.Stream

namespace Rteipc

/-! The IPC and INET endpoint of `ep_ipc.c` while it is bound: one client after
the other is served by one half of a bufferevent pair. -/

open Data

/-- The bufferevent of a client's socket. -/
structure ClientBev (Byte : Type) where
  input : List Byte
  output : List Byte

/-- The pair of a bound endpoint: `input` is that of its own half `self->bev`,
and what is added to the output of that half arrives in `peer`, the input of
the endpoint it is bound to. -/
structure BoundPair (Byte : Type) where
  input : List Byte
  peer : List Byte

/-- `struct ipc_data` and `self->bev`. `accepting` tells whether the listener
has `listen_cb`. -/
structure IpcEp (Byte : Type) where
  cli : Option (ClientBev Byte)
  accepting : Bool
  bev : Option (BoundPair Byte)

namespace IpcEp

variable {Byte : Type} (self : IpcEp Byte)

def bound (Byte : Type) : IpcEp Byte := ⟨none, true, some ⟨[], []⟩⟩

/-- `bufferevent_free` drops what the client's bufferevent still holds. -/
def eventCb : IpcEp Byte := { self with cli := none, accepting := true }

def readCb : IpcEp Byte :=
  match self.cli, self.bev with
  | some cli, some pair =>
      { self with
          cli := some { cli with input := [] }
          bev := some { pair with peer := pair.peer ++ cli.input } }
  | _, _ => self

/-- Only while `accepting`. The callbacks of a pair are deferred: the flush at
the end, like data that arrives, makes `ipc_on_data` run some time later. -/
def listenCb : IpcEp Byte := { self with cli := some ⟨[], []⟩, accepting := false }

def ipcOnData : IpcEp Byte :=
  match self.cli, self.bev with
  | some cli, some pair =>
      { self with
          cli := some { cli with output := cli.output ++ pair.input }
          bev := some { pair with input := [] } }
  | _, _ => self

def arrive (bytes : List Byte) : IpcEp Byte :=
  IpcEp.readCb { self with cli := self.cli.map fun cli => { cli with input := cli.input ++ bytes } }

/-- The endpoint it is bound to writes to its half. -/
def peerWrites (bytes : List Byte) : IpcEp Byte :=
  { self with bev := self.bev.map fun pair => { pair with input := pair.input ++ bytes } }

/-- Nobody is served while the listener accepts, and all that the endpoint has
in its queues is good. -/
structure Holds (ep : IpcEp Byte) (good : Byte → Prop) : Prop where
  accepting : ep.accepting = true → ep.cli = none
  cli : ∀ cli, ep.cli = some cli → ∀ byte ∈ cli.input ++ cli.output, good byte
  pair : ∀ pair, ep.bev = some pair → ∀ byte ∈ pair.peer ++ pair.input, good byte

variable {ep : IpcEp Byte} {good : Byte → Prop}

theorem Holds.eventCb (holds : ep.Holds good) : ep.eventCb.Holds good := ⟨fun _ => rfl, nofun, holds.pair⟩

theorem Holds.listenCb (holds : ep.Holds good) : ep.listenCb.Holds good where
  accepting refused := nomatch refused
  cli cli connected byte member := by
    obtain rfl := Option.some.inj connected
    nomatch member
  pair := holds.pair

theorem Holds.readCb (holds : ep.Holds good) : ep.readCb.Holds good := by
  unfold IpcEp.readCb
  split
  next cli pair client bound =>
    have fromClient := holds.cli cli client
    have fromPair := holds.pair pair bound
    refine ⟨fun accepting => (nomatch (holds.accepting accepting).symm.trans client), ?_, ?_⟩
    · rintro _ ⟨⟩ byte member
      exact fromClient byte (by simpa using .inr member)
    · rintro _ ⟨⟩ byte member
      grind
  next => exact holds

theorem Holds.ipcOnData (holds : ep.Holds good) : ep.ipcOnData.Holds good := by
  unfold IpcEp.ipcOnData
  split
  next cli pair client bound =>
    have fromClient := holds.cli cli client
    have fromPair := holds.pair pair bound
    refine ⟨fun accepting => (nomatch (holds.accepting accepting).symm.trans client), ?_, ?_⟩
    · rintro _ ⟨⟩ byte member
      grind
    · rintro _ ⟨⟩ byte member
      grind
  next => exact holds

theorem Holds.arrive (holds : ep.Holds good) {bytes : List Byte} (new : ∀ byte ∈ bytes, good byte) :
    (ep.arrive bytes).Holds good := by
  refine Holds.readCb ⟨fun accepting => by simp only [holds.accepting accepting, Option.map_none], ?_, holds.pair⟩
  intro cli connected byte member
  obtain ⟨before, client, rfl⟩ := Option.map_eq_some_iff.mp connected
  have fromClient := holds.cli before client
  grind

theorem Holds.peerWrites (holds : ep.Holds good) {bytes : List Byte} (new : ∀ byte ∈ bytes, good byte) :
    (ep.peerWrites bytes).Holds good := by
  refine ⟨holds.accepting, holds.cli, ?_⟩
  intro pair connected byte member
  obtain ⟨before, bound, rfl⟩ := Option.map_eq_some_iff.mp connected
  have fromPair := holds.pair before bound
  grind

end IpcEp

/-! ## Sessions -/

/-- A client with the messages it set out to write, and its bytes that came. -/
structure Session where
  msgs : List (List UInt8)
  received : Evbuffer

/-- The messages the client sent completely, with their sizes. -/
def Session.complete (session : Session) : List (Nat × List UInt8) :=
  msgFormat.whole (session.msgs.map sized) session.received

/-- The bytes of the frame the client's bytes break off in. -/
def Session.cut (session : Session) : Evbuffer :=
  session.received.drop (msgFormat.encodeAll session.complete).length

/-- The messages of which at least a byte has come. -/
def Session.begun (session : Session) : List (List UInt8) :=
  session.msgs.take (session.complete.length + if session.cut = [] then 0 else 1)

/-- The endpoint with all its clients so far, and what the endpoint it is bound
to has obtained with `rteipc_msg_drain`. -/
structure IpcRun where
  ep : IpcEp UInt8
  past : List Session
  current : Option Session
  obtained : List (Nat × List UInt8)

def IpcRun.start : IpcRun := ⟨.bound UInt8, [], none, []⟩

def IpcRun.sessions (st : IpcRun) : List Session := st.past ++ st.current.toList

/-- What the endpoint it is bound to would obtain now. -/
def IpcRun.waiting (st : IpcRun) : List (Nat × List UInt8) × Evbuffer :=
  msgDrainAll allocates ((st.ep.bev.map BoundPair.peer).getD [])

inductive IpcEvent where
  | connect (msgs : List (List UInt8))
  | arrive (bytes : Evbuffer)
  | disconnect
  | peerDrains
  | peerWrites (bytes : Evbuffer)
  | onData

/-- A client writes the frames of its messages and may disconnect after any
part of them. -/
inductive IpcStep (st : IpcRun) : IpcEvent → IpcRun → Prop
  | connect (msgs : List (List UInt8)) (accepting : st.ep.accepting = true) :
      IpcStep st (.connect msgs) { st with ep := st.ep.listenCb, current := some ⟨msgs, []⟩ }
  | arrive (bytes : Evbuffer) (session : Session) (served : st.current = some session)
      (frames : session.received ++ bytes <+: session.msgs.flatMap frame) :
      IpcStep st (.arrive bytes)
        { st with ep := st.ep.arrive bytes, current := some { session with received := session.received ++ bytes } }
  | disconnect (session : Session) (served : st.current = some session) :
      IpcStep st .disconnect { st with ep := st.ep.eventCb, past := st.past ++ [session], current := none }
  | peerDrains :
      IpcStep st .peerDrains
        { st with
            ep := { st.ep with bev := st.ep.bev.map fun pair => { pair with peer := st.waiting.2 } }
            obtained := st.obtained ++ st.waiting.1 }
  | peerWrites (bytes : Evbuffer) : IpcStep st (.peerWrites bytes) { st with ep := st.ep.peerWrites bytes }
  | onData : IpcStep st .onData { st with ep := st.ep.ipcOnData }

/-- Every message obtained was sent completely by one client, and those sent
completely are, in order, the ones obtained and the ones waiting to be. -/
structure ClientsApart (st : IpcRun) : Prop where
  own : ∀ msg ∈ st.obtained, ∃ session ∈ st.sessions, msg ∈ session.complete
  once : st.obtained ++ st.waiting.1 = st.sessions.flatMap Session.complete

/-- No earlier client's bytes broke off in a frame when the bytes come, and the
messages these begin have between 1 and 2^32-5 bytes. -/
def AtBoundary (st : IpcRun) : IpcEvent → Prop
  | .arrive bytes =>
      bytes = [] ∨ (∀ session ∈ st.past, session.cut = []) ∧
        ∀ session ∈ st.current,
          ∀ msg ∈ Session.begun { session with received := session.received ++ bytes }, Deliverable msg
  | _ => True

/-! ## One session -/

/-- The bytes that came are a beginning of the client's frames. -/
def Session.Genuine (session : Session) : Prop := session.received <+: session.msgs.flatMap frame

/-- The rest of the bytes belong to the next message, if any came of it. -/
theorem Session.Genuine.split {session : Session} (genuine : session.Genuine) :
    ∃ next, session.begun.map sized = session.complete ++ next ∧
      session.received = msgFormat.encodeAll session.complete ++ session.cut ∧
      msgFormat.Waiting [] next session.cut := by
  have arrived : session.received <+: msgFormat.encodeAll (session.msgs.map sized) ++ [] := by
    rw [msgFormat_encodeAll, List.append_nil]
    exact genuine
  obtain ⟨left, rest, msgs, bytes, waiting⟩ := FrameFormat.whole_split arrived
  have cut : session.cut = rest := by
    unfold Session.cut
    conv => lhs; rw [bytes]
    exact List.drop_left
  have begun : session.begun.map sized =
      (session.complete ++ left).take (session.complete.length + if session.cut = [] then 0 else 1) := by
    rw [Session.begun, List.map_take, msgs]
    rfl
  rw [← cut] at bytes waiting
  rw [List.take_length_add_append] at begun
  refine ⟨_, begun, bytes, ?_⟩
  split
  next none =>
    rw [none]
    exact List.prefix_rfl
  next some =>
    cases left with
    | nil => exact (some (List.prefix_nil.mp waiting)).elim
    | cons next later => exact waiting

theorem Session.Genuine.more {session : Session} {bytes : Evbuffer}
    (genuine : Session.Genuine { session with received := session.received ++ bytes }) :
    ∃ new, Session.complete { session with received := session.received ++ bytes } = session.complete ++ new ∧
      session.cut ++ bytes =
        msgFormat.encodeAll new ++ Session.cut { session with received := session.received ++ bytes } := by
  have before : session.Genuine := (List.prefix_append _ _).trans genuine
  obtain ⟨-, -, old, -⟩ := before.split
  obtain ⟨-, -, all, -⟩ := genuine.split
  obtain ⟨new, more⟩ : session.complete <+: Session.complete { session with received := session.received ++ bytes } :=
    FrameFormat.whole_prefix bytes
  refine ⟨new, more.symm, ?_⟩
  rw [← more, FrameFormat.encodeAll_append, List.append_assoc] at all
  conv at all => lhs; rw [old, List.append_assoc]
  exact List.append_cancel_left all

theorem Session.empty_complete (msgs : List (List UInt8)) : Session.complete ⟨msgs, []⟩ = [] := by
  cases msgs with
  | nil => rfl
  | cons msg msgs =>
      rw [Session.complete, List.map_cons, FrameFormat.whole, if_neg]
      exact Nat.not_succ_le_zero _

theorem Session.empty_cut (msgs : List (List UInt8)) : Session.cut ⟨msgs, []⟩ = [] := List.drop_nil

/-! ## Runs -/

/-- The bound endpoint holds the frames it has yet to drain and the beginning of
one more. -/
structure IpcInv (st : IpcRun) : Prop where
  accepting : st.ep.accepting = true → st.current = none
  served : st.current.isSome = true → ∃ cli, st.ep.cli = some cli ∧ cli.input = []
  genuine : ∀ session ∈ st.sessions, session.Genuine
  queue : ∃ pair queued next, st.ep.bev = some pair ∧
    pair.peer = msgFormat.encodeAll queued ++ st.sessions.flatMap Session.cut ∧
    st.obtained ++ queued = st.sessions.flatMap Session.complete ∧
    (∀ msg ∈ queued, msgFormat.Valid msg) ∧ (∀ msg ∈ next, msgFormat.Valid msg) ∧
    msgFormat.Waiting [] next (st.sessions.flatMap Session.cut)

section Runs

variable {st next : IpcRun}

theorem drain_queue {queued later : List (Nat × List UInt8)} {cut : Evbuffer}
    (valid : ∀ msg ∈ queued, msgFormat.Valid msg) (validLater : ∀ msg ∈ later, msgFormat.Valid msg)
    (waiting : msgFormat.Waiting [] later cut) :
    msgDrainAll allocates (msgFormat.encodeAll queued ++ cut) = (queued, cut) := by
  rw [msgDrainAll, msgLoop_eq_drain]
  exact FrameFormat.drain_waiting msgFormat_stuck_nil valid validLater waiting (msgFormat_enough queued cut)

theorem IpcInv.waiting_eq (inv : IpcInv st) :
    st.obtained ++ st.waiting.1 = st.sessions.flatMap Session.complete ∧
      st.waiting.2 = st.sessions.flatMap Session.cut := by
  obtain ⟨pair, queued, later, bound, queue, all, valid, validLater, waiting⟩ := inv.queue
  unfold IpcRun.waiting
  rw [bound, Option.map_some, Option.getD_some, queue, drain_queue valid validLater waiting]
  exact ⟨all, rfl⟩

theorem IpcInv.clientsApart (inv : IpcInv st) : ClientsApart st := by
  have all := inv.waiting_eq.1
  refine ⟨fun msg member => ?_, all⟩
  have among : msg ∈ st.sessions.flatMap Session.complete := by
    rw [← all]
    exact List.mem_append_left _ member
  obtain ⟨session, listed, complete⟩ := List.mem_flatMap.mp among
  exact ⟨session, listed, complete⟩

theorem IpcInv.start : IpcInv .start where
  accepting _ := rfl
  served none := nomatch none
  genuine _ member := nomatch member
  queue := ⟨⟨[], []⟩, [], [], rfl, rfl, rfl, nofun, nofun, List.prefix_rfl⟩

theorem IpcInv.connect (inv : IpcInv st) (accepting : st.ep.accepting = true) (msgs : List (List UInt8)) :
    IpcInv { st with ep := st.ep.listenCb, current := some ⟨msgs, []⟩ } := by
  have sessions : st.sessions = st.past := by simp [IpcRun.sessions, inv.accepting accepting]
  have after : IpcRun.sessions { st with ep := st.ep.listenCb, current := some ⟨msgs, []⟩ } = st.past ++ [⟨msgs, []⟩] := rfl
  refine ⟨nofun, fun _ => ⟨_, rfl, rfl⟩, fun session member => ?_, ?_⟩
  · rw [after] at member
    rcases List.mem_append.mp member with old | new
    · exact inv.genuine session (sessions ▸ old)
    · rw [List.mem_singleton.mp new]
      exact List.nil_prefix
  · obtain ⟨pair, queued, later, bound, queue⟩ := inv.queue
    refine ⟨pair, queued, later, bound, ?_⟩
    rw [after]
    simpa [Session.empty_cut, Session.empty_complete, ← sessions] using queue

theorem IpcInv.disconnect (inv : IpcInv st) {session : Session} (served : st.current = some session) :
    IpcInv { st with ep := st.ep.eventCb, past := st.past ++ [session], current := none } := by
  have same : IpcRun.sessions { st with ep := st.ep.eventCb, past := st.past ++ [session], current := none } =
      st.sessions := by simp [IpcRun.sessions, served]
  refine ⟨fun _ => rfl, nofun, ?_, ?_⟩
  · rw [same]
    exact inv.genuine
  · rw [same]
    exact inv.queue

theorem IpcInv.sameQueue (inv : IpcInv st) {ep : IpcEp UInt8} (accepting : ep.accepting = st.ep.accepting)
    (cli : ep.cli.map ClientBev.input = st.ep.cli.map ClientBev.input)
    (peer : ep.bev.map BoundPair.peer = st.ep.bev.map BoundPair.peer) : IpcInv { st with ep } := by
  refine ⟨fun accepts => inv.accepting (accepting ▸ accepts), fun current => ?_, inv.genuine, ?_⟩
  · obtain ⟨old, there, empty⟩ := inv.served current
    rw [there, Option.map_some, Option.map_eq_some_iff] at cli
    obtain ⟨new, now, same⟩ := cli
    exact ⟨new, now, same.trans empty⟩
  · obtain ⟨pair, queued, later, bound, queue, rest⟩ := inv.queue
    rw [bound, Option.map_some, Option.map_eq_some_iff] at peer
    obtain ⟨new, now, same⟩ := peer
    exact ⟨new, queued, later, now, same.trans queue, rest⟩

theorem IpcInv.peerDrains (inv : IpcInv st) :
    IpcInv
      { st with
          ep := { st.ep with bev := st.ep.bev.map fun pair => { pair with peer := st.waiting.2 } }
          obtained := st.obtained ++ st.waiting.1 } := by
  obtain ⟨all, cut⟩ := inv.waiting_eq
  obtain ⟨pair, queued, later, bound, -, -, -, validLater, waiting⟩ := inv.queue
  refine ⟨inv.accepting, inv.served, inv.genuine, { pair with peer := st.waiting.2 }, [], later, ?_, cut, ?_, nofun,
    validLater, waiting⟩
  · simp only [bound, Option.map_some]
  · exact (List.append_nil _).trans all

theorem IpcInv.arrive (inv : IpcInv st) {bytes : Evbuffer} {session : Session} (served : st.current = some session)
    (frames : session.received ++ bytes <+: session.msgs.flatMap frame) (boundary : AtBoundary st (.arrive bytes)) :
    IpcInv
      { st with ep := st.ep.arrive bytes, current := some { session with received := session.received ++ bytes } } := by
  have genuine : Session.Genuine { session with received := session.received ++ bytes } := frames
  obtain ⟨cli, client, empty⟩ := inv.served (Option.isSome_of_eq_some served)
  obtain ⟨pair, queued, later, bound, queue, all, valid, validLater, waiting⟩ := inv.queue
  have moved : st.ep.arrive bytes = { st.ep with
      cli := some { cli with input := [] }, bev := some { pair with peer := pair.peer ++ bytes } } := by
    simp [IpcEp.arrive, IpcEp.readCb, client, bound, empty]
  refine ⟨fun accepting => ?_, fun _ => ?_, fun other member => ?_, ?_⟩
  · rw [moved] at accepting
    exact nomatch (inv.accepting accepting).symm.trans served
  · exact ⟨{ cli with input := [] }, by rw [moved], rfl⟩
  · rcases List.mem_append.mp member with old | new
    · exact inv.genuine other (List.mem_append_left _ old)
    · rw [List.mem_singleton.mp new]
      exact genuine
  · obtain rfl | ⟨whole, begun⟩ := boundary
    · simp only [List.append_nil]
      have same : IpcRun.sessions { st with ep := st.ep.arrive [], current := some session } = st.sessions := by
        simp [IpcRun.sessions, served]
      rw [same, moved]
      exact ⟨_, queued, later, rfl, by rw [List.append_nil, queue], all, valid, validLater, waiting⟩
    · obtain ⟨new, complete, cut⟩ := genuine.more
      obtain ⟨later, begunSplit, -, waiting⟩ := genuine.split
      have deliverable := begun session served
      have begunValid := sized_valid deliverable
      rw [begunSplit] at begunValid
      have noCut : st.past.flatMap Session.cut = [] := List.flatMap_eq_nil_iff.mpr whole
      simp only [IpcRun.sessions, served, Option.toList_some, List.flatMap_append, List.flatMap_singleton, noCut,
        List.nil_append] at queue all ⊢
      refine ⟨_, queued ++ new, later, by rw [moved], ?_, ?_, ?_, ?_, waiting⟩
      · rw [queue, List.append_assoc, cut, FrameFormat.encodeAll_append, List.append_assoc]
      · rw [complete, ← List.append_assoc, all, List.append_assoc]
      · intro msg member
        rcases List.mem_append.mp member with old | arrived
        · exact valid msg old
        · refine begunValid msg (List.mem_append_left _ ?_)
          rw [complete]
          exact List.mem_append_right _ arrived
      · exact fun msg member => begunValid msg (List.mem_append_right _ member)

theorem IpcInv.step {event : IpcEvent} (inv : IpcInv st) (boundary : AtBoundary st event)
    (taken : IpcStep st event next) : IpcInv next := by
  obtain ⟨pair, _, _, bound, -⟩ := inv.queue
  cases taken with
  | connect msgs accepting => exact inv.connect accepting msgs
  | arrive bytes session served frames => exact inv.arrive served frames boundary
  | disconnect session served => exact inv.disconnect served
  | peerDrains => exact inv.peerDrains
  | peerWrites bytes => exact inv.sameQueue rfl rfl (by simp [IpcEp.peerWrites, bound])
  | onData =>
      cases client : st.ep.cli with
      | none => apply inv.sameQueue <;> simp [IpcEp.ipcOnData, client]
      | some cli => apply inv.sameQueue <;> simp [IpcEp.ipcOnData, client, bound]

end Runs

/-- In every state of a run in which bytes come only while no earlier client's
bytes have broken off in a frame, the clients' messages are kept apart. -/
theorem clients_apart {events : List IpcEvent} (guarded : Guarded IpcStep AtBoundary .start events) :
    Always IpcStep ClientsApart .start events := by
  have preserved : ∀ st event next, IpcInv st → AtBoundary st event → IpcStep st event next → IpcInv next :=
    fun _ _ _ inv boundary taken => inv.step boundary taken
  exact guarded.always preserved (fun _ inv => inv.clientsApart) IpcInv.start

instance (data : List UInt8) : Decidable (Deliverable data) := inferInstanceAs (Decidable (_ ∧ _))

/-- Two clients write a message each, and the first one leaves. -/
theorem clients_apart_two : Always IpcStep ClientsApart .start
    [.connect [[7]], .arrive (frame [7]), .disconnect, .connect [[8, 9]], .arrive (frame [8, 9]), .peerDrains] := by
  refine clients_apart fun _ taken => ⟨trivial, ?_⟩
  cases taken
  refine fun _ taken => ⟨.inr ⟨nofun, ?_⟩, ?_⟩
  · rintro session ⟨⟩
    decide +kernel
  cases taken
  case arrive served frames =>
    cases served
    refine fun _ taken => ⟨trivial, ?_⟩
    cases taken
    case disconnect served =>
      cases served
      refine fun _ taken => ⟨trivial, ?_⟩
      cases taken
      refine fun _ taken => ⟨.inr ⟨by decide +kernel, ?_⟩, ?_⟩
      · rintro session ⟨⟩
        decide +kernel
      exact fun _ _ => ⟨trivial, trivial⟩

/-- A client leaves after five of its frame's six bytes, and the next client's
header becomes its last byte. -/
theorem cut_frame_corrupts : ¬ ∀ events st, Reaches IpcStep .start events st →
    ∀ msg ∈ st.obtained, ∃ session ∈ st.sessions, msg ∈ session.complete := by
  intro own
  have run : Reaches IpcStep .start
      [.connect [[1, 2]], .arrive [0, 0, 0, 2, 1], .disconnect, .connect [[9]], .arrive [0, 0, 0, 1, 9], .peerDrains] _ :=
    .cons (.connect [[1, 2]] rfl) (.cons (.arrive _ _ rfl (by decide)) (.cons (.disconnect _ rfl)
      (.cons (.connect [[9]] rfl) (.cons (.arrive _ _ rfl (by decide)) (.cons .peerDrains (.nil _))))))
  have unsent := own _ _ run (2, [1, 0]) (by decide +kernel)
  revert unsent
  decide +kernel

end Rteipc
