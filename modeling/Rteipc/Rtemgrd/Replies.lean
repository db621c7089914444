import Rteipc.Ep.Ipc
import Rteipc.Rtemgrd.Ctlport
import Rteipc.Rtemgrd.Pending

namespace Rteipc

/-! Control requests and their replies on the way through the IPC endpoint of
the control interface. -/

open Data

variable {Table : Type} (tbl : DescTable Table) (lib : PacketLib)

/-- A whole request, or the reply to one, with the client who sent the request:
the first to connect is 1. -/
structure ControlMsg where
  client : Nat
  data : List UInt8
deriving DecidableEq, Repr

/-- The daemon, the endpoint of its control interface with the messages under
way, the number of the last client who connected, and what clients received. -/
structure ControlRun (Table : Type) where
  daemon : Daemon Table
  ep : IpcEp ControlMsg
  client : Nat
  received : List (Nat × ControlMsg)

def ControlRun.start (daemon : Daemon Table) : ControlRun Table := ⟨daemon, .bound ControlMsg, 0, []⟩

inductive ControlEvent where
  | connect
  | request (data : List UInt8)
  | disconnect
  | process (memory : CtlMemory)
  | forward
  | written

/-- What `rteipc_xfer` makes of a reply: it reaches the endpoint, or no loop is found. -/
def replyMsgs (client : Nat) : Option (List UInt8 × Int) → List ControlMsg
  | some (document, ret) => if ret = 0 then [⟨client, document⟩] else []
  | none => []

/-- Any of the parties may take its next step at any time. `process` is one
round of `loop_on_data`, and `written` is libevent's write to the socket. -/
inductive ControlStep (st : ControlRun Table) : ControlEvent → ControlRun Table → Prop
  | connect (accepting : st.ep.accepting = true) :
      ControlStep st .connect { st with ep := st.ep.listenCb, client := st.client + 1 }
  | request (data : List UInt8) (connected : st.ep.cli.isSome = true) :
      ControlStep st (.request data) { st with ep := st.ep.arrive [⟨st.client, data⟩] }
  | disconnect (connected : st.ep.cli.isSome = true) : ControlStep st .disconnect { st with ep := st.ep.eventCb }
  | process (memory : CtlMemory) (pair : BoundPair ControlMsg) (request : ControlMsg) (later : List ControlMsg)
      (daemon : Daemon Table) (reply : Option (List UInt8 × Int)) (bound : st.ep.bev = some pair)
      (queue : pair.peer = request :: later)
      (processed : processCtlport tbl lib memory st.daemon request.data = .ok (daemon, reply)) :
      ControlStep st (.process memory)
        { st with
            daemon
            ep := IpcEp.peerWrites { st.ep with bev := some { pair with peer := later } } (replyMsgs request.client reply) }
  | forward : ControlStep st .forward { st with ep := st.ep.ipcOnData }
  | written (cli : ClientBev ControlMsg) (connected : st.ep.cli = some cli) :
      ControlStep st .written
        { st with
            ep := { st.ep with cli := some { cli with output := [] } }
            received := st.received ++ cli.output.map (st.client, ·) }

/-- No client received a reply to the request of an earlier one. -/
def RepliesOwn (st : ControlRun Table) : Prop := ∀ entry ∈ st.received, ¬entry.2.client < entry.1

/-- No client connects while a request or a reply to one is under way. -/
def NothingDue (st : ControlRun Table) : ControlEvent → Prop
  | .connect => ∀ pair, st.ep.bev = some pair → pair.peer = [] ∧ pair.input = []
  | _ => True

/-- All that is under way belongs to the last client who connected. -/
structure ReplyInv (st : ControlRun Table) : Prop where
  underway : st.ep.Holds fun msg => msg.client = st.client
  received : ∀ entry ∈ st.received, entry.2.client = entry.1

section Steps

variable {tbl} {lib} {st next : ControlRun Table}

theorem ReplyInv.repliesOwn (inv : ReplyInv st) : RepliesOwn st := by
  intro entry member earlier
  rw [inv.received entry member] at earlier
  exact Nat.lt_irrefl _ earlier

theorem ReplyInv.start (daemon : Daemon Table) : ReplyInv (.start daemon) where
  underway := by
    refine ⟨fun _ => rfl, nofun, ?_⟩
    rintro _ ⟨⟩ msg member
    nomatch member
  received _ member := nomatch member

theorem ReplyInv.connect (inv : ReplyInv st) (accepting : st.ep.accepting = true) (nothing : NothingDue st .connect) :
    ReplyInv { st with ep := st.ep.listenCb, client := st.client + 1 } where
  underway := by
    have alone := inv.underway.accepting accepting
    refine IpcEp.Holds.listenCb ⟨fun _ => alone, fun cli connected => ?_, fun pair bound msg member => ?_⟩
    · exact nomatch alone.symm.trans connected
    · obtain ⟨noRequest, noReply⟩ := nothing pair bound
      rw [noRequest, noReply] at member
      nomatch member
  received := inv.received

theorem replyMsgs_client {client : Nat} {reply : Option (List UInt8 × Int)} :
    ∀ msg ∈ replyMsgs client reply, msg.client = client := by
  intro msg member
  unfold replyMsgs at member
  split at member
  next =>
    split at member
    next => rw [List.mem_singleton.mp member]
    next => nomatch member
  next => nomatch member

theorem ReplyInv.step {event : ControlEvent} (inv : ReplyInv st) (nothing : NothingDue st event)
    (taken : ControlStep tbl lib st event next) : ReplyInv next := by
  cases taken with
  | connect accepting => exact inv.connect accepting nothing
  | request data connected =>
      exact ⟨inv.underway.arrive fun msg member => by rw [List.mem_singleton.mp member], inv.received⟩
  | disconnect connected => exact ⟨inv.underway.eventCb, inv.received⟩
  | process memory pair request later daemon reply bound queue processed =>
      have own := inv.underway.pair pair bound
      have moved : IpcEp.Holds { st.ep with bev := some { pair with peer := later } } fun msg => msg.client = st.client := by
        refine ⟨inv.underway.accepting, inv.underway.cli, ?_⟩
        rintro _ ⟨⟩ msg member
        exact own msg (by grind)
      have sent : ∀ msg ∈ replyMsgs request.client reply, msg.client = st.client :=
        fun msg member => (replyMsgs_client msg member).trans (own request (by simp [queue]))
      exact ⟨moved.peerWrites sent, inv.received⟩
  | forward => exact ⟨inv.underway.ipcOnData, inv.received⟩
  | written cli connected =>
      have own := inv.underway.cli cli connected
      refine ⟨⟨fun accepting => ?_, ?_, inv.underway.pair⟩, fun entry member => ?_⟩
      · exact nomatch (inv.underway.accepting accepting).symm.trans connected
      · rintro _ ⟨⟩ msg member
        exact own msg (by grind)
      · rcases List.mem_append.mp member with old | new
        · exact inv.received entry old
        · obtain ⟨msg, sent, rfl⟩ := List.mem_map.mp new
          exact own msg (List.mem_append_right _ sent)

end Steps

/-- In every state of a run in which nobody connects while a request or a reply
is under way, no client has received a reply meant for an earlier one. -/
theorem replies_own (daemon : Daemon Table) {events : List ControlEvent}
    (guarded : Guarded (ControlStep tbl lib) NothingDue (.start daemon) events) :
    Always (ControlStep tbl lib) RepliesOwn (.start daemon) events := by
  have preserved : ∀ st event next, ReplyInv st → NothingDue st event → ControlStep tbl lib st event next →
      ReplyInv next := fun _ _ _ inv nothing taken => inv.step nothing taken
  exact guarded.always preserved (fun _ inv => inv.repliesOwn) (ReplyInv.start daemon)

/-! ## A client that leaves too early -/

def CatMemory.succeeds : CatMemory := ⟨true, fun _ _ => true, fun _ => [], true, fun _ => some []⟩

def CtlMemory.succeeds : CtlMemory where
  packet := .succeeds
  realloc _ := true
  iface := allSucceeds
  left := plentyOfMemory
  right := plentyOfMemory
  managed := .succeeds
  cat := .succeeds
  emit := true

def listPacket : RtemgrData := { rtemgrDataAlloc with cmd.action := 1 }

/-- A client gets its reply before the next one connects. -/
def servedInTurn : List ControlEvent :=
  [.connect, .request [7], .process .succeeds, .forward, .written, .disconnect, .connect]

theorem replies_own_in_turn :
    Always (ControlStep dtblTable (.receiving listPacket)) RepliesOwn (.start .started) servedInTurn := by
  refine replies_own dtblTable _ .started fun _ taken => ⟨?_, ?_⟩
  · rintro _ ⟨⟩
    exact ⟨rfl, rfl⟩
  cases taken
  refine fun _ taken => ⟨trivial, ?_⟩
  cases taken
  refine fun _ taken => ⟨trivial, ?_⟩
  cases taken
  case process bound queue _ =>
    cases bound
    cases queue
    refine fun _ taken => ⟨trivial, ?_⟩
    cases taken
    refine fun _ taken => ⟨trivial, ?_⟩
    cases taken
    case written connected =>
      refine fun _ taken => ⟨trivial, ?_⟩
      cases taken
      refine fun _ _ => ⟨?_, trivial⟩
      rintro _ ⟨⟩
      exact ⟨rfl, rfl⟩

/-- The first client leaves before its reply is forwarded, and the second one gets it. -/
theorem reply_reaches_next : ¬ ∀ events st,
    Reaches (ControlStep dtblTable (.receiving listPacket)) (.start .started) events st → RepliesOwn st := by
  intro own
  have answered : ((processCtlport dtblTable (.receiving listPacket) .succeeds .started [7]).toOption.bind
      Prod.snd).map Prod.snd = some 0 := by decide +kernel
  obtain ⟨daemon, document, processed⟩ : ∃ daemon document,
      processCtlport dtblTable (.receiving listPacket) .succeeds .started [7] = .ok (daemon, some (document, 0)) := by
    cases result : processCtlport dtblTable (.receiving listPacket) .succeeds .started [7] with
    | error fault =>
        rw [result] at answered
        nomatch answered
    | ok value =>
        obtain ⟨daemon, _ | ⟨document, ret⟩⟩ := value
        · rw [result] at answered
          nomatch answered
        · rw [result] at answered
          obtain rfl := Option.some.inj answered
          exact ⟨daemon, document, rfl⟩
  have run : Reaches (ControlStep dtblTable (.receiving listPacket)) (.start .started)
      [.connect, .request [7], .disconnect, .connect, .process .succeeds, .forward, .written] _ :=
    .cons (.connect rfl) (.cons (.request [7] rfl) (.cons (.disconnect rfl) (.cons (.connect rfl)
      (.cons (.process .succeeds _ ⟨1, [7]⟩ [] daemon _ rfl rfl processed) (.cons .forward
        (.cons (.written _ rfl) (.nil _)))))))
  exact own _ _ run (2, ⟨1, document⟩) (List.mem_singleton_self _) Nat.one_lt_two

end Rteipc
