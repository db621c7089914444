import Rteipc.Data.Framing

namespace Rteipc.Data

/-! A server between two byte streams.

A server answers messages and reports events.  What it is asked comes in as
frames of one byte stream and its answers leave in another.  `Channel` is a server
with the bytes on their way to it and back.  Whatever the chunks these are moved
in, the server has done what it does with the messages and events of a log one
after the other.
-/

structure Server (Dev Msg Event : Type*) where
  serve : Dev → Msg → Dev × List Msg
  notify : Dev → Event → Dev × List Msg

namespace Server

variable {Dev Msg Event : Type*} (server : Server Dev Msg Event)

def handle (dev : Dev) : Msg ⊕ Event → Dev × List Msg
  | .inl msg => server.serve dev msg
  | .inr event => server.notify dev event

/-- The server after the log, and its answers in order. -/
def run (dev : Dev) : List (Msg ⊕ Event) → Dev × List Msg
  | [] => (dev, [])
  | item :: rest =>
      let (next, now) := server.handle dev item
      let (last, later) := run next rest
      (last, now ++ later)

def requests (log : List (Msg ⊕ Event)) : List Msg := log.filterMap Sum.getLeft?

def events (log : List (Msg ⊕ Event)) : List Event := log.filterMap Sum.getRight?

variable {server} {dev : Dev} {log more : List (Msg ⊕ Event)} {msgs : List Msg}

@[simp] theorem run_nil : server.run dev [] = (dev, []) := rfl

theorem run_append : server.run dev (log ++ more) =
    ((server.run (server.run dev log).1 more).1,
      (server.run dev log).2 ++ (server.run (server.run dev log).1 more).2) := by
  induction log generalizing dev with
  | nil => rfl
  | cons item rest ih => simp [run, ih]

@[simp] theorem run_singleton (item : Msg ⊕ Event) : server.run dev [item] = server.handle dev item := by
  simp [run]

@[simp] theorem requests_append : requests (log ++ more) = requests log ++ requests more := List.filterMap_append

@[simp] theorem events_append : events (log ++ more) = events log ++ events more := List.filterMap_append

@[simp] theorem requests_inl : requests (msgs.map .inl : List (Msg ⊕ Event)) = msgs := by
  induction msgs with
  | nil => rfl
  | cons msg rest ih => simpa [requests] using ih

@[simp] theorem events_inl : events (msgs.map .inl : List (Msg ⊕ Event)) = [] := by
  induction msgs with
  | nil => rfl
  | cons msg rest ih => simp [events]

@[simp] theorem requests_inr (event : Event) : requests [(.inr event : Msg ⊕ Event)] = [] := rfl

@[simp] theorem events_inr (event : Event) : events [(.inr event : Msg ⊕ Event)] = [event] := rfl

end Server

/-- The code of a server, which adds to its output: what it does, unless it
faults, with the bytes in its input and which it leaves there, and what it does
when an event comes. -/
structure ServerCode (Code Byte Event : Type*) where
  onData : Code → List Byte → List Byte → Option (Code × List Byte × List Byte)
  onEvent : Code → List Byte → Event → Code × List Byte

/-- `up` and `down` are on their way, `inbox` and `outbox` are at the server and
`input` is at the client; `sent`, `happened` and `received` are what there has
been so far. -/
structure Channel (Code Msg Byte Event : Type*) where
  up : List Byte
  inbox : List Byte
  code : Code
  outbox : List Byte
  down : List Byte
  input : List Byte
  sent : List Msg
  happened : List Event
  received : List Msg

namespace Channel

variable {Dev Code Msg Byte Event : Type*} (format : FrameFormat Msg Byte) (program : ServerCode Code Byte Event)
  (fuel : List Byte → Nat) (st : Channel Code Msg Byte Event)

def start (code : Code) : Channel Code Msg Byte Event := ⟨[], [], code, [], [], [], [], [], []⟩

def send (msg : Msg) : Channel Code Msg Byte Event := { st with up := st.up ++ format.encode msg, sent := st.sent ++ [msg] }

/-- Some of the bytes come to the server. -/
def arrive (count : Nat) : Channel Code Msg Byte Event :=
  { st with inbox := st.inbox ++ st.up.take count, up := st.up.drop count }

def onData : Option (Channel Code Msg Byte Event) :=
  (program.onData st.code st.outbox st.inbox).map fun (code, outbox, inbox) => { st with code, outbox, inbox }

def event (event : Event) : Channel Code Msg Byte Event :=
  { st with
    code := (program.onEvent st.code st.outbox event).1
    outbox := (program.onEvent st.code st.outbox event).2
    happened := st.happened ++ [event] }

/-- The output of the server is sent off. -/
def forward : Channel Code Msg Byte Event := { st with down := st.down ++ st.outbox, outbox := [] }

/-- Some of the bytes come to the client, which takes what messages it can. -/
def receive (count : Nat) : Channel Code Msg Byte Event :=
  let taken := format.drain (fuel (st.input ++ st.down.take count)) (st.input ++ st.down.take count)
  { st with input := taken.2, down := st.down.drop count, received := st.received ++ taken.1 }

/-- The messages complete in the input of the server. -/
def batch : List Msg := (format.drain (fuel st.inbox) st.inbox).1

/-- Nothing is on its way. -/
def Settled : Prop := st.up = [] ∧ st.inbox = [] ∧ st.outbox = [] ∧ st.down = [] ∧ st.input = []

end Channel

section Simulation

variable {Dev Code Msg Byte Event : Type*}

/-- The code serves the good messages in its input one after the other, if they
are ready to be, and faults if they are not. -/
structure ServerCode.Implements (program : ServerCode Code Byte Event) (format : FrameFormat Msg Byte)
    (server : Server Dev Msg Event) (view : Code → Dev) (Good : Msg → Prop) (Ready : Code → List Msg → Prop) : Prop where
  good : ∀ msg, Good msg → format.Valid msg
  serves : ∀ code outbox msgs next rest, (∀ msg ∈ msgs, Good msg) → (∀ msg ∈ next, Good msg) →
    format.Waiting [] next rest → Ready code msgs →
      ∃ after, view after = (server.run (view code) (msgs.map .inl)).1 ∧
        program.onData code outbox (format.encodeAll msgs ++ rest) =
          some (after, outbox ++ format.encodeAll (server.run (view code) (msgs.map .inl)).2, rest)
  faults : ∀ code outbox msgs next rest, (∀ msg ∈ msgs, Good msg) → (∀ msg ∈ next, Good msg) →
    format.Waiting [] next rest → ¬Ready code msgs → program.onData code outbox (format.encodeAll msgs ++ rest) = none
  notifies : ∀ code outbox event, view (program.onEvent code outbox event).1 = (server.notify (view code) event).1 ∧
    (program.onEvent code outbox event).2 = outbox ++ format.encodeAll (server.notify (view code) event).2
  answers : ∀ dev msg, Good msg → ∀ reply ∈ (server.serve dev msg).2, format.Valid reply
  reports : ∀ dev event, ∀ report ∈ (server.notify dev event).2, format.Valid report

/-- The log tells what the server has done, and the messages that wait to be
served and the answers that wait to be taken are those whose bytes are on their way. -/
structure Channel.Explained (format : FrameFormat Msg Byte) (server : Server Dev Msg Event) (view : Code → Dev)
    (Good : Msg → Prop) (dev : Dev) (st : Channel Code Msg Byte Event) (log : List (Msg ⊕ Event)) (waiting undelivered : List Msg) :
    Prop where
  sent : st.sent = Server.requests log ++ waiting
  happened : st.happened = Server.events log
  up : st.inbox ++ st.up = format.encodeAll waiting
  code : view st.code = (server.run dev log).1
  answers : (server.run dev log).2 = st.received ++ undelivered
  down : st.input ++ st.down ++ st.outbox = format.encodeAll undelivered
  good : ∀ msg ∈ st.sent, Good msg
  valid : ∀ reply ∈ (server.run dev log).2, format.Valid reply

/-- The server has done what the log says: the messages served are the first
that were sent, the events are those that happened, and what was received are
the first of the answers. Once nothing is on its way these are all. -/
def Channel.Sequential (server : Server Dev Msg Event) (view : Code → Dev) (dev : Dev) (st : Channel Code Msg Byte Event) : Prop :=
  ∃ log : List (Msg ⊕ Event), Server.requests log <+: st.sent ∧ Server.events log = st.happened ∧
    (server.run dev log).1 = view st.code ∧ st.received <+: (server.run dev log).2 ∧
    (st.Settled → Server.requests log = st.sent ∧ st.received = (server.run dev log).2)

variable {format : FrameFormat Msg Byte} {server : Server Dev Msg Event} {view : Code → Dev} {Good : Msg → Prop}
  {Ready : Code → List Msg → Prop} {program : ServerCode Code Byte Event} {fuel : List Byte → Nat} {dev : Dev}
  {st : Channel Code Msg Byte Event} {log : List (Msg ⊕ Event)} {waiting undelivered : List Msg}

theorem FrameFormat.encode_ne_nil (stuck : format.Stuck []) {msg : Msg} (valid : format.Valid msg) :
    format.encode msg ≠ [] := by
  intro empty
  have taken := format.decode_encode msg [] valid
  rw [empty, List.nil_append, stuck [] List.prefix_rfl] at taken
  cases taken

theorem FrameFormat.encodeAll_eq_nil (stuck : format.Stuck []) {msgs : List Msg}
    (valid : ∀ msg ∈ msgs, format.Valid msg) (empty : format.encodeAll msgs = []) : msgs = [] := by
  cases msgs with
  | nil => rfl
  | cons msg rest =>
      rw [FrameFormat.encodeAll_cons, List.append_eq_nil_iff] at empty
      exact (FrameFormat.encode_ne_nil stuck (valid msg List.mem_cons_self) empty.1).elim

theorem Channel.Explained.start (code : Code) (begins : view code = dev) :
    (Channel.start code : Channel Code Msg Byte Event).Explained format server view Good dev [] [] [] := by
  constructor
  · rfl
  · rfl
  · rfl
  · exact begins
  · rfl
  · rfl
  · exact fun _ member => (List.not_mem_nil member).elim
  · exact fun _ member => (List.not_mem_nil member).elim

theorem Channel.Explained.sequential (explained : st.Explained format server view Good dev log waiting undelivered)
    (stuck : format.Stuck []) (good : ∀ msg, Good msg → format.Valid msg) : st.Sequential server view dev := by
  refine ⟨log, ?_, explained.happened.symm, explained.code.symm, ?_, ?_⟩
  · rw [explained.sent]
    exact List.prefix_append _ _
  · rw [explained.answers]
    exact List.prefix_append _ _
  · intro settled
    obtain ⟨up, inbox, outbox, down, input⟩ := settled
    have served : waiting = [] := by
      apply FrameFormat.encodeAll_eq_nil stuck
      · intro msg member
        apply good
        apply explained.good
        rw [explained.sent]
        exact List.mem_append_right _ member
      · rw [← explained.up, up, inbox]
        rfl
    have taken : undelivered = [] := by
      apply FrameFormat.encodeAll_eq_nil stuck
      · intro reply member
        apply explained.valid
        rw [explained.answers]
        exact List.mem_append_right _ member
      · rw [← explained.down, outbox, down, input]
        rfl
    constructor
    · rw [explained.sent, served, List.append_nil]
    · rw [explained.answers, taken, List.append_nil]

/-! ## What each move does to the log -/

theorem Channel.Explained.send (explained : st.Explained format server view Good dev log waiting undelivered) {msg : Msg}
    (good : Good msg) : (st.send format msg).Explained format server view Good dev log (waiting ++ [msg]) undelivered := by
  constructor
  · simp [Channel.send, explained.sent]
  · exact explained.happened
  · simp [Channel.send, ← List.append_assoc, explained.up]
  · exact explained.code
  · exact explained.answers
  · exact explained.down
  · intro other member
    obtain old | new := List.mem_append.mp member
    · exact explained.good other old
    · rw [List.mem_singleton.mp new]
      exact good
  · exact explained.valid

theorem Channel.Explained.arrive (explained : st.Explained format server view Good dev log waiting undelivered) (count : Nat) :
    (st.arrive count).Explained format server view Good dev log waiting undelivered := by
  constructor
  · exact explained.sent
  · exact explained.happened
  · simp [Channel.arrive, explained.up]
  · exact explained.code
  · exact explained.answers
  · exact explained.down
  · exact explained.good
  · exact explained.valid

theorem Channel.Explained.forward (explained : st.Explained format server view Good dev log waiting undelivered) :
    st.forward.Explained format server view Good dev log waiting undelivered := by
  constructor
  · exact explained.sent
  · exact explained.happened
  · exact explained.up
  · exact explained.code
  · exact explained.answers
  · simp [Channel.forward, ← explained.down]
  · exact explained.good
  · exact explained.valid

theorem Channel.Explained.event (implements : program.Implements format server view Good Ready)
    (explained : st.Explained format server view Good dev log waiting undelivered) (event : Event) :
    (st.event program event).Explained format server view Good dev (log ++ [.inr event]) waiting
      (undelivered ++ (server.notify (view st.code) event).2) := by
  obtain ⟨after, written⟩ := implements.notifies st.code st.outbox event
  have ran : server.run dev (log ++ [.inr event]) = ((server.notify (view st.code) event).1,
      (server.run dev log).2 ++ (server.notify (view st.code) event).2) := by
    rw [Server.run_append, Server.run_singleton, explained.code]
    rfl
  constructor
  · simp [Channel.event, explained.sent]
  · simp [Channel.event, explained.happened]
  · exact explained.up
  · rw [ran]
    exact after
  · rw [ran, explained.answers, List.append_assoc]
    rfl
  · simp [Channel.event, written, ← List.append_assoc, explained.down]
  · exact explained.good
  · rw [ran]
    intro reply member
    obtain old | new := List.mem_append.mp member
    · exact explained.valid reply old
    · exact implements.reports _ _ reply new

/-- The input of the server holds the batch and the beginning of the next message. -/
theorem Channel.Explained.split (explained : st.Explained format server view Good dev log waiting undelivered)
    (stuck : format.Stuck []) (good : ∀ msg, Good msg → format.Valid msg)
    (enough : ∀ done rest, (∀ msg ∈ done, format.Valid msg) → done.length < fuel (format.encodeAll done ++ rest)) :
    ∃ next rest, waiting = st.batch format fuel ++ next ∧ st.inbox = format.encodeAll (st.batch format fuel) ++ rest ∧
      format.Waiting [] next rest ∧ (∀ msg ∈ st.batch format fuel, Good msg) ∧ ∀ msg ∈ next, Good msg := by
  have begun : st.inbox <+: format.encodeAll waiting ++ [] := by
    rw [List.append_nil, ← explained.up]
    exact List.prefix_append _ _
  obtain ⟨next, rest, parts, bytes, begins⟩ := FrameFormat.whole_split begun
  have allGood : ∀ msg ∈ waiting, Good msg := by
    intro msg member
    apply explained.good
    rw [explained.sent]
    exact List.mem_append_right _ member
  rw [parts] at allGood
  have goodDone : ∀ msg ∈ format.whole waiting st.inbox, Good msg := fun msg member =>
    allGood msg (List.mem_append_left _ member)
  have goodNext : ∀ msg ∈ next, Good msg := fun msg member => allGood msg (List.mem_append_right _ member)
  have validDone : ∀ msg ∈ format.whole waiting st.inbox, format.Valid msg := fun msg member => good msg (goodDone msg member)
  have validNext : ∀ msg ∈ next, format.Valid msg := fun msg member => good msg (goodNext msg member)
  have same : st.batch format fuel = format.whole waiting st.inbox := by
    have drained := FrameFormat.drain_waiting stuck validDone validNext begins (enough _ rest validDone)
    rw [← bytes] at drained
    rw [Channel.batch, drained]
  rw [same]
  exact ⟨next, rest, parts, bytes, begins, goodDone, goodNext⟩

theorem Channel.Explained.answers_valid (implements : program.Implements format server view Good Ready) (code : Dev)
    {msgs : List Msg} (good : ∀ msg ∈ msgs, Good msg) : ∀ reply ∈ (server.run code (msgs.map .inl)).2, format.Valid reply := by
  induction msgs generalizing code with
  | nil => exact fun _ member => (List.not_mem_nil member).elim
  | cons msg rest ih =>
      intro reply member
      simp only [List.map_cons, Server.run, List.mem_append] at member
      obtain now | later := member
      · exact implements.answers code msg (good msg List.mem_cons_self) reply now
      · exact ih _ (fun other among => good other (List.mem_cons_of_mem _ among)) reply later

theorem Channel.Explained.onData (implements : program.Implements format server view Good Ready) (stuck : format.Stuck [])
    (enough : ∀ done rest, (∀ msg ∈ done, format.Valid msg) → done.length < fuel (format.encodeAll done ++ rest))
    (explained : st.Explained format server view Good dev log waiting undelivered) :
    (Ready st.code (st.batch format fuel) → ∃ next after, waiting = st.batch format fuel ++ next ∧
      st.onData program = some after ∧
      after.Explained format server view Good dev (log ++ (st.batch format fuel).map .inl) next
        (undelivered ++ (server.run (view st.code) ((st.batch format fuel).map .inl)).2)) ∧
      (¬Ready st.code (st.batch format fuel) → st.onData program = none) := by
  obtain ⟨next, rest, parts, bytes, begins, goodDone, goodNext⟩ := explained.split stuck implements.good enough
  constructor
  · intro ready
    obtain ⟨code, viewed, ran⟩ := implements.serves st.code st.outbox _ next rest goodDone goodNext begins ready
    rw [← bytes] at ran
    have logged : server.run dev (log ++ (st.batch format fuel).map .inl) =
        ((server.run (view st.code) ((st.batch format fuel).map .inl)).1,
          (server.run dev log).2 ++ (server.run (view st.code) ((st.batch format fuel).map .inl)).2) := by
      rw [Server.run_append, explained.code]
    refine ⟨next, _, parts, by rw [Channel.onData, ran, Option.map_some], ?_⟩
    constructor
    · rw [Server.requests_append, Server.requests_inl, List.append_assoc, ← parts]
      exact explained.sent
    · rw [Server.events_append, Server.events_inl, List.append_nil]
      exact explained.happened
    · have queue := explained.up
      rw [bytes, parts, FrameFormat.encodeAll_append, List.append_assoc] at queue
      exact List.append_cancel_left queue
    · rw [logged]
      exact viewed
    · rw [logged, explained.answers, List.append_assoc]
    · rw [FrameFormat.encodeAll_append, ← explained.down, List.append_assoc _ st.outbox]
    · exact explained.good
    · rw [logged]
      intro reply member
      obtain old | new := List.mem_append.mp member
      · exact explained.valid reply old
      · exact Channel.Explained.answers_valid implements _ goodDone reply new
  · intro unready
    have ran := implements.faults st.code st.outbox _ next rest goodDone goodNext begins unready
    rw [← bytes] at ran
    rw [Channel.onData, ran, Option.map_none]

/-- What is written for a batch are whole answers. -/
theorem Channel.Explained.answered (implements : program.Implements format server view Good Ready) (stuck : format.Stuck [])
    (enough : ∀ done rest, (∀ msg ∈ done, format.Valid msg) → done.length < fuel (format.encodeAll done ++ rest))
    (explained : st.Explained format server view Good dev log waiting undelivered) {after : Channel Code Msg Byte Event}
    (ran : st.onData program = some after) :
    ∃ replies, (∀ reply ∈ replies, format.Valid reply) ∧ after.outbox = st.outbox ++ format.encodeAll replies := by
  obtain ⟨next, rest, -, bytes, begins, goodDone, goodNext⟩ := explained.split stuck implements.good enough
  have ready : Ready st.code (st.batch format fuel) := by
    by_contra unready
    have failed := (explained.onData implements stuck enough).2 unready
    rw [ran] at failed
    cases failed
  obtain ⟨code, -, served⟩ := implements.serves st.code st.outbox _ next rest goodDone goodNext begins ready
  rw [← bytes] at served
  rw [Channel.onData, served, Option.map_some] at ran
  cases ran
  exact ⟨_, Channel.Explained.answers_valid implements (view st.code) goodDone, rfl⟩

theorem Channel.Explained.receive (stuck : format.Stuck [])
    (enough : ∀ done rest, (∀ msg ∈ done, format.Valid msg) → done.length < fuel (format.encodeAll done ++ rest))
    (explained : st.Explained format server view Good dev log waiting undelivered) (count : Nat) :
    ∃ now later, undelivered = now ++ later ∧
      (st.receive format fuel count).Explained format server view Good dev log waiting later := by
  have begun : st.input ++ st.down.take count <+: format.encodeAll undelivered ++ [] := by
    rw [List.append_nil, ← explained.down, List.append_assoc]
    exact (List.prefix_append_right_inj _).mpr ((List.take_prefix _ _).trans (List.prefix_append _ _))
  obtain ⟨later, rest, parts, bytes, begins⟩ := FrameFormat.whole_split begun
  have valid := explained.valid
  rw [explained.answers, parts] at valid
  have validNow : ∀ msg ∈ format.whole undelivered (st.input ++ st.down.take count), format.Valid msg :=
    fun msg member => valid msg (by simp [member])
  have validLater : ∀ msg ∈ later, format.Valid msg := fun msg member => valid msg (by simp [member])
  have drained := FrameFormat.drain_waiting stuck validNow validLater begins (enough _ rest validNow)
  rw [← bytes] at drained
  refine ⟨_, later, parts, ?_⟩
  constructor
  · exact explained.sent
  · exact explained.happened
  · exact explained.up
  · exact explained.code
  · rw [explained.answers, Channel.receive, drained, List.append_assoc, ← parts]
  · have queue := explained.down
    rw [← List.take_append_drop count st.down, ← List.append_assoc, bytes] at queue
    conv at queue => rhs; rw [parts, FrameFormat.encodeAll_append]
    rw [List.append_assoc, List.append_assoc] at queue
    rw [Channel.receive, drained, List.append_assoc]
    exact List.append_cancel_left queue
  · exact explained.good
  · exact explained.valid

/-- With all bytes moved, all that was sent is served and all answers are received. -/
theorem Channel.Explained.flush (implements : program.Implements format server view Good Ready) (stuck : format.Stuck [])
    (enough : ∀ done rest, (∀ msg ∈ done, format.Valid msg) → done.length < fuel (format.encodeAll done ++ rest))
    (explained : st.Explained format server view Good dev log waiting undelivered)
    (ready : Ready st.code ((st.arrive st.up.length).batch format fuel)) :
    ∃ after, (st.arrive st.up.length).onData program = some after ∧
      (after.forward.receive format fuel after.forward.down.length).Settled := by
  have arrived := explained.arrive st.up.length
  have nothing : ∀ msg ∈ ([] : List Msg), format.Valid msg := fun _ absent => (List.not_mem_nil absent).elim
  have begins : format.Waiting [] [] [] := List.prefix_rfl
  have inbox : (st.arrive st.up.length).inbox = format.encodeAll waiting ++ [] := by
    rw [List.append_nil, ← arrived.up, Channel.arrive, List.drop_length, List.append_nil]
  have validWaiting : ∀ msg ∈ waiting, format.Valid msg := by
    intro msg member
    apply implements.good
    apply explained.good
    rw [explained.sent]
    exact List.mem_append_right _ member
  have batch : (st.arrive st.up.length).batch format fuel = waiting := by
    have drained := FrameFormat.drain_waiting stuck validWaiting nothing begins (enough _ [] validWaiting)
    rw [Channel.batch, inbox, drained]
  obtain ⟨next, after, parts, ran, explainedNext⟩ := (arrived.onData implements stuck enough).1 ready
  have served : next = [] := by
    rw [batch] at parts
    simpa using parts.symm
  have up : after.up = [] := by
    simp only [Channel.onData, Option.map_eq_some_iff] at ran
    obtain ⟨_, -, rfl⟩ := ran
    exact List.drop_length
  have left : after.inbox = [] := by
    have queue := explainedNext.up
    rwa [up, List.append_nil, served] at queue
  refine ⟨after, ran, up, left, rfl, List.drop_length, ?_⟩
  have validAll := explainedNext.valid
  rw [explainedNext.answers] at validAll
  have validAnswers := fun reply member => validAll reply (List.mem_append_right _ member)
  have drained := FrameFormat.drain_waiting stuck validAnswers nothing begins (enough _ [] validAnswers)
  have whole := explainedNext.down
  rw [List.append_assoc, ← List.append_nil (format.encodeAll _)] at whole
  rw [Channel.receive, List.take_length, Channel.forward, whole, drained]

end Simulation

end Rteipc.Data
