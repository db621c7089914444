import Rteipc.Data.Owned
import Rteipc.Endpoint
import Rteipc.Message.Stream

namespace Rteipc

/-! The loop of the read callbacks in `ep_i2c.c` and `ep_spi.c`.

Its variables outlive a message: what one message leaves in them is freed again
by the next one that does not set them.
-/

open Data

/-- `transfers` are those made so far, `bev` is the output of the bound pair and
`handled` counts the messages. -/
structure BusState (Device Transfer : Type) where
  device : Device
  transfers : List Transfer
  bev : Option Evbuffer
  heap : Heap Unit
  handled : Nat

/-- Which sizes of messages can be allocated, whether the buffers of each
message can, and what the device answers. -/
structure BusEnv (Device Transfer Answer : Type) where
  malloc : Nat → Bool
  rxBuf : Nat → Bool
  xfer : Nat → Bool
  ioctl : Device → Transfer → Device × Option Answer

/-- The pointers among the variables of the callback, in the order they are freed in. -/
abbrev Pointers := List (Option Nat)

section Loop

variable {Device Transfer : Type}

def BusState.malloc (st : BusState Device Transfer) (succeeds : Bool) : Option Nat × BusState Device Transfer :=
  if succeeds then (some st.heap.next, { st with heap := st.heap.alloc () }) else (none, st)

def BusState.mallocs (st : BusState Device Transfer) : List Bool → Pointers × BusState Device Transfer
  | [] => ([], st)
  | succeeds :: rest =>
      let (pointer, st) := st.malloc succeeds
      let (pointers, st) := st.mallocs rest
      (pointer :: pointers, st)

/-- One pass of the loop: `run` tells what the message sets the pointers to, if
it does, and what has become of the state at `free_msg`. -/
def busOnMsg (run : BusState Device Transfer → List UInt8 → Option Pointers × BusState Device Transfer)
    (pointers : Pointers) (st : BusState Device Transfer) (msg : List UInt8) :
    Except Fault (Pointers × BusState Device Transfer) :=
  let msgPointer := st.heap.next
  let (assigned, st) := run { st with heap := st.heap.alloc () } msg
  let pointers := assigned.getD pointers
  match st.heap.freeAll (pointers ++ [some msgPointer]) with
  | none => .error .useAfterFree
  | some heap => .ok (pointers, { st with heap, handled := st.handled + 1 })

def busLoop (run : BusState Device Transfer → List UInt8 → Option Pointers × BusState Device Transfer)
    (malloc : Nat → Bool) :
    Nat → Pointers → Evbuffer → BusState Device Transfer → Except Fault (BusState Device Transfer × Evbuffer)
  | 0, _, buf, st => .ok (st, buf)
  | fuel + 1, pointers, buf, st =>
      match rteipcMsgDrain malloc buf with
      | (.message _ msg, rest) => do
          let (pointers, st) ← busOnMsg run pointers st msg
          busLoop run malloc fuel pointers rest st
      | (_, rest) => .ok (st, rest)

/-- A message takes its header off the buffer, so this much fuel is never used up. -/
def busOnData (run : BusState Device Transfer → List UInt8 → Option Pointers × BusState Device Transfer)
    (initial : Pointers) (malloc : Nat → Bool) (buf : Evbuffer) (st : BusState Device Transfer) :
    Except Fault (BusState Device Transfer × Evbuffer) :=
  busLoop run malloc (buf.length + 1) initial buf st

end Loop

/-- A message as it waits in an input: its header has room for its length. -/
structure QueuedMsg where
  payload : List UInt8
  fits : payload.length < 4294967296

/-- A message that `rteipc_msg_drain` takes off the input. -/
def QueuedMsg.drains (malloc : Nat → Bool) (msg : QueuedMsg) : Bool :=
  msg.payload ≠ [] && malloc msg.payload.length

/-- The messages before the first that stays in the input with all after it. -/
def servedMsgs (malloc : Nat → Bool) (msgs : List QueuedMsg) : List (List UInt8) :=
  (msgs.takeWhile (QueuedMsg.drains malloc)).map QueuedMsg.payload

def queueBytes (msgs : List QueuedMsg) : Evbuffer := msgs.flatMap fun msg => frame msg.payload

/-- Each message arrives in an input that the callback has been called on. -/
def inTurn {State : Type} (onData : Evbuffer → State → Except Fault (State × Evbuffer)) :
    Evbuffer → State → List QueuedMsg → Except Fault (State × Evbuffer)
  | buf, st, [] => .ok (st, buf)
  | buf, st, msg :: rest => do
      let (st, left) ← onData (buf ++ frame msg.payload) st
      inTurn onData left st rest

/-- One call on all messages does the same transfers and sends the same replies
as a call on each, and what was allocated for a message is freed once. -/
def BatchAgrees {Device Transfer : Type}
    (onData : Evbuffer → BusState Device Transfer → Except Fault (BusState Device Transfer × Evbuffer))
    (st : BusState Device Transfer) (msgs : List QueuedMsg) : Prop :=
  ∃ after left, onData (queueBytes msgs) st = .ok (after, left) ∧ inTurn onData [] st msgs = .ok (after, left) ∧
    ∀ pointer, after.heap.get pointer = st.heap.get pointer

/-! ## Messages without their frames -/

section Passes

variable {Device Transfer : Type}
  (run : BusState Device Transfer → List UInt8 → Option Pointers × BusState Device Transfer)

def handleAll : Pointers → BusState Device Transfer → List (List UInt8) → Except Fault (BusState Device Transfer)
  | _, st, [] => .ok st
  | pointers, st, msg :: rest => do
      let (pointers, st) ← busOnMsg run pointers st msg
      handleAll pointers st rest

/-- One pass in each call, whose pointers are NULL. -/
def handleEach (initial : Pointers) :
    BusState Device Transfer → List (List UInt8) → Except Fault (BusState Device Transfer)
  | st, [] => .ok st
  | st, msg :: rest => do
      let (_, st) ← busOnMsg run initial st msg
      handleEach initial st rest

/-- What a callback's passes have in common: `assigns` are the messages that set
the pointers, `allocates` tells of which messages a buffer remains in them. -/
structure BusLaws (assigns : List UInt8 → Prop) (allocates : Nat → List UInt8 → Prop) : Prop where
  handled : ∀ st msg, (run st msg).2.handled = st.handled
  assigned : ∀ st msg, (run st msg).1.isSome = true ↔ assigns msg
  owns : ∀ st msg before pointers, Heap.Owns before st.heap pointers →
    Heap.Owns before (run st msg).2.heap ((run st msg).1.getD [] ++ pointers)
  remains : ∀ st msg, (∃ pointer, some pointer ∈ (run st msg).1.getD []) ↔ allocates st.handled msg

theorem BusState.malloc_handled {st : BusState Device Transfer} {succeeds : Bool} :
    (st.malloc succeeds).2.handled = st.handled := by
  cases succeeds <;> rfl

theorem BusState.mallocs_owns {st : BusState Device Transfer} {before : Heap Unit} {pointers : Pointers}
    (outcomes : List Bool) (owns : Heap.Owns before st.heap pointers) :
    Heap.Owns before (st.mallocs outcomes).2.heap ((st.mallocs outcomes).1 ++ pointers) := by
  induction outcomes generalizing st pointers with
  | nil => exact owns
  | cons succeeds rest ih =>
      have first : Heap.Owns before (st.malloc succeeds).2.heap ((st.malloc succeeds).1 :: pointers) := by
        cases succeeds with
        | false => exact owns.null
        | true => exact owns.alloc
      exact (ih first).perm List.perm_middle.symm

theorem BusState.mallocs_remain (st : BusState Device Transfer) (outcomes : List Bool) :
    (∃ pointer, some pointer ∈ (st.mallocs outcomes).1) ↔ true ∈ outcomes := by
  induction outcomes generalizing st with
  | nil => simp [BusState.mallocs]
  | cons succeeds rest ih =>
      rw [List.mem_cons, ← ih (st.malloc succeeds).2]
      cases succeeds with
      | false => simp [BusState.mallocs, BusState.malloc]
      | true => simp [BusState.mallocs, BusState.malloc]

variable {run} in
theorem BusLaws.of_mallocs {assigns : List UInt8 → Prop} {allocates : Nat → List UInt8 → Prop}
    {outcomes : Nat → List Bool} (remaining : ∀ i msg, allocates i msg ↔ assigns msg ∧ true ∈ outcomes i)
    (cases_ : ∀ st msg,
      (¬assigns msg ∧ (run st msg).1 = none ∧ (run st msg).2.heap = st.heap ∨
        assigns msg ∧ (run st msg).1 = some (st.mallocs (outcomes st.handled)).1 ∧
          (run st msg).2.heap = (st.mallocs (outcomes st.handled)).2.heap) ∧
        (run st msg).2.handled = st.handled) :
    BusLaws run assigns allocates := by
  refine ⟨fun st msg => (cases_ st msg).2, fun st msg => ?_, fun st msg before pointers owns => ?_, fun st msg => ?_⟩
  · obtain ⟨⟨unset, set, -⟩ | ⟨assigned, set, -⟩, -⟩ := cases_ st msg
    · simp [set, unset]
    · simp [set, assigned]
  · obtain ⟨⟨-, set, heap⟩ | ⟨-, set, heap⟩, -⟩ := cases_ st msg
    · rw [set, heap]
      exact owns
    · rw [set, heap]
      exact BusState.mallocs_owns _ owns
  · obtain ⟨⟨unset, set, -⟩ | ⟨assigned, set, -⟩, -⟩ := cases_ st msg
    · simp [set, unset, remaining]
    · simp [set, assigned, remaining, BusState.mallocs_remain]

def Pointers.Null (pointers : Pointers) : Prop := ∀ pointer ∈ pointers, pointer = none

/-- The pointers are NULL or dangling. -/
def Pointers.Stale (pointers : Pointers) (heap : Heap Unit) : Prop :=
  ∀ pointer, some pointer ∈ pointers → pointer < heap.next ∧ heap.get pointer = none

theorem Pointers.not_null_iff {pointers : Pointers} : ¬pointers.Null ↔ ∃ pointer, some pointer ∈ pointers := by
  simp only [Pointers.Null, not_forall]
  constructor
  · rintro ⟨pointer, member, isSome⟩
    obtain ⟨value, rfl⟩ := Option.ne_none_iff_exists'.mp isSome
    exact ⟨value, member⟩
  · rintro ⟨pointer, member⟩
    exact ⟨some pointer, member, nofun⟩

variable {run} {assigns : List UInt8 → Prop} {allocates : Nat → List UInt8 → Prop} {initial pointers : Pointers}
  {st : BusState Device Transfer} {msg : List UInt8} {msgs : List (List UInt8)}

theorem busOnMsg_ok {heap : Heap Unit} {ran : Option Pointers × BusState Device Transfer}
    (runs : run { st with heap := st.heap.alloc () } msg = ran)
    (freed : ran.2.heap.freeAll (ran.1.getD pointers ++ [some st.heap.next]) = some heap) :
    busOnMsg run pointers st msg =
      .ok (ran.1.getD pointers, { ran.2 with heap, handled := ran.2.handled + 1 }) := by
  simp only [busOnMsg, runs, freed]

/-- With null pointers or a message that sets them, a pass does what it does in a call of its own. -/
theorem BusLaws.pass (laws : BusLaws run assigns allocates) (st : BusState Device Transfer) (null : initial.Null)
    (ready : pointers.Null ∨ assigns msg) :
    ∃ next alone after, busOnMsg run pointers st msg = .ok (next, after) ∧
      busOnMsg run initial st msg = .ok (alone, after) ∧ next.Stale after.heap ∧
        (next.Null ↔ ¬allocates st.handled msg) ∧ after.handled = st.handled + 1 ∧
          ∀ pointer, after.heap.get pointer = st.heap.get pointer := by
  let before : BusState Device Transfer := { st with heap := st.heap.alloc () }
  have owned : Heap.Owns st.heap before.heap [some st.heap.next] := (Heap.Owns.refl st.heap).alloc
  have handled : (run before msg).2.handled = st.handled := laws.handled before msg
  have sets : (run before msg).1.isSome = true ↔ assigns msg := laws.assigned before msg
  have owns := laws.owns before msg st.heap _ owned
  have remains : (∃ pointer, some pointer ∈ (run before msg).1.getD []) ↔ allocates st.handled msg :=
    laws.remains before msg
  obtain ⟨freed, all, next, same⟩ := owns.freeAll
  generalize ran : run before msg = result at handled sets owns remains all next
  obtain ⟨assigned, after⟩ := result
  cases assigned with
  | some set =>
      refine ⟨set, set, _, busOnMsg_ok ran all, busOnMsg_ok ran all, fun pointer member => ?_, ?_, ?_, same⟩
      · obtain ⟨old, live⟩ := owns.new pointer (List.mem_append_left _ member)
        obtain ⟨_, live⟩ := Option.isSome_iff_exists.mp live
        exact ⟨next ▸ Heap.live_lt live, (same pointer).trans old⟩
      · rw [← remains, ← Pointers.not_null_iff, not_not]
        exact Iff.rfl
      · exact congrArg (· + 1) handled
  | none =>
      have unset : ¬assigns msg := fun set => nomatch sets.mpr set
      have nothing : ¬allocates st.handled msg := by simp [← remains]
      have free : ∀ pointers : Pointers, pointers.Null →
          after.heap.freeAll (pointers ++ [some st.heap.next]) = some freed :=
        fun pointers nulls => (Heap.freeAll_nulls nulls).trans all
      have clean := ready.resolve_right unset
      refine ⟨pointers, initial, _, busOnMsg_ok ran (free pointers clean), busOnMsg_ok ran (free initial null), ?_, ?_,
        congrArg (· + 1) handled, same⟩
      · exact fun pointer member => nomatch clean _ member
      · exact iff_of_true clean nothing

theorem BusLaws.pass_dangling (laws : BusLaws run assigns allocates) (stale : pointers.Stale st.heap)
    (left : ¬pointers.Null) (unset : ¬assigns msg) : busOnMsg run pointers st msg = .error .useAfterFree := by
  let before : BusState Device Transfer := { st with heap := st.heap.alloc () }
  have owned : Heap.Owns st.heap before.heap [some st.heap.next] := (Heap.Owns.refl st.heap).alloc
  have owns := laws.owns before msg st.heap _ owned
  have sets : (run before msg).1.isSome = true ↔ assigns msg := laws.assigned before msg
  have unfolded : busOnMsg run pointers st msg =
      match (run before msg).2.heap.freeAll ((run before msg).1.getD pointers ++ [some st.heap.next]) with
      | none => .error .useAfterFree
      | some heap => .ok ((run before msg).1.getD pointers,
          { (run before msg).2 with heap, handled := (run before msg).2.handled + 1 }) := rfl
  obtain ⟨pointer, member⟩ := Pointers.not_null_iff.mp left
  rw [unfolded]
  cases assigned : (run before msg).1 with
  | some set => exact (unset (sets.mp (by rw [assigned]; rfl))).elim
  | none =>
      rw [assigned] at owns
      have dangling : ∀ pointer, some pointer ∈ pointers → (run before msg).2.heap.get pointer = none := by
        intro pointer member
        obtain ⟨below, dead⟩ := stale pointer member
        rw [owns.kept pointer, dead]
        simpa using Nat.ne_of_lt below
      rw [Option.getD_none, Heap.freeAll_dangling dangling member]

/-- No message whose buffer remains is followed by one that does not set the pointers. -/
def Apart (assigns : List UInt8 → Prop) (allocates : Nat → List UInt8 → Prop) (handled : Nat) (msgs : List (List UInt8)) :
    Prop :=
  ∀ i msg next, msgs[i]? = some msg → msgs[i + 1]? = some next → allocates (handled + i) msg → assigns next

theorem apart_cons {first : List UInt8} {rest : List (List UInt8)} {handled : Nat} :
    Apart assigns allocates handled (first :: rest) ↔
      (∀ next, rest[0]? = some next → allocates handled first → assigns next) ∧
        Apart assigns allocates (handled + 1) rest := by
  constructor
  · intro apart
    refine ⟨fun next found => apart 0 first next rfl (by simpa using found), fun i msg next found after remains => ?_⟩
    apply apart (i + 1) msg next (by simpa using found) (by simpa using after)
    rwa [show handled + (i + 1) = handled + 1 + i by omega]
  · rintro ⟨head, tail⟩ i msg next found after remains
    cases i with
    | zero =>
        cases found
        exact head next (by simpa using after) remains
    | succ i =>
        apply tail i msg next (by simpa using found) (by simpa using after)
        rwa [show handled + 1 + i = handled + (i + 1) by omega]

theorem BusLaws.handleAll_apart (laws : BusLaws run assigns allocates) (null : initial.Null)
    (first : ∀ msg, msgs[0]? = some msg → pointers.Null ∨ assigns msg) (apart : Apart assigns allocates st.handled msgs) :
    ∃ after, handleAll run pointers st msgs = .ok after ∧ handleEach run initial st msgs = .ok after ∧
      ∀ pointer, after.heap.get pointer = st.heap.get pointer := by
  induction msgs generalizing pointers st with
  | nil => exact ⟨st, rfl, rfl, fun _ => rfl⟩
  | cons msg rest ih =>
      obtain ⟨next, alone, middle, passed, passedAlone, -, isNull, counted, same⟩ :=
        laws.pass st null (first msg rfl)
      obtain ⟨head, tail⟩ := apart_cons.mp apart
      have following : ∀ after, rest[0]? = some after → next.Null ∨ assigns after := by
        intro after found
        by_cases remains : allocates st.handled msg
        · exact .inr (head after found remains)
        · exact .inl (isNull.mpr remains)
      obtain ⟨after, all, each, sameRest⟩ := ih following (counted ▸ tail)
      refine ⟨after, ?_, ?_, fun pointer => (sameRest pointer).trans (same pointer)⟩
      · simp only [handleAll, passed]
        exact all
      · simp only [handleEach, passedAlone]
        exact each

theorem BusLaws.apart_of_ok (laws : BusLaws run assigns allocates) (stale : pointers.Stale st.heap)
    {after : BusState Device Transfer} (handled : handleAll run pointers st msgs = .ok after) :
    (∀ msg, msgs[0]? = some msg → pointers.Null ∨ assigns msg) ∧ Apart assigns allocates st.handled msgs := by
  induction msgs generalizing pointers st with
  | nil => exact ⟨nofun, nofun⟩
  | cons msg rest ih =>
      have ready : pointers.Null ∨ assigns msg := by
        by_contra neither
        obtain ⟨left, unset⟩ := not_or.mp neither
        rw [handleAll, laws.pass_dangling stale left unset] at handled
        nomatch handled
      refine ⟨fun first found => by cases found; exact ready, ?_⟩
      have none : Pointers.Null [] := nofun
      obtain ⟨next, -, middle, passed, -, staleNext, isNull, counted, -⟩ := laws.pass st none ready
      rw [handleAll, passed] at handled
      obtain ⟨following, apart⟩ := ih staleNext handled
      refine apart_cons.mpr ⟨fun second found remains => ?_, counted ▸ apart⟩
      exact (following second found).resolve_left fun null => isNull.mp null remains

/-! ## Messages in their frames -/

variable {malloc : Nat → Bool} {queued : QueuedMsg} {queue waiting : List QueuedMsg}

theorem busLoop_nil (fuel : Nat) : busLoop run malloc fuel pointers [] st = .ok (st, []) := by
  cases fuel <;> rfl

theorem busLoop_stuck (stuck : queued.drains malloc = false) (fuel : Nat) (rest : Evbuffer) :
    busLoop run malloc fuel pointers (frame queued.payload ++ rest) st = .ok (st, frame queued.payload ++ rest) := by
  have why : queued.payload = [] ∨ malloc queued.payload.length = false := by
    simpa [QueuedMsg.drains, ← Decidable.or_iff_not_imp_left] using stuck
  obtain ⟨result, drained, nothing⟩ := drain_stuck queued.fits why rest
  cases fuel with
  | zero => rfl
  | succ fuel =>
      rw [busLoop, drained]
      cases result with
      | message size msg => exact (nothing size msg rfl).elim
      | empty | failed => rfl

theorem busLoop_drains (drains : queued.drains malloc = true) (fuel : Nat) (rest : Evbuffer) :
    busLoop run malloc (fuel + 1) pointers (frame queued.payload ++ rest) st = (do
      let (pointers, st) ← busOnMsg run pointers st queued.payload
      busLoop run malloc fuel pointers rest st) := by
  obtain ⟨nonempty, memory⟩ : queued.payload ≠ [] ∧ malloc queued.payload.length = true := by
    simpa [QueuedMsg.drains] using drains
  rw [busLoop, drain_whole queued.fits nonempty memory]

def unserved (malloc : Nat → Bool) (queue : List QueuedMsg) : List QueuedMsg := queue.dropWhile (QueuedMsg.drains malloc)

theorem busLoop_queue {fuel : Nat} (enough : queue.length ≤ fuel) :
    busLoop run malloc fuel pointers (queueBytes queue) st =
      (handleAll run pointers st (servedMsgs malloc queue)).map (·, queueBytes (unserved malloc queue)) := by
  induction queue generalizing fuel pointers st with
  | nil => exact busLoop_nil fuel
  | cons queued rest ih =>
      have bytes : queueBytes (queued :: rest) = frame queued.payload ++ queueBytes rest := List.flatMap_cons
      cases drains : queued.drains malloc with
      | false => simp [bytes, busLoop_stuck drains, servedMsgs, unserved, drains, handleAll, Except.map]
      | true =>
          obtain ⟨fuel, rfl⟩ : ∃ less, fuel = less + 1 := Nat.exists_eq_succ_of_ne_zero (by simp at enough; omega)
          have served : servedMsgs malloc (queued :: rest) = queued.payload :: servedMsgs malloc rest := by
            simp [servedMsgs, drains]
          have left : unserved malloc (queued :: rest) = unserved malloc rest := by simp [unserved, drains]
          rw [bytes, busLoop_drains drains, served, left, handleAll]
          cases passed : busOnMsg run pointers st queued.payload with
          | error fault => rfl
          | ok result => exact ih (by simpa using enough)

theorem queue_length_le (queue : List QueuedMsg) : queue.length ≤ (queueBytes queue).length := by
  induction queue with
  | nil => exact Nat.le_refl _
  | cons queued rest ih =>
      simp only [queueBytes, List.flatMap_cons, List.length_append, List.length_cons, frame, htonl_length] at ih ⊢
      omega

theorem busOnData_queue (queue : List QueuedMsg) :
    busOnData run initial malloc (queueBytes queue) st =
      (handleAll run initial st (servedMsgs malloc queue)).map (·, queueBytes (unserved malloc queue)) :=
  busLoop_queue (Nat.le_succ_of_le (queue_length_le queue))

theorem inTurn_stuck (stuck : queued.drains malloc = false) :
    inTurn (busOnData run initial malloc) (queueBytes (queued :: waiting)) st queue =
      .ok (st, queueBytes (queued :: waiting ++ queue)) := by
  induction queue generalizing waiting with
  | nil => rw [inTurn, List.append_nil]
  | cons next rest ih =>
      have bytes : queueBytes (queued :: waiting) ++ frame next.payload = queueBytes (queued :: (waiting ++ [next])) := by
        simp [queueBytes]
      have stays : busOnData run initial malloc (queueBytes (queued :: (waiting ++ [next]))) st =
          .ok (st, queueBytes (queued :: (waiting ++ [next]))) := busLoop_stuck stuck _ _
      have appended : queued :: waiting ++ next :: rest = queued :: (waiting ++ [next]) ++ rest := by simp
      rw [inTurn, bytes, stays, appended]
      exact ih

theorem inTurn_queue (queue : List QueuedMsg) :
    inTurn (busOnData run initial malloc) [] st queue =
      (handleEach run initial st (servedMsgs malloc queue)).map (·, queueBytes (unserved malloc queue)) := by
  induction queue generalizing st with
  | nil => rfl
  | cons queued rest ih =>
      have bytes : [] ++ frame queued.payload = queueBytes [queued] := by simp [queueBytes]
      rw [inTurn, bytes, busOnData_queue]
      cases drains : queued.drains malloc with
      | false =>
          have served (more : List QueuedMsg) : servedMsgs malloc (queued :: more) = [] := by simp [servedMsgs, drains]
          have left (more : List QueuedMsg) : unserved malloc (queued :: more) = queued :: more := by
            simp [unserved, drains]
          rw [served, served, left, left]
          exact inTurn_stuck drains
      | true =>
          simp only [servedMsgs, unserved, drains, List.takeWhile_cons, List.dropWhile_cons, if_true, List.map_cons,
            handleEach, handleAll] at ih ⊢
          cases passed : busOnMsg run initial st queued.payload with
          | error fault => rfl
          | ok result => exact ih

/-- Handling messages in one call agrees with handling them one by one exactly if
the served ones are apart. -/
theorem BusLaws.batch_agrees_iff (laws : BusLaws run assigns allocates) (null : initial.Null) :
    BatchAgrees (busOnData run initial malloc) st queue ↔
      Apart assigns allocates st.handled (servedMsgs malloc queue) := by
  unfold BatchAgrees
  rw [busOnData_queue, inTurn_queue]
  constructor
  · rintro ⟨after, left, all, -, -⟩
    obtain ⟨result, handled, -⟩ := map_ok all
    have stale : initial.Stale st.heap := fun pointer member => nomatch null _ member
    exact (laws.apart_of_ok stale handled).2
  · intro apart
    obtain ⟨after, all, each, same⟩ := laws.handleAll_apart null (fun _ _ => .inl null) apart
    exact ⟨after, _, by rw [all]; rfl, by rw [each]; rfl, same⟩

end Passes

end Rteipc
