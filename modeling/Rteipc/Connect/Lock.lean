import Rteipc.Connect
import Rteipc.Data.LockUse
import Rteipc.Data.Run

namespace Rteipc

/-! Threads with event loops over the connections of `connect.c`, and the lock
`ctx_mutex` they share. -/

open Data

/-- A call of a public function. -/
inductive ConnCall (ReadCb ErrCb Arg : Type) where
  | rteipcConnect (outcome : ConnectOutcome ReadCb ErrCb Arg) (uri : List UInt8)
  | rteipcSetcb (id : Int) (readCb : Option ReadCb) (errCb : Option ErrCb) (arg : Option Arg) (flag : BitVec 16)
  | rteipcSend (id : Int) (data : List UInt8)
  | rteipcEvsend (id : Int) (buf : Evbuffer)
deriving DecidableEq, Repr

/-- The calls each callback makes, and the sizes of messages there is memory for. -/
structure ConnEnv (ReadCb ErrCb Arg : Type) where
  malloc : Nat → Bool
  readCb : ReadCb → Int → List UInt8 → Option Arg → List (ConnCall ReadCb ErrCb Arg)
  errCb : ErrCb → Int → BitVec 16 → Option Arg → List (ConnCall ReadCb ErrCb Arg)

/-- What a thread has yet to do. Those that stand between `lock` and `unlock` are
the parts of the functions under the lock. -/
inductive ConnInstr (ReadCb ErrCb Arg : Type) where
  | call (call : ConnCall ReadCb ErrCb Arg)
  | lock
  | unlock
  | setCallbacks (id : Int) (readCb : Option ReadCb) (errCb : Option ErrCb) (arg : Option Arg) (flag : BitVec 16)
  | registerCtx (desc : DtblAlloc) (connects : Bool) (bev : BevPtr) (ctx : CtxPtr)
  | discard (bev : BevPtr) (ctx : CtxPtr)
  | socketConnect (connects : Bool) (bev : BevPtr)
  | connectEvent (bev : BevPtr) (id : Int) (events : BitVec 16)
  | freeCtx (ctx : CtxPtr)
  | connectReadRound (bev : BevPtr) (id : Int)
  | callback (calls : List (ConnCall ReadCb ErrCb Arg))

section Instrs

variable {ReadCb ErrCb Arg : Type}

def connectEventCb (bev : BevPtr) (id : Int) (events : BitVec 16) : List (ConnInstr ReadCb ErrCb Arg) :=
  if events &&& bevEventConnected ≠ 0 then [] else [.lock, .connectEvent bev id events, .unlock]

def connectReadCb (bev : BevPtr) (id : Int) : List (ConnInstr ReadCb ErrCb Arg) :=
  [.lock, .connectReadRound bev id, .unlock]

/-- What entering a public function does at once, and what it goes on with. -/
def ConnCall.enter (thread : ThreadId) (st : ConnState ReadCb ErrCb Arg) :
    ConnCall ReadCb ErrCb Arg → Except Fault (ConnState ReadCb ErrCb Arg × List (ConnInstr ReadCb ErrCb Arg))
  | .rteipcConnect outcome uri => do
      match ← connectReaches outcome uri, outcome.ctx with
      | true, some fresh =>
          .ok ({ st with ctxs := st.ctxs.alloc fresh, bevs := st.bevs.alloc ⟨thread, none, [], []⟩ },
            [.lock, .registerCtx outcome.desc outcome.connects st.bevs.next st.ctxs.next])
      | _, _ => .ok (st, [])
  | .rteipcSetcb id readCb errCb arg flag => .ok (st, [.lock, .setCallbacks id readCb errCb arg flag, .unlock])
  | .rteipcSend id data => (Rteipc.rteipcSend st id data).map fun (st, _) => (st, [])
  | .rteipcEvsend id buf => (Rteipc.rteipcEvsend st id buf).map fun (st, _) => (st, [])

/-- What an instruction other than `lock` and `unlock` does, and what it puts in
front of the instructions that follow it. -/
def ConnInstr.run (env : ConnEnv ReadCb ErrCb Arg) (thread : ThreadId) (st : ConnState ReadCb ErrCb Arg) :
    ConnInstr ReadCb ErrCb Arg → Except Fault (ConnState ReadCb ErrCb Arg × List (ConnInstr ReadCb ErrCb Arg))
  | .lock | .unlock => .ok (st, [])
  | .call entered => entered.enter thread st
  | .callback [] => .ok (st, [])
  | .callback (entered :: calls) => (entered.enter thread st).map fun (st, instrs) => (st, instrs ++ [.callback calls])
  | .setCallbacks id readCb errCb arg flag => (Rteipc.setCallbacks st id readCb errCb arg flag).map fun (st, _) => (st, [])
  | .registerCtx desc connects bev ctx =>
      let (st, id) := Rteipc.registerCtx st desc bev ctx
      .ok (st, [.unlock, if id < 0 then .discard bev ctx else .socketConnect connects bev])
  | .discard bev ctx => do
      let st ← Rteipc.freeCtx st ctx
      let _ ← deref st.bevs bev
      .ok ({ st with bevs := st.bevs.free bev }, [])
  | .socketConnect connects bev => do
      let cell ← deref st.bevs bev
      match cell.cbs with
      | some id => .ok (st, if connects then [] else connectEventCb bev id bevEventError)
      | none => .ok (st, [])
  | .connectEvent bev id events => do
      match ← Rteipc.connectEvent st bev id events with
      | (st, none) => .ok (st, [])
      | (st, some (ctx, cell)) =>
          match cell.errCb with
          | none => .ok (st, [.freeCtx ctx])
          | some cb => .ok (st, [.callback (env.errCb cb id events cell.arg), .freeCtx ctx])
  | .freeCtx ctx => (Rteipc.freeCtx st ctx).map (·, [])
  | .connectReadRound bev id => do
      match ← Rteipc.connectReadRound env.malloc st bev id with
      | (st, none) => .ok (st, [])
      | (st, some (msg, cell)) =>
          match cell.readCb with
          | none => .ok (st, [.connectReadRound bev id])
          | some cb => .ok (st, [.callback (env.readCb cb id msg cell.arg), .connectReadRound bev id])

end Instrs

/-- `holder` is the thread that holds `ctx_mutex`. -/
structure LockState (ReadCb ErrCb Arg : Type) where
  conn : ConnState ReadCb ErrCb Arg
  holder : Option ThreadId
  threads : ThreadId → List (ConnInstr ReadCb ErrCb Arg)

/-- A thread takes its next instruction, or an idle one calls a public function
or is given an event of a connection it serves. -/
inductive LockInput (ReadCb ErrCb Arg : Type) where
  | next (thread : ThreadId)
  | call (thread : ThreadId) (call : ConnCall ReadCb ErrCb Arg)
  | arrive (thread : ThreadId) (bev : BevPtr) (bytes : Evbuffer)
  | event (thread : ThreadId) (bev : BevPtr) (events : BitVec 16)

section Machine

variable {ReadCb ErrCb Arg : Type} (env : ConnEnv ReadCb ErrCb Arg)

def LockState.start : LockState ReadCb ErrCb Arg := ⟨.start, none, fun _ => []⟩

/-- A thread waits at `lock` while the lock is held, be it by itself. -/
def LockState.next (st : LockState ReadCb ErrCb Arg) (thread : ThreadId) : Option (LockState ReadCb ErrCb Arg) :=
  match st.threads thread with
  | [] => none
  | .lock :: rest =>
      if st.holder = none then some { st with holder := some thread, threads := goOn st.threads thread rest } else none
  | .unlock :: rest => some { st with holder := none, threads := goOn st.threads thread rest }
  | instr :: rest =>
      match instr.run env thread st.conn with
      | .error _ => none
      | .ok (conn, instrs) => some { st with conn, threads := goOn st.threads thread (instrs ++ rest) }

/-- The id with which the thread serves the bufferevent. -/
def LockState.serves (st : LockState ReadCb ErrCb Arg) (thread : ThreadId) (bev : BevPtr) : Option Int :=
  match st.conn.bevs.get bev with
  | some cell => if cell.base = thread then cell.cbs else none
  | none => none

/-- Events are handled and calls are made where nothing else runs. -/
def LockState.input (st : LockState ReadCb ErrCb Arg) : LockInput ReadCb ErrCb Arg → Option (LockState ReadCb ErrCb Arg)
  | .next thread => st.next env thread
  | .call thread call =>
      if (st.threads thread).isEmpty then some { st with threads := goOn st.threads thread [.call call] } else none
  | .arrive thread bev bytes =>
      if (st.threads thread).isEmpty then
        (st.serves thread bev).map fun id =>
          { st with
              conn := { st.conn with
                bevs := st.conn.bevs.modify bev fun cell => { cell with input := cell.input ++ bytes } }
              threads := goOn st.threads thread (connectReadCb bev id) }
      else none
  | .event thread bev events =>
      if (st.threads thread).isEmpty then
        (st.serves thread bev).map fun id =>
          { st with threads := goOn st.threads thread (connectEventCb bev id events) }
      else none

def LockStep (st : LockState ReadCb ErrCb Arg) (input : LockInput ReadCb ErrCb Arg)
    (next : LockState ReadCb ErrCb Arg) : Prop := st.input env input = some next

/-- No thread is about to lock what it holds. -/
def NeverRelocks (st : LockState ReadCb ErrCb Arg) : Prop :=
  ∀ thread rest, st.threads thread = .lock :: rest → st.holder ≠ some thread

def ConnCall.locks : ConnCall ReadCb ErrCb Arg → Prop
  | .rteipcConnect outcome uri => connectReaches outcome uri = .ok true
  | .rteipcSetcb .. => True
  | .rteipcSend .. | .rteipcEvsend .. => False

/-- No callback makes a call that gets as far as the lock. -/
def CallbackUnlocked (st : LockState ReadCb ErrCb Arg) : LockInput ReadCb ErrCb Arg → Prop
  | .next thread => ∀ call calls rest, st.threads thread = .callback (call :: calls) :: rest → ¬call.locks
  | _ => True

/-! ## Balance -/

/-- Where `ctx_mutex` is held. -/
def ConnInstr.use : ConnInstr ReadCb ErrCb Arg → LockUse
  | .call _ | .discard .. | .socketConnect .. => ⟨false, false⟩
  | .lock => ⟨false, true⟩
  | .unlock | .registerCtx .. => ⟨true, false⟩
  | .setCallbacks .. | .connectEvent .. | .freeCtx _ | .connectReadRound .. | .callback _ => ⟨true, true⟩

variable {env} {thread : ThreadId} {conn after : ConnState ReadCb ErrCb Arg} {entered : ConnCall ReadCb ErrCb Arg}
  {instr : ConnInstr ReadCb ErrCb Arg} {instrs : List (ConnInstr ReadCb ErrCb Arg)}

theorem connectEventCb_leads (bev : BevPtr) (id : Int) (events : BitVec 16) :
    Leads ConnInstr.use false (connectEventCb bev id events : List (ConnInstr ReadCb ErrCb Arg)) false := by
  unfold connectEventCb
  split <;> simp [Leads, ConnInstr.use]

theorem ConnCall.enter_cases (returned : entered.enter thread conn = .ok (after, instrs)) :
    ¬entered.locks ∧ instrs = [] ∨
      entered.locks ∧ ∃ more, instrs = .lock :: more ∧ Leads ConnInstr.use true more false := by
  cases entered with
  | rteipcConnect outcome uri =>
      obtain ⟨reaches, ran, returned⟩ := bind_ok returned
      cases reaches with
      | false =>
          cases returned
          exact .inl ⟨fun locks => (nomatch ran.symm.trans locks), rfl⟩
      | true =>
          obtain ⟨fresh, allocated⟩ := connectReaches_ctx ran
          simp only [allocated] at returned
          cases returned
          exact .inr ⟨ran, _, rfl, by simp [Leads, ConnInstr.use]⟩
  | rteipcSetcb id readCb errCb arg flag =>
      cases returned
      exact .inr ⟨trivial, _, rfl, by simp [Leads, ConnInstr.use]⟩
  | rteipcSend id data =>
      obtain ⟨_, -, same⟩ := map_ok returned
      cases same
      exact .inl ⟨not_false, rfl⟩
  | rteipcEvsend id buf =>
      obtain ⟨_, -, same⟩ := map_ok returned
      cases same
      exact .inl ⟨not_false, rfl⟩

/-- An instruction does what its use of the lock says, unless it is a callback
that calls a function that locks. -/
theorem ConnInstr.run_leads (returned : instr.run env thread conn = .ok (after, instrs)) (notLock : instr ≠ .lock)
    (notUnlock : instr ≠ .unlock) (unlocked : ∀ call calls, instr = .callback (call :: calls) → ¬call.locks) :
    Leads ConnInstr.use instr.use.before instrs instr.use.after := by
  cases instr with
  | lock => exact (notLock rfl).elim
  | unlock => exact (notUnlock rfl).elim
  | call entered =>
      obtain ⟨-, rfl⟩ | ⟨-, more, rfl, leads⟩ := ConnCall.enter_cases returned
      · rfl
      · exact ⟨rfl, leads⟩
  | callback calls =>
      cases calls with
      | nil =>
          cases returned
          rfl
      | cons entered calls =>
          obtain ⟨⟨_, _⟩, ran, same⟩ := map_ok returned
          cases same
          obtain ⟨-, rfl⟩ | ⟨locks, -⟩ := ConnCall.enter_cases ran
          · exact ⟨rfl, rfl⟩
          · exact (unlocked entered calls rfl locks).elim
  | setCallbacks id readCb errCb arg flag =>
      obtain ⟨_, -, same⟩ := map_ok returned
      cases same
      rfl
  | registerCtx desc connects bev ctx =>
      generalize result : Rteipc.registerCtx conn desc bev ctx = registered at returned
      obtain ⟨_, id⟩ := registered
      simp only [ConnInstr.run, result] at returned
      cases returned
      by_cases failed : id < 0
      · simp [Leads, ConnInstr.use, failed]
      · simp [Leads, ConnInstr.use, failed]
  | discard bev ctx =>
      obtain ⟨_, -, returned⟩ := bind_ok returned
      obtain ⟨_, -, returned⟩ := bind_ok returned
      cases returned
      rfl
  | socketConnect connects bev =>
      obtain ⟨cell, -, returned⟩ := bind_ok returned
      cases cbs : cell.cbs with
      | none =>
          simp only [cbs] at returned
          cases returned
          rfl
      | some id =>
          simp only [cbs] at returned
          cases returned
          cases connects with
          | true => rfl
          | false => exact connectEventCb_leads bev id bevEventError
  | connectEvent bev id events =>
      obtain ⟨⟨st, found⟩, -, returned⟩ := bind_ok returned
      cases found with
      | none =>
          cases returned
          rfl
      | some found =>
          obtain ⟨ctx, cell⟩ := found
          cases cb : cell.errCb with
          | none =>
              simp only [cb] at returned
              cases returned
              exact ⟨rfl, rfl⟩
          | some cb' =>
              simp only [cb] at returned
              cases returned
              exact ⟨rfl, rfl, rfl⟩
  | freeCtx ctx =>
      obtain ⟨_, -, same⟩ := map_ok returned
      cases same
      rfl
  | connectReadRound bev id =>
      obtain ⟨⟨st, found⟩, -, returned⟩ := bind_ok returned
      cases found with
      | none =>
          cases returned
          rfl
      | some found =>
          obtain ⟨msg, cell⟩ := found
          cases cb : cell.readCb with
          | none =>
              simp only [cb] at returned
              cases returned
              exact ⟨rfl, rfl⟩
          | some cb' =>
              simp only [cb] at returned
              cases returned
              exact ⟨rfl, rfl, rfl⟩

/-! ## Steps -/

variable {st next : LockState ReadCb ErrCb Arg} {input : LockInput ReadCb ErrCb Arg}

/-- What it means that a thread takes its next instruction. -/
theorem LockState.next_cases (taken : st.next env thread = some next) :
    (∃ rest, st.threads thread = .lock :: rest ∧ st.holder = none ∧
        next = { st with holder := some thread, threads := goOn st.threads thread rest }) ∨
      (∃ rest, st.threads thread = .unlock :: rest ∧
        next = { st with holder := none, threads := goOn st.threads thread rest }) ∨
      ∃ instr rest conn instrs, st.threads thread = instr :: rest ∧ instr ≠ .lock ∧ instr ≠ .unlock ∧
        instr.run env thread st.conn = .ok (conn, instrs) ∧
        next = { st with conn, threads := goOn st.threads thread (instrs ++ rest) } := by
  unfold LockState.next at taken
  split at taken
  next => nomatch taken
  next rest instrs =>
    split at taken
    next free => exact .inl ⟨rest, instrs, free, (Option.some.inj taken).symm⟩
    next => nomatch taken
  next rest instrs => exact .inr (.inl ⟨rest, instrs, (Option.some.inj taken).symm⟩)
  next instr rest notLock notUnlock instrs =>
    split at taken
    next => nomatch taken
    next conn more ran =>
      exact .inr (.inr ⟨instr, rest, conn, more, instrs, notLock, notUnlock, ran, (Option.some.inj taken).symm⟩)

/-- What each thread has yet to do fits who holds the lock. -/
def LockState.Fits (st : LockState ReadCb ErrCb Arg) : Prop := AllBalanced ConnInstr.use st.holder st.threads

theorem LockState.Fits.idle (fits : st.Fits) (idle : (st.threads thread).isEmpty) :
    decide (st.holder = some thread) = false := by
  have balanced := fits thread
  rw [List.isEmpty_iff.mp idle] at balanced
  exact balanced

theorem LockState.Fits.advance (fits : st.Fits)
    (unlocked : ∀ call calls rest, st.threads thread = .callback (call :: calls) :: rest → ¬call.locks)
    (taken : st.next env thread = some next) : next.Fits := by
  obtain ⟨rest, instrs, free, rfl⟩ | ⟨rest, instrs, rfl⟩ |
    ⟨instr, rest, conn, more, instrs, notLock, notUnlock, ran, rfl⟩ := LockState.next_cases taken
  · apply fits.goOn
    · intro other differ
      simp [free, differ.symm]
    · simpa [ConnInstr.use] using (fits.head instrs).2
  · obtain ⟨holds, balanced⟩ := fits.head instrs
    have holder : st.holder = some thread := of_decide_eq_true holds
    apply fits.goOn
    · intro other differ
      simp [holder, differ.symm]
    · simpa [ConnInstr.use] using balanced
  · obtain ⟨holds, balanced⟩ := fits.head instrs
    have leads := ConnInstr.run_leads ran notLock notUnlock fun call calls isCallback =>
      unlocked call calls rest (isCallback ▸ instrs)
    apply fits.goOn
    · exact fun _ _ => Iff.rfl
    · rw [holds]
      exact leads.append balanced

/-- Every step keeps this as long as no callback locks. -/
theorem LockState.Fits.step (fits : st.Fits) (guard : CallbackUnlocked st input) (taken : LockStep env st input next) :
    next.Fits := by
  cases input with
  | next thread => exact fits.advance guard taken
  | call thread call =>
      obtain ⟨idle, same⟩ := Option.ite_none_right_eq_some.mp taken
      cases same
      apply fits.goOn
      · exact fun _ _ => Iff.rfl
      · rw [fits.idle idle]
        exact ⟨rfl, rfl⟩
  | arrive thread bev bytes =>
      obtain ⟨idle, served⟩ := Option.ite_none_right_eq_some.mp taken
      obtain ⟨id, -, same⟩ := Option.map_eq_some_iff.mp served
      cases same
      apply fits.goOn
      · exact fun _ _ => Iff.rfl
      · rw [fits.idle idle]
        simp [connectReadCb, Data.Balanced, Leads, ConnInstr.use]
  | event thread bev events =>
      obtain ⟨idle, served⟩ := Option.ite_none_right_eq_some.mp taken
      obtain ⟨id, -, same⟩ := Option.map_eq_some_iff.mp served
      cases same
      apply fits.goOn
      · exact fun _ _ => Iff.rfl
      · rw [fits.idle idle]
        exact connectEventCb_leads bev id events

theorem LockState.Fits.neverRelocks (fits : st.Fits) : NeverRelocks st := by
  intro thread rest instrs
  exact of_decide_eq_false (fits.head instrs).1

theorem LockState.start_fits : (LockState.start : LockState ReadCb ErrCb Arg).Fits := fun _ => rfl

/-- A callback is called with the lock held, so what locks in it locks again. -/
theorem LockState.Fits.callbackUnlocked (fits : st.Fits) (taken : LockStep env st input next)
    (never : NeverRelocks next) : CallbackUnlocked st input := by
  cases input with
  | call | arrive | event => trivial
  | next thread =>
      intro call calls rest callback locks
      have holds : st.holder = some thread := of_decide_eq_true (fits.head callback).1
      obtain ⟨_, instrs, -⟩ | ⟨_, instrs, -⟩ | ⟨instr, _, conn, more, instrs, -, -, ran, rfl⟩ :=
        LockState.next_cases taken
      · nomatch callback.symm.trans instrs
      · nomatch callback.symm.trans instrs
      · cases callback.symm.trans instrs
        obtain ⟨⟨_, _⟩, entered, same⟩ := map_ok ran
        cases same
        obtain ⟨free, -⟩ | ⟨-, more, rfl, -⟩ := ConnCall.enter_cases entered
        · exact free locks
        · exact never thread _ (if_pos rfl) holds

/-- The parts of the functions under the lock run one at a time. -/
def Exclusive (st : LockState ReadCb ErrCb Arg) : Prop :=
  ∀ thread other instr otherInstr rest otherRest, st.threads thread = instr :: rest → instr.use.before = true →
    st.threads other = otherInstr :: otherRest → otherInstr.use.before = true → thread = other

theorem LockState.Fits.exclusive (fits : st.Fits) : Exclusive st := by
  intro thread other instr otherInstr rest otherRest takes needs otherTakes otherNeeds
  exact fits.alone takes needs otherTakes otherNeeds

/-- As long as no callback locks, the lock keeps them apart. -/
theorem lock_excludes {inputs : List (LockInput ReadCb ErrCb Arg)}
    (unlocked : Guarded (LockStep env) CallbackUnlocked .start inputs) :
    Always (LockStep env) Exclusive .start inputs :=
  unlocked.always (fun _ _ _ fits guard taken => fits.step guard taken) (fun _ fits => fits.exclusive)
    LockState.start_fits

/-- No thread comes to lock `ctx_mutex` while it holds it exactly as long as no
callback that runs makes a call that locks it. -/
theorem never_relocks_iff (env : ConnEnv ReadCb ErrCb Arg) (inputs : List (LockInput ReadCb ErrCb Arg)) :
    Always (LockStep env) NeverRelocks .start inputs ↔ Guarded (LockStep env) CallbackUnlocked .start inputs :=
  always_iff_guarded_of (fun _ _ _ fits guard taken => fits.step guard taken) (fun _ fits => fits.neverRelocks)
    (fun _ _ _ fits taken never => fits.callbackUnlocked taken never) LockState.start_fits

end Machine

/-! ## A program that connects again -/

def reconnect : ConnCall Unit Unit Unit :=
  .rteipcConnect ⟨true, some ⟨0, none, none, none, 0⟩, true, .succeeds, true⟩ (ascii "ipc:///a")

/-- Its error callback connects again. -/
def reconnectingEnv : ConnEnv Unit Unit Unit := ⟨fun _ => true, fun _ _ _ _ => [], fun _ _ _ _ => [reconnect]⟩

/-- The connection is made, its callback is set, and its end is told of. -/
def reconnecting : List (LockInput Unit Unit Unit) :=
  [.call 0 reconnect, .next 0, .next 0, .next 0, .next 0, .next 0,
    .call 0 (.rteipcSetcb 0 none (some ()) none 0), .next 0, .next 0, .next 0, .next 0,
    .event 0 0 bevEventEof, .next 0, .next 0, .next 0]

/-- It waits for itself at the end of the first connection. -/
theorem reconnecting_relocks : ¬ ∀ (env : ConnEnv Unit Unit Unit) inputs st,
    Reaches (LockStep env) .start inputs st → NeverRelocks st := by
  intro all
  have stuck : ((reconnecting.foldlM (LockState.input reconnectingEnv) .start).map fun st =>
      (st.holder, (st.threads 0).head?)) = some (some 0, some .lock) := by rfl
  obtain ⟨st, ran, stopped⟩ := Option.map_eq_some_iff.mp stuck
  obtain ⟨holds, waits⟩ := Prod.mk.inj stopped
  obtain ⟨rest, locks⟩ := List.head?_eq_some_iff.mp waits
  exact all reconnectingEnv reconnecting st (.of_foldlM ran) 0 rest locks holds

end Rteipc
