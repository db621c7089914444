import Rteipc.Endpoint

namespace Rteipc

/-! Connections: `connect.c`.

What a function does between `pthread_mutex_lock` and `pthread_mutex_unlock` is
a definition of its own.
-/

open Data

abbrev ThreadId := Nat

abbrev CtxPtr := Nat

/-- `struct rteipc_ctx` -/
structure RteipcCtx (ReadCb ErrCb Arg : Type) where
  bev : BevPtr
  readCb : Option ReadCb
  errCb : Option ErrCb
  arg : Option Arg
  flag : BitVec 16
deriving DecidableEq, Repr

/-- The bufferevent of a connection: `base` is the thread whose event loop serves
it, and `cbs` the id its callbacks were set with. -/
structure ConnBev where
  base : ThreadId
  cbs : Option Int
  input : Evbuffer
  output : Evbuffer
deriving DecidableEq, Repr

structure ConnState (ReadCb ErrCb Arg : Type) where
  ctxTbl : Dtbl CtxPtr
  ctxs : Heap (RteipcCtx ReadCb ErrCb Arg)
  bevs : Heap ConnBev

/-- What the allocations come to, with what the memory of the new context holds,
and whether the connecting begins. -/
structure ConnectOutcome (ReadCb ErrCb Arg : Type) where
  bev : Bool
  ctx : Option (RteipcCtx ReadCb ErrCb Arg)
  inetPton : Bool
  desc : DtblAlloc
  connects : Bool
deriving DecidableEq, Repr

variable {ReadCb ErrCb Arg : Type}

/-- The table has room for MAX_NR_CN connections. -/
def ConnState.start : ConnState ReadCb ErrCb Arg where
  ctxTbl := dtblInitializer CtxPtr (4 * descBitWidth)
  ctxs := .empty
  bevs := .empty

/-- `rteipc_connect` gets as far as the lock. A port of five characters is never
out of the range of `strtol`. -/
def connectReaches (outcome : ConnectOutcome ReadCb ErrCb Arg) (uri : List UInt8) : Except Fault Bool :=
  let (protocol, path) := scanUri uri
  if protocol.length > 15 then .error .overflow
  else if protocol ≠ ascii "ipc" && protocol ≠ ascii "inet" then .ok false
  else if !outcome.bev || outcome.ctx.isNone then .ok false
  else if protocol = ascii "inet" then
    let (sip, sport) := scanInet path
    if sip.length > 15 || sport.length > 5 then .error .overflow
    else .ok (outcome.inetPton && sport ≠ [])
  else .ok true

theorem connectReaches_ctx {outcome : ConnectOutcome ReadCb ErrCb Arg} {uri : List UInt8}
    (reaches : connectReaches outcome uri = .ok true) : ∃ fresh, outcome.ctx = some fresh := by
  cases allocated : outcome.ctx with
  | some fresh => exact ⟨fresh, rfl⟩
  | none =>
      simp only [connectReaches, allocated, Option.isNone_none, Bool.or_true, if_true] at reaches
      split at reaches
      · nomatch reaches
      · split at reaches
        · nomatch reaches
        · nomatch reaches

/-- `rteipc_connect` under the lock. -/
def registerCtx (st : ConnState ReadCb ErrCb Arg) (desc : DtblAlloc) (bev : BevPtr) (ctx : CtxPtr) :
    ConnState ReadCb ErrCb Arg × Int :=
  let (ctxTbl, id) := dtblSet desc st.ctxTbl (some ctx)
  if id < 0 then ({ st with ctxTbl }, id)
  else
    ({ ctxTbl
       ctxs := st.ctxs.modify ctx fun cell => { cell with bev }
       bevs := st.bevs.modify bev fun cell => { cell with cbs := some id } }, id)

/-- `rteipc_setcb` under the lock. -/
def setCallbacks (st : ConnState ReadCb ErrCb Arg) (id : Int) (readCb : Option ReadCb) (errCb : Option ErrCb)
    (arg : Option Arg) (flag : BitVec 16) : Except Fault (ConnState ReadCb ErrCb Arg × Int) :=
  match dtblGet st.ctxTbl id with
  | none => .ok (st, -1)
  | some ctx => do
      let _ ← deref st.ctxs ctx
      .ok ({ st with ctxs := st.ctxs.modify ctx fun cell => { cell with readCb, errCb, arg, flag } }, 0)

def rteipcEvsend (st : ConnState ReadCb ErrCb Arg) (id : Int) (buf : Evbuffer) :
    Except Fault (ConnState ReadCb ErrCb Arg × Int) :=
  match dtblGet st.ctxTbl id with
  | none => .ok (st, -1)
  | some ctx => do
      let ctx ← deref st.ctxs ctx
      let _ ← deref st.bevs ctx.bev
      .ok ({ st with bevs := st.bevs.modify ctx.bev fun cell =>
          { cell with output := (rteipcEvbuffer cell.output buf).1 } }, 0)

def rteipcSend (st : ConnState ReadCb ErrCb Arg) (id : Int) (data : List UInt8) :
    Except Fault (ConnState ReadCb ErrCb Arg × Int) :=
  match dtblGet st.ctxTbl id with
  | none => .ok (st, -1)
  | some ctx => do
      let ctx ← deref st.ctxs ctx
      let _ ← deref st.bevs ctx.bev
      .ok ({ st with bevs := st.bevs.modify ctx.bev fun cell =>
          { cell with output := rteipcBuffer cell.output data } }, 0)

def bevEventEof : BitVec 16 := 0x10

def bevEventError : BitVec 16 := 0x20

def bevEventConnected : BitVec 16 := 0x80

/-- `connect_event_cb` under the lock, up to the callback: the context it is for. -/
def connectEvent (st : ConnState ReadCb ErrCb Arg) (bev : BevPtr) (id : Int) (events : BitVec 16) :
    Except Fault (ConnState ReadCb ErrCb Arg × Option (CtxPtr × RteipcCtx ReadCb ErrCb Arg)) :=
  if events &&& (bevEventEof ||| bevEventError) = 0 then .ok (st, none)
  else do
    let _ ← deref st.bevs bev
    let closed := { st with ctxTbl := dtblDel st.ctxTbl id, bevs := st.bevs.free bev }
    match dtblGet st.ctxTbl id with
    | none => .error .nullDereference
    | some ctx => do
        let cell ← deref st.ctxs ctx
        .ok (closed, some (ctx, cell))

def freeCtx (st : ConnState ReadCb ErrCb Arg) (ctx : CtxPtr) : Except Fault (ConnState ReadCb ErrCb Arg) := do
  let _ ← deref st.ctxs ctx
  .ok { st with ctxs := st.ctxs.free ctx }

/-- One message of the loop in `connect_read_cb`, with the context it is for. -/
def connectReadRound (malloc : Nat → Bool) (st : ConnState ReadCb ErrCb Arg) (bev : BevPtr) (id : Int) :
    Except Fault (ConnState ReadCb ErrCb Arg × Option (List UInt8 × RteipcCtx ReadCb ErrCb Arg)) := do
  let cell ← deref st.bevs bev
  match rteipcMsgDrain malloc cell.input with
  | (.message _ msg, rest) =>
      match dtblGet st.ctxTbl id with
      | none => .error .nullDereference
      | some ctx => do
          let found ← deref st.ctxs ctx
          .ok ({ st with bevs := st.bevs.modify bev fun cell => { cell with input := rest } }, some (msg, found))
  | _ => .ok (st, none)

end Rteipc
