import Rteipc.Connect
import Rteipc.Data.Handles
import Rteipc.Data.Run

namespace Rteipc

/-! Which callbacks `connect.c` runs.

Its functions come one after the other, as `lock_excludes` has them, and a
callback sends at most: in a call that takes the lock it waits for ever.
-/

open Data

inductive CbKind where
  | read
  | err
deriving DecidableEq, Repr

/-- What `rteipc_setcb` installs. -/
structure CbSetting (ReadCb ErrCb Arg : Type) where
  readCb : Option ReadCb
  errCb : Option ErrCb
  arg : Option Arg
deriving DecidableEq, Repr

/-- A callback that was invoked, and what had last been installed for the connection. -/
structure Invocation (ReadCb ErrCb Arg : Type) where
  id : Int
  kind : CbKind
  callback : ReadCb ⊕ ErrCb
  arg : Option Arg
  installed : Option (CbSetting ReadCb ErrCb Arg)

/-- `issued` are the ids that `rteipc_connect` has handed out, and `installed`
what `rteipc_setcb` has last been given for each. -/
structure CbState (ReadCb ErrCb Arg : Type) where
  conn : ConnState ReadCb ErrCb Arg
  issued : List Int
  installed : Int → Option (CbSetting ReadCb ErrCb Arg)
  invoked : List (Invocation ReadCb ErrCb Arg)

/-- The calls, bytes that come in on a connection, and what `connect_event_cb`
is told, be it the end, an error or that the connecting has failed. -/
inductive CbEvent (ReadCb ErrCb Arg : Type) where
  | rteipcConnect (thread : ThreadId) (outcome : ConnectOutcome ReadCb ErrCb Arg) (uri : List UInt8)
  | rteipcSetcb (id : Int) (readCb : Option ReadCb) (errCb : Option ErrCb) (arg : Option Arg) (flag : BitVec 16)
  | arrive (bev : BevPtr) (bytes : Evbuffer)
  | event (bev : BevPtr) (events : BitVec 16)

section Machine

variable {ReadCb ErrCb Arg : Type}

def RteipcCtx.setting (ctx : RteipcCtx ReadCb ErrCb Arg) : CbSetting ReadCb ErrCb Arg := ⟨ctx.readCb, ctx.errCb, ctx.arg⟩

def CbSetting.callback (setting : CbSetting ReadCb ErrCb Arg) : CbKind → Option (ReadCb ⊕ ErrCb)
  | .read => setting.readCb.map .inl
  | .err => setting.errCb.map .inr

/-- The id a live bufferevent is served with. -/
def ConnState.connId (st : ConnState ReadCb ErrCb Arg) (bev : BevPtr) : Option Int :=
  ((st.bevs.get bev).map ConnBev.cbs).join

/-- `rteipc_connect` up to `bufferevent_socket_connect`. -/
def rteipcConnect (st : ConnState ReadCb ErrCb Arg) (thread : ThreadId) (outcome : ConnectOutcome ReadCb ErrCb Arg)
    (uri : List UInt8) : Except Fault (ConnState ReadCb ErrCb Arg × Int) := do
  match ← connectReaches outcome uri, outcome.ctx with
  | true, some fresh =>
      let bev := st.bevs.next
      let ctx := st.ctxs.next
      let allocated := { st with ctxs := st.ctxs.alloc fresh, bevs := st.bevs.alloc ⟨thread, none, [], []⟩ }
      let (st, id) := registerCtx allocated outcome.desc bev ctx
      if id < 0 then
        let st ← freeCtx st ctx
        let _ ← deref st.bevs bev
        .ok ({ st with bevs := st.bevs.free bev }, -1)
      else .ok (st, id)
  | _, _ => .ok (st, -1)

namespace CbState

def start : CbState ReadCb ErrCb Arg := ⟨.start, [], fun _ => none, []⟩

def invoke (st : CbState ReadCb ErrCb Arg) (id : Int) (kind : CbKind) (ctx : RteipcCtx ReadCb ErrCb Arg) :
    CbState ReadCb ErrCb Arg :=
  match ctx.setting.callback kind with
  | none => st
  | some callback => { st with invoked := st.invoked ++ [⟨id, kind, callback, ctx.arg, st.installed id⟩] }

def connect (st : CbState ReadCb ErrCb Arg) (thread : ThreadId) (outcome : ConnectOutcome ReadCb ErrCb Arg)
    (uri : List UInt8) : Except Fault (CbState ReadCb ErrCb Arg) := do
  let (conn, id) ← rteipcConnect st.conn thread outcome uri
  .ok (if id < 0 then { st with conn } else { st with conn, issued := id :: st.issued })

def setcb (st : CbState ReadCb ErrCb Arg) (id : Int) (readCb : Option ReadCb) (errCb : Option ErrCb) (arg : Option Arg)
    (flag : BitVec 16) : Except Fault (CbState ReadCb ErrCb Arg) := do
  let (conn, ret) ← setCallbacks st.conn id readCb errCb arg flag
  .ok { st with
    conn
    installed := if ret = 0 then Function.update st.installed id (some ⟨readCb, errCb, arg⟩) else st.installed }

/-- The loop of `connect_read_cb`. -/
def readLoop (malloc : Nat → Bool) (bev : BevPtr) (id : Int) :
    Nat → CbState ReadCb ErrCb Arg → Except Fault (CbState ReadCb ErrCb Arg)
  | 0, st => .ok st
  | fuel + 1, st => do
      match ← connectReadRound malloc st.conn bev id with
      | (_, none) => .ok st
      | (conn, some (_, ctx)) => readLoop malloc bev id fuel ({ st with conn }.invoke id .read ctx)

/-- A message takes its header off the buffer, so this much fuel is never used up. -/
def read (malloc : Nat → Bool) (st : CbState ReadCb ErrCb Arg) (bev : BevPtr) (id : Int) (input : Evbuffer) :
    Except Fault (CbState ReadCb ErrCb Arg) :=
  readLoop malloc bev id (input.length + 1)
    { st with conn := { st.conn with bevs := st.conn.bevs.modify bev fun cell => { cell with input } } }

/-- `connect_event_cb` -/
def event (st : CbState ReadCb ErrCb Arg) (bev : BevPtr) (id : Int) (events : BitVec 16) :
    Except Fault (CbState ReadCb ErrCb Arg) :=
  if events &&& bevEventConnected ≠ 0 then .ok st
  else do
    match ← connectEvent st.conn bev id events with
    | (conn, none) => .ok { st with conn }
    | (conn, some (ctx, cell)) =>
        let st := { st with conn }.invoke id .err cell
        let conn ← freeCtx st.conn ctx
        .ok { st with conn }

/-- Only a live bufferevent has events. -/
def handle (malloc : Nat → Bool) (st : CbState ReadCb ErrCb Arg) :
    CbEvent ReadCb ErrCb Arg → Option (Except Fault (CbState ReadCb ErrCb Arg))
  | .rteipcConnect thread outcome uri => some (st.connect thread outcome uri)
  | .rteipcSetcb id readCb errCb arg flag => some (st.setcb id readCb errCb arg flag)
  | .arrive bev bytes =>
      match st.conn.connId bev, st.conn.bevs.get bev with
      | some id, some cell => some (st.read malloc bev id (cell.input ++ bytes))
      | _, _ => none
  | .event bev events => (st.conn.connId bev).map fun id => st.event bev id events

end CbState

/-- The connections have ids of their own. -/
def DistinctIds : Except Fault (CbState ReadCb ErrCb Arg) → Prop
  | .ok st => st.issued.Nodup
  | .error _ => True

def CbStep (malloc : Nat → Bool) (st : Except Fault (CbState ReadCb ErrCb Arg)) (event : CbEvent ReadCb ErrCb Arg)
    (next : Except Fault (CbState ReadCb ErrCb Arg)) : Prop :=
  ∃ now, st = .ok now ∧ now.handle malloc event = some next ∧ DistinctIds next

/-- The function and the argument are those last installed. -/
def Invocation.Registered (invocation : Invocation ReadCb ErrCb Arg) : Prop :=
  ∃ setting, invocation.installed = some setting ∧ setting.callback invocation.kind = some invocation.callback ∧
    setting.arg = invocation.arg

/-- Every callback that was invoked was the one installed; after a fault anything may run. -/
def OnlyRegistered : Except Fault (CbState ReadCb ErrCb Arg) → Prop
  | .ok st => ∀ invocation ∈ st.invoked, invocation.Registered
  | .error _ => False

namespace CbState

/-- The connection of the id has not ended. -/
def Open (st : CbState ReadCb ErrCb Arg) (id : Int) : Prop := ∃ bev, st.conn.connId bev = some id

/-- The table has the context of the id, and unless callbacks were installed
the memory of the context holds NULL for the callback. -/
def Prepared (st : CbState ReadCb ErrCb Arg) (id : Int) (kind : CbKind) : Prop :=
  ∃ ctx cell, dtblGet st.conn.ctxTbl id = some ctx ∧ st.conn.ctxs.get ctx = some cell ∧
    (st.installed id = none → cell.setting.callback kind = none)

/-- No URI is too long for the buffers of `rteipc_connect`, callbacks are not
installed for a connection that has ended, and for what comes in on a connection
its context is prepared. -/
def Safe (malloc : Nat → Bool) (st : CbState ReadCb ErrCb Arg) : CbEvent ReadCb ErrCb Arg → Prop
  | .rteipcConnect _ outcome uri => ∀ fault, connectReaches outcome uri ≠ .error fault
  | .rteipcSetcb id .. => ∀ ctx, dtblGet st.conn.ctxTbl id = some ctx → st.Open id
  | .arrive bev bytes => ∀ id cell, st.conn.connId bev = some id → st.conn.bevs.get bev = some cell →
      (msgDrainAll malloc (cell.input ++ bytes)).1 ≠ [] → st.Prepared id .read
  | .event bev events => ∀ id, st.conn.connId bev = some id → events &&& bevEventConnected = 0 →
      events &&& (bevEventEof ||| bevEventError) ≠ 0 → st.Prepared id .err

end CbState

/-- A fault ends the run. -/
def SafeCbs (malloc : Nat → Bool) :
    Except Fault (CbState ReadCb ErrCb Arg) → CbEvent ReadCb ErrCb Arg → Prop
  | .ok st, event => st.Safe malloc event
  | .error _, _ => True

/-! ## Connecting -/

def ConnState.handles (st : ConnState ReadCb ErrCb Arg) : Handles Int CtxPtr (RteipcCtx ReadCb ErrCb Arg) BevPtr :=
  ⟨dtblGet st.ctxTbl, st.ctxs.get, st.connId⟩

omit ReadCb ErrCb Arg in
theorem dtblGet_append {α : Type} {table after : Dtbl α} {id : Int} {val : α}
    (new : ∀ entry ∈ table.entryList, entry.id ≠ id)
    (appended : after.entryList = table.entryList ++ [⟨id, some val⟩]) :
    dtblGet after = Function.update (dtblGet table) id (some val) := by
  have absent : table.entryList.find? (fun entry => entry.id == id) = none := by simpa using new
  funext other
  by_cases same : other = id
  · subst same
    simp [dtblGet, appended, absent]
  · have differ : id ≠ other := fun equal => same equal.symm
    simp [dtblGet, appended, same, differ]

/-- What a returned `rteipc_connect` has done: nothing the handles tell of, or
it has opened a connection whose id the table may not have. -/
inductive Registers (st after : ConnState ReadCb ErrCb Arg) (id : Int) : Prop
  | refused (negative : id < 0) (handles : after.handles = st.handles)
      (entries : after.ctxTbl.entryList = st.ctxTbl.entryList) (later : st.ctxs.next ≤ after.ctxs.next)
  | given (stored : Bool) (cell : RteipcCtx ReadCb ErrCb Arg) (positive : 0 ≤ id)
      (handles : (∀ entry ∈ st.ctxTbl.entryList, entry.id ≠ id) →
        after.handles = st.handles.attach stored id st.ctxs.next cell st.bevs.next)
      (entries : after.ctxTbl.entryList = st.ctxTbl.entryList ++ if stored then [⟨id, some st.ctxs.next⟩] else [])
      (later : st.ctxs.next < after.ctxs.next)

variable {st after : ConnState ReadCb ErrCb Arg} {thread : ThreadId} {outcome : ConnectOutcome ReadCb ErrCb Arg}
  {uri : List UInt8} {id : Int}

theorem ConnState.connId_fresh : st.connId st.bevs.next = none := by
  simp [ConnState.connId, st.bevs.fresh _ (Nat.le_refl _)]

theorem ConnState.connId_update {bevs : Heap ConnBev} {bev : BevPtr} {cell : Option ConnBev}
    (changed : bevs.get = Function.update st.bevs.get bev cell) (tbl : Dtbl CtxPtr)
    (ctxs : Heap (RteipcCtx ReadCb ErrCb Arg)) :
    ConnState.connId ⟨tbl, ctxs, bevs⟩ = Function.update st.connId bev (cell.bind ConnBev.cbs) := by
  funext other
  by_cases same : other = bev
  · subst same
    cases cell <;> simp [ConnState.connId, changed]
  · simp [ConnState.connId, changed, same]

theorem rteipcConnect_refused (reaches : connectReaches outcome uri = .ok false) :
    rteipcConnect st thread outcome uri = .ok (st, -1) := by
  simp [rteipcConnect, reaches, bind, Except.bind]

/-- The table gives no id, and the allocations are taken back. -/
theorem registerCtx_refused (base : ThreadId) (fresh : RteipcCtx ReadCb ErrCb Arg) {tbl : Dtbl CtxPtr}
    (entries : tbl.entryList = st.ctxTbl.entryList) :
    Registers st ⟨tbl, (st.ctxs.alloc fresh).free st.ctxs.next,
      (st.bevs.alloc ⟨base, none, [], []⟩).free st.bevs.next⟩ (-1) := by
  apply Registers.refused
  · decide
  · have table : dtblGet tbl = dtblGet st.ctxTbl := by
      funext id
      rw [dtblGet, dtblGet, entries]
    have cells : ((st.ctxs.alloc fresh).free st.ctxs.next).get = st.ctxs.get := funext fun _ => Heap.get_alloc_free
    simp only [ConnState.handles, table, cells, Handles.mk.injEq, true_and]
    funext bev
    simp only [ConnState.connId, Heap.get_alloc_free]
  · exact entries
  · exact Nat.le_succ _

theorem registerCtx_given (base : ThreadId) (fresh : RteipcCtx ReadCb ErrCb Arg) {tbl : Dtbl CtxPtr} {stored : Bool}
    (positive : 0 ≤ id)
    (entries : tbl.entryList = st.ctxTbl.entryList ++ if stored then [⟨id, some st.ctxs.next⟩] else []) :
    Registers st
      ⟨tbl, (st.ctxs.alloc fresh).modify st.ctxs.next fun cell => { cell with bev := st.bevs.next },
        (st.bevs.alloc ⟨base, none, [], []⟩).modify st.bevs.next fun cell => { cell with cbs := some id }⟩ id := by
  apply Registers.given stored { fresh with bev := st.bevs.next } positive
  · intro new
    have table : dtblGet tbl =
        if stored then Function.update (dtblGet st.ctxTbl) id (some st.ctxs.next) else dtblGet st.ctxTbl := by
      cases stored with
      | true => exact dtblGet_append new entries
      | false =>
          funext id
          rw [dtblGet, entries]
          simp [dtblGet]
    have bevs : ((st.bevs.alloc ⟨base, none, [], []⟩).modify st.bevs.next fun cell => { cell with cbs := some id }).get =
        Function.update st.bevs.get st.bevs.next (some ⟨base, some id, [], []⟩) := by
      rw [Heap.get_modify_live Heap.get_alloc_next, Heap.get_alloc, Function.update_idem]
    have cells : ((st.ctxs.alloc fresh).modify st.ctxs.next fun cell => { cell with bev := st.bevs.next }).get =
        Function.update st.ctxs.get st.ctxs.next (some { fresh with bev := st.bevs.next }) := by
      rw [Heap.get_modify_live Heap.get_alloc_next, Heap.get_alloc, Function.update_idem]
    simp only [ConnState.handles, Handles.attach, table, cells, ConnState.connId_update bevs, Option.bind_some]
  · exact entries
  · exact Nat.lt_succ_self _

theorem rteipcConnect_registers (thread : ThreadId) (room : st.ctxTbl.Room)
    (reaches : connectReaches outcome uri = .ok true) :
    ∃ after id, rteipcConnect st thread outcome uri = .ok (after, id) ∧ after.ctxTbl.Room ∧ Registers st after id := by
  obtain ⟨fresh, allocated⟩ := connectReaches_ctx reaches
  have cases := @dtblSet_cases CtxPtr outcome.desc st.ctxTbl (some st.ctxs.next) room
  cases result : dtblSet outcome.desc st.ctxTbl (some st.ctxs.next) with
  | mk tbl id =>
      simp only [result] at cases
      obtain ⟨newRoom, -, ⟨negative, entries, -⟩ | ⟨id, rfl, -, stored⟩⟩ := cases
      · refine ⟨_, _, ?_, newRoom, registerCtx_refused thread fresh entries⟩
        simp [rteipcConnect, reaches, allocated, registerCtx, result, negative, freeCtx, deref, Heap.get_alloc_next,
          bind, Except.bind]
      · have positive : 0 ≤ (id : Int) := Int.natCast_nonneg id
        have returned : rteipcConnect st thread outcome uri = .ok (⟨tbl,
            (st.ctxs.alloc fresh).modify st.ctxs.next fun cell => { cell with bev := st.bevs.next },
            (st.bevs.alloc ⟨thread, none, [], []⟩).modify st.bevs.next fun cell => { cell with cbs := some (id : Int) }⟩,
            (id : Int)) := by
          simp [rteipcConnect, reaches, allocated, registerCtx, result, Int.not_lt.mpr positive, bind, Except.bind]
        have entries : ∃ stored : Bool, tbl.entryList =
            st.ctxTbl.entryList ++ if stored then [⟨id, some st.ctxs.next⟩] else [] := by
          obtain ⟨-, entries, -⟩ | ⟨-, entries, -⟩ := stored
          · exact ⟨false, by simpa using entries⟩
          · exact ⟨true, by simpa using entries⟩
        obtain ⟨stored, entries⟩ := entries
        exact ⟨_, _, returned, newRoom, registerCtx_given thread fresh positive entries⟩

/-! ## What a run keeps -/

namespace CbState

/-- The context of a connection holds what was installed for the connection. -/
structure Kept (st : CbState ReadCb ErrCb Arg) : Prop where
  room : st.conn.ctxTbl.Room
  entries : ∀ entry ∈ st.conn.ctxTbl.entryList,
    entry.id ∈ st.issued ∧ ∀ ctx, entry.value = some ctx → ctx < st.conn.ctxs.next
  served : ∀ id, st.Open id → id ∈ st.issued
  installed : ∀ id setting, st.installed id = some setting → id ∈ st.issued
  sound : st.conn.handles.Sound fun id ctx => ∀ setting, st.installed id = some setting → ctx.setting = setting

variable {st next : CbState ReadCb ErrCb Arg} {id : Int} {bev : BevPtr} {ctx : CtxPtr}
  {cell : RteipcCtx ReadCb ErrCb Arg} {kind : CbKind}

theorem start_kept : (start : CbState ReadCb ErrCb Arg).Kept where
  room := nofun
  entries := nofun
  served := fun _ ⟨_, serves⟩ => nomatch serves
  installed := nofun
  sound := ⟨nofun, nofun, nofun, nofun⟩

theorem Kept.found (kept : st.Kept) (found : dtblGet st.conn.ctxTbl id = some ctx) :
    id ∈ st.issued ∧ ctx < st.conn.ctxs.next := by
  obtain ⟨entry, member, rfl, value⟩ := dtblGet_entry found
  obtain ⟨issued, bound⟩ := kept.entries entry member
  exact ⟨issued, bound ctx value⟩

theorem Kept.live (kept : st.Kept) (serves : st.conn.connId bev = some id)
    (found : dtblGet st.conn.ctxTbl id = some ctx) : ∃ cell, st.conn.ctxs.get ctx = some cell :=
  (kept.sound.live id ctx found).mpr ⟨bev, serves⟩

/-- Steps that leave the connections and what is installed as they are. -/
theorem Kept.of_same (kept : st.Kept) (room : next.conn.ctxTbl.Room)
    (entries : next.conn.ctxTbl.entryList = st.conn.ctxTbl.entryList) (handles : next.conn.handles = st.conn.handles)
    (later : st.conn.ctxs.next ≤ next.conn.ctxs.next) (issued : next.issued = st.issued)
    (installed : next.installed = st.installed) : next.Kept where
  room := room
  entries := by
    intro entry member
    rw [entries] at member
    obtain ⟨given, bound⟩ := kept.entries entry member
    exact ⟨issued ▸ given, fun ctx value => Nat.lt_of_lt_of_le (bound ctx value) later⟩
  served := by
    rintro id ⟨bev, serves⟩
    have same : next.conn.connId = st.conn.connId := congrArg Handles.ports handles
    rw [issued]
    exact kept.served id ⟨bev, same ▸ serves⟩
  installed := by
    intro id setting
    rw [installed, issued]
    exact kept.installed id setting
  sound := by
    rw [handles, installed]
    exact kept.sound

theorem Kept.given (kept : st.Kept) {after : ConnState ReadCb ErrCb Arg} (room : after.ctxTbl.Room)
    (registers : Registers st.conn after id) (positive : 0 ≤ id) (new : id ∉ st.issued) :
    Kept { st with conn := after, issued := id :: st.issued } := by
  obtain ⟨negative, -, -, -⟩ | ⟨stored, cell, -, handles, entries, later⟩ := registers
  · omega
  · have fresh : ∀ entry ∈ st.conn.ctxTbl.entryList, entry.id ≠ id := fun entry member same =>
      new (same ▸ (kept.entries entry member).1)
    have attached := handles fresh
    constructor
    case room => exact room
    case entries =>
      intro entry member
      rw [entries] at member
      obtain old | added := List.mem_append.mp member
      · obtain ⟨given, bound⟩ := kept.entries entry old
        exact ⟨List.mem_cons_of_mem _ given, fun ctx value => Nat.lt_trans (bound ctx value) later⟩
      · cases stored with
        | false => nomatch added
        | true =>
            obtain rfl := List.mem_singleton.mp added
            refine ⟨List.mem_cons_self, fun ctx value => ?_⟩
            cases value
            exact later
    case served =>
      intro other serves
      have opened : Handles.Open (st.conn.handles.attach stored id st.conn.ctxs.next cell st.conn.bevs.next) other :=
        attached ▸ serves
      obtain rfl | old := (Handles.open_update ConnState.connId_fresh _ _).mp opened
      · exact List.mem_cons_self
      · exact List.mem_cons_of_mem _ (kept.served other old)
    case installed =>
      intro other setting isSet
      exact List.mem_cons_of_mem _ (kept.installed other setting isSet)
    case sound =>
      have unnamed : ∀ other, dtblGet st.conn.ctxTbl other ≠ some st.conn.ctxs.next := fun other found =>
        Nat.lt_irrefl _ (kept.found found).2
      have absent : dtblGet st.conn.ctxTbl id = none := by
        cases found : dtblGet st.conn.ctxTbl id with
        | none => rfl
        | some ctx => exact (new (kept.found found).1).elim
      dsimp only
      rw [attached]
      apply kept.sound.attach stored absent (fun serves => new (kept.served id serves)) unnamed ConnState.connId_fresh
      intro _ setting isSet
      exact (new (kept.installed id setting isSet)).elim

/-! ## The steps -/

variable {thread : ThreadId} {outcome : ConnectOutcome ReadCb ErrCb Arg} {uri : List UInt8} {readCb : Option ReadCb}
  {errCb : Option ErrCb} {arg : Option Arg} {flag : BitVec 16}

variable (thread outcome uri) in
theorem connect_cases (room : st.conn.ctxTbl.Room) :
    (∃ fault, connectReaches outcome uri = .error fault ∧ st.connect thread outcome uri = .error fault) ∨
      ∃ reached after id, connectReaches outcome uri = .ok reached ∧ after.ctxTbl.Room ∧ Registers st.conn after id ∧
        st.connect thread outcome uri =
          .ok (if id < 0 then { st with conn := after } else { st with conn := after, issued := id :: st.issued }) := by
  cases reaches : connectReaches outcome uri with
  | error fault =>
      left
      exact ⟨fault, rfl, by simp [connect, rteipcConnect, reaches, bind, Except.bind]⟩
  | ok reached =>
      right
      cases reached with
      | false =>
          refine ⟨false, st.conn, -1, rfl, room, .refused (by decide) rfl rfl (Nat.le_refl _), ?_⟩
          simp [connect, rteipcConnect_refused reaches, bind, Except.bind]
      | true =>
          obtain ⟨after, id, returned, newRoom, registers⟩ := rteipcConnect_registers thread room reaches
          refine ⟨true, after, id, rfl, newRoom, registers, ?_⟩
          simp [connect, returned, bind, Except.bind]

theorem Kept.connect (kept : st.Kept) (returned : st.connect thread outcome uri = .ok next)
    (distinct : next.issued.Nodup) : next.Kept := by
  obtain ⟨fault, -, failed⟩ | ⟨-, after, id, -, room, registers, result⟩ := connect_cases thread outcome uri kept.room
  · nomatch failed.symm.trans returned
  · cases result.symm.trans returned
    by_cases negative : id < 0
    · simp only [negative, if_true]
      obtain ⟨-, handles, entries, later⟩ | ⟨-, -, positive, -, -, -⟩ := registers
      · exact kept.of_same room entries handles later rfl rfl
      · omega
    · simp only [negative, if_false] at distinct ⊢
      exact kept.given room registers (Int.not_lt.mp negative) (List.nodup_cons.mp distinct).1

theorem connect_good (kept : st.Kept) (good : OnlyRegistered (.ok st)) :
    OnlyRegistered (st.connect thread outcome uri) ↔ ∀ fault, connectReaches outcome uri ≠ .error fault := by
  obtain ⟨fault, reaches, failed⟩ | ⟨reached, after, id, reaches, -, -, result⟩ :=
    connect_cases thread outcome uri kept.room
  · simp [failed, reaches, OnlyRegistered]
  · rw [result]
    constructor
    · intro _ fault
      simp [reaches]
    · intro _
      split
      next => exact good
      next => exact good

variable (st id readCb errCb arg flag) in
theorem setcb_cases :
    dtblGet st.conn.ctxTbl id = none ∧ st.setcb id readCb errCb arg flag = .ok st ∨
      ∃ ctx, dtblGet st.conn.ctxTbl id = some ctx ∧
        (st.conn.ctxs.get ctx = none ∧ st.setcb id readCb errCb arg flag = .error .useAfterFree ∨
          ∃ cell, st.conn.ctxs.get ctx = some cell ∧
            st.setcb id readCb errCb arg flag = .ok
              { st with
                conn := { st.conn with
                  ctxs := st.conn.ctxs.modify ctx fun cell => { cell with readCb, errCb, arg, flag } }
                installed := Function.update st.installed id (some ⟨readCb, errCb, arg⟩) }) := by
  cases found : dtblGet st.conn.ctxTbl id with
  | none =>
      left
      exact ⟨rfl, by simp [setcb, setCallbacks, found, bind, Except.bind]⟩
  | some ctx =>
      right
      refine ⟨ctx, rfl, ?_⟩
      cases read : st.conn.ctxs.get ctx with
      | none =>
          left
          exact ⟨rfl, by simp [setcb, setCallbacks, found, read, deref, bind, Except.bind]⟩
      | some cell =>
          right
          exact ⟨cell, rfl, by simp [setcb, setCallbacks, found, read, deref, bind, Except.bind]⟩

theorem Kept.setcb (kept : st.Kept) (returned : st.setcb id readCb errCb arg flag = .ok next) : next.Kept := by
  obtain ⟨-, same⟩ | ⟨ctx, found, ⟨-, failed⟩ | ⟨cell, read, result⟩⟩ := setcb_cases st id readCb errCb arg flag
  · cases same.symm.trans returned
    exact kept
  · nomatch failed.symm.trans returned
  · cases result.symm.trans returned
    constructor
    case room => exact kept.room
    case entries => exact kept.entries
    case served => exact kept.served
    case installed =>
      intro other setting isSet
      by_cases same : other = id
      · subst same
        exact (kept.found found).1
      · simp only [Function.update_of_ne same] at isSet
        exact kept.installed other setting isSet
    case sound =>
      have cells : (st.conn.ctxs.modify ctx fun cell => { cell with readCb, errCb, arg, flag }).get =
          Function.update st.conn.ctxs.get ctx (some { cell with readCb, errCb, arg, flag }) := Heap.get_modify_live read
      simp only [ConnState.handles, cells]
      apply kept.sound.change found read
      · intro other cell differ fit
        rw [Function.update_of_ne differ]
        exact fit
      · intro setting isSet
        rw [Function.update_self] at isSet
        cases isSet
        rfl

theorem setcb_good (kept : st.Kept) (good : OnlyRegistered (.ok st)) :
    OnlyRegistered (st.setcb id readCb errCb arg flag) ↔ ∀ ctx, dtblGet st.conn.ctxTbl id = some ctx → st.Open id := by
  obtain ⟨missing, same⟩ | ⟨ctx, found, ⟨gone, failed⟩ | ⟨cell, read, result⟩⟩ := setcb_cases st id readCb errCb arg flag
  · simp [same, missing, good]
  · have closed : ¬st.Open id := fun serves => by
      obtain ⟨cell, there⟩ := (kept.sound.live id ctx found).mpr serves
      nomatch gone.symm.trans there
    simp [failed, found, closed, OnlyRegistered]
  · have serves : st.Open id := (kept.sound.live id ctx found).mp ⟨cell, read⟩
    rw [result]
    exact iff_of_true good fun _ _ => serves

/-! ## Callbacks -/

@[simp] theorem invoke_conn : (st.invoke id kind cell).conn = st.conn := by
  unfold invoke
  split <;> rfl

@[simp] theorem invoke_issued : (st.invoke id kind cell).issued = st.issued := by
  unfold invoke
  split <;> rfl

@[simp] theorem invoke_installed : (st.invoke id kind cell).installed = st.installed := by
  unfold invoke
  split <;> rfl

/-- What is in the context is invoked rightly unless nothing was installed. -/
theorem invoke_good (fit : ∀ setting, st.installed id = some setting → cell.setting = setting) :
    OnlyRegistered (.ok (st.invoke id kind cell)) ↔
      OnlyRegistered (.ok st) ∧ (st.installed id = none → cell.setting.callback kind = none) := by
  cases holds : cell.setting.callback kind with
  | none => simp [invoke, holds]
  | some callback =>
      have last : Invocation.Registered ⟨id, kind, callback, cell.arg, st.installed id⟩ ↔ st.installed id ≠ none := by
        constructor
        · rintro ⟨setting, installed, -⟩ missing
          nomatch missing.symm.trans installed
        · intro present
          obtain ⟨setting, installed⟩ := Option.ne_none_iff_exists'.mp present
          obtain rfl := fit setting installed
          exact ⟨cell.setting, installed, holds, rfl⟩
      simp [OnlyRegistered, invoke, holds, or_imp, forall_and, last]

/-- Only inputs and outputs differ, and what was invoked. -/
structure SameConns (st next : CbState ReadCb ErrCb Arg) : Prop where
  ctxTbl : next.conn.ctxTbl = st.conn.ctxTbl
  ctxs : next.conn.ctxs = st.conn.ctxs
  connId : next.conn.connId = st.conn.connId
  issued : next.issued = st.issued
  installed : next.installed = st.installed

theorem SameConns.kept (same : SameConns st next) (kept : st.Kept) : next.Kept := by
  obtain ⟨ctxTbl, ctxs, connId, issued, installed⟩ := same
  apply kept.of_same
  · exact ctxTbl ▸ kept.room
  · rw [ctxTbl]
  · simp only [ConnState.handles, ctxTbl, ctxs, connId]
  · rw [ctxs]
  · exact issued
  · exact installed

theorem SameConns.trans {middle : CbState ReadCb ErrCb Arg} (first : SameConns st middle)
    (second : SameConns middle next) : SameConns st next where
  ctxTbl := second.ctxTbl.trans first.ctxTbl
  ctxs := second.ctxs.trans first.ctxs
  connId := second.connId.trans first.connId
  issued := second.issued.trans first.issued
  installed := second.installed.trans first.installed

theorem connId_modify_input {conn : ConnState ReadCb ErrCb Arg} {input : Evbuffer} :
    ConnState.connId { conn with bevs := conn.bevs.modify bev fun cell => { cell with input } } = conn.connId := by
  funext other
  simp only [ConnState.connId]
  rw [Heap.map_get_modify]
  exact fun _ => rfl

theorem sameConns_input {input : Evbuffer} :
    SameConns st { st with conn := { st.conn with bevs := st.conn.bevs.modify bev fun cell => { cell with input } } } :=
  ⟨rfl, rfl, connId_modify_input, rfl, rfl⟩

theorem sameConns_invoke : SameConns st (st.invoke id kind cell) := by
  constructor <;> simp

/-! ## Reading -/

variable {malloc : Nat → Bool} {half : ConnBev} {fuel : Nat}

variable (malloc fuel) in
theorem readLoop_missing (live : st.conn.bevs.get bev = some half) (missing : dtblGet st.conn.ctxTbl id = none) :
    (msgLoop malloc fuel half.input).1 = [] ∧ readLoop malloc bev id fuel st = .ok st ∨
      (msgLoop malloc fuel half.input).1 ≠ [] ∧ readLoop malloc bev id fuel st = .error .nullDereference := by
  cases fuel with
  | zero =>
      left
      exact ⟨rfl, rfl⟩
  | succ fuel =>
      cases drained : rteipcMsgDrain malloc half.input with
      | mk result rest =>
          cases result with
          | empty | failed =>
              left
              simp [msgLoop, readLoop, connectReadRound, deref, live, drained, bind, Except.bind]
          | message size msg =>
              right
              simp [msgLoop, readLoop, connectReadRound, deref, live, drained, missing, bind, Except.bind]

variable (malloc fuel) in
theorem readLoop_found (live : st.conn.bevs.get bev = some half) (found : dtblGet st.conn.ctxTbl id = some ctx)
    (there : st.conn.ctxs.get ctx = some cell)
    (fit : ∀ setting, st.installed id = some setting → cell.setting = setting) :
    ∃ next, readLoop malloc bev id fuel st = .ok next ∧ SameConns st next ∧
      (OnlyRegistered (.ok next) ↔ OnlyRegistered (.ok st) ∧ ((msgLoop malloc fuel half.input).1 ≠ [] →
        st.installed id = none → cell.setting.callback .read = none)) := by
  induction fuel generalizing st half with
  | zero => exact ⟨st, rfl, ⟨rfl, rfl, rfl, rfl, rfl⟩, by simp [msgLoop]⟩
  | succ fuel ih =>
      cases drained : rteipcMsgDrain malloc half.input with
      | mk result rest =>
          cases result with
          | empty | failed =>
              refine ⟨st, ?_, ⟨rfl, rfl, rfl, rfl, rfl⟩, ?_⟩
              · simp [readLoop, connectReadRound, deref, live, drained, bind, Except.bind]
              · simp [msgLoop, drained]
          | message size msg =>
              let drainedSt : CbState ReadCb ErrCb Arg :=
                { st with conn := { st.conn with bevs := st.conn.bevs.modify bev fun cell => { cell with input := rest } } }
              have same : SameConns st (drainedSt.invoke id .read cell) := sameConns_input.trans sameConns_invoke
              have round : readLoop malloc bev id (fuel + 1) st =
                  readLoop malloc bev id fuel (drainedSt.invoke id .read cell) := by
                simp [readLoop, connectReadRound, deref, live, drained, found, there, bind, Except.bind, drainedSt]
              have left : (drainedSt.invoke id .read cell).conn.bevs.get bev = some { half with input := rest } := by
                simp [drainedSt, Heap.get_modify_self, live]
              have stillFound : dtblGet (drainedSt.invoke id .read cell).conn.ctxTbl id = some ctx := by
                rw [same.ctxTbl, found]
              have stillThere : (drainedSt.invoke id .read cell).conn.ctxs.get ctx = some cell := by rw [same.ctxs, there]
              obtain ⟨next, ran, later, good⟩ := ih left stillFound stillThere (same.installed ▸ fit)
              refine ⟨next, round.trans ran, same.trans later, good.trans ?_⟩
              have first : OnlyRegistered (.ok (drainedSt.invoke id .read cell)) ↔ OnlyRegistered (.ok st) ∧
                  (st.installed id = none → cell.setting.callback .read = none) := invoke_good fit
              rw [first, same.installed]
              simp only [msgLoop, drained]
              constructor
              · rintro ⟨⟨before, unset⟩, -⟩
                exact ⟨before, fun _ => unset⟩
              · rintro ⟨before, unset⟩
                have unset := unset (List.cons_ne_nil _ _)
                exact ⟨⟨before, unset⟩, fun _ => unset⟩

theorem prepared_iff (found : dtblGet st.conn.ctxTbl id = some ctx)
    (there : st.conn.ctxs.get ctx = some cell) :
    st.Prepared id kind ↔ (st.installed id = none → cell.setting.callback kind = none) := by
  constructor
  · rintro ⟨ctx', cell', found', there', unset⟩
    cases found.symm.trans found'
    cases there.symm.trans there'
    exact unset
  · intro unset
    exact ⟨ctx, cell, found, there, unset⟩

/-- What `connect_read_cb` does with the input. -/
theorem Kept.read_cases (kept : st.Kept) (malloc : Nat → Bool) (input : Evbuffer)
    (serves : st.conn.connId bev = some id) (live : st.conn.bevs.get bev = some half) :
    ((msgDrainAll malloc input).1 ≠ [] ∧ ¬st.Prepared id .read ∧
        st.read malloc bev id input = .error .nullDereference) ∨
      ∃ next, st.read malloc bev id input = .ok next ∧ SameConns st next ∧
        (OnlyRegistered (.ok next) ↔
          OnlyRegistered (.ok st) ∧ ((msgDrainAll malloc input).1 ≠ [] → st.Prepared id .read)) := by
  let filled : CbState ReadCb ErrCb Arg :=
    { st with conn := { st.conn with bevs := st.conn.bevs.modify bev fun cell => { cell with input } } }
  have same : SameConns st filled := sameConns_input
  have waits : filled.conn.bevs.get bev = some { half with input } := by simp [filled, Heap.get_modify_self, live]
  cases found : dtblGet st.conn.ctxTbl id with
  | none =>
      have unprepared : ¬st.Prepared id .read := by
        rintro ⟨ctx, cell, found', -⟩
        nomatch found.symm.trans found'
      obtain ⟨nothing, ran⟩ | ⟨some, failed⟩ := readLoop_missing malloc (input.length + 1) waits found
      · right
        refine ⟨filled, ran, same, ?_⟩
        have nothing : (msgDrainAll malloc input).1 = [] := nothing
        simp [nothing, OnlyRegistered, filled]
      · left
        exact ⟨some, unprepared, failed⟩
  | some ctx =>
      obtain ⟨cell, there⟩ := kept.live serves found
      have fit : ∀ setting, filled.installed id = some setting → cell.setting = setting :=
        kept.sound.fit id ctx cell found there
      obtain ⟨next, ran, later, good⟩ := readLoop_found malloc (input.length + 1) waits found there fit
      right
      refine ⟨next, ran, same.trans later, ?_⟩
      rw [prepared_iff found there]
      exact good

/-! ## The end of a connection -/

theorem event_quiet {events : BitVec 16}
    (quiet : ¬(events &&& bevEventConnected = 0 ∧ events &&& (bevEventEof ||| bevEventError) ≠ 0)) :
    st.event bev id events = .ok st := by
  by_cases connected : events &&& bevEventConnected = 0
  · have none : events &&& (bevEventEof ||| bevEventError) = 0 := by
      by_contra some
      exact quiet ⟨connected, some⟩
    rw [event, if_neg (not_not.mpr connected), connectEvent, if_pos none]
    rfl
  · rw [event, if_pos connected]

def closed (st : CbState ReadCb ErrCb Arg) (bev : BevPtr) (id : Int) (ctx : CtxPtr) : CbState ReadCb ErrCb Arg :=
  { st with
    conn := ⟨dtblDel st.conn.ctxTbl id, st.conn.ctxs.free ctx, st.conn.bevs.free bev⟩ }

theorem event_missing {events : BitVec 16} (connected : events &&& bevEventConnected = 0)
    (ends : events &&& (bevEventEof ||| bevEventError) ≠ 0) (live : st.conn.bevs.get bev = some half)
    (missing : dtblGet st.conn.ctxTbl id = none) : st.event bev id events = .error .nullDereference := by
  rw [event, if_neg (not_not.mpr connected), connectEvent, if_neg ends]
  simp [deref, live, missing, bind, Except.bind]

theorem event_found {events : BitVec 16} (connected : events &&& bevEventConnected = 0)
    (ends : events &&& (bevEventEof ||| bevEventError) ≠ 0) (live : st.conn.bevs.get bev = some half)
    (found : dtblGet st.conn.ctxTbl id = some ctx) (there : st.conn.ctxs.get ctx = some cell) :
    st.event bev id events = .ok ((st.invoke id .err cell).closed bev id ctx) := by
  have moved : (CbState.mk ⟨dtblDel st.conn.ctxTbl id, st.conn.ctxs, st.conn.bevs.free bev⟩ st.issued st.installed
      st.invoked |>.invoke id .err cell).invoked = (st.invoke id .err cell).invoked := by
    unfold invoke
    split <;> rfl
  rw [event, if_neg (not_not.mpr connected), connectEvent, if_neg ends]
  simp [deref, live, found, there, moved, freeCtx, closed, bind, Except.bind]

theorem Kept.closed (kept : st.Kept) (serves : st.conn.connId bev = some id)
    (found : dtblGet st.conn.ctxTbl id = some ctx) : (st.closed bev id ctx).Kept := by
  have handles : (st.closed bev id ctx).conn.handles = st.conn.handles.close ctx bev := by
    have table : dtblGet (dtblDel st.conn.ctxTbl id) = dtblGet st.conn.ctxTbl := funext fun _ => dtblGet_del
    simp [CbState.closed, ConnState.handles, Handles.close, table, Heap.get_free, ConnState.connId_update Heap.get_free]
  constructor
  case room => exact dtblDel_room kept.room id
  case entries =>
    intro entry member
    have entries : (st.closed bev id ctx).conn.ctxTbl.entryList = st.conn.ctxTbl.entryList := dtblDel_entryList id
    exact kept.entries entry (entries ▸ member)
  case served =>
    rintro other ⟨serving, open'⟩
    have ports : (st.closed bev id ctx).conn.connId = Function.update st.conn.connId bev none :=
      congrArg Handles.ports handles
    rw [ports] at open'
    by_cases same : serving = bev
    · subst same
      simp at open'
    · rw [Function.update_of_ne same] at open'
      exact kept.served other ⟨serving, open'⟩
  case installed => exact kept.installed
  case sound =>
    rw [handles]
    exact kept.sound.close found serves

/-! ## Runs -/

theorem connId_live (serves : st.conn.connId bev = some id) : ∃ half, st.conn.bevs.get bev = some half := by
  cases live : st.conn.bevs.get bev with
  | none => simp [ConnState.connId, live] at serves
  | some half => exact ⟨half, rfl⟩

theorem Kept.event (kept : st.Kept) {events : BitVec 16} (serves : st.conn.connId bev = some id) :
    (∀ next, st.event bev id events = .ok next → next.Kept) ∧
      (OnlyRegistered (.ok st) → (OnlyRegistered (st.event bev id events) ↔ (events &&& bevEventConnected = 0 →
        events &&& (bevEventEof ||| bevEventError) ≠ 0 → st.Prepared id .err))) := by
  obtain ⟨half, live⟩ := connId_live serves
  by_cases ending : events &&& bevEventConnected = 0 ∧ events &&& (bevEventEof ||| bevEventError) ≠ 0
  · obtain ⟨connected, ends⟩ := ending
    cases found : dtblGet st.conn.ctxTbl id with
    | none =>
        have unprepared : ¬st.Prepared id .err := by
          rintro ⟨ctx, cell, found', -⟩
          nomatch found.symm.trans found'
        rw [event_missing connected ends live found]
        exact ⟨fun _ => nofun, fun _ => iff_of_false not_false fun prepared => unprepared (prepared connected ends)⟩
    | some ctx =>
        obtain ⟨cell, there⟩ := kept.live serves found
        have fit := kept.sound.fit id ctx cell found there
        rw [event_found connected ends live found there]
        constructor
        · intro next returned
          cases returned
          apply (sameConns_invoke.kept kept).closed
          · simpa using serves
          · simpa using found
        · intro good
          have only : OnlyRegistered (.ok ((st.invoke id .err cell).closed bev id ctx)) ↔
              OnlyRegistered (.ok st) ∧ (st.installed id = none → cell.setting.callback .err = none) := invoke_good fit
          rw [only, prepared_iff found there]
          exact ⟨fun unset _ _ => unset.2, fun unset => ⟨good, unset connected ends⟩⟩
  · rw [event_quiet ending]
    constructor
    · intro next returned
      cases returned
      exact kept
    · intro good
      exact iff_of_true good fun connected ends => (ending ⟨connected, ends⟩).elim

variable {event : CbEvent ReadCb ErrCb Arg} {result : Except Fault (CbState ReadCb ErrCb Arg)}

theorem Kept.arrive (kept : st.Kept) {bytes : Evbuffer} (handled : st.handle malloc (.arrive bev bytes) = some result) :
    (∀ next, result = .ok next → next.Kept) ∧
      (OnlyRegistered (.ok st) → (OnlyRegistered result ↔ st.Safe malloc (.arrive bev bytes))) := by
  cases serves : st.conn.connId bev with
  | none => simp [handle, serves] at handled
  | some id =>
      obtain ⟨half, live⟩ := connId_live serves
      simp only [handle, serves, live, Option.some.injEq] at handled
      subst handled
      have safe : st.Safe malloc (.arrive bev bytes) ↔
          ((msgDrainAll malloc (half.input ++ bytes)).1 ≠ [] → st.Prepared id .read) := by
        simp [Safe, serves, live]
      rw [safe]
      obtain ⟨messages, unprepared, failed⟩ | ⟨after, ran, same, good⟩ :=
        kept.read_cases malloc (half.input ++ bytes) serves live
      · rw [failed]
        exact ⟨fun _ => nofun, fun _ => iff_of_false not_false fun prepared => unprepared (prepared messages)⟩
      · rw [ran]
        constructor
        · intro next returned
          cases returned
          exact same.kept kept
        · intro before
          rw [good]
          exact and_iff_right before

theorem Kept.handle (kept : st.Kept) (handled : st.handle malloc event = some (.ok next))
    (distinct : next.issued.Nodup) : next.Kept := by
  cases event with
  | rteipcConnect thread outcome uri => exact kept.connect (Option.some.inj handled) distinct
  | rteipcSetcb id readCb errCb arg flag => exact kept.setcb (Option.some.inj handled)
  | arrive bev bytes => exact (kept.arrive handled).1 next rfl
  | event bev events =>
      obtain ⟨id, serves, returned⟩ := Option.map_eq_some_iff.mp handled
      exact (kept.event serves).1 next returned

theorem handle_good (kept : st.Kept) (good : OnlyRegistered (.ok st)) (handled : st.handle malloc event = some result) :
    OnlyRegistered result ↔ st.Safe malloc event := by
  cases event with
  | rteipcConnect thread outcome uri =>
      cases handled
      exact connect_good kept good
  | rteipcSetcb id readCb errCb arg flag =>
      cases handled
      exact setcb_good kept good
  | arrive bev bytes => exact (kept.arrive handled).2 good
  | event bev events =>
      obtain ⟨id, serves, returned⟩ := Option.map_eq_some_iff.mp handled
      cases returned
      have safe : st.Safe malloc (.event bev events) ↔ (events &&& bevEventConnected = 0 →
          events &&& (bevEventEof ||| bevEventError) ≠ 0 → st.Prepared id .err) := by
        simp only [Safe, serves, Option.some.injEq, forall_eq']
      rw [safe]
      exact (kept.event serves).2 good

end CbState

/-- The state between two events, if it is not a fault. -/
def KeptOrFault : Except Fault (CbState ReadCb ErrCb Arg) → Prop
  | .ok st => st.Kept
  | .error _ => True

/-- Every callback that is invoked is the one last installed for its connection
exactly as long as the steps are safe. -/
theorem only_registered_iff (malloc : Nat → Bool) (events : List (CbEvent ReadCb ErrCb Arg)) :
    Always (CbStep malloc) OnlyRegistered (.ok .start) events ↔
      Guarded (CbStep malloc) (SafeCbs malloc) (.ok .start) events := by
  have preserved : ∀ st event next, KeptOrFault st → CbStep malloc st event next →
      KeptOrFault (next : Except Fault (CbState ReadCb ErrCb Arg)) := by
    rintro _ event next kept ⟨st, rfl, handled, distinct⟩
    cases next with
    | error fault => trivial
    | ok next => exact CbState.Kept.handle kept handled distinct
  apply always_iff_guarded preserved
  · rintro _ event next kept good ⟨st, rfl, handled, -⟩
    exact CbState.handle_good kept good handled
  · exact CbState.start_kept
  · exact fun _ member => nomatch member

end Machine

/-! ## A connection that fails before callbacks are installed -/

/-- The memory of its context is not cleared. -/
def strayConnect : CbEvent Unit Unit Unit :=
  .rteipcConnect 0 ⟨true, some ⟨0, none, some (), none, 0⟩, true, .succeeds, false⟩ (ascii "ipc:///a")

/-- The error callback found there is invoked. -/
theorem stray_callback_runs : ¬ ∀ (malloc : Nat → Bool) (events : List (CbEvent Unit Unit Unit)) st,
    Reaches (CbStep malloc) (.ok .start) events (.ok st) → ∀ invocation ∈ st.invoked, invocation.Registered := by
  intro all
  let stray : Invocation Unit Unit Unit := ⟨0, .err, .inr (), none, none⟩
  obtain ⟨st, run, invoked⟩ : ∃ st, Reaches (CbStep fun _ => true) (.ok .start)
      [strayConnect, .event 0 bevEventError] (.ok st) ∧ st.invoked = [stray] :=
    ⟨_, .cons ⟨_, rfl, rfl, List.nodup_singleton 0⟩ (.cons ⟨_, rfl, rfl, List.nodup_singleton 0⟩ (.nil _)), rfl⟩
  obtain ⟨setting, installed, -⟩ := all _ _ st run stray (invoked ▸ List.mem_singleton_self stray)
  nomatch installed

end Rteipc
