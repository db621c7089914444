import Rteipc.Connect

namespace Rteipc

/-! What `dtbl_set` says of a registration, and what `register_endpoint` and
`rteipc_connect` hand out on its word. -/

section Tables

variable {α : Type}

/-- A use of a table by other code. -/
inductive TableUse (α : Type) where
  | set (alloc : DtblAlloc) (val : Option α)
  | del (id : Nat)

def TableUse.run (table : Dtbl α) : TableUse α → Dtbl α
  | .set alloc val => (dtblSet alloc table val).1
  | .del id => dtblDel table id

/-- The value is found under the id, the id is marked, and as long as it is not
deleted no later call gives it out again. -/
structure Registered (table : Dtbl α) (id : Nat) (val : Option α) : Prop where
  found : dtblGet table id = val
  marked : dtblUsed table id = true
  notAgain : ∀ uses : List (TableUse α), .del id ∉ uses →
    ∀ alloc other, (dtblSet alloc (uses.foldl TableUse.run table) other).2 ≠ id

/-- An entry with the value has been added. -/
def Stored (alloc : DtblAlloc) (table : Dtbl α) (val : Option α) : Prop :=
  ∃ id, (dtblSet alloc table val).1.entryList = table.entryList ++ [⟨id, val⟩]

structure Unchanged (table after : Dtbl α) : Prop where
  bitmap : ∀ id, dtblUsed after id = dtblUsed table id
  cursor : after.nextEntry = table.nextEntry
  entries : after.entryList = table.entryList

/-- An id is given out for a value that is registered, and a value that was not
stored has left no trace. -/
structure SetReports (alloc : DtblAlloc) (table : Dtbl α) (val : Option α) : Prop where
  registered : ∀ id : Nat, (dtblSet alloc table val).2 = id → Registered (dtblSet alloc table val).1 id val
  refused : ¬Stored alloc table val →
    (dtblSet alloc table val).2 = -1 ∧ Unchanged table (dtblSet alloc table val).1

/-- Where there is a bitmap and a free id in it, there is memory for the entry,
and the first entry that is already listed under the id, if there is one, has
the same value. -/
def KeepsValue (alloc : DtblAlloc) (table : Dtbl α) (val : Option α) : Prop :=
  ∀ desc, dtblDesc alloc table = some desc →
    ∀ id : Nat, dtblNextId desc table.nextEntry table.maxEntries = id →
      alloc.entry = true ∧ ∀ entry, (table.entryList.find? fun entry => entry.id == (id : Int)) = some entry →
        entry.value = val

variable {alloc : DtblAlloc} {table : Dtbl α} {val : Option α} {desc : List (BitVec 64)} {id : Nat}

/-! ## Ids that stay marked -/

theorem dtblSet_not_used (room : table.Room) (used : dtblUsed table id = true) : (dtblSet alloc table val).2 ≠ id := by
  intro given
  obtain ⟨-, -, failed | ⟨other, chosen, free, -⟩⟩ := @dtblSet_cases _ alloc table val room
  · omega
  · have same : other = id := by omega
    rw [same, used] at free
    cases free

theorem TableUse.run_marked {use : TableUse α} (room : table.Room) (used : dtblUsed table id = true)
    (differ : use ≠ .del id) : (use.run table).Room ∧ dtblUsed (use.run table) id = true := by
  cases use with
  | set alloc val =>
      obtain ⟨still, -, failed | ⟨other, -, -, lost | stored⟩⟩ := @dtblSet_cases _ alloc table val room
      · exact ⟨still, (failed.2.2 id).trans used⟩
      · exact ⟨still, (lost.2.2 id).trans used⟩
      · refine ⟨still, (stored.2.2 id).trans ?_⟩
        rw [used, Bool.or_true]
  | del gone =>
      refine ⟨dtblDel_room room gone, (dtblDel_used fun same => differ ?_).trans used⟩
      rw [same]

theorem notAgain_of_marked (room : table.Room) (used : dtblUsed table id = true) (uses : List (TableUse α))
    (kept : .del id ∉ uses) (alloc : DtblAlloc) (other : Option α) :
    (dtblSet alloc (uses.foldl TableUse.run table) other).2 ≠ id := by
  induction uses generalizing table with
  | nil => exact dtblSet_not_used room used
  | cons use rest ih =>
      have differ : use ≠ .del id := fun same => kept (same ▸ .head _)
      obtain ⟨still, marked⟩ := TableUse.run_marked room used differ
      exact ih still marked fun later => kept (.tail _ later)

/-! ## Reports -/

theorem dtblSet_registered_iff (room : table.Room) :
    (∀ id : Nat, (dtblSet alloc table val).2 = id → Registered (dtblSet alloc table val).1 id val) ↔
      KeepsValue alloc table val := by
  constructor
  · intro registered desc allocated id chosen
    cases entry : alloc.entry with
    | false =>
        have lost := @dtblSet_lost _ alloc table val desc id allocated chosen entry
        have marked := (registered id (by rw [lost])).marked
        obtain ⟨other, same, -, free⟩ := dtblNextId_spec (show 0 ≤ dtblNextId desc table.nextEntry table.maxEntries by omega)
        rw [chosen, Int.natCast_inj] at same
        rw [lost] at marked
        rw [← same] at free
        exact (Bool.eq_false_iff.mp free marked).elim
    | true =>
        have stored := @dtblSet_stored _ alloc table val desc id allocated chosen entry
        have found := (registered id (by rw [stored])).found
        refine ⟨rfl, fun old listed => ?_⟩
        rw [stored, dtblGet, List.find?_append, listed] at found
        exact found
  · intro keeps id given
    cases allocated : dtblDesc alloc table with
    | none =>
        rw [dtblSet_noDesc allocated] at given
        cases given
    | some desc =>
        by_cases full : dtblNextId desc table.nextEntry table.maxEntries < 0
        · rw [dtblSet_full allocated full] at given
          cases given
        · obtain ⟨other, chosen, word, -⟩ := dtblNextId_spec (Int.not_lt.mp full)
          obtain ⟨entry, same⟩ := keeps desc allocated other chosen
          have stored := @dtblSet_stored _ alloc table val desc other allocated chosen entry
          have still := (@dtblSet_cases _ alloc table val room).1
          have isId : other = id := by
            rw [stored] at given
            exact Int.natCast_inj.mp given
          subst isId
          have marked : dtblUsed (dtblSet alloc table val).1 other = true := by
            rw [stored]
            show descUsed (setDescId desc other) other = true
            rw [descUsed_setDescId (Nat.lt_of_lt_of_le word (dtblDesc_spec room allocated).1), decide_eq_true rfl,
              Bool.true_or]
          refine ⟨?_, marked, notAgain_of_marked still marked⟩
          rw [stored, dtblGet, List.find?_append]
          cases listed : table.entryList.find? fun entry => entry.id == (other : Int) with
          | none => simp
          | some old => exact same old listed

theorem setReports_iff (room : table.Room) : SetReports alloc table val ↔ KeepsValue alloc table val := by
  constructor
  · exact fun reports => (dtblSet_registered_iff room).mp reports.registered
  · intro keeps
    refine ⟨(dtblSet_registered_iff room).mpr keeps, fun lost => ?_⟩
    cases allocated : dtblDesc alloc table with
    | none =>
        rw [dtblSet_noDesc allocated]
        exact ⟨rfl, fun _ => rfl, rfl, rfl⟩
    | some desc =>
        by_cases full : dtblNextId desc table.nextEntry table.maxEntries < 0
        · rw [dtblSet_full allocated full]
          exact ⟨rfl, (dtblDesc_spec room allocated).2, rfl, rfl⟩
        · obtain ⟨id, chosen, -, -⟩ := dtblNextId_spec (Int.not_lt.mp full)
          have stored := @dtblSet_stored _ alloc table val desc id allocated chosen (keeps desc allocated id chosen).1
          exact (lost ⟨id, by rw [stored]⟩).elim

end Tables

/-! ## What is handed out -/

section Callers

variable {Cb Arg ReadCb ErrCb : Type}

/-- An id of `register_endpoint` is that of an endpoint that is registered. -/
def RegisterReports (st : EpState (Dtbl EpPtr) Cb Arg) (alloc : DtblAlloc) (ep : EpPtr) : Prop :=
  ∀ id : Nat, (registerEndpoint dtblTable st alloc ep).2 = id →
    Registered (registerEndpoint dtblTable st alloc ep).1.epTbl id (some ep)

/-- So is an id that `rteipc_connect` hands out. -/
def ConnectReports (st : ConnState ReadCb ErrCb Arg) (alloc : DtblAlloc) (bev : BevPtr) (ctx : CtxPtr) : Prop :=
  ∀ id : Nat, (registerCtx st alloc bev ctx).2 = id → Registered (registerCtx st alloc bev ctx).1.ctxTbl id (some ctx)

theorem registerReports_iff {st : EpState (Dtbl EpPtr) Cb Arg} {alloc : DtblAlloc} {ep : EpPtr}
    (room : st.epTbl.Room) : RegisterReports st alloc ep ↔ KeepsValue alloc st.epTbl (some ep) := by
  rw [← dtblSet_registered_iff room]
  unfold RegisterReports registerEndpoint
  rw [show dtblTable.set alloc st.epTbl ep = dtblSet alloc st.epTbl (some ep) from rfl]
  simp only
  split
  next failed =>
      refine iff_of_true (fun id given => ?_) (fun id given => ?_)
      · nomatch given
      · omega
  next => exact Iff.rfl

theorem connectReports_iff {st : ConnState ReadCb ErrCb Arg} {alloc : DtblAlloc} {bev : BevPtr} {ctx : CtxPtr}
    (room : st.ctxTbl.Room) : ConnectReports st alloc bev ctx ↔ KeepsValue alloc st.ctxTbl (some ctx) := by
  rw [← dtblSet_registered_iff room]
  unfold ConnectReports registerCtx
  simp only
  split
  next failed => exact iff_of_true (fun id given => by omega) (fun id given => by omega)
  next => exact Iff.rfl

end Callers

/-- For every table with a bitmap of its size and every outcome of the two
allocations, `dtbl_set` reports what it did, and its callers hand out registered
ids only, exactly when the value is kept. -/
theorem dtbl_set_reports_iff {α Cb Arg ReadCb ErrCb CtxArg : Type} (alloc : DtblAlloc) (table : Dtbl α) (val : Option α)
    (room : table.Room) (st : EpState (Dtbl EpPtr) Cb Arg) (ep : EpPtr) (epRoom : st.epTbl.Room)
    (conn : ConnState ReadCb ErrCb CtxArg) (bev : BevPtr) (ctx : CtxPtr) (ctxRoom : conn.ctxTbl.Room) :
    (SetReports alloc table val ↔ KeepsValue alloc table val) ∧
      (RegisterReports st alloc ep ↔ KeepsValue alloc st.epTbl (some ep)) ∧
      (ConnectReports conn alloc bev ctx ↔ KeepsValue alloc conn.ctxTbl (some ctx)) :=
  ⟨setReports_iff room, registerReports_iff epRoom, connectReports_iff ctxRoom⟩

/-- The first registration in empty tables. -/
theorem dtbl_set_reports_iff_first :
    (SetReports .succeeds (dtblInitializer Nat 128) (some 5) ↔
      KeepsValue .succeeds (dtblInitializer Nat 128) (some 5)) ∧
    (RegisterReports (EpState.start dtblTable : EpState (Dtbl EpPtr) Unit Unit) .succeeds 7 ↔
      KeepsValue .succeeds (dtblInitializer EpPtr 128) (some 7)) ∧
    (ConnectReports (ConnState.start : ConnState Unit Unit Unit) .succeeds 1 2 ↔
      KeepsValue .succeeds (dtblInitializer CtxPtr 256) (some 2)) :=
  dtbl_set_reports_iff .succeeds (dtblInitializer Nat 128) (some 5) nofun (.start dtblTable) 7 nofun .start 1 2 nofun

/-- Without memory for the entry, id 0 is given out for a value that is not there. -/
theorem dtbl_set_hands_out_lost :
    ¬∀ (table : Dtbl Nat) (alloc : DtblAlloc) (val : Option Nat), table.Room → SetReports alloc table val := by
  intro all
  have reports := all (dtblInitializer Nat 128) ⟨true, false⟩ (some 5) nofun
  have found := (reports.registered 0 (by decide)).found
  revert found
  decide

end Rteipc
