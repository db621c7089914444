import Rteipc.Clib
import Rteipc.Data.Heap
import Rteipc.Message
import Rteipc.Table

namespace Rteipc

/-! Endpoints: `ep.c`, `ep_core.c` and the loopback endpoint of `ep_loop.c`.

A core, a bufferevent and a `void *` are named by heap pointers. A call either
returns or is undefined behaviour of a kind `Fault` names.
-/

open Data

inductive EpType where
  | ipc
  | tty
  | gpio
  | spi
  | i2c
  | sysfs
  | inet
  | loop
deriving DecidableEq, Repr

abbrev EpPtr := Nat

abbrev BevPtr := Nat

/-- One half of a bufferevent pair. `partner` is the other half until that is
freed; `input` is what has arrived here. -/
structure Bufferevent where
  partner : Option BevPtr
  input : Evbuffer
deriving DecidableEq, Repr

/-- `struct ep_core` with the `struct rteipc_ep` in it. -/
structure EpCore where
  id : Int
  partnerId : Int
  type : EpType
  bev : Option BevPtr
deriving DecidableEq, Repr

/-- `struct loop`. The `data` of a loop endpoint is the loop whose `self` it is. -/
structure Loop (Cb Arg : Type) where
  self : EpPtr
  name : List UInt8
  cb : Option Cb
  arg : Option Arg
deriving DecidableEq, Repr

/-- `absentInterface` is the dereference of an interface that a packet or a lookup does not have. -/
inductive Fault where
  | assertion
  | nullDereference
  | absentInterface
  | useAfterFree
  | overflow
deriving DecidableEq, Repr

/-- The descriptor table the endpoints are registered in. -/
structure DescTable (Table : Type) where
  start : Table
  set : DtblAlloc → Table → EpPtr → Table × Int
  get : Table → Int → Option EpPtr
  del : Table → Int → Table

/-- `dtbl_t` with room for MAX_NR_EP descriptors -/
def dtblTable : DescTable (Dtbl EpPtr) where
  start := dtblInitializer EpPtr (2 * descBitWidth)
  set alloc table core := dtblSet alloc table (some core)
  get := dtblGet
  del := dtblDel

/-- The static variables of the endpoint files and the memory they refer to. -/
structure EpState (Table Cb Arg : Type) where
  epTbl : Table
  cores : Heap EpCore
  bevs : Heap Bufferevent
  loList : List (Loop Cb Arg)

variable {Table Cb Arg : Type} (tbl : DescTable Table)

def EpState.start : EpState Table Cb Arg where
  epTbl := tbl.start
  cores := .empty
  bevs := .empty
  loList := []

def deref {Cell : Type} (heap : Heap Cell) (pointer : Nat) : Except Fault Cell :=
  match heap.get pointer with
  | some cell => .ok cell
  | none => .error .useAfterFree

def findEndpoint (st : EpState Table Cb Arg) (desc : Int) : Option EpPtr := tbl.get st.epTbl desc

/-! ## Binding -/

/-- `ops->compatible` -/
def EpType.compatible : EpType → EpType → Bool
  | .ipc, _ | .inet, _ | .loop, _ => true
  | .tty, other => other = .ipc || other = .inet || other = .tty
  | .gpio, other | .spi, other | .i2c, other | .sysfs, other => other = .ipc || other = .inet

def epCompatible (lh rh : EpType) : Nat :=
  if lh.compatible rh && rh.compatible lh then 2
  else if lh.compatible rh || rh.compatible lh then 1
  else 0

def bindPair (st : EpState Table Cb Arg) (lh rh : EpPtr) (left right : EpCore) : EpState Table Cb Arg :=
  let first := st.bevs.next
  let second := first + 1
  { st with
      bevs := (st.bevs.alloc ⟨some second, []⟩).alloc ⟨some first, []⟩
      cores := (st.cores.modify lh fun core => { core with bev := some first, partnerId := right.id }).modify rh
        fun core => { core with bev := some second, partnerId := left.id } }

/-- `pair` tells whether the pair of bufferevents can be allocated. -/
def bindEndpoint (st : EpState Table Cb Arg) (pair : Bool) (lh rh : EpPtr) :
    Except Fault (EpState Table Cb Arg × Int) := do
  let left ← deref st.cores lh
  let right ← deref st.cores rh
  if left.bev.isSome || right.bev.isSome then .ok (st, -1)
  else if !pair then .ok (st, -1)
  else .ok (bindPair st lh rh left right, 0)

/-- `bufferevent_free`: the other half learns that its partner is gone. -/
def buffereventFree (bevs : Heap Bufferevent) (bev : BevPtr) : Except Fault (Heap Bufferevent) := do
  let half ← deref bevs bev
  match half.partner with
  | none => .ok (bevs.free bev)
  | some other => .ok ((bevs.modify other fun half => { half with partner := none }).free bev)

def EpCore.unbound (core : EpCore) : EpCore := { core with bev := none, partnerId := -1 }

def unbindEndpoint (st : EpState Table Cb Arg) (ep : EpPtr) : Except Fault (EpState Table Cb Arg) := do
  let core ← deref st.cores ep
  match core.bev with
  | none => .ok st
  | some bev =>
      let half ← deref st.bevs bev
      match half.partner with
      | none => .ok st
      | some pair =>
          match tbl.get st.epTbl core.partnerId with
          | none => .error .assertion
          | some other =>
              let partner ← deref st.cores other
              if partner.bev ≠ some pair then .error .assertion
              else
                let bevs ← buffereventFree st.bevs bev
                let bevs ← buffereventFree bevs pair
                .ok { st with bevs, cores := (st.cores.modify ep .unbound).modify other .unbound }

def rteipcBind (st : EpState Table Cb Arg) (pair : Bool) (lh rh : Int) :
    Except Fault (EpState Table Cb Arg × Int) :=
  match findEndpoint tbl st lh, findEndpoint tbl st rh with
  | some le, some re =>
      if le = re then .ok (st, -1)
      else do
        let left ← deref st.cores le
        let right ← deref st.cores re
        if epCompatible left.type right.type = 0 then .ok (st, -1)
        else bindEndpoint st pair le re
  | _, _ => .ok (st, -1)

def rteipcUnbind (st : EpState Table Cb Arg) (id : Int) : Except Fault (EpState Table Cb Arg) :=
  match findEndpoint tbl st id with
  | none => .ok st
  | some ep => unbindEndpoint tbl st ep

/-! ## Opening and closing -/

/-- What the allocations and, for a backend other than the loopback, its
`open` operation come to. -/
structure OpenOutcome where
  core : Bool
  desc : DtblAlloc
  backend : Bool
  loop : Bool
deriving DecidableEq, Repr

def strstr (text pattern : List UInt8) : Bool := text.tails.any pattern.isPrefixOf

/-- What `sscanf(uri, "%[^:]://%99[^\\n]", protocol, path)` stores. -/
def scanUri (uri : List UInt8) : List UInt8 × List UInt8 :=
  let protocol := uri.takeWhile (· ≠ 58)
  let rest := uri.dropWhile (· ≠ 58)
  if protocol ≠ [] && (ascii "://").isPrefixOf rest then
    (protocol, ((rest.drop 3).take 99).takeWhile (· ≠ 10))
  else (protocol, [])

/-- What `sscanf(path, "%[^:]:%[^:]", sip, sport)` stores. -/
def scanInet (path : List UInt8) : List UInt8 × List UInt8 :=
  let sip := path.takeWhile (· ≠ 58)
  (sip, if sip = [] then [] else ((path.dropWhile (· ≠ 58)).drop 1).takeWhile (· ≠ 58))

/-- The protocol names `rteipc_open` knows. -/
def protocolType (protocol : List UInt8) : Option EpType :=
  if protocol = ascii "ipc" then some .ipc
  else if protocol = ascii "inet" then some .inet
  else if protocol = ascii "tty" then some .tty
  else if protocol = ascii "gpio" then some .gpio
  else if protocol = ascii "spi" then some .spi
  else if protocol = ascii "i2c" then some .i2c
  else if protocol = ascii "sysfs" then some .sysfs
  else none

/-- The type of the endpoint and the path its `open` gets. -/
def parseUri (uri : List UInt8) : Option (EpType × List UInt8) :=
  let (protocol, path) := scanUri uri
  if strstr uri (ascii "://") then (protocolType protocol).map (·, path)
  else some (.loop, uri.take 128)

def lookupLo (loList : List (Loop Cb Arg)) (name : List UInt8) : Option (Loop Cb Arg) :=
  loList.find? fun lo => lo.name = name

def maxLoopName : Nat := 16

def loopOpen (st : EpState Table Cb Arg) (calloc : Bool) (self : EpPtr) (path : List UInt8) :
    EpState Table Cb Arg × Int :=
  if path.length = 0 then (st, -1)
  else if path.length ≥ maxLoopName then (st, -1)
  else if (lookupLo st.loList path).isSome then (st, -1)
  else if !calloc then (st, -1)
  else ({ st with loList := st.loList ++ [⟨self, path, none, none⟩] }, 0)

def loopClose (st : EpState Table Cb Arg) (self : EpPtr) : EpState Table Cb Arg :=
  { st with loList := st.loList.filter fun lo => lo.self ≠ self }

/-- `ops->open` -/
def openEndpoint (st : EpState Table Cb Arg) (outcome : OpenOutcome) (type : EpType) (ep : EpPtr)
    (path : List UInt8) : EpState Table Cb Arg × Int :=
  match type with
  | .loop => loopOpen st outcome.loop ep path
  | _ => (st, if outcome.backend then 0 else -1)

def registerEndpoint (st : EpState Table Cb Arg) (alloc : DtblAlloc) (ep : EpPtr) :
    EpState Table Cb Arg × Int :=
  let (epTbl, desc) := tbl.set alloc st.epTbl ep
  if desc < 0 then ({ st with epTbl }, -1)
  else ({ st with epTbl, cores := st.cores.modify ep fun core => { core with id := desc } }, desc)

def unregisterEndpoint (st : EpState Table Cb Arg) (ep : EpPtr) : Except Fault (EpState Table Cb Arg) := do
  let core ← deref st.cores ep
  let cores := st.cores.modify ep fun core => { core with id := -1 }
  unbindEndpoint tbl { st with epTbl := tbl.del st.epTbl core.id, cores } ep

def destroyEndpoint (st : EpState Table Cb Arg) (ep : EpPtr) : EpState Table Cb Arg :=
  { st with cores := st.cores.free ep }

/-- The scan has no limit on the text it stores in `protocol[16]`. -/
def rteipcOpen (st : EpState Table Cb Arg) (outcome : OpenOutcome) (uri : List UInt8) :
    Except Fault (EpState Table Cb Arg × Int) :=
  if (scanUri uri).1.length > 15 then .error .overflow
  else
    match parseUri uri with
    | none => .ok (st, -1)
    | some (type, path) =>
        if !outcome.core then .ok (st, -1)
        else
          let ep := st.cores.next
          let st := { st with cores := st.cores.alloc ⟨-1, -1, type, none⟩ }
          let (st, id) := registerEndpoint tbl st outcome.desc ep
          if id < 0 then .ok (destroyEndpoint st ep, -1)
          else
            let (st, failed) := openEndpoint st outcome type ep path
            if failed ≠ 0 then do
              let st ← unregisterEndpoint tbl st ep
              .ok (destroyEndpoint st ep, -1)
            else .ok (st, id)

/-- `ops->close` -/
def closeEndpoint (st : EpState Table Cb Arg) (type : EpType) (ep : EpPtr) : EpState Table Cb Arg :=
  match type with
  | .loop => loopClose st ep
  | _ => st

def rteipcClose (st : EpState Table Cb Arg) (id : Int) : Except Fault (EpState Table Cb Arg) :=
  match findEndpoint tbl st id with
  | none => .ok st
  | some ep => do
      let core ← deref st.cores ep
      let st ← unregisterEndpoint tbl (closeEndpoint st core.type ep) ep
      .ok (destroyEndpoint st ep)

/-! ## Loop endpoints -/

def rteipcXferSetcb (st : EpState Table Cb Arg) (name : List UInt8) (cb : Option Cb) (arg : Option Arg) :
    EpState Table Cb Arg × Int :=
  match lookupLo st.loList name with
  | none => (st, -1)
  | some lo =>
      ({ st with loList := st.loList.map fun node =>
          if node.self = lo.self then { node with cb, arg } else node }, 0)

/-- What is written to one half of a pair arrives at the other. -/
def rteipcXfer (st : EpState Table Cb Arg) (name data : List UInt8) :
    Except Fault (EpState Table Cb Arg × Int) :=
  match lookupLo st.loList name with
  | none => .ok (st, -1)
  | some lo => do
      let core ← deref st.cores lo.self
      match core.bev with
      | none => .error .nullDereference
      | some bev =>
          let half ← deref st.bevs bev
          match half.partner with
          | none => .ok (st, 0)
          | some other =>
              .ok ({ st with bevs := st.bevs.modify other fun half =>
                  { half with input := rteipcBuffer half.input data } }, 0)

/-! ## Results -/

theorem deref_live {Cell : Type} {heap : Heap Cell} {pointer : Nat} {cell : Cell}
    (live : heap.get pointer = some cell) : deref heap pointer = .ok cell := by
  rw [deref, live]

theorem deref_ok {Cell : Type} {heap : Heap Cell} {pointer : Nat} {cell : Cell}
    (read : deref heap pointer = .ok cell) : heap.get pointer = some cell := by
  unfold deref at read
  split at read
  next live => rw [live, Except.ok.inj read]
  next => nomatch read

theorem ok_bind {α β : Type} {value : α} {rest : α → Except Fault β} :
    ((Except.ok value : Except Fault α) >>= rest) = rest value := rfl

theorem bind_ok {α β : Type} {first : Except Fault α} {rest : α → Except Fault β} {result : β}
    (returned : (first >>= rest) = .ok result) : ∃ value, first = .ok value ∧ rest value = .ok result := by
  cases first with
  | error fault => nomatch returned
  | ok value => exact ⟨value, rfl, returned⟩

theorem map_ok {α β : Type} {first : Except Fault α} {change : α → β} {result : β}
    (returned : first.map change = .ok result) : ∃ value, first = .ok value ∧ change value = result := by
  cases first with
  | error fault => nomatch returned
  | ok value => exact ⟨value, rfl, Except.ok.inj returned⟩

/-! ## What binding and unbinding do -/

section Binding

variable {tbl} {st next : EpState Table Cb Arg} {ep : EpPtr}

def unlinked (st : EpState Table Cb Arg) (ep other : EpPtr) (first second : BevPtr) : EpState Table Cb Arg :=
  { st with
      bevs := ((st.bevs.modify second fun half => { half with partner := none }).free first).free second
      cores := (st.cores.modify ep .unbound).modify other .unbound }

/-- Unbinding does nothing to an endpoint without a pair, or with half of one,
and otherwise frees both halves. -/
theorem unbindEndpoint_cases (returned : unbindEndpoint tbl st ep = .ok next) :
    next = st ∧ (∀ core first half, st.cores.get ep = some core → core.bev = some first →
        st.bevs.get first = some half → half.partner = none) ∨
      ∃ core partner other first second half, st.cores.get ep = some core ∧ core.bev = some first ∧
        st.bevs.get first = some half ∧ half.partner = some second ∧ st.cores.get other = some partner ∧
          partner.bev = some second ∧ next = unlinked st ep other first second := by
  obtain ⟨core, read, returned⟩ := bind_ok returned
  split at returned
  next unbound =>
    refine .inl ⟨(Except.ok.inj returned).symm, fun kept first half live bev => ?_⟩
    cases (deref_ok read).symm.trans live
    nomatch unbound.symm.trans bev
  next first bev =>
    obtain ⟨half, halfRead, returned⟩ := bind_ok returned
    split at returned
    next alone =>
      refine .inl ⟨(Except.ok.inj returned).symm, fun kept other otherHalf live otherBev halfLive => ?_⟩
      cases (deref_ok read).symm.trans live
      cases bev.symm.trans otherBev
      cases (deref_ok halfRead).symm.trans halfLive
      exact alone
    next second linked =>
      split at returned
      next => nomatch returned
      next other _ =>
        obtain ⟨partner, partnerRead, returned⟩ := bind_ok returned
        split at returned
        next => nomatch returned
        next same =>
          obtain ⟨bevs, firstFreed, returned⟩ := bind_ok returned
          obtain ⟨last, secondFreed, returned⟩ := bind_ok returned
          simp only [buffereventFree, halfRead, linked, bind, Except.bind] at firstFreed
          cases firstFreed
          obtain ⟨left, leftRead, secondFreed⟩ := bind_ok secondFreed
          have differ := (Heap.get_free_some (deref_ok leftRead)).1
          have alone := deref_ok leftRead
          rw [Heap.get_free_of_ne differ, Heap.get_modify_self, Option.map_eq_some_iff] at alone
          obtain ⟨_, -, rfl⟩ := alone
          cases secondFreed
          cases returned
          exact .inr ⟨core, partner, other, first, second, half, deref_ok read, bev, deref_ok halfRead, linked,
            deref_ok partnerRead, not_not.mp same, rfl⟩

/-- A binding that fails changes nothing, and one that does not takes two endpoints that are not bound. -/
theorem rteipcBind_cases {pair : Bool} {lh rh ret : Int} (returned : rteipcBind tbl st pair lh rh = .ok (next, ret)) :
    next = st ∧ ret = -1 ∨
      ∃ le re left right, tbl.get st.epTbl lh = some le ∧ tbl.get st.epTbl rh = some re ∧ le ≠ re ∧
        st.cores.get le = some left ∧ st.cores.get re = some right ∧ left.bev = none ∧ right.bev = none ∧
          next = bindPair st le re left right ∧ ret = 0 := by
  have refused : (.ok (st, -1) : Except Fault (EpState Table Cb Arg × Int)) = .ok (next, ret) → next = st ∧ ret = -1 := by
    intro same
    cases same
    exact ⟨rfl, rfl⟩
  unfold rteipcBind at returned
  split at returned
  next le re leftFound rightFound =>
    split at returned
    next => exact .inl (refused returned)
    next differ =>
      obtain ⟨left, leftRead, returned⟩ := bind_ok returned
      obtain ⟨right, rightRead, returned⟩ := bind_ok returned
      split at returned
      next => exact .inl (refused returned)
      next =>
        simp only [bindEndpoint, leftRead, rightRead, bind, Except.bind] at returned
        split at returned
        next => exact .inl (refused returned)
        next idle =>
          split at returned
          next => exact .inl (refused returned)
          next =>
            cases returned
            simp only [Bool.or_eq_true, not_or, Bool.not_eq_true, Option.isSome_eq_false_iff, Option.isNone_iff_eq_none]
              at idle
            exact .inr ⟨le, re, left, right, leftFound, rightFound, differ, deref_ok leftRead, deref_ok rightRead,
              idle.1, idle.2, rfl, rfl⟩
  next => exact .inl (refused returned)

end Binding

/-! ## What opening does -/

section Opening

variable {tbl} {st : EpState Table Cb Arg} {outcome : OpenOutcome} {uri path : List UInt8} {type : EpType}
  {alloc : DtblAlloc} {kept ep : EpPtr} {before after core : EpCore}

/-- A new endpoint under the descriptor it was given. -/
def withEndpoint (tbl : DescTable Table) (st : EpState Table Cb Arg) (alloc : DtblAlloc) (type : EpType) :
    EpState Table Cb Arg :=
  let (epTbl, desc) := tbl.set alloc st.epTbl st.cores.next
  { st with
      epTbl
      cores := (st.cores.alloc ⟨-1, -1, type, none⟩).modify st.cores.next fun core => { core with id := desc } }

theorem withEndpoint_get : (withEndpoint tbl st alloc type).cores.get kept =
    if kept = st.cores.next then some ⟨(tbl.set alloc st.epTbl st.cores.next).2, -1, type, none⟩
    else st.cores.get kept := by
  split
  next isNew =>
    rw [isNew, withEndpoint, Heap.get_modify_self, Heap.get_alloc_next]
    rfl
  next isOld => rw [withEndpoint, Heap.get_modify_of_ne isOld, Heap.get_alloc_of_ne isOld]

theorem withEndpoint_live (live : (withEndpoint tbl st alloc type).cores.get kept = some after) :
    kept = st.cores.next ∧ after = ⟨(tbl.set alloc st.epTbl st.cores.next).2, -1, type, none⟩ ∨
      kept ≠ st.cores.next ∧ st.cores.get kept = some after := by
  rw [withEndpoint_get] at live
  split at live
  next isNew => exact .inl ⟨isNew, (Option.some.inj live).symm⟩
  next isOld => exact .inr ⟨isOld, live⟩

theorem withEndpoint_old (live : st.cores.get kept = some before) :
    (withEndpoint tbl st alloc type).cores.get kept = some before := by
  rw [withEndpoint_get, if_neg (Heap.live_ne_next live), live]

theorem withEndpoint_new : (withEndpoint tbl st alloc type).cores.get st.cores.next =
    some ⟨(tbl.set alloc st.epTbl st.cores.next).2, -1, type, none⟩ := by
  rw [withEndpoint_get, if_pos rfl]

theorem unbindEndpoint_idle (live : st.cores.get ep = some core) (unbound : core.bev = none) :
    unbindEndpoint tbl st ep = .ok st := by
  simp only [unbindEndpoint, deref_live live, unbound, bind, Except.bind]

theorem protocolType_ne_loop {protocol : List UInt8} : protocolType protocol ≠ some .loop := by
  unfold protocolType
  repeat' split
  all_goals nofun

theorem parseUri_loop {uri path : List UInt8} (parsed : parseUri uri = some (.loop, path)) : path = uri.take 128 := by
  unfold parseUri at parsed
  split at parsed
  next protocol scanned _ =>
    split at parsed
    next =>
      obtain ⟨type, found, same⟩ := Option.map_eq_some_iff.mp parsed
      obtain ⟨rfl, -⟩ := Prod.mk.inj same
      exact (protocolType_ne_loop found).elim
    next => exact (Prod.mk.inj (Option.some.inj parsed)).2.symm

theorem closeEndpoint_eq : closeEndpoint st type ep =
    { st with loList := if type = .loop then st.loList.filter fun lo => lo.self ≠ ep else st.loList } := by
  cases type <;> rfl

/-- `loop_open` succeeds. -/
def LoopOpens (loList : List (Loop Cb Arg)) (outcome : OpenOutcome) (path : List UInt8) : Prop :=
  path.length ≠ 0 ∧ path.length < maxLoopName ∧ lookupLo loList path = none ∧ outcome.loop = true

/-- The node a newly opened endpoint adds to `lo_list`. -/
def newLoops (type : EpType) (ep : EpPtr) (path : List UInt8) : List (Loop Cb Arg) :=
  if type = .loop then [⟨ep, path, none, none⟩] else []

theorem loopOpen_cases (st : EpState Table Cb Arg) (outcome : OpenOutcome) (ep : EpPtr) (path : List UInt8) :
    loopOpen st outcome.loop ep path = (st, -1) ∧ ¬LoopOpens st.loList outcome path ∨
      loopOpen st outcome.loop ep path = ({ st with loList := st.loList ++ [⟨ep, path, none, none⟩] }, 0) ∧
        LoopOpens st.loList outcome path := by
  unfold loopOpen
  split
  next empty => exact .inl ⟨rfl, fun opens => opens.1 empty⟩
  next given =>
    split
    next long => exact .inl ⟨rfl, fun opens => Nat.not_lt.mpr long opens.2.1⟩
    next short =>
      split
      next taken =>
        refine .inl ⟨rfl, fun opens => ?_⟩
        rw [opens.2.2.1] at taken
        nomatch taken
      next unused =>
        split
        next refused =>
          refine .inl ⟨rfl, fun opens => ?_⟩
          rw [opens.2.2.2] at refused
          nomatch refused
        next allocated =>
          refine .inr ⟨rfl, given, Nat.not_le.mp short, Option.not_isSome_iff_eq_none.mp unused, ?_⟩
          simpa using allocated

theorem openEndpoint_cases (st : EpState Table Cb Arg) (outcome : OpenOutcome) (type : EpType) (ep : EpPtr)
    (path : List UInt8) :
    (openEndpoint st outcome type ep path).1 = st ∧ (openEndpoint st outcome type ep path).2 ≠ 0 ∧
        (type = .loop → ¬LoopOpens st.loList outcome path) ∨
      (openEndpoint st outcome type ep path).1 = { st with loList := st.loList ++ newLoops type ep path } ∧
        (openEndpoint st outcome type ep path).2 = 0 ∧ (type = .loop → LoopOpens st.loList outcome path) := by
  have backend : type ≠ .loop → openEndpoint st outcome type ep path = (st, if outcome.backend then 0 else -1) := by
    intro other
    cases type
    case loop => exact (other rfl).elim
    all_goals rfl
  by_cases isLoop : type = .loop
  · subst isLoop
    obtain ⟨failed, refused⟩ | ⟨opened, opens⟩ := loopOpen_cases st outcome ep path
    · rw [openEndpoint, failed]
      exact .inl ⟨rfl, Int.negSucc_ne_zero 0, fun _ => refused⟩
    · rw [openEndpoint, opened]
      exact .inr ⟨rfl, rfl, fun _ => opens⟩
  · rw [backend isLoop]
    cases outcome.backend with
    | false => exact .inl ⟨rfl, Int.negSucc_ne_zero 0, fun same => (isLoop same).elim⟩
    | true =>
        refine .inr ⟨?_, rfl, fun same => (isLoop same).elim⟩
        rw [newLoops, if_neg isLoop, List.append_nil]

theorem openEndpoint_kept (st : EpState Table Cb Arg) (outcome : OpenOutcome) (type : EpType) (ep : EpPtr)
    (path : List UInt8) :
    (openEndpoint st outcome type ep path).1.epTbl = st.epTbl ∧
      (openEndpoint st outcome type ep path).1.cores = st.cores ∧
        (openEndpoint st outcome type ep path).1.bevs = st.bevs := by
  obtain ⟨same, -⟩ | ⟨opened, -⟩ := openEndpoint_cases st outcome type ep path
  · rw [same]
    exact ⟨rfl, rfl, rfl⟩
  · rw [opened]
    exact ⟨rfl, rfl, rfl⟩

theorem rteipcOpen_refused (short : ¬(scanUri uri).1.length > 15) (parsed : parseUri uri = some (type, path))
    (allocated : outcome.core = true) (refused : (tbl.set outcome.desc st.epTbl st.cores.next).2 < 0) :
    rteipcOpen tbl st outcome uri =
      .ok ({ st with
              epTbl := (tbl.set outcome.desc st.epTbl st.cores.next).1
              cores := (st.cores.alloc ⟨-1, -1, type, none⟩).free st.cores.next }, -1) := by
  simp only [rteipcOpen, if_neg short, parsed, allocated, registerEndpoint, if_pos refused]
  rfl

theorem rteipcOpen_registered (short : ¬(scanUri uri).1.length > 15) (parsed : parseUri uri = some (type, path))
    (allocated : outcome.core = true) (given : ¬(tbl.set outcome.desc st.epTbl st.cores.next).2 < 0) :
    rteipcOpen tbl st outcome uri =
      if (openEndpoint (withEndpoint tbl st outcome.desc type) outcome type st.cores.next path).2 ≠ 0 then do
        let closed ← unregisterEndpoint tbl
          (openEndpoint (withEndpoint tbl st outcome.desc type) outcome type st.cores.next path).1 st.cores.next
        .ok (destroyEndpoint closed st.cores.next, -1)
      else
        .ok ((openEndpoint (withEndpoint tbl st outcome.desc type) outcome type st.cores.next path).1,
          (tbl.set outcome.desc st.epTbl st.cores.next).2) := by
  simp only [rteipcOpen, if_neg short, parsed, allocated, registerEndpoint, if_neg given]
  rfl

/-- The type and the path `ops->open` is called with, where `rteipc_open` gets that far. -/
def opensBackend (tbl : DescTable Table) (st : EpState Table Cb Arg) (outcome : OpenOutcome) (uri : List UInt8) :
    Option (EpType × List UInt8) :=
  if (scanUri uri).1.length > 15 then none
  else if !outcome.core || (tbl.set outcome.desc st.epTbl st.cores.next).2 < 0 then none
  else parseUri uri

theorem opensBackend_of (short : ¬(scanUri uri).1.length > 15) (parsed : parseUri uri = some (type, path))
    (allocated : outcome.core = true) (given : ¬(tbl.set outcome.desc st.epTbl st.cores.next).2 < 0) :
    opensBackend tbl st outcome uri = some (type, path) := by
  simp [opensBackend, if_neg short, parsed, allocated, given]

theorem unregisterEndpoint_idle (live : st.cores.get ep = some core) (unbound : core.bev = none) :
    unregisterEndpoint tbl st ep =
      .ok { st with
              epTbl := tbl.del st.epTbl core.id
              cores := st.cores.modify ep fun core => { core with id := -1 } } := by
  have renamed : (st.cores.modify ep fun core => { core with id := -1 }).get ep = some { core with id := -1 } := by
    simp [Heap.get_modify_self, live]
  simp only [unregisterEndpoint, deref_live live]
  exact unbindEndpoint_idle renamed unbound

/-- A failed `rteipc_open` changes the table only, and one that succeeds adds an endpoint. -/
theorem rteipcOpen_cases {next : EpState Table Cb Arg} {ret : Int}
    (returned : rteipcOpen tbl st outcome uri = .ok (next, ret)) :
    ret = -1 ∧ (∀ ep, next.cores.get ep = st.cores.get ep) ∧ next.bevs = st.bevs ∧ next.loList = st.loList ∧
        (∀ type path, opensBackend tbl st outcome uri = some (type, path) →
          (openEndpoint (withEndpoint tbl st outcome.desc type) outcome type st.cores.next path).2 ≠ 0) ∨
      ∃ type path, opensBackend tbl st outcome uri = some (type, path) ∧
        (openEndpoint (withEndpoint tbl st outcome.desc type) outcome type st.cores.next path).2 = 0 ∧
        next = { withEndpoint tbl st outcome.desc type with
                   loList := st.loList ++ newLoops type st.cores.next path } ∧
        ret = (tbl.set outcome.desc st.epTbl st.cores.next).2 := by
  have early : opensBackend tbl st outcome uri = none → ∀ type path,
      opensBackend tbl st outcome uri = some (type, path) →
        (openEndpoint (withEndpoint tbl st outcome.desc type) outcome type st.cores.next path).2 ≠ 0 :=
    fun none _ _ reached => nomatch none.symm.trans reached
  by_cases long : (scanUri uri).1.length > 15
  · rw [rteipcOpen, if_pos long] at returned
    nomatch returned
  cases parsed : parseUri uri with
  | none =>
      simp only [rteipcOpen, if_neg long, parsed] at returned
      cases returned
      exact .inl ⟨rfl, fun _ => rfl, rfl, rfl, early (by simp [opensBackend, parsed])⟩
  | some target =>
      obtain ⟨type, path⟩ := target
      cases allocated : outcome.core with
      | false =>
          simp only [rteipcOpen, if_neg long, parsed, allocated] at returned
          cases returned
          exact .inl ⟨rfl, fun _ => rfl, rfl, rfl, early (by simp [opensBackend, allocated])⟩
      | true =>
          by_cases refused : (tbl.set outcome.desc st.epTbl st.cores.next).2 < 0
          · rw [rteipcOpen_refused long parsed allocated refused] at returned
            cases returned
            exact .inl ⟨rfl, fun _ => Heap.get_alloc_free, rfl, rfl, early (by simp [opensBackend, refused])⟩
          · rw [rteipcOpen_registered long parsed allocated refused] at returned
            have reached := opensBackend_of long parsed allocated refused
            obtain ⟨same, failed, -⟩ | ⟨opened, succeeded, -⟩ :=
              openEndpoint_cases (withEndpoint tbl st outcome.desc type) outcome type st.cores.next path
            · rw [if_pos failed, same, unregisterEndpoint_idle withEndpoint_new rfl] at returned
              cases returned
              refine .inl ⟨rfl, fun kept => ?_, rfl, rfl, fun other target again => ?_⟩
              · by_cases isNew : kept = st.cores.next
                · rw [isNew, destroyEndpoint, Heap.get_free_self, st.cores.fresh _ (Nat.le_refl _)]
                · rw [destroyEndpoint, Heap.get_free_of_ne isNew, Heap.get_modify_of_ne isNew, withEndpoint_get,
                    if_neg isNew]
              · cases reached.symm.trans again
                exact failed
            · rw [if_neg (not_not.mpr succeeded), opened] at returned
              cases returned
              exact .inr ⟨type, path, reached, succeeded, rfl, rfl⟩

theorem unregisterEndpoint_types {next : EpState Table Cb Arg} (returned : unregisterEndpoint tbl st ep = .ok next) :
    (next.cores.get kept).map EpCore.type = (st.cores.get kept).map EpCore.type := by
  obtain ⟨core, -, returned⟩ := bind_ok returned
  obtain ⟨rfl, -⟩ | ⟨_, _, _, _, _, _, -, -, -, -, -, -, rfl⟩ := unbindEndpoint_cases returned
  · exact Heap.map_get_modify fun _ => rfl
  · refine (Heap.map_get_modify ?_).trans ((Heap.map_get_modify ?_).trans (Heap.map_get_modify ?_))
    all_goals exact fun _ => rfl

theorem rteipcClose_types {next : EpState Table Cb Arg} {id : Int} (returned : rteipcClose tbl st id = .ok next) :
    findEndpoint tbl st id = none ∧ next = st ∨
      ∃ ep core, findEndpoint tbl st id = some ep ∧ st.cores.get ep = some core ∧ next.cores.get ep = none ∧
        ∀ other, other ≠ ep → (next.cores.get other).map EpCore.type = (st.cores.get other).map EpCore.type := by
  cases found : findEndpoint tbl st id with
  | none =>
      simp only [rteipcClose, found] at returned
      cases returned
      exact .inl ⟨rfl, rfl⟩
  | some ep =>
      simp only [rteipcClose, found] at returned
      obtain ⟨core, read, returned⟩ := bind_ok returned
      obtain ⟨closed, unregistered, returned⟩ := bind_ok returned
      cases returned
      refine .inr ⟨ep, core, rfl, deref_ok read, Heap.get_free_self, fun other differ => ?_⟩
      rw [destroyEndpoint, Heap.get_free_of_ne differ, unregisterEndpoint_types unregistered, closeEndpoint_eq]

end Opening

end Rteipc
