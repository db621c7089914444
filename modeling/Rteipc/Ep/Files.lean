import Rteipc.Data.Run
import Rteipc.Endpoint

namespace Rteipc

/-! The files of `ep_ipc.c`: `ipc_open` puts its socket in the place of whatever
has the path, and `ipc_close` removes what has it then. -/

open Data

/-- Whose socket a file is. -/
inductive Socket where
  | listener (ep : EpPtr)
  | other
deriving DecidableEq, Repr

/-- The socket files by their paths. -/
abbrev Files := List UInt8 → Option Socket

/-- No file has an empty path. -/
def unlink (files : Files) (path : List UInt8) : Files :=
  fun file => if file = path ∧ path ≠ [] then none else files file

/-- The address a listener is bound to. -/
inductive SockAddr where
  | inet (sip sport : List UInt8)
  | abstract (name : List UInt8)
  | file (path : List UInt8)
deriving DecidableEq, Repr

/-- An empty `sun_path` begins with a NUL, as that of an abstract socket does. -/
def sunAddr : List UInt8 → SockAddr
  | [] => .abstract []
  | first :: rest => if first = 64 then .abstract rest else .file (first :: rest)

/-- `struct ipc_data`, with the listener as its address. -/
structure IpcData where
  el : SockAddr
  path : Option (List UInt8)
  abstract : Bool
  named : ∀ file, path = some file → el = sunAddr file
  proper : ∀ file, el = .file file → sunAddr file = el

/-- What the C library makes of the calls `ipc_open` makes. -/
structure IpcOutcome where
  malloc : Bool
  inetPton : Bool
  strdup : Bool
  bind : Bool
  listen : Bool
deriving DecidableEq, Repr

/-- The files and the `data` of the endpoints. -/
structure IpcSide where
  files : Files
  data : EpPtr → Option IpcData

theorem sunAddr_file {path file : List UInt8} (same : sunAddr path = .file file) : path = file := by
  cases path with
  | nil => nomatch same
  | cons first rest =>
      rw [sunAddr] at same
      split at same
      next => nomatch same
      next => exact SockAddr.file.inj same

def unixData (strdup : Bool) (path : List UInt8) : IpcData where
  el := sunAddr path
  path := if path.head? ≠ some 64 ∧ strdup then some path else none
  abstract := path.head? = some 64
  named file kept := by
    split at kept
    next => rw [Option.some.inj kept]
    next => nomatch kept
  proper file same := by rw [← sunAddr_file same]

/-- The address to listen at, with what `data` has by then, and the files after
the old socket is unlinked. -/
def ipcAddress (files : Files) (outcome : IpcOutcome) (type : EpType) (path : List UInt8) :
    Except Fault (Option (Files × IpcData)) :=
  if type = .inet then
    let (sip, sport) := scanInet path
    if sip.length > 15 || sport.length > 5 then .error .overflow
    else if !outcome.inetPton then .ok none
    else .ok (some (files, ⟨.inet sip sport, none, false, nofun, nofun⟩))
  else
    let files := if path.head? = some 64 then files else unlink files path
    .ok (some (files, unixData outcome.strdup path))

/-- `bind` creates the file of the socket. -/
def bindSocket (files : Files) (address : SockAddr) (ep : EpPtr) : Files :=
  match address with
  | .file path => fun file => if file = path then some (.listener ep) else files file
  | _ => files

/-- A listener whose `listen` fails leaves its file behind. -/
def ipcOpen (side : IpcSide) (outcome : IpcOutcome) (type : EpType) (ep : EpPtr) (path : List UInt8) :
    Except Fault (IpcSide × Int) :=
  if !outcome.malloc then .ok (side, -1)
  else do
    match ← ipcAddress side.files outcome type path with
    | none => .ok (side, -1)
    | some (files, data) =>
        let files := if outcome.bind then bindSocket files data.el ep else files
        if outcome.bind && outcome.listen then
          .ok (⟨files, fun other => if other = ep then some data else side.data other⟩, 0)
        else .ok ({ side with files }, -1)

def ipcClose (side : IpcSide) (ep : EpPtr) : Except Fault IpcSide :=
  match side.data ep with
  | none => .error .nullDereference
  | some data =>
      let files :=
        if data.abstract then side.files
        else
          match data.path with
          | none => side.files
          | some path => unlink side.files path
      .ok ⟨files, fun other => if other = ep then none else side.data other⟩

/-! ## Endpoints with their files -/

def EpType.isIpc : EpType → Bool
  | .ipc | .inet => true
  | _ => false

structure FileState (Table Cb Arg : Type) where
  lib : EpState Table Cb Arg
  side : IpcSide

variable {Table Cb Arg : Type} (tbl : DescTable Table)

/-- Before any endpoint is opened there may be files of other programs. -/
def FileState.start (files : List UInt8 → Bool) : FileState Table Cb Arg where
  lib := .start tbl
  side := ⟨fun path => if files path then some .other else none, fun _ => none⟩

/-- `ops->open` where it is `ipc_open`, and whether the backend opens. -/
def openSide (st : FileState Table Cb Arg) (outcome : OpenOutcome) (ipc : IpcOutcome) (uri : List UInt8) :
    Except Fault (IpcSide × Bool) :=
  match opensBackend tbl st.lib outcome uri with
  | none => .ok (st.side, outcome.backend)
  | some (type, path) =>
      if type.isIpc then
        (ipcOpen st.side ipc type st.lib.cores.next path).map fun (side, failed) => (side, failed = 0)
      else .ok (st.side, outcome.backend)

/-- `ops->close` where it is `ipc_close`. -/
def closeSide (st : FileState Table Cb Arg) (type : EpType) (ep : EpPtr) : Except Fault IpcSide :=
  if type.isIpc then ipcClose st.side ep else .ok st.side

inductive FileCall where
  | rteipcOpen (outcome : OpenOutcome) (ipc : IpcOutcome) (uri : List UInt8)
  | rteipcClose (id : Int)
deriving DecidableEq, Repr

def FileState.call (st : FileState Table Cb Arg) : FileCall → Except Fault (FileState Table Cb Arg × Int)
  | .rteipcOpen outcome ipc uri => do
      let (side, backend) ← openSide tbl st outcome ipc uri
      let (lib, ret) ← Rteipc.rteipcOpen tbl st.lib { outcome with backend } uri
      .ok (⟨lib, side⟩, ret)
  | .rteipcClose id =>
      match findEndpoint tbl st.lib id with
      | none => .ok (st, 0)
      | some ep => do
          let core ← deref st.lib.cores ep
          let side ← closeSide st core.type ep
          let lib ← Rteipc.rteipcClose tbl st.lib id
          .ok (⟨lib, side⟩, 0)

def FileStep (st : FileState Table Cb Arg) (call : FileCall) (next : FileState Table Cb Arg) : Prop :=
  ∃ ret, st.call tbl call = .ok (next, ret)

/-- An open endpoint listens at the path. -/
def ListensAt (st : FileState Table Cb Arg) (ep : EpPtr) (path : List UInt8) : Prop :=
  ∃ core data, st.lib.cores.get ep = some core ∧ st.side.data ep = some data ∧ data.el = .file path

/-- The path of every open endpoint names the socket of its own listener. -/
def PathsReach (st : FileState Table Cb Arg) : Prop :=
  ∀ ep path, ListensAt st ep path → st.side.files path = some (.listener ep)

/-- The file an `rteipc_open` puts its own socket in the place of. -/
def TakesPath (st : FileState Table Cb Arg) (outcome : OpenOutcome) (ipc : IpcOutcome) (uri file : List UInt8) : Prop :=
  ∃ path, opensBackend tbl st.lib outcome uri = some (.ipc, path) ∧ ipc.malloc = true ∧ sunAddr path = .file file

/-- An `ipc_open` that gets as far as the socket takes a path no open endpoint listens at. -/
def PathFree (st : FileState Table Cb Arg) : FileCall → Prop
  | .rteipcOpen outcome ipc uri => ∀ file, TakesPath tbl st outcome ipc uri file → ∀ ep, ¬ListensAt st ep file
  | .rteipcClose _ => True

/-! ## One call -/

theorem sunAddr_eq_file {path file : List UInt8} :
    sunAddr path = .file file ↔ file = path ∧ path ≠ [] ∧ path.head? ≠ some 64 := by
  cases path with
  | nil => simp [sunAddr]
  | cons first rest =>
      rw [sunAddr]
      split
      next at_ => simp [at_]
      next other => simp [other, eq_comm]

/-- The endpoint that opens takes the path away from whatever had it. -/
def Takes (outcome : IpcOutcome) (type : EpType) (path file : List UInt8) : Prop :=
  outcome.malloc = true ∧ type ≠ .inet ∧ sunAddr path = .file file

section Calls

variable {side after : IpcSide} {outcome : IpcOutcome} {type : EpType} {ep : EpPtr} {path file : List UInt8} {ret : Int}

theorem bindSocket_get {files : Files} {address : SockAddr} :
    bindSocket files address ep file = if address = .file file then some (.listener ep) else files file := by
  cases address <;> simp [bindSocket, eq_comm]

theorem unlink_get {files : Files} (free : ¬(path ≠ [] ∧ file = path)) : unlink files path file = files file :=
  if_neg fun taken => free taken.symm

theorem ipcAddress_ok {files changed : Files} {data : IpcData}
    (prepared : ipcAddress files outcome type path = .ok (some (changed, data))) :
    type = .inet ∧ changed = files ∧ (∀ file, data.el ≠ .file file) ∨
      type ≠ .inet ∧ changed = (if path.head? = some 64 then files else unlink files path) ∧ data.el = sunAddr path := by
  unfold ipcAddress at prepared
  split at prepared
  next isInet =>
    dsimp only at prepared
    split at prepared
    next => nomatch prepared
    next =>
      split at prepared
      next => nomatch prepared
      next =>
        cases prepared
        exact .inl ⟨isInet, rfl, nofun⟩
  next isUnix =>
    cases prepared
    exact .inr ⟨isUnix, rfl, rfl⟩

theorem ipcAddress_none {files : Files} (refused : ipcAddress files outcome type path = .ok none) : type = .inet := by
  by_contra isUnix
  rw [ipcAddress, if_neg isUnix] at refused
  nomatch refused

/-- Either nothing happens, or the socket is bound or not and the endpoint gets
its `data` only if it listens. -/
theorem ipcOpen_cases (opened : ipcOpen side outcome type ep path = .ok (after, ret)) :
    (outcome.malloc = false ∨ type = .inet) ∧ after = side ∧ ret = -1 ∨
      ∃ changed data, outcome.malloc = true ∧ ipcAddress side.files outcome type path = .ok (some (changed, data)) ∧
        after.files = (if outcome.bind then bindSocket changed data.el ep else changed) ∧
        (after.data = side.data ∧ ret = -1 ∨
          outcome.bind = true ∧ after.data = (fun other => if other = ep then some data else side.data other) ∧ ret = 0) := by
  unfold ipcOpen at opened
  split at opened
  next refused =>
    cases opened
    exact .inl ⟨.inl (by simpa using refused), rfl, rfl⟩
  next allocated =>
    obtain ⟨target, prepared, opened⟩ := bind_ok opened
    cases target with
    | none =>
        cases opened
        exact .inl ⟨.inr (ipcAddress_none prepared), rfl, rfl⟩
    | some target =>
        obtain ⟨changed, data⟩ := target
        refine .inr ⟨changed, data, by simpa using allocated, prepared, ?_⟩
        dsimp only at opened
        split at opened
        next listens =>
          cases opened
          exact ⟨rfl, .inr ⟨(Bool.and_eq_true_iff.mp listens).1, rfl, rfl⟩⟩
        next =>
          cases opened
          exact ⟨rfl, .inl ⟨rfl, rfl⟩⟩

theorem ipcOpen_files (opened : ipcOpen side outcome type ep path = .ok (after, ret)) (file : List UInt8) :
    (Takes outcome type path file → after.files file = none ∨ after.files file = some (.listener ep)) ∧
      (¬Takes outcome type path file → after.files file = side.files file) := by
  obtain ⟨refused, rfl, -⟩ | ⟨changed, data, allocated, prepared, files, -⟩ := ipcOpen_cases opened
  · refine ⟨fun takes => ?_, fun _ => rfl⟩
    obtain no | isInet := refused
    · nomatch no.symm.trans takes.1
    · exact (takes.2.1 isInet).elim
  rw [files]
  obtain ⟨isInet, rfl, address⟩ | ⟨isUnix, rfl, address⟩ := ipcAddress_ok prepared
  · refine ⟨fun takes => (takes.2.1 isInet).elim, fun _ => ?_⟩
    split
    · rw [bindSocket_get, if_neg (address file)]
    · rfl
  · have takes : Takes outcome type path file ↔ sunAddr path = .file file := by simp [Takes, allocated, isUnix]
    have unlinked : (if path.head? = some 64 then side.files else unlink side.files path) file =
        if sunAddr path = .file file then none else side.files file := by
      simp only [sunAddr_eq_file]
      split <;> simp_all [unlink, and_comm]
    rw [takes]
    split
    · rw [bindSocket_get, address]
      exact ⟨fun same => .inr (if_pos same), fun differ => (if_neg differ).trans (unlinked.trans (if_neg differ))⟩
    · rw [unlinked]
      exact ⟨fun same => .inl (if_pos same), fun differ => if_neg differ⟩

theorem ipcOpen_data (opened : ipcOpen side outcome type ep path = .ok (after, ret)) :
    ret ≠ 0 ∧ after.data = side.data ∨
      ret = 0 ∧ ∃ data, after.data = (fun other => if other = ep then some data else side.data other) ∧
        ∀ file, data.el = .file file → after.files file = some (.listener ep) := by
  obtain ⟨-, rfl, rfl⟩ | ⟨changed, data, -, -, files, ⟨same, rfl⟩ | ⟨bound, stored, rfl⟩⟩ := ipcOpen_cases opened
  · exact .inl ⟨Int.negSucc_ne_zero 0, rfl⟩
  · exact .inl ⟨Int.negSucc_ne_zero 0, same⟩
  · refine .inr ⟨rfl, data, stored, fun file address => ?_⟩
    rw [files, if_pos bound, bindSocket_get, if_pos address]

theorem ipcClose_ok (closed : ipcClose side ep = .ok after) :
    ∃ data, side.data ep = some data ∧ after.data = (fun other => if other = ep then none else side.data other) ∧
      ∀ file, sunAddr file = .file file → after.files file = side.files file ∨ data.el = .file file := by
  unfold ipcClose at closed
  split at closed
  next => nomatch closed
  next data stored =>
    cases closed
    refine ⟨data, stored, rfl, fun file proper => ?_⟩
    cases data.abstract with
    | true => exact .inl rfl
    | false =>
        cases copied : data.path with
        | none => exact .inl rfl
        | some path =>
            by_cases same : file = path
            · rw [data.named path copied, ← same]
              exact .inr proper
            · exact .inl (unlink_get fun taken => same taken.2)

end Calls

section Steps

variable {tbl} {st next : FileState Table Cb Arg} {outcome : OpenOutcome} {ipc : IpcOutcome} {uri : List UInt8} {ret : Int}

/-- The endpoints with `data` are the open ones whose operations are `ipc_ops`. -/
def DataOwned (st : FileState Table Cb Arg) : Prop :=
  ∀ ep, (st.side.data ep).isSome = true ↔ ∃ core, st.lib.cores.get ep = some core ∧ core.type.isIpc = true

theorem isIpc_backend {after : EpState Table Cb Arg} {type : EpType} (isIpc : type.isIpc = true) (outcome : OpenOutcome)
    (ep : EpPtr) (path : List UInt8) :
    (openEndpoint after outcome type ep path).2 = 0 ↔ outcome.backend = true := by
  cases type
  case ipc | inet => cases h : outcome.backend <;> simp [openEndpoint, h]
  all_goals cases isIpc

theorem openSide_ok {side : IpcSide} {backend : Bool} (opened : openSide tbl st outcome ipc uri = .ok (side, backend)) :
    (∀ type path, opensBackend tbl st.lib outcome uri = some (type, path) → type.isIpc = false) ∧ side = st.side ∨
      ∃ type path failed, opensBackend tbl st.lib outcome uri = some (type, path) ∧ type.isIpc = true ∧
        ipcOpen st.side ipc type st.lib.cores.next path = .ok (side, failed) ∧ backend = decide (failed = 0) := by
  unfold openSide at opened
  cases reached : opensBackend tbl st.lib outcome uri with
  | none =>
      simp only [reached] at opened
      cases opened
      exact .inl ⟨nofun, rfl⟩
  | some target =>
      obtain ⟨type, path⟩ := target
      simp only [reached] at opened
      split at opened
      next isIpc =>
        obtain ⟨⟨after, failed⟩, ran, same⟩ := map_ok opened
        cases same
        exact .inr ⟨type, path, failed, rfl, isIpc, ran, rfl⟩
      next other =>
        cases opened
        refine .inl ⟨fun type path same => ?_, rfl⟩
        cases same
        exact Bool.not_eq_true _ ▸ other

theorem open_endpoints (returned : st.call tbl (.rteipcOpen outcome ipc uri) = .ok (next, ret)) :
    (∀ ep, next.lib.cores.get ep = st.lib.cores.get ep) ∧ next.side.data = st.side.data ∨
      ∃ added : EpCore, (∀ ep, next.lib.cores.get ep = if ep = st.lib.cores.next then some added else st.lib.cores.get ep) ∧
        (added.type.isIpc = false ∧ next.side.data = st.side.data ∨
          added.type.isIpc = true ∧ ∃ data,
            next.side.data = (fun ep => if ep = st.lib.cores.next then some data else st.side.data ep) ∧
            ∀ file, data.el = .file file → next.side.files file = some (.listener st.lib.cores.next)) := by
  obtain ⟨⟨side, backend⟩, opened, returned⟩ := bind_ok returned
  obtain ⟨⟨lib, id⟩, registered, returned⟩ := bind_ok returned
  cases returned
  obtain ⟨-, cores, -, -, refused⟩ | ⟨type, path, reached, succeeded, rfl, -⟩ := rteipcOpen_cases registered
  · refine .inl ⟨cores, ?_⟩
    obtain ⟨-, rfl⟩ | ⟨type, path, failed, reached, isIpc, ran, rfl⟩ := openSide_ok opened
    · rfl
    · obtain ⟨-, same⟩ | ⟨rfl, -⟩ := ipcOpen_data ran
      · exact same
      · exact (refused type path reached ((isIpc_backend isIpc _ _ _).mpr rfl)).elim
  · refine .inr ⟨_, fun ep => withEndpoint_get, ?_⟩
    obtain ⟨other, rfl⟩ | ⟨sameType, samePath, failed, again, isIpc, ran, rfl⟩ := openSide_ok opened
    · exact .inl ⟨other type path reached, rfl⟩
    · cases reached.symm.trans again
      obtain ⟨failing, -⟩ | ⟨-, stored⟩ := ipcOpen_data ran
      · have backend := (isIpc_backend isIpc _ _ _).mp succeeded
        exact (failing (of_decide_eq_true backend)).elim
      · exact .inr ⟨isIpc, stored⟩

theorem open_files (returned : st.call tbl (.rteipcOpen outcome ipc uri) = .ok (next, ret)) (file : List UInt8) :
    (TakesPath tbl st outcome ipc uri file →
        next.side.files file = none ∨ next.side.files file = some (.listener st.lib.cores.next)) ∧
      (¬TakesPath tbl st outcome ipc uri file → next.side.files file = st.side.files file) := by
  obtain ⟨⟨side, backend⟩, opened, returned⟩ := bind_ok returned
  obtain ⟨⟨lib, id⟩, registered, returned⟩ := bind_ok returned
  cases returned
  obtain ⟨other, rfl⟩ | ⟨type, path, failed, reached, isIpc, ran, rfl⟩ := openSide_ok opened
  · refine ⟨fun ⟨path, reached, _⟩ => ?_, fun _ => rfl⟩
    nomatch other .ipc path reached
  · have takes : TakesPath tbl st outcome ipc uri file ↔ Takes ipc type path file := by
      constructor
      · rintro ⟨samePath, again, allocated, address⟩
        cases reached.symm.trans again
        exact ⟨allocated, nofun, address⟩
      · rintro ⟨allocated, isUnix, address⟩
        cases type
        case ipc => exact ⟨path, reached, allocated, address⟩
        case inet => exact (isUnix rfl).elim
        all_goals nomatch isIpc
    rw [takes]
    exact ipcOpen_files ran file

theorem close_endpoint {id : Int} (returned : st.call tbl (.rteipcClose id) = .ok (next, ret)) :
    next = st ∨ ∃ ep core, st.lib.cores.get ep = some core ∧ next.lib.cores.get ep = none ∧
      (∀ other, other ≠ ep → (next.lib.cores.get other).map EpCore.type = (st.lib.cores.get other).map EpCore.type) ∧
        (core.type.isIpc = false ∧ next.side = st.side ∨ core.type.isIpc = true ∧ ipcClose st.side ep = .ok next.side) := by
  unfold FileState.call at returned
  cases found : findEndpoint tbl st.lib id with
  | none =>
      simp only [found] at returned
      cases returned
      exact .inl rfl
  | some ep =>
      simp only [found] at returned
      obtain ⟨core, read, returned⟩ := bind_ok returned
      obtain ⟨side, closed, returned⟩ := bind_ok returned
      obtain ⟨lib, unregistered, returned⟩ := bind_ok returned
      cases returned
      obtain ⟨absent, -⟩ | ⟨same, sameCore, foundEp, -, freed, types⟩ := rteipcClose_types unregistered
      · nomatch found.symm.trans absent
      · cases found.symm.trans foundEp
        refine .inr ⟨ep, core, deref_ok read, freed, types, ?_⟩
        unfold closeSide at closed
        split at closed
        next isIpc => exact .inr ⟨isIpc, closed⟩
        next other =>
          cases closed
          exact .inl ⟨Bool.not_eq_true _ ▸ other, rfl⟩

theorem DataOwned.start {files : List UInt8 → Bool} : DataOwned (FileState.start tbl files : FileState Table Cb Arg) := by
  intro ep
  simp [FileState.start, EpState.start, Heap.empty]

theorem DataOwned.unborn (owned : DataOwned st) : st.side.data st.lib.cores.next = none := by
  rw [← Option.not_isSome_iff_eq_none, owned]
  rintro ⟨core, live, -⟩
  exact Heap.live_ne_next live rfl

theorem DataOwned.opened (owned : DataOwned st) (returned : st.call tbl (.rteipcOpen outcome ipc uri) = .ok (next, ret)) :
    DataOwned next := by
  intro ep
  obtain ⟨cores, data⟩ | ⟨added, cores, side⟩ := open_endpoints returned
  · rw [cores, data]
    exact owned ep
  · rw [cores]
    by_cases isNew : ep = st.lib.cores.next
    · obtain ⟨other, data⟩ | ⟨isIpc, data, stored, -⟩ := side
      · simp [isNew, data, owned.unborn, other]
      · simp [isNew, stored, isIpc]
    · obtain ⟨-, data⟩ | ⟨-, data, stored, -⟩ := side
      · simpa [isNew, data] using owned ep
      · simpa [isNew, stored] using owned ep

theorem live_before {before after : Heap EpCore} {ep : EpPtr} {core : EpCore}
    (types : (after.get ep).map EpCore.type = (before.get ep).map EpCore.type) (live : after.get ep = some core) :
    ∃ old, before.get ep = some old ∧ old.type = core.type := by
  rw [live, Option.map_some, eq_comm, Option.map_eq_some_iff] at types
  exact types

theorem DataOwned.closed (owned : DataOwned st) {id : Int} (returned : st.call tbl (.rteipcClose id) = .ok (next, ret)) :
    DataOwned next := by
  obtain rfl | ⟨ep, core, live, freed, types, side⟩ := close_endpoint returned
  · exact owned
  intro kept
  by_cases isEp : kept = ep
  · obtain ⟨other, same⟩ | ⟨isIpc, closed⟩ := side
    · have none : (st.side.data ep).isSome ≠ true := by simp [owned ep, live, other]
      simpa [isEp, same, freed] using none
    · obtain ⟨data, -, stored, -⟩ := ipcClose_ok closed
      simp [isEp, stored, freed]
  · have sameData : next.side.data kept = st.side.data kept := by
      obtain ⟨-, same⟩ | ⟨-, closed⟩ := side
      · rw [same]
      · obtain ⟨data, -, stored, -⟩ := ipcClose_ok closed
        simp [stored, isEp]
    rw [sameData, owned kept]
    constructor
    · rintro ⟨old, oldLive, isIpc⟩
      obtain ⟨core, live, sameType⟩ := live_before (types kept isEp).symm oldLive
      exact ⟨core, live, sameType ▸ isIpc⟩
    · rintro ⟨core, live, isIpc⟩
      obtain ⟨old, oldLive, sameType⟩ := live_before (types kept isEp) live
      exact ⟨old, oldLive, sameType ▸ isIpc⟩

theorem DataOwned.step {call : FileCall} (owned : DataOwned st) (taken : FileStep tbl st call next) : DataOwned next := by
  obtain ⟨ret, returned⟩ := taken
  cases call with
  | rteipcOpen outcome ipc uri => exact owned.opened returned
  | rteipcClose id => exact owned.closed returned

/-! ## Runs -/

theorem ListensAt.proper {ep : EpPtr} {path : List UInt8} (listens : ListensAt st ep path) :
    sunAddr path = .file path := by
  obtain ⟨_, data, -, -, address⟩ := listens
  exact (data.proper path address).trans address

/-- An endpoint that listens after an `rteipc_open` did so before, or is new and
owns its file. -/
theorem listens_opened (owned : DataOwned st) (returned : st.call tbl (.rteipcOpen outcome ipc uri) = .ok (next, ret))
    {ep : EpPtr} {path : List UInt8} (listens : ListensAt next ep path) :
    ListensAt st ep path ∨ next.side.files path = some (.listener ep) := by
  obtain ⟨core, data, live, stored, address⟩ := listens
  obtain ⟨cores, same⟩ | ⟨added, cores, side⟩ := open_endpoints returned
  · exact .inl ⟨core, data, cores ep ▸ live, same ▸ stored, address⟩
  · rw [cores] at live
    by_cases isNew : ep = st.lib.cores.next
    · subst isNew
      obtain ⟨-, same⟩ | ⟨-, new, same, owns⟩ := side
      · rw [same, owned.unborn] at stored
        nomatch stored
      · simp only [same, if_true, Option.some.injEq] at stored
        subst stored
        exact .inr (owns path address)
    · rw [if_neg isNew] at live
      obtain ⟨-, same⟩ | ⟨-, new, same, -⟩ := side
      · exact .inl ⟨core, data, live, same ▸ stored, address⟩
      · simp only [same, if_neg isNew] at stored
        exact .inl ⟨core, data, live, stored, address⟩

theorem listens_kept (returned : st.call tbl (.rteipcOpen outcome ipc uri) = .ok (next, ret)) {ep : EpPtr}
    {path : List UInt8} (listens : ListensAt st ep path) : ListensAt next ep path ∧ ep ≠ st.lib.cores.next := by
  obtain ⟨core, data, live, stored, address⟩ := listens
  have isOld : ep ≠ st.lib.cores.next := Heap.live_ne_next live
  refine ⟨⟨core, data, ?_, ?_, address⟩, isOld⟩
  · obtain ⟨cores, -⟩ | ⟨added, cores, -⟩ := open_endpoints returned
    · rw [cores, live]
    · rw [cores, if_neg isOld, live]
  · obtain ⟨-, same⟩ | ⟨-, -, ⟨-, same⟩ | ⟨-, new, same, -⟩⟩ := open_endpoints returned
    · rw [same, stored]
    · rw [same, stored]
    · simp only [same, if_neg isOld, stored]

theorem open_reaches_iff (owned : DataOwned st) (good : PathsReach st)
    (returned : st.call tbl (.rteipcOpen outcome ipc uri) = .ok (next, ret)) :
    PathsReach next ↔ ∀ file, TakesPath tbl st outcome ipc uri file → ∀ ep, ¬ListensAt st ep file := by
  constructor
  · intro reach file takes ep listens
    obtain ⟨kept, isOld⟩ := listens_kept returned listens
    have owns := reach ep file kept
    obtain gone | new := (open_files returned file).1 takes
    · nomatch gone.symm.trans owns
    · cases new.symm.trans owns
      exact isOld rfl
  · intro free ep path listens
    obtain old | owns := listens_opened owned returned listens
    · have untouched : ¬TakesPath tbl st outcome ipc uri path := fun takes => free path takes ep old
      rw [(open_files returned path).2 untouched]
      exact good ep path old
    · exact owns

theorem close_reaches (good : PathsReach st) {id : Int} (returned : st.call tbl (.rteipcClose id) = .ok (next, ret)) :
    PathsReach next := by
  obtain rfl | ⟨ep, core, closing, freed, types, side⟩ := close_endpoint returned
  · exact good
  intro other path listens
  have proper := listens.proper
  obtain ⟨kept, data, live, stored, address⟩ := listens
  have differ : other ≠ ep := by
    rintro rfl
    nomatch freed.symm.trans live
  obtain ⟨old, oldLive, -⟩ := live_before (types other differ) live
  obtain ⟨-, same⟩ | ⟨-, closed⟩ := side
  · rw [same] at stored ⊢
    exact good other path ⟨old, data, oldLive, stored, address⟩
  · obtain ⟨closedData, closedStored, stores, files⟩ := ipcClose_ok closed
    simp only [stores, if_neg differ] at stored
    have owns := good other path ⟨old, data, oldLive, stored, address⟩
    obtain same | closedAddress := files path proper
    · rw [same, owns]
    · have closedOwns := good ep path ⟨core, closedData, closing, closedStored, closedAddress⟩
      cases owns.symm.trans closedOwns
      exact (differ rfl).elim

end Steps

theorem PathsReach.start {files : List UInt8 → Bool} : PathsReach (FileState.start tbl files : FileState Table Cb Arg) := by
  rintro ep path ⟨core, -, live, -⟩
  nomatch live

/-- Along every run of opening and closing endpoints, each open endpoint's path
names its own socket as long as no `ipc_open` takes the path of an open endpoint. -/
theorem paths_reach_iff (files : List UInt8 → Bool) (calls : List FileCall) :
    Always (FileStep tbl) PathsReach (FileState.start tbl files : FileState Table Cb Arg) calls ↔
      Guarded (FileStep tbl) (PathFree tbl) (FileState.start tbl files : FileState Table Cb Arg) calls := by
  have preserved : ∀ (st : FileState Table Cb Arg) call next, DataOwned st → FileStep tbl st call next → DataOwned next :=
    fun _ _ _ owned taken => owned.step taken
  apply always_iff_guarded preserved _ DataOwned.start (PathsReach.start tbl)
  rintro st call next owned good ⟨ret, returned⟩
  cases call with
  | rteipcOpen outcome ipc uri => exact open_reaches_iff owned good returned
  | rteipcClose id => exact ⟨fun _ => trivial, fun _ => close_reaches good returned⟩

/-- Two endpoints are opened at one path, and it names the second one's socket. -/
theorem path_taken : ¬ ∀ (calls : List FileCall) (st : FileState (Dtbl EpPtr) Unit Unit),
    Reaches (FileStep dtblTable) (FileState.start dtblTable fun _ => false) calls st → PathsReach st := by
  intro all
  let opening : FileCall := .rteipcOpen ⟨true, .succeeds, true, true⟩ ⟨true, true, true, true, true⟩ (ascii "ipc:///a")
  obtain ⟨st, run, listens, second⟩ : ∃ st : FileState (Dtbl EpPtr) Unit Unit,
      Reaches (FileStep dtblTable) (FileState.start dtblTable fun _ => false) [opening, opening] st ∧
        ListensAt st 0 (ascii "/a") ∧ st.side.files (ascii "/a") = some (.listener 1) :=
    ⟨_, .cons ⟨0, rfl⟩ (.cons ⟨1, rfl⟩ (.nil _)), ⟨_, _, rfl, rfl, rfl⟩, rfl⟩
  have first := all [opening, opening] st run 0 (ascii "/a") listens
  cases first.symm.trans second

end Rteipc
