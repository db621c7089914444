import Rteipc.Message.Stream
import Rteipc.Rtemgrd.Loops

namespace Rteipc

/-! What the commands of a control packet answer, said from the state before
them, and where they return at all. -/

open Data

/-! ## list -/

section List

variable {Table : Type} {st : Daemon Table} {domain : Domain} {iface : IfacePtr} {self : Interface}

/-- The partner of the interface, if it has one, is there to be read. -/
def PartnerLive (st : Daemon Table) (self : Interface) : Prop :=
  ∀ partner, self.partner = some partner → ∃ other, st.ifaces.get partner = some other

def partnerText (st : Daemon Table) (self : Interface) : Option (List UInt8) :=
  (self.partner.bind st.ifaces.get).map Interface.name

/-- The scan keeps the last path it found. -/
def scannedPath (path : List UInt8) (self : Interface) : List UInt8 :=
  if (scanUri self.uri).2 = [] then path else (scanUri self.uri).2

def ifaceRecord (st : Daemon Table) (domain : Domain) (path : List UInt8) (self : Interface) : RtemgrIntf where
  id := BitVec.ofInt 32 self.id
  busType := self.busType
  name := strncpy 16 self.name
  path := strncpy 128 path
  domain := domain.id
  managed := self.managed
  partner := strncpy 16 ((partnerText st self).getD [])

def domainRecords (st : Daemon Table) (domain : Domain) : List IfacePtr → List UInt8 → List RtemgrIntf
  | [], _ => []
  | iface :: rest, path =>
      match st.ifaces.get iface with
      | none => domainRecords st domain rest path
      | some self =>
          ifaceRecord st domain (scannedPath path self) self :: domainRecords st domain rest (scannedPath path self)

def listRecords (st : Daemon Table) : List RtemgrIntf :=
  st.domainList.flatMap fun domain => domainRecords st domain domain.ifaceList []

theorem partnerName_eq (live : PartnerLive st self) : partnerName st self = .ok (partnerText st self) := by
  unfold partnerName partnerText
  cases names : self.partner with
  | none => rfl
  | some partner =>
      obtain ⟨other, there⟩ := live partner names
      simp [deref_live there, there, Except.map]

theorem collectIface_eq {d : RtemgrData} {path : List UInt8} (live : st.ifaces.get iface = some self)
    (partner : PartnerLive st self) :
    collectIface (fun _ => true) st domain d path iface =
      .ok ({ d with interfaces := d.interfaces ++ [ifaceRecord st domain (scannedPath path self) self] },
        scannedPath path self) := by
  simp only [collectIface, deref_live live, rtemgrDataAllocInterface, if_true, partnerName_eq partner, bind, Except.bind]
  simp only [List.modify_eq_take_drop, List.take_left, List.drop_left, List.modifyHead_cons]
  rfl

theorem collectLoop_eq {ifaces : List IfacePtr} {d : RtemgrData} {path : List UInt8}
    (live : ∀ iface ∈ ifaces, ∃ self, st.ifaces.get iface = some self ∧ PartnerLive st self) :
    collectLoop (fun _ => true) st domain ifaces d path =
      .ok { d with interfaces := d.interfaces ++ domainRecords st domain ifaces path } := by
  induction ifaces generalizing d path with
  | nil => simp [collectLoop, domainRecords]
  | cons iface rest ih =>
      obtain ⟨self, here, partner⟩ := live iface List.mem_cons_self
      have later := fun other member => live other (List.mem_cons_of_mem _ member)
      simp only [collectLoop, collectIface_eq here partner, bind, Except.bind, ih later, domainRecords, here]
      simp

theorem listDomains_eq {domains : List Domain} {d : RtemgrData}
    (live : ∀ domain ∈ domains, ∀ iface ∈ domain.ifaceList,
      ∃ self, st.ifaces.get iface = some self ∧ PartnerLive st self) :
    listDomains (fun _ => true) st domains d =
      .ok { d with
        interfaces := d.interfaces ++ domains.flatMap fun domain => domainRecords st domain domain.ifaceList [] } := by
  induction domains generalizing d with
  | nil => simp [listDomains]
  | cons domain rest ih =>
      have here := live domain List.mem_cons_self
      have later := fun other member => live other (List.mem_cons_of_mem _ member)
      simp only [listDomains, domainCollectIfaces, collectLoop_eq here, bind, Except.bind, ih later]
      simp

/-- Nothing is read through a dangling partner. -/
def PartnersLive (st : Daemon Table) : Prop :=
  ∀ iface self, Listed st iface → st.ifaces.get iface = some self → PartnerLive st self

theorem doRtecmdList_eq (inv : RouteInv st) (live : PartnersLive st) (d : RtemgrData) :
    doRtecmdList (fun _ => true) st d = .ok ({ d with interfaces := listRecords st }, 0) := by
  have listed : ∀ domain ∈ st.domainList, ∀ iface ∈ domain.ifaceList,
      ∃ self, st.ifaces.get iface = some self ∧ PartnerLive st self := by
    intro domain member iface inside
    have isListed : Listed st iface := listed_iff.mpr ⟨domain, member, inside⟩
    obtain ⟨self, here⟩ := inv.live isListed
    exact ⟨self, here, live iface self isListed here⟩
  simp only [doRtecmdList, listDomains_eq listed, bind, Except.bind, List.nil_append]
  rfl

end List

def namedIface {Table : Type} (st : Daemon Table) (d : RtemgrData) : Option Interface :=
  (d.interfaces.head?.bind (ifaceOf st)).bind st.ifaces.get

/-! ## cat -/

section Cat

variable {Table : Type} {st : Daemon Table} {memory : CatMemory} {busType : BitVec 32} {d : RtemgrData}

structure CatMemory.Plenty (memory : CatMemory) : Prop where
  evbuffer : memory.evbuffer = true
  malloc : ∀ round size, memory.malloc round size = true
  value : memory.value = true

/-- The texts of the messages, where `localtime` finds the times of all of them. -/
def catLines (memory : CatMemory) (busType : BitVec 32) : Nat → List (Nat × List UInt8) → Except Fault (List UInt8)
  | round + 1, (_, msg) :: rest => do
      let line ← catLine memory round busType msg
      let later ← catLines memory busType round rest
      .ok (line ++ later)
  | _, _ => .ok []

def catText (memory : CatMemory) (self : Interface) : Except Fault (List UInt8) :=
  catLines memory self.busType (self.pending.length + 1) (msgDrainAll (fun _ => true) self.pending).1

theorem drain_allocated (buf : Evbuffer) : (rteipcMsgDrain (fun _ => true) buf).1 ≠ .failed := by
  unfold rteipcMsgDrain
  simp only
  split
  · nofun
  · simp

theorem catLoop_eq (allocated : ∀ round size, memory.malloc round size = true) {fuel : Nat} {pending buf : Evbuffer}
    {text : List UInt8} (lines : catLines memory busType fuel (msgLoop (fun _ => true) fuel pending).1 = .ok text) :
    catLoop memory busType fuel pending buf = .ok (true, (msgLoop (fun _ => true) fuel pending).2, buf ++ text) := by
  induction fuel generalizing pending buf text with
  | zero =>
      cases lines
      simp [catLoop, msgLoop]
  | succ fuel ih =>
      have malloc : memory.malloc fuel = fun _ => true := funext (allocated fuel)
      have found := drain_allocated pending
      rw [catLoop, malloc]
      rw [msgLoop] at lines ⊢
      cases drained : rteipcMsgDrain (fun _ => true) pending with
      | mk result rest =>
          rw [drained] at found lines
          cases result with
          | failed => exact (found rfl).elim
          | empty =>
              cases lines
              simp
          | message size msg =>
              obtain ⟨line, printed, lines⟩ := bind_ok lines
              obtain ⟨later, others, lines⟩ := bind_ok lines
              cases lines
              simp [printed, ih others, bind, Except.bind]

def catAnswer (memory : CatMemory) (st : Daemon Table) (d : RtemgrData) : RtemgrData :=
  match namedIface st d with
  | none => d.withError (-1)
  | some self =>
      if self.partner = none then (catValue memory d ((catText memory self).toOption.getD [])).1.withError 0
      else d.withError (-1)

structure CatSound (memory : CatMemory) (st : Daemon Table) (d : RtemgrData) : Prop where
  given : d.interfaces ≠ []
  partner : ∀ self, namedIface st d = some self → PartnerLive st self
  times : ∀ self, namedIface st d = some self → self.partner = none → ∃ text, catText memory self = .ok text

theorem catValue_plenty (plenty : memory.Plenty) (text : List UInt8) : (catValue memory d text).2 = 0 := by
  unfold catValue
  simp only [plenty.value]
  split
  · rfl
  · rfl

theorem doRtecmdCat_returns (inv : RouteInv st) (plenty : memory.Plenty) (sound : CatSound memory st d) :
    ∃ next reply ret, doRtecmdCat memory st d = .ok (next, reply, ret) ∧ reply.withError ret = catAnswer memory st d := by
  obtain ⟨given, partners, times⟩ := sound
  unfold catAnswer
  unfold namedIface at partners times ⊢
  unfold doRtecmdCat
  cases interfaces : d.interfaces with
  | nil => exact (given interfaces).elim
  | cons intf rest =>
      simp only [interfaces, List.head?_cons, Option.bind_some] at partners times ⊢
      cases found : ifaceOf st intf with
      | none => exact ⟨_, _, _, rfl, rfl⟩
      | some iface =>
          obtain ⟨self, live⟩ := inv.live (ifaceOf_listed found)
          simp only [found, Option.bind_some, live, Option.some.injEq, forall_eq'] at partners times ⊢
          simp only [deref_live live, bind, Except.bind]
          cases names : self.partner with
          | some partner =>
              obtain ⟨other, there⟩ := partners partner names
              simp only [deref_live there]
              exact ⟨_, _, _, rfl, rfl⟩
          | none =>
              obtain ⟨text, lines⟩ := times names
              have loop : catLoop memory self.busType (self.pending.length + 1) self.pending [] = .ok (true, _, text) :=
                catLoop_eq plenty.malloc lines
              have value : catValue memory d text = ((catValue memory d text).1, 0) :=
                Prod.ext rfl (catValue_plenty plenty text)
              simp only [plenty.evbuffer, loop, lines]
              exact ⟨_, _, 0, congrArg (fun reply => Except.ok (_, reply)) value, rfl⟩

end Cat

/-! ## forget -/

section Forget

variable {Table : Type} {st : Daemon Table} {iface : IfacePtr} {self : Interface} {d : RtemgrData}

/-- A raw interface and its partner forget each other. -/
def Forgettable (st : Daemon Table) (self : Interface) : Prop := self.managed = 0 → PartnerLive st self

theorem ifaceForget_returns (live : st.ifaces.get iface = some self) (forgettable : Forgettable st self) :
    ∃ next, ifaceForget st iface = .ok next := by
  simp only [ifaceForget, deref_live live, bind, Except.bind]
  split
  next raw =>
    cases names : self.partner with
    | none => exact ⟨st, rfl⟩
    | some partner =>
        obtain ⟨other, there⟩ := forgettable raw partner names
        simp only [deref_live there]
        exact ⟨_, rfl⟩
  next => exact ⟨_, rfl⟩

structure ForgetSound (st : Daemon Table) (d : RtemgrData) : Prop where
  given : d.interfaces ≠ []
  partner : ∀ self, namedIface st d = some self → Forgettable st self

def forgetError (st : Daemon Table) (d : RtemgrData) : Int :=
  match namedIface st d with
  | none => -1
  | some _ => 0

theorem doRtecmdForget_returns (inv : RouteInv st) (sound : ForgetSound st d) :
    ∃ next, doRtecmdForget st d = .ok (next, forgetError st d) := by
  obtain ⟨given, forgettable⟩ := sound
  unfold forgetError
  unfold namedIface at forgettable ⊢
  unfold doRtecmdForget
  cases interfaces : d.interfaces with
  | nil => exact (given interfaces).elim
  | cons intf rest =>
      simp only [interfaces, List.head?_cons, Option.bind_some] at forgettable ⊢
      cases found : ifaceOf st intf with
      | none => exact ⟨st, rfl⟩
      | some iface =>
          obtain ⟨self, live⟩ := inv.live (ifaceOf_listed found)
          simp only [found, Option.bind_some, live, Option.some.injEq, forall_eq'] at forgettable ⊢
          obtain ⟨next, forgot⟩ := ifaceForget_returns live forgettable
          simp only [forgot]
          exact ⟨next, rfl⟩

end Forget

/-! ## close -/

section Close

variable {st : Daemon (Dtbl EpPtr)} {iface : IfacePtr} {self : Interface} {d : RtemgrData}

theorem Connected.closes {wire : Wire} (connected : Connected st.lib self wire) (registry : Registry st.lib) :
    ∃ closed final, closeIfOpen dtblTable st.lib self.id = .ok closed ∧ closeIfOpen dtblTable closed self.ep = .ok final := by
  have attached := connected.attached
  have close := attached.close_eq
  obtain ⟨live, found⟩ := attached.closed_other close
  have closeOther := rteipcClose_idle found live rfl
  obtain ⟨-, used, isUsed, -⟩ := registry.live _ _ _ (dtblGet_holds attached.found) attached.live
  obtain ⟨-, otherUsed, otherIs, -⟩ := registry.live _ _ _ (dtblGet_holds attached.otherFound) attached.otherLive
  have given : self.id ≥ 0 := by
    rw [← connected.id, isUsed]
    exact Int.natCast_nonneg used
  have otherGiven : self.ep ≥ 0 := by
    rw [← connected.ep, otherIs]
    exact Int.natCast_nonneg otherUsed
  rw [connected.id] at close
  rw [connected.ep] at closeOther
  exact ⟨_, _, (if_pos given).trans close, (if_pos otherGiven).trans closeOther⟩

theorem ifaceFree_returns {closed final : Lib} (live : st.ifaces.get iface = some self)
    (first : closeIfOpen dtblTable st.lib self.id = .ok closed) (second : closeIfOpen dtblTable closed self.ep = .ok final)
    (forgettable : Forgettable st self) : ∃ next, ifaceFree dtblTable st iface = .ok next := by
  let unlisted := { st with lib := final, domainList := st.domainList.modify self.domain (·.remove iface) }
  have here : unlisted.ifaces.get iface = some self := live
  have same : Forgettable unlisted self := forgettable
  obtain ⟨forgotten, forgot⟩ := ifaceForget_returns here same
  simp only [ifaceFree, deref_live live, first, second, bind, Except.bind]
  rw [forgot]
  exact ⟨_, rfl⟩

/-- Each interface the records name is forgettable when its turn comes. -/
def CloseSound : Daemon (Dtbl EpPtr) → List RtemgrIntf → Prop
  | _, [] => True
  | st, intf :: rest =>
      match ifaceOf st intf with
      | none => CloseSound st rest
      | some iface =>
          (∀ self, st.ifaces.get iface = some self → Forgettable st self) ∧
            ∀ next, ifaceFree dtblTable st iface = .ok next → CloseSound next rest

theorem closeInterfaces_returns {interfaces : List RtemgrIntf} (connections : Connections st) (inv : DaemonInv st)
    (sound : CloseSound st interfaces) : ∃ next, closeInterfaces dtblTable st interfaces = .ok next := by
  induction interfaces generalizing st with
  | nil => exact ⟨st, rfl⟩
  | cons intf rest ih =>
      unfold CloseSound at sound
      unfold closeInterfaces
      cases found : ifaceOf st intf with
      | none =>
          rw [found] at sound
          exact ih connections inv sound
      | some iface =>
          rw [found] at sound
          obtain ⟨forgettable, later⟩ := sound
          have listed := ifaceOf_listed found
          obtain ⟨self, live⟩ := inv.routes.live listed
          obtain ⟨wire, connected⟩ := connections.connected iface self listed live
          obtain ⟨closed, final, first, second⟩ := connected.closes inv.registry
          obtain ⟨freed, free⟩ := ifaceFree_returns live first second (forgettable self live)
          obtain ⟨next, close⟩ := ih (connections.freed inv listed free) (inv.freed listed free) (later freed free)
          simp only [free, bind, Except.bind]
          exact ⟨next, close⟩

def closeError (d : RtemgrData) : Int := if d.interfaces = [] then -1 else 0

theorem doRtecmdClose_returns (connections : Connections st) (inv : DaemonInv st)
    (sound : CloseSound st d.interfaces) : ∃ next, doRtecmdClose dtblTable st d = .ok (next, closeError d) := by
  unfold doRtecmdClose closeError
  split
  next => exact ⟨st, rfl⟩
  next =>
    obtain ⟨next, close⟩ := closeInterfaces_returns connections inv sound
    rw [close]
    exact ⟨next, rfl⟩

end Close

end Rteipc
