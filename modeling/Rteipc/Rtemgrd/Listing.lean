import Rteipc.Endpoint.Uri
import Rteipc.Rtemgrd.Answers
import Rteipc.Rtemgrd.Control

namespace Rteipc

/-! What a list reply says of the interfaces. -/

open Data

/-! ## Paths in URIs -/

/-- The path is behind the prefix `iface_build` put before it. -/
def Interface.ownPath (self : Interface) : List UInt8 := self.uri.drop (busToPrefix self.busType).length

/-- The bus is known, and the path is one line that is not empty. -/
structure PathScans (owner : Interface) : Prop where
  bus : busToPrefix owner.busType ≠ []
  given : owner.ownPath ≠ []
  line : 10 ∉ owner.ownPath

/-- The texts of an interface are those of a build. -/
structure AsBuilt (owner : Interface) : Prop where
  name : 0 ∉ owner.name
  room : owner.name.length < 16
  uri : ∃ path, 0 ∉ path ∧ owner.uri = (busToPrefix owner.busType ++ path).take 127

section Paths

variable {self after : Interface}

theorem busToPrefix_scheme (bus : BitVec 32) :
    busToPrefix bus = [] ∨ ∃ scheme, 58 ∉ scheme ∧ scheme ≠ [] ∧ busToPrefix bus = scheme ++ ascii "://" := by
  unfold busToPrefix
  cases found : busPrefixTbl.find? fun entry => entry.1.number = bus with
  | none => exact .inl rfl
  | some entry =>
      right
      have schemes : ∀ entry ∈ busPrefixTbl, 58 ∉ entry.2.takeWhile (· ≠ 58) ∧ entry.2.takeWhile (· ≠ 58) ≠ [] ∧
          entry.2 = entry.2.takeWhile (· ≠ 58) ++ ascii "://" := by decide
      exact ⟨_, schemes entry (List.mem_of_find?_eq_some found)⟩

theorem scanUri_found {uri : List UInt8} (found : (scanUri uri).2 ≠ []) :
    ∃ rest, ascii "://" ++ rest <:+ uri ∧ (scanUri uri).2 <+: rest := by
  unfold scanUri at found ⊢
  simp only at found ⊢
  split at found
  next scanned =>
    rw [if_pos scanned]
    obtain ⟨rest, separated⟩ := List.isPrefixOf_iff_prefix.mp (Bool.and_eq_true_iff.mp scanned).2
    have behind : (uri.dropWhile (· ≠ 58)).drop 3 = rest := by
      rw [← separated]
      rfl
    rw [behind]
    refine ⟨rest, ?_, (List.takeWhile_prefix _).trans (List.take_prefix _ _)⟩
    rw [separated]
    exact List.dropWhile_suffix _
  next => exact (found rfl).elim

theorem scanUri_shorter {uri : List UInt8} (found : (scanUri uri).2 ≠ []) : (scanUri uri).2.length < uri.length := by
  obtain ⟨rest, behind, kept⟩ := scanUri_found found
  have inside := behind.length_le
  have shorter := kept.length_le
  have separator : (ascii "://").length = 3 := rfl
  rw [List.length_append, separator] at inside
  omega

theorem scanUri_noNul {uri : List UInt8} (noNul : 0 ∉ uri) : 0 ∉ (scanUri uri).2 := by
  intro member
  obtain ⟨rest, behind, kept⟩ := scanUri_found (List.ne_nil_of_mem member)
  exact noNul (behind.subset (List.mem_append_right _ (kept.subset member)))

theorem busToPrefix_noNul (bus : BitVec 32) : 0 ∉ busToPrefix bus := by
  unfold busToPrefix
  cases found : busPrefixTbl.find? fun entry => entry.1.number = bus with
  | none => nofun
  | some entry =>
      have schemes : ∀ entry ∈ busPrefixTbl, 0 ∉ entry.2 := by decide
      exact schemes entry (List.mem_of_find?_eq_some found)

theorem AsBuilt.uri_noNul (built : AsBuilt self) : 0 ∉ self.uri := by
  obtain ⟨path, noNul, uri⟩ := built.uri
  rw [uri]
  intro member
  rcases List.mem_append.mp (List.mem_of_mem_take member) with inPrefix | inPath
  · exact busToPrefix_noNul _ inPrefix
  · exact noNul inPath

theorem AsBuilt.uri_eq (built : AsBuilt self) (short : self.uri.length < 99) :
    self.uri = busToPrefix self.busType ++ self.ownPath := by
  obtain ⟨path, -, uri⟩ := built.uri
  have whole : self.uri = busToPrefix self.busType ++ path := by
    rw [uri, List.length_take] at short
    rw [uri, List.take_of_length_le (by omega)]
  rw [Interface.ownPath, whole, List.drop_left]

/-- Behind a known prefix the scan finds the first line of the path. -/
theorem AsBuilt.scanned_line (built : AsBuilt self) (short : self.uri.length < 99) (known : busToPrefix self.busType ≠ []) :
    (scanUri self.uri).2 = self.ownPath.takeWhile (· ≠ 10) := by
  have whole := built.uri_eq short
  rcases busToPrefix_scheme self.busType with unknown | ⟨scheme, noColon, given, marked⟩
  · exact (known unknown).elim
  · have fits : self.ownPath.length ≤ 99 := by
      rw [whole, List.length_append] at short
      omega
    rw [whole, marked, scanUri_scheme noColon given, List.take_of_length_le fits]

/-- What the scan finds in the URI is less than the URI, so without a prefix it is not the path. -/
theorem AsBuilt.scanned_own_iff (built : AsBuilt self) (short : self.uri.length < 99)
    (found : (scanUri self.uri).2 ≠ []) : (scanUri self.uri).2 = self.ownPath ↔ PathScans self := by
  constructor
  · intro same
    have known : busToPrefix self.busType ≠ [] := by
      intro unknown
      have whole := built.uri_eq short
      have shorter := scanUri_shorter found
      rw [unknown, List.nil_append] at whole
      rw [same, ← whole] at shorter
      exact Nat.lt_irrefl _ shorter
    have line := built.scanned_line short known
    rw [same] at found line
    exact ⟨known, found, takeWhile_eq_self_iff_absent.mp line.symm⟩
  · intro scans
    rw [built.scanned_line short scans.bus, takeWhile_absent scans.line]

end Paths

/-! ## Interfaces as they were built -/

def AllBuilt (st : Daemon (Dtbl EpPtr)) : Prop := ∀ iface self, st.ifaces.get iface = some self → AsBuilt self

section Built

variable {lib : PacketLib} {st next : Daemon (Dtbl EpPtr)} {self after : Interface}

theorem AsBuilt.kept (built : AsBuilt self) (same : after.identity = self.identity) : AsBuilt after := by
  have kept : AsBuilt after.identity := by
    rw [same]
    exact ⟨built.name, built.room, built.uri⟩
  exact ⟨kept.name, kept.room, kept.uri⟩

theorem AllBuilt.fewer (all : AllBuilt st)
    (olds : ∀ iface after, next.ifaces.get iface = some after →
      ∃ self, st.ifaces.get iface = some self ∧ after.identity = self.identity) : AllBuilt next := by
  intro iface after live
  obtain ⟨self, wasLive, same⟩ := olds iface after live
  exact (all iface self wasLive).kept same

theorem AllBuilt.steady (all : AllBuilt st) (steady : Steady st next) : AllBuilt next :=
  all.fewer fun _ _ live => steady.before live

theorem AllBuilt.freed (all : AllBuilt st) {iface : IfacePtr} (returned : ifaceFree dtblTable st iface = .ok next) :
    AllBuilt next := by
  obtain ⟨owner, closed, freed, -, -⟩ := ifaceFree_freed returned
  refine all.fewer fun other after live => freed.before live ?_
  intro same
  rw [same, freed.gone] at live
  nomatch live

theorem ifaceBuild_room {outcome : IfaceOutcome} {iface : IfacePtr} {name path : List UInt8}
    {busType managed : BitVec 32} {result : Daemon (Dtbl EpPtr) × Int}
    (returned : ifaceBuild dtblTable st outcome iface name path busType managed = .ok result) : name.length < 16 := by
  unfold ifaceBuild at returned
  split at returned
  next => nomatch returned
  next room => exact Nat.not_le.mp room

theorem AllBuilt.built (all : AllBuilt st) {outcome : IfaceOutcome} {domain : Nat} {name path : List UInt8}
    {busType managed : BitVec 32} {ret : Int} (noNul : 0 ∉ name) (pathNoNul : 0 ∉ path)
    (build : ifaceBuild dtblTable (grown st domain) outcome st.ifaces.next name path busType managed = .ok (next, ret)) :
    AllBuilt next := by
  have room := ifaceBuild_room build
  obtain ⟨opened, id, both, ep, lib, -, -, rfl, -⟩ := ifaceBuild_ok build
  intro iface self live
  change (Rteipc.built st lib domain _).ifaces.get iface = some self at live
  rw [built_get] at live
  split at live
  next =>
    obtain rfl := Option.some.inj live
    exact ⟨noNul, room, path, pathNoNul, rfl⟩
  next => exact all iface self live

theorem AllBuilt.opened (all : AllBuilt st) {outcome : IfaceOutcome} {d : RtemgrData} {ret : Int}
    (returned : doRtecmdOpen dtblTable st outcome d = .ok (next, ret)) : AllBuilt next := by
  obtain ⟨rfl, -⟩ | ⟨intf, rest, domain, made, failed, -, -, -, -, build, ended⟩ := doRtecmdOpen_ok returned
  · exact all
  have made := all.built (nul_not_mem_cString _) (nul_not_mem_cString _) build
  rcases ended with ⟨-, -, rfl⟩ | ⟨-, -, free⟩
  · exact made
  · exact made.freed free

theorem AllBuilt.step (all : AllBuilt st) {msg : LoopMessage} (taken : RtemgrdStep dtblTable lib st msg next) :
    AllBuilt next := by
  obtain ⟨middle, ep, handled, moved, rfl⟩ := taken.handled
  have kept : AllBuilt middle := by
    obtain steady | ⟨d, ret, -, ⟨-, opened⟩ | ⟨-, closed⟩⟩ := handled.steady_or
    · exact all.steady steady
    · exact all.opened opened
    · exact closeInterfaces_keeps (fun _ _ _ _ _ before _ free => before.freed free) all (doRtecmdClose_ok closed)
  exact kept.steady (.of_lib moved)

theorem rtemgrd_built {outcome : IfaceOutcome} {ret : Int} (started : rtemgrd dtblTable outcome = .ok (st, ret)) :
    AllBuilt st := by
  obtain ⟨rfl, -⟩ | build := rtemgrd_ok started
  · exact nofun
  · have none : AllBuilt { Daemon.start dtblTable with ctrlIface := some (Daemon.start dtblTable).ifaces.next } := nofun
    exact none.built (by decide) (by decide) build

theorem AllBuilt.run (all : AllBuilt st) {msgs : List LoopMessage}
    (run : Reaches (RtemgrdStep dtblTable lib) st msgs next) : AllBuilt next :=
  run.invariant (fun _ _ _ kept taken => kept.step taken) all

end Built

/-! ## The reply -/

section Reply

variable {st : Daemon (Dtbl EpPtr)} {domain : Domain} {owner : Interface} {path : List UInt8} {d reply : RtemgrData}

/-- The record holds the interface's own data. -/
structure Describes (st : Daemon (Dtbl EpPtr)) (owner : Interface) (record : RtemgrIntf) : Prop where
  id : record.id = BitVec.ofInt 32 owner.id
  name : record.name.text = owner.name
  busType : record.busType = owner.busType
  domain : (st.domainList[owner.domain]?).map Domain.id = some record.domain
  managed : record.managed = owner.managed
  alone : owner.partner = none → record.partner.text = []
  partner : ∀ partner, owner.partner = some partner →
    ∃ other, st.ifaces.get partner = some other ∧ record.partner.text = other.name
  path : record.path.text = owner.ownPath

def DescribesAt (st : Daemon (Dtbl EpPtr)) (iface : IfacePtr) (record : RtemgrIntf) : Prop :=
  ∃ owner, st.ifaces.get iface = some owner ∧ Describes st owner record

/-- The packet holds one record for each interface, in the order of the lists. -/
def ListsAll (st : Daemon (Dtbl EpPtr)) (d : RtemgrData) : Prop :=
  ∃ reply, doRtecmdList (fun _ => true) st d = .ok (reply, 0) ∧
    List.Forall₂ (DescribesAt st) (st.domainList.flatMap Domain.ifaceList) reply.interfaces

/-- A path the scan does not find is the last one it found in the domain. -/
def PathsFollow : List UInt8 → List Interface → Prop
  | _, [] => True
  | last, owner :: rest =>
      PathScans owner ∧ PathsFollow owner.ownPath rest ∨
        (scanUri owner.uri).2 = [] ∧ owner.ownPath = last ∧ PathsFollow last rest

/-- No partner of a listed interface is freed, and the paths of a domain follow from an empty one. -/
structure ListSound (st : Daemon (Dtbl EpPtr)) : Prop where
  partners : PartnersLive st
  paths : ∀ domain ∈ st.domainList, PathsFollow [] (domain.ifaceList.filterMap st.ifaces.get)

/-- Every listed URI is within the limit of the scan. -/
def UrisShort (st : Daemon (Dtbl EpPtr)) : Prop :=
  ∀ iface self, Listed st iface → st.ifaces.get iface = some self → self.uri.length < 99

/-! ### One record -/

theorem scannedPath_noNul (noNul : 0 ∉ path) (built : AsBuilt owner) : 0 ∉ scannedPath path owner := by
  unfold scannedPath
  split
  next => exact noNul
  next => exact scanUri_noNul built.uri_noNul

theorem scannedPath_room (room : path.length < 99) (short : owner.uri.length < 99) :
    (scannedPath path owner).length < 99 := by
  unfold scannedPath
  split
  next => exact room
  next found => exact Nat.lt_trans (scanUri_shorter found) short

/-- All but the path is right in any case. -/
theorem ifaceRecord_describes_iff (all : AllBuilt st) (built : AsBuilt owner) (partnerLive : PartnerLive st owner)
    (home : (st.domainList[owner.domain]?).map Domain.id = some domain.id) (noNul : 0 ∉ path) (room : path.length < 99) :
    Describes st owner (ifaceRecord st domain path owner) ↔ path = owner.ownPath := by
  have text : (ifaceRecord st domain path owner).path.text = path := strncpy_text noNul (by omega)
  constructor
  · intro describes
    exact text.symm.trans describes.path
  · intro own
    refine ⟨rfl, strncpy_text built.name built.room, rfl, home, rfl, fun alone => ?_, fun partner named => ?_,
      text.trans own⟩
    · change (strncpy 16 ((partnerText st owner).getD [])).text = []
      rw [partnerText, alone]
      rfl
    · obtain ⟨other, live⟩ := partnerLive partner named
      have otherBuilt := all partner other live
      refine ⟨other, live, ?_⟩
      change (strncpy 16 ((partnerText st owner).getD [])).text = other.name
      rw [partnerText, named, Option.bind_some, live]
      exact strncpy_text otherBuilt.name otherBuilt.room

theorem pathsFollow_cons_iff (built : AsBuilt owner) (short : owner.uri.length < 99) {rest : List Interface} :
    PathsFollow path (owner :: rest) ↔
      scannedPath path owner = owner.ownPath ∧ PathsFollow (scannedPath path owner) rest := by
  unfold scannedPath
  rw [PathsFollow]
  split
  next nothing =>
    have fails : ¬PathScans owner := fun scans => scans.given <| by
      rw [← nothing, built.scanned_line short scans.bus, takeWhile_absent scans.line]
    constructor
    · intro follows
      rcases follows with ⟨scans, -⟩ | ⟨-, own, follow⟩
      · exact (fails scans).elim
      · exact ⟨own.symm, follow⟩
    · intro ⟨own, follow⟩
      exact .inr ⟨nothing, own.symm, follow⟩
  next found =>
    rw [built.scanned_own_iff short found]
    constructor
    · intro follows
      rcases follows with ⟨scans, follow⟩ | ⟨nothing, -⟩
      · rw [(built.scanned_own_iff short found).mpr scans]
        exact ⟨scans, follow⟩
      · exact (found nothing).elim
    · intro ⟨scans, follow⟩
      rw [(built.scanned_own_iff short found).mpr scans] at follow
      exact .inl ⟨scans, follow⟩

/-! ### All records -/

/-- What is known of an interface on the list of the domain. -/
structure Member (st : Daemon (Dtbl EpPtr)) (domain : Domain) (iface : IfacePtr) (owner : Interface) : Prop where
  live : st.ifaces.get iface = some owner
  built : AsBuilt owner
  short : owner.uri.length < 99
  partner : PartnerLive st owner
  home : (st.domainList[owner.domain]?).map Domain.id = some domain.id

theorem domainRecords_iff (all : AllBuilt st) {ifaces : List IfacePtr}
    (members : ∀ iface ∈ ifaces, ∃ owner, Member st domain iface owner) (noNul : 0 ∉ path) (room : path.length < 99) :
    List.Forall₂ (DescribesAt st) ifaces (domainRecords st domain ifaces path) ↔
      PathsFollow path (ifaces.filterMap st.ifaces.get) := by
  induction ifaces generalizing path with
  | nil => exact iff_of_true .nil trivial
  | cons iface rest ih =>
      obtain ⟨owner, member⟩ := members iface List.mem_cons_self
      have scannedNoNul := scannedPath_noNul noNul member.built
      have scannedRoom := scannedPath_room room member.short
      have later := ih (fun other inside => members other (List.mem_cons_of_mem _ inside)) scannedNoNul scannedRoom
      have here : DescribesAt st iface (ifaceRecord st domain (scannedPath path owner) owner) ↔
          scannedPath path owner = owner.ownPath := by
        rw [← ifaceRecord_describes_iff all member.built member.partner member.home scannedNoNul scannedRoom]
        refine ⟨fun describes => ?_, fun describes => ⟨owner, member.live, describes⟩⟩
        obtain ⟨same, live, describes⟩ := describes
        cases live.symm.trans member.live
        exact describes
      rw [List.filterMap_cons_some member.live, pathsFollow_cons_iff member.built member.short]
      simp only [domainRecords, member.live]
      rw [List.forall₂_cons, here, later]

theorem forall₂_append_iff {Left Right : Type} {related : Left → Right → Prop} {first second : List Left}
    {others more : List Right} (same : first.length = others.length) :
    List.Forall₂ related (first ++ second) (others ++ more) ↔
      List.Forall₂ related first others ∧ List.Forall₂ related second more := by
  constructor
  · intro whole
    have front := List.forall₂_take_append _ _ _ whole
    have back := List.forall₂_drop_append _ _ _ whole
    rw [← same, List.take_left] at front
    rw [← same, List.drop_left] at back
    exact ⟨front, back⟩
  · exact fun both => List.rel_append both.1 both.2

theorem domainRecords_length {ifaces : List IfacePtr} (live : ∀ iface ∈ ifaces, ∃ owner, st.ifaces.get iface = some owner) :
    ifaces.length = (domainRecords st domain ifaces path).length := by
  induction ifaces generalizing path with
  | nil => rfl
  | cons iface rest ih =>
      obtain ⟨owner, here⟩ := live iface List.mem_cons_self
      simp only [domainRecords, here, List.length_cons]
      rw [ih fun other inside => live other (List.mem_cons_of_mem _ inside)]

theorem listRecords_iff (all : AllBuilt st) {domains : List Domain}
    (members : ∀ domain ∈ domains, ∀ iface ∈ domain.ifaceList, ∃ owner, Member st domain iface owner) :
    List.Forall₂ (DescribesAt st) (domains.flatMap Domain.ifaceList)
        (domains.flatMap fun domain => domainRecords st domain domain.ifaceList []) ↔
      ∀ domain ∈ domains, PathsFollow [] (domain.ifaceList.filterMap st.ifaces.get) := by
  induction domains with
  | nil => exact iff_of_true .nil nofun
  | cons domain rest ih =>
      have here := members domain List.mem_cons_self
      have lengths := @domainRecords_length st domain [] domain.ifaceList fun iface inside => by
        obtain ⟨owner, member⟩ := here iface inside
        exact ⟨owner, member.live⟩
      rw [List.flatMap_cons, List.flatMap_cons, forall₂_append_iff lengths,
        domainRecords_iff all here List.not_mem_nil (by decide),
        ih fun other inside => members other (List.mem_cons_of_mem _ inside), List.forall_mem_cons]

/-! ### Where it returns -/

theorem partnerName_live {name : Option (List UInt8)} (read : partnerName st owner = .ok name) : PartnerLive st owner := by
  intro partner named
  rw [partnerName, named] at read
  obtain ⟨other, there, -⟩ := map_ok read
  exact ⟨other, deref_ok there⟩

theorem collectLoop_live {ifaces : List IfacePtr} {realloc : Nat → Bool}
    (returned : collectLoop realloc st domain ifaces d path = .ok reply) {iface : IfacePtr} (member : iface ∈ ifaces)
    (live : st.ifaces.get iface = some owner) : PartnerLive st owner := by
  induction ifaces generalizing d path with
  | nil => nomatch member
  | cons first rest ih =>
      obtain ⟨collected, collect, returned⟩ := bind_ok returned
      rcases List.mem_cons.mp member with rfl | later
      · obtain ⟨self, read, collect⟩ := bind_ok collect
        cases (deref_ok read).symm.trans live
        split at collect
        next => nomatch collect
        next =>
          obtain ⟨name, named, -⟩ := bind_ok collect
          exact partnerName_live named
      · exact ih returned later

theorem listDomains_live {domains : List Domain} {realloc : Nat → Bool}
    (returned : listDomains realloc st domains d = .ok reply) (member : domain ∈ domains) {iface : IfacePtr}
    (inside : iface ∈ domain.ifaceList) (live : st.ifaces.get iface = some owner) : PartnerLive st owner := by
  induction domains generalizing d with
  | nil => nomatch member
  | cons first rest ih =>
      obtain ⟨collected, collect, returned⟩ := bind_ok returned
      rcases List.mem_cons.mp member with rfl | later
      · exact collectLoop_live collect inside live
      · exact ih returned later

theorem doRtecmdList_live {realloc : Nat → Bool} {ret : Int} (returned : doRtecmdList realloc st d = .ok (reply, ret)) :
    PartnersLive st := by
  intro iface owner listed live
  obtain ⟨domain, member, inside⟩ := listed_iff.mp listed
  obtain ⟨collected, collect, -⟩ := bind_ok returned
  exact listDomains_live collect member inside live

theorem listsAll_iff (inv : RouteInv st) (all : AllBuilt st) (short : UrisShort st) (d : RtemgrData) :
    ListsAll st d ↔ ListSound st := by
  have members : PartnersLive st → ∀ domain ∈ st.domainList, ∀ iface ∈ domain.ifaceList,
      ∃ owner, Member st domain iface owner := by
    intro partners domain inside iface member
    have listed : Listed st iface := listed_iff.mpr ⟨domain, inside, member⟩
    obtain ⟨position, found⟩ := List.mem_iff_getElem?.mp inside
    obtain ⟨owner, live, home⟩ := inv.listed position domain iface found member
    refine ⟨owner, live, all iface owner live, short iface owner listed live, partners iface owner listed live, ?_⟩
    rw [home, found, Option.map_some]
  constructor
  · intro ⟨reply, returned, describes⟩
    have partners := doRtecmdList_live returned
    rw [doRtecmdList_eq inv partners d] at returned
    cases returned
    exact ⟨partners, (listRecords_iff all (members partners)).mp describes⟩
  · intro sound
    exact ⟨_, doRtecmdList_eq inv sound.partners d, (listRecords_iff all (members sound.partners)).mpr sound.paths⟩

/-- In every state the daemon reaches, a list reply describes each interface by
its own data exactly when no partner is freed and each path is found in its URI
or follows from the one before. -/
theorem list_describes_iff {start : Daemon (Dtbl EpPtr)} {setup : IfaceOutcome} {lib : PacketLib}
    {msgs : List LoopMessage} (started : rtemgrd dtblTable setup = .ok (start, 0))
    (reached : Reaches (RtemgrdStep dtblTable lib) start msgs st) (short : UrisShort st) (d : RtemgrData) :
    ListsAll st d ↔ ListSound st :=
  listsAll_iff ((rtemgrd_inv started).run reached).routes ((rtemgrd_built started).run reached) short d

end Reply

/-! ## An interface without a prefix -/

def openPacket (busType : BitVec 32) (name path : String) : RtemgrData where
  cmd := { rtemgrDataAlloc.cmd with action := 2 }
  interfaces := [{ freshIntf with busType, name := strncpy 16 (ascii name), path := strncpy 128 (ascii path) }]

/-- The daemon after one packet at its control port. -/
def Daemon.served (d : RtemgrData) : Daemon (Dtbl EpPtr) :=
  ((processCtlport dtblTable (.receiving d) .succeeds .started []).toOption.map Prod.fst).getD .started

theorem served_reached {d : RtemgrData}
    (handles : (processCtlport dtblTable (.receiving d) .succeeds .started []).toOption.isSome = true) :
    ∃ msgs, Reaches (RtemgrdStep dtblTable (.receiving d)) .started msgs (.served d) := by
  obtain ⟨lo, member, named, called⟩ := started_loop
  cases handled : processCtlport dtblTable (.receiving d) .succeeds .started [] with
  | error fault =>
      rw [handled] at handles
      nomatch handles
  | ok done =>
      have served : Daemon.served d = done.1 := by
        rw [Daemon.served, handled]
        rfl
      have control : strmatch lo.name rtemgrdCtlport = true := strmatch_iff.mpr named
      have taken : RtemgrdStep dtblTable (.receiving d) .started ⟨.succeeds, plentyOfMemory 0, lo, []⟩ done.1 := by
        refine ⟨member, called, done.2, ?_⟩
        rw [defaultDomainHandler, if_pos control]
        exact handled
      rw [served]
      exact ⟨_, .cons taken (.nil _)⟩

theorem urisShort_of_lists {st : Daemon (Dtbl EpPtr)} (short : ∀ domain ∈ st.domainList, ∀ iface ∈ domain.ifaceList,
    (st.ifaces.get iface).all (fun self => decide (self.uri.length < 99)) = true) : UrisShort st := by
  intro iface self listed live
  obtain ⟨domain, member, inside⟩ := listed_iff.mp listed
  have fits := short domain member iface inside
  rw [live] at fits
  exact of_decide_eq_true fits

theorem list_describes_iff_ipc : ∃ msgs, Reaches (RtemgrdStep dtblTable (.receiving (openPacket 1 "a" "b"))) .started msgs
    (.served (openPacket 1 "a" "b")) ∧
      (ListsAll (.served (openPacket 1 "a" "b")) listPacket ↔ ListSound (.served (openPacket 1 "a" "b"))) := by
  obtain ⟨msgs, reached⟩ := @served_reached (openPacket 1 "a" "b") (by decide +kernel)
  have short : UrisShort (.served (openPacket 1 "a" "b")) := urisShort_of_lists (by decide +kernel)
  exact ⟨msgs, reached, list_describes_iff rtemgrd_started reached short listPacket⟩

theorem describesAt_paths {st : Daemon (Dtbl EpPtr)} {ifaces : List IfacePtr} {records : List RtemgrIntf}
    (describes : List.Forall₂ (DescribesAt st) ifaces records) :
    ifaces.map (fun iface => (st.ifaces.get iface).map Interface.ownPath) =
      records.map fun record => some record.path.text := by
  induction describes with
  | nil => rfl
  | cons here _ ih =>
      obtain ⟨owner, live, describes⟩ := here
      rw [List.map_cons, List.map_cons, ih, live, describes.path]
      rfl

/-- The interface `a` on the loop `b` is listed with the path of the control interface. -/
theorem list_repeats_path : ¬ ∀ lib msgs st d, Reaches (RtemgrdStep dtblTable lib) .started msgs st → UrisShort st →
    ListsAll st d := by
  intro lists
  obtain ⟨msgs, reached⟩ := @served_reached (openPacket 9 "a" "b") (by decide +kernel)
  have short : UrisShort (.served (openPacket 9 "a" "b")) := urisShort_of_lists (by decide +kernel)
  obtain ⟨reply, returned, describes⟩ := lists _ _ _ listPacket reached short
  have same := describesAt_paths describes
  have own : ((Daemon.served (openPacket 9 "a" "b")).domainList.flatMap Domain.ifaceList).map (fun iface =>
      ((Daemon.served (openPacket 9 "a" "b")).ifaces.get iface).map Interface.ownPath) =
        [some (ascii "@rtemgrd"), some (ascii "b")] := by decide +kernel
  have shown : (doRtecmdList (fun _ => true) (.served (openPacket 9 "a" "b")) listPacket).toOption.map
      (fun done => done.1.interfaces.map fun record => some record.path.text) =
        some [some (ascii "@rtemgrd"), some (ascii "@rtemgrd")] := by decide +kernel
  rw [returned] at shown
  have equal := own.symm.trans (same.trans (Option.some.inj shown))
  revert equal
  decide

end Rteipc
