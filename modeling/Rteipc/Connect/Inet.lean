import Rteipc.Connect
import Rteipc.Data.Scan
import Rteipc.Endpoint.Uri
import Rteipc.Ep.Files

namespace Rteipc

/-! Internet addresses, as `ipc_open` reads the one it listens at and
`rteipc_connect` the one it connects to. -/

open Data

/-! ## The two parsers -/

/-- `inet_pton` for AF_INET: it takes four numbers with dots between them. -/
structure InetPton where
  parse : List UInt8 → Option (BitVec 32)
  dotted : ∀ text addr, parse text = some addr →
    text ≠ [] ∧ text.length ≤ 15 ∧ ∀ byte ∈ text, byte = 46 ∨ isDigit 10 byte = true

/-- `struct sockaddr_in`. The port is the number `htons` was given. -/
structure SockaddrIn where
  addr : BitVec 32
  port : BitVec 16
deriving DecidableEq, Repr

/-- `htons` takes 16 bits of a `long`. -/
def htons (port : Int) : BitVec 16 := BitVec.ofInt 16 port

/-- INET_DEFAULT_PORT -/
def inetDefaultPort : Int := 9110

variable (inetPton : InetPton)

/-- What both functions do with the path of an INET URI. `default` is the port where none is given. -/
def inetSockaddr (default : Option Int) (path : List UInt8) : Except Fault (Option SockaddrIn) :=
  let (sip, sport) := scanInet path
  if sip.length > 15 || sport.length > 5 then .error .overflow
  else
    match inetPton.parse sip with
    | none => .ok none
    | some addr =>
        if sport = [] then .ok (default.map fun port => ⟨addr, htons port⟩)
        else
          let (port, errno) := strtol sport 10
          if errno then .ok none else .ok (some ⟨addr, htons port⟩)

/-- The address `ipc_open` listens at for an INET endpoint. -/
def ipcOpenInet (path : List UInt8) : Except Fault (Option SockaddrIn) :=
  inetSockaddr inetPton (some inetDefaultPort) path

/-- The address `rteipc_connect` connects to at an INET endpoint. -/
def rteipcConnectInet (uri : List UInt8) : Except Fault (Option SockaddrIn) :=
  inetSockaddr inetPton none (scanUri uri).2

section Reads

variable {inetPton : InetPton} {path sip sport : List UInt8} {default : Option Int} {addr : BitVec 32}

/-- A port that fits its buffer is in the range of `strtol`. -/
theorem strtol_sport (fits : sport.length ≤ 5) : strtol sport 10 = (numberAt 10 sport, false) :=
  strtol_short (by omega)

theorem inetSockaddr_eq (scanned : scanInet path = (sip, sport)) (sipFits : sip.length ≤ 15) (sportFits : sport.length ≤ 5) :
    inetSockaddr inetPton default path =
      .ok ((inetPton.parse sip).bind fun addr =>
        if sport = [] then default.map fun port => ⟨addr, htons port⟩
        else some ⟨addr, htons (numberAt 10 sport)⟩) := by
  have fits : ¬(decide (sip.length > 15) || decide (sport.length > 5)) = true := by
    simp only [Bool.or_eq_true, decide_eq_true_eq]
    omega
  simp only [inetSockaddr, scanned, if_neg fits, strtol_sport sportFits]
  cases inetPton.parse sip with
  | none => rfl
  | some addr =>
      simp only [Option.bind_some]
      split <;> rfl

theorem inetSockaddr_overflow (scanned : scanInet path = (sip, sport)) (long : sip.length > 15 ∨ sport.length > 5) :
    inetSockaddr inetPton default path = .error .overflow := by
  have overflows : (decide (sip.length > 15) || decide (sport.length > 5)) = true := by
    simpa only [Bool.or_eq_true, decide_eq_true_eq] using long
  simp only [inetSockaddr, scanned, if_pos overflows]

/-- There is an address if `inet_pton` takes the text and a port is written or known. -/
theorem inetSockaddr_isSome (scanned : scanInet path = (sip, sport)) :
    (inetSockaddr inetPton default path).map Option.isSome =
      if decide (sip.length > 15) || decide (sport.length > 5) then .error .overflow
      else .ok ((inetPton.parse sip).isSome && (decide (sport ≠ []) || default.isSome)) := by
  by_cases long : sip.length > 15 ∨ sport.length > 5
  · have overflows : (decide (sip.length > 15) || decide (sport.length > 5)) = true := by
      simpa only [Bool.or_eq_true, decide_eq_true_eq] using long
    rw [inetSockaddr_overflow scanned long, if_pos overflows]
    rfl
  · have fits : ¬(decide (sip.length > 15) || decide (sport.length > 5)) = true := by
      simpa only [Bool.or_eq_true, decide_eq_true_eq] using long
    rw [inetSockaddr_eq scanned (by omega) (by omega), if_neg fits]
    cases inetPton.parse sip with
    | none => rfl
    | some addr => by_cases empty : sport = [] <;> simp [empty, Except.map]

theorem ipcAddress_inet {files : Files} {outcome : IpcOutcome} (scanned : scanInet path = (sip, sport))
    (pton : outcome.inetPton = (inetPton.parse sip).isSome) :
    (ipcAddress files outcome .inet path).map Option.isSome = (ipcOpenInet inetPton path).map Option.isSome := by
  rw [ipcOpenInet, inetSockaddr_isSome scanned, Option.isSome_some, Bool.or_true, Bool.and_true, ← pton]
  simp only [ipcAddress, if_true, scanned]
  split
  · rfl
  · cases outcome.inetPton <;> rfl

/-- `rteipc_connect` gets as far as the lock exactly with an address to connect to. -/
theorem connectReaches_inet {ReadCb ErrCb Arg : Type} {outcome : ConnectOutcome ReadCb ErrCb Arg} {uri : List UInt8}
    (inet : (scanUri uri).1 = ascii "inet") (scanned : scanInet (scanUri uri).2 = (sip, sport))
    (bev : outcome.bev = true) (ctx : outcome.ctx.isSome = true)
    (pton : outcome.inetPton = (inetPton.parse sip).isSome) :
    connectReaches outcome uri = (rteipcConnectInet inetPton uri).map Option.isSome := by
  have allocated : outcome.ctx.isNone = false := by
    rw [Option.isNone_eq_false_iff]
    exact ctx
  have short : ¬(ascii "inet").length > 15 := by decide
  rw [rteipcConnectInet, inetSockaddr_isSome scanned, Option.isSome_none, Bool.or_false, ← pton]
  simp only [connectReaches, inet, scanned, if_neg short, bev, allocated, ne_eq, not_true_eq_false, decide_false,
    Bool.and_false, Bool.not_true, Bool.or_self, Bool.false_eq_true, if_false, if_true]

/-! ## Ports -/

theorem dotted_plain {byte : UInt8} (dotted : byte = 46 ∨ isDigit 10 byte = true) : byte ≠ 58 ∧ byte ≠ 10 := by
  obtain rfl | digit := dotted
  · decide
  · exact ⟨isDigit_ne digit (by decide), isDigit_ne digit (by decide)⟩

theorem scanInet_valid (valid : inetPton.parse sip = some addr) :
    scanInet (sip ++ 58 :: sport) = (sip, sport.takeWhile (· ≠ 58)) := by
  obtain ⟨given, -, dotted⟩ := inetPton.dotted sip addr valid
  have noColon : 58 ∉ sip := fun member => (dotted_plain (dotted 58 member)).1 rfl
  simp only [scanInet, takeWhile_stop noColon, dropWhile_stop noColon, if_neg given, List.drop_succ_cons, List.drop_zero]

/-- `inet://`, an address and a port -/
def inetUri (sip sport : List UInt8) : List UInt8 := ascii "inet" ++ ascii "://" ++ (sip ++ 58 :: sport)

theorem scanUri_inetUri (valid : inetPton.parse sip = some addr) (short : sport.length ≤ 5) :
    (scanUri (inetUri sip sport)).2 = sip ++ 58 :: sport.takeWhile (· ≠ 10) := by
  obtain ⟨-, fits, dotted⟩ := inetPton.dotted sip addr valid
  have plain : ∀ byte ∈ sip, decide (byte ≠ 10) = true :=
    fun byte member => decide_eq_true (dotted_plain (dotted byte member)).2
  have whole : (sip ++ 58 :: sport).length ≤ 99 := by
    rw [List.length_append, List.length_cons]
    omega
  rw [inetUri, scanUri_scheme (by decide) (by decide), List.take_of_length_le whole,
    List.takeWhile_append_of_pos plain]
  simp

theorem ipcOpenInet_valid (valid : inetPton.parse sip = some addr) (short : sport.length ≤ 5) :
    ipcOpenInet inetPton (sip ++ 58 :: sport) =
      .ok (some ⟨addr, htons (if sport.takeWhile (· ≠ 58) = [] then inetDefaultPort
        else numberAt 10 (sport.takeWhile (· ≠ 58)))⟩) := by
  obtain ⟨-, fits, -⟩ := inetPton.dotted sip addr valid
  have shorter : (sport.takeWhile (· ≠ 58)).length ≤ 5 := (List.takeWhile_prefix _).length_le.trans short
  rw [ipcOpenInet, inetSockaddr_eq (scanInet_valid valid) fits shorter, valid, Option.bind_some]
  split <;> rfl

theorem rteipcConnectInet_valid (valid : inetPton.parse sip = some addr) (short : sport.length ≤ 5)
    (oneLine : 10 ∉ sport) :
    rteipcConnectInet inetPton (inetUri sip sport) =
      .ok (if sport.takeWhile (· ≠ 58) = [] then none
        else some ⟨addr, htons (numberAt 10 (sport.takeWhile (· ≠ 58)))⟩) := by
  obtain ⟨-, fits, -⟩ := inetPton.dotted sip addr valid
  have shorter : (sport.takeWhile (· ≠ 58)).length ≤ 5 := (List.takeWhile_prefix _).length_le.trans short
  have path : (scanUri (inetUri sip sport)).2 = sip ++ 58 :: sport := by
    rw [scanUri_inetUri valid short, takeWhile_absent oneLine]
  rw [rteipcConnectInet, path, inetSockaddr_eq (scanInet_valid valid) fits shorter, valid, Option.bind_some]
  rfl

/-- A port text that is the decimal number of a port. -/
def IsPort (sport : List UInt8) (port : BitVec 16) : Prop :=
  (∀ byte ∈ sport, isDigit 10 byte = true) ∧ readNumber 10 sport = port.toNat

/-- Both functions reject the address, or both use the port that is written. -/
def PortExact (inetPton : InetPton) (addr : BitVec 32) (sip sport : List UInt8) : Prop :=
  ipcOpenInet inetPton (sip ++ 58 :: sport) = .ok none ∧ rteipcConnectInet inetPton (inetUri sip sport) = .ok none ∨
    ∃ port, IsPort sport port ∧ ipcOpenInet inetPton (sip ++ 58 :: sport) = .ok (some ⟨addr, port⟩) ∧
      rteipcConnectInet inetPton (inetUri sip sport) = .ok (some ⟨addr, port⟩)

/-- Nothing is rejected, so the port is exact only where it is written as one. -/
theorem inet_port_iff (valid : inetPton.parse sip = some addr) (given : sport ≠ []) (short : sport.length ≤ 5) :
    PortExact inetPton addr sip sport ↔
      (∀ byte ∈ sport, isDigit 10 byte = true) ∧ readNumber 10 sport ≤ 65535 := by
  constructor
  · rintro (⟨refused, -⟩ | ⟨port, ⟨digits, number⟩, -⟩)
    · rw [ipcOpenInet_valid valid short] at refused
      nomatch refused
    · refine ⟨digits, ?_⟩
      have wide := port.isLt
      omega
  · rintro ⟨digits, small⟩
    have noColon : 58 ∉ sport := fun member => isDigit_ne (digits 58 member) (by decide) rfl
    have oneLine : 10 ∉ sport := fun member => isDigit_ne (digits 10 member) (by decide) rfl
    have number : numberAt 10 sport = readNumber 10 sport := by
      cases sport with
      | nil => exact (given rfl).elim
      | cons byte rest => exact numberAt_digits (digits byte List.mem_cons_self)
    have port : htons (numberAt 10 sport) = BitVec.ofNat 16 (readNumber 10 sport) := by
      rw [htons, number, BitVec.ofInt_natCast]
    refine .inr ⟨BitVec.ofNat 16 (readNumber 10 sport), ⟨digits, ?_⟩, ?_, ?_⟩
    · rw [BitVec.toNat_ofNat]
      omega
    · rw [ipcOpenInet_valid valid short, takeWhile_absent noColon, if_neg given, port]
    · rw [rteipcConnectInet_valid valid short oneLine, takeWhile_absent noColon, if_neg given, port]

end Reads

/-- What `inet_pton` makes of the address of the host itself. -/
def loopbackPton : InetPton where
  parse text := if text = ascii "127.0.0.1" then some 0x7f000001 else none
  dotted text addr valid := by
    split at valid
    next same =>
      subst same
      decide +kernel
    next => nomatch valid

theorem inet_port_iff_default : PortExact loopbackPton 0x7f000001 (ascii "127.0.0.1") (ascii "9110") :=
  (inet_port_iff rfl (by decide) (by decide)).mpr (by decide +kernel)

/-- The port 99999 is taken for 34463. -/
theorem inet_port_wraps : ¬ ∀ (inetPton : InetPton) (addr : BitVec 32) (sip sport : List UInt8),
    inetPton.parse sip = some addr → sport ≠ [] → sport.length ≤ 5 → PortExact inetPton addr sip sport := by
  intro exactly
  obtain ⟨refused, -⟩ | ⟨port, ⟨-, number⟩, -⟩ :=
    exactly loopbackPton 0x7f000001 (ascii "127.0.0.1") (ascii "99999") rfl (by decide) (by decide)
  · exact absurd (congrArg Except.toOption refused) (by decide)
  · have wide := port.isLt
    have value : readNumber 10 (ascii "99999") = 99999 := by decide
    omega

end Rteipc
