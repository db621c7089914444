import Rteipc.Rtemgr.Options
import Rteipc.Rtemgrd.Ctlport

namespace Rteipc

/-! The program `rtemgr.c`: it makes a packet of its command line, and prints
what the reply says. -/

open Data

/-! ## Buses -/

def busNameTbl : List (EpType × List UInt8) :=
  [(.ipc, ascii "ipc"), (.inet, ascii "inet"), (.tty, ascii "tty"), (.gpio, ascii "gpio"), (.spi, ascii "spi"),
    (.i2c, ascii "i2c"), (.sysfs, ascii "sysfs")]

def busToStr (bus : BitVec 32) : List UInt8 :=
  match busNameTbl.find? fun entry => entry.1.number = bus with
  | some entry => entry.2
  | none => ascii "UNKNOWN"

def strToBus (str : List UInt8) : BitVec 32 :=
  match busNameTbl.find? fun entry => strmatch entry.2 str with
  | some entry => entry.1.number
  | none => -1

/-! ## The arguments in memory -/

/-- Whether it is NULL is asked first. -/
def givenText : TextPtr → Except Fault (Option (List UInt8))
  | .null => .ok none
  | .wild _ => .error .useAfterFree
  | .copied _ text => .ok (some text)

def ArgCell.argument (cell : ArgCell) : Except Fault Argument := do
  let key ← derefText cell.key
  let val ← givenText cell.val
  .ok ⟨key, val⟩

/-- One more argument than the subcommand takes; NULL is printed too. -/
def refuseArg (arg : ArgCell) : Except Fault (Option RtemgrData) := do
  let _ ← givenText arg.val
  .ok none

/-- The loop over `args` of the parsers that take names, at most `limit` of them.
Only where there is more than one the packet gets more interfaces. -/
def nameArgs (realloc : Nat → Bool) (limit : Option Nat) :
    Nat → List ArgCell → RtemgrData → Except Fault (Option RtemgrData)
  | _, [], d => .ok (some d)
  | num, arg :: args, d =>
      if limit.any (· ≤ num) then refuseArg arg
      else
        match if num ≥ d.interfaces.length then rtemgrDataAllocInterface realloc d else some d with
        | none => .ok none
        | some d => do
            let val ← derefText arg.val
            nameArgs realloc limit (num + 1) args
              { d with interfaces := d.interfaces.modify num fun intf => { intf with name := strncpy 16 val } }

/-! ## The parsers -/

/-- `int (*parser)(rtemgr_data *, list_t *, list_t *)`; nothing where it does not return 0. -/
abbrev SubcmdParser := (Nat → Bool) → RtemgrData → List ArgCell → List ArgCell → Except Fault (Option RtemgrData)

def openCells (busType : BitVec 32) : OpenVars → List ArgCell → Except Fault (Option OpenVars)
  | vars, [] => .ok (some vars)
  | vars, cell :: olist => do
      let arg ← cell.argument
      match ← openOption busType vars arg with
      | none => .ok none
      | some vars => openCells busType vars olist

/-- `open_parser` on the lists in memory. -/
def openArgs : SubcmdParser := fun _ d args olist =>
  match d.interfaces with
  | [] => .error .absentInterface
  | intf :: rest =>
      if intf.name.text = [] then .ok none
      else if intf.busType.toInt < 0 then .ok none
      else
        match args with
        | [] => .ok none
        | arg :: more => do
            let path ← derefText arg.val
            match more with
            | second :: _ => refuseArg second
            | [] =>
                match ← openCells intf.busType (.start intf.managed) olist with
                | none => .ok none
                | some vars =>
                    let intf ← encodePath { intf with path := strncpy 128 path, managed := vars.managed } vars
                    .ok (some { d with interfaces := intf :: rest })

def closeParser : SubcmdParser := fun realloc d args _ =>
  if args = [] then .ok none else nameArgs realloc none 0 args d

def routeParser : SubcmdParser := fun realloc d args _ => do
  match ← nameArgs realloc (some 2) 0 args d with
  | none => .ok none
  | some d => .ok (if args.length = 2 then some d else none)

/-- The parsers that take one name. -/
def nameParser : SubcmdParser := fun realloc d args _ => do
  match ← nameArgs realloc (some 1) 0 args d with
  | none => .ok none
  | some d => .ok (if args.length = 1 then some d else none)

def forgetParser : SubcmdParser := nameParser

def catParser : SubcmdParser := nameParser

def xferOptions : RtemgrData → List ArgCell → Except Fault (Option RtemgrData)
  | d, [] => .ok (some d)
  | d, cell :: olist => do
      let arg ← cell.argument
      if strmatch arg.key (ascii "rsize") then
        match arg.val with
        | none => .ok none
        | some val => xferOptions { d with cmd.val.extra.rsize := (strtoul val 0).setWidth 16 } olist
      else .ok none

/-- The bus may be given, though the name is enough for the daemon. -/
def xferParser : SubcmdParser := fun realloc d args olist => do
  match ← nameParser realloc d args olist with
  | none => .ok none
  | some d =>
      match ← xferOptions d olist with
      | none => .ok none
      | some d =>
          let i2c := d.interfaces.head?.any fun intf => intf.busType = EpType.i2c.number
          .ok (if d.cmd.val.v = none ∨ (i2c ∧ d.cmd.val.extra.addr = 0) then none else some d)

/-! ## Subcommands -/

/-- `options` are the characters of the long options. -/
structure RtemgrAction where
  name : List UInt8
  action : BitVec 32
  optfmt : List UInt8
  options : List UInt8
  parser : Option SubcmdParser

/-- A subcommand without a parser takes any arguments. -/
def RtemgrAction.parse (entry : RtemgrAction) : SubcmdParser := fun realloc d args olist =>
  match entry.parser with
  | none => .ok (some d)
  | some parser => parser realloc d args olist

def rtemgrActions : List RtemgrAction :=
  [ ⟨[], 0, ascii "h", ascii "h", none⟩,
    ⟨ascii "list", 1, [], [], none⟩,
    ⟨ascii "open", 2, ascii "n:t:o:", ascii "not", some openArgs⟩,
    ⟨ascii "close", 3, [], [], some closeParser⟩,
    ⟨ascii "route", 4, [], [], some routeParser⟩,
    ⟨ascii "forget", 5, [], [], some forgetParser⟩,
    ⟨ascii "xfer", 6, ascii "a:o:rk:w:", ascii "akortw", some xferParser⟩,
    ⟨ascii "cat", 7, [], [], some catParser⟩ ]

/-- Nothing for the last element of the array. -/
def getRtemgrAction (cmd : List UInt8) : Option RtemgrAction := rtemgrActions.find? fun entry => strmatch entry.name cmd

/-- An option as `getopt_long` finds it on the command line. -/
inductive CliOption where
  | help
  | name (optarg : List UInt8)
  | bus (optarg : List UInt8)
  | options (optarg : List UInt8)
  | address (optarg : List UInt8)
  | read
  | attr (optarg : List UInt8)
  | value (optarg : List UInt8)
deriving DecidableEq, Repr

def CliOption.val : CliOption → UInt8
  | .help => 104
  | .name _ => 110
  | .bus _ => 116
  | .options _ => 111
  | .address _ => 97
  | .read => 114
  | .attr _ => 107
  | .value _ => 119

/-- For any other option `getopt_long` returns `'?'`. -/
def RtemgrAction.takes (entry : RtemgrAction) (option : CliOption) : Bool :=
  entry.optfmt.contains option.val || entry.options.contains option.val

/-- The local variables of `subcmd_opt_check`, and what it fills in of the packet. -/
structure SubcmdVars where
  intf : RtemgrIntf
  extra : Extra
  subopts : CharArray 256
  attr : Option (List UInt8)
  value : Option (List UInt8)
deriving DecidableEq, Repr

def SubcmdVars.start (intf : RtemgrIntf) : SubcmdVars := ⟨intf, ⟨0, 0⟩, .zeroed 256, none, none⟩

def SubcmdVars.option (strdup : Bool) (vars : SubcmdVars) : CliOption → SubcmdVars
  | .help => vars
  | .name optarg => { vars with intf := { vars.intf with name := strncpy 16 optarg } }
  | .bus optarg => { vars with intf := { vars.intf with busType := strToBus optarg } }
  | .options optarg => { vars with subopts := strncpy 256 optarg }
  | .address optarg => { vars with extra := { vars.extra with addr := (strtoul optarg 16).setWidth 16 } }
  | .read => { vars with extra := { vars.extra with rsize := 1 } }
  | .attr optarg => { vars with attr := if strdup then some optarg else none }
  | .value optarg => { vars with value := if strdup then some optarg else none }

/-- Outcomes of the allocations, of `strdup` by the options before it. -/
structure CliMemory where
  data : Bool
  realloc : Nat → Bool
  strdup : Nat → Bool
  operands : Nat → ArgMemory
  options : Nat → ArgMemory

def subcmdOptions (entry : RtemgrAction) (strdup : Nat → Bool) : Nat → SubcmdVars → List CliOption → Option SubcmdVars
  | _, vars, [] => some vars
  | before, vars, option :: rest =>
      if entry.takes option then subcmdOptions entry strdup (before + 1) (vars.option (strdup before) option) rest
      else none

/-- What `-k` and `-w` give, the two of them in `buf[256]`. -/
def SubcmdVars.text (strdup : Bool) (vars : SubcmdVars) : Option (List UInt8) :=
  match vars.attr, vars.value with
  | some attr, some value => if strdup then some ((attr ++ 61 :: value).take 255) else none
  | some attr, none => some attr
  | none, value => value

def SubcmdVars.packet (vars : SubcmdVars) (action : BitVec 32) (v : Option (List UInt8)) : RtemgrData where
  cmd := ⟨action, 0, ⟨v, BitVec.ofNat 64 (v.getD []).length, vars.extra⟩⟩
  interfaces := [vars.intf]

/-- The rest of the command line; nothing where memory for one of them is missing. -/
def operandArgs (memory : Nat → ArgMemory) : Nat → List (List UInt8) → Except Fault (Option (List ArgCell))
  | _, [] => .ok (some [])
  | before, operand :: rest => do
      let (made, _) ← makeArg (memory before) none (some operand)
      match made with
      | none => .ok none
      | some arg =>
          match ← operandArgs memory (before + 1) rest with
          | none => .ok none
          | some args => .ok (some (arg :: args))

/-- Nothing where the program exits. The 256 bytes of `subopts` are read as a text. -/
def subcmdOptCheck (memory : CliMemory) (entry : RtemgrAction) (options : List CliOption) (operands : List (List UInt8)) :
    Except Fault (Option RtemgrData) :=
  if !memory.data then .ok none
  else if !memory.realloc 1 then .ok none
  else
    match subcmdOptions entry memory.strdup 0 (.start freshIntf) options with
    | none => .ok none
    | some vars => do
        let d := vars.packet entry.action (vars.text (memory.strdup options.length))
        match ← operandArgs memory.operands 0 operands with
        | none => .ok none
        | some args =>
            if 0 ∉ vars.subopts.bytes then .error .overflow
            else do
              let parsed ← parseOpts memory.options (some vars.subopts.text) []
              if parsed.ret ≠ 0 then .ok none
              else
                match ← entry.parse memory.realloc d args parsed.olist with
                | none => .ok none
                | some d => do
                    removeArgList parsed.olist
                    removeArgList args
                    .ok (some d)

/-- The request that `main` sends, from the subcommand on. -/
def rtemgrRequest (emitLib : EmitLib) (memory : CliMemory) (subcmd : List UInt8) (options : List CliOption)
    (operands : List (List UInt8)) : Except Fault (Option (List UInt8)) :=
  match getRtemgrAction subcmd with
  | none => .ok none
  | some entry => do
      match ← subcmdOptCheck memory entry options operands with
      | none => .ok none
      | some d => .ok (emitInto emitLib d 4096)

/-! ## The reply -/

/-- `%-16.16s` and its like. -/
def column (width : Nat) (text : List UInt8) : List UInt8 := text.take width ++ List.replicate (width - text.length) 32

def tableLine (name bus path route : List UInt8) : List UInt8 :=
  column 16 name ++ 32 :: (column 6 bus ++ 32 :: (column 36 path ++ 32 :: (column 16 route ++ [10])))

def tableHead : List UInt8 := tableLine (ascii "NAME") (ascii "BUS") (ascii "PATH") (ascii "ROUTE")

def RtemgrIntf.line (intf : RtemgrIntf) : List UInt8 :=
  tableLine intf.name.text (busToStr intf.busType) intf.path.text
    (if intf.managed ≠ 0 then ascii "**" else if intf.partner.text ≠ [] then intf.partner.text else ascii "--")

def quoted (text : List UInt8) : List UInt8 := 39 :: (text ++ [39])

/-- `%.*s`: a negative precision is none. -/
def precisely (precision : BitVec 32) (text : List UInt8) : List UInt8 :=
  if precision.toInt < 0 then cString text else cString (text.take precision.toNat)

/-- What is printed; the control interface has id 0. -/
def replyText (d : RtemgrData) : Except Fault (List UInt8) :=
  match d.interfaces with
  | [] => .ok []
  | intf :: rest =>
      let said (success failure : String) := ascii (if d.cmd.error = 0 then success else failure)
      match d.cmd.action.toNat with
      | 1 => .ok (tableHead ++ ((intf :: rest).filter fun intf => intf.id ≠ 0).flatMap RtemgrIntf.line)
      | 2 => .ok (said "Successfully created " "Failed to create " ++ quoted intf.name.text ++ ascii ".\n")
      | 3 => .ok (said "Successfully closed" "Failed to close" ++ ascii ".\n")
      | 4 =>
          match rest with
          | [second] =>
              .ok (said "Successfully bound " "Failed to bind " ++ quoted intf.name.text ++ ascii " and " ++
                quoted second.name.text ++ ascii ".\n")
          | _ => .ok (ascii "Unknown error occured.\n")
      | 5 => .ok (said "Successfully unbound " "Failed to unbind " ++ quoted intf.name.text ++ ascii ".\n")
      | 6 =>
          .ok (said "Data successfully transfered to " "Failed to transfer data to " ++ quoted intf.name.text ++
            ascii ".\n")
      | 7 =>
          if d.cmd.error = 0 then
            match d.cmd.val.v with
            | none => .error .nullDereference
            | some v => .ok (precisely (d.cmd.val.s.setWidth 32) v ++ ascii "\n")
          else .ok (ascii "Failed to read data from " ++ quoted intf.name.text ++ ascii ".\n")
      | _ => .ok []

/-- Nothing where the client goes on waiting for a reply. -/
def replyCallback (lib : PacketLib) (memory : PacketMemory) (data : List UInt8) : Except Fault (Option (List UInt8)) := do
  match ← receivePacket lib memory data with
  | none => .ok none
  | some d => (replyText d).map some

/-! ## The names on a command line -/

def RtemgrIntf.named (intf : RtemgrIntf) (name : List UInt8) : RtemgrIntf := { intf with name := strncpy 16 name }

/-- The names go to the interfaces that are there, and to new ones. -/
def giveNames : List RtemgrIntf → List (List UInt8) → List RtemgrIntf
  | intfs, [] => intfs
  | [], name :: names => freshIntf.named name :: giveNames [] names
  | intf :: intfs, name :: names => intf.named name :: giveNames intfs names

/-- What a subcommand that takes names asks for. -/
def namesPacket (action : BitVec 32) (names : List (List UInt8)) : RtemgrData where
  cmd := { rtemgrDataAlloc.cmd with action }
  interfaces := names.map freshIntf.named

section Names

variable {realloc : Nat → Bool} {limit : Option Nat} {num : Nat} {args olist : List ArgCell} {d next : RtemgrData}
  {intf : RtemgrIntf} {operands vals : List (List UInt8)} {memory : CliMemory} {entry : RtemgrAction}
  {options : List CliOption}

theorem giveNames_nil (names : List (List UInt8)) : giveNames [] names = names.map freshIntf.named := by
  induction names with
  | nil => rfl
  | cons name names ih => rw [giveNames, ih, List.map_cons]

theorem giveNames_one (name : List UInt8) (names : List (List UInt8)) :
    giveNames [intf] (name :: names) = intf.named name :: names.map freshIntf.named := by
  rw [giveNames, giveNames_nil]

theorem refuseArg_none {arg : ArgCell} : refuseArg arg ≠ .ok (some next) := by
  intro refused
  obtain ⟨val, -, given⟩ := bind_ok refused
  cases given

/-- Where the names outnumber the interfaces there is one more. -/
theorem interface_room {grown : RtemgrData}
    (room : (if num ≥ d.interfaces.length then rtemgrDataAllocInterface realloc d else some d) = some grown) :
    grown.cmd = d.cmd ∧ ∃ old later, grown.interfaces = d.interfaces.take num ++ old :: later ∧
      ∀ name names, giveNames (d.interfaces.drop num) (name :: names) = old.named name :: giveNames later names := by
  split at room
  next beyond =>
    unfold rtemgrDataAllocInterface at room
    split at room
    next =>
      cases room
      have all : d.interfaces.take num = d.interfaces := List.take_of_length_le beyond
      have none : d.interfaces.drop num = [] := List.drop_eq_nil_of_le beyond
      refine ⟨rfl, freshIntf, [], ?_, fun name names => ?_⟩
      · rw [all]
      · rw [none]
        rfl
    next => cases room
  next within =>
    cases room
    have below : num < d.interfaces.length := Nat.lt_of_not_le within
    have here := List.drop_eq_getElem_cons below
    refine ⟨rfl, d.interfaces[num], d.interfaces.drop (num + 1), ?_, fun name names => ?_⟩
    · rw [← here, List.take_append_drop]
    · rw [here]
      rfl

/-- Each argument is a text, and names the next interface. -/
theorem nameArgs_ok (returned : nameArgs realloc limit num args d = .ok (some next)) (inside : num ≤ d.interfaces.length) :
    ∃ vals, List.Forall₂ (fun (arg : ArgCell) val => derefText arg.val = .ok val) args vals ∧ next.cmd = d.cmd ∧
      next.interfaces = d.interfaces.take num ++ giveNames (d.interfaces.drop num) vals ∧
        ∀ most, limit = some most → args = [] ∨ num + args.length ≤ most := by
  induction args generalizing num d with
  | nil =>
      cases returned
      refine ⟨[], .nil, rfl, ?_, fun _ _ => .inl rfl⟩
      rw [giveNames, List.take_append_drop]
  | cons arg args ih =>
      unfold nameArgs at returned
      split at returned
      next => exact (refuseArg_none returned).elim
      next below =>
        split at returned
        next => cases returned
        next grown room =>
          obtain ⟨sameCmd, old, later, interfaces, gives⟩ := interface_room room
          obtain ⟨val, read, returned⟩ := bind_ok returned
          have width : (d.interfaces.take num).length = num := List.length_take_of_le inside
          have changed : (d.interfaces.take num ++ old :: later).modify num (fun intf => intf.named val) =
              (d.interfaces.take num ++ [old.named val]) ++ later := by
            rw [List.modify_eq_take_drop, List.take_left' width, List.drop_left' width, List.append_assoc]
            rfl
          have before : (d.interfaces.take num ++ [old.named val]).length = num + 1 := by
            rw [List.length_append, width, List.length_singleton]
          rw [interfaces] at returned
          change nameArgs realloc limit (num + 1) args
            { grown with interfaces := (d.interfaces.take num ++ old :: later).modify num fun intf => intf.named val } =
              .ok (some next) at returned
          rw [changed] at returned
          obtain ⟨vals, reads, cmd, named, most⟩ := ih returned (by
            rw [List.length_append, before]
            exact Nat.le_add_right _ _)
          refine ⟨val :: vals, .cons read reads, cmd.trans sameCmd, ?_, fun limit isLimit => .inr ?_⟩
          · rw [named, List.take_left' before, List.drop_left' before, gives, List.append_assoc]
            rfl
          · rw [isLimit, Option.any_some, decide_eq_true_eq] at below
            rw [List.length_cons]
            rcases most limit isLimit with rfl | fits
            · rw [List.length_nil]
              omega
            · omega

/-! ### From the operands -/

theorem makeArg_operand {argMemory : ArgMemory} {operand : List UInt8} {arg : ArgCell} {copies : List TextCopy}
    (made : makeArg argMemory none (some operand) = .ok (some arg, copies)) {val : List UInt8}
    (read : derefText arg.val = .ok val) : val = operand := by
  have fresh : ∀ address, derefText (.fresh address) ≠ .ok val := by
    intro address isText
    unfold TextPtr.fresh at isText
    split at isText
    next => cases isText
    next => cases isText
  unfold makeArg at made
  split at made
  next => cases made
  next =>
    split at made
    next =>
      obtain ⟨_, -, made⟩ := bind_ok made
      cases made
    next key _ keyCopied =>
      split at made
      next =>
        obtain ⟨_, -, made⟩ := bind_ok made
        cases made
      next field _ valCopied =>
        cases made
        unfold copyText at valCopied
        split at valCopied
        next =>
          cases valCopied
          exact (fresh _ read).elim
        next =>
          split at valCopied
          next =>
            cases valCopied
            exact (Except.ok.inj read).symm
          next => cases valCopied

theorem operandArgs_ok {operandMemory : Nat → ArgMemory} {before : Nat}
    (returned : operandArgs operandMemory before operands = .ok (some args)) :
    List.Forall₂ (fun operand (arg : ArgCell) => ∀ val, derefText arg.val = .ok val → val = operand) operands args := by
  induction operands generalizing before args with
  | nil =>
      cases returned
      exact .nil
  | cons operand operands ih =>
      obtain ⟨⟨made, copies⟩, make, returned⟩ := bind_ok returned
      cases made with
      | none => cases returned
      | some arg =>
          obtain ⟨following, later, returned⟩ := bind_ok returned
          cases following with
          | none => cases returned
          | some more =>
              cases returned
              exact .cons (fun val read => makeArg_operand make read) (ih later)

theorem read_operands (operandsRead : List.Forall₂ (fun operand (arg : ArgCell) => ∀ val, derefText arg.val = .ok val →
      val = operand) operands args)
    (reads : List.Forall₂ (fun (arg : ArgCell) val => derefText arg.val = .ok val) args vals) : vals = operands := by
  induction operandsRead generalizing vals with
  | nil =>
      cases reads
      rfl
  | cons here _ ih =>
      cases reads with
      | cons read rest => rw [here _ read, ih rest]

/-! ### What is asked for -/

theorem nameArgs_one (returned : nameArgs realloc limit 0 args d = .ok (some next)) (one : d.interfaces = [intf])
    (operandsRead : List.Forall₂ (fun operand (arg : ArgCell) => ∀ val, derefText arg.val = .ok val → val = operand)
      operands args) :
    next.cmd = d.cmd ∧ next.interfaces = giveNames [intf] operands ∧ args.length = operands.length := by
  obtain ⟨vals, reads, cmd, interfaces, -⟩ := nameArgs_ok returned (Nat.zero_le _)
  rw [read_operands operandsRead reads, one] at interfaces
  exact ⟨cmd, interfaces, operandsRead.length_eq.symm⟩

/-- What an accepted command line has gone through. -/
theorem subcmdOptCheck_ok (accepted : subcmdOptCheck memory entry options operands = .ok (some d)) :
    ∃ vars args olist, subcmdOptions entry memory.strdup 0 (.start freshIntf) options = some vars ∧
      List.Forall₂ (fun operand (arg : ArgCell) => ∀ val, derefText arg.val = .ok val → val = operand) operands args ∧
        entry.parse memory.realloc (vars.packet entry.action (vars.text (memory.strdup options.length))) args olist =
          .ok (some d) := by
  unfold subcmdOptCheck at accepted
  split at accepted
  next => cases accepted
  split at accepted
  next => cases accepted
  split at accepted
  next => cases accepted
  next vars taken =>
    obtain ⟨made, operandsMade, accepted⟩ := bind_ok accepted
    cases made with
    | none => cases accepted
    | some args =>
        dsimp only at accepted
        split at accepted
        next => cases accepted
        obtain ⟨parsed, -, accepted⟩ := bind_ok accepted
        split at accepted
        next => cases accepted
        obtain ⟨checked, parses, accepted⟩ := bind_ok accepted
        cases checked with
        | none => cases accepted
        | some packet =>
            obtain ⟨_, -, accepted⟩ := bind_ok accepted
            obtain ⟨_, -, accepted⟩ := bind_ok accepted
            cases accepted
            exact ⟨vars, args, parsed.olist, taken, operandArgs_ok operandsMade, parses⟩

theorem subcmdOptions_none {vars start : SubcmdVars} {strdup : Nat → Bool} {before : Nat}
    (none : ∀ option, entry.takes option = false) (taken : subcmdOptions entry strdup before start options = some vars) :
    options = [] ∧ vars = start := by
  cases options with
  | nil =>
      cases taken
      exact ⟨rfl, rfl⟩
  | cons option rest =>
      rw [subcmdOptions, none option] at taken
      cases taken

theorem giveNames_fresh (given : operands ≠ []) : giveNames [freshIntf] operands = operands.map freshIntf.named := by
  obtain ⟨name, names, rfl⟩ := List.exists_cons_of_ne_nil given
  exact giveNames_one name names

theorem nameParser_ok (parsed : nameParser realloc d args olist = .ok (some next)) :
    nameArgs realloc (some 1) 0 args d = .ok (some next) ∧ args.length = 1 := by
  obtain ⟨named, gave, parsed⟩ := bind_ok parsed
  cases named with
  | none => cases parsed
  | some named =>
      dsimp only at parsed
      split at parsed
      next one =>
        cases parsed
        exact ⟨gave, one⟩
      next => cases parsed

theorem routeParser_ok (parsed : routeParser realloc d args olist = .ok (some next)) :
    nameArgs realloc (some 2) 0 args d = .ok (some next) ∧ args.length = 2 := by
  obtain ⟨named, gave, parsed⟩ := bind_ok parsed
  cases named with
  | none => cases parsed
  | some named =>
      dsimp only at parsed
      split at parsed
      next two =>
        cases parsed
        exact ⟨gave, two⟩
      next => cases parsed

theorem closeParser_ok (parsed : closeParser realloc d args olist = .ok (some next)) :
    nameArgs realloc none 0 args d = .ok (some next) ∧ args ≠ [] := by
  unfold closeParser at parsed
  split at parsed
  next => cases parsed
  next given => exact ⟨parsed, given⟩

def RtemgrAction.Plain (entry : RtemgrAction) (parser : SubcmdParser) : Prop :=
  entry.parser = some parser ∧ ∀ option, entry.takes option = false

theorem plain_entries : ∀ entry ∈ rtemgrActions,
    (entry.action = 3 → entry.Plain closeParser) ∧ (entry.action = 4 → entry.Plain routeParser) ∧
      (entry.action = 5 ∨ entry.action = 7 → entry.Plain nameParser) := by
  simp [rtemgrActions, RtemgrAction.Plain, RtemgrAction.takes, forgetParser, catParser]

theorem RtemgrAction.Plain.parsed {parser : SubcmdParser} (plain : entry.Plain parser)
    (parsed : entry.parse realloc d args olist = .ok (some next)) : parser realloc d args olist = .ok (some next) := by
  rw [RtemgrAction.parse, plain.1] at parsed
  exact parsed

/-- How many names a subcommand takes that takes names only. -/
def namesCount (action : BitVec 32) (count : Nat) : Prop :=
  if action = 3 then count ≠ 0 else if action = 4 then count = 2 else count = 1

/-- The subcommands that take names only ask for their action on these names. -/
theorem accepted_names (accepted : subcmdOptCheck memory entry options operands = .ok (some d))
    (member : entry ∈ rtemgrActions) (names : entry.action = 3 ∨ entry.action = 4 ∨ entry.action = 5 ∨ entry.action = 7) :
    d = namesPacket entry.action operands ∧ namesCount entry.action operands.length := by
  obtain ⟨vars, args, olist, taken, operandsRead, parsed⟩ := subcmdOptCheck_ok accepted
  obtain ⟨close, route, one⟩ := plain_entries entry member
  have count := operandsRead.length_eq
  -- one loop over the operands, whatever their number may be
  have gives : ∀ limit, (∀ option, entry.takes option = false) → args.length ≠ 0 →
      nameArgs memory.realloc limit 0 args (vars.packet entry.action (vars.text (memory.strdup options.length))) =
        .ok (some d) → d = namesPacket entry.action operands := by
    intro limit none given gave
    obtain ⟨-, rfl⟩ := subcmdOptions_none none taken
    obtain ⟨cmd, interfaces, -⟩ := nameArgs_one gave rfl operandsRead
    have some : operands ≠ [] := by
      intro empty
      rw [empty, List.length_nil] at count
      exact given count.symm
    have whole : d = ⟨d.cmd, d.interfaces⟩ := rfl
    rw [whole, cmd, interfaces]
    exact congrArg _ (giveNames_fresh some)
  unfold namesCount
  rw [count]
  obtain isClose | isRoute | isOne := names
  · obtain ⟨gave, given⟩ := closeParser_ok ((close isClose).parsed parsed)
    have some : args.length ≠ 0 := fun empty => given (List.length_eq_zero_iff.mp empty)
    rw [if_pos isClose]
    exact ⟨gives none (close isClose).2 some gave, some⟩
  · obtain ⟨gave, two⟩ := routeParser_ok ((route isRoute).parsed parsed)
    rw [if_neg (by rw [isRoute]; decide), if_pos isRoute]
    exact ⟨gives (some 2) (route isRoute).2 (by omega) gave, two⟩
  · obtain ⟨gave, single⟩ := nameParser_ok ((one isOne).parsed parsed)
    have other : entry.action ≠ 3 ∧ entry.action ≠ 4 := by
      obtain forget | cat := isOne
      · rw [forget]
        decide
      · rw [cat]
        decide
    rw [if_neg other.1, if_neg other.2]
    exact ⟨gives (some 1) (one isOne).2 (by omega) gave, single⟩

/-! ### Any subcommand -/

/-- What every request of the client has. -/
structure Asks (action : BitVec 32) (d : RtemgrData) : Prop where
  action : d.cmd.action = action
  size : d.cmd.val.s = BitVec.ofNat 64 (d.cmd.val.v.getD []).length
  given : d.interfaces ≠ []

theorem Asks.kept {action : BitVec 32} (asks : Asks action d) (sameAction : next.cmd.action = d.cmd.action)
    (v : next.cmd.val.v = d.cmd.val.v) (s : next.cmd.val.s = d.cmd.val.s) (given : next.interfaces ≠ []) : Asks action next where
  action := sameAction.trans asks.action
  size := by rw [s, v, asks.size]
  given := given

theorem openArgs_ok (parsed : openArgs realloc d args olist = .ok (some next)) :
    next.cmd = d.cmd ∧ next.interfaces ≠ [] := by
  unfold openArgs at parsed
  split at parsed
  next => cases parsed
  next first rest _ =>
    split at parsed
    next => cases parsed
    split at parsed
    next => cases parsed
    split at parsed
    next => cases parsed
    next arg more =>
      obtain ⟨path, -, parsed⟩ := bind_ok parsed
      cases more with
      | cons second others => exact (refuseArg_none parsed).elim
      | nil =>
          obtain ⟨taken, -, parsed⟩ := bind_ok parsed
          cases taken with
          | none => cases parsed
          | some vars =>
              obtain ⟨encoded, -, parsed⟩ := bind_ok parsed
              cases parsed
              exact ⟨rfl, List.cons_ne_nil _ _⟩

theorem xferOptions_ok (parsed : xferOptions d olist = .ok (some next)) :
    next.cmd.action = d.cmd.action ∧ next.cmd.val.v = d.cmd.val.v ∧ next.cmd.val.s = d.cmd.val.s ∧
      next.interfaces = d.interfaces := by
  induction olist generalizing d with
  | nil =>
      cases parsed
      exact ⟨rfl, rfl, rfl, rfl⟩
  | cons cell olist ih =>
      obtain ⟨arg, -, parsed⟩ := bind_ok parsed
      split at parsed
      next =>
        split at parsed
        next => cases parsed
        next =>
          obtain ⟨action, v, s, interfaces⟩ := ih parsed
          exact ⟨action, v, s, interfaces⟩
      next => cases parsed

theorem xferParser_ok (parsed : xferParser realloc d args olist = .ok (some next)) :
    ∃ named, nameArgs realloc (some 1) 0 args d = .ok (some named) ∧ args.length = 1 ∧
      xferOptions named olist = .ok (some next) ∧ next.cmd.val.v ≠ none := by
  obtain ⟨named, gave, parsed⟩ := bind_ok parsed
  cases named with
  | none => cases parsed
  | some named =>
      obtain ⟨given, single⟩ := nameParser_ok gave
      obtain ⟨read, options, parsed⟩ := bind_ok parsed
      cases read with
      | none => cases parsed
      | some read =>
          dsimp only at parsed
          split at parsed
          next => cases parsed
          next complete =>
            cases parsed
            exact ⟨named, given, single, options, fun missing => complete (.inl missing)⟩

theorem parser_entries : ∀ entry ∈ rtemgrActions, entry.parser = none ∨ entry.parser = some openArgs ∨
    entry.parser = some closeParser ∨ entry.parser = some routeParser ∨ entry.parser = some nameParser ∨
      entry.parser = some xferParser := by
  simp [rtemgrActions, forgetParser, catParser]

theorem accepted_asks (accepted : subcmdOptCheck memory entry options operands = .ok (some d))
    (member : entry ∈ rtemgrActions) : Asks entry.action d := by
  obtain ⟨vars, args, olist, -, operandsRead, parsed⟩ := subcmdOptCheck_ok accepted
  have start : Asks entry.action (vars.packet entry.action (vars.text (memory.strdup options.length))) :=
    ⟨rfl, rfl, List.cons_ne_nil _ _⟩
  have named : ∀ limit next, nameArgs memory.realloc limit 0 args
      (vars.packet entry.action (vars.text (memory.strdup options.length))) = .ok (some next) → Asks entry.action next := by
    intro limit next gave
    obtain ⟨cmd, interfaces, -⟩ := nameArgs_one gave rfl operandsRead
    have given : next.interfaces ≠ [] := by
      rw [interfaces]
      cases operands with
      | nil => exact List.cons_ne_nil _ _
      | cons name names => exact List.cons_ne_nil _ _
    exact start.kept (by rw [cmd]) (by rw [cmd]) (by rw [cmd]) given
  unfold RtemgrAction.parse at parsed
  obtain isParser | isParser | isParser | isParser | isParser | isParser := parser_entries entry member
  all_goals simp only [isParser] at parsed
  · cases parsed
    exact start
  · obtain ⟨cmd, given⟩ := openArgs_ok parsed
    exact start.kept (by rw [cmd]) (by rw [cmd]) (by rw [cmd]) given
  · exact named _ _ (closeParser_ok parsed).1
  · exact named _ _ (routeParser_ok parsed).1
  · exact named _ _ (nameParser_ok parsed).1
  · obtain ⟨middle, gave, -, options, -⟩ := xferParser_ok parsed
    obtain ⟨action, v, s, interfaces⟩ := xferOptions_ok options
    have asks := named _ _ gave
    exact asks.kept action v s (by rw [interfaces]; exact asks.given)

end Names

end Rteipc
