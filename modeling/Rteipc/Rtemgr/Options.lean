import Mathlib.Data.List.Forall2
import Rteipc.Data.Scan
import Rteipc.Rtemgr.Parser

namespace Rteipc

/-! The option strings of `rtemgr.c`, in memory that is not cleared. -/

open Data

/-- A `char *`: NULL, or what an uninitialised field happens to hold, or an
allocation of `size` bytes with the text that was copied to it. -/
inductive TextPtr where
  | null
  | wild (address : Nat)
  | copied (size : Nat) (text : List UInt8)
deriving DecidableEq, Repr

/-- A `struct argument` in memory. -/
structure ArgCell where
  key : TextPtr
  val : TextPtr
deriving DecidableEq, Repr

/-- `strcpy` of a text to an allocation. -/
structure TextCopy where
  size : Nat
  text : List UInt8
deriving DecidableEq, Repr

/-- The allocations of `make_arg`, and the addresses its new argument holds before they are set; 0 is NULL. -/
structure ArgMemory where
  arg : Bool
  key : Bool
  val : Bool
  freshKey : Nat
  freshVal : Nat
deriving DecidableEq, Repr

def TextPtr.fresh (address : Nat) : TextPtr := if address = 0 then .null else .wild address

def derefText : TextPtr → Except Fault (List UInt8)
  | .null => .error .nullDereference
  | .wild _ => .error .useAfterFree
  | .copied _ text => .ok text

/-- `free` -/
def freeField : TextPtr → Except Fault Unit
  | .wild _ => .error .useAfterFree
  | _ => .ok ()

def removeArg (arg : ArgCell) : Except Fault Unit := do
  freeField arg.key
  freeField arg.val

/-- `list_pop` takes the last one. -/
def removeArgs : List ArgCell → Except Fault Unit
  | [] => .ok ()
  | arg :: rest => do
      removeArg arg
      removeArgs rest

def removeArgList (olist : List ArgCell) : Except Fault Unit := removeArgs olist.reverse

/-- One field of the argument: an empty text leaves it as it is, and the
allocation for any other has no room for the terminator. -/
def copyText (malloc : Bool) (field : TextPtr) (text : List UInt8) : Option (TextPtr × List TextCopy) :=
  if text = [] then some (field, [])
  else if malloc then some (.copied text.length text, [⟨text.length, text⟩])
  else none

/-- NULL is treated as an empty text. Also returned is what was copied. -/
def makeArg (memory : ArgMemory) (key val : Option (List UInt8)) : Except Fault (Option ArgCell × List TextCopy) :=
  if !memory.arg then .ok (none, [])
  else
    match copyText memory.key (.fresh memory.freshKey) (key.getD []) with
    | none => do
        removeArg ⟨.null, .fresh memory.freshVal⟩
        .ok (none, [])
    | some (key, copies) =>
        match copyText memory.val (.fresh memory.freshVal) (val.getD []) with
        | none => do
            removeArg ⟨key, .null⟩
            .ok (none, copies)
        | some (val, more) => .ok (some ⟨key, val⟩, copies ++ more)

/-- Whether an argument of the list has the key. -/
def keyTaken (arg : ArgCell) : List ArgCell → Except Fault Bool
  | [] => .ok false
  | tmp :: rest => do
      let lh ← derefText tmp.key
      let rh ← derefText arg.key
      if strmatch lh rh then .ok true else keyTaken arg rest

/-- What `parse_opts` returns, the list after it, and the texts it has copied. -/
structure ParsedOpts where
  ret : Int
  olist : List ArgCell
  copies : List TextCopy
deriving DecidableEq, Repr

/-- The label `fail` -/
def parseFail (olist : List ArgCell) (copies : List TextCopy) : Except Fault ParsedOpts := do
  removeArgList olist
  .ok ⟨-1, [], copies⟩

/-- `strchr(key, '=') + 1` -/
def valueOf (item : List UInt8) : Option (List UInt8) :=
  match item.dropWhile (· ≠ 61) with
  | [] => none
  | _ :: val => some val

/-- Each round takes an item off the string, so the fuel is never used up. -/
def parseLoop (memory : Nat → ArgMemory) :
    Nat → List UInt8 → List ArgCell → List TextCopy → Except Fault ParsedOpts
  | 0, _, olist, copies => .ok ⟨0, olist, copies⟩
  | fuel + 1, opts, olist, copies =>
      if opts = [] then .ok ⟨0, olist, copies⟩
      else do
        let item := opts.takeWhile (· ≠ 44)
        let next := (opts.dropWhile (· ≠ 44)).tail
        let (made, more) ← makeArg (memory olist.length) (some (item.takeWhile (· ≠ 61))) (valueOf item)
        match made with
        | none => parseFail olist (copies ++ more)
        | some o =>
            if ← keyTaken o olist then do
              removeArg o
              parseFail olist (copies ++ more)
            else parseLoop memory fuel next (olist ++ [o]) (copies ++ more)

/-- The string may be NULL. Memory is numbered by the arguments on the list. -/
def parseOpts (memory : Nat → ArgMemory) (opts : Option (List UInt8)) (olist : List ArgCell) : Except Fault ParsedOpts :=
  parseLoop memory (opts.getD []).length (opts.getD []) olist []

/-! ## Items -/

/-- The argument an item stands for. -/
def itemArgument (item : List UInt8) : Argument where
  key := item.takeWhile (· ≠ 61)
  val := (valueOf item).filter (· ≠ [])

/-- An item has no comma in it, and a key. -/
structure IsItem (item : List UInt8) : Prop where
  noComma : 44 ∉ item
  key : (itemArgument item).key ≠ []

/-- The argument in memory is the one that is meant. -/
structure ArgCell.Holds (cell : ArgCell) (arg : Argument) : Prop where
  key : ∃ size, cell.key = .copied size arg.key
  unset : arg.val = none → cell.val = .null
  val : ∀ val, arg.val = some val → ∃ size, cell.val = .copied size val

/-- With distinct keys the list holds the arguments, and with a key that repeats nothing. -/
structure ParsedAs (args : List Argument) (parsed : ParsedOpts) : Prop where
  distinct : (args.map Argument.key).Nodup → parsed.ret = 0 ∧ List.Forall₂ ArgCell.Holds parsed.olist args
  repeated : ¬(args.map Argument.key).Nodup → parsed.ret = -1 ∧ parsed.olist = []

/-- The text and its terminator. -/
def TextCopy.Fits (copy : TextCopy) : Prop := copy.text.length + 1 ≤ copy.size

instance (copy : TextCopy) : Decidable copy.Fits := inferInstanceAs (Decidable (_ ≤ _))

/-- All is as claimed: what is returned, the list, and the room for each text. -/
def ParsesExactly (items : List (List UInt8)) (result : Except Fault ParsedOpts) : Prop :=
  ∃ parsed, result = .ok parsed ∧ ParsedAs (items.map itemArgument) parsed ∧ ∀ copy ∈ parsed.copies, copy.Fits

structure ArgMemory.Plenty (memory : ArgMemory) : Prop where
  arg : memory.arg = true
  key : memory.key = true
  val : memory.val = true

/-- Up to the first key that repeats, the fresh field is NULL for each item without a value. -/
def NullWhereUnset (memory : Nat → ArgMemory) : Nat → List (List UInt8) → List (List UInt8) → Prop
  | _, _, [] => True
  | index, keys, item :: rest =>
      ((itemArgument item).val = none → (memory index).freshVal = 0) ∧
        ((itemArgument item).key ∉ keys → NullWhereUnset memory (index + 1) (keys ++ [(itemArgument item).key]) rest)

/-! ## One item -/

section Item

variable {memory : ArgMemory} {item : List UInt8} {rest : List (List UInt8)} {olist : List ArgCell}
  {args : List Argument} {cell : ArgCell}

/-- What `make_arg` leaves in the argument of an item. -/
def cellOf (memory : ArgMemory) (item : List UInt8) : ArgCell where
  key := .copied (itemArgument item).key.length (itemArgument item).key
  val :=
    match (itemArgument item).val with
    | none => .fresh memory.freshVal
    | some val => .copied val.length val

def copiesOf (item : List UInt8) : List TextCopy :=
  ⟨(itemArgument item).key.length, (itemArgument item).key⟩ ::
    ((itemArgument item).val.toList.map fun val => ⟨val.length, val⟩)

theorem itemArgument_val :
    (itemArgument item).val = if (valueOf item).getD [] = [] then none else some ((valueOf item).getD []) := by
  cases value : valueOf item with
  | none => simp [itemArgument, value]
  | some val => simp [itemArgument, value, Option.filter_some]

theorem makeArg_item (plenty : memory.Plenty) (isItem : IsItem item) :
    makeArg memory (some (item.takeWhile (· ≠ 61))) (valueOf item) = .ok (some (cellOf memory item), copiesOf item) := by
  have given : item.takeWhile (· ≠ 61) ≠ [] := isItem.key
  have key : copyText memory.key (.fresh memory.freshKey) (item.takeWhile (· ≠ 61)) =
      some ((cellOf memory item).key, [⟨(itemArgument item).key.length, (itemArgument item).key⟩]) := by
    rw [copyText, if_neg given, if_pos plenty.key]
    rfl
  have val : copyText memory.val (.fresh memory.freshVal) ((valueOf item).getD []) =
      some ((cellOf memory item).val, (itemArgument item).val.toList.map fun val => ⟨val.length, val⟩) := by
    simp only [copyText, cellOf, itemArgument_val, plenty.val, if_true]
    split
    next => rfl
    next => rfl
  simp only [makeArg, plenty.arg, Bool.not_true, Bool.false_eq_true, if_false, Option.getD_some, key, val]
  rfl

theorem fresh_null_iff {address : Nat} : TextPtr.fresh address = .null ↔ address = 0 := by
  unfold TextPtr.fresh
  split
  next zero => exact iff_of_true rfl zero
  next given => exact iff_of_false nofun given

theorem cellOf_holds_iff :
    (cellOf memory item).Holds (itemArgument item) ↔ ((itemArgument item).val = none → memory.freshVal = 0) := by
  constructor
  · intro holds unset
    have null := holds.unset unset
    simp only [cellOf, unset] at null
    exact fresh_null_iff.mp null
  · intro zero
    refine ⟨⟨_, rfl⟩, fun unset => ?_, fun val set => ?_⟩
    · simp only [cellOf, unset]
      exact fresh_null_iff.mpr (zero unset)
    · simp only [cellOf, set]
      exact ⟨_, rfl⟩

theorem ArgCell.Holds.removed {arg : Argument} (holds : cell.Holds arg) : removeArg cell = .ok () := by
  obtain ⟨size, key⟩ := holds.key
  have val : freeField cell.val = .ok () := by
    cases set : arg.val with
    | none =>
        rw [holds.unset set]
        rfl
    | some val =>
        obtain ⟨room, copied⟩ := holds.val val set
        rw [copied]
        rfl
  rw [removeArg, key, val]
  rfl

theorem cellOf_removed_iff :
    removeArg (cellOf memory item) = .ok () ↔ ((itemArgument item).val = none → memory.freshVal = 0) := by
  constructor
  · intro removed unset
    by_contra given
    have wild : (cellOf memory item).val = .wild memory.freshVal := by
      simp only [cellOf, unset, TextPtr.fresh, if_neg given]
    rw [removeArg, wild] at removed
    nomatch removed
  · exact fun zero => (cellOf_holds_iff.mpr zero).removed

theorem removeArgs_ok_iff : removeArgs olist = .ok () ↔ ∀ cell ∈ olist, removeArg cell = .ok () := by
  induction olist with
  | nil => exact iff_of_true rfl nofun
  | cons cell rest ih =>
      rw [List.forall_mem_cons, ← ih, removeArgs]
      constructor
      · intro removed
        obtain ⟨_, first, following⟩ := bind_ok removed
        exact ⟨first, following⟩
      · intro ⟨first, following⟩
        rw [first, ok_bind, following]

theorem removeArgList_ok_iff : removeArgList olist = .ok () ↔ ∀ cell ∈ olist, removeArg cell = .ok () := by
  rw [removeArgList, removeArgs_ok_iff]
  simp only [List.mem_reverse]

theorem keyTaken_eq (holds : List.Forall₂ ArgCell.Holds olist args) {size : Nat} {key : List UInt8}
    (keyed : cell.key = .copied size key) : keyTaken cell olist = .ok (decide (key ∈ args.map Argument.key)) := by
  induction holds with
  | nil => rfl
  | @cons first arg olist args here _ ih =>
      obtain ⟨room, firstKey⟩ := here.key
      simp only [keyTaken, firstKey, keyed, derefText, ok_bind, ih, List.map_cons, List.mem_cons, strmatch_iff]
      split
      next same => simp [same]
      next differ => simp [Ne.symm differ]

/-! ### On the string -/

theorem intercalate_item (isItem : IsItem item) :
    (List.intercalate [44] (item :: rest)).takeWhile (· ≠ 44) = item ∧
      ((List.intercalate [44] (item :: rest)).dropWhile (· ≠ 44)).tail = List.intercalate [44] rest := by
  cases rest with
  | nil =>
      rw [List.intercalate_singleton]
      exact ⟨takeWhile_absent isItem.noComma, by rw [dropWhile_absent isItem.noComma]; rfl⟩
  | cons second rest =>
      rw [List.intercalate_cons_cons, List.append_assoc, List.singleton_append]
      exact ⟨takeWhile_stop isItem.noComma _, by rw [dropWhile_stop isItem.noComma]; rfl⟩

theorem IsItem.given (isItem : IsItem item) : item ≠ [] := by
  intro empty
  have key := isItem.key
  rw [empty] at key
  exact key rfl

theorem intercalate_shorter (isItem : IsItem item) :
    (List.intercalate [44] rest).length < (List.intercalate [44] (item :: rest)).length := by
  have given := List.length_pos_iff.mpr isItem.given
  cases rest with
  | nil =>
      rw [List.intercalate_singleton]
      exact given
  | cons second rest =>
      rw [List.intercalate_cons_cons, List.length_append, List.length_append]
      omega

theorem holds_removed (holds : List.Forall₂ ArgCell.Holds olist args) :
    ∀ cell ∈ olist, removeArg cell = .ok () := by
  induction holds with
  | nil => nofun
  | cons here _ ih => exact List.forall_mem_cons.mpr ⟨here.removed, ih⟩

end Item

/-! ## The loop -/

section Loop

variable {memory : Nat → ArgMemory} {item opts : List UInt8} {items rest : List (List UInt8)} {olist : List ArgCell}
  {args : List Argument} {copies : List TextCopy} {parsed : ParsedOpts} {fuel : Nat}

/-- One round either finds the key on the list and undoes all, or adds the argument to it. -/
theorem parseLoop_item (plenty : ∀ index, (memory index).Plenty) (isItem : IsItem item)
    (holds : List.Forall₂ ArgCell.Holds olist args) :
    parseLoop memory (fuel + 1) (List.intercalate [44] (item :: rest)) olist copies =
      if (itemArgument item).key ∈ args.map Argument.key then do
        removeArg (cellOf (memory olist.length) item)
        parseFail olist (copies ++ copiesOf item)
      else
        parseLoop memory fuel (List.intercalate [44] rest) (olist ++ [cellOf (memory olist.length) item])
          (copies ++ copiesOf item) := by
  obtain ⟨first, following⟩ := @intercalate_item item rest isItem
  have given : List.intercalate [44] (item :: rest) ≠ [] := by
    intro empty
    rw [empty] at first
    exact isItem.given first.symm
  have taken := @keyTaken_eq olist args (cellOf (memory olist.length) item) holds _ _ rfl
  rw [parseLoop, if_neg given]
  simp only [first, following, makeArg_item (plenty _) isItem, taken, ok_bind, decide_eq_true_eq]

theorem parseFail_ok (failed : parseFail olist copies = .ok parsed) :
    parsed = ⟨-1, [], copies⟩ ∧ ∀ cell ∈ olist, removeArg cell = .ok () := by
  obtain ⟨_, removed, done⟩ := bind_ok failed
  cases done
  exact ⟨rfl, removeArgList_ok_iff.mp removed⟩

/-- What was copied stays copied, and the list is only added to or removed. -/
theorem parseLoop_ok (returned : parseLoop memory fuel opts olist copies = .ok parsed) :
    copies <+: parsed.copies ∧
      (parsed.ret = 0 ∧ olist <+: parsed.olist ∨ parsed.ret = -1 ∧ ∀ cell ∈ olist, removeArg cell = .ok ()) := by
  induction fuel generalizing opts olist copies with
  | zero =>
      cases returned
      exact ⟨List.prefix_rfl, .inl ⟨rfl, List.prefix_rfl⟩⟩
  | succ fuel ih =>
      rw [parseLoop] at returned
      split at returned
      next =>
        cases returned
        exact ⟨List.prefix_rfl, .inl ⟨rfl, List.prefix_rfl⟩⟩
      next =>
        obtain ⟨⟨made, more⟩, -, returned⟩ := bind_ok returned
        have failed : parseFail olist (copies ++ more) = .ok parsed → copies <+: parsed.copies ∧
            (parsed.ret = 0 ∧ olist <+: parsed.olist ∨ parsed.ret = -1 ∧ ∀ cell ∈ olist, removeArg cell = .ok ()) := by
          intro failed
          obtain ⟨rfl, removed⟩ := parseFail_ok failed
          exact ⟨List.prefix_append _ _, .inr ⟨rfl, removed⟩⟩
        simp only at returned
        split at returned
        next => exact failed returned
        next o =>
          obtain ⟨taken, -, returned⟩ := bind_ok returned
          split at returned
          next =>
            obtain ⟨_, -, returned⟩ := bind_ok returned
            exact failed returned
          next =>
            obtain ⟨stored, ⟨zero, longer⟩ | ⟨minus, removed⟩⟩ := ih returned
            · exact ⟨(List.prefix_append _ _).trans stored, .inl ⟨zero, (List.prefix_append _ _).trans longer⟩⟩
            · exact ⟨(List.prefix_append _ _).trans stored,
                .inr ⟨minus, fun cell member => removed cell (List.mem_append_left _ member)⟩⟩

/-- Where the field of an argument made was not NULL, nothing that comes later makes it right. -/
theorem parsedAs_clean {cell : ArgCell} {arg : Argument} {more : List Argument}
    (returned : parseLoop memory fuel opts (olist ++ [cell]) copies = .ok parsed) (same : olist.length = args.length)
    (parsedAs : ParsedAs (args ++ arg :: more) parsed) : cell.Holds arg ∨ removeArg cell = .ok () := by
  obtain ⟨-, ⟨zero, longer⟩ | ⟨minus, removed⟩⟩ := parseLoop_ok returned
  · by_cases distinct : ((args ++ arg :: more).map Argument.key).Nodup
    · left
      obtain ⟨after, whole⟩ := longer
      have holds := (parsedAs.distinct distinct).2
      rw [← whole, List.append_assoc] at holds
      have behind := List.forall₂_drop_append _ _ _ holds
      rw [← same, List.drop_left] at behind
      exact (List.forall₂_cons.mp behind).1
    · exact nomatch zero.symm.trans (parsedAs.repeated distinct).1
  · exact .inr (removed cell (List.mem_append_right _ (List.mem_singleton_self cell)))

theorem key_repeats {arg : Argument} {more : List Argument} (taken : arg.key ∈ args.map Argument.key) :
    ¬((args ++ arg :: more).map Argument.key).Nodup := by
  rw [List.map_append, List.nodup_append]
  intro ⟨_, _, apart⟩
  exact apart arg.key taken arg.key List.mem_cons_self rfl

/-- Where the key repeats, the arguments are removed, which only fails for a field that was not NULL. -/
theorem parseLoop_repeats (holds : List.Forall₂ ArgCell.Holds olist args)
    (taken : (itemArgument item).key ∈ args.map Argument.key) :
    (∃ parsed, (do
          removeArg (cellOf (memory olist.length) item)
          parseFail olist copies) = Except.ok parsed ∧
        ParsedAs (args ++ itemArgument item :: rest.map itemArgument) parsed) ↔
      ((itemArgument item).val = none → (memory olist.length).freshVal = 0) := by
  rw [← cellOf_removed_iff]
  constructor
  · intro ⟨parsed, returned, _⟩
    obtain ⟨_, removed, -⟩ := bind_ok returned
    exact removed
  · intro removed
    have cleared := removeArgList_ok_iff.mpr (holds_removed holds)
    refine ⟨⟨-1, [], copies⟩, ?_, fun nodup => (key_repeats taken nodup).elim, fun _ => ⟨rfl, rfl⟩⟩
    rw [removed, ok_bind, parseFail, cleared, ok_bind]

theorem parseLoop_exact_iff (plenty : ∀ index, (memory index).Plenty) (isItems : ∀ item ∈ items, IsItem item)
    (enough : (List.intercalate [44] items).length ≤ fuel) (holds : List.Forall₂ ArgCell.Holds olist args)
    (distinct : (args.map Argument.key).Nodup) :
    (∃ parsed, parseLoop memory fuel (List.intercalate [44] items) olist copies = .ok parsed ∧
        ParsedAs (args ++ items.map itemArgument) parsed) ↔
      NullWhereUnset memory olist.length (args.map Argument.key) items := by
  induction items generalizing fuel olist args copies with
  | nil =>
      refine iff_of_true ⟨⟨0, olist, copies⟩, ?_, ?_⟩ trivial
      · cases fuel with
        | zero => rfl
        | succ fuel => rfl
      · rw [List.map_nil, List.append_nil]
        exact ⟨fun _ => ⟨rfl, holds⟩, fun repeated => (repeated distinct).elim⟩
  | cons item rest ih =>
      have isItem := isItems item List.mem_cons_self
      have shorter := @intercalate_shorter item rest isItem
      obtain ⟨fuel, rfl⟩ : ∃ less, fuel = less + 1 := Nat.exists_eq_succ_of_ne_zero (by omega)
      rw [parseLoop_item plenty isItem holds, NullWhereUnset, List.map_cons]
      split
      next taken =>
        rw [parseLoop_repeats holds taken]
        exact ⟨fun clean => ⟨clean, fun free => (free taken).elim⟩, fun clean => clean.1⟩
      next free =>
        by_cases clean : (itemArgument item).val = none → (memory olist.length).freshVal = 0
        · have longer : List.Forall₂ ArgCell.Holds (olist ++ [cellOf (memory olist.length) item])
              (args ++ [itemArgument item]) := List.rel_append holds (.cons (cellOf_holds_iff.mpr clean) .nil)
          have still : ((args ++ [itemArgument item]).map Argument.key).Nodup := by
            rw [List.map_append, List.map_singleton, ← List.concat_eq_append]
            exact List.Nodup.concat free distinct
          have room : (List.intercalate [44] rest).length ≤ fuel := by omega
          have later := @ih _ _ (copies ++ copiesOf item) _
            (fun other member => isItems other (List.mem_cons_of_mem _ member)) room longer still
          rw [List.append_assoc, List.singleton_append, List.length_append, List.length_singleton, List.map_append,
            List.map_singleton] at later
          rw [later]
          exact ⟨fun clear => ⟨clean, fun _ => clear⟩, fun both => both.2 free⟩
        · refine iff_of_false (fun ⟨parsed, returned, parsedAs⟩ => clean ?_) fun both => clean both.1
          rcases parsedAs_clean returned holds.length_eq parsedAs with held | removed
          · exact cellOf_holds_iff.mp held
          · exact cellOf_removed_iff.mp removed

theorem parseOpts_overruns (plenty : ∀ index, (memory index).Plenty) (isItem : IsItem item)
    (returned : parseOpts memory (some (List.intercalate [44] (item :: rest))) [] = .ok parsed) :
    ∃ copy ∈ parsed.copies, ¬copy.Fits := by
  have shorter := @intercalate_shorter item rest isItem
  obtain ⟨fuel, length⟩ : ∃ fuel, (List.intercalate [44] (item :: rest)).length = fuel + 1 :=
    Nat.exists_eq_succ_of_ne_zero (by omega)
  rw [parseOpts, Option.getD_some, length, parseLoop_item plenty isItem .nil, List.map_nil,
    if_neg List.not_mem_nil] at returned
  obtain ⟨stored, -⟩ := parseLoop_ok returned
  exact ⟨_, stored.subset List.mem_cons_self, Nat.not_succ_le_self _⟩

/-- Nothing but the empty string is parsed exactly, since no text has room for
its terminator. But for the room, the strings are parsed as claimed exactly when
each value that is left unset was NULL before. -/
theorem parse_opts_exact_iff (plenty : ∀ index, (memory index).Plenty) (isItems : ∀ item ∈ items, IsItem item) :
    (ParsesExactly items (parseOpts memory (some (List.intercalate [44] items)) []) ↔ items = []) ∧
      ((∃ parsed, parseOpts memory (some (List.intercalate [44] items)) [] = .ok parsed ∧
          ParsedAs (items.map itemArgument) parsed) ↔ NullWhereUnset memory 0 [] items) := by
  constructor
  · constructor
    · intro ⟨parsed, returned, _, fits⟩
      cases items with
      | nil => rfl
      | cons item rest =>
          obtain ⟨copy, member, overruns⟩ := parseOpts_overruns plenty (isItems item List.mem_cons_self) returned
          exact (overruns (fits copy member)).elim
    · intro none
      subst none
      exact ⟨⟨0, [], []⟩, rfl, ⟨fun _ => ⟨rfl, .nil⟩, fun repeated => (repeated .nil).elim⟩, nofun⟩
  · exact parseLoop_exact_iff plenty isItems (Nat.le_refl _) .nil .nil

end Loop

def ArgMemory.cleared : ArgMemory := ⟨true, true, true, 0, 0⟩

theorem parse_opts_exact_iff_two :
    let items := [ascii "speed=9600", ascii "in"]
    (ParsesExactly items (parseOpts (fun _ => .cleared) (some (List.intercalate [44] items)) []) ↔ items = []) ∧
      ((∃ parsed, parseOpts (fun _ => .cleared) (some (List.intercalate [44] items)) [] = .ok parsed ∧
          ParsedAs (items.map itemArgument) parsed) ↔ NullWhereUnset (fun _ => .cleared) 0 [] items) := by
  refine parse_opts_exact_iff (fun _ => ⟨rfl, rfl, rfl⟩) fun item member => ?_
  have each : ∀ item ∈ [ascii "speed=9600", ascii "in"], 44 ∉ item ∧ (itemArgument item).key ≠ [] := by decide
  exact ⟨(each item member).1, (each item member).2⟩

/-- Of `a=b` two texts are copied to one byte each. -/
theorem option_overruns : ¬ ∀ items memory, (∀ index : Nat, (memory index).Plenty) → (∀ item ∈ items, IsItem item) →
    ParsesExactly items (parseOpts memory (some (List.intercalate [44] items)) []) := by
  intro exact_
  have isItems : ∀ item ∈ [ascii "a=b"], IsItem item := by
    intro item member
    obtain rfl := List.mem_singleton.mp member
    exact ⟨by decide, by decide⟩
  obtain ⟨parsed, returned, -, fits⟩ := exact_ [ascii "a=b"] (fun _ => .cleared) (fun _ => ⟨rfl, rfl, rfl⟩) isItems
  have copied : (parseOpts (fun _ => .cleared) (some (List.intercalate [44] [ascii "a=b"])) []).toOption.map
      ParsedOpts.copies = some [⟨1, ascii "a"⟩, ⟨1, ascii "b"⟩] := by decide +kernel
  rw [returned] at copied
  obtain copies : parsed.copies = _ := Option.some.inj copied
  rw [copies] at fits
  exact absurd (fits _ List.mem_cons_self) (by decide +kernel)

/-- A fresh argument whose field was not NULL keeps it, so the key alone gets a value. -/
example : parseOpts (fun _ => ⟨true, true, true, 0, 7⟩) (some (ascii "in")) [] =
    .ok ⟨0, [⟨.copied 2 (ascii "in"), .wild 7⟩], [⟨2, ascii "in"⟩]⟩ := by decide +kernel

end Rteipc
