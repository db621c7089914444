import Mathlib.Data.List.Basic
import Mathlib.Tactic.Set

namespace Rteipc

/-! The descriptor table of `table.c`: a bitmap of the ids in use, a cursor
where the search for a free id starts, and the list of stored entries. -/

def descBitWidth : Nat := 64

/-- A stored `void *`; `none` is NULL. -/
structure DtblEntry (α : Type) where
  id : Int
  value : Option α
deriving DecidableEq, Repr

/-- The tables of the program have two and four words, so an id always fits
the `int` it is returned in. -/
structure Dtbl (α : Type) where
  desc : Option (List (BitVec 64))
  nextEntry : Nat
  maxEntries : Nat
  entryList : List (DtblEntry α)
deriving DecidableEq, Repr

def dtblInitializer (α : Type) (n : Nat) : Dtbl α where
  desc := none
  nextEntry := 0
  maxEntries := n / descBitWidth
  entryList := []

/-- Outcomes of the two allocations in `dtbl_set`. -/
structure DtblAlloc where
  desc : Bool
  entry : Bool
deriving DecidableEq, Repr

def DtblAlloc.succeeds : DtblAlloc := ⟨true, true⟩

def setDescId (desc : List (BitVec 64)) (id : Nat) : List (BitVec 64) :=
  desc.modify (id / descBitWidth) (· ||| (1#64 <<< (id % descBitWidth)))

def clearDescId (desc : List (BitVec 64)) (id : Nat) : List (BitVec 64) :=
  desc.modify (id / descBitWidth) (· &&& ~~~(1#64 <<< (id % descBitWidth)))

/-- The inner loop of `__dtbl_next_id`: `count` bits of one word from bit `i`
on, wrapping inside the word. -/
def nextBit (val : BitVec 64) (i : Nat) : Nat → Option Nat
  | 0 => none
  | count + 1 =>
      if (val >>> (i % descBitWidth)) &&& 1#64 ≠ 0#64 then nextBit val (i + 1) count
      else some (i % descBitWidth)

/-- The outer loop of `__dtbl_next_id`: `count` words from `index` on. The
start bit is kept from word to word, as in the source. -/
def nextWord (desc : List (BitVec 64)) (start index : Nat) : Nat → Int
  | 0 => -1
  | count + 1 =>
      match nextBit (desc.getD index 0#64) start descBitWidth with
      | some bit => (index * descBitWidth + bit : Nat)
      | none => nextWord desc start (index + 1) count

def dtblNextId (desc : List (BitVec 64)) (nextEntry maxEntries : Nat) : Int :=
  let start := nextEntry % descBitWidth
  let index := nextEntry / descBitWidth
  if index ≥ maxEntries then nextWord desc 0 0 maxEntries
  else nextWord desc start index (maxEntries - index)

/-- The first entry with the id, from the head of the list. -/
def dtblGet {α : Type} (table : Dtbl α) (id : Int) : Option α :=
  (table.entryList.find? fun entry => entry.id == id).bind DtblEntry.value

/-- The table's bitmap, allocated on the first call; `DESC_BIT_WIDTH *
max_entries` is the size in bytes of the allocation. -/
def dtblDesc {α : Type} (alloc : DtblAlloc) (table : Dtbl α) : Option (List (BitVec 64)) :=
  match table.desc with
  | some desc => some desc
  | none =>
      if alloc.desc then
        some (List.replicate (descBitWidth * table.maxEntries / 8) 0#64)
      else none

/-- A failing entry allocation leaves through `out` with the id already chosen. -/
def dtblSet {α : Type} (alloc : DtblAlloc) (table : Dtbl α) (val : Option α) : Dtbl α × Int :=
  match dtblDesc alloc table with
  | none => (table, -1)
  | some desc =>
      let id := dtblNextId desc table.nextEntry table.maxEntries
      if id < 0 then ({ table with desc := some desc }, id)
      else if alloc.entry then
        ({ table with
            desc := some (setDescId desc id.toNat)
            nextEntry := id.toNat + 1
            entryList := table.entryList ++ [⟨id, val⟩] }, id)
      else ({ table with desc := some desc }, id)

/-- Clears the bit only: the entry stays in the list. Ids are those `dtbl_set`
returned, so not negative and below an allocated bitmap. -/
def dtblDel {α : Type} (table : Dtbl α) (id : Int) : Dtbl α :=
  if id.toNat / descBitWidth < table.maxEntries then
    { table with desc := table.desc.map (clearDescId · id.toNat) }
  else table

/-! ## What one operation does -/

def descUsed (desc : List (BitVec 64)) (id : Nat) : Bool :=
  (desc.getD (id / descBitWidth) 0#64).getLsbD (id % descBitWidth)

private theorem mod_width_lt (id : Nat) : id % descBitWidth < 64 := Nat.mod_lt _ (by decide)

private theorem and_one_eq_zero_iff (word : BitVec 64) :
    word &&& 1#64 = 0#64 ↔ word.getLsbD 0 = false := by
  constructor
  · intro zero
    have read := congrArg (fun word => word.getLsbD 0) zero
    simpa only [BitVec.getLsbD_and, BitVec.getLsbD_one, decide_true, Bool.and_true,
      BitVec.getLsbD_zero, Nat.zero_lt_succ] using read
  · intro clear
    apply BitVec.eq_of_getLsbD_eq
    intro bit bound
    by_cases zero : bit = 0
    · subst zero
      rw [BitVec.getLsbD_and, clear, BitVec.getLsbD_zero, Bool.false_and]
    · simp [BitVec.getLsbD_and, BitVec.getLsbD_one, zero]

theorem shifted_bit_test (val : BitVec 64) (i : Nat) :
    (val >>> i) &&& 1#64 ≠ 0#64 ↔ val.getLsbD i = true := by
  rw [ne_eq, and_one_eq_zero_iff, BitVec.getLsbD_ushiftRight, Nat.add_zero, Bool.not_eq_false]

theorem nextBit_spec {val : BitVec 64} {i count bit : Nat} (found : nextBit val i count = some bit) :
    bit < descBitWidth ∧ val.getLsbD bit = false := by
  induction count generalizing i with
  | zero => cases found
  | succ count ih =>
      simp only [nextBit, shifted_bit_test] at found
      split at found
      · exact ih found
      · rename_i clear
        cases found
        exact ⟨mod_width_lt i, Bool.not_eq_true _ ▸ clear⟩

theorem nextWord_spec {desc : List (BitVec 64)} {start index count : Nat}
    (chosen : 0 ≤ nextWord desc start index count) :
    ∃ id : Nat, nextWord desc start index count = id ∧
      id / descBitWidth < index + count ∧ descUsed desc id = false := by
  induction count generalizing index with
  | zero => simp [nextWord] at chosen
  | succ count ih =>
      cases found : nextBit (desc.getD index 0#64) start descBitWidth with
      | none =>
          simp only [nextWord, found] at chosen ⊢
          obtain ⟨id, same, bound, clear⟩ := ih chosen
          exact ⟨id, same, by omega, clear⟩
      | some bit =>
          simp only [nextWord, found]
          obtain ⟨bound, clear⟩ := nextBit_spec found
          have word : (index * descBitWidth + bit) / descBitWidth = index := by
            simp only [descBitWidth] at bound ⊢
            omega
          have offset : (index * descBitWidth + bit) % descBitWidth = bit := by
            simp only [descBitWidth] at bound ⊢
            omega
          refine ⟨index * descBitWidth + bit, rfl, by omega, ?_⟩
          rw [descUsed, word, offset]
          exact clear

theorem nextWord_failed {desc : List (BitVec 64)} {start index count : Nat}
    (failed : nextWord desc start index count < 0) : nextWord desc start index count = -1 := by
  induction count generalizing index with
  | zero => rfl
  | succ count ih =>
      cases found : nextBit (desc.getD index 0#64) start descBitWidth with
      | none =>
          simp only [nextWord, found] at failed ⊢
          exact ih failed
      | some bit =>
          simp only [nextWord, found] at failed
          omega

theorem dtblNextId_spec {desc : List (BitVec 64)} {nextEntry maxEntries : Nat}
    (chosen : 0 ≤ dtblNextId desc nextEntry maxEntries) :
    ∃ id : Nat, dtblNextId desc nextEntry maxEntries = id ∧
      id / descBitWidth < maxEntries ∧ descUsed desc id = false := by
  unfold dtblNextId at chosen ⊢
  dsimp only at chosen ⊢
  split at chosen
  · rename_i wrapped
    rw [if_pos wrapped]
    obtain ⟨id, same, bound, clear⟩ := nextWord_spec chosen
    exact ⟨id, same, by omega, clear⟩
  · rename_i inside
    rw [if_neg inside]
    obtain ⟨id, same, bound, clear⟩ := nextWord_spec chosen
    exact ⟨id, same, by omega, clear⟩

theorem dtblNextId_failed {desc : List (BitVec 64)} {nextEntry maxEntries : Nat}
    (failed : dtblNextId desc nextEntry maxEntries < 0) :
    dtblNextId desc nextEntry maxEntries = -1 := by
  unfold dtblNextId at failed ⊢
  dsimp only at failed ⊢
  split at failed
  · rename_i wrapped
    rw [if_pos wrapped]
    exact nextWord_failed failed
  · rename_i inside
    rw [if_neg inside]
    exact nextWord_failed failed

theorem bit_of_id_getLsbD (id bit : Nat) (bound : bit < 64) :
    (1#64 <<< (id % descBitWidth)).getLsbD bit = decide (id % descBitWidth = bit) := by
  have width := mod_width_lt id
  simp only [BitVec.getLsbD_shiftLeft, BitVec.getLsbD_one, bound, decide_true, Bool.true_and]
  by_cases same : id % descBitWidth = bit
  · subst same
    simp
  · by_cases below : bit < id % descBitWidth
    · simp [below, same]
    · have later : bit - id % descBitWidth ≠ 0 := by omega
      simp [below, same, later]

private theorem same_id_iff (id other : Nat) :
    id = other ↔ id / descBitWidth = other / descBitWidth ∧
      id % descBitWidth = other % descBitWidth := by
  simp only [descBitWidth]
  omega

@[simp] theorem setDescId_length (desc : List (BitVec 64)) (id : Nat) :
    (setDescId desc id).length = desc.length := by
  simp [setDescId]

@[simp] theorem clearDescId_length (desc : List (BitVec 64)) (id : Nat) :
    (clearDescId desc id).length = desc.length := by
  simp [clearDescId]

theorem descUsed_setDescId {desc : List (BitVec 64)} {id : Nat}
    (room : id / descBitWidth < desc.length) (other : Nat) :
    descUsed (setDescId desc id) other = (decide (id = other) || descUsed desc other) := by
  have bound := mod_width_lt other
  unfold descUsed setDescId
  by_cases word : id / descBitWidth = other / descBitWidth
  · have same : id = other ↔ id % descBitWidth = other % descBitWidth := by
      rw [same_id_iff]
      exact and_iff_right word
    rw [word] at room ⊢
    simp only [List.getD_eq_getElem?_getD, List.getElem?_modify_eq,
      List.getElem?_eq_getElem room, Option.map_eq_map, Option.map_some, Option.getD_some,
      BitVec.getLsbD_or, bit_of_id_getLsbD _ _ bound, same]
    exact Bool.or_comm _ _
  · have different : id ≠ other := fun same => word (by rw [same])
    simp [List.getD_eq_getElem?_getD, List.getElem?_modify_ne _ _ word, different]

theorem descUsed_clearDescId {desc : List (BitVec 64)} (id other : Nat) :
    descUsed (clearDescId desc id) other = (descUsed desc other && !decide (id = other)) := by
  have bound := mod_width_lt other
  unfold descUsed clearDescId
  by_cases word : id / descBitWidth = other / descBitWidth
  · have same : id = other ↔ id % descBitWidth = other % descBitWidth := by
      rw [same_id_iff]
      exact and_iff_right word
    rw [word]
    cases entry : desc[other / descBitWidth]? with
    | none => simp [List.getD_eq_getElem?_getD, List.getElem?_modify_eq, entry]
    | some val =>
        simp only [List.getD_eq_getElem?_getD, List.getElem?_modify_eq, entry, Option.map_eq_map,
          Option.map_some, Option.getD_some, BitVec.getLsbD_and, BitVec.getLsbD_not, bound, decide_true,
          Bool.true_and, bit_of_id_getLsbD _ _ bound, same]
  · have different : id ≠ other := fun same => word (by rw [same])
    simp [List.getD_eq_getElem?_getD, List.getElem?_modify_ne _ _ word, different]

@[simp] theorem descUsed_zeroed (count id : Nat) :
    descUsed (List.replicate count 0#64) id = false := by
  unfold descUsed
  rw [List.getD_eq_getElem?_getD, List.getElem?_replicate]
  split <;> simp

/-! ## Tables with any outcome of the allocations -/

def dtblUsed {α : Type} (table : Dtbl α) (id : Nat) : Bool := table.desc.any (descUsed · id)

/-- The bitmap, once allocated, has a word for every entry. -/
def Dtbl.Room {α : Type} (table : Dtbl α) : Prop :=
  ∀ desc, table.desc = some desc → table.maxEntries ≤ desc.length

section Allocated

variable {α : Type} {alloc : DtblAlloc} {table : Dtbl α} {val : Option α} {desc : List (BitVec 64)} {id : Nat}

theorem dtblDesc_spec (room : table.Room) (allocated : dtblDesc alloc table = some desc) :
    table.maxEntries ≤ desc.length ∧ ∀ id, descUsed desc id = dtblUsed table id := by
  unfold dtblDesc at allocated
  unfold dtblUsed
  cases known : table.desc with
  | some before =>
      rw [known] at allocated
      obtain rfl := Option.some.inj allocated
      exact ⟨room before known, fun id => rfl⟩
  | none =>
      simp only [known] at allocated
      split at allocated
      next =>
        obtain rfl := Option.some.inj allocated
        refine ⟨?_, fun id => descUsed_zeroed _ id⟩
        simp only [List.length_replicate, descBitWidth]
        omega
      next => nomatch allocated

theorem dtblSet_noDesc (none : dtblDesc alloc table = none) : dtblSet alloc table val = (table, -1) := by
  rw [dtblSet, none]

theorem dtblSet_full (allocated : dtblDesc alloc table = some desc)
    (full : dtblNextId desc table.nextEntry table.maxEntries < 0) :
    dtblSet alloc table val = ({ table with desc := some desc }, -1) := by
  simp only [dtblSet, allocated, if_pos full]
  rw [dtblNextId_failed full]

theorem dtblSet_lost (allocated : dtblDesc alloc table = some desc)
    (chosen : dtblNextId desc table.nextEntry table.maxEntries = id) (noEntry : alloc.entry = false) :
    dtblSet alloc table val = ({ table with desc := some desc }, (id : Int)) := by
  have given : ¬(id : Int) < 0 := by omega
  simp only [dtblSet, allocated, chosen, if_neg given, noEntry, Bool.false_eq_true, if_false]

theorem dtblSet_stored (allocated : dtblDesc alloc table = some desc)
    (chosen : dtblNextId desc table.nextEntry table.maxEntries = id) (entry : alloc.entry = true) :
    dtblSet alloc table val =
      ({ table with
          desc := some (setDescId desc id)
          nextEntry := id + 1
          entryList := table.entryList ++ [⟨(id : Int), val⟩] }, (id : Int)) := by
  have given : ¬(id : Int) < 0 := by omega
  simp only [dtblSet, allocated, chosen, if_neg given, entry, if_true, Int.toNat_natCast]

/-- `dtbl_set` fails and only the bitmap may be new; or it returns a free id,
and stores the value and marks the id where the entry could be allocated. -/
theorem dtblSet_cases (room : table.Room) :
    (dtblSet alloc table val).1.Room ∧ (dtblSet alloc table val).1.maxEntries = table.maxEntries ∧
      ((dtblSet alloc table val).2 < 0 ∧ (dtblSet alloc table val).1.entryList = table.entryList ∧
          (∀ id, dtblUsed (dtblSet alloc table val).1 id = dtblUsed table id) ∨
        ∃ id : Nat, (dtblSet alloc table val).2 = id ∧ dtblUsed table id = false ∧
          (alloc.entry = false ∧ (dtblSet alloc table val).1.entryList = table.entryList ∧
              (∀ other, dtblUsed (dtblSet alloc table val).1 other = dtblUsed table other) ∨
            alloc.entry = true ∧ (dtblSet alloc table val).1.entryList = table.entryList ++ [⟨id, val⟩] ∧
              ∀ other, dtblUsed (dtblSet alloc table val).1 other = (decide (id = other) || dtblUsed table other))) := by
  cases allocated : dtblDesc alloc table with
  | none =>
      rw [dtblSet_noDesc allocated]
      exact ⟨room, rfl, .inl ⟨Int.negSucc_lt_zero 0, rfl, fun _ => rfl⟩⟩
  | some desc =>
      obtain ⟨words, used⟩ := dtblDesc_spec room allocated
      have newRoom : Dtbl.Room { table with desc := some desc } := by
        intro other same
        obtain rfl := Option.some.inj same
        exact words
      by_cases failed : dtblNextId desc table.nextEntry table.maxEntries < 0
      · rw [dtblSet_full allocated failed]
        exact ⟨newRoom, rfl, .inl ⟨Int.negSucc_lt_zero 0, rfl, used⟩⟩
      · obtain ⟨id, chosen, bound, clear⟩ := dtblNextId_spec (Int.not_lt.mp failed)
        cases entry : alloc.entry with
        | false =>
            rw [dtblSet_lost allocated chosen entry]
            exact ⟨newRoom, rfl, .inr ⟨id, rfl, (used id).symm.trans clear, .inl ⟨rfl, rfl, used⟩⟩⟩
        | true =>
            rw [dtblSet_stored allocated chosen entry]
            refine ⟨?_, rfl, .inr ⟨id, rfl, (used id).symm.trans clear, .inr ⟨rfl, rfl, fun other => ?_⟩⟩⟩
            · intro other same
              obtain rfl := Option.some.inj same
              exact Nat.le_trans words (Nat.le_of_eq (setDescId_length desc id).symm)
            · rw [← used other]
              exact descUsed_setDescId (Nat.lt_of_lt_of_le bound words) other

theorem dtblDel_room (room : table.Room) (id : Int) : (dtblDel table id).Room := by
  unfold dtblDel
  split
  next =>
    intro desc cleared
    obtain ⟨before, known, rfl⟩ := Option.map_eq_some_iff.mp cleared
    rw [clearDescId_length]
    exact room before known
  next => exact room

theorem dtblDel_entryList (id : Int) : (dtblDel table id).entryList = table.entryList := by
  unfold dtblDel
  split <;> rfl

theorem dtblGet_entry {id : Int} {found : α} (get : dtblGet table id = some found) :
    ∃ entry ∈ table.entryList, entry.id = id ∧ entry.value = some found := by
  obtain ⟨entry, first, value⟩ := Option.bind_eq_some_iff.mp get
  have named := List.find?_some first
  exact ⟨entry, List.mem_of_find?_eq_some first, eq_of_beq named, value⟩

theorem dtblGet_del {gone id : Int} : dtblGet (dtblDel table gone) id = dtblGet table id := by
  rw [dtblGet, dtblGet, dtblDel_entryList]

theorem dtblDel_used {id other : Nat} (differ : id ≠ other) :
    dtblUsed (dtblDel table id) other = dtblUsed table other := by
  unfold dtblDel dtblUsed
  split
  next =>
    rw [Option.any_map]
    congr 1
    funext desc
    change descUsed (clearDescId desc id) other = descUsed desc other
    rw [descUsed_clearDescId, decide_eq_false differ]
    exact Bool.and_true _
  next => rfl

end Allocated

end Rteipc
