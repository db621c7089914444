import Rteipc.Table.Refinement

namespace Rteipc

open Data Data.IdHistory

/-! Which free ids the search for the next one reaches. -/

/-- A word without a clear bit, wherever in it the scan starts. -/
theorem nextBit_eq_none_iff (val : BitVec 64) (i count : Nat) :
    nextBit val i count = none ↔ ∀ offset < count, val.getLsbD ((i + offset) % descBitWidth) = true := by
  induction count generalizing i with
  | zero => simp [nextBit]
  | succ count ih =>
      simp only [nextBit, shifted_bit_test]
      by_cases used : val.getLsbD (i % descBitWidth) = true
      · rw [if_pos used, ih]
        constructor
        · intro later offset bound
          cases offset with
          | zero => exact used
          | succ offset =>
              have next := later offset (by omega)
              rwa [Nat.add_right_comm, Nat.add_assoc] at next
        · intro all offset bound
          have next := all (offset + 1) (by omega)
          rwa [Nat.add_right_comm, Nat.add_assoc]
      · rw [if_neg used]
        refine iff_of_false (by simp) fun all => used ?_
        exact all 0 (by omega)

theorem nextBit_full (val : BitVec 64) (start : Nat) :
    nextBit val start descBitWidth = none ↔ ∀ bit < descBitWidth, val.getLsbD bit = true := by
  rw [nextBit_eq_none_iff]
  constructor
  · intro all bit bound
    have reached := all ((bit + descBitWidth - start % descBitWidth) % descBitWidth) (Nat.mod_lt _ (by decide))
    have same : (start + (bit + descBitWidth - start % descBitWidth) % descBitWidth) % descBitWidth = bit := by
      simp only [descBitWidth] at bound ⊢
      omega
    rwa [same] at reached
  · intro all offset bound
    exact all _ (Nat.mod_lt _ (by decide))

theorem nextWord_failed_iff (desc : List (BitVec 64)) (start index count : Nat) :
    nextWord desc start index count = -1 ↔
      ∀ id, index ≤ id / descBitWidth → id / descBitWidth < index + count → descUsed desc id = true := by
  induction count generalizing index with
  | zero =>
      refine iff_of_true rfl fun id above below => ?_
      omega
  | succ count ih =>
      cases found : nextBit (desc.getD index 0#64) start descBitWidth with
      | some bit =>
          obtain ⟨bound, clear⟩ := nextBit_spec found
          simp only [nextWord, found]
          refine iff_of_false (by omega) fun all => ?_
          have word : (index * descBitWidth + bit) / descBitWidth = index := by
            simp only [descBitWidth] at bound ⊢
            omega
          have offset : (index * descBitWidth + bit) % descBitWidth = bit := by
            simp only [descBitWidth] at bound ⊢
            omega
          have used := all (index * descBitWidth + bit) (by omega) (by omega)
          rw [descUsed, word, offset, clear] at used
          cases used
      | none =>
          simp only [nextWord, found]
          rw [ih]
          have full := (nextBit_full _ _).mp found
          constructor
          · intro later id above below
            by_cases here : id / descBitWidth = index
            · rw [descUsed, here]
              exact full _ (Nat.mod_lt _ (by decide))
            · exact later id (by omega) (by omega)
          · intro all id above below
            exact all id (by omega) (by omega)

def firstWord (nextEntry maxEntries : Nat) : Nat :=
  if nextEntry / descBitWidth ≥ maxEntries then 0 else nextEntry / descBitWidth

theorem dtblNextId_failed_iff (desc : List (BitVec 64)) (nextEntry maxEntries : Nat) :
    dtblNextId desc nextEntry maxEntries = -1 ↔
      ∀ id, firstWord nextEntry maxEntries ≤ id / descBitWidth → id / descBitWidth < maxEntries →
        descUsed desc id = true := by
  unfold dtblNextId firstWord
  dsimp only
  split
  next => rw [nextWord_failed_iff, Nat.zero_add]
  next inside =>
    rw [nextWord_failed_iff, Nat.add_sub_cancel' (by omega)]

namespace DtblSession

variable {α : Type} {session : DtblSession α}

/-- `dtbl_set` fails only for want of a free id. -/
def AllocationComplete (session : DtblSession α) : Prop :=
  ∀ val, (dtblSet .succeeds session.table val).2 = -1 →
    ∀ id : Nat, id / descBitWidth < session.table.maxEntries → Live session.history (id : Int)

/-- Where ids are free, the cursor is past the last word or one of them lies in
the cursor's word or a later one. -/
def CursorReaches (session : DtblSession α) : Prop :=
  (∃ id : Nat, id / descBitWidth < session.table.maxEntries ∧ ¬Live session.history (id : Int)) →
    session.table.maxEntries ≤ session.table.nextEntry / descBitWidth ∨
      ∃ id : Nat, session.table.nextEntry / descBitWidth ≤ id / descBitWidth ∧
        id / descBitWidth < session.table.maxEntries ∧ ¬Live session.history (id : Int)

theorem Represents.dtblSet_failed_iff (represents : Represents session) (val : Option α) :
    (dtblSet .succeeds session.table val).2 = -1 ↔
      ∀ id : Nat, firstWord session.table.nextEntry session.table.maxEntries ≤ id / descBitWidth →
        id / descBitWidth < session.table.maxEntries → Live session.history (id : Int) := by
  obtain ⟨desc, allocated, -, marked⟩ := represents.dtblDesc_eq
  have chosen : (dtblSet .succeeds session.table val).2 =
      dtblNextId desc session.table.nextEntry session.table.maxEntries := by
    simp only [dtblSet, allocated]
    split <;> rfl
  rw [chosen, dtblNextId_failed_iff]
  simp only [marked]

theorem Represents.allocationComplete_iff (represents : Represents session) :
    AllocationComplete session ↔ CursorReaches session := by
  unfold AllocationComplete CursorReaches
  simp only [represents.dtblSet_failed_iff, firstWord]
  constructor
  · intro complete free
    obtain ⟨id, inside, unused⟩ := free
    by_contra unreached
    obtain ⟨before, used⟩ := not_or.mp unreached
    refine unused (complete none (fun other above below => ?_) id inside)
    rw [if_neg before] at above
    by_contra clear
    exact used ⟨other, above, below, clear⟩
  · intro reaches val searched id inside
    by_contra unused
    obtain past | ⟨other, above, below, clear⟩ := reaches ⟨id, inside, unused⟩
    · rw [if_pos past] at searched
      exact unused (searched id (Nat.zero_le _) inside)
    · refine clear (searched other ?_ below)
      split
      next => exact Nat.zero_le _
      next => exact above

theorem Step.representsAll {calls : List (DtblCall α)} {last : DtblSession α}
    (run : Reaches Step session calls last) (represents : Represents session) : Represents last :=
  run.invariant (fun _ _ _ before taken => taken.represents before) represents

/-- The session after a value has been stored some number of times. -/
def filled (session : DtblSession α) (val : Option α) : Nat → DtblSession α
  | 0 => session
  | count + 1 => filled (session.afterSet val) val count

theorem reaches_filled (session : DtblSession α) (val : Option α) (count : Nat) :
    Reaches Step session (List.replicate count (.set val)) (session.filled val count) := by
  induction count generalizing session with
  | zero => exact .nil session
  | succ count ih => exact .cons (.set session val) (ih _)

end DtblSession

open DtblSession

/-- In every state a table gets into, allocation is complete exactly when the
cursor, if it is inside the table, has a free id in its word or after. -/
theorem dtbl_set_complete_iff {α : Type} (n : Nat) (calls : List (DtblCall α)) (session : DtblSession α)
    (run : Reaches Step (start α n) calls session) :
    (∀ val, (dtblSet .succeeds session.table val).2 = -1 →
        ∀ id : Nat, id / descBitWidth < session.table.maxEntries → Live session.history (id : Int)) ↔
      ((∃ id : Nat, id / descBitWidth < session.table.maxEntries ∧ ¬Live session.history (id : Int)) →
        session.table.maxEntries ≤ session.table.nextEntry / descBitWidth ∨
          ∃ id : Nat, session.table.nextEntry / descBitWidth ≤ id / descBitWidth ∧
            id / descBitWidth < session.table.maxEntries ∧ ¬Live session.history (id : Int)) :=
  (Step.representsAll run (start_represents n)).allocationComplete_iff

/-- One id is in use and the next 127 are free. -/
theorem dtbl_set_complete_one_set :
    (∀ val, (dtblSet .succeeds ((start Unit 128).afterSet none).table val).2 = -1 →
        ∀ id : Nat, id / descBitWidth < ((start Unit 128).afterSet none).table.maxEntries →
          Live ((start Unit 128).afterSet none).history (id : Int)) ↔
      ((∃ id : Nat, id / descBitWidth < ((start Unit 128).afterSet none).table.maxEntries ∧
          ¬Live ((start Unit 128).afterSet none).history (id : Int)) →
        ((start Unit 128).afterSet none).table.maxEntries ≤
            ((start Unit 128).afterSet none).table.nextEntry / descBitWidth ∨
          ∃ id : Nat, ((start Unit 128).afterSet none).table.nextEntry / descBitWidth ≤ id / descBitWidth ∧
            id / descBitWidth < ((start Unit 128).afterSet none).table.maxEntries ∧
            ¬Live ((start Unit 128).afterSet none).history (id : Int)) :=
  dtbl_set_complete_iff 128 [.set none] _ (.cons (.set _ _) (.nil _))

/-- A full table from which 70 is deleted, issued again, and then 0 deleted: the
search starts in the second word and does not see that 0 is free. -/
theorem dtbl_set_misses_free :
    ¬ ∀ (calls : List (DtblCall Unit)) (session : DtblSession Unit), Reaches Step (start Unit 128) calls session →
      ∀ val, (dtblSet .succeeds session.table val).2 = -1 →
        ∀ id : Nat, id / descBitWidth < session.table.maxEntries → Live session.history (id : Int) := by
  intro complete
  let full := (start Unit 128).filled none 128
  let cleared : DtblSession Unit := ⟨dtblDel full.table 70, .retired 70 :: full.history⟩
  let again := cleared.afterSet none
  have known : ∃ val, .issued 70 val ∈ full.history := ⟨none, by decide +kernel⟩
  have first : ∃ val, .issued 0 val ∈ again.history := ⟨none, by decide +kernel⟩
  have run := (reaches_filled (start Unit 128) none 128).append
    (.cons (.del full 70 known) (.cons (.set cleared none) (.cons (.del again 0 first) (.nil _))))
  have live := complete _ _ run none (by decide +kernel) 0 (by decide +kernel)
  exact live.1 rfl

end Rteipc
