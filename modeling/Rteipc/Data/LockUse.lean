import Mathlib.Data.Option.Basic

namespace Rteipc.Data

/-! Threads that share one lock which is not recursive.

A thread is the list of the instructions it has yet to take.  `use` tells of
each whether its thread must hold the lock before it and holds it after it.
Where every list is balanced, no thread comes to lock what it holds.
-/

/-- Whether the lock is held before and after an instruction. -/
structure LockUse where
  before : Bool
  after : Bool

variable {Instr Thread : Type*} (use : Instr → LockUse)

/-- From the given state of the lock the instructions lead to the other. -/
def Leads : Bool → List Instr → Bool → Prop
  | held, [], last => held = last
  | held, instr :: rest, last => held = (use instr).before ∧ Leads (use instr).after rest last

/-- The instructions end without the lock. -/
def Balanced (held : Bool) (instrs : List Instr) : Prop := Leads use held instrs false

variable {use} {held middle last : Bool} {instr : Instr} {first rest : List Instr}

theorem Leads.append (left : Leads use held first middle) (right : Leads use middle rest last) :
    Leads use held (first ++ rest) last := by
  induction first generalizing held with
  | nil =>
      cases left
      exact right
  | cons instr first ih => exact ⟨left.1, ih left.2⟩

variable [DecidableEq Thread] {holder : Option Thread} {threads : Thread → List Instr} {thread : Thread}

def AllBalanced (use : Instr → LockUse) (holder : Option Thread) (threads : Thread → List Instr) : Prop :=
  ∀ thread, Balanced use (decide (holder = some thread)) (threads thread)

def goOn (threads : Thread → List Instr) (thread : Thread) (instrs : List Instr) : Thread → List Instr :=
  fun other => if other = thread then instrs else threads other

/-- A thread may take or release the lock, or leave it as it is, as long as what
it goes on with fits and no other thread holds the lock. -/
theorem AllBalanced.goOn (all : AllBalanced use holder threads) {next : Option Thread}
    (others : ∀ other, other ≠ thread → (next = some other ↔ holder = some other))
    (fits : Balanced use (decide (next = some thread)) first) : AllBalanced use next (goOn threads thread first) := by
  intro other
  unfold Data.goOn
  split
  next same => exact same ▸ fits
  next differ =>
    rw [decide_eq_decide.mpr (others other differ)]
    exact all other

theorem AllBalanced.head (all : AllBalanced use holder threads) (takes : threads thread = instr :: rest) :
    decide (holder = some thread) = (use instr).before ∧ Balanced use (use instr).after rest := by
  have balanced := all thread
  rw [takes] at balanced
  exact balanced

/-- At most one thread is at an instruction that needs the lock. -/
theorem AllBalanced.alone (all : AllBalanced use holder threads) {other : Thread} {otherInstr : Instr}
    (takes : threads thread = instr :: rest) (needs : (use instr).before = true)
    (otherTakes : threads other = otherInstr :: first) (otherNeeds : (use otherInstr).before = true) :
    thread = other := by
  have holds := (all.head takes).1.trans needs
  have otherHolds := (all.head otherTakes).1.trans otherNeeds
  simp only [decide_eq_true_eq] at holds otherHolds
  exact Option.some.inj (holds.symm.trans otherHolds)

end Rteipc.Data
