import Mathlib.Logic.Function.Basic

namespace Rteipc.Data

/-! Names that a table leads from to cells, and ports that serve the names.

The table is never cleared, so a name may lead to a cell that is gone.
-/

structure Handles (Name Pointer Cell Port : Type*) where
  lookup : Name → Option Pointer
  cells : Pointer → Option Cell
  ports : Port → Option Name

namespace Handles

variable {Name Pointer Cell Port : Type*} (handles : Handles Name Pointer Cell Port)

def Open (name : Name) : Prop := ∃ port, handles.ports port = some name

/-- No two names lead to one cell, the cells of the names that are served are
there, no others are, and each is as `fits` says. -/
structure Sound (fits : Name → Cell → Prop) : Prop where
  apart : ∀ name other pointer, handles.lookup name = some pointer → handles.lookup other = some pointer → name = other
  single : ∀ port other name, handles.ports port = some name → handles.ports other = some name → port = other
  live : ∀ name pointer, handles.lookup name = some pointer →
    ((∃ cell, handles.cells pointer = some cell) ↔ handles.Open name)
  fit : ∀ name pointer cell, handles.lookup name = some pointer → handles.cells pointer = some cell → fits name cell

variable [DecidableEq Name] [DecidableEq Pointer] [DecidableEq Port]

open Function (update)

/-- A port that serves a new name; the table may have no room for the name. -/
def attach (stored : Bool) (name : Name) (pointer : Pointer) (cell : Cell) (port : Port) :
    Handles Name Pointer Cell Port where
  lookup := if stored then update handles.lookup name (some pointer) else handles.lookup
  cells := update handles.cells pointer (some cell)
  ports := update handles.ports port (some name)

def change (pointer : Pointer) (cell : Cell) : Handles Name Pointer Cell Port :=
  { handles with cells := update handles.cells pointer (some cell) }

/-- A port is closed and the cell of its name given up. -/
def close (pointer : Pointer) (port : Port) : Handles Name Pointer Cell Port :=
  { handles with cells := update handles.cells pointer none, ports := update handles.ports port none }

variable {handles} {fits : Name → Cell → Prop} {name other : Name} {pointer : Pointer} {cell : Cell} {port : Port}

omit [DecidableEq Name] [DecidableEq Pointer] in
theorem open_update (idle : handles.ports port = none) (lookup : Name → Option Pointer) (cells : Pointer → Option Cell) :
    Open ⟨lookup, cells, update handles.ports port (some name)⟩ other ↔ other = name ∨ handles.Open other := by
  constructor
  · rintro ⟨serving, serves⟩
    by_cases same : serving = port
    · subst same
      simp only [Function.update_self, Option.some.injEq] at serves
      exact .inl serves.symm
    · simp only [Function.update_of_ne same] at serves
      exact .inr ⟨serving, serves⟩
  · rintro (rfl | ⟨serving, serves⟩)
    · exact ⟨port, Function.update_self ..⟩
    · have differ : serving ≠ port := fun same => by simp [same, idle] at serves
      exact ⟨serving, (Function.update_of_ne differ ..).trans serves⟩

theorem Sound.attach (sound : handles.Sound fits) (stored : Bool) (new : handles.lookup name = none)
    (unserved : ¬handles.Open name) (unnamed : ∀ other, handles.lookup other ≠ some pointer)
    (idle : handles.ports port = none) (fresh : stored = true → fits name cell) :
    (handles.attach stored name pointer cell port).Sound fits := by
  have found : ∀ other address, (handles.attach stored name pointer cell port).lookup other = some address →
      other = name ∧ address = pointer ∧ stored = true ∨
        other ≠ name ∧ address ≠ pointer ∧ handles.lookup other = some address := by
    intro other address leads
    have apart : handles.lookup other = some address → address ≠ pointer := fun old same =>
      unnamed other (same ▸ old)
    cases stored with
    | false =>
        have differ : other ≠ name := fun same => by
          subst same
          nomatch new.symm.trans leads
        exact .inr ⟨differ, apart leads, leads⟩
    | true =>
        by_cases same : other = name
        · subst same
          simp only [Handles.attach, if_true, Function.update_self, Option.some.injEq] at leads
          exact .inl ⟨rfl, leads.symm, rfl⟩
        · simp only [Handles.attach, if_true, Function.update_of_ne same] at leads
          exact .inr ⟨same, apart leads, leads⟩
  constructor
  case apart =>
    intro first second address left right
    obtain ⟨rfl, rfl, -⟩ | ⟨-, differ, old⟩ := found first address left
    · obtain ⟨rfl, -⟩ | ⟨-, differ, -⟩ := found second address right
      · rfl
      · exact (differ rfl).elim
    · obtain ⟨-, same, -⟩ | ⟨-, -, otherOld⟩ := found second address right
      · exact (differ same).elim
      · exact sound.apart first second address old otherOld
  case single =>
    intro first second served left right
    by_cases isFirst : first = port
    · by_cases isSecond : second = port
      · rw [isFirst, isSecond]
      · subst isFirst
        simp only [Handles.attach, Function.update_self, Option.some.injEq, Function.update_of_ne isSecond] at left right
        exact (unserved ⟨second, left ▸ right⟩).elim
    · by_cases isSecond : second = port
      · subst isSecond
        simp only [Handles.attach, Function.update_self, Option.some.injEq, Function.update_of_ne isFirst] at left right
        exact (unserved ⟨first, right ▸ left⟩).elim
      · simp only [Handles.attach, Function.update_of_ne isFirst, Function.update_of_ne isSecond] at left right
        exact sound.single first second served left right
  case live =>
    intro other address leads
    simp only [Handles.attach, open_update idle]
    obtain ⟨rfl, rfl, -⟩ | ⟨differ, apart, old⟩ := found other address leads
    · simp
    · simpa [apart, differ] using sound.live other address old
  case fit =>
    intro other address stands leads there
    obtain ⟨rfl, rfl, isStored⟩ | ⟨-, differ, old⟩ := found other address leads
    · simp only [Handles.attach, Function.update_self, Option.some.injEq] at there
      exact there ▸ fresh isStored
    · simp only [Handles.attach, Function.update_of_ne differ] at there
      exact sound.fit other address stands old there

omit [DecidableEq Name] [DecidableEq Port] in
/-- The cell of a name is changed, and what is asked of it. -/
theorem Sound.change (sound : handles.Sound fits) {asked : Name → Cell → Prop} {before : Cell}
    (leads : handles.lookup name = some pointer) (there : handles.cells pointer = some before)
    (others : ∀ other cell, other ≠ name → fits other cell → asked other cell) (fit : asked name cell) :
    (handles.change pointer cell).Sound asked where
  apart := sound.apart
  single := sound.single
  live := by
    intro other address found
    by_cases same : address = pointer
    · subst same
      simpa [Handles.change, Handles.Open, there] using sound.live other address found
    · simpa [Handles.change, Handles.Open, same] using sound.live other address found
  fit := by
    intro other address stands found current
    by_cases same : address = pointer
    · subst same
      obtain rfl := sound.apart other name address found leads
      simp only [Handles.change, Function.update_self, Option.some.injEq] at current
      exact current ▸ fit
    · simp only [Handles.change, Function.update_of_ne same] at current
      have differ : other ≠ name := fun isName => by
        subst isName
        exact same (Option.some.inj (found.symm.trans leads))
      exact others other stands differ (sound.fit other address stands found current)

omit [DecidableEq Name] in
theorem Sound.close (sound : handles.Sound fits) (leads : handles.lookup name = some pointer)
    (serves : handles.ports port = some name) : (handles.close pointer port).Sound fits := by
  have stays : ∀ other served, (handles.close pointer port).ports other = some served →
      other ≠ port ∧ handles.ports other = some served := by
    intro other served open'
    by_cases same : other = port
    · subst same
      simp [Handles.close] at open'
    · simp only [Handles.close, Function.update_of_ne same] at open'
      exact ⟨same, open'⟩
  constructor
  case apart => exact sound.apart
  case single =>
    intro first second served left right
    exact sound.single first second served (stays first served left).2 (stays second served right).2
  case live =>
    intro other address found
    by_cases same : address = pointer
    · subst same
      obtain rfl := sound.apart other name address found leads
      constructor
      · rintro ⟨cell, there⟩
        simp [Handles.close] at there
      · rintro ⟨serving, open'⟩
        obtain ⟨differ, before⟩ := stays serving other open'
        exact (differ (sound.single serving port other before serves)).elim
    · have differ : other ≠ name := fun isName => by
        subst isName
        exact same (Option.some.inj (found.symm.trans leads))
      rw [show (handles.close pointer port).cells address = handles.cells address from Function.update_of_ne same ..]
      refine (sound.live other address found).trans ⟨?_, ?_⟩
      · rintro ⟨serving, open'⟩
        have apart : serving ≠ port := fun isPort => by
          subst isPort
          exact differ (Option.some.inj (open'.symm.trans serves))
        exact ⟨serving, (Function.update_of_ne apart ..).trans open'⟩
      · rintro ⟨serving, open'⟩
        exact ⟨serving, (stays serving other open').2⟩
  case fit =>
    intro other address stands found current
    by_cases same : address = pointer
    · subst same
      simp [Handles.close] at current
    · simp only [Handles.close, Function.update_of_ne same] at current
      exact sound.fit other address stands found current

end Handles

end Rteipc.Data
