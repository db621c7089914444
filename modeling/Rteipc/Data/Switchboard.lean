import Rteipc.Data.Partners

namespace Rteipc.Data

/-! Parties that are found under their addresses and connected with each other.

Parties stand in the order in which they joined, and the first one with an
address is the one that is found.  A command names those it is about, and does
nothing where there is no such party.
-/

/-- Who has joined, and who is the partner of whom. -/
structure Switchboard (α Info : Type*) where
  parties : List (α × Info)
  partners : Partners α

inductive Command (α Info Address : Type*) where
  | nothing
  | join (a : α) (info : Info) (hub : Bool)
  | leave (addresses : List Address)
  | connect (left right : Address)
  | forget (address : Address)

namespace Switchboard

variable {α Info Address : Type*} [DecidableEq α] [DecidableEq Address] (address : Info → Address)

def empty : Switchboard α Info := ⟨[], fun _ => none⟩

def find (board : Switchboard α Info) (wanted : Address) : Option α :=
  (board.parties.find? fun party => address party.2 = wanted).map Prod.fst

def info (board : Switchboard α Info) (a : α) : Option Info :=
  (board.parties.find? fun party => party.1 = a).map Prod.snd

def join (board : Switchboard α Info) (a : α) (info : Info) (hub : Bool) : Switchboard α Info :=
  ⟨board.parties ++ [(a, info)], board.partners.add a hub⟩

def remove (board : Switchboard α Info) (a : α) : Switchboard α Info :=
  ⟨board.parties.filter fun party => party.1 ≠ a, board.partners.remove a⟩

/-- One after the other, so that a later one with the same address may be next. -/
def leave : Switchboard α Info → List Address → Switchboard α Info
  | board, [] => board
  | board, wanted :: rest =>
      match board.find address wanted with
      | none => leave board rest
      | some a => leave (board.remove a) rest

def obey (board : Switchboard α Info) : Command α Info Address → Switchboard α Info
  | .nothing => board
  | .join a info hub => board.join a info hub
  | .leave addresses => board.leave address addresses
  | .connect left right =>
      match board.find address left, board.find address right with
      | some a, some b => if a = b then board else { board with partners := board.partners.connect a b }
      | _, _ => board
  | .forget wanted =>
      match board.find address wanted with
      | none => board
      | some a => { board with partners := board.partners.forget a }

end Switchboard

namespace Partners

variable {α : Type*} [DecidableEq α] {partners : Partners α} {a : α}

/-- One that nobody names leaves no trace. -/
theorem remove_add (absent : partners a = none) (unnamed : Respects (fun _ partner => partner ≠ a) partners) (hub : Bool) :
    (partners.add a hub).remove a = partners := by
  funext b
  unfold remove
  split
  next same => rw [same, absent]
  next differ =>
    have there : partners.add a hub a = some ⟨hub, none⟩ := if_pos rfl
    have other : partners.add a hub b = partners b := if_neg differ
    rw [forget_of_some there, other]
    cases found : partners b with
    | none => rfl
    | some node =>
        have keeps : Node.forgets ⟨hub, none⟩ a b node = false := by
          rw [← Bool.not_eq_true, forgets_iff there]
          intro forgotten
          obtain ⟨self, same, forgotten⟩ := forgotten
          cases there.symm.trans same
          obtain ⟨-, -, names⟩ | ⟨-, some, -⟩ := forgotten
          · exact unnamed b node a found names rfl
          · cases some
        simp only [Option.map_some, keeps, Bool.false_eq_true, if_false]

end Partners

end Rteipc.Data
