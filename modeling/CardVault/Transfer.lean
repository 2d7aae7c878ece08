import CardVault.Failure

/-!
The state of a chunked transfer: its direction, its phase, how many bytes have moved and, for a
read, how many the card announced. A transfer begins with INIT, then data moves any number of times,
then it is finalized; it can be aborted at any time before its end. `CONTINUING` is the phase in
which a store moves data, `DRAINING` that of a read.
-/

namespace CardVault

inductive Phase where
  | idle
  | init
  | continuing
  | draining
  | finalized
  | aborted
deriving DecidableEq, Repr

namespace Phase

def all : List Phase :=
  [idle, init, continuing, draining, finalized, aborted]

def name : Phase → Text
  | idle => text "IDLE"
  | init => text "INIT"
  | continuing => text "CONTINUING"
  | draining => text "DRAINING"
  | finalized => text "FINALIZED"
  | aborted => text "ABORTED"

def isTerminal : Phase → Bool
  | finalized | aborted => true
  | _ => false

/-- A transfer accepts its later steps once INIT has succeeded and until it ends. -/
def isActive : Phase → Bool
  | init | continuing | draining => true
  | _ => false

def moving : Direction → Phase
  | .store => continuing
  | .read => draining

def allows (direction : Direction) (origin target : Phase) : Bool :=
  match origin, target with
  | finalized, _ | aborted, _ => false
  | _, aborted => true
  | idle, target => target == init
  | init, target => target == moving direction || target == finalized
  | origin, target =>
      origin == moving direction && (target == moving direction || target == finalized)

end Phase

structure Transfer where
  direction : Direction
  phase : Phase
  moved : UInt64
  total : Option UInt64
  refusals : Nat
deriving DecidableEq, Repr

namespace Transfer

def fresh (direction : Direction) : Transfer :=
  ⟨direction, .idle, 0, none, 0⟩

def allows (transfer : Transfer) (target : Phase) : Bool :=
  transfer.phase.allows transfer.direction target

-- A move that is not allowed leaves the phase as it is and is counted. No step of a transfer reads
-- the count; it is there to say that a transfer never asks for such a move.
def enter (transfer : Transfer) (target : Phase) : Transfer :=
  if transfer.allows target then { transfer with phase := target }
  else { transfer with refusals := transfer.refusals + 1 }

def count (transfer : Transfer) (bytes : Nat) : Transfer :=
  { transfer with moved := transfer.moved + UInt64.ofNat bytes }

def announce (transfer : Transfer) (total : UInt64) : Transfer :=
  { transfer with total := some total }

def accepts (transfer : Transfer) (direction : Direction) : Bool :=
  transfer.direction == direction && transfer.phase.isActive

@[simp] theorem enter_direction (transfer : Transfer) (target : Phase) :
    (transfer.enter target).direction = transfer.direction := by
  unfold enter
  split <;> rfl

@[simp] theorem enter_moved (transfer : Transfer) (target : Phase) :
    (transfer.enter target).moved = transfer.moved := by
  unfold enter
  split <;> rfl

@[simp] theorem enter_total (transfer : Transfer) (target : Phase) :
    (transfer.enter target).total = transfer.total := by
  unfold enter
  split <;> rfl

theorem enter_phase {transfer : Transfer} {target : Phase}
    (allowed : transfer.allows target = true) : (transfer.enter target).phase = target := by
  simp [enter, allowed]

@[simp] theorem count_direction (transfer : Transfer) (bytes : Nat) :
    (transfer.count bytes).direction = transfer.direction := rfl

@[simp] theorem count_phase (transfer : Transfer) (bytes : Nat) :
    (transfer.count bytes).phase = transfer.phase := rfl

@[simp] theorem count_moved (transfer : Transfer) (bytes : Nat) :
    (transfer.count bytes).moved = transfer.moved + UInt64.ofNat bytes := rfl

@[simp] theorem count_total (transfer : Transfer) (bytes : Nat) :
    (transfer.count bytes).total = transfer.total := rfl

theorem moving_accepts {transfer : Transfer} {direction : Direction} (bytes : Nat)
    (open_ : transfer.accepts direction = true) :
    ((transfer.enter (Phase.moving direction)).count bytes).accepts direction = true := by
  simp only [accepts, count_direction, count_phase, enter_direction, Bool.and_eq_true] at open_ ⊢
  refine ⟨open_.1, ?_⟩
  unfold enter
  split
  · cases direction <;> rfl
  · exact open_.2

end Transfer

end CardVault
