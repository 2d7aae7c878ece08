import CardVault.Session.Call

/-!
Dialogues that do without the signer. An unsigned dialogue asks for no signature and sends only what
is permitted, whatever is answered to it. A plain one sends no frame that a signature speaks for: so
do stores and everything that follows INIT in a read.
-/

namespace CardVault

variable {α β σ : Type}

/-- The purposes of frames that a signature speaks for. -/
def Purpose.isSigned : Purpose → Bool
  | .init .read | .fixed .read | .fixed .delete => true
  | _ => false

namespace Dialogue

def Unsigned (permitted : Purpose → Bytes → Prop) : Dialogue α → Prop
  | done _ => True
  | send purpose frame next => permitted purpose frame ∧ ∀ reply, Unsigned permitted (next reply)
  | sign _ _ => False

def Plain : Dialogue α → Prop :=
  Unsigned fun purpose _ => purpose.isSigned = false

variable {permitted : Purpose → Bytes → Prop} {dialogue : Dialogue α}

theorem unsigned_bind {next : α → Dialogue β} (first : Unsigned permitted dialogue)
    (onward : ∀ value, Unsigned permitted (next value)) :
    Unsigned permitted (dialogue.bind next) := by
  induction dialogue with
  | done value => exact onward value
  | send purpose frame rest ih => exact ⟨first.1, fun reply => ih reply (first.2 reply)⟩
  | sign subject rest ih => exact first.elim

theorem unsigned_map {change : α → β} (first : Unsigned permitted dialogue) :
    Unsigned permitted (dialogue.map change) :=
  unsigned_bind first fun _ => trivial

theorem unsigned_weaken {lenient : Purpose → Bytes → Prop} (strict : Unsigned permitted dialogue)
    (enough : ∀ purpose frame, permitted purpose frame → lenient purpose frame) :
    Unsigned lenient dialogue := by
  induction dialogue with
  | done value => trivial
  | send purpose frame rest ih =>
      exact ⟨enough purpose frame strict.1, fun reply => ih reply (strict.2 reply)⟩
  | sign subject rest ih => exact strict.elim

theorem unsigned_exchange {purpose : Purpose} {command : Command}
    (allowed : ∀ frame, command.encode = .ok frame → permitted purpose frame) :
    Unsigned permitted (exchangeFor purpose command) := by
  unfold exchangeFor
  split
  · rename_i frame encoded
    exact ⟨allowed frame encoded, fun _ => trivial⟩
  · trivial

theorem unsigned_run (unsigned : Unsigned permitted dialogue) (peer : Peer σ) (state : σ) :
    let events := (dialogue.run peer state).events
    (∀ event ∈ events, event.subject? = none) ∧
      ∀ purpose frame reply, .sent purpose frame reply ∈ events → permitted purpose frame := by
  induction dialogue generalizing state with
  | done value => simp [run]
  | send purpose frame next ih =>
      obtain ⟨silent, frames⟩ := ih _ (unsigned.2 _) (peer.answer frame state).2
      constructor
      · exact List.forall_mem_cons.mpr ⟨rfl, silent⟩
      · intro other otherFrame reply member
        rcases List.mem_cons.mp member with same | later
        · cases same
          exact unsigned.1
        · exact frames other otherFrame reply later
  | sign subject next ih => exact unsigned.elim

theorem plain_exchange {purpose : Purpose} {command : Command} (plain : purpose.isSigned = false) :
    Plain (exchangeFor purpose command) :=
  unsigned_exchange fun _ _ => plain

end Dialogue

open Dialogue

namespace Transfer

variable (settings : Settings) (transfer : Transfer)

theorem beginStore_plain (key : RecordKey) : Plain (beginStore settings key) :=
  unsigned_map (plain_exchange rfl)

theorem exchangeIn_plain {direction : Direction} {step : LaterStep} {command : Command}
    {next : Except Fault Response × Transfer → Dialogue α} (onward : ∀ result, Plain (next result)) :
    Plain ((exchangeIn transfer (.later direction step) command).bind next) :=
  unsigned_bind (unsigned_map (plain_exchange rfl)) onward

theorem pushAll_plain (chunks : List Bytes) : Plain (pushAll settings chunks transfer) := by
  induction chunks generalizing transfer with
  | nil => trivial
  | cons chunk rest ih =>
      apply exchangeIn_plain
      intro result
      split
      · trivial
      · split
        · exact ih _
        · trivial

theorem continueStore_plain (payload : Bytes) :
    Plain (continueStore settings transfer payload) := by
  unfold continueStore
  split
  · exact pushAll_plain settings transfer _
  · trivial

theorem finalizeStore_plain : Plain (finalizeStore settings transfer) := by
  unfold finalizeStore
  split
  · exact exchangeIn_plain transfer fun _ => trivial
  · trivial

theorem pullAll_plain (rounds : Nat) (chunks : List Bytes) :
    Plain (pullAll settings rounds transfer chunks) := by
  induction rounds generalizing transfer chunks with
  | zero => trivial
  | succ rounds ih =>
      unfold pullAll
      split
      · apply exchangeIn_plain
        intro result
        split
        · trivial
        · dsimp only
          split
          · trivial
          · split
            · trivial
            · exact ih _ _
          · trivial
      · trivial

theorem continueRead_plain : Plain (continueRead settings transfer) := by
  unfold continueRead
  split
  · split
    · exact pullAll_plain settings transfer _ _
    · trivial
  · trivial

theorem finalizeRead_plain : Plain (finalizeRead settings transfer) := by
  unfold finalizeRead
  split
  · exact exchangeIn_plain transfer fun _ => trivial
  · trivial

end Transfer

theorem FixedRecord.store_plain (settings : Settings) (username address : Text) (message : Bytes) :
    Plain (FixedRecord.store settings username address message) := by
  unfold FixedRecord.store
  split
  · trivial
  · exact unsigned_map (unsigned_map (plain_exchange rfl))

namespace Session

variable {session : Session} {permitted : Purpose → Bytes → Prop}

theorem whenFree_unsigned {body : Dialogue (Except Fault α × Session)}
    (unsigned : Unsigned permitted body) : Unsigned permitted (session.whenFree body) := by
  unfold whenFree
  split
  · split
    · trivial
    · exact unsigned_map unsigned
  · trivial

theorem whenActive_unsigned {body : Transfer → Dialogue (Except Fault α × Session)}
    (unsigned : ∀ transfer, Unsigned permitted (body transfer)) :
    Unsigned permitted (session.whenActive body) := by
  unfold whenActive
  split
  · split
    · exact unsigned_map (unsigned _)
    · trivial
  · trivial

theorem andThen_unsigned {first : Dialogue (Outcome α × Session)}
    {next : α → Session → Dialogue (Outcome β × Session)} (begun : Unsigned permitted first)
    (onward : ∀ value after, Unsigned permitted (next value after)) :
    Unsigned permitted (andThen first next) := by
  apply unsigned_bind begun
  rintro ⟨outcome, after⟩
  cases outcome with
  | ok value => exact onward value after
  | error failure => trivial

variable (session)

theorem beginStore_plain (key : RecordKey) : Plain (session.beginStore key) :=
  whenFree_unsigned (unsigned_map (Transfer.beginStore_plain session.settings key))

theorem continueStore_plain (payload : Bytes) : Plain (session.continueStore payload) :=
  whenActive_unsigned fun transfer =>
    unsigned_map (transfer.continueStore_plain session.settings payload)

theorem finalizeStore_plain : Plain session.finalizeStore :=
  whenActive_unsigned fun transfer => unsigned_map (transfer.finalizeStore_plain session.settings)

theorem continueRead_plain : Plain session.continueRead :=
  whenActive_unsigned fun transfer => unsigned_map (transfer.continueRead_plain session.settings)

theorem finalizeRead_plain : Plain session.finalizeRead :=
  whenActive_unsigned fun transfer => unsigned_map (transfer.finalizeRead_plain session.settings)

theorem store_plain (key : RecordKey) (payload : Bytes) : Plain (session.store key payload) :=
  andThen_unsigned (session.beginStore_plain key) fun _ begun =>
    andThen_unsigned (begun.continueStore_plain payload) fun _ moved => moved.finalizeStore_plain

theorem storeFixed_plain (username address : Text) (message : Bytes) :
    Plain (session.storeFixed username address message) :=
  whenFree_unsigned (unsigned_map (FixedRecord.store_plain _ _ _ _))

theorem drain_plain :
    Plain (andThen session.continueRead fun _ moved => moved.finalizeRead) :=
  andThen_unsigned session.continueRead_plain fun _ moved => moved.finalizeRead_plain

end Session

end CardVault
