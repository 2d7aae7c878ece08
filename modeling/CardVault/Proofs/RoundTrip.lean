import CardVault.Proofs.ServedRead
import CardVault.Proofs.StorePlan
import CardVault.Session.Call

/-!
What is stored can be read back. The chunks of a store make up the payload, and a card that serves
the same bytes again, cut as it likes, gives the payload back to a read.
-/

namespace CardVault

open Dialogue

variable {σ : Type}

theorem moved?_taken (purpose : Purpose) (frame : Bytes) {reply : Reply}
    (success : reply.status? = some 0x9000) :
    Event.moved? .store (.sent purpose frame reply) =
      if purpose = .later .store .advance then some (Command.payload frame) else none := by
  cases purpose with
  | init direction => simp [Event.moved?]
  | later direction step => cases direction <;> cases step <;> simp [Event.moved?, success]
  | fixed operation => simp [Event.moved?]
  | plain => simp [Event.moved?]

def Planned.moved? (planned : Planned) : Option Bytes :=
  if planned.purpose = .later .store .advance then some (Command.payload planned.command.frame)
  else none

theorem Walk.moved {plan : List Planned} {events : List Event} (walk : Walk plan events none) :
    events.filterMap (Event.moved? .store) = plan.filterMap Planned.moved? := by
  generalize passed : (none : Option Failure) = outcome at walk
  induction walk with
  | finished => rfl
  | taken success _ ih =>
      simp only [List.filterMap_cons, moved?_taken _ _ success, Planned.moved?, ih passed]
  | stopped _ _ => cases passed

theorem chunkPlan_moved (settings : Settings) (chunks : List Bytes)
    (fit : ∀ chunk ∈ chunks, chunk.length ≤ 255) :
    (chunks.map (chunkPlan settings)).filterMap Planned.moved? = chunks := by
  induction chunks with
  | nil => rfl
  | cons chunk chunks ih =>
      have moves : (chunkPlan settings chunk).moved? = some chunk := by
        have data := Command.payload_frame (chunkPlan settings chunk).command
          (fit chunk List.mem_cons_self)
        simpa [Planned.moved?, chunkPlan] using data
      rw [List.map_cons, List.filterMap_cons, moves]
      simp only [ih fun other member => fit other (List.mem_cons_of_mem _ member)]

theorem storePlan_moved (settings : Settings) (key : RecordKey) (chunks : List Bytes)
    (fit : ∀ chunk ∈ chunks, chunk.length ≤ 255) :
    (storePlan settings key chunks).filterMap Planned.moved? = chunks := by
  simp only [storePlan, List.filterMap_append, chunkPlan_moved settings chunks fit]
  simp [Planned.moved?]

namespace Session

theorem store_taken (session : Session) (usable : session.usable = true)
    (free : session.active = none) (key : RecordKey) (fits : key.wire.length ≤ 255)
    (payload : Bytes) (peer : Peer σ) (state : σ)
    (taken : ∀ reply ∈ ((session.store key payload).run peer state).replies,
      reply.status? = some 0x9000) :
    ((session.store key payload).run peer state).value = (.ok (), session) ∧
      (((session.store key payload).run peer state).events.filterMap
        (Event.moved? .store)).flatten = payload := by
  obtain ⟨walk, success, _⟩ := store_follows peer state usable free key fits payload
  have complete := walk.complete taken
  rw [complete] at walk
  constructor
  · cases result : ((session.store key payload).run peer state).value with
    | mk outcome after =>
        rw [result] at complete success
        cases outcome with
        | ok value =>
            have same : after = session := success value rfl
            rw [same]
        | error failure => cases complete
  · rw [walk.moved, storePlan_moved _ _ _ (session.slices_fit payload), slices_flatten]

/-- Round trip: a store to which the card says yes throughout moves the payload into the card, and a
read to which the card answers with the same bytes, in any pieces, gives the payload back. -/
theorem store_then_read (session : Session) (usable : session.usable = true)
    (free : session.active = none) (key : RecordKey) (signature : Bytes)
    (fits : 3 + key.username.length + key.address.length + signature.length ≤ 255)
    (payload : Bytes) (small : payload.length ≤ 65535) (peer : Peer σ) (state : σ)
    (obtained : session.Obtains peer ((session.perform (.store key payload)).run peer state).peer
      key signature)
    (taken : ∀ reply ∈ ((session.perform (.store key payload)).run peer state).replies,
      reply.status? = some 0x9000) :
    let stored := (session.perform (.store key payload)).run peer state
    let chunks := stored.events.filterMap (Event.moved? .store)
    stored.value = (some (.ok none), session) ∧ chunks.flatten = payload ∧
      ∀ pieces, Pieces pieces chunks.flatten →
        let read := (stored.value.2.perform (.read key)).run peer stored.peer
        KeepsTo read.replies (readScript payload.length pieces) →
          read.value.1 = some (.ok (some payload)) ∧
            read.purposes = [.init .read] ++
              List.replicate pieces.length (.later .read .advance) ++ [.later .read .finalize] ∧
            read.value.2.usable = true ∧ read.value.2.active = none := by
  have wire : key.wire.length ≤ 255 := by
    rw [key.wire_length]
    omega
  simp only [perform, shown, run_map] at obtained taken ⊢
  obtain ⟨stored, chunks⟩ := store_taken session usable free key wire payload peer state taken
  rw [stored, chunks]
  refine ⟨rfl, rfl, ?_⟩
  intro pieces cut keeps
  obtain ⟨purposes, result⟩ :=
    read_served peer _ usable free obtained fits pieces payload cut small keeps
  refine ⟨?_, ?_, ?_, ?_⟩
  · rw [result]
    rfl
  · have script : (readScript payload.length pieces).map (·.purpose) = [.init .read] ++
        List.replicate pieces.length (.later .read .advance) ++ [.later .read .finalize] := by
      simp [readScript, openingCue, pieceCue, closingCue, Function.comp_def, List.map_const']
    rw [← script]
    exact purposes
  · rw [result]
    exact usable
  · rw [result]
    rfl

def oneRecord : Peer Unit where
  answer frame _ :=
    if frame.getD 1 0 = 0x20 then (.ofBytes [0, 2, 0x90, 0], ())
    else if frame.getD 1 0 = 0x21 then (.ofBytes [7, 9, 0x90, 0], ())
    else (.ofBytes [0x90, 0], ())
  sign _ _ := (.ok [1, 2, 3], ())

theorem two_bytes_come_back :
    let key : RecordKey := ⟨text "u", text "a", by decide, by decide⟩
    let stored := ((standard true).perform (.store key [7, 9])).run oneRecord ()
    let read := ((standard true).perform (.read key)).run oneRecord stored.peer
    stored.value = (some (.ok none), standard true) ∧
      (stored.events.filterMap (Event.moved? .store)).flatten = [7, 9] ∧
      read.value.1 = some (.ok (some [7, 9])) ∧
      read.purposes =
        [.init .read, .later .read .advance, .later .read .finalize] ∧
      read.value.2.usable = true ∧ read.value.2.active = none := by
  intro key stored read
  have taken : ∀ reply ∈ stored.replies, reply.status? = some 0x9000 := by
    intro reply member
    obtain ⟨frame, before, rfl⟩ := run_replies oneRecord _ () reply member
    simp only [oneRecord]
    split
    · rfl
    · split <;> rfl
  have pieces : Pieces [⟨[7, 9], 0x9000⟩] [7, 9] :=
    ⟨rfl, by simp, by simp, by simp [StatusWord.kind]⟩
  have obtained : (standard true).Obtains oneRecord stored.peer key [1, 2, 3] :=
    ⟨fun unsigned => (by cases unsigned), fun _ => rfl⟩
  obtain ⟨same, chunks, readBack⟩ := store_then_read (standard true) rfl rfl key [1, 2, 3]
    (by decide) [7, 9] (by decide) oneRecord () obtained taken
  rw [chunks, same] at readBack
  dsimp only at readBack
  have replies : read.replies =
      [.ofBytes [0, 2, 0x90, 0], .ofBytes [7, 9, 0x90, 0], .ofBytes [0x90, 0]] := rfl
  have keeps : KeepsTo read.replies (readScript [(7 : UInt8), 9].length [⟨[7, 9], 0x9000⟩]) := by
    rw [replies]
    exact ⟨rfl, rfl, ⟨_, rfl⟩, trivial⟩
  exact ⟨same, chunks, readBack _ pieces keeps⟩

end Session

end CardVault
