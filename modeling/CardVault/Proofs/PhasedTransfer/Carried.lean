import CardVault.Proofs.OpenTransfer
import CardVault.Proofs.Raised.Calls
import CardVault.Proofs.ReadCourse
import CardVault.Proofs.RoundTrip

/-!
What the calls of a session carry in a direction. Only a CONTINUE carries data, so beginning and
finalizing carry none; a store that goes on carries the payload that it is given, and a read that goes
on returns what the answers have carried.
-/

namespace CardVault

open Dialogue

variable {α β σ : Type}

/-- The data that an event carries in a direction: what a CONTINUE takes to the card, whether the
card likes it or not, and what an answer to one brings back. -/
def Event.carried? : Direction → Event → Option Bytes
  | .store, .sent (.later .store .advance) frame _ => some (Command.payload frame)
  | .read, .sent (.later .read .advance) _ reply => reply.response?.map (·.data)
  | _, _ => none

def carriedBy (direction : Direction) (events : List Event) : Bytes :=
  (events.filterMap (Event.carried? direction)).flatten

theorem carriedBy_append (direction : Direction) (first second : List Event) :
    carriedBy direction (first ++ second) =
      carriedBy direction first ++ carriedBy direction second := by
  simp [carriedBy]

theorem carriedBy_others {direction : Direction} {events : List Event}
    (others : ∀ event ∈ events, event.purpose? ≠ some (.later direction .advance)) :
    carriedBy direction events = [] := by
  have empty : ∀ event ∈ events, event.carried? direction = none := by
    intro event member
    have other := others event member
    unfold Event.carried?
    split
    · exact absurd rfl other
    · exact absurd rfl other
    · rfl
  simp [carriedBy, List.filterMap_eq_nil_iff.mpr empty]

theorem carriedBy_pulled (settings : Settings) (replies : List Reply) :
    carriedBy .read (replies.map (Transfer.pulled settings)) = brought replies := by
  simp only [carriedBy, brought, List.filterMap_map]
  rfl

theorem planned_carries (planned : Planned) (reply : Reply) :
    Event.carried? .store (.sent planned.purpose planned.command.frame reply) = planned.moved? := by
  unfold Planned.moved?
  cases planned.purpose with
  | init direction => simp [Event.carried?]
  | later direction step => cases direction <;> cases step <;> simp [Event.carried?]
  | fixed operation => simp [Event.carried?]
  | plain => simp [Event.carried?]

theorem Pursues.carried {plan : List Planned} {events : List Event} (pursues : Pursues plan events) :
    carriedBy .store events = (plan.filterMap Planned.moved?).flatten := by
  unfold carriedBy
  congr 1
  induction pursues with
  | nil => rfl
  | cons sent _ ih =>
      obtain ⟨reply, rfl⟩ := sent
      simp only [List.filterMap_cons, planned_carries, ih]

theorem Walk.carried {plan : List Planned} {events : List Event} (walk : Walk plan events none) :
    carriedBy .store events = (plan.filterMap Planned.moved?).flatten := by
  obtain ⟨done, undone, rfl, pursues, whole⟩ := walk.pursues
  rw [pursues.carried, whole rfl, List.append_nil]

namespace Dialogue

def SendsFor (purpose : Purpose) (dialogue : Dialogue α) : Prop :=
  ∀ past, Ensures (fun _ sent _ => sent = purpose) (fun _ _ => True) dialogue past

variable {purpose : Purpose} {dialogue : Dialogue α}

theorem sendsFor_done (value : α) : SendsFor purpose (.done value) :=
  fun _ => trivial

theorem sendsFor_bind {next : α → Dialogue β} (first : SendsFor purpose dialogue)
    (onward : ∀ value, SendsFor purpose (next value)) : SendsFor purpose (dialogue.bind next) :=
  fun past => ensures_bind (first past) fun later value _ => onward value later

theorem sendsFor_map {change : α → β} (first : SendsFor purpose dialogue) :
    SendsFor purpose (dialogue.map change) :=
  sendsFor_bind first fun value => sendsFor_done (change value)

theorem sendsFor_exchange (command : Command) : SendsFor purpose (exchangeFor purpose command) :=
  fun _ => ensures_exchange purpose command (fun _ _ => rfl) (fun _ _ => trivial)
    fun _ _ _ => trivial

theorem sendsFor_run (sends : SendsFor purpose dialogue) (peer : Peer σ) (state : σ)
    {event : Event} (member : event ∈ (dialogue.run peer state).events) :
    event.purpose? = none ∨ event.purpose? = some purpose := by
  obtain ⟨_, frames⟩ := ensures_run (sends []) peer state
  cases event with
  | signed subject signature => exact Or.inl rfl
  | sent other frame reply =>
      obtain ⟨before, after, split⟩ := List.append_of_mem member
      exact Or.inr (congrArg some (frames before other frame reply after split))

theorem sendsFor_carries {direction : Direction} (sends : SendsFor purpose dialogue)
    (other : purpose ≠ .later direction .advance) (peer : Peer σ) (state : σ) :
    carriedBy direction (dialogue.run peer state).events = [] := by
  apply carriedBy_others
  intro event member
  rcases sendsFor_run sends peer state member with signed | sent
  · simp [signed]
  · simpa [sent] using other

end Dialogue

theorem Transfer.continueRead_carries (settings : Settings) (transfer : Transfer) (peer : Peer σ)
    (state : σ) {chunk : Bytes}
    (given : ((transfer.continueRead settings).run peer state).value.1 = .ok chunk) :
    carriedBy .read ((transfer.continueRead settings).run peer state).events = chunk := by
  unfold Transfer.continueRead at given ⊢
  split at given
  · rename_i open_
    simp only [open_, ↓reduceIte]
    split at given
    · rename_i room
      obtain ⟨events, whole⟩ := Transfer.pullAll_gathers settings peer state mostRounds transfer []
      rw [events, carriedBy_pulled, whole chunk given]
      rfl
    · cases given
  · cases given

namespace Session

variable {session : Session} {purpose : Purpose} (peer : Peer σ) (state : σ)

theorem whenFree_sends {body : Dialogue (Except Fault α × Session)} (sends : SendsFor purpose body) :
    SendsFor purpose (session.whenFree body) := by
  unfold whenFree
  split
  · split
    · exact sendsFor_done _
    · exact sendsFor_map sends
  · exact sendsFor_done _

theorem whenActive_sends {body : Transfer → Dialogue (Except Fault α × Session)}
    (sends : ∀ transfer, SendsFor purpose (body transfer)) :
    SendsFor purpose (session.whenActive body) := by
  unfold whenActive
  split
  · split
    · exact sendsFor_map (sends _)
    · exact sendsFor_done _
  · exact sendsFor_done _

theorem beginStore_sends (key : RecordKey) : SendsFor (.init .store) (session.beginStore key) :=
  whenFree_sends (sendsFor_map (sendsFor_map (sendsFor_exchange _)))

theorem beginRead_sends (key : RecordKey) : SendsFor (.init .read) (session.beginRead key) := by
  apply whenFree_sends
  apply sendsFor_bind
  · apply sendsFor_map
    unfold Authorizer.sign
    split
    · exact fun _ _ => trivial
    · exact sendsFor_done _
  · intro authorized
    cases authorized with
    | error fault => exact sendsFor_done _
    | ok envelope =>
        apply sendsFor_map
        unfold Transfer.beginRead
        split
        · exact sendsFor_done _
        · exact sendsFor_map (sendsFor_exchange _)

theorem finalizeStore_sends : SendsFor (.later .store .finalize) session.finalizeStore := by
  apply whenActive_sends
  intro transfer
  apply sendsFor_map
  unfold Transfer.finalizeStore
  split
  · exact sendsFor_map (sendsFor_map (sendsFor_exchange _))
  · exact sendsFor_done _

theorem finalizeRead_sends : SendsFor (.later .read .finalize) session.finalizeRead := by
  apply whenActive_sends
  intro transfer
  apply sendsFor_map
  unfold Transfer.finalizeRead
  split
  · exact sendsFor_map (sendsFor_map (sendsFor_exchange _))
  · exact sendsFor_done _

theorem continueStore_carries (carries : session.Carries .store) (payload : Bytes) {value : Unit}
    (given : (((session.continueStore payload).run peer state).value).1 = .ok value) :
    carriedBy .store ((session.continueStore payload).run peer state).events = payload := by
  obtain ⟨usable, transfer, active, open_⟩ := carries
  have walk := (continueStore_follows peer state usable active open_ payload).walk
  rw [given] at walk
  rw [walk.carried, chunkPlan_moved _ _ (session.slices_fit payload), slices_flatten]

theorem continueRead_carries (carries : session.Carries .read) {chunk : Bytes}
    (given : (session.continueRead.run peer state).value.1 = .ok chunk) :
    carriedBy .read (session.continueRead.run peer state).events = chunk := by
  obtain ⟨usable, transfer, active, _⟩ := carries
  simp only [continueRead, whenActive_eq usable active, run_map] at given ⊢
  apply transfer.continueRead_carries session.settings peer state
  cases result : ((transfer.continueRead session.settings).run peer state).value with
  | mk outcome after =>
      rw [result] at given
      cases outcome with
      | ok bytes =>
          cases given
          rfl
      | error fault => cases given

theorem andThen_ok {first : Dialogue (Outcome α × Session)}
    {next : α → Session → Dialogue (Outcome β × Session)} {value : β}
    (given : ((andThen first next).run peer state).value.1 = .ok value) :
    ∃ middle reached, (first.run peer state).value = (.ok middle, reached) ∧
      let rest := (next middle reached).run peer (first.run peer state).peer
      rest.value.1 = .ok value ∧ ((andThen first next).run peer state).events =
        (first.run peer state).events ++ rest.events := by
  cases result : (first.run peer state).value with
  | mk outcome reached =>
      cases outcome with
      | ok middle =>
          simp only [andThen_run_ok peer state result] at given ⊢
          exact ⟨middle, reached, rfl, given, rfl⟩
      | error failure =>
          simp only [andThen_run_error peer state result] at given
          cases given

theorem read_carries (free : session.Free) (key : RecordKey) {payload : Bytes}
    (given : ((session.read key).run peer state).value.1 = .ok payload) :
    carriedBy .read ((session.read key).run peer state).events = payload := by
  rw [read] at given ⊢
  obtain ⟨_, begun, opened, given, events⟩ := andThen_ok peer state given
  obtain ⟨_, carries, empty⟩ := candid_ok (beginRead_candid free key) peer _ opened
  obtain ⟨chunk, moved, pulled, given, later⟩ := andThen_ok peer _ given
  obtain ⟨_, still, collected⟩ := candid_ok (continueRead_candid carries) peer _ pulled
  obtain ⟨_, whole, _⟩ := candid_ok (finalizeRead_candid still) peer _ (Prod.ext given rfl)
  have opening : carriedBy .read ((session.beginRead key).run peer state).events = [] :=
    sendsFor_carries (session.beginRead_sends key) (by simp) peer state
  have passed : carriedBy .read (begun.continueRead.run peer _).events = chunk :=
    continueRead_carries peer _ carries (congrArg Prod.fst pulled)
  have closing (now : σ) : carriedBy .read (moved.finalizeRead.run peer now).events = [] :=
    sendsFor_carries moved.finalizeRead_sends (by simp) peer now
  rw [events, later, carriedBy_append, carriedBy_append, opening, passed, closing, whole,
    collected, empty]
  simp

end Session

end CardVault
