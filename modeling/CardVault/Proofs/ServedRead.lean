import CardVault.Session.Call
import CardVault.Transfer.Steps

/-!
Conversations with a card that keeps to a script. A script lists the frames that are expected and
the answers that it allows; a conversation is served by it if, whenever the card keeps to the script,
the frames are those of the script, no more and no fewer, and the outcome is as wanted.
-/

namespace CardVault

section

variable {α β σ : Type}

structure Cue where
  purpose : Purpose
  answer : Reply → Prop

/-- Replies keep to a script as far as both go. -/
def KeepsTo : List Reply → List Cue → Prop
  | reply :: replies, cue :: script => cue.answer reply ∧ KeepsTo replies script
  | _, _ => True

def Served (script : List Cue) (wanted : α → Prop) (transcript : Transcript σ α) : Prop :=
  KeepsTo transcript.replies script →
    transcript.purposes = script.map (·.purpose) ∧ wanted transcript.value

theorem keepsTo_first (first second : List Reply) (script more : List Cue)
    (keeps : KeepsTo (first ++ second) (script ++ more)) : KeepsTo first script := by
  induction first generalizing script with
  | nil => simp [KeepsTo]
  | cons reply first ih =>
      cases script with
      | nil => simp [KeepsTo]
      | cons cue script => exact ⟨keeps.1, ih script keeps.2⟩

theorem keepsTo_second (first second : List Reply) (script more : List Cue)
    (size : first.length = script.length)
    (keeps : KeepsTo (first ++ second) (script ++ more)) : KeepsTo second more := by
  induction first generalizing script with
  | nil =>
      rw [List.length_eq_zero_iff.mp size.symm] at keeps
      exact keeps
  | cons reply first ih =>
      cases script with
      | nil => cases size
      | cons cue script => exact ih script (Nat.succ.inj size) keeps.2

namespace Served

variable {script more : List Cue} {wanted : α → Prop} {rest : Transcript σ α}

theorem silent {value : α} (holds : wanted value) (last : σ) :
    Served [] wanted (⟨value, [], last⟩ : Transcript σ α) :=
  fun _ => ⟨rfl, holds⟩

theorem sent {cue : Cue} (frame : Bytes) (reply : Reply)
    (onward : cue.answer reply → Served script wanted rest) :
    Served (cue :: script) wanted
      ⟨rest.value, .sent cue.purpose frame reply :: rest.events, rest.peer⟩ := by
  intro keeps
  obtain ⟨answered, keepsOn⟩ := keeps
  obtain ⟨purposes, holds⟩ := onward answered keepsOn
  exact ⟨congrArg (cue.purpose :: ·) purposes, holds⟩

theorem signed (subject : Bytes) (signature : Signature) (served : Served script wanted rest) :
    Served script wanted ⟨rest.value, .signed subject signature :: rest.events, rest.peer⟩ :=
  served

theorem weaken {weak : α → Prop} (served : Served script wanted rest)
    (enough : ∀ value, wanted value → weak value) : Served script weak rest := by
  intro keeps
  obtain ⟨purposes, holds⟩ := served keeps
  exact ⟨purposes, enough _ holds⟩

theorem as_many_replies (events : List Event) :
    (events.filterMap Event.reply?).length = (events.filterMap Event.purpose?).length := by
  induction events with
  | nil => rfl
  | cons event events ih =>
      cases event with
      | sent purpose frame reply => simpa [Event.reply?, Event.purpose?] using ih
      | signed subject signature => exact ih

theorem append {desired : β → Prop} {second : Transcript σ β} (first : Served script wanted rest)
    (onward : wanted rest.value → Served more desired second) :
    Served (script ++ more) desired
      ⟨second.value, rest.events ++ second.events, second.peer⟩ := by
  intro keeps
  simp only [Transcript.replies, List.filterMap_append] at keeps
  obtain ⟨purposes, holds⟩ := first (keepsTo_first _ _ _ _ keeps)
  -- The first part used up its script, so the second starts where its own begins.
  have size : rest.replies.length = script.length := by
    have counted := as_many_replies rest.events
    have listed := congrArg List.length purposes
    simp only [Transcript.purposes, List.length_map] at listed
    exact counted.trans listed
  obtain ⟨others, wantedLast⟩ := onward holds (keepsTo_second _ _ _ _ size keeps)
  refine ⟨?_, wantedLast⟩
  simp only [Transcript.purposes, List.filterMap_append, List.map_append] at purposes others ⊢
  rw [purposes, others]

section Dialogue

variable {peer : Peer σ} {state : σ} {dialogue : Dialogue α} {desired : β → Prop}

theorem bind {next : α → Dialogue β} (first : Served script wanted (dialogue.run peer state))
    (onward : ∀ value later, wanted value → Served more desired ((next value).run peer later)) :
    Served (script ++ more) desired ((dialogue.bind next).run peer state) := by
  rw [Dialogue.run_bind]
  exact first.append fun holds => onward _ _ holds

theorem map {change : α → β}
    (served : Served script (fun value => desired (change value)) (dialogue.run peer state)) :
    Served script desired ((dialogue.map change).run peer state) := by
  rw [Dialogue.run_map]
  exact served

end Dialogue

end Served

end

/-!
A read from a card that announces the length of a payload and then serves the payload in pieces.
The pieces may be cut anywhere; as long as each brings something, the read asks for every one of them
and for nothing more, and gives back the payload.
-/

section

open Dialogue

variable {α ε β σ : Type}

/-- The pieces of a payload: none is empty, each but the last promises more, and the last may. -/
structure Pieces (pieces : List Response) (payload : Bytes) : Prop where
  whole : (pieces.map (·.data)).flatten = payload
  filled : ∀ piece ∈ pieces, piece.data ≠ []
  promising : ∀ piece ∈ pieces.dropLast, piece.status.kind = .moreData
  fine : ∀ piece ∈ pieces, piece.status.kind ≠ .failure

theorem Pieces.rest {piece : Response} {pieces : List Response} {payload : Bytes}
    (cut : Pieces (piece :: pieces) payload) :
    Pieces pieces (pieces.map (·.data)).flatten where
  whole := rfl
  filled := fun other member => cut.filled other (List.mem_cons_of_mem _ member)
  promising := by
    intro other member
    apply cut.promising
    cases pieces with
    | nil => cases member
    | cons second pieces => exact List.mem_cons_of_mem _ member
  fine := fun other member => cut.fine other (List.mem_cons_of_mem _ member)

theorem Pieces.last {piece : Response} {pieces : List Response} {payload : Bytes}
    (cut : Pieces (piece :: pieces) payload) (success : piece.status.kind = .success) :
    pieces = [] := by
  cases pieces with
  | nil => rfl
  | cons second pieces =>
      have promised := cut.promising piece List.mem_cons_self
      rw [success] at promised
      cases promised

theorem Pieces.length_le {pieces : List Response} {payload : Bytes} (cut : Pieces pieces payload) :
    pieces.length ≤ payload.length := by
  induction pieces generalizing payload with
  | nil => exact Nat.zero_le _
  | cons piece pieces ih =>
      have later := ih cut.rest
      have some := List.length_pos_iff.mpr (cut.filled piece List.mem_cons_self)
      rw [← cut.whole]
      simp only [List.map_cons, List.flatten_cons, List.length_append, List.length_cons]
      omega

def openingCue (size : Nat) : Cue where
  purpose := .init .read
  answer reply :=
    reply.response? = some ⟨[UInt8.ofNat (size / 256), UInt8.ofNat (size % 256)], 0x9000⟩

def pieceCue (piece : Response) : Cue where
  purpose := .later .read .advance
  answer reply := reply.response? = some piece

def closingCue : Cue where
  purpose := .later .read .finalize
  answer reply := ∃ response, reply.response? = some response

def Succeeds (good : α → β → Prop) : Except ε α × β → Prop
  | (.ok value, after) => good value after
  | (.error _, _) => False

namespace Transfer

variable (settings : Settings) (peer : Peer σ) (state : σ)

theorem pullAll_served (pieces : List Response) (payload : Bytes) (cut : Pieces pieces payload)
    (rounds : Nat) (enough : pieces.length ≤ rounds) (transfer : Transfer) (total : UInt64)
    (announced : transfer.total = some total)
    (left : transfer.moved.toNat + payload.length = total.toNat)
    (open_ : transfer.accepts .read = true) (chunks : List Bytes) :
    Served (pieces.map pieceCue)
      (Succeeds fun bytes after =>
        bytes = chunks.reverse.flatten ++ payload ∧ after.accepts .read = true)
      ((pullAll settings rounds transfer chunks).run peer state) := by
  induction pieces generalizing payload rounds transfer chunks state with
  | nil =>
      have empty : payload = [] := cut.whole.symm
      subst empty
      have reached : ¬ transfer.moved < transfer.total.getD 0 := by
        rw [announced, Option.getD_some, UInt64.lt_iff_toNat_lt]
        simp only [List.length_nil] at left
        omega
      cases rounds with
      | zero => exact Served.silent ⟨by simp, open_⟩ _
      | succ rounds =>
          simp only [pullAll, reached, ↓reduceIte]
          exact Served.silent ⟨by simp, open_⟩ _
  | cons piece pieces ih =>
      obtain ⟨rounds, rfl⟩ : ∃ fewer, rounds = fewer + 1 :=
        ⟨rounds - 1, by simp only [List.length_cons] at enough; omega⟩
      have whole := cut.whole
      simp only [List.map_cons, List.flatten_cons] at whole
      have size := congrArg List.length whole
      simp only [List.length_append] at size
      have some := List.length_pos_iff.mpr (cut.filled piece List.mem_cons_self)
      have totalBound := total.toNat_lt
      have short : transfer.moved < transfer.total.getD 0 := by
        rw [announced, Option.getD_some, UInt64.lt_iff_toNat_lt]
        omega
      have fits : (pullCommand settings).data.length ≤ 255 := Nat.zero_le _
      rw [pullAll]
      simp only [short, ↓reduceIte, exchangeIn_run _ _ _ fits]
      apply Served.sent
      intro answer
      rw [(Reply.received_eq_ok_iff _ _).mpr answer]
      simp only [exchanged]
      have grown := moving_accepts piece.data.length open_
      cases kind : piece.status.kind with
      | success =>
          have none := cut.last kind
          subst none
          refine Served.silent ⟨?_, grown⟩ _
          simp [← whole]
      | moreData =>
          simp only [cut.filled piece List.mem_cons_self, ↓reduceIte]
          have leftAfter : (transfer.moved + UInt64.ofNat piece.data.length).toNat +
              (pieces.map (·.data)).flatten.length = total.toNat := by
            rw [UInt64.toNat_add, UInt64.toNat_ofNat']
            omega
          have served := ih (peer.answer (pullCommand settings).frame state).2 _ cut.rest rounds
            (Nat.le_of_succ_le_succ enough) ((transfer.enter .draining).count piece.data.length)
            (by simpa using announced) (by simpa using leftAfter) grown (piece.data :: chunks)
          refine served.weaken ?_
          rintro ⟨outcome, after⟩ succeeds
          cases outcome with
          | ok bytes =>
              obtain ⟨collected, still⟩ := succeeds
              exact ⟨by simp [collected, ← whole], still⟩
          | error fault => exact succeeds
      | failure => exact absurd kind (cut.fine piece List.mem_cons_self)

theorem announced_size (size : Nat) (small : size ≤ 65535) :
    Word.read [UInt8.ofNat (size / 256), UInt8.ofNat (size % 256)] 0 =
      .ok (some (UInt16.ofNat size)) := by
  have word : Word.ofBytes (UInt8.ofNat (size / 256)) (UInt8.ofNat (size % 256)) =
      UInt16.ofNat size := by
    apply UInt16.toNat_inj.mp
    rw [Word.toNat_ofBytes, UInt8.toNat_ofNat', UInt8.toNat_ofNat', UInt16.toNat_ofNat']
    omega
  simp [Word.read, Word.at?, word]

theorem beginRead_served (envelope : Envelope) (data : Bytes) (wire : envelope.wire = .ok data)
    (fits : data.length ≤ 255) (size : Nat) (small : size ≤ 65535) :
    Served [openingCue size]
      (fun outcome => outcome = .ok ⟨.read, .init, 0, some (UInt64.ofNat size), 0⟩)
      ((beginRead settings envelope).run peer state) := by
  simp only [beginRead, wire, exchangeFor_fits _ (initCommand settings .read data) fits,
    Dialogue.map, Dialogue.bind, run_send]
  apply Served.sent
  intro answer
  rw [(Reply.received_eq_ok_iff _ _).mpr answer]
  refine Served.silent ?_ _
  have wide : (UInt16.ofNat size).toUInt64 = UInt64.ofNat size := by
    apply UInt64.toNat_inj.mp
    rw [UInt16.toNat_toUInt64, UInt16.toNat_ofNat', UInt64.toNat_ofNat']
    omega
  simp only [announced_size size small, wide]
  rfl

theorem continueRead_served (pieces : List Response) (payload : Bytes)
    (cut : Pieces pieces payload) (small : payload.length ≤ 65535) :
    Served (pieces.map pieceCue)
      (Succeeds fun bytes after => bytes = payload ∧ after.accepts .read = true)
      ((continueRead settings
        ⟨.read, .init, 0, some (UInt64.ofNat payload.length), 0⟩).run peer state) := by
  have size : (UInt64.ofNat payload.length).toNat = payload.length := by
    rw [UInt64.toNat_ofNat']
    exact Nat.mod_eq_of_lt (by omega)
  have served := pullAll_served settings peer state pieces payload cut mostRounds
    (Nat.le_trans cut.length_le (le_mostRounds small))
    ⟨.read, .init, 0, some (UInt64.ofNat payload.length), 0⟩ _ rfl (by simp [size]) rfl []
  rw [continueRead_opened settings small]
  simpa using served

theorem finalizeRead_served (transfer : Transfer) (open_ : transfer.accepts .read = true) :
    Served [closingCue] (Succeeds fun _ _ => True)
      ((finalizeRead settings transfer).run peer state) := by
  have fits : (finalizeCommand settings .read).data.length ≤ 255 := Nat.zero_le _
  simp only [finalizeRead, open_, ↓reduceIte, Dialogue.map, exchangeIn_run _ _ _ fits]
  apply Served.sent
  rintro ⟨response, answer⟩
  rw [(Reply.received_eq_ok_iff _ _).mpr answer]
  exact Served.silent trivial _

end Transfer

namespace Session

variable {session : Session} (peer : Peer σ) (state : σ)

theorem andThen_served {script more : List Cue} {good : α → Session → Prop}
    {wanted : Outcome β × Session → Prop} {first : Dialogue (Outcome α × Session)}
    {next : α → Session → Dialogue (Outcome β × Session)}
    (begun : Served script (Succeeds good) (first.run peer state))
    (onward : ∀ value after later, good value after →
      Served more wanted ((next value after).run peer later)) :
    Served (script ++ more) wanted ((andThen first next).run peer state) := by
  cases result : (first.run peer state).value with
  | mk outcome after =>
      cases outcome with
      | ok value =>
          simp only [andThen_run_ok peer state result]
          apply begun.append
          intro succeeds
          rw [result] at succeeds
          exact onward value after _ succeeds
      | error failure =>
          -- A failure of the first part means that the card has not kept to the script.
          intro keeps
          simp only [andThen_run_error peer state result] at keeps
          have keepsFirst : KeepsTo ((first.run peer state).replies ++ []) (script ++ more) := by
            rw [List.append_nil]
            exact keeps
          have succeeds := begun (keepsTo_first _ [] script more keepsFirst)
          rw [result] at succeeds
          exact succeeds.2.elim

/-- The signature that a session without a signer or with one obtains. -/
structure Obtains (session : Session) (peer : Peer σ) (state : σ) (key : RecordKey)
    (signature : Bytes) : Prop where
  unsigned : session.hasSigner = false → signature = []
  signed : session.hasSigner = true →
    (peer.sign (Authorizer.subject session.settings.digestPolicy key.canonical) state).1 =
      .ok signature

theorem authorize_served {key : RecordKey} {signature : Bytes}
    (obtained : session.Obtains peer state key signature) (short : signature.length ≤ 255) :
    Served [] (· = .ok ⟨key, signature⟩) ((session.authorizer.authorize key).run peer state) := by
  have notLong : ¬ signature.length > 255 := by omega
  cases signer : session.hasSigner with
  | false =>
      have empty := obtained.unsigned signer
      subst empty
      simp only [Authorizer.authorize, Authorizer.sign, authorizer, signer]
      exact Served.silent rfl _
  | true =>
      have given := obtained.signed signer
      simp only [Authorizer.authorize, Authorizer.sign, authorizer, signer, ↓reduceIte,
        Dialogue.map, Dialogue.bind, run, given, notLong]
      exact Served.signed _ _ (Served.silent rfl _)

theorem beginRead_served (usable : session.usable = true) (free : session.active = none)
    {key : RecordKey} {signature : Bytes} (obtained : session.Obtains peer state key signature)
    (fits : 3 + key.username.length + key.address.length + signature.length ≤ 255) (size : Nat)
    (small : size ≤ 65535) :
    Served [openingCue size]
      (Succeeds fun _ after => after = { session with
        active := some ⟨.read, .init, 0, some (UInt64.ofNat size), 0⟩
        collected := [] })
      ((session.beginRead key).run peer state) := by
  obtain ⟨wire, wireFits⟩ := Envelope.wire_fits fits
  have authorized := authorize_served peer state obtained (by omega)
  rw [beginRead, whenFree_eq usable free]
  apply Served.map
  refine Served.bind authorized ?_
  rintro _ later rfl
  apply Served.map
  refine (Transfer.beginRead_served session.settings peer later _ _ wire wireFits size
    small).weaken ?_
  rintro _ rfl
  rfl

variable {transfer : Transfer}

theorem continueRead_served (usable : session.usable = true) (pieces : List Response)
    (payload : Bytes) (cut : Pieces pieces payload) (small : payload.length ≤ 65535)
    (active : session.active =
      some ⟨.read, .init, 0, some (UInt64.ofNat payload.length), 0⟩)
    (empty : session.collected = []) :
    Served (pieces.map pieceCue)
      (Succeeds fun _ after => ∃ transfer : Transfer, transfer.accepts .read = true ∧
        after = { session with active := some transfer, collected := payload })
      (session.continueRead.run peer state) := by
  rw [continueRead, whenActive_eq usable active]
  apply Served.map
  apply Served.map
  refine (Transfer.continueRead_served session.settings peer state pieces payload cut
    small).weaken ?_
  rintro ⟨outcome, after⟩ succeeds
  cases outcome with
  | ok bytes =>
      obtain ⟨rfl, open_⟩ := succeeds
      exact ⟨after, open_, by simp [empty]⟩
  | error fault => exact succeeds.elim

theorem finalizeRead_served (usable : session.usable = true)
    (active : session.active = some transfer) (open_ : transfer.accepts .read = true) :
    Served [closingCue] (· = (.ok session.collected, session.abort))
      (session.finalizeRead.run peer state) := by
  rw [finalizeRead, whenActive_eq usable active]
  apply Served.map
  apply Served.map
  refine (Transfer.finalizeRead_served session.settings peer state transfer open_).weaken ?_
  rintro ⟨outcome, after⟩ succeeds
  cases outcome with
  | ok value => rfl
  | error fault => exact succeeds.elim

def readScript (size : Nat) (pieces : List Response) : List Cue :=
  [openingCue size] ++ (pieces.map pieceCue ++ [closingCue])

theorem read_served (usable : session.usable = true) (free : session.active = none)
    {key : RecordKey} {signature : Bytes} (obtained : session.Obtains peer state key signature)
    (fits : 3 + key.username.length + key.address.length + signature.length ≤ 255)
    (pieces : List Response) (payload : Bytes) (cut : Pieces pieces payload)
    (small : payload.length ≤ 65535) :
    Served (readScript payload.length pieces) (· = (.ok payload, session.abort))
      ((session.read key).run peer state) := by
  apply andThen_served peer state
    (beginRead_served peer state usable free obtained fits payload.length small)
  rintro _ begun later opened
  have begunUsable : begun.usable = true := by rw [opened]; exact usable
  apply andThen_served peer later (continueRead_served peer later begunUsable pieces payload cut
    small (by rw [opened]) (by rw [opened]))
  rintro _ moved last ⟨transfer, open_, drained⟩
  have movedUsable : moved.usable = true := by rw [drained]; exact begunUsable
  have finished := finalizeRead_served peer last movedUsable (by rw [drained]) open_
  have collected : moved.collected = payload := by rw [drained]
  have closed : moved.abort = session.abort := by rw [drained, opened]; rfl
  rw [collected, closed] at finished
  exact finished

end Session

end

end CardVault
