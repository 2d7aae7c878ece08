import CardVault.Proofs.ReadCourse
import CardVault.Proofs.ServedRead

/-!
A read of a session against any card, put together from its three calls. Where one of them breaks off,
the read is over with that failure and the session has dropped it.
-/

namespace CardVault

open Dialogue

variable {σ : Type}

namespace Session

variable {session : Session} {transfer : Transfer} (peer : Peer σ) (state : σ)

/-- A read breaks off at a step: the reply is at fault, and the session has dropped the read. -/
structure BreaksOff (session : Session) (step : ReadStep) (reply : Reply) (failure : Failure)
    (left : Session) : Prop where
  fault : ReadFault step reply failure.blamed
  dropped : left = { session.abort with usable := decide (failure.kind ≠ .connectionUnavailable) }

theorem after_breaksOff {step : ReadStep} {reply : Reply} {fault : Fault} {reached : Session}
    (usable : reached.usable = true) (same : reached.abort = session.abort)
    (faulty : ReadFault step reply fault.failure.blamed) :
    session.BreaksOff step reply fault.failure (reached.after fault.failure.kind) where
  fault := faulty
  dropped := by
    have inTurn : fault.failure.kind.isOutOfTurn = false := faulty.inTurn
    unfold after
    by_cases lost : fault.failure.kind = .connectionUnavailable
    · simp [lost, same]
    · simp only [lost, inTurn, Bool.false_eq_true, ↓reduceIte, ne_eq, not_false_eq_true,
        decide_true, ← same]
      exact congrArg (fun usable => { reached.abort with usable := usable }) usable

theorem authorize_course {key : RecordKey} {signature : Bytes}
    (obtained : session.Obtains peer state key signature) (short : signature.length ≤ 255) :
    let transcript := (session.authorizer.authorize key).run peer state
    transcript.value = .ok ⟨key, signature⟩ ∧ transcript.sent = [] ∧ transcript.replies = [] := by
  intro transcript
  obtain ⟨purposes, given⟩ := authorize_served peer state obtained short (by simp [KeepsTo])
  have silent : ∀ event ∈ transcript.events, event.purpose? = none :=
    List.filterMap_eq_nil_iff.mp purposes
  refine ⟨given, List.filterMap_eq_nil_iff.mpr ?_, List.filterMap_eq_nil_iff.mpr ?_⟩
  all_goals
    intro event member
    have unsent := silent event member
    cases event with
    | sent purpose frame reply => cases unsent
    | signed subject signature => rfl

theorem beginRead_course (usable : session.usable = true) (free : session.active = none)
    (ordinary : ∀ frame state, (peer.answer frame state).1.Ordinary) {key : RecordKey}
    {signature : Bytes} (obtained : session.Obtains peer state key signature)
    (fits : 3 + key.username.length + key.address.length + signature.length ≤ 255) :
    let transcript := (session.beginRead key).run peer state
    ∃ opening,
      transcript.sent =
        [(ReadStep.init.command session.settings (key.wire ++ Field.encode signature)).frame] ∧
      transcript.replies = [opening] ∧
      match transcript.value with
      | (.ok _, begun) => ∃ total, opening.Announces total ∧ total ≤ 65535 ∧
          begun = { session with
            active := some ⟨.read, .init, 0, some (UInt64.ofNat total), 0⟩
            collected := [] }
      | (.error failure, left) => session.BreaksOff .init opening failure left := by
  intro transcript
  obtain ⟨wire, wireFits⟩ := Envelope.wire_fits fits
  obtain ⟨authorized, unsent, unanswered⟩ :=
    authorize_course peer state obtained (by omega)
  obtain ⟨opening, sent, replies, came⟩ := Transfer.beginRead_course session.settings peer
    ((session.authorizer.authorize key).run peer state).peer ordinary ⟨key, signature⟩ _ wire
    wireFits
  have ran : transcript = (session.beginRead key).run peer state := rfl
  simp only [beginRead, whenFree_eq usable free, run_map, run_bind, authorized] at ran
  rw [ran]
  refine ⟨opening, ?_, ?_, ?_⟩
  · simp only [Transcript.sent, List.filterMap_append] at unsent sent ⊢
    rw [unsent, sent, List.nil_append]
  · simp only [Transcript.replies, List.filterMap_append] at unanswered replies ⊢
    rw [unanswered, replies, List.nil_append]
  · cases result : ((Transfer.beginRead session.settings ⟨key, signature⟩).run peer
        ((session.authorizer.authorize key).run peer state).peer).value with
    | ok transfer =>
        rw [result] at came
        obtain ⟨total, announced, small, rfl⟩ := came
        exact ⟨total, announced, small, rfl⟩
    | error fault =>
        rw [result] at came
        exact after_breaksOff usable rfl came

theorem continueRead_course (usable : session.usable = true)
    (ordinary : ∀ frame state, (peer.answer frame state).1.Ordinary) (total : Nat)
    (small : total ≤ 65535)
    (active : session.active = some ⟨.read, .init, 0, some (UInt64.ofNat total), 0⟩)
    (empty : session.collected = []) :
    let transcript := session.continueRead.run peer state
    transcript.events = transcript.replies.map (Transfer.pulled session.settings) ∧
      match transcript.value with
      | (.ok _, moved) => Drained total transcript.replies ∧
          ∃ transfer : Transfer, transfer.accepts .read = true ∧ moved = { session with
            active := some transfer
            collected := brought transcript.replies }
      | (.error failure, left) => ∃ pulls last, transcript.replies = pulls ++ [last] ∧
          GoesOn total pulls ∧ (brought pulls).length < total ∧
          session.BreaksOff .pull last failure left := by
  intro transcript
  obtain ⟨⟨events, whole⟩, halts, still⟩ :=
    Transfer.continueRead_course session.settings peer state ordinary total small
  have ran : transcript = session.continueRead.run peer state := rfl
  simp only [continueRead, whenActive_eq usable active, run_map] at ran
  rw [ran]
  refine ⟨events, ?_⟩
  unfold Transfer.Halts at halts
  cases result : ((Transfer.continueRead session.settings
      ⟨.read, .init, 0, some (UInt64.ofNat total), 0⟩).run peer state).value with
  | mk outcome after =>
      rw [result] at whole halts still
      cases outcome with
      | ok bytes =>
          refine ⟨halts, after, still bytes rfl, ?_⟩
          have gathered := whole bytes rfl
          simp only [List.reverse_nil, List.flatten_nil, List.nil_append] at gathered
          simp only [settle, empty, List.nil_append, gathered]
          rfl
      | error fault =>
          obtain ⟨pulls, last, replies, going, missing, faulty⟩ := halts
          exact ⟨pulls, last, replies, going, missing, after_breaksOff usable rfl faulty⟩

theorem finalizeRead_course (usable : session.usable = true)
    (ordinary : ∀ frame state, (peer.answer frame state).1.Ordinary)
    (active : session.active = some transfer) (open_ : transfer.accepts .read = true) :
    let transcript := session.finalizeRead.run peer state
    ∃ closing,
      transcript.sent = [(ReadStep.close.command session.settings []).frame] ∧
      transcript.replies = [closing] ∧
      match transcript.value with
      | (.ok payload, left) => (∃ response, closing.response? = some response) ∧
          payload = session.collected ∧ left = session.abort
      | (.error failure, left) => session.BreaksOff .close closing failure left := by
  intro transcript
  obtain ⟨closing, events, came⟩ :=
    Transfer.finalizeRead_course session.settings peer state ordinary transfer open_
  have ran : transcript = session.finalizeRead.run peer state := rfl
  simp only [finalizeRead, whenActive_eq usable active, run_map] at ran
  rw [ran]
  simp only [Transcript.sent, Transcript.replies, events]
  refine ⟨closing, rfl, rfl, ?_⟩
  cases result : ((Transfer.finalizeRead session.settings transfer).run peer state).value with
  | mk outcome after =>
      rw [result] at came
      cases outcome with
      | ok success => exact ⟨came, rfl, rfl⟩
      | error fault => exact after_breaksOff usable rfl came

/-- What a read that came to a verdict returns and leaves behind. -/
def CameTo (session : Session) :
    Except (ErrorKind × Option StatusWord) Bytes → Outcome Bytes × Session → Prop
  | .ok bytes, value => value = (.ok bytes, session.abort)
  | .error (kind, status), value => ∃ message, value = (.error ⟨kind, status, message⟩,
      { session.abort with usable := decide (kind ≠ .connectionUnavailable) })

theorem BreaksOff.cameTo {step : ReadStep} {reply : Reply} {failure : Failure} {left : Session}
    (broken : session.BreaksOff step reply failure left) :
    session.CameTo (.error failure.blamed) (.error failure, left) :=
  ⟨failure.message, by rw [broken.dropped]⟩

theorem CameTo.of_abort {reached : Session} {verdict : Except (ErrorKind × Option StatusWord) Bytes}
    {value : Outcome Bytes × Session} (came : reached.CameTo verdict value)
    (same : reached.abort = session.abort) : session.CameTo verdict value := by
  unfold CameTo at came ⊢
  rw [← same]
  exact came

theorem drain_course (usable : session.usable = true)
    (ordinary : ∀ frame state, (peer.answer frame state).1.Ordinary) (total : Nat)
    (small : total ≤ 65535)
    (active : session.active = some ⟨.read, .init, 0, some (UInt64.ofNat total), 0⟩)
    (empty : session.collected = []) (request : Bytes) {opening : Reply}
    (announced : opening.Announces total) :
    let transcript :=
      (andThen session.continueRead fun _ moved => moved.finalizeRead).run peer state
    ∃ steps verdict,
      transcript.sent = steps.map (fun step => (step.command session.settings request).frame) ∧
      ReadCourse (.init :: steps) (opening :: transcript.replies) verdict ∧
      session.CameTo verdict transcript.value := by
  obtain ⟨events, came⟩ := continueRead_course peer state usable ordinary total small active empty
  generalize gave : (session.continueRead.run peer state).replies = pulls at events came
  have asked := Transfer.pulled_frames session.settings request pulls
  rw [← events] at asked
  cases result : (session.continueRead.run peer state).value with
  | mk outcome moved =>
      rw [result] at came
      cases outcome with
      | error failure =>
          obtain ⟨before, last, rfl, going, missing, broken⟩ := came
          simp only [andThen_run_error peer state result]
          refine ⟨_, .error failure.blamed, asked, ?_, broken.cameTo⟩
          simp only [Transcript.replies] at gave ⊢
          rw [gave]
          exact .broken announced going missing broken.fault
      | ok bytes =>
          obtain ⟨drained, transfer, open_, same⟩ := came
          have movedUsable : moved.usable = true := by rw [same]; exact usable
          have movedSettings : moved.settings = session.settings := by rw [same]
          have dropped : moved.abort = session.abort := by rw [same]; rfl
          obtain ⟨closing, sent, replies, ended⟩ := finalizeRead_course peer
            (session.continueRead.run peer state).peer movedUsable ordinary (by rw [same]) open_
          simp only [andThen_run_ok peer state result, Transcript.sent, Transcript.replies,
            List.filterMap_append] at gave sent replies ⊢
          rw [asked, gave, sent, replies, movedSettings]
          refine ⟨List.replicate pulls.length .pull ++ [.close], ?_⟩
          rw [List.map_append]
          cases closed : (moved.finalizeRead.run peer
              (session.continueRead.run peer state).peer).value with
          | mk outcome left =>
              rw [closed] at ended
              cases outcome with
              | ok payload =>
                  obtain ⟨⟨response, answer⟩, rfl, rfl⟩ := ended
                  refine ⟨.ok _, rfl, .closed announced drained answer, ?_⟩
                  rw [dropped, same]
                  rfl
              | error failure =>
                  exact ⟨.error failure.blamed, rfl, .unclosed announced drained ended.fault,
                    ended.cameTo.of_abort dropped⟩

theorem read_course (usable : session.usable = true) (free : session.active = none)
    (ordinary : ∀ frame state, (peer.answer frame state).1.Ordinary) {key : RecordKey}
    {signature : Bytes} (obtained : session.Obtains peer state key signature)
    (fits : 3 + key.username.length + key.address.length + signature.length ≤ 255) :
    let transcript := (session.read key).run peer state
    ∃ steps verdict,
      transcript.sent = steps.map (fun step =>
        (step.command session.settings (key.wire ++ Field.encode signature)).frame) ∧
      ReadCourse steps transcript.replies verdict ∧ session.CameTo verdict transcript.value := by
  obtain ⟨opening, sent, replies, came⟩ :=
    beginRead_course peer state usable free ordinary obtained fits
  cases result : ((session.beginRead key).run peer state).value with
  | mk outcome begun =>
      rw [result] at came
      cases outcome with
      | error failure =>
          simp only [read, andThen_run_error peer state result]
          refine ⟨[.init], .error failure.blamed, sent, ?_, came.cameTo⟩
          simp only [Transcript.replies] at replies ⊢
          rw [replies]
          exact .unopened came.fault
      | ok value =>
          obtain ⟨total, announced, small, same⟩ := came
          have begunUsable : begun.usable = true := by rw [same]; exact usable
          have begunSettings : begun.settings = session.settings := by rw [same]
          have dropped : begun.abort = session.abort := by rw [same]; rfl
          obtain ⟨steps, verdict, frames, course, outcome⟩ := drain_course peer
            ((session.beginRead key).run peer state).peer begunUsable ordinary total small
            (by rw [same]) (by rw [same]) (key.wire ++ Field.encode signature) announced
          simp only [read, andThen_run_ok peer state result, Transcript.sent, Transcript.replies,
            List.filterMap_append] at sent replies frames course ⊢
          rw [sent, replies, frames, begunSettings]
          exact ⟨.init :: steps, verdict, rfl, course, outcome.of_abort dropped⟩

/-- A read against any card goes by the answers: they decide which frames are sent, whether the read
fails and with what, and which bytes it gives back. -/
theorem read_goes_by_answers (session : Session) (usable : session.usable = true)
    (free : session.active = none) (key : RecordKey) (signature : Bytes)
    (fits : 3 + key.username.length + key.address.length + signature.length ≤ 255) (peer : Peer σ)
    (ordinary : ∀ frame state, (peer.answer frame state).1.Ordinary) (state : σ)
    (obtained : session.Obtains peer state key signature) :
    let transcript := (session.perform (.read key)).run peer state
    ∃ steps verdict,
      transcript.sent = steps.map (fun step =>
        (step.command session.settings (key.wire ++ Field.encode signature)).frame) ∧
      ReadCourse steps transcript.replies verdict ∧
      match verdict with
      | .ok bytes => transcript.value = (some (.ok (some bytes)), session.abort)
      | .error (kind, status) => ∃ message,
          transcript.value = (some (.error ⟨kind, status, message⟩),
            { session.abort with usable := decide (kind ≠ .connectionUnavailable) }) := by
  obtain ⟨steps, verdict, sent, course, came⟩ :=
    read_course peer state usable free ordinary obtained fits
  simp only [perform, shown, run_map]
  refine ⟨steps, verdict, sent, course, ?_⟩
  cases verdict with
  | ok bytes => rw [came]; rfl
  | error blamed =>
      obtain ⟨message, same⟩ := came
      exact ⟨message, by rw [same]; rfl⟩

def servesPairs : Peer Nat where
  answer frame before :=
    (if frame.getD 1 0 = 0x20 then .ofBytes [0, 3, 0x90, 0]
      else if frame.getD 1 0 = 0x21 then .ofBytes [7, UInt8.ofNat before, 0x61, 0]
      else .ofBytes [0x69, 0x85], before + 1)
  sign _ before := (.ok [], before)

theorem read_of_pairs :
    let key : RecordKey := ⟨text "u", text "a", by decide, by decide⟩
    let transcript := ((standard false).perform (.read key)).run servesPairs 0
    transcript.value = (some (.ok (some [7, 1, 7, 2])), standard false) ∧
      ∃ steps verdict,
        transcript.sent = steps.map (fun step =>
          (step.command {} (key.wire ++ Field.encode [])).frame) ∧
        ReadCourse steps transcript.replies verdict ∧
        match verdict with
        | .ok bytes => transcript.value = (some (.ok (some bytes)), standard false)
        | .error (kind, status) => ∃ message,
            transcript.value = (some (.error ⟨kind, status, message⟩),
              { standard false with usable := decide (kind ≠ .connectionUnavailable) }) := by
  intro key transcript
  refine ⟨rfl, ?_⟩
  refine read_goes_by_answers (standard false) rfl rfl key [] (by decide) servesPairs ?_ 0
    ⟨fun _ => rfl, fun signer => by cases signer⟩
  intro frame before fault failed
  simp only [servesPairs] at failed
  split at failed
  · cases failed
  · split at failed <;> cases failed

end Session

end CardVault
