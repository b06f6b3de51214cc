import Pjsip.Base.Run
import Pjsip.Pjmedia.SdpNeg.Negotiator

/-!
# The states of the negotiator

What a call can do, said once, and the invariant that its states name. An offer is
compared with the SDP last sent, which there may not be: a negotiator created with a
remote offer that has agreed on nothing yet has sent nothing.
-/

namespace Pjsip.Pjmedia.SdpNeg

open Pjsip.Base Pjsip.Pjlib Pjsip.Pjmedia.Sdp

/-- The answer that is made to a remote offer. -/
structure Answers (neg : PjmediaSdpNeg) (remote answer : SdpSession) : Prop where
  offered : neg.hasRemoteAnswer = false
  offer : neg.negRemoteSdp = some remote
  made : ∃ loc, neg.negLocalSdp = some loc
    ∧ createAnswer neg.preferRemoteCodecOrder neg.answerWithMultipleCodecs loc remote
      = some (.success, some answer)

/-- What a call can do. A refused call changes at most the two preferences. -/
inductive Moves (neg : PjmediaSdpNeg) : Op → Reply → PjmediaSdpNeg → Prop
  | stays {op : Op} {status : SdpStatus} (preferRemote multiple : Bool) :
      Moves neg op ⟨status, none⟩
        { neg with preferRemoteCodecOrder := preferRemote, answerWithMultipleCodecs := multiple }
  | firstOffered {flags : Nat} {loc sdp : SdpSession} {ptMaps : Nat → PtMap}
      (done : neg.state = .done) (valid : pjmediaSdpValidate loc = .success)
      (idle : neg.activeLocalSdp = none) (built : firstOffer neg loc = some (ptMaps, sdp)) :
      Moves neg (.modifyLocalOffer2 flags loc)
        ⟨.success, some ⟨neg.lastSent, versioned neg.lastSent sdp⟩⟩
        { neg with
          state := .localOffer
          initialSdpTmp := none
          ptMaps := ptMaps
          initialSdp := some sdp
          negLocalSdp := some (versioned neg.lastSent sdp)
          lastSent := some (versioned neg.lastSent sdp) }
  | offered {flags : Nat} {loc old sdp : SdpSession} {ptMaps : Nat → PtMap}
      (done : neg.state = .done) (valid : pjmediaSdpValidate loc = .success)
      (active : neg.activeLocalSdp = some old)
      (built : modifiedOffer neg flags old loc = some (ptMaps, sdp)) :
      Moves neg (.modifyLocalOffer2 flags loc)
        ⟨.success, some ⟨neg.lastSent, versioned neg.lastSent sdp⟩⟩
        { neg with
          state := .localOffer
          ptMaps := ptMaps
          initialSdpTmp := neg.initialSdp
          initialSdp := some (versioned neg.lastSent sdp)
          negLocalSdp := some (versioned neg.lastSent sdp)
          lastSent := some (versioned neg.lastSent sdp) }
  | resent {active last : SdpSession} {initialSdpTmp : Option SdpSession}
      (done : neg.state = .done) (active_eq : neg.activeLocalSdp = some active)
      (last_eq : neg.lastSent = some last) :
      Moves neg .sendLocalOffer ⟨.success, some ⟨some last, versioned (some last) active⟩⟩
        { neg with
          initialSdpTmp := initialSdpTmp
          state := .localOffer
          negLocalSdp := some (versioned (some last) active)
          lastSent := some (versioned (some last) active) }
  | remoteAnswer {remote : SdpSession} (waits : neg.state = .localOffer) :
      Moves neg (.setRemoteAnswer remote) ⟨.success, none⟩
        { neg with state := .waitNego, hasRemoteAnswer := true, negRemoteSdp := some remote }
  | remoteOffer {remote : SdpSession} (done : neg.state = .done) :
      Moves neg (.setRemoteOffer remote) ⟨.success, none⟩
        { neg with state := .remoteOffer, negRemoteSdp := some remote }
  | localAnswer {loc answer : SdpSession} {initialSdp initialSdpTmp : Option SdpSession}
      (waits : neg.state = .remoteOffer ∨ neg.state = .waitNego) :
      Moves neg (.setLocalAnswer loc) ⟨.success, none⟩ { neg with
          state := .waitNego
          initialSdp := initialSdp
          initialSdpTmp := initialSdpTmp
          negLocalSdp := some answer }
  | cancelled {initialSdp : Option SdpSession} :
      Moves neg .cancelOffer ⟨.success, none⟩ { neg with
          initialSdp := initialSdp
          initialSdpTmp := none
          negLocalSdp := none
          negRemoteSdp := none
          hasRemoteAnswer := false
          state := .done }
  | agreed {allowAsym : Bool} {loc remote active answer : SdpSession}
      (waits : neg.state = .waitNego) (answered : neg.hasRemoteAnswer = true)
      (offer : neg.negLocalSdp = some loc)
      (processed : processAnswer loc remote allowAsym = some (.success, some active, answer)) :
      Moves neg (.negotiate allowAsym) ⟨.success, none⟩
        (negotiated { neg with activeLocalSdp := some active, activeRemoteSdp := some answer }
          .success)
  | answered {allowAsym : Bool} {remote answer sdp : SdpSession} {ptMaps : Nat → PtMap}
      (waits : neg.state = .waitNego) (answers : Answers neg remote answer)
      (built : preparedAnswer neg answer = some (ptMaps, sdp)) :
      Moves neg (.negotiate allowAsym) ⟨.success, some ⟨neg.lastSent, versioned neg.lastSent sdp⟩⟩
        (negotiated { neg with
            ptMaps := ptMaps
            activeLocalSdp := some (versioned neg.lastSent sdp)
            activeRemoteSdp := some remote
            lastSent := some (versioned neg.lastSent sdp) } .success)
  | failed {allowAsym : Bool} {status : SdpStatus} (waits : neg.state = .waitNego)
      (error : status ≠ .success) :
      Moves neg (.negotiate allowAsym) ⟨status, none⟩ (negotiated neg status)

section Inversion

variable {neg neg' : PjmediaSdpNeg} {op : Op} {reply : Reply}

theorem Moves.same {status : SdpStatus} : Moves neg op ⟨status, none⟩ neg :=
  .stays neg.preferRemoteCodecOrder neg.answerWithMultipleCodecs

theorem modifyLocalOffer2_moves {flags : Nat} {loc : SdpSession}
    (result : modifyLocalOffer2 neg flags loc = some (neg', reply)) :
    Moves neg (.modifyLocalOffer2 flags loc) reply neg' := by
  unfold modifyLocalOffer2 at result
  split at result
  · cases result
    exact .same
  rename_i done
  rw [not_not] at done
  split at result
  · cases result
    exact .same
  rename_i valid
  rw [not_not] at valid
  split at result
  · rename_i idle
    simp only [Option.bind_eq_bind, Option.bind_eq_some_iff] at result
    obtain ⟨⟨ptMaps, sdp⟩, built, made⟩ := result
    cases made
    exact .firstOffered done valid idle built
  · rename_i old active
    simp only [Option.bind_eq_bind, Option.bind_eq_some_iff] at result
    obtain ⟨⟨ptMaps, sdp⟩, built, made⟩ := result
    cases made
    exact .offered done valid active built

theorem sendLocalOffer_moves : Moves neg .sendLocalOffer (sendLocalOffer neg).2 (sendLocalOffer neg).1 := by
  unfold sendLocalOffer
  split
  · rename_i done
    split
    · rename_i active last active_eq last_eq
      exact .resent done active_eq last_eq
    · exact .same
  · split
    · exact .same
    · exact .same

theorem createAnswer_status {preferRemote multiple : Bool} {initial offer : SdpSession}
    {status : SdpStatus}
    (created : createAnswer preferRemote multiple initial offer = some (status, none)) :
    status ≠ .success := by
  unfold createAnswer at created
  split at created
  · rename_i invalid
    cases created
    exact invalid
  · simp only [Option.bind_eq_bind, Option.bind_eq_some_iff] at created
    obtain ⟨_, _, made⟩ := created
    cases made

theorem negotiate_moves {allowAsym : Bool} (result : negotiate neg allowAsym = some (neg', reply)) :
    Moves neg (.negotiate allowAsym) reply neg' := by
  unfold negotiate at result
  split at result
  · cases result
    exact .same
  rename_i waits
  rw [not_not] at waits
  split at result
  · cases result
    exact .same
  · cases result
  · rename_i remote loc remote_eq loc_eq
    split at result
    · rename_i hasAnswer
      simp only [Option.bind_eq_bind, Option.bind_eq_some_iff] at result
      obtain ⟨⟨status, active, answer⟩, processed, made⟩ := result
      cases made
      by_cases success : status = .success
      · subst success
        obtain ⟨media, rfl⟩ := processAnswer_active processed
        exact .agreed waits hasAnswer loc_eq processed
      · simp only [if_neg success]
        exact .failed waits success
    · rename_i offered
      simp only [Option.bind_eq_bind, Option.bind_eq_some_iff] at result
      obtain ⟨⟨status, created⟩, answer_eq, result⟩ := result
      split at result
      · rename_i same
        cases same
        simp only [Option.bind_eq_some_iff] at result
        obtain ⟨⟨ptMaps, sdp⟩, built, made⟩ := result
        cases made
        exact .answered waits ⟨Bool.not_eq_true _ ▸ offered, remote_eq, loc, loc_eq, answer_eq⟩ built
      · rename_i noAnswer same
        cases same
        cases result
        refine .failed waits fun success => ?_
        subst success
        cases created with
        | none => exact createAnswer_status answer_eq rfl
        | some answer => exact noAnswer answer rfl rfl

theorem setRemoteAnswer_moves {remote : SdpSession} :
    Moves neg (.setRemoteAnswer remote) (setRemoteAnswer neg remote).2
      (setRemoteAnswer neg remote).1 := by
  unfold setRemoteAnswer
  split
  · exact .same
  · rename_i waits
    exact .remoteAnswer (not_not.mp waits)

theorem setRemoteOffer_moves {remote : SdpSession} :
    Moves neg (.setRemoteOffer remote) (setRemoteOffer neg remote).2
      (setRemoteOffer neg remote).1 := by
  unfold setRemoteOffer
  split
  · exact .same
  · rename_i done
    exact .remoteOffer (not_not.mp done)

theorem setLocalAnswer_moves {loc : SdpSession} :
    Moves neg (.setLocalAnswer loc) (setLocalAnswer neg loc).2 (setLocalAnswer neg loc).1 := by
  unfold setLocalAnswer
  split
  · exact .same
  · next waits =>
    split <;> exact .localAnswer (not_not.mp waits)

theorem cancelOffer_moves : Moves neg .cancelOffer (cancelOffer neg).2 (cancelOffer neg).1 := by
  unfold cancelOffer
  split
  · exact .same
  · exact .cancelled

theorem step_moves (taken : step neg op = some (neg', reply)) : Moves neg op reply neg' := by
  have total : ∀ result : PjmediaSdpNeg × Reply, some result = some (neg', reply) →
      Moves neg op result.2 result.1 → Moves neg op reply neg' := by
    rintro _ ⟨rfl⟩ moves
    exact moves
  cases op with
  | setPreferRemoteCodecOrder preferRemote =>
    exact total _ taken (.stays preferRemote neg.answerWithMultipleCodecs)
  | setAnswerMultipleCodecs answerMultiple =>
    exact total _ taken (.stays neg.preferRemoteCodecOrder answerMultiple)
  | modifyLocalOffer2 flags loc => exact modifyLocalOffer2_moves taken
  | sendLocalOffer => exact total _ taken sendLocalOffer_moves
  | setRemoteAnswer remote => exact total _ taken setRemoteAnswer_moves
  | setRemoteOffer remote => exact total _ taken setRemoteOffer_moves
  | setLocalAnswer loc => exact total _ taken setLocalAnswer_moves
  | cancelOffer => exact total _ taken cancelOffer_moves
  | negotiate allowAsym => exact negotiate_moves taken

end Inversion

/-! ## The invariant -/

/-- What each state says of the temporary SDPs, and the active SDPs of each other. -/
structure StateOk (neg : PjmediaSdpNeg) : Prop where
  waitNego : neg.state = .waitNego → neg.negLocalSdp ≠ none ∧ neg.negRemoteSdp ≠ none
  localOffer : neg.state = .localOffer → neg.negLocalSdp ≠ none
  remoteOffer : neg.state = .remoteOffer → neg.negRemoteSdp ≠ none
  done : neg.state = .done →
    neg.negLocalSdp = none ∧ neg.negRemoteSdp = none ∧ neg.hasRemoteAnswer = false
  active : neg.activeLocalSdp = none ↔ neg.activeRemoteSdp = none

/-- The active SDPs change in a negotiation that succeeds and nowhere else. -/
def ActiveKept (neg : PjmediaSdpNeg) (op : Op) (reply : Reply) (neg' : PjmediaSdpNeg) : Prop :=
  (∃ allowAsym, op = .negotiate allowAsym ∧ reply.status = .success) ∨
    neg'.activeLocalSdp = neg.activeLocalSdp ∧ neg'.activeRemoteSdp = neg.activeRemoteSdp

/-- Whoever offers has sent before, and who has an agreement too. -/
structure SentOk (neg : PjmediaSdpNeg) : Prop where
  offering : neg.state = .localOffer → neg.lastSent ≠ none
  answered : neg.hasRemoteAnswer = true → neg.lastSent ≠ none
  active : neg.activeLocalSdp ≠ none → neg.lastSent ≠ none

section Steps

variable {neg neg' : PjmediaSdpNeg} {op : Op} {reply : Reply}

theorem Moves.stateOk (ok : StateOk neg) (moves : Moves neg op reply neg') : StateOk neg' := by
  obtain ⟨waitNego, localOffer, remoteOffer, done, active⟩ := ok
  cases moves with
  | stays => exact ⟨waitNego, localOffer, remoteOffer, done, active⟩
  | firstOffered | offered | resent =>
    exact ⟨fun other => (by cases other), fun _ => (by simp), fun other => (by cases other),
      fun other => (by cases other), active⟩
  | remoteAnswer waits =>
    exact ⟨fun _ => ⟨localOffer waits, by simp⟩, fun other => (by cases other),
      fun other => (by cases other), fun other => (by cases other), active⟩
  | remoteOffer =>
    exact ⟨fun other => (by cases other), fun other => (by cases other), fun _ => (by simp),
      fun other => (by cases other), active⟩
  | localAnswer waits =>
    refine ⟨fun _ => ⟨by simp, ?_⟩, fun other => (by cases other),
      fun other => (by cases other), fun other => (by cases other), active⟩
    rcases waits with offered | answered
    · exact remoteOffer offered
    · exact (waitNego answered).2
  | cancelled | failed =>
    exact ⟨fun other => (by cases other), fun other => (by cases other),
      fun other => (by cases other), fun _ => ⟨rfl, rfl, rfl⟩, active⟩
  | agreed | answered =>
    exact ⟨fun other => (by cases other), fun other => (by cases other),
      fun other => (by cases other), fun _ => ⟨rfl, rfl, rfl⟩, by simp [negotiated]⟩

theorem Moves.activeKept (moves : Moves neg op reply neg') : ActiveKept neg op reply neg' := by
  cases moves with
  | agreed | answered => exact .inl ⟨_, rfl, rfl⟩
  | _ => exact .inr ⟨rfl, rfl⟩

theorem Moves.sentOk (ok : SentOk neg) (moves : Moves neg op reply neg') : SentOk neg' := by
  obtain ⟨offering, answered, active⟩ := ok
  cases moves with
  | stays => exact ⟨offering, answered, active⟩
  | firstOffered | offered | resent | answered =>
    exact ⟨fun _ => Option.some_ne_none _, fun _ => Option.some_ne_none _,
      fun _ => Option.some_ne_none _⟩
  | remoteAnswer waits => exact ⟨fun other => (by cases other), fun _ => offering waits, active⟩
  | remoteOffer | localAnswer => exact ⟨fun other => (by cases other), answered, active⟩
  | cancelled | failed =>
    exact ⟨fun other => (by cases other), fun other => (by cases other), active⟩
  | agreed waits hasAnswer =>
    exact ⟨fun other => (by cases other), fun other => (by cases other), fun _ => answered hasAnswer⟩

end Steps

/-! ## Runs -/

/-- How a negotiator comes to be. -/
inductive Creation where
  | localOffer (loc : SdpSession)
  | remoteOffer (initial : Option SdpSession) (remote : SdpSession)

def create (dynCodecs : List PjStr) : Creation → Except SdpStatus PjmediaSdpNeg
  | .localOffer loc => createWLocalOffer dynCodecs loc
  | .remoteOffer initial remote => createWRemoteOffer dynCodecs initial remote

/-- The calls that compare a new offer with the SDP last sent. -/
def Offers : Op → Prop
  | .modifyLocalOffer2 _ _ | .sendLocalOffer => True
  | _ => False

/-- A valid new offer is made while no SDP is active. -/
def OffersFirst (neg : PjmediaSdpNeg) (op : Op) : Prop :=
  ∃ flags loc, op = .modifyLocalOffer2 flags loc ∧ neg.state = .done ∧
    pjmediaSdpValidate loc = .success ∧ neg.activeLocalSdp = none

/-- What holds after every call of a run. -/
structure Consistent (start : PjmediaSdpNeg) (tr : List (Op × Reply)) : Prop where
  states : ∀ pre post neg, tr = pre ++ post → Run step start pre neg → StateOk neg
  active : ∀ pre op reply post neg neg', tr = pre ++ (op, reply) :: post →
    Run step start pre neg → step neg op = some (neg', reply) → ActiveKept neg op reply neg'
  compared : ∀ op reply sent, (op, reply) ∈ tr → Offers op → reply.sent = some sent →
    sent.lastSent ≠ none

section Runs

variable {dynCodecs : List PjStr} {creation : Creation} {start neg neg' : PjmediaSdpNeg}
  {tr : List (Op × Reply)}

theorem create_spec (created : create dynCodecs creation = .ok start) :
    StateOk start ∧ SentOk start ∧ start.activeLocalSdp = none ∧
      (start.lastSent ≠ none ↔ ∃ loc, creation = .localOffer loc) := by
  have unchanged : ∀ {status : SdpStatus} {made : PjmediaSdpNeg},
      Except.error status = Except.ok made → False := by
    intro status made same
    cases same
  cases creation with
  | localOffer loc =>
    simp only [create, createWLocalOffer] at created
    split at created
    · exact (unchanged created).elim
    · cases created
      refine ⟨⟨fun other => (by cases other), fun _ => Option.some_ne_none _,
        fun other => (by cases other), fun other => (by cases other), Iff.rfl⟩,
        ⟨fun _ => Option.some_ne_none _, fun other => (by cases other),
          fun active => absurd rfl active⟩, rfl, ?_⟩
      exact ⟨fun _ => ⟨loc, rfl⟩, fun _ => Option.some_ne_none _⟩
  | remoteOffer initial remote =>
    simp only [create, createWRemoteOffer] at created
    split at created
    · exact (unchanged created).elim
    split at created
    · cases created
      refine ⟨⟨fun other => (by cases other), fun other => (by cases other),
        fun _ => Option.some_ne_none _, fun other => (by cases other), Iff.rfl⟩,
        ⟨fun other => (by cases other), fun other => (by cases other),
          fun active => absurd rfl active⟩, rfl, ?_⟩
      exact ⟨fun sent => absurd rfl sent, fun ⟨_, wrong⟩ => (by cases wrong)⟩
    · split at created
      · exact (unchanged created).elim
      · cases created
        refine ⟨⟨fun _ => ⟨Option.some_ne_none _, Option.some_ne_none _⟩,
          fun other => (by cases other), fun other => (by cases other),
          fun other => (by cases other), Iff.rfl⟩,
          ⟨fun other => (by cases other), fun other => (by cases other),
            fun active => absurd rfl active⟩, rfl, ?_⟩
        exact ⟨fun sent => absurd rfl sent, fun ⟨_, wrong⟩ => (by cases wrong)⟩

theorem Moves.lastSent_some {op : Op} {reply : Reply} (moves : Moves neg op reply neg')
    (sent : neg.lastSent ≠ none) : neg'.lastSent ≠ none := by
  cases moves with
  | firstOffered | offered | resent | answered => exact Option.some_ne_none _
  | _ => exact sent

/-- A call that offers compares with an SDP, unless it offers first and nothing was sent. -/
theorem Moves.compared {op : Op} {reply : Reply} {sent : Sent} (ok : SentOk neg)
    (moves : Moves neg op reply neg') (offers : Offers op) (sent_eq : reply.sent = some sent)
    (ready : neg.lastSent ≠ none ∨ ¬ OffersFirst neg op) : sent.lastSent ≠ none := by
  cases moves with
  | firstOffered done valid idle =>
    cases sent_eq
    exact ready.resolve_right fun notFirst => notFirst ⟨_, _, rfl, done, valid, idle⟩
  | offered _ _ active =>
    cases sent_eq
    exact ok.active (by simp [active])
  | resent =>
    cases sent_eq
    exact Option.some_ne_none _
  | answered => exact offers.elim
  | _ => cases sent_eq

theorem Moves.sent_active {op : Op} {reply : Reply} (moves : Moves neg op reply neg')
    (notFirst : ¬ OffersFirst neg op) (agreed : neg.lastSent ≠ none → neg.activeLocalSdp ≠ none) :
    neg'.lastSent ≠ none → neg'.activeLocalSdp ≠ none := by
  cases moves with
  | firstOffered done valid idle => exact absurd ⟨_, _, rfl, done, valid, idle⟩ notFirst
  | offered _ _ active => exact fun _ => by simp [active]
  | resent _ active => exact fun _ => by simp [active]
  | agreed | answered => exact fun _ => Option.some_ne_none _
  | _ => exact agreed

theorem OffersFirst.offers {op : Op} (first : OffersFirst neg op) : Offers op := by
  obtain ⟨flags, loc, rfl, _⟩ := first
  trivial

theorem OffersFirst.idle {op : Op} (first : OffersFirst neg op) : neg.activeLocalSdp = none := by
  obtain ⟨_, _, _, _, _, idle⟩ := first
  exact idle

theorem OffersFirst.sent {op : Op} {reply : Reply} (first : OffersFirst neg op)
    (taken : step neg op = some (neg', reply)) : ∃ sdp, reply.sent = some ⟨neg.lastSent, sdp⟩ := by
  obtain ⟨flags, loc, rfl, done, valid, idle⟩ := first
  simp only [step, modifyLocalOffer2, done, valid, idle, ne_eq, not_true_eq_false, if_false,
    Option.bind_eq_bind, Option.bind_eq_some_iff] at taken
  obtain ⟨⟨ptMaps, sdp⟩, _, made⟩ := taken
  cases made
  exact ⟨_, rfl⟩

theorem along_of_compared (agreed : start.lastSent ≠ none → start.activeLocalSdp ≠ none)
    (run : Run step start tr neg)
    (compared : ∀ op reply sent, (op, reply) ∈ tr → Offers op → reply.sent = some sent →
      sent.lastSent ≠ none) :
    Along step (fun neg op => ¬ OffersFirst neg op) start (tr.map Prod.fst) := by
  induction run with
  | nil => trivial
  | @cons s s₁ s₂ op reply rest taken _ ih =>
    have moves := step_moves taken
    have notFirst : ¬ OffersFirst s op := by
      intro first
      obtain ⟨sdp, sent⟩ := first.sent taken
      have nothing : s.lastSent = none := by
        by_contra sent
        exact agreed sent first.idle
      exact compared op reply _ (by simp) first.offers sent nothing
    refine .cons notFirst taken (ih (moves.sent_active notFirst agreed) ?_)
    exact fun op' reply' sent mem => compared op' reply' sent (by simp [mem])

/-- The run theorem: all of it holds unless something is offered before anything is
agreed on and, in a negotiator created with a remote offer, before anything is sent. -/
theorem negotiator_consistent_iff (created : create dynCodecs creation = .ok start)
    (run : Run step start tr neg) :
    Consistent start tr ↔ (∃ loc, creation = .localOffer loc) ∨
      Along step (fun neg op => ¬ OffersFirst neg op) start (tr.map Prod.fst) := by
  obtain ⟨stateOk, sentOk, idle, sent_iff⟩ := create_spec created
  have along : ∀ {pre : List (Op × Reply)} {mid : PjmediaSdpNeg}, Run step start pre mid →
      StateOk mid ∧ SentOk mid := by
    intro pre mid upTo
    have keeps : ∀ s a s' o, StateOk s ∧ SentOk s → step s a = some (s', o) →
        StateOk s' ∧ SentOk s' :=
      fun _ _ _ _ ok taken => ⟨(step_moves taken).stateOk ok.1, (step_moves taken).sentOk ok.2⟩
    exact upTo.invariant keeps ⟨stateOk, sentOk⟩
  constructor
  · intro consistent
    by_cases byLocal : ∃ loc, creation = .localOffer loc
    · exact .inl byLocal
    · refine .inr (along_of_compared (fun sent => ?_) run consistent.compared)
      exact absurd (sent_iff.mp sent) byLocal
  · intro allowed
    refine ⟨fun pre post mid _ upTo => (along upTo).1,
      fun pre op reply post mid mid' _ _ taken => (step_moves taken).activeKept, ?_⟩
    intro op reply sent mem offers sent_eq
    obtain ⟨pre, post, rfl⟩ := List.append_of_mem mem
    obtain ⟨mid, upTo, onwards⟩ := run.split
    cases onwards with
    | cons taken _ =>
      refine (step_moves taken).compared (along upTo).2 offers sent_eq ?_
      rcases allowed with byLocal | notFirst
      · left
        exact upTo.invariant (fun _ _ _ _ sent taken => (step_moves taken).lastSent_some sent)
          (sent_iff.mpr byLocal)
      · right
        rw [List.map_append] at notFirst
        exact (notFirst.after upTo).1

/-- A call made and answered. -/
theorem negotiator_consistent_call :
    ∃ start tr neg, create [] (.localOffer audioVideoOffer) = .ok start ∧ Run step start tr neg ∧
      tr.map Prod.fst =
        [.setRemoteAnswer (plainSession [plainMedia AUDIO 5000 [['8'], ['0']]]), .negotiate false] ∧
      (Consistent start tr ↔ (∃ loc, Creation.localOffer audioVideoOffer = .localOffer loc) ∨
        Along step (fun neg op => ¬ OffersFirst neg op) start (tr.map Prod.fst)) := by
  have run : ∃ start neg reply reply', create [] (.localOffer audioVideoOffer) = .ok start ∧
      Run step start
        [(.setRemoteAnswer (plainSession [plainMedia AUDIO 5000 [['8'], ['0']]]), reply),
          (.negotiate false, reply')] neg :=
    ⟨_, _, _, _, rfl, .cons rfl (.cons rfl (.nil _))⟩
  obtain ⟨start, neg, reply, reply', created, run⟩ := run
  exact ⟨start, _, neg, created, run, rfl, negotiator_consistent_iff created run⟩

/-- A remote offer that is rejected, and then an offer to the remote. -/
theorem negotiator_consistent_fails :
    ∃ start tr neg, create [] (.remoteOffer none audioVideoOffer) = .ok start ∧
      Run step start tr neg ∧ tr.map Prod.fst = [.cancelOffer, .modifyLocalOffer2 0 audioVideoOffer] ∧
      ¬ Consistent start tr := by
  have run : ∃ start neg reply reply', create [] (.remoteOffer none audioVideoOffer) = .ok start ∧
      Run step start [(.cancelOffer, reply), (.modifyLocalOffer2 0 audioVideoOffer, reply')] neg ∧
      ∃ sdp, reply'.sent = some ⟨none, sdp⟩ :=
    ⟨_, _, _, _, rfl, .cons rfl (.cons rfl (.nil _)), _, rfl⟩
  obtain ⟨start, neg, reply, reply', created, run, sdp, sent⟩ := run
  refine ⟨start, _, neg, created, run, rfl, fun consistent => ?_⟩
  exact consistent.compared (.modifyLocalOffer2 0 audioVideoOffer) reply' ⟨none, sdp⟩ (by simp)
    trivial sent rfl

end Runs

end Pjsip.Pjmedia.SdpNeg
