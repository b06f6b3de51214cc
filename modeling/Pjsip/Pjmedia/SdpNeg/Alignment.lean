import Pjsip.Pjmedia.SdpNeg.ProcessAnswer

/-!
# The lines of the active sessions

The streams are made from line `i` of the local and line `i` of the remote session.
The walk keeps the two together until a line of the answer has another type than
the line of the offer: it then stays where it is in the answer.
-/

namespace Pjsip.Pjmedia.SdpNeg

open Pjsip.Base Pjsip.Pjlib Pjsip.Pjmedia.Sdp

/-- Each local line has a remote line of its type, which is active if it is. -/
def LineAligned (locals remotes : List SdpMedia) : Prop :=
  ∀ (i : Nat) m, locals[i]? = some m → ∃ r, remotes[i]? = some r ∧
    r.desc.media = m.desc.media ∧ (m.desc.port ≠ 0 → r.desc.port ≠ 0)

/-- The lines that offer and answer both have are of the same types. -/
def SameTypes (offer answer : List SdpMedia) : Prop :=
  ∀ (i : Nat) om am, offer[i]? = some om → answer[i]? = some am → am.desc.media = om.desc.media

section Lines

variable {om om' am am' : SdpMedia} {locals remotes : List SdpMedia}

theorem lineAligned_cons : LineAligned (om :: locals) (am :: remotes) ↔
    (am.desc.media = om.desc.media ∧ (om.desc.port ≠ 0 → am.desc.port ≠ 0)) ∧
      LineAligned locals remotes := by
  constructor
  · intro aligned
    obtain ⟨r, here, fits⟩ := aligned 0 om rfl
    cases here
    exact ⟨fits, fun i m there => aligned (i + 1) m there⟩
  · rintro ⟨fits, rest⟩ i m there
    cases i with
    | zero =>
      cases there
      exact ⟨am, rfl, fits⟩
    | succ i => exact rest i m there

theorem sameTypes_cons : SameTypes (om :: locals) (am :: remotes) ↔
    am.desc.media = om.desc.media ∧ SameTypes locals remotes := by
  constructor
  · intro same
    exact ⟨same 0 om am rfl rfl, fun i m r here there => same (i + 1) m r here there⟩
  · rintro ⟨here, rest⟩ i m r first second
    cases i with
    | zero =>
      cases first
      cases second
      exact here
    | succ i => exact rest i m r first second

theorem sameTypes_nil : SameTypes locals [] := by
  intro i om am _ there
  cases there

end Lines

/-! ## One line -/

section OneLine

variable {offer offer' answer answer' : SdpMedia} {status : SdpStatus} {allowAsym : Bool}

@[simp] theorem removeFmtAttrs_desc (m : SdpMedia) (fmt : PjStr) :
    (removeFmtAttrs m fmt).desc = m.desc := rfl

@[simp] theorem updateMediaDirection_desc (remote m : SdpMedia) :
    (updateMediaDirection remote m).desc = m.desc := by
  simp only [updateMediaDirection]
  split
  · cases newDirection remote (mediaDirection m) <;> rfl
  · rfl

theorem keepAnswered_desc {fmts : List PjStr} {kept : List (Nat × PjStr)}
    (result : keepAnswered answer offer fmts = some (offer', kept)) : offer'.desc = offer.desc := by
  induction fmts generalizing offer kept with
  | nil =>
    cases result
    rfl
  | cons fmt rest ih =>
    simp only [keepAnswered, Option.bind_eq_bind, Option.bind_eq_some_iff] at result
    obtain ⟨found, _, result⟩ := result
    cases found with
    | none =>
      have later := ih result
      rwa [removeFmtAttrs_desc] at later
    | some j =>
      simp only [Option.bind_eq_some_iff] at result
      obtain ⟨⟨onward, kept'⟩, later, same⟩ := result
      cases same
      exact ih later

theorem keepOffered_desc (prior : List Nat) (answer : SdpMedia) (i delCnt : Nat)
    (fmts : List PjStr) : (keepOffered prior answer i delCnt fmts).1.desc = answer.desc := by
  induction fmts generalizing answer i delCnt with
  | nil => rfl
  | cons fmt rest ih =>
    unfold keepOffered
    split
    · rw [ih, removeFmtAttrs_desc]
    · split
      · rw [ih, removeFmtAttrs_desc]
      · exact ih _ _ _

/-- What is done to a pair of lines: the types stay, an answered line stays active, and
the status tells whether the types differ. -/
structure Answered (offer answer : SdpMedia) (status : SdpStatus) (offer' answer' : SdpMedia) :
    Prop where
  offerType : offer'.desc.media = offer.desc.media
  answerType : answer'.desc.media = answer.desc.media
  mismatch : status = .sdpnegEinvansmedia ↔ answer.desc.media ≠ offer.desc.media
  active : status = .success → offer'.desc.port ≠ 0 → answer'.desc.port ≠ 0

theorem processMAnswer_spec
    (result : processMAnswer offer answer allowAsym = some (status, offer', answer')) :
    Answered offer answer status offer' answer' := by
  unfold processMAnswer at result
  split at result
  · rename_i differ
    cases result
    exact ⟨rfl, rfl, ⟨fun _ => differ, fun _ => rfl⟩, fun success => by cases success⟩
  rename_i same
  rw [not_not] at same
  split at result
  · cases result
    exact ⟨rfl, rfl, ⟨fun wrong => (by cases wrong), fun differ => absurd same differ⟩,
      fun _ active => absurd rfl active⟩
  rename_i remote
  split at result
  · cases result
    exact ⟨rfl, rfl, ⟨fun wrong => (by cases wrong), fun differ => absurd same differ⟩,
      fun success => by cases success⟩
  split at result
  · cases result
    exact ⟨rfl, rfl, ⟨fun wrong => (by cases wrong), fun differ => absurd same differ⟩,
      fun _ _ => remote⟩
  split at result
  · dsimp only at result
    split at result
    · cases result
      refine ⟨?_, rfl, ⟨fun wrong => (by cases wrong), fun differ => absurd same differ⟩,
        fun _ _ => remote⟩
      rw [updateMediaDirection_desc]
    · cases result
      refine ⟨?_, rfl, ⟨fun wrong => (by cases wrong), fun differ => absurd same differ⟩,
        fun success => by cases success⟩
      rw [updateMediaDirection_desc]
  · simp only [Option.bind_eq_bind, Option.bind_eq_some_iff] at result
    obtain ⟨⟨offered, kept⟩, kept_eq, result⟩ := result
    have desc := keepAnswered_desc kept_eq
    rw [updateMediaDirection_desc] at desc
    split at result
    · cases result
      refine ⟨?_, rfl, ⟨fun wrong => (by cases wrong), fun differ => absurd same differ⟩,
        fun success => by cases success⟩
      show offered.desc.media = _
      rw [desc]
    · cases result
      have answerDesc :=
        keepOffered_desc ((resortFmts kept.length kept).map Prod.fst) answer 0 0 answer.desc.fmt
      refine ⟨?_, ?_, ⟨fun wrong => (by cases wrong), fun differ => absurd same differ⟩,
        fun _ _ => ?_⟩
      · show offered.desc.media = _
        rw [desc]
      · show (keepOffered _ answer 0 0 _).1.desc.media = _
        rw [answerDesc]
      · show (keepOffered _ answer 0 0 _).1.desc.port ≠ 0
        rw [answerDesc]
        exact remote

end OneLine

/-! ## The walk -/

section Walk

variable {sess : SdpSession} {allowAsym : Bool} {offer answer offered answered : List SdpMedia}
  {active : Bool}

theorem Walked.cons_eq_done {walked : Walked} {om : SdpMedia} {ams : List SdpMedia} {here : Bool} :
    walked.cons om ams here = .done offered answered active ↔
      ∃ offered' answered' active', walked = .done offered' answered' active' ∧
        offered = om :: offered' ∧ answered = ams ++ answered' ∧ active = (here || active') := by
  cases walked with
  | failed => simp [Walked.cons]
  | done offered' answered' active' =>
    simp only [Walked.cons, Walked.done.injEq]
    constructor
    · rintro ⟨rfl, rfl, rfl⟩
      exact ⟨offered', answered', active', ⟨rfl, rfl, rfl⟩, rfl, rfl, rfl⟩
    · rintro ⟨_, _, _, ⟨rfl, rfl, rfl⟩, rfl, rfl, rfl⟩
      exact ⟨rfl, rfl, rfl⟩

/-- What a walk does with the first lines, if it gets to the end. -/
inductive Taken (sess : SdpSession) (allowAsym : Bool) (om : SdpMedia) (offer : List SdpMedia) :
    List SdpMedia → List SdpMedia → List SdpMedia → Prop
  | missing {offered answered : List SdpMedia} {active : Bool}
      (later : walkAnswer sess allowAsym offer [] = some (.done offered answered active)) :
      Taken sess allowAsym om offer [] (pjmediaSdpMediaDeactivate om :: offered)
        (sdpMediaCloneDeactivate om (some om) (some sess) :: answered)
  | mismatched {am om' am' : SdpMedia} {answer offered answered : List SdpMedia} {active : Bool}
      (differ : am.desc.media ≠ om.desc.media) (offerType : om'.desc.media = om.desc.media)
      (answerType : am'.desc.media = am.desc.media)
      (later : walkAnswer sess allowAsym offer (am' :: answer) =
        some (.done offered answered active)) :
      Taken sess allowAsym om offer (am :: answer) (pjmediaSdpMediaDeactivate om' :: offered) answered
  | paired {am om' am' : SdpMedia} {answer offered answered : List SdpMedia} {active : Bool}
      (same : am.desc.media = om.desc.media) (offerType : om'.desc.media = om.desc.media)
      (answerType : am'.desc.media = am.desc.media)
      (ports : om'.desc.port ≠ 0 → am'.desc.port ≠ 0)
      (later : walkAnswer sess allowAsym offer answer = some (.done offered answered active)) :
      Taken sess allowAsym om offer (am :: answer) (om' :: offered) (am' :: answered)

theorem walkAnswer_cons {om : SdpMedia}
    (walk : walkAnswer sess allowAsym (om :: offer) answer = some (.done offered answered active)) :
    Taken sess allowAsym om offer answer offered answered := by
  cases answer with
  | nil =>
    simp only [walkAnswer, Option.bind_eq_bind, Option.bind_eq_some_iff] at walk
    obtain ⟨walked, later, done⟩ := walk
    obtain ⟨offered', answered', active', rfl, rfl, rfl, _⟩ :=
      Walked.cons_eq_done.mp (Option.some.inj done)
    exact .missing later
  | cons am answer =>
    simp only [walkAnswer, Option.bind_eq_bind, Option.bind_eq_some_iff] at walk
    obtain ⟨⟨status, om', am'⟩, result, walk⟩ := walk
    obtain ⟨offerType, answerType, mismatch, ports⟩ := processMAnswer_spec result
    have finished : ∀ {next : Option Walked} {first : SdpMedia} {ams : List SdpMedia} {here : Bool},
        (next.bind fun walked => pure (walked.cons first ams here)) =
          some (.done offered answered active) → ∃ offered' answered' active',
        next = some (.done offered' answered' active') ∧ offered = first :: offered' ∧
          answered = ams ++ answered' := by
      intro next first ams here ended
      obtain ⟨walked, later, done⟩ := Option.bind_eq_some_iff.mp ended
      obtain ⟨offered', answered', active', rfl, same, same', _⟩ :=
        Walked.cons_eq_done.mp (Option.some.inj done)
      exact ⟨offered', answered', active', later, same, same'⟩
    cases status with
    | sdpnegEinvansmedia =>
      obtain ⟨offered', answered', active', later, rfl, rfl⟩ := finished walk
      exact .mismatched (mismatch.mp rfl) offerType answerType later
    | sdpnegEansnomedia =>
      obtain ⟨offered', answered', active', later, rfl, rfl⟩ := finished walk
      have same := not_not.mp (mismatch.not.mp (by simp))
      exact .paired same offerType answerType (fun active => absurd rfl active) later
    | success =>
      obtain ⟨offered', answered', active', later, rfl, rfl⟩ := finished walk
      exact .paired (not_not.mp (mismatch.not.mp (by simp))) offerType answerType (ports rfl) later
    | _ => cases walk

theorem walkAnswer_first {am : SdpMedia}
    (walk : walkAnswer sess allowAsym offer (am :: answer) = some (.done offered answered active)) :
    ∃ r rest, answered = r :: rest ∧ r.desc.media = am.desc.media := by
  induction offer generalizing am answer offered answered active with
  | nil =>
    cases walk
    exact ⟨am, answer, rfl, rfl⟩
  | cons om offer ih =>
    cases walkAnswer_cons walk with
    | mismatched differ offerType answerType later =>
      obtain ⟨r, rest, same, media⟩ := ih later
      exact ⟨r, rest, same, media.trans answerType⟩
    | paired same offerType answerType ports later => exact ⟨_, _, rfl, answerType⟩

theorem walkAnswer_lineAligned
    (walk : walkAnswer sess allowAsym offer answer = some (.done offered answered active)) :
    LineAligned offered answered ↔ SameTypes offer answer := by
  induction offer generalizing answer offered answered active with
  | nil =>
    cases walk
    refine ⟨fun _ i om am here => ?_, fun _ i m here => ?_⟩
    · cases here
    · cases here
  | cons om offer ih =>
    cases walkAnswer_cons walk with
    | missing later =>
      have rest := (ih later).mpr sameTypes_nil
      have type : (sdpMediaCloneDeactivate om (some om) (some sess)).desc.media =
          om.desc.media := by
        unfold sdpMediaCloneDeactivate
        dsimp only
        split
        · split <;> rfl
        · rfl
      refine ⟨fun _ => sameTypes_nil, fun _ => lineAligned_cons.mpr ⟨⟨type, ?_⟩, rest⟩⟩
      exact fun active => absurd rfl active
    | mismatched differ offerType answerType later =>
      obtain ⟨r, rest, rfl, media⟩ := walkAnswer_first later
      constructor
      · intro aligned
        have same : r.desc.media = _ := (lineAligned_cons.mp aligned).1.1
        have back := media.symm.trans (same.trans offerType)
        exact absurd (answerType.symm.trans back) differ
      · intro same
        exact absurd (sameTypes_cons.mp same).1 differ
    | paired same offerType answerType ports later =>
      rw [lineAligned_cons, sameTypes_cons, ih later]
      constructor
      · rintro ⟨_, rest⟩
        exact ⟨same, rest⟩
      · rintro ⟨_, rest⟩
        exact ⟨⟨(answerType.trans same).trans offerType.symm, ports⟩, rest⟩

theorem walkAnswer_failed {status : SdpStatus}
    (walk : walkAnswer sess allowAsym offer answer = some (.failed status)) : status ≠ .success := by
  induction offer generalizing answer with
  | nil => cases walk
  | cons om offer ih =>
    have later : ∀ {answer' : List SdpMedia} {first : SdpMedia} {ams : List SdpMedia} {here : Bool},
        ((walkAnswer sess allowAsym offer answer').bind fun walked =>
          pure (walked.cons first ams here)) = some (.failed status) → status ≠ .success := by
      intro answer' first ams here ended
      obtain ⟨walked, rest, same⟩ := Option.bind_eq_some_iff.mp ended
      cases walked with
      | done => cases same
      | failed =>
        cases same
        exact ih rest
    cases answer with
    | nil =>
      exact later walk
    | cons am answer =>
      simp only [walkAnswer, Option.bind_eq_bind, Option.bind_eq_some_iff] at walk
      obtain ⟨⟨status', om', am'⟩, _, walk⟩ := walk
      cases status' with
      | sdpnegEinvansmedia | sdpnegEansnomedia | success => exact later walk
      | _ =>
        cases walk
        simp

end Walk

theorem processAnswer_active {loc remote answer : SdpSession} {allowAsym : Bool}
    {active : Option SdpSession}
    (processed : processAnswer loc remote allowAsym = some (.success, active, answer)) :
    ∃ media, active = some { loc with media := media } := by
  simp only [processAnswer, Option.bind_eq_bind, Option.bind_eq_some_iff] at processed
  obtain ⟨walked, walk, processed⟩ := processed
  cases walked with
  | failed status =>
    cases processed
    exact absurd rfl (walkAnswer_failed walk)
  | done offered answered hasActive =>
    simp only [Option.pure_def, Option.some.injEq, Prod.mk.injEq] at processed
    exact ⟨offered, processed.2.1.symm⟩

/-- The active sessions are aligned if and only if the lines that offer and answer both
have are of the same types. -/
theorem processAnswer_lineAligned (localOffer answer : SdpSession) (allowAsym : Bool)
    {active answer' : SdpSession}
    (result : processAnswer localOffer answer allowAsym = some (.success, some active, answer')) :
    LineAligned active.media answer'.media ↔ SameTypes localOffer.media answer.media := by
  simp only [processAnswer, Option.bind_eq_bind, Option.bind_eq_some_iff] at result
  obtain ⟨walked, walk, result⟩ := result
  cases walked with
  | failed status => cases result
  | done offered answered hasActive =>
    simp only [Option.pure_def, Option.some.injEq, Prod.mk.injEq] at result
    obtain ⟨_, rfl, rfl⟩ := result
    exact walkAnswer_lineAligned walk

/-- A line of the given type with the static formats given. -/
def plainMedia (media : PjStr) (port : Nat) (fmt : List PjStr) : SdpMedia :=
  { desc := { media := media, port := port, portCount := 0, transport := RTP ++ '/' :: AVP, fmt := fmt }
    conn := none
    attr := [] }

def plainSession (media : List SdpMedia) : SdpSession :=
  { origin := ⟨['-'], 1, 1, IN, IP4, ['h']⟩
    name := ['s']
    conn := some ⟨IN, IP4, ['h']⟩
    time := ⟨0, 0⟩
    attr := []
    media := media }

def audioVideoOffer : SdpSession :=
  plainSession [plainMedia AUDIO 4000 [['0'], ['8']], plainMedia VIDEO 4002 [['3', '1']]]

/-- The formats come back in the other order, and the second line does not. -/
theorem processAnswer_lineAligned_shorter : ∃ active answer', processAnswer audioVideoOffer
        (plainSession [plainMedia AUDIO 5000 [['8'], ['0']]]) false =
          some (.success, some active, answer') ∧
      (LineAligned active.media answer'.media ↔
        SameTypes audioVideoOffer.media [plainMedia AUDIO 5000 [['8'], ['0']]]) :=
  ⟨_, _, rfl, processAnswer_lineAligned audioVideoOffer
    (plainSession [plainMedia AUDIO 5000 [['8'], ['0']]]) false rfl⟩

/-- The answer to the second line only: it is found in line 1 of the local session and in
line 0 of the remote one. -/
theorem processAnswer_misaligned : ∃ active answer', processAnswer audioVideoOffer
        (plainSession [plainMedia VIDEO 5002 [['3', '1']]]) false =
          some (.success, some active, answer') ∧
      ¬ LineAligned active.media answer'.media := by
  refine ⟨_, _, rfl, fun aligned => ?_⟩
  obtain ⟨r, missing, _⟩ := aligned 1 _ rfl
  cases missing

end Pjsip.Pjmedia.SdpNeg
