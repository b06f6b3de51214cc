import Pjsip.Pjmedia.SdpNeg.States

/-!
# The versions of the local SDPs

A new SDP is to have the version of the one sent before if it repeats that, and the
next one if not. The answers start from the version last sent, and the offers from
that of the active SDP, which is behind when an offer has come to nothing.
-/

namespace Pjsip.Pjmedia.SdpNeg

open Pjsip.Base Pjsip.Pjlib Pjsip.Pjmedia.Sdp

/-- The sessions compare equal, their versions apart. -/
def SameContent (sd1 sd2 : SdpSession) : Prop :=
  pjmediaSdpSessionCmp sd1 (sd2.withVersion sd1.origin.version) = .success

instance (sd1 sd2 : SdpSession) : Decidable (SameContent sd1 sd2) :=
  inferInstanceAs (Decidable (_ = _))

/-- What a new SDP is to be after the one last sent. -/
def VersionOk (last sdp : SdpSession) : Prop :=
  SameContent last sdp ∧ sdp.origin.version = last.origin.version ∨
    ¬ SameContent last sdp ∧ sdp.origin.version.toNat = last.origin.version.toNat + 1

/-- The version that a new SDP starts from is the one last sent, or the one before that if
the SDP repeats the one last sent. There is a next version to give. -/
def Meets (version : UInt64) (last sdp : SdpSession) : Prop :=
  (SameContent last sdp → version = last.origin.version ∨ version + 1 = last.origin.version) ∧
    (¬ SameContent last sdp → version = last.origin.version ∧ last.origin.version.toNat + 1 < 2 ^ 64)

section Compare

variable {last sdp : SdpSession}

theorem cmp_success : pjmediaSdpSessionCmp last sdp = .success ↔
    sdp.origin.version = last.origin.version ∧ SameContent last sdp := by
  constructor
  · intro equal
    have version : sdp.origin.version = last.origin.version := by
      unfold pjmediaSdpSessionCmp at equal
      split at equal
      · cases equal
      split at equal
      · cases equal
      split at equal
      · cases equal
      rename_i same
      exact (not_not.mp same).symm
    refine ⟨version, ?_⟩
    unfold SameContent SdpSession.withVersion
    rw [← version]
    exact equal
  · rintro ⟨version, same⟩
    unfold SameContent SdpSession.withVersion at same
    rw [← version] at same
    exact same

theorem versioned_repeat (same : SameContent last sdp)
    (version : sdp.origin.version = last.origin.version) : versioned (some last) sdp = sdp := by
  unfold versioned cmpLastSent
  rw [if_neg (not_not.mpr (cmp_success.mpr ⟨version, same⟩))]

theorem versioned_next (differ : ¬ (sdp.origin.version = last.origin.version ∧
    SameContent last sdp)) : versioned (some last) sdp = sdp.incVersion := by
  unfold versioned cmpLastSent
  rw [if_pos (fun equal => differ (cmp_success.mp equal))]

theorem versionOk_versioned :
    VersionOk last (versioned (some last) sdp) ↔ Meets sdp.origin.version last sdp := by
  by_cases same : SameContent last sdp
  · by_cases version : sdp.origin.version = last.origin.version
    · rw [versioned_repeat same version]
      exact ⟨fun _ => ⟨fun _ => .inl version, fun differ => absurd same differ⟩,
        fun _ => .inl ⟨same, version⟩⟩
    · rw [versioned_next (fun both => version both.1)]
      constructor
      · rintro (⟨_, next⟩ | ⟨differ, _⟩)
        · exact ⟨fun _ => .inr next, fun differ => absurd same differ⟩
        · exact absurd same differ
      · rintro ⟨next, _⟩
        exact .inl ⟨same, (next same).resolve_left version⟩
  · rw [versioned_next (fun both => same both.2)]
    have next : (sdp.origin.version + 1).toNat = (sdp.origin.version.toNat + 1) % 2 ^ 64 :=
      UInt64.toNat_add _ _
    have bound := sdp.origin.version.toNat_lt
    have bound' := last.origin.version.toNat_lt
    constructor
    · rintro (⟨repeats, _⟩ | ⟨_, one⟩)
      · exact absurd repeats same
      · have one' : (sdp.origin.version + 1).toNat = last.origin.version.toNat + 1 := one
        refine ⟨fun repeats => absurd repeats same, fun _ => ⟨UInt64.toNat.inj ?_, ?_⟩⟩
        · omega
        · omega
    · rintro ⟨_, starts⟩
      obtain ⟨version, room⟩ := starts same
      refine .inr ⟨same, ?_⟩
      show (sdp.origin.version + 1).toNat = last.origin.version.toNat + 1
      rw [next, version]
      omega

end Compare

/-! ## One call -/

/-- The condition on a call that makes a new local SDP. -/
def VersionsMeet (neg : PjmediaSdpNeg) : Op → Prop
  | .modifyLocalOffer2 flags loc => ∀ active last ptMaps offer, neg.state = .done →
      neg.activeLocalSdp = some active → neg.lastSent = some last →
      modifiedOffer neg flags active loc = some (ptMaps, offer) →
      Meets active.origin.version last offer
  | .sendLocalOffer => ∀ active last, neg.state = .done → neg.activeLocalSdp = some active →
      neg.lastSent = some last → Meets active.origin.version last active
  | .negotiate _ => ∀ remote answer last ptMaps sdp, Answers neg remote answer →
      neg.lastSent = some last → preparedAnswer neg answer = some (ptMaps, sdp) →
      ¬ SameContent last sdp → last.origin.version.toNat + 1 < 2 ^ 64
  | _ => True

section Calls

variable {neg neg' : PjmediaSdpNeg} {op : Op} {reply : Reply}

theorem assign_origin {dynCodecs : List PjStr} {maps maps' : Nat → PtMap} {sess sess' : SdpSession}
    {isOffer updateOnly : Bool}
    (assigned : assignPtAndUpdateMap dynCodecs maps sess isOffer updateOnly = some (maps', sess')) :
    sess'.origin = sess.origin := by
  simp only [assignPtAndUpdateMap, Option.bind_eq_bind, Option.bind_eq_some_iff] at assigned
  obtain ⟨⟨maps'', media⟩, _, made⟩ := assigned
  cases made
  rfl

theorem modifiedOffer_version {flags : Nat} {old loc offer : SdpSession} {ptMaps : Nat → PtMap}
    (built : modifiedOffer neg flags old loc = some (ptMaps, offer)) :
    offer.origin.version = old.origin.version := by
  unfold modifiedOffer at built
  dsimp only at built
  split at built
  · cases built
  · rw [assign_origin built]
    rfl

theorem preparedAnswer_version {last answer sdp : SdpSession} {ptMaps : Nat → PtMap}
    (sent : neg.lastSent = some last) (built : preparedAnswer neg answer = some (ptMaps, sdp)) :
    sdp.origin.version = last.origin.version := by
  simp only [preparedAnswer, sent, Option.bind_eq_bind, Option.bind_eq_some_iff] at built
  obtain ⟨⟨ptMaps', answer'⟩, _, made⟩ := built
  cases made
  rfl

theorem Moves.version {sent : Sent} (ok : SentOk neg) (active : neg.activeLocalSdp ≠ none)
    (meets : VersionsMeet neg op) (moves : Moves neg op reply neg') (sent_eq : reply.sent = some sent) :
    ∃ last, sent.lastSent = some last ∧ VersionOk last sent.sdp := by
  obtain ⟨last, last_eq⟩ := Option.ne_none_iff_exists'.mp (ok.active active)
  cases moves with
  | firstOffered _ _ idle => exact absurd idle active
  | offered done _ active_eq built =>
    cases sent_eq
    refine ⟨last, last_eq, ?_⟩
    show VersionOk last (versioned neg.lastSent _)
    rw [last_eq, versionOk_versioned, modifiedOffer_version built]
    exact meets _ last _ _ done active_eq last_eq built
  | resent done active_eq sent_last =>
    cases sent_eq
    exact ⟨_, rfl, versionOk_versioned.mpr (meets _ _ done active_eq sent_last)⟩
  | answered _ answers built =>
    cases sent_eq
    refine ⟨last, last_eq, ?_⟩
    show VersionOk last (versioned neg.lastSent _)
    have version := preparedAnswer_version last_eq built
    rw [last_eq, versionOk_versioned]
    exact ⟨fun _ => .inl version, fun differ => ⟨version, meets _ _ last _ _ answers last_eq built differ⟩⟩
  | _ => cases sent_eq

theorem Moves.active_some (moves : Moves neg op reply neg') (active : neg.activeLocalSdp ≠ none) :
    neg'.activeLocalSdp ≠ none := by
  cases moves with
  | agreed | answered => exact Option.some_ne_none _
  | _ => exact active

end Calls

/-! ## Runs -/

/-- The versions in every run after a first agreement whose calls all meet the condition. -/
theorem negotiator_versions (dynCodecs : List PjStr) (creation : Creation)
    {start agreed neg : PjmediaSdpNeg} {before tr : List (Op × Reply)}
    (created : create dynCodecs creation = .ok start) (first : Run step start before agreed)
    (active : agreed.activeLocalSdp ≠ none) (run : Run step agreed tr neg)
    (meets : Along step VersionsMeet agreed (tr.map Prod.fst)) :
    ∀ op reply sent, (op, reply) ∈ tr → reply.sent = some sent →
      ∃ last, sent.lastSent = some last ∧ VersionOk last sent.sdp := by
  intro op reply sent mem sent_eq
  obtain ⟨_, sentOk, _⟩ := create_spec created
  have sentOk' : SentOk agreed :=
    first.invariant (fun _ _ _ _ ok taken => (step_moves taken).sentOk ok) sentOk
  obtain ⟨pre, post, rfl⟩ := List.append_of_mem mem
  obtain ⟨mid, _, upTo, _, taken, here, _⟩ := run.visit meets
  have keeps : ∀ s a s' o, SentOk s ∧ s.activeLocalSdp ≠ none → step s a = some (s', o) →
      SentOk s' ∧ s'.activeLocalSdp ≠ none :=
    fun _ _ _ _ ok taken => ⟨(step_moves taken).sentOk ok.1, (step_moves taken).active_some ok.2⟩
  obtain ⟨midSent, midActive⟩ := upTo.invariant keeps ⟨sentOk', active⟩
  exact (step_moves taken).version midSent midActive here sent_eq

/-- A new offer for the line `AUDIO` of a session. -/
def audioOffer (port : Nat) : SdpSession := plainSession [plainMedia AUDIO port [['0']]]

/-- The calls of a first agreement. -/
def agreeing : List Op := [.setRemoteAnswer (audioOffer 5000), .negotiate false]

theorem negotiator_versions_offer :
    ∃ start agreed neg before reply, create [] (.localOffer audioVideoOffer) = .ok start ∧
      before.map Prod.fst = agreeing ∧ Run step start before agreed ∧
      Run step agreed [(.modifyLocalOffer2 0 (audioOffer 4004), reply)] neg ∧
      ∀ op reply' sent, (op, reply') ∈ [(Op.modifyLocalOffer2 0 (audioOffer 4004), reply)] →
        reply'.sent = some sent → ∃ last, sent.lastSent = some last ∧ VersionOk last sent.sdp := by
  have run : ∃ start agreed neg reply₁ reply₂ reply₃ active,
      create [] (.localOffer audioVideoOffer) = .ok start ∧
      Run step start [(.setRemoteAnswer (audioOffer 5000), reply₁), (.negotiate false, reply₂)] agreed ∧
      agreed.activeLocalSdp = some active ∧ active.origin.version = 1 ∧
      agreed.lastSent = some audioVideoOffer ∧
      Run step agreed [(.modifyLocalOffer2 0 (audioOffer 4004), reply₃)] neg :=
    ⟨_, _, _, _, _, _, _, rfl, .cons rfl (.cons rfl (.nil _)), rfl, rfl, rfl, .cons rfl (.nil _)⟩
  obtain ⟨start, agreed, neg, _, _, reply, active, created, first, active_eq, version, last_eq, run⟩ := run
  refine ⟨start, agreed, neg, _, reply, created, rfl, first, run, ?_⟩
  refine negotiator_versions [] _ created first (by simp [active_eq]) run ⟨?_, fun _ _ _ => trivial⟩
  intro active' last ptMaps offer _ active_eq' last_eq' _
  cases active_eq.symm.trans active_eq'
  cases last_eq.symm.trans last_eq'
  exact ⟨fun _ => .inl version, fun _ => ⟨version, by decide⟩⟩

/-- Two offers that differ, the first of them cancelled: both have version 2. -/
theorem negotiator_versions_fail :
    ∃ start agreed neg before tr, create [] (.localOffer audioVideoOffer) = .ok start ∧
      before.map Prod.fst = agreeing ∧ Run step start before agreed ∧
      agreed.activeLocalSdp ≠ none ∧
      tr.map Prod.fst = [.modifyLocalOffer2 0 (audioOffer 4004), .cancelOffer,
        .modifyLocalOffer2 0 (audioOffer 4006)] ∧
      Run step agreed tr neg ∧
      ¬ ∀ op reply sent, (op, reply) ∈ tr → reply.sent = some sent →
        ∃ last, sent.lastSent = some last ∧ VersionOk last sent.sdp := by
  have run : ∃ start agreed neg reply₁ reply₂ reply₃ reply₄ reply₅ last sdp,
      create [] (.localOffer audioVideoOffer) = .ok start ∧
      Run step start [(.setRemoteAnswer (audioOffer 5000), reply₁), (.negotiate false, reply₂)] agreed ∧
      agreed.activeLocalSdp ≠ none ∧
      Run step agreed [(.modifyLocalOffer2 0 (audioOffer 4004), reply₃), (.cancelOffer, reply₄),
        (.modifyLocalOffer2 0 (audioOffer 4006), reply₅)] neg ∧
      reply₅.sent = some ⟨some last, sdp⟩ ∧ ¬ VersionOk last sdp := by
    refine ⟨_, _, _, _, _, _, _, _, _, _, rfl, .cons rfl (.cons rfl (.nil _)), Option.some_ne_none _,
      .cons rfl (.cons rfl (.cons rfl (.nil _))), rfl, ?_⟩
    rintro (⟨same, _⟩ | ⟨_, next⟩)
    · exact absurd same (by decide)
    · exact absurd next (by decide)
  obtain ⟨start, agreed, neg, _, _, _, _, reply, last, sdp, created, first, active, run, sent, wrong⟩ := run
  refine ⟨start, agreed, neg, _, _, created, rfl, first, active, rfl, run, fun holds => ?_⟩
  obtain ⟨last', same, ok⟩ :=
    holds (.modifyLocalOffer2 0 (audioOffer 4006)) reply ⟨some last, sdp⟩ (by simp) sent
  cases same
  exact wrong ok

end Pjsip.Pjmedia.SdpNeg
