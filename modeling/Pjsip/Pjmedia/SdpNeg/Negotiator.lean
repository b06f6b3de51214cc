import Pjsip.Pjmedia.SdpNeg.PtMap

/-!
# The negotiator (`pjmedia_sdp_neg`)

Its functions over the SDPs that it keeps. A check of `PJ_ASSERT_RETURN` returns its
status; a failed `pj_assert`, or a write past an array, has no result.
-/

namespace Pjsip.Pjmedia.SdpNeg

open Pjsip.Base Pjsip.Pjlib Pjsip.Pjmedia.Sdp

def PJMEDIA_SDP_NEG_PREFER_REMOTE_CODEC_ORDER : Bool := true
def PJMEDIA_SDP_NEG_ANSWER_MULTIPLE_CODECS : Bool := false
def PJMEDIA_SDP_NEG_ALLOW_MEDIA_CHANGE : Nat := 1

/-- `pjmedia_sdp_neg_state` -/
inductive SdpNegState where
  | null | localOffer | remoteOffer | waitNego | done
  deriving DecidableEq, Repr

/-- `pjmedia_sdp_neg`. The temporary SDPs are the two `neg` ones. -/
structure PjmediaSdpNeg where
  state : SdpNegState
  preferRemoteCodecOrder : Bool
  answerWithMultipleCodecs : Bool
  hasRemoteAnswer : Bool
  answerWasRemote : Bool
  /-- `pt_to_codec` and `codec_to_pt` of each media line -/
  ptMaps : Nat → PtMap
  audDynCodecs : List PjStr
  initialSdp : Option SdpSession
  initialSdpTmp : Option SdpSession
  activeLocalSdp : Option SdpSession
  activeRemoteSdp : Option SdpSession
  negLocalSdp : Option SdpSession
  negRemoteSdp : Option SdpSession
  lastSent : Option SdpSession

/-- A new local SDP, with what `last_sent` was when it was compared with that. -/
structure Sent where
  lastSent : Option SdpSession
  sdp : SdpSession

/-- What a call returns, and the local SDP that it makes for the peer. -/
structure Reply where
  status : SdpStatus
  sent : Option Sent

/-- `pjmedia_sdp_session_cmp` with a pointer that may be null. -/
def cmpLastSent (lastSent : Option SdpSession) (sdp : SdpSession) : SdpStatus :=
  match lastSent with
  | none => .einval
  | some last => pjmediaSdpSessionCmp last sdp

/-- The version of a new local SDP goes up if it is not the one last sent. -/
def versioned (lastSent : Option SdpSession) (sdp : SdpSession) : SdpSession :=
  if cmpLastSent lastSent sdp ≠ .success then sdp.incVersion else sdp

/-! ## Creation -/

/-- The memory of a new negotiator, with the codecs of the codec manager. -/
def PjmediaSdpNeg.zalloc (dynCodecs : List PjStr) : PjmediaSdpNeg :=
  { state := .null
    preferRemoteCodecOrder := PJMEDIA_SDP_NEG_PREFER_REMOTE_CODEC_ORDER
    answerWithMultipleCodecs := PJMEDIA_SDP_NEG_ANSWER_MULTIPLE_CODECS
    hasRemoteAnswer := false
    answerWasRemote := false
    ptMaps := fun _ => PtMap.init
    audDynCodecs := dynCodecs
    initialSdp := none
    initialSdpTmp := none
    activeLocalSdp := none
    activeRemoteSdp := none
    negLocalSdp := none
    negRemoteSdp := none
    lastSent := none }

def createWLocalOffer (dynCodecs : List PjStr) (loc : SdpSession) : Except SdpStatus PjmediaSdpNeg :=
  if pjmediaSdpValidate loc ≠ .success then .error (pjmediaSdpValidate loc)
  else
    .ok { PjmediaSdpNeg.zalloc dynCodecs with
      state := .localOffer
      initialSdp := some loc
      negLocalSdp := some loc
      lastSent := some loc }

def createWRemoteOffer (dynCodecs : List PjStr) (initial : Option SdpSession) (remote : SdpSession) :
    Except SdpStatus PjmediaSdpNeg :=
  if pjmediaSdpValidate2 remote false ≠ .success then .error (pjmediaSdpValidate2 remote false)
  else
    let neg := { PjmediaSdpNeg.zalloc dynCodecs with negRemoteSdp := some remote }
    match initial with
    | none => .ok { neg with state := .remoteOffer }
    | some initial =>
      if pjmediaSdpValidate initial ≠ .success then .error (pjmediaSdpValidate initial)
      else
        .ok { neg with
          state := .waitNego
          initialSdp := some initial
          negLocalSdp := some initial }

/-! ## Offers -/

/-- The lines of a new offer, in the places of the old offer's lines; a line that is
missing is added without port. -/
def fixMedia (loc : SdpSession) : (old new : List SdpMedia) → List SdpMedia
  | [], new => new
  | om :: old, new =>
    match new.find? fun nm => nm.desc.media = om.desc.media with
    | some nm => nm :: fixMedia loc old (new.eraseP fun nm => nm.desc.media = om.desc.media)
    | none => sdpMediaCloneDeactivate om (some om) (some loc) :: fixMedia loc old new

/-- The same when the types of the lines may change. -/
def padMedia (loc : SdpSession) (old new : List SdpMedia) : List SdpMedia :=
  new ++ (old.drop new.length).map fun om => sdpMediaCloneDeactivate om (some om) (some loc)

/-- The new offer before the payload types are assigned: the origin is the old one. -/
def fixOffer (flags : Nat) (oldOffer loc : SdpSession) : SdpSession :=
  { loc with
    origin := oldOffer.origin
    media :=
      if flags &&& PJMEDIA_SDP_NEG_ALLOW_MEDIA_CHANGE = 0 then
        fixMedia loc oldOffer.media loc.media
      else padMedia loc oldOffer.media loc.media }

/-- `modify_local_offer2` while no SDP is active: the offer, and the maps. -/
def firstOffer (neg : PjmediaSdpNeg) (loc : SdpSession) : Option ((Nat → PtMap) × SdpSession) :=
  assignPtAndUpdateMap neg.audDynCodecs neg.ptMaps loc true false

/-- `modify_local_offer2` with an active SDP: the offer before its version is compared,
and the maps. The number of lines is not looked at, and `none` is a write behind them. -/
def modifiedOffer (neg : PjmediaSdpNeg) (flags : Nat) (oldOffer loc : SdpSession) :
    Option ((Nat → PtMap) × SdpSession) :=
  let newOffer := fixOffer flags oldOffer loc
  if newOffer.media.length > PJMEDIA_MAX_SDP_MEDIA then none
  else assignPtAndUpdateMap neg.audDynCodecs neg.ptMaps newOffer true false

def modifyLocalOffer2 (neg : PjmediaSdpNeg) (flags : Nat) (loc : SdpSession) :
    Option (PjmediaSdpNeg × Reply) :=
  if neg.state ≠ .done then some (neg, ⟨.sdpnegEinstate, none⟩)
  else if pjmediaSdpValidate loc ≠ .success then some (neg, ⟨pjmediaSdpValidate loc, none⟩)
  else
    match neg.activeLocalSdp with
    | none => do
        let (ptMaps, initialSdp) ← firstOffer neg loc
        let negLocalSdp := versioned neg.lastSent initialSdp
        return ({ neg with
          state := .localOffer
          initialSdpTmp := none
          ptMaps := ptMaps
          initialSdp := some initialSdp
          negLocalSdp := some negLocalSdp
          lastSent := some negLocalSdp }, ⟨.success, some ⟨neg.lastSent, negLocalSdp⟩⟩)
    | some oldOffer => do
        let (ptMaps, newOffer) ← modifiedOffer neg flags oldOffer loc
        let newOffer := versioned neg.lastSent newOffer
        return ({ neg with
          state := .localOffer
          ptMaps := ptMaps
          initialSdpTmp := neg.initialSdp
          initialSdp := some newOffer
          negLocalSdp := some newOffer
          lastSent := some newOffer }, ⟨.success, some ⟨neg.lastSent, newOffer⟩⟩)

def sendLocalOffer (neg : PjmediaSdpNeg) : PjmediaSdpNeg × Reply :=
  if neg.state = .done then
    match neg.activeLocalSdp, neg.lastSent with
    | some active, some last =>
      let newOffer := versioned (some last) active
      ({ neg with
        initialSdpTmp := if neg.initialSdp.isSome then neg.initialSdp else neg.initialSdpTmp
        state := .localOffer
        negLocalSdp := some newOffer
        lastSent := some newOffer }, ⟨.success, some ⟨some last, newOffer⟩⟩)
    | _, _ => (neg, ⟨.sdpnegEnoactive, none⟩)
  else if neg.state = .localOffer then (neg, ⟨.success, none⟩)
  else (neg, ⟨.sdpnegEinstate, none⟩)

def setRemoteAnswer (neg : PjmediaSdpNeg) (remote : SdpSession) : PjmediaSdpNeg × Reply :=
  if neg.state ≠ .localOffer then (neg, ⟨.sdpnegEinstate, none⟩)
  else
    ({ neg with state := .waitNego, hasRemoteAnswer := true, negRemoteSdp := some remote },
      ⟨.success, none⟩)

def setRemoteOffer (neg : PjmediaSdpNeg) (remote : SdpSession) : PjmediaSdpNeg × Reply :=
  if neg.state ≠ .done then (neg, ⟨.sdpnegEinstate, none⟩)
  else ({ neg with state := .remoteOffer, negRemoteSdp := some remote }, ⟨.success, none⟩)

/-- `pjmedia_sdp_neg_set_local_answer`; a null `local` it refuses. -/
def setLocalAnswer (neg : PjmediaSdpNeg) (loc : SdpSession) : PjmediaSdpNeg × Reply :=
  if ¬ (neg.state = .remoteOffer ∨ neg.state = .waitNego) then (neg, ⟨.sdpnegEinstate, none⟩)
  else
    match neg.initialSdp with
    | some initial =>
      ({ neg with
        state := .waitNego
        initialSdpTmp := some initial
        negLocalSdp :=
          some { loc with origin := { loc.origin with id := initial.origin.id } } },
        ⟨.success, none⟩)
    | none =>
      ({ neg with
        state := .waitNego
        negLocalSdp := some loc
        initialSdp := some loc }, ⟨.success, none⟩)

def cancelOffer (neg : PjmediaSdpNeg) : PjmediaSdpNeg × Reply :=
  if ¬ (neg.state = .localOffer ∨ neg.state = .remoteOffer) then (neg, ⟨.sdpnegEinstate, none⟩)
  else
    ({ neg with
      initialSdp := if neg.state = .localOffer then neg.initialSdpTmp else neg.initialSdp
      initialSdpTmp := none
      negLocalSdp := none
      negRemoteSdp := none
      hasRemoteAnswer := false
      state := .done }, ⟨.success, none⟩)

/-! ## Negotiation -/

/-- The end of `pjmedia_sdp_neg_negotiate`. -/
def negotiated (neg : PjmediaSdpNeg) (status : SdpStatus) : PjmediaSdpNeg :=
  { neg with
    state := .done
    answerWasRemote := neg.hasRemoteAnswer
    initialSdp := if status ≠ .success then neg.initialSdpTmp else neg.initialSdp
    initialSdpTmp := none
    negLocalSdp := none
    negRemoteSdp := none
    hasRemoteAnswer := false }

/-- The local answer with its payload types and, if there is one, the version last sent;
and the maps. -/
def preparedAnswer (neg : PjmediaSdpNeg) (answer : SdpSession) : Option ((Nat → PtMap) × SdpSession) := do
  let (ptMaps, answer) ← assignPtAndUpdateMap neg.audDynCodecs neg.ptMaps answer false false
  return (ptMaps, match neg.lastSent with
    | some last => answer.withVersion last.origin.version
    | none => answer)

/-- `pjmedia_sdp_neg_negotiate`; the local SDP of state `WAIT_NEGO` is never null. -/
def negotiate (neg : PjmediaSdpNeg) (allowAsym : Bool) : Option (PjmediaSdpNeg × Reply) :=
  if neg.state ≠ .waitNego then some (neg, ⟨.sdpnegEinstate, none⟩)
  else
    match neg.negRemoteSdp, neg.negLocalSdp with
    | none, _ => some (neg, ⟨.ebug, none⟩)
    | _, none => none
    | some remote, some loc =>
      if neg.hasRemoteAnswer then do
        let (status, active, remote) ← processAnswer loc remote allowAsym
        let neg :=
          if status = .success then
            { neg with activeLocalSdp := active, activeRemoteSdp := some remote }
          else neg
        return (negotiated neg status, ⟨status, none⟩)
      else do
        match ← createAnswer neg.preferRemoteCodecOrder neg.answerWithMultipleCodecs loc remote with
        | (.success, some answer) => do
            let (ptMaps, answer) ← preparedAnswer neg answer
            let answer := versioned neg.lastSent answer
            return (negotiated { neg with
                ptMaps := ptMaps
                activeLocalSdp := some answer
                activeRemoteSdp := some remote
                lastSent := some answer } .success, ⟨.success, some ⟨neg.lastSent, answer⟩⟩)
        | (status, _) => return (negotiated neg status, ⟨status, none⟩)

/-! ## One call -/

inductive Op where
  | setPreferRemoteCodecOrder (preferRemote : Bool)
  | setAnswerMultipleCodecs (answerMultiple : Bool)
  | modifyLocalOffer2 (flags : Nat) (loc : SdpSession)
  | sendLocalOffer
  | setRemoteAnswer (remote : SdpSession)
  | setRemoteOffer (remote : SdpSession)
  | setLocalAnswer (loc : SdpSession)
  | cancelOffer
  | negotiate (allowAsym : Bool)

def step (neg : PjmediaSdpNeg) : Op → Option (PjmediaSdpNeg × Reply)
  | .setPreferRemoteCodecOrder preferRemote =>
    some ({ neg with preferRemoteCodecOrder := preferRemote }, ⟨.success, none⟩)
  | .setAnswerMultipleCodecs answerMultiple =>
    some ({ neg with answerWithMultipleCodecs := answerMultiple }, ⟨.success, none⟩)
  | .modifyLocalOffer2 flags loc => modifyLocalOffer2 neg flags loc
  | .sendLocalOffer => some (sendLocalOffer neg)
  | .setRemoteAnswer remote => some (setRemoteAnswer neg remote)
  | .setRemoteOffer remote => some (setRemoteOffer neg remote)
  | .setLocalAnswer loc => some (setLocalAnswer neg loc)
  | .cancelOffer => some (cancelOffer neg)
  | .negotiate allowAsym => negotiate neg allowAsym

/-! ## The lines of a new offer -/

theorem fixMedia_types (loc : SdpSession) (old new : List SdpMedia) :
    List.Forall₂ (fun om m => m.desc.media = om.desc.media) old
      ((fixMedia loc old new).take old.length) := by
  induction old generalizing new with
  | nil => exact .nil
  | cons om old ih =>
    rw [fixMedia]
    split
    · next nm found => exact .cons (by simpa using List.find?_some found) (ih _)
    · exact .cons (by rw [deactivate_desc]) (ih _)

theorem find_eraseP {p : SdpMedia → Bool} {nm : SdpMedia} (found : new.find? p = some nm) :
    (nm :: new.eraseP p).Perm new := by
  obtain ⟨is_, before, behind, rfl, others⟩ := List.find?_eq_some_iff_append.1 found
  rw [List.eraseP_append_right _ (by simpa using others), List.eraseP_cons_of_pos is_]
  exact List.perm_middle.symm

theorem fixMedia_perm (loc : SdpSession) (old new : List SdpMedia) :
    ∃ missing, (fixMedia loc old new).Perm (new ++ missing) ∧ ∀ m ∈ missing, m.desc.port = 0 := by
  induction old generalizing new with
  | nil => exact ⟨[], by rw [List.append_nil]; rfl, List.forall_mem_nil _⟩
  | cons om old ih =>
    rw [fixMedia]
    split
    · next nm found =>
      obtain ⟨missing, perm, inactive⟩ := ih (new.eraseP fun nm => nm.desc.media = om.desc.media)
      exact ⟨missing, (perm.cons nm).trans ((find_eraseP found).append_right missing), inactive⟩
    · obtain ⟨missing, perm, inactive⟩ := ih new
      refine ⟨sdpMediaCloneDeactivate om (some om) (some loc) :: missing, ?_, ?_⟩
      · exact (perm.cons _).trans List.perm_middle.symm
      · exact List.forall_mem_cons.2 ⟨by rw [deactivate_desc], inactive⟩

theorem fixMedia_sublist (loc : SdpSession) (old new : List SdpMedia) :
    ((fixMedia loc old new).drop old.length).Sublist new := by
  induction old generalizing new with
  | nil => exact .refl _
  | cons om old ih =>
    rw [fixMedia]
    split
    · exact (ih _).trans List.eraseP_sublist
    · exact ih _

/-- Only formats and attributes of a line are changed. -/
structure SameLine (m m' : SdpMedia) : Prop where
  desc : m'.desc = { m.desc with fmt := m'.desc.fmt }
  conn : m'.conn = m.conn

theorem assignMedia_same {dynCodecs : List PjStr} {isOffer updateOnly : Bool} {map map' : PtMap}
    {m m' : SdpMedia} (assigned : assignMedia dynCodecs isOffer updateOnly map m = some (map', m')) :
    SameLine m m' := by
  unfold assignMedia at assigned
  split at assigned
  · cases assigned
    exact ⟨rfl, rfl⟩
  split at assigned
  · cases assigned
    exact ⟨rfl, rfl⟩
  simp only [Option.bind_eq_bind, Option.bind_eq_some_iff] at assigned
  obtain ⟨⟨st, attrs⟩, _, assigned⟩ := assigned
  split at assigned
  · cases assigned
    exact ⟨rfl, rfl⟩
  simp only [Option.bind_eq_some_iff] at assigned
  obtain ⟨attrs', _, fmts, _, made⟩ := assigned
  cases made
  exact ⟨rfl, rfl⟩

theorem assignMedias_same {dynCodecs : List PjStr} {isOffer updateOnly : Bool}
    {maps maps' : Nat → PtMap} {i : Nat} {media media' : List SdpMedia}
    (assigned : assignMedias dynCodecs isOffer updateOnly maps i media = some (maps', media')) :
    List.Forall₂ SameLine media media' := by
  induction media generalizing maps i media' with
  | nil =>
    cases assigned
    exact .nil
  | cons m rest ih =>
    rw [assignMedias] at assigned
    split at assigned
    · cases assigned
    simp only [Option.bind_eq_bind, Option.bind_eq_some_iff] at assigned
    obtain ⟨⟨map, m'⟩, here, ⟨maps₁, rest'⟩, later, made⟩ := assigned
    cases made
    exact .cons (assignMedia_same here) (ih later)

/-- The lines of an offer before the payload types are assigned: those in the places of the active
ones are of their types, all new lines are there, and the others than these are inactive. -/
structure Reoffers (old new lines : List SdpMedia) : Prop where
  places : List.Forall₂ (fun om m => m.desc.media = om.desc.media) old (lines.take old.length)
  all : ∃ missing, lines.Perm (new ++ missing) ∧ ∀ m ∈ missing, m.desc.port = 0
  order : (lines.drop old.length).Sublist new

/-- An offer that does not let the types change has the active lines in their places. -/
theorem modifyLocalOffer2_lines (neg : PjmediaSdpNeg) (flags : Nat) (loc : SdpSession) :
    ∀ result ∈ modifyLocalOffer2 neg flags loc, result.2.status = .success →
      flags &&& PJMEDIA_SDP_NEG_ALLOW_MEDIA_CHANGE = 0 → ∀ old ∈ neg.activeLocalSdp,
      ∃ offer ∈ result.1.negLocalSdp, ∃ lines, Reoffers old.media loc.media lines
        ∧ List.Forall₂ SameLine lines offer.media := by
  rintro ⟨neg', reply⟩ made status flag old active
  simp only [modifyLocalOffer2, Option.mem_def] at made
  split at made
  · cases made
    cases status
  split at made
  · next invalid =>
    cases made
    exact absurd status invalid
  rw [Option.mem_def.1 active] at made
  simp only [Option.bind_eq_bind, Option.bind_eq_some_iff] at made
  obtain ⟨⟨maps, offer⟩, built, made⟩ := made
  cases made
  unfold modifiedOffer at built
  dsimp only at built
  split at built
  · cases built
  simp only [assignPtAndUpdateMap, Option.bind_eq_bind, Option.bind_eq_some_iff] at built
  obtain ⟨⟨maps', media⟩, assigned, made⟩ := built
  cases made
  rw [fixOffer, if_pos flag] at assigned
  refine ⟨_, rfl, _, ⟨fixMedia_types loc old.media loc.media,
    fixMedia_perm loc old.media loc.media, fixMedia_sublist loc old.media loc.media⟩, ?_⟩
  have media_ : (versioned neg.lastSent { fixOffer flags old loc with media }).media = media := by
    unfold versioned
    split <;> rfl
  rw [media_]
  exact assignMedias_same assigned

/-- Audio stays before video. -/
theorem modifyLocalOffer2_lines_audio :
    let video := plainSession [plainMedia VIDEO 4002 [['3', '1']]]
    let neg := { PjmediaSdpNeg.zalloc [] with
      state := .done, activeLocalSdp := some audioVideoOffer }
    ∃ neg' reply, modifyLocalOffer2 neg 0 video = some (neg', reply)
      ∧ ∃ offer ∈ neg'.negLocalSdp, ∃ lines, Reoffers audioVideoOffer.media video.media lines
        ∧ List.Forall₂ SameLine lines offer.media := by
  intro video neg
  exact ⟨_, _, rfl, modifyLocalOffer2_lines neg 0 video _ rfl rfl rfl _ rfl⟩

end Pjsip.Pjmedia.SdpNeg
