import Pjsip.Pjmedia.SdpNeg.Alignment

/-!
# The local answer to a remote offer

`create_answer` of the negotiator looks for a local line for each line of the offer,
and `match_offer` makes the answered line out of the two. A function that fails one
of its assertions, or writes past a string, returns `none`.
-/

namespace Pjsip.Pjmedia.SdpNeg

open Pjsip.Base Pjsip.Pjlib Pjsip.Pjmedia.Sdp

def TELEPHONE_EVENT : PjStr :=
  ['t', 'e', 'l', 'e', 'p', 'h', 'o', 'n', 'e', '-', 'e', 'v', 'e', 'n', 't']

/-! ## Payload types in texts -/

/-- `rewrite_pt`: the text after `old_pt` stays. -/
def rewritePt (attrVal oldPt newPt : PjStr) : Option PjStr :=
  if attrVal.length < oldPt.length then none else some (newPt ++ attrVal.drop oldPt.length)

/-- Takes the attribute of the format `oldPt` out of the list, rewritten for `newPt`. -/
def takeRewritten (attrs : List SdpAttr) (name oldPt newPt : PjStr) :
    Option (List SdpAttr × List SdpAttr) :=
  match pjmediaSdpAttrFind attrs name (some oldPt) with
  | none => some (attrs, [])
  | some a => do
      let value ← rewritePt a.value oldPt newPt
      return (pjmediaSdpAttrRemove attrs name (some oldPt), [{ a with value := value }])

/-- The loop of `apply_answer_symmetric_pt`: the attributes that stay, those taken out,
and the formats. Each pair is a format of the offer and one of the answer. -/
def symmetricPts : List (PjStr × PjStr) → List SdpAttr →
    Option (List SdpAttr × List SdpAttr × List PjStr)
  | [], attrs => some (attrs, [], [])
  | (ptOffer, ptAnswer) :: rest, attrs =>
    if ptAnswer = ptOffer then do
      let (attrs, taken, fmts) ← symmetricPts rest attrs
      return (attrs, taken, ptAnswer :: fmts)
    else do
      let (attrs, rtpmap) ← takeRewritten attrs RTPMAP ptAnswer ptOffer
      let (attrs, fmtp) ← takeRewritten attrs FMTP ptAnswer ptOffer
      let (attrs, taken, fmts) ← symmetricPts rest attrs
      return (attrs, rtpmap ++ fmtp ++ taken, ptOffer :: fmts)

/-- `apply_answer_symmetric_pt`, on an answer with as many formats as pairs. -/
def applyAnswerSymmetricPt (answer : SdpMedia) (pts : List (PjStr × PjStr)) : Option SdpMedia := do
  let (attrs, taken, fmts) ← symmetricPts pts answer.attr
  return taken.foldl pjmediaSdpMediaAddAttr ({ answer with attr := attrs }.setFmt fmts)

/-! ## Matching the formats -/

/-- The local variables of the loop over the formats of the master. -/
structure Matching where
  masterHasCodec : Bool
  masterHasOther : Bool
  foundMatchingCodec : Bool
  foundMatchingTelephoneEvent : Bool
  foundMatchingOther : Bool
  /-- `pt_offer` and `pt_answer` -/
  pts : List (PjStr × PjStr)
  clockrate : List Nat
  telClockrate : List Nat
  deriving DecidableEq, Repr

def Matching.init : Matching := ⟨false, false, false, false, false, [], [], []⟩

def Matching.push (st : Matching) (pair : PjStr × PjStr) : Matching :=
  { st with pts := st.pts ++ [pair] }

/-- Takes note of the clock rate of a codec. -/
def Matching.noteClock (st : Matching) (rate : Nat) : Matching :=
  if rate ∈ st.clockrate then st else { st with clockrate := st.clockrate ++ [rate] }

/-- The test for a dynamic payload type in `match_offer`. -/
def sameRtpmap (or lr : SdpRtpmap) : Bool :=
  pjStricmp or.encName lr.encName = 0 && or.clockRate = lr.clockRate &&
    (pjStricmp or.param lr.param = 0 || (lr.param = [] && or.param = ['1']) ||
      (or.param = [] && lr.param = ['1']))

/-- Whether the format has an `rtpmap` in the line, and one that is the same. -/
def fmtHasRtpmap (m : SdpMedia) (or : SdpRtpmap) (fmt : PjStr) : Bool :=
  match pjmediaSdpMediaFindAttr2 m RTPMAP (some fmt) with
  | none => false
  | some a => sameRtpmap or (pjmediaSdpAttrGetRtpmap a).2

/-- The format of the offer and that of the answer. -/
def orient (preferRemote : Bool) (masterFmt slaveFmt : PjStr) : PjStr × PjStr :=
  if preferRemote then (masterFmt, slaveFmt) else (slaveFmt, masterFmt)

/-- A static payload type of the master. -/
def matchStatic (multiple : Bool) (slave : SdpMedia) (st : Matching) (pt : Nat) : Matching :=
  let st := { st with masterHasCodec := true }
  if multiple = false ∧ st.foundMatchingCodec = true then st
  else
    match slave.desc.fmt.find? fun fmt => u32 (pjStrtoul fmt) = pt && startsWithDigit fmt with
    | none => st
    | some fmt => ({ st with foundMatchingCodec := true }.push (fmt, fmt)).noteClock 8000

/-- A dynamic payload type of the master. Custom matching callbacks are not registered. -/
def matchDynamic (preferRemote multiple : Bool) (slave : SdpMedia) (st : Matching) (fmt : PjStr)
    (or : SdpRtpmap) : Matching :=
  if pjStricmp or.encName TELEPHONE_EVENT ≠ 0 then
    let st := { st with masterHasCodec := true }
    if multiple = false ∧ st.foundMatchingCodec = true then st
    else
      match slave.desc.fmt.find? (fmtHasRtpmap slave or) with
      | none => st
      | some slaveFmt =>
        ({ st with foundMatchingCodec := true }.noteClock or.clockRate).push
          (orient preferRemote fmt slaveFmt)
  else
    match slave.desc.fmt.find? (fmtHasRtpmap slave or) with
    | none => st
    | some slaveFmt =>
      -- one telephone event for each clock rate
      if or.clockRate ∈ st.telClockrate then st
      else
        { st with
          telClockrate := st.telClockrate ++ [or.clockRate]
          foundMatchingTelephoneEvent := true }.push (orient preferRemote fmt slaveFmt)

/-- A payload type that is not a number. -/
def matchOther (preferRemote : Bool) (slave : SdpMedia) (st : Matching) (fmt : PjStr) : Matching :=
  let st := { st with masterHasOther := true }
  if st.foundMatchingOther then st
  else
    match slave.desc.fmt.find? (fmt = ·) with
    | none => st
    | some slaveFmt => { st with foundMatchingOther := true }.push (orient preferRemote fmt slaveFmt)

def matchFmt (preferRemote multiple : Bool) (master slave : SdpMedia) (st : Matching) (fmt : PjStr) :
    Option Matching :=
  if startsWithDigit fmt then
    let pt := u32 (pjStrtoul fmt)
    if pt < 96 then some (matchStatic multiple slave st pt)
    else
      match pjmediaSdpMediaFindAttr2 master RTPMAP (some fmt) with
      | none => none
      | some a => some (matchDynamic preferRemote multiple slave st fmt (pjmediaSdpAttrGetRtpmap a).2)
  else some (matchOther preferRemote slave st fmt)

/-- The pairs without the telephone events whose clock rate no codec has; the first
telephone event, and how many of them stay. -/
def pruneTelEvents (preanswer : SdpMedia) (clockrate : List Nat) :
    List (PjStr × PjStr) → Option (List (PjStr × PjStr) × (PjStr × PjStr) × Nat)
  | [] => some ([], ([], []), 0)
  | pair :: rest => do
      let later ← pruneTelEvents preanswer clockrate rest
      let kept := (pair :: later.1, later.2.1, later.2.2)
      -- `pj_strtol`, which clips the value to a `long`
      if startsWithDigit pair.2 = false ∨ pjStrtoul pair.2 < 96 then return kept
      else
        match pjmediaSdpMediaFindAttr2 preanswer RTPMAP (some pair.2) with
        | none => none
        | some a =>
          let r := (pjmediaSdpAttrGetRtpmap a).2
          if pjStricmp r.encName TELEPHONE_EVENT ≠ 0 then return kept
          else if r.clockRate ∈ clockrate then return (pair :: later.1, pair, later.2.2 + 1)
          else return (later.1, pair, later.2.2)

/-- The pairs that are answered. -/
def wantedPts (preanswer : SdpMedia) (st : Matching) : Option (List (PjStr × PjStr)) :=
  if st.foundMatchingTelephoneEvent then do
    let (pts, firstTelevent, matchedCnt) ← pruneTelEvents preanswer st.clockrate st.pts
    return if matchedCnt = 0 then pts ++ [firstTelevent] else pts
  else some st.pts

/-- The loop that brings the answered formats to the front by exchanges: what is left
behind them. A format that is not there fails the assertion. -/
def bringToFront : (ptAnswer : List PjStr) → (fmts : List PjStr) → Option (List PjStr)
  | [], fmts => some fmts
  | _ :: _, [] => none
  | pt :: rest, fmt :: fmts =>
    if fmt = pt then bringToFront rest fmts
    else if pt ∈ fmts then bringToFront rest (fmts.replace pt fmt)
    else none

/-- The answered line, out of the local line and the pairs. -/
def buildAnswer (offer preanswer : SdpMedia) (pts : List (PjStr × PjStr)) : Option SdpMedia := do
  let unwanted ← bringToFront (pts.map Prod.snd) preanswer.desc.fmt
  let answer := unwanted.foldl removeFmtAttrs preanswer
  let answer ← applyAnswerSymmetricPt (answer.setFmt (pts.map Prod.snd)) pts
  return updateMediaDirection offer answer

def matchOffer (preferRemote multiple : Bool) (offer preanswer : SdpMedia)
    (preanswerSdp : SdpSession) : Option (Except SdpStatus SdpMedia) :=
  if offer.desc.port = 0 then
    some (.ok (sdpMediaCloneDeactivate offer (some preanswer) (some preanswerSdp)))
  else if preanswer.desc.port = 0 then some (.ok preanswer)
  else
    let master := if preferRemote then offer else preanswer
    let slave := if preferRemote then preanswer else offer
    do
      let st ← master.desc.fmt.foldlM (matchFmt preferRemote multiple master slave) Matching.init
      if st.masterHasCodec = true ∧ st.foundMatchingCodec = false then
        return .error .sdpnegNoanscodec
      else if st.masterHasOther = true ∧ st.foundMatchingOther = false then
        return .error .sdpnegNoansunknown
      else
        let pts ← wantedPts preanswer st
        let answer ← buildAnswer offer preanswer pts
        return .ok answer

/-! ## The session -/

/-- The test for a local line that may answer `om`, codecs apart. -/
def mayAnswer (om im : SdpMedia) : Bool :=
  om.desc.media = im.desc.media &&
    trimRtcpFb (pjmediaSdpTransportGetProto om.desc.transport) =
      trimRtcpFb (pjmediaSdpTransportGetProto im.desc.transport)

/-- The loop over the local lines, from `j` on: the answered line and the index of the
local one; or the status of the last line that did not match. -/
def findInitial (preferRemote multiple : Bool) (initial : SdpSession) (mediaUsed : List Nat)
    (om : SdpMedia) : (j : Nat) → List SdpMedia → SdpStatus →
    Option (Option (SdpMedia × Nat) × SdpStatus)
  | _, [], status => some (none, status)
  | j, im :: rest, status =>
    if mayAnswer om im = true ∧ j ∉ mediaUsed then
      match matchOffer preferRemote multiple om im initial with
      | none => none
      | some (.ok am) => some (some (am, j), status)
      | some (.error status2) =>
        findInitial preferRemote multiple initial mediaUsed om (j + 1) rest status2
    else findInitial preferRemote multiple initial mediaUsed om (j + 1) rest status

/-- The loop over the lines of the offer: the lines of the answer, whether one is active,
and the status. -/
def answerLines (preferRemote multiple : Bool) (initial : SdpSession) :
    (mediaUsed : List Nat) → SdpStatus → List SdpMedia → Option (List SdpMedia × Bool × SdpStatus)
  | _, status, [] => some ([], false, status)
  | mediaUsed, status, om :: rest => do
      let (found, status) ←
        findInitial preferRemote multiple initial mediaUsed om 0 initial.media status
      match found with
      | some (am, j) =>
        let (lines, hasActive, status) ←
          answerLines preferRemote multiple initial (j :: mediaUsed) status rest
        return (am :: lines, am.desc.port ≠ 0 || hasActive, status)
      | none =>
        let (lines, hasActive, status) ←
          answerLines preferRemote multiple initial mediaUsed status rest
        return (sdpMediaCloneDeactivate om (some om) (some initial) :: lines, hasActive, status)

/-- `create_answer`: the status, and `*p_answer` when it is set. -/
def createAnswer (preferRemote multiple : Bool) (initial offer : SdpSession) :
    Option (SdpStatus × Option SdpSession) :=
  if pjmediaSdpValidate offer ≠ .success then some (pjmediaSdpValidate offer, none)
  else do
    let (lines, hasActive, status) ←
      answerLines preferRemote multiple initial [] .success offer.media
    return (if hasActive then .success else status, some { initial with media := lines })

/-! ## The lines of the answer -/

section Lines

variable {preferRemote multiple : Bool} {initial : SdpSession} {om im am : SdpMedia}

theorem foldl_desc {β : Type} {f : SdpMedia → β → SdpMedia} (keeps : ∀ m b, (f m b).desc = m.desc)
    (bs : List β) (m : SdpMedia) : (bs.foldl f m).desc = m.desc := by
  induction bs generalizing m with
  | nil => rfl
  | cons b rest ih => exact (ih _).trans (keeps m b)

theorem buildAnswer_media {pts : List (PjStr × PjStr)} (built : buildAnswer om im pts = some am) :
    am.desc.media = im.desc.media := by
  simp only [buildAnswer, applyAnswerSymmetricPt, Option.bind_eq_bind, Option.bind_eq_some_iff]
    at built
  obtain ⟨unwanted, _, answer, ⟨⟨attrs, taken, fmts⟩, _, made⟩, result⟩ := built
  cases made
  cases result
  rw [updateMediaDirection_desc, foldl_desc (f := pjmediaSdpMediaAddAttr) fun _ _ => rfl]
  exact congrArg (·.media) (foldl_desc (f := removeFmtAttrs) (fun _ _ => rfl) unwanted im)

/-- A line of an answer is of the type of the line of the offer, and no more active than this. -/
structure Replies (om am : SdpMedia) : Prop where
  media : am.desc.media = om.desc.media
  active : am.desc.port ≠ 0 → om.desc.port ≠ 0

theorem deactivate_desc (m : SdpMedia) (localMed : Option SdpMedia) (sess : Option SdpSession) :
    (sdpMediaCloneDeactivate m localMed sess).desc = { m.desc with port := 0 } := by
  unfold sdpMediaCloneDeactivate
  dsimp only
  split
  · split <;> rfl
  · rfl

theorem deactivate_replies (om : SdpMedia) (localMed : Option SdpMedia) (sess : Option SdpSession) :
    Replies om (sdpMediaCloneDeactivate om localMed sess) := by
  constructor <;> rw [deactivate_desc]
  exact fun active => absurd rfl active

theorem matchOffer_replies (may : mayAnswer om im = true)
    (matched : matchOffer preferRemote multiple om im initial = some (.ok am)) : Replies om am := by
  have media : im.desc.media = om.desc.media := by
    rw [mayAnswer, Bool.and_eq_true, decide_eq_true_eq] at may
    exact may.1.symm
  unfold matchOffer at matched
  split at matched
  · cases matched
    exact deactivate_replies _ _ _
  next offered =>
  split at matched
  · next refused =>
    cases matched
    exact ⟨media, fun active => absurd refused active⟩
  simp only [Option.bind_eq_bind, Option.bind_eq_some_iff] at matched
  obtain ⟨st, _, matched⟩ := matched
  split at matched
  · cases matched
  split at matched
  · cases matched
  simp only [Option.bind_eq_some_iff] at matched
  obtain ⟨pts, _, answer, built, result⟩ := matched
  cases result
  exact ⟨(buildAnswer_media built).trans media, fun _ => offered⟩

/-- The local line `j` is used already, or there is none, or it does not match. -/
def Declines (preferRemote multiple : Bool) (initial : SdpSession) (mediaUsed : List Nat)
    (om : SdpMedia) (j : Nat) : Prop :=
  j ∉ mediaUsed → ∀ im ∈ initial.media[j]?, mayAnswer om im = true →
    ∃ status, matchOffer preferRemote multiple om im initial = some (.error status)

/-- Each line is answered with the first local line that is left and matches, and refused if there
is none. -/
inductive AnsweredBy (preferRemote multiple : Bool) (initial : SdpSession) :
    (mediaUsed : List Nat) → (offer answer : List SdpMedia) → Prop
  | nil {mediaUsed} : AnsweredBy preferRemote multiple initial mediaUsed [] []
  | used {mediaUsed j im om am offer answer} :
      (∀ i < j, Declines preferRemote multiple initial mediaUsed om i) →
      j ∉ mediaUsed → initial.media[j]? = some im → mayAnswer om im = true →
      matchOffer preferRemote multiple om im initial = some (.ok am) →
      AnsweredBy preferRemote multiple initial (j :: mediaUsed) offer answer →
      AnsweredBy preferRemote multiple initial mediaUsed (om :: offer) (am :: answer)
  | refused {mediaUsed om offer answer} :
      (∀ i, Declines preferRemote multiple initial mediaUsed om i) →
      AnsweredBy preferRemote multiple initial mediaUsed offer answer →
      AnsweredBy preferRemote multiple initial mediaUsed (om :: offer)
        (sdpMediaCloneDeactivate om (some om) (some initial) :: answer)

variable {mediaUsed : List Nat}

theorem AnsweredBy.replies {offer answer : List SdpMedia}
    (answered : AnsweredBy preferRemote multiple initial mediaUsed offer answer) :
    List.Forall₂ Replies offer answer := by
  induction answered with
  | nil => exact .nil
  | used _ _ _ may matched _ ih => exact .cons (matchOffer_replies may matched) ih
  | refused _ _ ih => exact .cons (deactivate_replies _ _ _) ih

theorem findInitial_cases {j : Nat} {lines : List SdpMedia}
    {found : Option (SdpMedia × Nat)} {status status' : SdpStatus}
    (left_ : initial.media.drop j = lines)
    (earlier : ∀ i < j, Declines preferRemote multiple initial mediaUsed om i)
    (walked : findInitial preferRemote multiple initial mediaUsed om j lines status
      = some (found, status')) :
    (found = none ∧ ∀ i, Declines preferRemote multiple initial mediaUsed om i) ∨
      ∃ am k im, found = some (am, k)
        ∧ (∀ i < k, Declines preferRemote multiple initial mediaUsed om i) ∧ k ∉ mediaUsed
        ∧ initial.media[k]? = some im ∧ mayAnswer om im = true
        ∧ matchOffer preferRemote multiple om im initial = some (.ok am) := by
  induction lines generalizing j status with
  | nil =>
    cases walked
    refine .inl ⟨rfl, fun i => ?_⟩
    by_cases before : i < j
    · exact earlier i before
    · intro _ im here
      have beyond := List.drop_eq_nil_iff.1 left_
      rw [List.getElem?_eq_none (by omega)] at here
      cases here
  | cons im rest ih =>
    have here : initial.media[j]? = some im := by
      rw [← Nat.add_zero j, ← List.getElem?_drop, left_]
      rfl
    have behind : initial.media.drop (j + 1) = rest := by
      rw [← List.tail_drop, left_, List.tail_cons]
    have further (declines : Declines preferRemote multiple initial mediaUsed om j) (i : Nat)
        (before : i < j + 1) : Declines preferRemote multiple initial mediaUsed om i := by
      rcases Nat.lt_succ_iff_lt_or_eq.1 before with before | rfl
      · exact earlier i before
      · exact declines
    rw [findInitial] at walked
    split at walked
    · next fits =>
      split at walked
      · cases walked
      · next matched =>
        cases walked
        exact .inr ⟨_, j, im, rfl, earlier, fits.2, here, fits.1, matched⟩
      · next status₂ failed =>
        refine ih behind (further fun _ im' here' _ => ?_) walked
        cases here.symm.trans here'
        exact ⟨status₂, failed⟩
    · next unfit =>
      refine ih behind (further fun unused im' here' may => ?_) walked
      cases here.symm.trans here'
      exact absurd ⟨may, unused⟩ unfit

theorem answerLines_answered {status status' : SdpStatus} {active : Bool}
    {offer answer : List SdpMedia}
    (made : answerLines preferRemote multiple initial mediaUsed status offer
      = some (answer, active, status')) :
    AnsweredBy preferRemote multiple initial mediaUsed offer answer := by
  induction offer generalizing mediaUsed status answer active with
  | nil =>
    cases made
    exact .nil
  | cons om rest ih =>
    simp only [answerLines, Option.bind_eq_bind, Option.bind_eq_some_iff] at made
    obtain ⟨⟨origin, status₁⟩, walked, made⟩ := made
    rcases findInitial_cases (List.drop_zero ..) (fun _ => (absurd · (Nat.not_lt_zero _))) walked with
      ⟨rfl, nothing⟩ | ⟨am, k, im, rfl, first, unused, here, may, matched⟩
    · obtain ⟨⟨lines, active', status₂⟩, later, result⟩ := Option.bind_eq_some_iff.1 made
      cases result
      exact .refused nothing (ih later)
    · obtain ⟨⟨lines, active', status₂⟩, later, result⟩ := Option.bind_eq_some_iff.1 made
      cases result
      exact .used first unused here may matched (ih later)

/-- An answer has the lines of the offer in their places, of their types, and each local line
answers one of them at most. -/
theorem createAnswer_lines (preferRemote multiple : Bool) (initial offer : SdpSession) :
    ∀ result ∈ createAnswer preferRemote multiple initial offer, ∀ answer ∈ result.2,
      AnsweredBy preferRemote multiple initial [] offer.media answer.media
        ∧ List.Forall₂ Replies offer.media answer.media
        ∧ answer = { initial with media := answer.media } := by
  rintro result made answer given
  rw [createAnswer] at made
  split at made
  · cases made
    cases given
  simp only [Option.bind_eq_bind, Option.mem_def, Option.bind_eq_some_iff] at made
  obtain ⟨⟨lines, active, status⟩, walked, result⟩ := made
  cases result
  cases given
  have answered := answerLines_answered walked
  exact ⟨answered, answered.replies, rfl⟩

/-- The local line answers the first line, so the second one is refused. -/
theorem createAnswer_lines_twice :
    let offer :=
      plainSession [plainMedia VIDEO 5002 [['3', '1']], plainMedia VIDEO 5004 [['3', '1']]]
    ∃ answer, createAnswer false false audioVideoOffer offer = some (.success, some answer)
      ∧ List.Forall₂ Replies offer.media answer.media :=
  ⟨_, rfl, (createAnswer_lines false false audioVideoOffer _ _ rfl _ rfl).2.1⟩

end Lines

end Pjsip.Pjmedia.SdpNeg
