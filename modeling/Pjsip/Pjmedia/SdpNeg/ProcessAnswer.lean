import Pjsip.Pjmedia.Sdp.Session

/-!
# The remote answer to a local offer

`process_answer` of the negotiator walks the lines of the offer along the lines of
the answer, changes both, and makes the offer the active local session. A function
that fails one of its assertions returns `none`.
-/

namespace Pjsip.Pjmedia.SdpNeg

open Pjsip.Base Pjsip.Pjlib Pjsip.Pjmedia.Sdp

/-! ## Helpers -/

def localhost : SdpConn := ⟨IN, IP4, ['1', '2', '7', '.', '0', '.', '0', '.', '1']⟩

/-- `sdp_media_clone_deactivate` -/
def sdpMediaCloneDeactivate (remMed : SdpMedia) (localMed : Option SdpMedia)
    (localSess : Option SdpSession) : SdpMedia :=
  let res := pjmediaSdpMediaCloneDeactivate remMed
  if res.conn = none ∧ localSess.bind (·.conn) = none then
    match localMed.bind (·.conn) with
    | some conn => { res with conn := some conn }
    | none => { res with conn := some localhost }
  else res

/-- `pjmedia_dir`, as far as the negotiator goes. -/
inductive PjmediaDir where
  | none | encoding | decoding | encodingDecoding
  deriving DecidableEq, Repr

def removeAllMediaDirections (m : SdpMedia) : SdpMedia :=
  { m with
    attr :=
      [INACTIVE, SENDRECV, SENDONLY, RECVONLY].foldl pjmediaSdpAttrRemoveAll m.attr }

/-- The direction of a media line, in the order in which it is looked for. -/
def mediaDirection (m : SdpMedia) : PjmediaDir :=
  if (pjmediaSdpMediaFindAttr2 m SENDONLY none).isSome then .encoding
  else if (pjmediaSdpMediaFindAttr2 m RECVONLY none).isSome then .decoding
  else if (pjmediaSdpMediaFindAttr2 m INACTIVE none).isSome then .none
  else .encodingDecoding

/-- The new direction in `update_media_direction`. -/
def newDirection (remote : SdpMedia) (oldDir : PjmediaDir) : PjmediaDir :=
  if (pjmediaSdpMediaFindAttr2 remote INACTIVE none).isSome then .none
  else if (pjmediaSdpMediaFindAttr2 remote SENDONLY none).isSome then
    match oldDir with
    | .encodingDecoding => .decoding
    | .decoding => .decoding
    | _ => .none
  else if (pjmediaSdpMediaFindAttr2 remote RECVONLY none).isSome then
    match oldDir with
    | .encodingDecoding => .encoding
    | .encoding => .encoding
    | _ => .none
  else oldDir

def updateMediaDirection (remote loc : SdpMedia) : SdpMedia :=
  let oldDir := mediaDirection loc
  let newDir := newDirection remote oldDir
  if newDir ≠ oldDir then
    let m := removeAllMediaDirections loc
    match newDir with
    | .none => pjmediaSdpMediaAddAttr m ⟨INACTIVE, []⟩
    | .encoding => pjmediaSdpMediaAddAttr m ⟨SENDONLY, []⟩
    | .decoding => pjmediaSdpMediaAddAttr m ⟨RECVONLY, []⟩
    | .encodingDecoding => m
  else loc

/-- Taking the `rtpmap` and the `fmtp` of a format out of a media line. -/
def removeFmtAttrs (m : SdpMedia) (fmt : PjStr) : SdpMedia :=
  (m.removeAttr RTPMAP (some fmt)).removeAttr FMTP (some fmt)

/-! ## One line -/

/-- The test for an answered `rtpmap` in `process_m_answer`. -/
def answersRtpmap (or ar : SdpRtpmap) : Bool :=
  pjStricmp or.encName ar.encName = 0 && or.clockRate = ar.clockRate &&
    (pjStricmp or.param ar.param = 0 || ar.param = ['1'])

/-- The index of the answered format for `fmt` of the offer. Custom matching callbacks
are not registered. -/
def findAnswered (offer answer : SdpMedia) (fmt : PjStr) : Option (Option Nat) :=
  if u32 (pjStrtoul fmt) < 96 then some (answer.desc.fmt.findIdx? (fmt = ·))
  else
    match pjmediaSdpMediaFindAttr2 offer RTPMAP (some fmt) with
    | none => none
    | some a =>
      let or := (pjmediaSdpAttrGetRtpmap a).2
      some (answer.desc.fmt.findIdx? fun ansFmt =>
        match pjmediaSdpMediaFindAttr2 answer RTPMAP (some ansFmt) with
        | none => false
        | some a => answersRtpmap or (pjmediaSdpAttrGetRtpmap a).2)

/-- The formats of the offer that the answer has, each with its place in the answer;
the attributes of the others leave the offer. -/
def keepAnswered (answer : SdpMedia) :
    (offer : SdpMedia) → (fmts : List PjStr) → Option (SdpMedia × List (Nat × PjStr))
  | offer, [] => some (offer, [])
  | offer, fmt :: rest => do
      match ← findAnswered offer answer fmt with
      | none => keepAnswered answer (removeFmtAttrs offer fmt) rest
      | some j =>
        let (offer, kept) ← keepAnswered answer offer rest
        return (offer, (j, fmt) :: kept)

/-- The inner loop of the sort: the least goes to the front by exchanges. -/
def sortSweep (first : Nat × PjStr) : List (Nat × PjStr) → (Nat × PjStr) × List (Nat × PjStr)
  | [] => (first, [])
  | next :: rest =>
    if first.1 > next.1 then
      let (least, rest) := sortSweep next rest
      (least, first :: rest)
    else
      let (least, rest) := sortSweep first rest
      (least, next :: rest)

/-- The formats of the offer in the order of the answer; `count` of them are left. -/
def resortFmts : (count : Nat) → List (Nat × PjStr) → List (Nat × PjStr)
  | count + 1, first :: rest =>
    let (least, rest) := sortSweep first rest
    least :: resortFmts count rest
  | _, fmts => fmts

/-- The formats that stay in the answer, which lost `delCnt` of them before the place
`i`; the attributes of the others leave it. -/
def keepOffered (prior : List Nat) :
    (answer : SdpMedia) → (i delCnt : Nat) → (fmts : List PjStr) → SdpMedia × List PjStr
  | answer, _, _, [] => (answer, [])
  | answer, i, delCnt, fmt :: rest =>
    match prior[i]? with
    | none => keepOffered prior (removeFmtAttrs answer fmt) i (delCnt + 1) rest
    | some p =>
      if (p : Int) - delCnt ≠ i then
        keepOffered prior (removeFmtAttrs answer fmt) i (delCnt + 1) rest
      else
        let (answer, kept) := keepOffered prior answer (i + 1) delCnt rest
        (answer, fmt :: kept)

/-- The test of an asymmetric answer. It compares the formats of the answer with each
other, as far as the offer has formats. -/
def hasCommonCodec (offer answer : SdpMedia) : Bool :=
  answer.desc.fmt.any fun remFmt => (answer.desc.fmt.take offer.desc.fmt.length).contains remFmt

/-- `process_m_answer`: the status, the offer and the answer. -/
def processMAnswer (offer answer : SdpMedia) (allowAsym : Bool) :
    Option (SdpStatus × SdpMedia × SdpMedia) :=
  if answer.desc.media ≠ offer.desc.media then some (.sdpnegEinvansmedia, offer, answer)
  else if answer.desc.port = 0 then some (.success, pjmediaSdpMediaDeactivate offer, answer)
  else if pjmediaSdpTransportCmp answer.desc.transport offer.desc.transport ≠ .success then
    some (.sdpnegEinvanstp, offer, answer)
  else if offer.desc.port = 0 then some (.success, offer, answer)
  else
    let offer := updateMediaDirection answer offer
    if allowAsym then
      if hasCommonCodec offer answer then some (.success, offer, answer)
      else some (.sdpnegEansnomedia, offer, answer)
    else do
      let (offer, kept) ← keepAnswered answer offer offer.desc.fmt
      let offer := offer.setFmt (kept.map Prod.snd)
      if kept.length = 0 then return (.sdpnegEansnomedia, offer, answer)
      let sorted := resortFmts kept.length kept
      let offer := offer.setFmt (sorted.map Prod.snd)
      let (answer, fmts) := keepOffered (sorted.map Prod.fst) answer 0 0 answer.desc.fmt
      return (.success, offer, answer.setFmt fmts)

/-! ## All lines -/

/-- What the walk of `process_answer` leaves: the lines of both sessions, and whether a
line is active; or the status with which it gives up. -/
inductive Walked where
  | done (offer answer : List SdpMedia) (hasActive : Bool)
  | failed (status : SdpStatus)

/-- One more pair of lines in front. -/
def Walked.cons (offered : SdpMedia) (answered : List SdpMedia) (active : Bool) : Walked → Walked
  | .done offer answer hasActive => .done (offered :: offer) (answered ++ answer) (active || hasActive)
  | .failed status => .failed status

/-- The loop of `process_answer`, from the lines `omi` and `ami` on. -/
def walkAnswer (sess : SdpSession) (allowAsym : Bool) :
    (offer answer : List SdpMedia) → Option Walked
  | [], answer => some (.done [] answer false)
  | om :: offer, [] => do
      -- a line for the answer, which has none
      let am := sdpMediaCloneDeactivate om (some om) (some sess)
      return (← walkAnswer sess allowAsym offer []).cons (pjmediaSdpMediaDeactivate om) [am] false
  | om :: offer, am :: answer => do
      let (status, om, am) ← processMAnswer om am allowAsym
      match status with
      | .sdpnegEinvansmedia =>
        return (← walkAnswer sess allowAsym offer (am :: answer)).cons
          (pjmediaSdpMediaDeactivate om) [] false
      | .sdpnegEansnomedia =>
        return (← walkAnswer sess allowAsym offer answer).cons
          (pjmediaSdpMediaDeactivate om) [pjmediaSdpMediaDeactivate am] false
      | .success =>
        return (← walkAnswer sess allowAsym offer answer).cons om [am] (om.desc.port ≠ 0)
      | other => return .failed other

/-- `process_answer`: the status, `*p_active` when it is set, and the answer. -/
def processAnswer (localOffer answer : SdpSession) (allowAsym : Bool) :
    Option (SdpStatus × Option SdpSession × SdpSession) := do
  match ← walkAnswer localOffer allowAsym localOffer.media answer.media with
  | .failed status => return (status, none, answer)
  | .done offered answered hasActive =>
    return (if hasActive then .success else .sdpnegEnomedia,
      some { localOffer with media := offered }, { answer with media := answered })

end Pjsip.Pjmedia.SdpNeg
