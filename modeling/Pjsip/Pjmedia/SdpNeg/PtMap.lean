import Pjsip.Pjmedia.SdpNeg.CreateAnswer

/-!
# Dynamic payload types

`assign_pt_and_update_map` gives the codecs of a local offer or answer the payload
types that they have had before in the same media line, and records the new ones. A
payload type out of the range of its tables, or none left, makes it return `none`.
-/

namespace Pjsip.Pjmedia.SdpNeg

open Pjsip.Base Pjsip.Pjlib Pjsip.Pjmedia.Sdp

def START_DYNAMIC_PT : Nat := 96
def DYNAMIC_PT_SIZE : Nat := 127 - START_DYNAMIC_PT + 1
def UNKNOWN_CODEC : Int := 99
def PJMEDIA_RTP_PT_TELEPHONE_EVENTS : Nat := 120

/-- The size of `pjmedia_codec_id`. -/
def CODEC_ID_SIZE : Nat := 32

/-! ## Codecs -/

/-- The search of `pjmedia_codec_mgr_find_codec` between `start` and `end` (here `last`). -/
def findCodecLoop (dynCodecs : List PjStr) (codec : PjStr) (start last : Int) : Int :=
  if start ≤ last then
    let mid := start + (last - start).tdiv 2
    let cmp := pjStricmp (dynCodecs.getD mid.toNat []) codec
    if cmp = 0 then mid
    else if cmp < 0 then findCodecLoop dynCodecs codec (mid + 1) last
    else findCodecLoop dynCodecs codec start (mid - 1)
  else -1
  termination_by (last + 1 - start).toNat
  decreasing_by
    · rename_i within _ _
      have := Int.tdiv_eq_ediv_of_nonneg (b := 2) (show 0 ≤ last - start by omega)
      omega
    · rename_i within _ _
      have := Int.tdiv_eq_ediv_of_nonneg (b := 2) (show 0 ≤ last - start by omega)
      omega

/-- `pjmedia_codec_mgr_find_codec`, called without `found`. -/
def pjmediaCodecMgrFindCodec (dynCodecs : List PjStr) (codec : PjStr) : Int :=
  findCodecLoop dynCodecs codec 0 (dynCodecs.length - 1)

/-- `pjmedia_codec_info_to_id`: an id too long is empty. -/
def pjmediaCodecInfoToId (encodingName : PjStr) (clockRate channelCnt : Nat) : PjStr :=
  let id := encodingName ++ '/' :: pjUtoa clockRate ++ '/' :: pjUtoa channelCnt
  if id.length ≥ CODEC_ID_SIZE then [] else id

/-- The id of the codec of an `rtpmap` in an audio line. -/
def rtpmapCodec (rtpmap : SdpRtpmap) : PjStr :=
  pjmediaCodecInfoToId rtpmap.encName rtpmap.clockRate
    (if rtpmap.param.length ≠ 0 then u32 (pjStrtoul rtpmap.param) else 1)

/-- The index of a codec, in the way the maps know it. -/
def codecIdx (dynCodecs : List PjStr) (codec : PjStr) : Int :=
  let idx := pjmediaCodecMgrFindCodec dynCodecs codec
  if idx < 0 then UNKNOWN_CODEC else idx

/-! ## The maps -/

/-- What is recorded for one media line. Payload types count from `START_DYNAMIC_PT` on
in `ptToCodec`, where -1 is none; 0 is none in `codecToPt`. -/
structure PtMap where
  ptToCodec : Nat → Int
  codecToPt : Int → Nat

/-- As `init_mapping` sets it, and a media line without port. -/
def PtMap.init : PtMap := ⟨fun _ => -1, fun _ => 0⟩

/-- Records that the codec has the payload type. -/
def PtMap.bind (map : PtMap) (codecIdx : Int) (pt : Nat) : PtMap :=
  { ptToCodec := Function.update map.ptToCodec (pt - START_DYNAMIC_PT) codecIdx
    codecToPt :=
      if codecIdx ≠ UNKNOWN_CODEC then Function.update map.codecToPt codecIdx pt
      else map.codecToPt }

/-- The two loops of `find_new_pt`, over the indices in their order. -/
def findNewPtLoop (ptToCodec : Nat → Int) (used : Nat → Bool) (codecIdx : Int)
    (result : Option Nat) : List Nat → Option Nat
  | [] => result
  | idx :: rest =>
    if used idx then findNewPtLoop ptToCodec used codecIdx result rest
    else if ptToCodec idx = codecIdx then some idx
    else if ptToCodec idx = -1 ∧ (∀ r ∈ result, ptToCodec r ≠ -1) then
      findNewPtLoop ptToCodec used codecIdx (some idx) rest
    else findNewPtLoop ptToCodec used codecIdx (result.or (some idx)) rest

/-- `find_new_pt`; none left fails its assertion. -/
def findNewPt (ptToCodec : Nat → Int) (used : Nat → Bool) (codec : PjStr) (codecIdx : Int) :
    Option Nat :=
  let start :=
    if pjStrnicmp codec TELEPHONE_EVENT TELEPHONE_EVENT.length = 0 then
      PJMEDIA_RTP_PT_TELEPHONE_EVENTS - START_DYNAMIC_PT
    else 0
  (findNewPtLoop ptToCodec used codecIdx none
    (List.range' start (DYNAMIC_PT_SIZE - start) ++ List.range start)).map (START_DYNAMIC_PT + ·)

/-! ## One media line -/

/-- The local variables of the loop over the attributes, with the map. -/
structure Assigning where
  map : PtMap
  ptUsed : Nat → Bool
  ptChange : Nat → Nat

/-- The payload type that the codec gets for `pt`. Answers have symmetric payload types. -/
def chooseNewPt (isOffer : Bool) (st : Assigning) (pt : Nat) (codec : PjStr) (codecIdx : Int) :
    Option Nat :=
  let ptToCodec := st.map.ptToCodec (pt - START_DYNAMIC_PT)
  let codecToPt := if codecIdx ≠ UNKNOWN_CODEC then st.map.codecToPt codecIdx else 0
  let needNewPt : Bool :=
    (ptToCodec ≠ -1 && ptToCodec ≠ codecIdx) || st.ptUsed (pt - START_DYNAMIC_PT)
  if codecToPt ≠ 0 ∧ st.ptUsed (codecToPt - START_DYNAMIC_PT) = false ∧
      (needNewPt = true ∨ isOffer = true) then some codecToPt
  else if needNewPt then findNewPt st.map.ptToCodec st.ptUsed codec codecIdx
  else some pt

/-- The payload type of `value` is `pt`, and it is to be `newPt`. -/
def rewritePt2 (attrVal : PjStr) (pt newPt : Nat) : Option PjStr :=
  rewritePt attrVal (List.replicate (if pt ≥ 100 then 3 else 2) '0') (pjUtoa newPt)

/-- One attribute of the first pass. -/
def assignRtpmap (dynCodecs : List PjStr) (isOffer updateOnly : Bool) (st : Assigning)
    (attr : SdpAttr) : Option (Assigning × SdpAttr) :=
  if attr.name ≠ RTPMAP then some (st, attr)
  else
    let (status, rtpmap) := pjmediaSdpAttrGetRtpmap attr
    if status ≠ .success then some (st, attr)
    else
      let pt := u32 (pjStrtoul rtpmap.pt)
      if pt < START_DYNAMIC_PT then some (st, attr)
      else if pt ≥ START_DYNAMIC_PT + DYNAMIC_PT_SIZE then none
      else
        let codec := rtpmapCodec rtpmap
        let codecIdx := codecIdx dynCodecs codec
        if updateOnly then some ({ st with map := st.map.bind codecIdx pt }, attr)
        else do
          let newPt ← chooseNewPt isOffer st pt codec codecIdx
          let value ← if newPt ≠ pt then rewritePt2 attr.value pt newPt else some attr.value
          return ({ map := st.map.bind codecIdx newPt
                    ptUsed := Function.update st.ptUsed (newPt - START_DYNAMIC_PT) true
                    ptChange := Function.update st.ptChange (pt - START_DYNAMIC_PT) newPt },
            { attr with value := value })

/-- The first pass. -/
def assignRtpmaps (dynCodecs : List PjStr) (isOffer updateOnly : Bool) :
    Assigning → List SdpAttr → Option (Assigning × List SdpAttr)
  | st, [] => some (st, [])
  | st, attr :: rest => do
      let (st, attr) ← assignRtpmap dynCodecs isOffer updateOnly st attr
      let (st, rest) ← assignRtpmaps dynCodecs isOffer updateOnly st rest
      return (st, attr :: rest)

/-- A payload type of the other passes, in the text that begins with it. -/
def changePt (ptChange : Nat → Nat) (pt : Nat) (value : PjStr) : Option PjStr :=
  if pt < START_DYNAMIC_PT then some value
  else if pt ≥ START_DYNAMIC_PT + DYNAMIC_PT_SIZE then none
  else
    let newPt := ptChange (pt - START_DYNAMIC_PT)
    if newPt = 0 ∨ newPt = pt then some value else rewritePt2 value pt newPt

/-- One attribute of the second pass. -/
def changeFmtp (ptChange : Nat → Nat) (attr : SdpAttr) : Option SdpAttr :=
  if attr.name ≠ FMTP then some attr
  else
    let (status, fmtp) := pjmediaSdpAttrGetFmtp attr
    if status ≠ .success then some attr
    else do
      let value ← changePt ptChange (u32 (pjStrtoul fmtp.fmt)) attr.value
      return { attr with value := value }

/-- One member of the format list. -/
def changeFmt (ptChange : Nat → Nat) (fmt : PjStr) : Option PjStr :=
  changePt ptChange (u32 (pjStrtoul fmt)) fmt

/-- What is done for one media line. -/
def assignMedia (dynCodecs : List PjStr) (isOffer updateOnly : Bool) (map : PtMap) (m : SdpMedia) :
    Option (PtMap × SdpMedia) :=
  if m.desc.port = 0 then some (PtMap.init, m)
  else if pjmediaGetType m.desc.media ≠ .audio then some (map, m)
  else do
    let (st, attrs) ← assignRtpmaps dynCodecs isOffer updateOnly ⟨map, fun _ => false, fun _ => 0⟩ m.attr
    if updateOnly then return (st.map, m)
    else
      let attrs ← attrs.mapM (changeFmtp st.ptChange)
      let fmts ← m.desc.fmt.mapM (changeFmt st.ptChange)
      return (st.map, { m with attr := attrs }.setFmt fmts)

/-! ## The session -/

/-- The media lines from the `i`-th on. -/
def assignMedias (dynCodecs : List PjStr) (isOffer updateOnly : Bool) :
    (Nat → PtMap) → (i : Nat) → List SdpMedia → Option ((Nat → PtMap) × List SdpMedia)
  | maps, _, [] => some (maps, [])
  | maps, i, m :: rest =>
    if i ≥ PJMEDIA_MAX_SDP_MEDIA then none
    else do
      let (map, m) ← assignMedia dynCodecs isOffer updateOnly (maps i) m
      let (maps, rest) ←
        assignMedias dynCodecs isOffer updateOnly (Function.update maps i map) (i + 1) rest
      return (maps, m :: rest)

def assignPtAndUpdateMap (dynCodecs : List PjStr) (maps : Nat → PtMap) (sess : SdpSession)
    (isOffer updateOnly : Bool) : Option ((Nat → PtMap) × SdpSession) := do
  let (maps, media) ← assignMedias dynCodecs isOffer updateOnly maps 0 sess.media
  return (maps, { sess with media := media })

end Pjsip.Pjmedia.SdpNeg
