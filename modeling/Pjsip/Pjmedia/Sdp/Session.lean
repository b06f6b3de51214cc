import Pjsip.Pjmedia.Sdp.Attr

/-!
# SDP sessions

The session and its media lines, their validation, and what can be asked of a
transport. A clone is the value itself; bandwidth lines are cloned and never read.
-/

namespace Pjsip.Pjmedia.Sdp

open Pjsip.Base Pjsip.Pjlib

/-- `pjmedia_sdp_conn` -/
structure SdpConn where
  netType : PjStr
  addrType : PjStr
  addr : PjStr
  deriving DecidableEq, Repr

/-- The `desc` of a media line; `fmt` has `fmt_count` members. -/
structure SdpMediaDesc where
  media : PjStr
  port : Nat
  portCount : Nat
  transport : PjStr
  fmt : List PjStr
  deriving DecidableEq, Repr

/-- `pjmedia_sdp_media` -/
structure SdpMedia where
  desc : SdpMediaDesc
  conn : Option SdpConn
  attr : List SdpAttr
  deriving DecidableEq, Repr

/-- The `origin` of a session; a `pj_uint_t` has 64 bits. -/
structure SdpOrigin where
  user : PjStr
  id : UInt64
  version : UInt64
  netType : PjStr
  addrType : PjStr
  addr : PjStr
  deriving DecidableEq, Repr

/-- The `time` of a session. -/
structure SdpTime where
  start : UInt64
  stop : UInt64
  deriving DecidableEq, Repr

/-- `pjmedia_sdp_session` -/
structure SdpSession where
  origin : SdpOrigin
  name : PjStr
  conn : Option SdpConn
  time : SdpTime
  attr : List SdpAttr
  media : List SdpMedia
  deriving DecidableEq, Repr

def SdpSession.withVersion (sdp : SdpSession) (version : UInt64) : SdpSession :=
  { sdp with origin := { sdp.origin with version := version } }

/-- `++origin.version` -/
def SdpSession.incVersion (sdp : SdpSession) : SdpSession := sdp.withVersion (sdp.origin.version + 1)

/-! ## Media lines -/

def pjmediaSdpMediaFindAttr2 (m : SdpMedia) (name : PjStr) (fmt : Option PjStr) : Option SdpAttr :=
  pjmediaSdpAttrFind m.attr name fmt

/-- `pjmedia_sdp_media_remove_attr` of what `pjmedia_sdp_media_find_attr2` returned, if
anything. -/
def SdpMedia.removeAttr (m : SdpMedia) (name : PjStr) (fmt : Option PjStr) : SdpMedia :=
  { m with attr := pjmediaSdpAttrRemove m.attr name fmt }

def pjmediaSdpMediaAddAttr (m : SdpMedia) (attr : SdpAttr) : SdpMedia :=
  { m with attr := pjmediaSdpAttrAdd m.attr attr }

def SdpMedia.setFmt (m : SdpMedia) (fmt : List PjStr) : SdpMedia :=
  { m with desc := { m.desc with fmt := fmt } }

def pjmediaSdpMediaDeactivate (m : SdpMedia) : SdpMedia :=
  { m with desc := { m.desc with port := 0 }, attr := [] }

/-- `pjmedia_sdp_media_clone_deactivate` -/
def pjmediaSdpMediaCloneDeactivate (rhs : SdpMedia) : SdpMedia := pjmediaSdpMediaDeactivate rhs

/-! ## Media types -/

/-- `pjmedia_type` -/
inductive PjmediaType where
  | none | audio | video | application | unknown
  deriving DecidableEq, Repr

def AUDIO : PjStr := ['a', 'u', 'd', 'i', 'o']
def VIDEO : PjStr := ['v', 'i', 'd', 'e', 'o']

/-- The names in `media_type_names`. -/
def mediaTypeNames : List (PjmediaType × PjStr) :=
  [(.none, ['n', 'o', 'n', 'e']), (.audio, AUDIO), (.video, VIDEO),
    (.application, ['a', 'p', 'p', 'l', 'i', 'c', 'a', 't', 'i', 'o', 'n']),
    (.unknown, ['u', 'n', 'k', 'n', 'o', 'w', 'n'])]

def pjmediaGetType (name : PjStr) : PjmediaType :=
  match mediaTypeNames.find? fun entry => pjStricmp name entry.2 = 0 with
  | some entry => entry.1
  | none => .unknown

/-! ## Validation -/

def IN : PjStr := ['I', 'N']
def IP4 : PjStr := ['I', 'P', '4']
def IP6 : PjStr := ['I', 'P', '6']

def validateSdpConn (c : SdpConn) : SdpStatus :=
  if c.netType ≠ IN then .sdpEinconn
  else if ¬ (c.addrType = IP4 ∨ c.addrType = IP6) then .sdpEinconn
  else if c.addr.length = 0 then .sdpEinconn
  else .success

/-- The payload types of a media line. -/
def validateFmts (m : SdpMedia) : List PjStr → SdpStatus
  | [] => .success
  | fmt :: rest =>
    if startsWithDigit fmt then
      match pjStrtoul3 fmt with
      | none => .sdpEinpt
      | some pt =>
        if ¬ pt ≤ 127 then .sdpEinpt
        else if m.desc.port ≠ 0 ∧ pt ≥ 96 then
          match pjmediaSdpAttrFind m.attr RTPMAP (some fmt) with
          | none => .sdpEmissingrtpmap
          | some _ => validateFmts m rest
        else validateFmts m rest
    else validateFmts m rest

def validateMedia (sdp : SdpSession) (strict : Bool) (m : SdpMedia) : SdpStatus :=
  if m.desc.media.length = 0 then .sdpEinmedia
  else if m.desc.transport.length = 0 then .sdpEinmedia
  else if ¬ (m.desc.fmt.length ≠ 0 ∨ m.desc.port = 0) then .sdpEnofmt
  else
    SdpStatus.andThen (match m.conn with
      | some conn => validateSdpConn conn
      | none =>
        if sdp.conn = none ∧ (strict = true ∨ m.desc.port ≠ 0) then .sdpEmissingconn
        else .success)
      (validateFmts m m.desc.fmt)

def validateMedias (sdp : SdpSession) (strict : Bool) : List SdpMedia → SdpStatus
  | [] => .success
  | m :: rest => SdpStatus.andThen (validateMedia sdp strict m) (validateMedias sdp strict rest)

def pjmediaSdpValidate2 (sdp : SdpSession) (strict : Bool) : SdpStatus :=
  if sdp.origin.user.length = 0 then .sdpEinorigin
  else if sdp.origin.netType ≠ IN then .sdpEinorigin
  else if ¬ (sdp.origin.addrType = IP4 ∨ sdp.origin.addrType = IP6) then .sdpEinorigin
  else if sdp.origin.addr.length = 0 then .sdpEinorigin
  else if sdp.name.length = 0 then .sdpEinname
  else
    SdpStatus.andThen (match sdp.conn with
      | some conn => validateSdpConn conn
      | none => .success)
      (validateMedias sdp strict sdp.media)

def pjmediaSdpValidate (sdp : SdpSession) : SdpStatus := pjmediaSdpValidate2 sdp true

/-! ## Transports -/

def PJMEDIA_TP_PROTO_UNKNOWN : Nat := 1 <<< 0
def PJMEDIA_TP_PROTO_UDP : Nat := 1 <<< 1
def PJMEDIA_TP_PROTO_RTP : Nat := 1 <<< 2
def PJMEDIA_TP_PROTO_DTLS : Nat := 1 <<< 3
def PJMEDIA_TP_PROFILE_RTCP_FB : Nat := 1 <<< 13
def PJMEDIA_TP_PROFILE_SRTP : Nat := 1 <<< 14
def PJMEDIA_TP_PROFILE_AVP : Nat := 1 <<< 15
def PJMEDIA_TP_PROTO_RTP_AVP : Nat := PJMEDIA_TP_PROTO_RTP ||| PJMEDIA_TP_PROFILE_AVP
def PJMEDIA_TP_PROTO_RTP_SAVP : Nat := PJMEDIA_TP_PROTO_RTP_AVP ||| PJMEDIA_TP_PROFILE_SRTP
def PJMEDIA_TP_PROTO_DTLS_SRTP : Nat := PJMEDIA_TP_PROTO_DTLS ||| PJMEDIA_TP_PROTO_RTP_SAVP
def PJMEDIA_TP_PROTO_RTP_AVPF : Nat := PJMEDIA_TP_PROTO_RTP_AVP ||| PJMEDIA_TP_PROFILE_RTCP_FB
def PJMEDIA_TP_PROTO_RTP_SAVPF : Nat := PJMEDIA_TP_PROTO_RTP_SAVP ||| PJMEDIA_TP_PROFILE_RTCP_FB
def PJMEDIA_TP_PROTO_DTLS_SRTPF : Nat := PJMEDIA_TP_PROTO_DTLS_SRTP ||| PJMEDIA_TP_PROFILE_RTCP_FB

/-- `PJMEDIA_TP_PROTO_HAS_FLAG` -/
def hasFlag (proto flags : Nat) : Bool := proto &&& flags = flags

/-- `PJMEDIA_TP_PROTO_TRIM_FLAG` of `PJMEDIA_TP_PROFILE_RTCP_FB` -/
def trimRtcpFb (proto : Nat) : Nat :=
  if hasFlag proto PJMEDIA_TP_PROFILE_RTCP_FB then proto - PJMEDIA_TP_PROFILE_RTCP_FB else proto

def AVP : PjStr := ['A', 'V', 'P']
def SAVP : PjStr := 'S' :: AVP
def AVPF : PjStr := AVP ++ ['F']
def SAVPF : PjStr := 'S' :: AVPF
def RTP : PjStr := ['R', 'T', 'P']
def UDP : PjStr := ['U', 'D', 'P']
def TLS_RTP : PjStr := ['T', 'L', 'S', '/', 'R', 'T', 'P', '/']

def pjmediaSdpTransportGetProto (tp : PjStr) : Nat :=
  let skipped := tp.dropWhile (· = '/')
  let idx := tp.length - skipped.length
  -- `pj_strtok2` keeps the whole string when it is all slashes
  let token := if idx = tp.length then tp else skipped.takeWhile (· ≠ '/')
  let rest := if idx ≠ tp.length ∧ tp.length ≠ token.length then tp.drop (token.length + 1) else []
  if pjStricmp token RTP = 0 then
    if pjStricmp rest AVP = 0 then PJMEDIA_TP_PROTO_RTP_AVP
    else if pjStricmp rest SAVP = 0 then PJMEDIA_TP_PROTO_RTP_SAVP
    else if pjStricmp rest AVPF = 0 then PJMEDIA_TP_PROTO_RTP_AVPF
    else if pjStricmp rest SAVPF = 0 then PJMEDIA_TP_PROTO_RTP_SAVPF
    else PJMEDIA_TP_PROTO_UNKNOWN
  else if pjStricmp token UDP = 0 then
    if rest.length = 0 then PJMEDIA_TP_PROTO_UDP
    else if pjStricmp rest (TLS_RTP ++ SAVP) = 0 then PJMEDIA_TP_PROTO_DTLS_SRTP
    else if pjStricmp rest (TLS_RTP ++ SAVPF) = 0 then PJMEDIA_TP_PROTO_DTLS_SRTPF
    else PJMEDIA_TP_PROTO_UNKNOWN
  else PJMEDIA_TP_PROTO_UNKNOWN

def pjmediaSdpTransportCmp (t1 t2 : PjStr) : SdpStatus :=
  if pjStricmp t1 t2 = 0 then .success
  else if hasFlag (pjmediaSdpTransportGetProto t1) PJMEDIA_TP_PROTO_RTP_AVP ∧
      hasFlag (pjmediaSdpTransportGetProto t2) PJMEDIA_TP_PROTO_RTP_AVP then .success
  else .sdpEtportnotequal

end Pjsip.Pjmedia.Sdp

/-!
# Comparing SDP (`sdp_cmp.c`)

Two sessions compare equal when their lines do and, of their attributes, the
directions, the `rtpmap`s and the `fmtp`s of each are in the other.
-/

namespace Pjsip.Pjmedia.Sdp

open Pjsip.Base Pjsip.Pjlib

def compareConn (c1 c2 : SdpConn) : SdpStatus :=
  if c1.netType ≠ c2.netType then .sdpEconnnotequal
  else if c1.addrType ≠ c2.addrType then .sdpEconnnotequal
  else if c1.addr ≠ c2.addr then .sdpEconnnotequal
  else .success

/-- One attribute of the first array against the second array. -/
def compareOneAttr (a1 : SdpAttr) (attr2 : List SdpAttr) : SdpStatus :=
  if a1.name = INACTIVE ∨ a1.name = SENDRECV ∨ a1.name = SENDONLY ∨ a1.name = RECVONLY then
    match pjmediaSdpAttrFind attr2 a1.name none with
    | none => .sdpEdirnotequal
    | some _ => .success
  else if a1.name = FMTP then
    let (status, fmtp1) := pjmediaSdpAttrGetFmtp a1
    if status ≠ .success then .sdpEfmtpnotequal
    else
      match pjmediaSdpAttrFind attr2 a1.name (some fmtp1.fmt) with
      | none => .sdpEfmtpnotequal
      | some a2 =>
        let (status, fmtp2) := pjmediaSdpAttrGetFmtp a2
        if status ≠ .success then .sdpEfmtpnotequal
        else if fmtp1.fmtParam ≠ fmtp2.fmtParam then .sdpEfmtpnotequal
        else .success
  else if a1.name = RTPMAP then
    let (status, r1) := pjmediaSdpAttrGetRtpmap a1
    if status ≠ .success then .sdpErtpmapnotequal
    else
      match pjmediaSdpAttrFind attr2 a1.name (some r1.pt) with
      | none => .sdpErtpmapnotequal
      | some a2 =>
        let (status, r2) := pjmediaSdpAttrGetRtpmap a2
        if status ≠ .success then .sdpErtpmapnotequal
        else if r1.pt ≠ r2.pt then .sdpErtpmapnotequal
        else if r1.encName ≠ r2.encName then .sdpErtpmapnotequal
        else if r1.clockRate ≠ r2.clockRate then .sdpErtpmapnotequal
        else if r1.param ≠ r2.param then .sdpErtpmapnotequal
        else .success
  else .success

def compareAttrImp (attr1 attr2 : List SdpAttr) : SdpStatus :=
  match attr1 with
  | [] => .success
  | a1 :: rest => (compareOneAttr a1 attr2).andThen (compareAttrImp rest attr2)

def compareAttr (attr1 attr2 : List SdpAttr) : SdpStatus :=
  (compareAttrImp attr1 attr2).andThen (compareAttrImp attr2 attr1)

/-- The connection lines of two media lines or sessions, with the status for one that
only one of them has. -/
def compareOptionalConn (missing : SdpStatus) : Option SdpConn → Option SdpConn → SdpStatus
  | some c1, some c2 => compareConn c1 c2
  | none, none => .success
  | _, _ => missing

def pjmediaSdpMediaCmp (sd1 sd2 : SdpMedia) : SdpStatus :=
  if sd1.desc.media ≠ sd2.desc.media then .sdpEmedianotequal
  else if sd1.desc.port ≠ sd2.desc.port then .sdpEportnotequal
  else if sd1.desc.portCount ≠ sd2.desc.portCount then .sdpEportnotequal
  else if sd1.desc.transport ≠ sd2.desc.transport then .sdpEtportnotequal
  else if sd1.desc.port = 0 then .success
  else if sd1.desc.fmt ≠ sd2.desc.fmt then .sdpEformatnotequal
  else
    (compareOptionalConn .sdpEmedianotequal sd1.conn sd2.conn).andThen
      (compareAttr sd1.attr sd2.attr)

/-- The media lines of two sessions, as far as both go. -/
def compareMedias : List SdpMedia → List SdpMedia → SdpStatus
  | m1 :: rest1, m2 :: rest2 => (pjmediaSdpMediaCmp m1 m2).andThen (compareMedias rest1 rest2)
  | _, _ => .success

/-- Everything that `pjmedia_sdp_session_cmp` compares after the origin. -/
def compareBody (sd1 sd2 : SdpSession) : SdpStatus :=
  if sd1.name ≠ sd2.name then .sdpEnamenotequal
  else
    (compareOptionalConn .sdpEconnnotequal sd1.conn sd2.conn).andThen
      (if sd1.time.start ≠ sd2.time.start then .sdpEtimenotequal
      else if sd1.time.stop ≠ sd2.time.stop then .sdpEtimenotequal
      else
        (compareAttr sd1.attr sd2.attr).andThen
          (if sd1.media.length ≠ sd2.media.length then .sdpEmedianotequal
          else compareMedias sd1.media sd2.media))

/-- `pjmedia_sdp_session_cmp` of two sessions. -/
def pjmediaSdpSessionCmp (sd1 sd2 : SdpSession) : SdpStatus :=
  if sd1.origin.user ≠ sd2.origin.user then .sdpEoriginnotequal
  else if sd1.origin.id ≠ sd2.origin.id then .sdpEoriginnotequal
  else if sd1.origin.version ≠ sd2.origin.version then .sdpEoriginnotequal
  else if sd1.origin.netType ≠ sd2.origin.netType then .sdpEoriginnotequal
  else if sd1.origin.addrType ≠ sd2.origin.addrType then .sdpEoriginnotequal
  else if sd1.origin.addr ≠ sd2.origin.addr then .sdpEoriginnotequal
  else compareBody sd1 sd2

end Pjsip.Pjmedia.Sdp
