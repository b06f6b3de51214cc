import Pjsip.Pjlib.Bytes
import Pjsip.Errno

/-!
# SDP attributes

Finding, removing and reading the attributes of `pjmedia/sdp.h`. An attribute array
is a list; a pointer to one of its members is used to read that member or to take
it out, so that a search and `eraseP` with the same test do.
-/

namespace Pjsip.Pjmedia.Sdp

open Pjsip.Base Pjsip.Pjlib

def PJMEDIA_MAX_SDP_FMT : Nat := 32
def PJMEDIA_MAX_SDP_ATTR : Nat := PJMEDIA_MAX_SDP_FMT * 2 + 4
def PJMEDIA_MAX_SDP_MEDIA : Nat := 16

def RTPMAP : PjStr := ['r', 't', 'p', 'm', 'a', 'p']
def FMTP : PjStr := ['f', 'm', 't', 'p']
def INACTIVE : PjStr := ['i', 'n', 'a', 'c', 't', 'i', 'v', 'e']
def SENDRECV : PjStr := ['s', 'e', 'n', 'd', 'r', 'e', 'c', 'v']
def SENDONLY : PjStr := ['s', 'e', 'n', 'd', 'o', 'n', 'l', 'y']
def RECVONLY : PjStr := ['r', 'e', 'c', 'v', 'o', 'n', 'l', 'y']

/-- `pjmedia_sdp_attr` -/
structure SdpAttr where
  name : PjStr
  value : PjStr
  deriving DecidableEq, Repr

/-- `pjmedia_sdp_rtpmap` -/
structure SdpRtpmap where
  pt : PjStr
  encName : PjStr
  clockRate : Nat
  param : PjStr
  deriving DecidableEq, Repr

/-- `pjmedia_sdp_fmtp` -/
structure SdpFmtp where
  fmt : PjStr
  fmtParam : PjStr
  deriving DecidableEq, Repr

/-! ## Searching -/

/-- The test of `pjmedia_sdp_attr_find`: the name, and with a format the payload type
that the value begins with. -/
def attrIs (name : PjStr) (cFmt : Option PjStr) (a : SdpAttr) : Bool :=
  a.name = name &&
    match cFmt with
    | none => true
    | some fmt =>
      match pjStrtoul3 fmt with
      | none => false
      | some ul =>
        let (pt, endptr) := pjStrtoul2 a.value
        endptr.length ≠ a.value.length && u32 pt = u32 ul

def pjmediaSdpAttrFind (attrs : List SdpAttr) (name : PjStr) (cFmt : Option PjStr) :
    Option SdpAttr :=
  attrs.find? (attrIs name cFmt)

/-- `pjmedia_sdp_attr_remove` of what `pjmedia_sdp_attr_find` returned. -/
def pjmediaSdpAttrRemove (attrs : List SdpAttr) (name : PjStr) (cFmt : Option PjStr) :
    List SdpAttr :=
  attrs.eraseP (attrIs name cFmt)

/-- `pjmedia_sdp_attr_add`: an attribute too many is ignored. -/
def pjmediaSdpAttrAdd (attrs : List SdpAttr) (attr : SdpAttr) : List SdpAttr :=
  if attrs.length ≥ PJMEDIA_MAX_SDP_ATTR then attrs else attrs ++ [attr]

def pjmediaSdpAttrRemoveAll (attrs : List SdpAttr) (name : PjStr) : List SdpAttr :=
  attrs.filter fun a => a.name ≠ name

/-! ## Reading -/

/-- The characters of `TOKEN` that are neither letters nor digits. -/
def tokenSigns : List Nat :=
  [0x21, 0x23, 0x24, 0x25, 0x26, 0x27, 0x2a, 0x2b, 0x2d, 0x2e, 0x5e, 0x5f, 0x60, 0x7b, 0x7c, 0x7d,
    0x7e]

def csToken (c : Char) : Bool := c.isAlphanum || tokenSigns.contains c.toNat

def csDigit (c : Char) : Bool := c.isDigit

/-- `pj_scan_skip_whitespace` under `PJ_SCAN_AUTOSKIP_WS`. -/
def pjScanSkipWhitespace (scanner : PjStr) : PjStr :=
  scanner.dropWhile fun c => c = ' ' || c = '\t'

/-- `pj_scan_get`: what matches, and what is left to scan; `none` is the syntax error. -/
def pjScanGet (scanner : PjStr) (spec : Char → Bool) : Option (PjStr × PjStr) :=
  match scanner with
  | [] => none
  | c :: _ =>
    if spec c then
      some (scanner.takeWhile spec, pjScanSkipWhitespace (scanner.dropWhile spec))
    else none

def pjScanGetChar (scanner : PjStr) : Option (Char × PjStr) :=
  match scanner with
  | [] => none
  | c :: rest => if c.toNat = 0 then none else some (c, pjScanSkipWhitespace rest)

/-- `pjmedia_sdp_attr_get_rtpmap`. When it fails, the fields not reached are as it
initialises them. -/
def pjmediaSdpAttrGetRtpmap (attr : SdpAttr) : SdpStatus × SdpRtpmap :=
  if attr.value.length = 0 then (.sdpEinattr, ⟨[], [], 0, []⟩)
  else
    match pjScanGet (pjScanSkipWhitespace attr.value) csToken with
    | none => (.sdpEinrtpmap, ⟨[], [], 0, []⟩)
    | some (pt, rest) =>
      match pjScanGet rest csToken with
      | none => (.sdpEinrtpmap, ⟨pt, [], 0, []⟩)
      | some (encName, rest) =>
        match pjScanGetChar rest with
        | none => (.sdpEinrtpmap, ⟨pt, encName, 0, []⟩)
        | some (slash, rest) =>
          if slash ≠ '/' then (.sdpEinrtpmap, ⟨pt, encName, 0, []⟩)
          else
            match pjScanGet rest csDigit with
            | none => (.sdpEinrtpmap, ⟨pt, encName, 0, []⟩)
            | some (token, rest) =>
              let clockRate := u32 (pjStrtoul token)
              if rest.head? = some '/' then
                match pjScanGet (pjScanSkipWhitespace rest.tail) csToken with
                | none => (.sdpEinrtpmap, ⟨pt, encName, clockRate, []⟩)
                | some (param, _) => (.success, ⟨pt, encName, clockRate, param⟩)
              else (.success, ⟨pt, encName, clockRate, []⟩)

def pjmediaSdpAttrGetFmtp (attr : SdpAttr) : SdpStatus × SdpFmtp :=
  let fmt := attr.value.takeWhile pjIsdigit
  let rest := attr.value.dropWhile pjIsdigit
  if attr.value.length = 0 then (.sdpEinattr, ⟨[], []⟩)
  else if fmt.length = 0 then (.sdpEinfmtp, ⟨[], []⟩)
  else if rest.head? ≠ some ' ' then (.sdpEinfmtp, ⟨fmt, []⟩)
  else (.success, ⟨fmt, rest.tail⟩)

end Pjsip.Pjmedia.Sdp
