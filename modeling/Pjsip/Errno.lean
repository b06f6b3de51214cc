/-!
# Status codes of pjlib
-/

namespace Pjsip.Pjlib

/-- `PJ_SUCCESS` and the error codes of `pj/errno.h`. -/
inductive PjStatus where
  | success
  | eunknown | epending | etoomanyconn | einval | enametoolong | enotfound
  | enomem | ebug | etimedout | etoomany | ebusy | enotsup | einvalidop
  | ecancelled | eexists | eeof | etoobig | eresolve | etoosmall | eignored
  | eipv6notsup | eafnotsup | egone | esocketstop
  /-- A value returned as a status that is none of them. -/
  | raw (code : Int)
  deriving DecidableEq, Repr

end Pjsip.Pjlib

/-!
# Status codes of pjlib-util
-/

namespace Pjsip.PjlibUtil

/-- The error codes of `pj/errno.h` and `pjlib-util/errno.h` that the DNS functions return. -/
inductive DnsStatus where
  | einval | enametoolong | eignored | ednsqrytoosmall | ecancelled | einvalidop
  | ednsinsize | ednsinnameptr | ednsinclass | ednsinanswer | ednsnoanswerrec
  /-- `PJ_STATUS_FROM_DNS_RCODE` -/
  | rcode (code : Nat)
  /-- What a socket or another function below has returned. -/
  | other (code : Int)
  deriving DecidableEq, Repr

end Pjsip.PjlibUtil

/-!
# Status codes of the STUN modules
-/

namespace Pjsip.Pjnath

/-- The error codes of `pj/errno.h` and `pjnath/errno.h` that the STUN functions return. -/
inductive StunStatus where
  | einval | etoosmall | etoomany | ebug | einvalidop
  | einstunmsglen | einstunmsgtype | estuntoomanyattr | estuninattrlen | estundupattr
  | estunfingerprint | estunmsgintpos | estunfingerpos | einvaf
  /-- `PJ_STATUS_FROM_STUN_CODE` -/
  | stunCode (code : Nat)
  /-- What a function of the application returned. -/
  | app (code : Int)
  deriving DecidableEq, Repr

/-- `pj_strerror`, for the codes whose text ends up in a response. -/
def StunStatus.strerror : StunStatus → String
  | .etoomany => "Too many objects of the specified type (PJ_ETOOMANY)"
  | .estuninattrlen => "Invalid STUN attribute length (PJNATH_ESTUNINATTRLEN)"
  | .einvaf => "Invalid STUN address family value (PJNATH_EINVAF)"
  | _ => ""

/-- The error codes that the functions of an ICE session return or keep. -/
inductive IceStatus where
  | success
  | einval | etoomany | enotfound | einvalidop | ecancelled
  | eicefailed | eicenomtimeout | eicenohostcand | eiceinsrcaddr | estunnomappedaddr
  /-- `PJ_STATUS_FROM_STUN_CODE` -/
  | stunCode (code : Nat)
  /-- What a function below the session returned. -/
  | other (code : Int)
  deriving DecidableEq, Repr

end Pjsip.Pjnath

/-!
# Status codes of the SDP modules
-/

namespace Pjsip.Pjmedia

/-- The codes of `pj/errno.h` that the SDP functions return, and those that
`pjmedia/errno.h` has for SDP. -/
inductive SdpStatus where
  | success | einval | ebug
  | sdpEinorigin | sdpEinname | sdpEinconn | sdpEmissingconn | sdpEinattr | sdpEinrtpmap
  | sdpEmissingrtpmap | sdpEinmedia | sdpEnofmt | sdpEinpt | sdpEinfmtp
  | sdpnegEinstate | sdpnegEnoactive | sdpnegEinvansmedia | sdpnegEinvanstp
  | sdpnegEansnomedia | sdpnegEnomedia | sdpnegNoanscodec | sdpnegNoansunknown
  | sdpEmedianotequal | sdpEportnotequal | sdpEtportnotequal | sdpEformatnotequal
  | sdpEconnnotequal | sdpEdirnotequal | sdpEfmtpnotequal | sdpErtpmapnotequal
  | sdpEoriginnotequal | sdpEnamenotequal | sdpEtimenotequal
  deriving DecidableEq, Repr

/-- A check, and if it succeeds the next one. -/
def SdpStatus.andThen (status next : SdpStatus) : SdpStatus :=
  if status = .success then next else status

end Pjsip.Pjmedia

/-!
# Status codes of the packetizers
-/

namespace Pjsip.PjmediaCodec

/-- The error codes that the packetizers return. -/
inductive CodecStatus where
  | einval | enotsup | etoosmall | eignored
  /-- `PJMEDIA_CODEC_EFRMTOOSHORT` -/
  | efrmtooshort
  deriving DecidableEq, Repr

end Pjsip.PjmediaCodec

/-!
# Status codes of the SIP modules
-/

namespace Pjsip.Sip

/-- The codes of `pj/errno.h` and `pjsip/sip_errno.h` that the transaction layer returns. -/
inductive SipStatus where
  | success
  | eunknown | epending | einval | ebug | einvalidop | eexists | eignored | eresolve | ednsNxdomain
  | emissinghdr | einvalidhdr | enotrequestmsg | enotresponsemsg | einvalidmethod
  /-- What a function below the transaction returned. -/
  | other (code : Int)
  deriving DecidableEq, Repr

end Pjsip.Sip
