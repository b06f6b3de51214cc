import Pjsip.Pjmedia.Jbuf.Counts
import Pjsip.Pjmedia.Jbuf.Playout
import Pjsip.Pjlib.Timer.Failing
import Pjsip.Pjlib.Timer.Firing
import Pjsip.Pjlib.Number
import Pjsip.Pjmedia.SdpNeg.Common
import Pjsip.Pjmedia.SdpNeg.Versions
import Pjsip.Pjlib.Rbtree.Balance
import Pjsip.Pjmedia.Rtp.Decode
import Pjsip.Pjmedia.Rtp.Session
import Pjsip.Pjnath.Ice.RoleConflict
import Pjsip.Pjnath.Ice.RoleMoves
import Pjsip.Pjnath.Stun.Unprotected
import Pjsip.Pjnath.Ice.Attribution
import Pjsip.Pjnath.Ice.Conclusion
import Pjsip.Pjnath.Ice.Election
import Pjsip.Sip.Tsx.Tables
import Pjsip.Pjnath.Ice.Structure
import Pjsip.Pjnath.Turn.Stream
import Pjsip.Pjnath.Stun.Answers
import Pjsip.PjlibUtil.Dns.Records
import Pjsip.PjlibUtil.Srv.Completion
import Pjsip.Sip.Ua.Requests
import Pjsip.SipUa.Rel100.Hampered
import Pjsip.SipUa.Timer.Agree
import Pjsip.SipUa.Timer.Calm
import Pjsip.Sip.Lifetime.Runs
import Pjsip.SipSimple.Evsub.Runs
import Pjsip.Pjlib.HashTable
import Pjsip.SipSimple.Notifier.Runs
import Pjsip.Sip.RouteSet.Undone
import Pjsip.Sip.RouteSet.Forks
import Pjsip.Pjmedia.Rtcp.Truth
import Pjsip.SipUa.Rel100.Acknowledged
import Pjsip.Pjnath.Turn.InTime
import Pjsip.Pjnath.Ice.Authentic
import Pjsip.Pjmedia.Dtmf
import Pjsip.SipUa.Timer.Headers
import Pjsip.Pjmedia.Rtcp.FeedbackRoundTrip
import Pjsip.PjmediaCodec.Vpx.RoundTrip
import Pjsip.Pjmedia.Rtcp.Sdes
import Pjsip.PjmediaCodec.H263.RoundTrip
import Pjsip.PjmediaCodec.H264.Loss
import Pjsip.Pjlib.Fifobuf
import Pjsip.PjlibUtil.Base64
import Pjsip.Pjmedia.DelayBuf
import Pjsip.PjlibUtil.Dns.Query
import Pjsip.PjlibUtil.Srv.Order
import Pjsip.Sip.Tsx.Schedule
import Pjsip.Sip.Tsx.Keys
