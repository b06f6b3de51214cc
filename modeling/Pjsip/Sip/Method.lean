import Pjsip.Pjlib.Bytes

/-!
# SIP methods (`sip_msg.c`)
-/

namespace Pjsip.Sip

/-- `pjsip_method_e` -/
inductive MethodId where
  | invite | cancel | ack | bye | register | options | other
  deriving DecidableEq, Repr

/-- `pjsip_method` -/
structure Method where
  id : MethodId
  name : List UInt8
  deriving DecidableEq, Repr

/-- `pjsip_method_cmp`, compared with 0. -/
def methodCmp (m1 m2 : Method) : Bool :=
  if m1.id = m2.id then
    if m1.id ≠ .other then true else m1.name = m2.name
  else false

/-- `pjsip_role_e` -/
inductive Role where
  | uac | uas
  deriving DecidableEq, Repr

end Pjsip.Sip
