import Pjsip.Pjnath.Stun.Framing
import Pjsip.Pjnath.Stun.RoundTrip

/-!
# Verifying what has been signed

The verifier finds MESSAGE-INTEGRITY by the lengths that it has read, and puts into the
header the length that the message had when it was signed. It comes to the same octets as
the encoder, whether FINGERPRINT follows or not.
-/

namespace Pjsip.Pjnath.Stun

open Pjsip.Base

/-! ## Finding MESSAGE-INTEGRITY -/

theorem forall₂_append_left {R : Attr → Attr → Prop} {before after got : List Attr}
    (all : List.Forall₂ R (before ++ after) got) :
    ∃ got1 got2, got = got1 ++ got2 ∧ List.Forall₂ R before got1 ∧ List.Forall₂ R after got2 := by
  induction before generalizing got with
  | nil => exact ⟨[], got, rfl, .nil, all⟩
  | cons a before ih =>
    obtain ⟨b, rest, first, others, rfl⟩ := List.forall₂_cons_left_iff.1 all
    obtain ⟨got1, got2, rfl, first', second⟩ := ih others
    exact ⟨b :: got1, got2, rfl, .cons first first', second⟩

variable {msghdr : MsgHdr}

theorem lookForMsgint_before {sent got : List Attr}
    (allRead : List.Forall₂ (ReadAs msghdr) sent got) (carried : ∀ a ∈ sent, a.Carried)
    (other : ∀ a ∈ sent, a.type ≠ attrMessageIntegrity) (after : List Attr) (pos : Nat) :
    lookForMsgint (got ++ after) ⟨none, pos, false⟩
      = lookForMsgint after ⟨none, pos + (sent.map Attr.size).sum, false⟩ := by
  induction allRead generalizing pos with
  | nil => rfl
  | @cons a b sent got readAs _ ih =>
    rw [List.forall_mem_cons] at carried other
    have size := Attr.wireLength_size carried.1.taken carried.1.small msghdr
    have plain : b.type ≠ attrMessageIntegrity := by
      rw [readAs.type]
      exact other.1
    rw [List.cons_append, lookForMsgint_other plain, ih carried.2 other.2, readAs.length, size, List.map_cons, List.sum_cons, Nat.add_assoc]

theorem lookForMsgint_none {attrs : List Attr} {pos : Nat} {beyond : Bool}
    (absent : attrs.find? (·.type = attrMessageIntegrity) = none) :
    (lookForMsgint attrs ⟨none, pos, beyond⟩).amsgi = none := by
  induction attrs generalizing pos with
  | nil => rfl
  | cons a attrs ih =>
    rw [List.find?_cons] at absent
    split at absent
    · nomatch absent
    · rename_i other
      rw [lookForMsgint, if_neg (by simpa using other), if_neg (by simp)]
      exact ih absent

/-! ## Texts -/

theorem Attr.text_value {a : Attr} (kind : attrKind a.type = some .string) :
    ∃ value, a.value = .string value := by
  obtain ⟨type, length, value, suits⟩ := a
  change attrKind type = some .string at kind
  rw [kind] at suits
  cases value with
  | string value => exact ⟨value, rfl⟩
  | _ => nomatch suits

theorem ReadAs.text {a b : Attr} (readAs : ReadAs msghdr a b)
    (kind : attrKind a.type = some .string) (plain : a.type ≠ attrSoftware) : b.text = a.text := by
  obtain ⟨sent, valueSent⟩ := Attr.text_value kind
  obtain ⟨got, valueGot⟩ := Attr.text_value (a := b) (by rw [readAs.type]; exact kind)
  have same := readAs.value (by rw [Attr.exact, valueSent])
  rw [valueSent, valueGot] at same
  rcases same with same | ⟨software, -⟩
  · rw [Attr.text, Attr.text, valueSent, valueGot, Subtype.ext same]
  · exact absurd software plain

theorem find_text_read {sent got : List Attr}
    (allRead : List.Forall₂ (ReadAs msghdr) sent got) {attrType : UInt16}
    (kind : attrKind attrType = some .string) (plain : attrType ≠ attrSoftware) :
    (got.find? (·.type = attrType)).bind Attr.text
      = (sent.find? (·.type = attrType)).bind Attr.text := by
  induction allRead with
  | nil => rfl
  | @cons a b sent got readAs _ ih =>
    by_cases type : a.type = attrType
    · rw [List.find?_cons_of_pos (by simp [readAs.type, type]),
        List.find?_cons_of_pos (by simp [type])]
      subst type
      exact readAs.text kind plain
    · rw [List.find?_cons_of_neg (by simp [readAs.type, type]),
        List.find?_cons_of_neg (by simp [type])]
      exact ih

theorem find_text_sealed {hmac : Option (Octets 20)} {crc : Option UInt32} (attrs : List Attr)
    (attrType : UInt16) :
    ((attrs.map (Attr.sealed hmac crc)).find? (·.type = attrType)).bind Attr.text
      = (attrs.find? (·.type = attrType)).bind Attr.text := by
  have text : ∀ a : Attr, (a.sealed hmac crc).text = a.text := by
    intro a
    obtain ⟨type, length, value, suits⟩ := a
    cases value <;> rfl
  induction attrs with
  | nil => rfl
  | cons a attrs ih =>
    by_cases type : a.type = attrType
    · rw [List.map_cons, List.find?_cons_of_pos (by simp [type]),
        List.find?_cons_of_pos (by simp [type])]
      exact text a
    · rw [List.map_cons, List.find?_cons_of_neg (by simp [type]),
        List.find?_cons_of_neg (by simp [type])]
      exact ih

/-! ## The octets that are covered -/

section Printout

variable {env : StunEnv} {msg msg' : StunMsg} {key : List UInt8} {out : List UInt8}
  (p : Printout env msg msg' (some key) out) {mi : Attr} (has : p.mi = some mi)

/-- What the encoder has computed the digest over. -/
def Printout.signed : List UInt8 :=
  hdrOctets msg.hdr (UInt16.ofNat (p.imgs.flatten.length + 24)) ++ p.imgs.flatten

include p in
theorem Printout.findText_read {got : StunMsg}
    (allRead : List.Forall₂ (ReadAs msg.hdr) msg'.attrs got.attrs) (attrType : UInt16)
    (kind : attrKind attrType = some .string) (plain : attrType ≠ attrSoftware) :
    got.findText attrType = msg.findText attrType := by
  have kept : msg'.attrs = msg.attrs.map (Attr.sealed p.hmac p.crc) :=
    congrArg StunMsg.attrs p.kept
  rw [kept] at allRead
  exact (find_text_read allRead kind plain).trans (find_text_sealed msg.attrs attrType)

include has

theorem Printout.tail_length : p.tailImgs.flatten.length = 24 + if p.fp.isSome then 8 else 0 := by
  obtain ⟨-, old, value⟩ := Attr.msgint_value (p.miType mi has)
  have miSize : mi.size = 24 := by rw [Attr.size, value]
  rw [images_length p.tailImages, has]
  cases fp : p.fp with
  | none => simp [Attr.sealed_size, miSize]
  | some a =>
    obtain ⟨old', value'⟩ := Attr.fingerprint_value (p.fpType a fp)
    have fpSize : a.size = 8 := by rw [Attr.size, value']
    simp [Attr.sealed_size, miSize, fpSize]

theorem Printout.covered (gotMi : Option Attr) :
    Sighting.covered ⟨gotMi, p.imgs.flatten.length, p.fp.isSome⟩ out = p.signed := by
  have printed := p.printed
  rw [p.tail_length has] at printed
  have header : out.take 20 = _ :=
    (congrArg (List.take 20) printed).trans (List.take_left' (hdrOctets_length _ _))
  have body : (out.drop 20).take p.imgs.flatten.length = p.imgs.flatten := by
    rw [p.body, List.take_left]
  rw [Sighting.covered, Printout.signed]
  show (if p.fp.isSome then _ else _) ++ (out.drop 20).take p.imgs.flatten.length = _
  rw [body]
  cases fp : p.fp with
  | none =>
    rw [fp] at header
    rw [if_neg (by simp), header]
    rfl
  | some a =>
    have two : out.take 2 = put16 msg.hdr.type := by
      rw [show out.take 2 = (out.take 20).take 2 by rw [List.take_take]; rfl, header]
      rfl
    rw [if_pos (show (some a).isSome = true from rfl), two, header]
    rfl

variable (framed : Framed msg)

include framed

theorem Printout.msgint_read {got : StunMsg}
    (allRead : List.Forall₂ (ReadAs msg.hdr) msg'.attrs got.attrs) :
    ∃ gotMi, got.msgint = ⟨some gotMi, p.imgs.flatten.length, p.fp.isSome⟩
      ∧ gotMi.type = attrMessageIntegrity
      ∧ gotMi.value = .msgint (env.hmacSha1 key p.signed) := by
  have carried := p.sent_carried framed
  rw [(p.sent_eq framed).2, Printout.sent, has] at allRead
  obtain ⟨before, tail, whole, first, last⟩ := forall₂_append_left allRead
  obtain ⟨gotMi, after, readMi, readFp, rfl⟩ := List.forall₂_cons_left_iff.1 last
  have type : gotMi.type = attrMessageIntegrity := by
    rw [readMi.type, Attr.sealed_type]
    exact p.miType mi has
  have afterFp : (∀ a ∈ after, a.type ≠ attrMessageIntegrity) ∧ (!after.isEmpty) = p.fp.isSome := by
    cases fp : p.fp with
    | none =>
      rw [fp] at readFp
      cases readFp
      exact ⟨(by simp), rfl⟩
    | some a =>
      rw [fp] at readFp
      obtain ⟨b, rest, readB, ends, rfl⟩ := List.forall₂_cons_left_iff.1 readFp
      cases ends
      refine ⟨?_, rfl⟩
      intro c mem
      rw [List.mem_singleton.1 mem, readB.type, Attr.sealed_type, p.fpType a fp]
      decide
  have plain : ∀ a ∈ p.done, a.type ≠ attrMessageIntegrity := by
    intro a mem type'
    have stops := (p.plain a mem).1
    simp [Attr.stops, type'] at stops
  obtain ⟨k, same, digest⟩ := p.integrity mi has
  cases same
  have value : (mi.sealed p.hmac p.crc).value = .msgint (env.hmacSha1 key p.signed) := by
    rw [digest]
    exact Attr.sealed_msgint _ _ (p.miType mi has)
  refine ⟨gotMi, ?_, type, ?_⟩
  · rw [StunMsg.msgint, whole,
      lookForMsgint_before first (fun a mem => carried a (List.mem_append_left _ mem)) plain,
      lookForMsgint_at type afterFp.1, afterFp.2, images_length p.images, Nat.zero_add]
  · have read := readMi.value (by rw [Attr.exact, value])
    rw [value] at read
    exact read

end Printout

/-! ## Requests and responses -/

/-- The request presents what the credential asks for. -/
structure Presents (cred : StaticCred) (msg : StunMsg) : Prop where
  username : msg.findText attrUsername = some cred.username
  realm : cred.realm.1 ≠ [] → msg.findText attrRealm = some cred.realm
  nonce : cred.nonce.1 ≠ [] → msg.findText attrNonce = some cred.nonce

/-- A short term credential with a nonce is not refused if the request has a REALM. -/
def NonceTaken (cred : StaticCred) (msg : StunMsg) : Prop :=
  cred.realm.1 = [] → cred.nonce.1 = [] ∨ msg.findText attrRealm ≠ none

def StaticCred.key (env : StunEnv) (cred : StaticCred) : List UInt8 :=
  pjStunCreateKey env (some cred.realm) cred.username cred.dataType cred.data

theorem stricmpEq_refl (str : Text) : stricmpEq str str = true := by
  have same : ∀ bytes : List UInt8, sameNoCase bytes bytes = true := by
    intro bytes
    induction bytes with
    | nil => rfl
    | cons b bytes ih => simp [sameNoCase, ih]
  simp [stricmpEq, same]

theorem checkTerm_presented {cred : StaticCred} {msg : StunMsg} (presents : Presents cred msg) :
    checkTerm cred.realm cred.nonce (msg.findText attrRealm) (msg.findText attrNonce) = .ok ()
      ↔ NonceTaken cred msg := by
  unfold checkTerm NonceTaken
  by_cases long : cred.realm.1 = []
  · cases realm : msg.findText attrRealm with
    | none =>
      simp only [long]
      by_cases nonce : cred.nonce.1 = [] <;> simp [nonce]
    | some arealm => simp [long]
  · have missing : ¬ (msg.findText attrNonce = none ∧ cred.nonce.1 ≠ []) := by
      intro both
      rw [presents.nonce both.2] at both
      nomatch both.1
    rw [presents.realm long]
    simp [long, missing, stricmpEq_refl]

section Verify

variable {env : StunEnv} {msg msg' got : StunMsg} {key : List UInt8} {out : List UInt8}
  (p : Printout env msg msg' (some key) out) {mi : Attr} (has : p.mi = some mi)
  (framed : Framed msg) (allRead : List.Forall₂ (ReadAs msg.hdr) msg'.attrs got.attrs)

include p has framed allRead

theorem Printout.hmac_ok {gotMi : Attr} (found : got.msgint.amsgi = some gotMi) :
    gotMi.value = .msgint (env.hmacSha1 key (got.msgint.covered out)) := by
  obtain ⟨gotMi', sighted, -, digest⟩ := p.msgint_read has framed allRead
  rw [sighted] at found
  cases found
  rw [sighted, p.covered has, digest]

theorem Printout.request_checked {cred : AuthCred} {realm nonce user : Text}
    (auth : cred.getAuth = .ok (realm, nonce)) (username : msg.findText attrUsername = some user)
    (named : realm.1 ≠ [] → msg.findText attrRealm ≠ none)
    (matched : ∀ amsgi, matchUsername env got cred realm ⟨amsgi, user, msg.findText attrRealm⟩
      = .ok (user, key))
    (nonceChecked : ∀ amsgi, checkNonce got cred ⟨amsgi, user, msg.findText attrRealm⟩ nonce
      (msg.findText attrNonce) = .ok ())
    (wantResponse : Bool) :
    (pjStunAuthenticateRequest env out got cred wantResponse).status = .ok () ↔ key ≠ []
        ∧ checkTerm realm nonce (msg.findText attrRealm) (msg.findText attrNonce) = .ok () := by
  have nonempty : out.length ≠ 0 := by
    have := congrArg List.length p.out_eq
    rw [List.length_append, hdrOctets_length] at this
    omega
  have usernameRead := p.findText_read allRead attrUsername rfl (by decide)
  have realmRead := p.findText_read allRead attrRealm rfl (by decide)
  have nonceRead := p.findText_read allRead attrNonce rfl (by decide)
  obtain ⟨gotMi, sighted, -, -⟩ := p.msgint_read has framed allRead
  have hmac := p.hmac_ok has framed allRead (congrArg Sighting.amsgi sighted)
  have asked : findPresented got realm = .ok ⟨gotMi, user, msg.findText attrRealm⟩ := by
    rw [findPresented, sighted]
    simp only [usernameRead, username, realmRead]
    exact if_neg fun missing => named missing.1 missing.2
  rw [pjStunAuthenticateRequest, if_neg nonempty]
  simp only [auth, asked, matched]
  by_cases null : key = []
  · rw [if_pos null]
    exact iff_of_false nofun fun both => both.1 null
  · have verified : verifyPresented env out got cred realm nonce
        ⟨gotMi, user, msg.findText attrRealm⟩ key
        = checkTerm realm nonce (msg.findText attrRealm) (msg.findText attrNonce) := by
      unfold verifyPresented
      simp only [nonceRead]
      rw [nonceChecked, checkHmac, if_pos hmac]
      cases checkTerm realm nonce (msg.findText attrRealm) (msg.findText attrNonce) <;> rfl
    rw [if_neg null, verified]
    cases checkTerm realm nonce (msg.findText attrRealm) (msg.findText attrNonce) with
    | error failure => exact iff_of_false nofun fun both => nomatch both.2
    | ok _ => exact iff_of_true rfl ⟨null, rfl⟩

theorem Printout.request_iff {cred : StaticCred} (presents : Presents cred msg)
    (keyed : key = cred.key env) (wantResponse : Bool) :
    (pjStunAuthenticateRequest env out got (.static cred) wantResponse).status = .ok ()
      ↔ key ≠ [] ∧ NonceTaken cred msg := by
  rw [p.request_checked has framed allRead rfl presents.username ?_ ?_ ?_ wantResponse,
    checkTerm_presented presents]
  · intro long missing
    rw [presents.realm long] at missing
    nomatch missing
  · intro amsgi
    rw [matchUsername, keyed]
    exact if_pos rfl
  · intro amsgi
    cases anonce : msg.findText attrNonce with
    | none => rfl
    | some value =>
      refine if_pos ?_
      show (if cred.nonce.1 ≠ [] then decide (value = cred.nonce) else true) = true
      by_cases want : cred.nonce.1 = []
      · rw [if_neg (not_not.2 want)]
      · rw [if_pos want]
        rw [presents.nonce want] at anonce
        cases anonce
        exact decide_eq_true rfl

/-- A request is accepted under a dynamic short term credential that does not look at nonces
and knows the password that it was signed with. -/
theorem Printout.request_dynamic {cred : DynCred} {user password : Text} {dataType : PasswdType}
    (auth : cred.getAuth = .ok (emptyText, emptyText)) (free : cred.verifyNonce = none)
    (username : msg.findText attrUsername = some user)
    (known : cred.getPassword got (msg.findText attrRealm) user = .ok (dataType, password))
    (keyed : key = pjStunCreateKey env (msg.findText attrRealm) user dataType password)
    (nonempty : key ≠ []) (wantResponse : Bool) :
    (pjStunAuthenticateRequest env out got (.dyn cred) wantResponse).status = .ok () := by
  have auth' : (AuthCred.dyn cred).getAuth = .ok (emptyText, emptyText) := auth
  refine (p.request_checked has framed allRead auth' username ?_ ?_ ?_ wantResponse).2 ⟨nonempty, ?_⟩
  · exact fun long => absurd rfl long
  · intro amsgi
    rw [matchUsername]
    simp only [known]
    rw [← keyed]
  · intro amsgi
    cases msg.findText attrNonce with
    | none => rfl
    | some anonce =>
      refine if_pos ?_
      rw [nonceOk, free]
  · unfold checkTerm
    cases msg.findText attrRealm <;> simp [emptyText]

theorem Printout.response_ok (hdr : got.hdr = msg'.hdr) :
    pjStunAuthenticateResponse env out got key = .ok () := by
  have nonempty : out.length ≠ 0 := by
    have := congrArg List.length p.out_eq
    rw [List.length_append, hdrOctets_length] at this
    omega
  obtain ⟨gotMi, sighted, type, -⟩ := p.msgint_read has framed allRead
  have hmac := p.hmac_ok has framed allRead (congrArg Sighting.amsgi sighted)
  have found : got.findAttr attrMessageIntegrity ≠ none := by
    intro absent
    have unsigned : got.msgint.amsgi = none := lookForMsgint_none absent
    rw [sighted] at unsigned
    nomatch unsigned
  have long : ¬ got.hdr.length < 24 := by
    have kept := hdr.trans (congrArg StunMsg.hdr p.kept)
    have small := (p.body_length framed).2
    have tail := p.tail_length has
    rw [List.flatten_append, List.length_append] at small
    rw [kept, UInt16.lt_iff_toNat_lt]
    show ¬ (UInt16.ofNat (p.imgs.flatten.length + p.tailImgs.flatten.length)).toNat < 24
    rw [UInt16.toNat_ofNat']
    omega
  rw [pjStunAuthenticateResponse, if_neg nonempty, if_neg found, if_neg long]
  simp only [sighted] at hmac ⊢
  rw [if_pos hmac]

end Verify

theorem Printout.mi_some {env : StunEnv} {msg msg' : StunMsg} {key : Option (List UInt8)}
    {out : List UInt8} (p : Printout env msg msg' key out)
    (protected_ : msg.findAttr attrMessageIntegrity ≠ none) : ∃ mi, p.mi = some mi := by
  cases has : p.mi with
  | some mi => exact ⟨mi, rfl⟩
  | none =>
    have other : ∀ a ∈ msg.attrs, a.type ≠ attrMessageIntegrity := by
      intro a mem
      rw [p.attrs, has, p.noStray has] at mem
      rcases List.mem_append.1 mem with mem | mem
      · have stops := (p.plain a mem).1
        intro type
        simp [Attr.stops, type] at stops
      · rw [p.fpType a (Option.mem_toList.1 mem)]
        decide
    refine absurd ?_ protected_
    exact List.find?_eq_none.2 fun a mem => by simpa using other a mem

/-- What is signed with the key of a credential is accepted under the same credential exactly
if there is such a key and, with a short term credential, no nonce stands in the way. A
response is accepted whenever it can be parsed. -/
theorem pjStunAuthenticate_signed_iff {env : StunEnv} {msg msg' : StunMsg}
    {cells : Nat → UInt8} {bufSize : UInt64} {key : List UInt8} {len : Nat} {e : Enc}
    (framed : Framed msg) (protected_ : msg.findAttr attrMessageIntegrity ≠ none)
    (printed : pjStunMsgEncode env msg cells bufSize 0 (some key) = .ok (msg', len) e)
    (options : UInt32) (checkable : Checkable options msg) (wantResponse : Bool) :
    (∀ cred : StaticCred, key = cred.key env → Presents cred msg →
      ((∃ got, pjStunMsgDecode env (e.mem.slice 0 len) options wantResponse = .value (got, len)
          ∧ (pjStunAuthenticateRequest env (e.mem.slice 0 len) got (.static cred)
              wantResponse).status = .ok ())
        ↔ Understood msg ∧ key ≠ [] ∧ NonceTaken cred msg))
    ∧ ((∃ got, pjStunMsgDecode env (e.mem.slice 0 len) options wantResponse = .value (got, len)
          ∧ pjStunAuthenticateResponse env (e.mem.slice 0 len) got key = .ok ())
        ↔ Understood msg) := by
  obtain ⟨-, ⟨p⟩⟩ := pjStunMsgEncode_printout printed
  obtain ⟨mi, has⟩ := p.mi_some protected_
  by_cases understood : Understood msg
  · obtain ⟨got, decoded, hdr, allRead⟩ := p.decoded framed options checkable wantResponse understood
    rw [Buffer.slice_length] at decoded
    constructor
    · intro cred keyed presents
      have accepted := p.request_iff has framed allRead presents keyed wantResponse
      constructor
      · intro verified
        obtain ⟨got', decoded', ok⟩ := verified
        rw [decoded] at decoded'
        cases decoded'
        exact ⟨understood, accepted.1 ok⟩
      · intro both
        exact ⟨got, decoded, accepted.2 both.2⟩
    · exact iff_of_true ⟨got, decoded, p.response_ok has framed allRead hdr⟩ understood
  · obtain ⟨failed, refused⟩ := p.not_decoded framed options checkable wantResponse understood
    have undecoded : ∀ got, pjStunMsgDecode env (e.mem.slice 0 len) options wantResponse
        ≠ .value (got, len) := by
      intro got decoded
      rw [refused] at decoded
      nomatch decoded
    constructor
    · intro cred keyed presents
      refine iff_of_false ?_ fun both => understood both.1
      intro verified
      obtain ⟨got, decoded, -⟩ := verified
      exact undecoded got decoded
    · refine iff_of_false ?_ understood
      intro verified
      obtain ⟨got, decoded, -⟩ := verified
      exact undecoded got decoded

/-- A short term credential without a nonce. -/
def userCred (nonce : Text) : StaticCred where
  realm := emptyText
  username := printed80 "user"
  dataType := .plain
  data := printed80 "k"
  nonce := nonce

/-- A request with a text that has padding, an aligned SOFTWARE, data of unknown meaning and
FINGERPRINT is accepted. -/
theorem pjStunAuthenticate_signed_binding : Ends (fun result e =>
        (∃ got, pjStunMsgDecode (.constant ⟨List.replicate 20 1, rfl⟩ 2)
            (e.mem.slice 0 result.2) optIsDatagram true = .value (got, result.2)
          ∧ (pjStunAuthenticateRequest (.constant ⟨List.replicate 20 1, rfl⟩ 2)
              (e.mem.slice 0 result.2) got (.static (userCred emptyText)) true).status = .ok ())
        ∧ ∃ got, pjStunMsgDecode (.constant ⟨List.replicate 20 1, rfl⟩ 2)
            (e.mem.slice 0 result.2) optIsDatagram true = .value (got, result.2)
          ∧ pjStunAuthenticateResponse (.constant ⟨List.replicate 20 1, rfl⟩ 2)
              (e.mem.slice 0 result.2) got [107] = .ok ())
      (fun _ _ => False)
      (pjStunMsgEncode (.constant ⟨List.replicate 20 1, rfl⟩ 2) bindingRequest (fun _ => 0) 200 0
        (some [107])) := by
  have fits := bindingRequest_fits
  obtain ⟨framed, understood, -⟩ := bindingRequest_sendable
  have presents : Presents (userCred emptyText) bindingRequest :=
    ⟨by decide +kernel, fun nonempty => absurd rfl nonempty, fun nonempty => absurd rfl nonempty⟩
  cases printed : pjStunMsgEncode (.constant ⟨List.replicate 20 1, rfl⟩ 2) bindingRequest
      (fun _ => 0) 200 0 (some [107]) with
  | ok result e =>
    have accepted := pjStunAuthenticate_signed_iff framed (by decide +kernel) printed
      optIsDatagram nofun true
    exact ⟨(accepted.1 (userCred emptyText) rfl presents).2
      ⟨understood, by decide, fun _ => .inl rfl⟩, accepted.2.2 understood⟩
  | error status e =>
    rw [printed] at fits
    exact fits.elim

/-- A request with the nonce of the credential. -/
def nonceRequest : StunMsg where
  hdr := ⟨0x0001, 0, stunMagic, .fill 12 7⟩
  attrs := [stringAttr attrUsername (printed80 "user") attrKind_username,
    stringAttr attrNonce (printed80 "n") attrKind_nonce,
    msgintAttr]
  attrCount := by decide

/-- The nonce that is asked for is there, and still the request is refused. -/
theorem pjStunAuthenticate_signed_refused :
    Ends (fun result e => ∃ got, pjStunMsgDecode (.constant ⟨List.replicate 20 1, rfl⟩ 2)
            (e.mem.slice 0 result.2) optIsDatagram true = .value (got, result.2)
          ∧ (pjStunAuthenticateRequest (.constant ⟨List.replicate 20 1, rfl⟩ 2)
              (e.mem.slice 0 result.2) got (.static (userCred (printed80 "n"))) true).status
            ≠ .ok ())
      (fun _ _ => False)
      (pjStunMsgEncode (.constant ⟨List.replicate 20 1, rfl⟩ 2) nonceRequest (fun _ => 0) 200 0
        (some ((userCred (printed80 "n")).key (.constant ⟨List.replicate 20 1, rfl⟩ 2)))) := by
  have fits : Ends (fun _ _ => True) (fun _ _ => False)
      (pjStunMsgEncode (.constant ⟨List.replicate 20 1, rfl⟩ 2) nonceRequest (fun _ => 0) 200 0
        (some ((userCred (printed80 "n")).key (.constant ⟨List.replicate 20 1, rfl⟩ 2)))) := by
    decide +kernel
  have framed : Framed nonceRequest := by
    refine ⟨rfl, ?_, ?_⟩
    · unfold NoStray
      decide +kernel
    · decide +kernel
  have understood : Understood nonceRequest := by
    unfold Understood
    decide +kernel
  have presents : Presents (userCred (printed80 "n")) nonceRequest :=
    ⟨by decide +kernel, fun nonempty => absurd rfl nonempty, fun _ => by decide +kernel⟩
  cases printed : pjStunMsgEncode (.constant ⟨List.replicate 20 1, rfl⟩ 2) nonceRequest
      (fun _ => 0) 200 0
      (some ((userCred (printed80 "n")).key (.constant ⟨List.replicate 20 1, rfl⟩ 2))) with
  | ok result e =>
    obtain ⟨msg', len⟩ := result
    obtain ⟨-, ⟨p⟩⟩ := pjStunMsgEncode_printout printed
    obtain ⟨mi, has⟩ := p.mi_some (by decide +kernel)
    obtain ⟨got, decoded, -, allRead⟩ :=
      p.decoded framed optIsDatagram nofun true understood
    rw [Buffer.slice_length] at decoded
    refine ⟨got, decoded, ?_⟩
    intro accepted
    have taken := ((p.request_iff has framed allRead presents rfl true).1 accepted).2
    exact absurd (taken rfl) (by decide +kernel)
  | error status e =>
    rw [printed] at fits
    exact fits.elim

end Pjsip.Pjnath.Stun
