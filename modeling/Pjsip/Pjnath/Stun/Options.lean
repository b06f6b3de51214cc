import Pjsip.Pjnath.Stun.EncodeBounds
import Pjsip.Pjnath.Stun.Session
import Pjsip.Pjnath.Stun.Signed

/-!
# What a request is sent with

`apply_msg_options` appends SOFTWARE, the credentials and FINGERPRINT to a request, each if
it is wanted. Only for SOFTWARE does it not matter whether there is room.
-/

namespace Pjsip.Pjnath.Stun

open Pjsip.Base

/-! ## Adding attributes -/

/-- `pj_stun_msg_add_attr`, for one attribute after the other. -/
def StunMsg.addAttrs (msg : StunMsg) : List Attr → Except StunStatus StunMsg
  | [] => .ok msg
  | a :: rest => do
      let msg ← msg.addAttr a
      msg.addAttrs rest

/-- `attrs` come behind what is there, and nothing else changes. -/
structure Extends (msg : StunMsg) (attrs : List Attr) (msg' : StunMsg) : Prop where
  hdr : msg'.hdr = msg.hdr
  attrs : msg'.attrs = msg.attrs ++ attrs

theorem addAttr_ok {msg msg' : StunMsg} {a : Attr} :
    msg.addAttr a = .ok msg' ↔ Extends msg [a] msg' := by
  obtain ⟨hdr, attrs, few⟩ := msg
  obtain ⟨hdr', attrs', few'⟩ := msg'
  unfold StunMsg.addAttr
  constructor
  · intro added
    split at added
    · cases added
      exact ⟨rfl, rfl⟩
    · cases added
  · rintro ⟨sameHdr, sameAttrs⟩
    change hdr' = hdr at sameHdr
    change attrs' = attrs ++ [a] at sameAttrs
    subst sameHdr sameAttrs
    rw [List.length_append, List.length_singleton] at few'
    exact dif_pos (show attrs.length < stunMaxAttr by omega)

theorem addAttrs_append (first second : List Attr) (msg : StunMsg) :
    (msg.addAttrs first >>= fun msg => msg.addAttrs second) = msg.addAttrs (first ++ second) := by
  induction first generalizing msg with
  | nil => rfl
  | cons a rest ih =>
    rw [List.cons_append, StunMsg.addAttrs, StunMsg.addAttrs]
    cases msg.addAttr a with
    | error status => rfl
    | ok mid => exact ih mid

theorem addAttrs_ok {msg msg' : StunMsg} {attrs : List Attr} :
    msg.addAttrs attrs = .ok msg' ↔ Extends msg attrs msg' := by
  induction attrs generalizing msg with
  | nil =>
    constructor
    · intro same
      cases same
      exact ⟨rfl, (List.append_nil _).symm⟩
    · rintro ⟨hdr, attrs⟩
      obtain ⟨hdr', attrs', few'⟩ := msg'
      cases hdr
      rw [List.append_nil] at attrs
      cases attrs
      rfl
  | cons a rest ih =>
    rw [StunMsg.addAttrs, except_bind_ok]
    constructor
    · rintro ⟨mid, first, others⟩
      have one := addAttr_ok.1 first
      have more := ih.1 others
      refine ⟨more.hdr.trans one.hdr, ?_⟩
      rw [more.attrs, one.attrs, List.append_assoc, List.singleton_append]
    · rintro ⟨hdr, attrs⟩
      have few := msg'.attrCount
      rw [attrs, List.length_append, List.length_cons] at few
      refine ⟨⟨msg.hdr, msg.attrs ++ [a], by simp; omega⟩, addAttr_ok.2 ⟨rfl, rfl⟩, ih.2 ⟨hdr, ?_⟩⟩
      rw [attrs, List.append_assoc, List.singleton_append]

def wantedAttr (wanted : Bool) (a : Attr) : List Attr := if wanted then [a] else []

theorem wantedAttr_toList (wanted : Bool) (a : Attr) :
    (if wanted then some a else none).toList = wantedAttr wanted a := by
  cases wanted <;> rfl

theorem addWanted_eq (wanted : Bool) (a : Attr) (msg : StunMsg) :
    addWanted wanted a msg = msg.addAttrs (wantedAttr wanted a) := by
  cases wanted with
  | false => rfl
  | true =>
    show msg.addAttr a = msg.addAttr a >>= fun msg => .ok msg
    cases msg.addAttr a <;> rfl

/-! ## The options of a request -/

/-- SOFTWARE, if there is a name for it and none in the message yet. -/
def softwareAttr (sess : StunSession) (msg : StunMsg) : List Attr :=
  wantedAttr (!sess.srvName.1.isEmpty && (msg.findAttr attrSoftware).isNone
      && msg.hdr.magic = stunMagic && msg.attrs.length < stunMaxAttr)
    (stringAttr attrSoftware sess.srvName attrKind_software)

/-- The texts of the credentials, as far as they are there. -/
def credTexts (info : ReqCredInfo) : List Attr :=
  wantedAttr (!info.username.1.isEmpty) (stringAttr attrUsername info.username attrKind_username)
    ++ (wantedAttr (!info.realm.1.isEmpty) (stringAttr attrRealm info.realm attrKind_realm)
      ++ wantedAttr (!info.nonce.1.isEmpty) (stringAttr attrNonce info.nonce attrKind_nonce))

/-- MESSAGE-INTEGRITY, if there is a key for it. -/
def credMsgint (info : ReqCredInfo) : Option Attr :=
  if !info.username.1.isEmpty && !info.authKey.isEmpty then some msgintAttr else none

/-- FINGERPRINT, if the session is to use it. -/
def sessFingerprint (sess : StunSession) : Option Attr :=
  if sess.useFingerprint then some fingerprintAttr else none

/-- What comes behind the attributes that a request has. -/
def optionAttrs (sess : StunSession) (info : ReqCredInfo) (msg : StunMsg) : List Attr :=
  softwareAttr sess msg
    ++ (credTexts info ++ ((credMsgint info).toList ++ (sessFingerprint sess).toList))

theorem isRequest_class {msgType : UInt16} (request : isRequest msgType = true) :
    isErrorResponse msgType = false ∧ isIndication msgType = false
      ∧ isResponse msgType = false := by
  have low : msgType &&& 0x0110 = 0 := by simpa [isRequest] using request
  have bit : msgType &&& 0x0100 = 0 := by
    have : msgType &&& 0x0100 = (msgType &&& 0x0110) &&& 0x0100 := by
      rw [UInt16.and_assoc]
      rfl
    rw [this, low]
    rfl
  refine ⟨?_, ?_, ?_⟩
  · rw [isErrorResponse, low]
    rfl
  · rw [isIndication, low]
    rfl
  · rw [isResponse, bit]
    rfl

section Request

variable {sess : StunSession} {msg msg' : StunMsg} {info : ReqCredInfo}
  (request : isRequest msg.hdr.type = true)

theorem named_extends (request : isRequest msg.hdr.type = true) :
    Extends msg (softwareAttr sess msg)
      (if !sess.srvName.1.isEmpty && (msg.findAttr attrSoftware).isNone
          && (isResponse msg.hdr.type || isRequest msg.hdr.type && msg.hdr.magic = stunMagic) then
        (msg.addAttr (stringAttr attrSoftware sess.srvName attrKind_software)).toOption.getD msg
      else msg) := by
  rw [(isRequest_class request).2.2, request, Bool.false_or, Bool.true_and, softwareAttr]
  by_cases wanted : (!sess.srvName.1.isEmpty && (msg.findAttr attrSoftware).isNone
      && decide (msg.hdr.magic = stunMagic)) = true
  · rw [if_pos wanted, wanted, Bool.true_and]
    by_cases room : msg.attrs.length < stunMaxAttr
    · rw [StunMsg.addAttr, dif_pos room, decide_eq_true room]
      exact ⟨rfl, rfl⟩
    · rw [StunMsg.addAttr, dif_neg room, decide_eq_false room]
      exact ⟨rfl, (List.append_nil _).symm⟩
  · rw [if_neg wanted, (Bool.not_eq_true _).mp wanted, Bool.false_and]
    exact ⟨rfl, (List.append_nil _).symm⟩

include request in
theorem applyMsgOptions_request : applyMsgOptions sess (some info) msg = .ok msg'
      ↔ Extends msg (optionAttrs sess info msg) msg' := by
  have valid : ∀ named : StunMsg, named.hdr = msg.hdr → authValidForMsg named = true := by
    intro named hdr
    rw [authValidForMsg, hdr, (isRequest_class request).1, (isRequest_class request).2.1]
    rfl
  have extended : Extends msg (softwareAttr sess msg) _ := named_extends request
  unfold applyMsgOptions
  extract_lets isReq named chosen
  have hdr : named.hdr = msg.hdr := extended.hdr
  have same : chosen = info := if_pos (valid named hdr)
  change Extends msg (softwareAttr sess msg) named at extended
  rw [same]
  simp only [show isReq = true from request, Bool.true_or, Bool.and_true]
  clear_value named
  simp only [addWanted_eq, addAttrs_append]
  rw [addAttrs_ok]
  simp only [optionAttrs, credTexts, credMsgint, sessFingerprint, wantedAttr_toList,
    List.append_assoc]
  constructor
  · rintro ⟨hdr, attrs⟩
    exact ⟨hdr.trans extended.hdr, by rw [attrs, extended.attrs, List.append_assoc]⟩
  · rintro ⟨hdr, attrs⟩
    exact ⟨hdr.trans extended.hdr.symm, by rw [attrs, extended.attrs, List.append_assoc]⟩

end Request

/-! ## A request with its options -/

/-- The attributes are `done`, and then those that protect them. -/
structure Arranged (attrs done : List Attr) (mi fp : Option Attr) : Prop where
  whole : attrs = done ++ (mi.toList ++ fp.toList)
  plain : ∀ a ∈ done, a.stops = false
  taken : ∀ a ∈ done, a.refused = false
  miType : ∀ a ∈ mi, a.type = attrMessageIntegrity
  fpType : ∀ a ∈ fp, a.type = attrFingerprint

section Arranged

variable {attrs done : List Attr} {mi fp : Option Attr} (arranged : Arranged attrs done mi fp)

include arranged

theorem Arranged.noStray : NoStray attrs := by
  rw [NoStray, arranged.whole, List.pairwise_append]
  have plain : ∀ a ∈ done, a.type ≠ attrMessageIntegrity := by
    intro a mem type
    have stops := arranged.plain a mem
    simp [Attr.stops, type] at stops
  refine ⟨?_, ?_, fun a mem b _ type => absurd type (plain a mem)⟩
  · exact List.pairwise_of_forall_mem_list fun a mem b _ type => absurd type (plain a mem)
  · cases mi with
    | none => cases fp <;> simp
    | some a =>
      cases fp with
      | none => simp
      | some b => simp [arranged.fpType b rfl]

end Arranged

theorem optionAttrs_arranged {sess : StunSession} {info : ReqCredInfo} {msg full : StunMsg}
    (sent : Extends msg (optionAttrs sess info msg) full)
    (plain : ∀ a ∈ msg.attrs, a.stops = false) (taken : ∀ a ∈ msg.attrs, a.refused = false) :
    Arranged full.attrs (msg.attrs ++ (softwareAttr sess msg ++ credTexts info))
      (credMsgint info) (sessFingerprint sess) := by
  have strings : ∀ a ∈ softwareAttr sess msg ++ credTexts info,
      a.stops = false ∧ a.refused = false := by
    intro a mem
    simp only [softwareAttr, credTexts, wantedAttr, List.mem_append, List.mem_ite_nil_right,
      List.mem_singleton] at mem
    rcases mem with ⟨-, rfl⟩ | ⟨-, rfl⟩ | ⟨-, rfl⟩ | ⟨-, rfl⟩ <;> exact ⟨rfl, rfl⟩
  refine ⟨?_, ?_, ?_, ?_, ?_⟩
  · rw [sent.attrs, optionAttrs, List.append_assoc, List.append_assoc]
  · intro a mem
    rcases List.mem_append.1 mem with mem | mem
    · exact plain a mem
    · exact (strings a mem).1
  · intro a mem
    rcases List.mem_append.1 mem with mem | mem
    · exact taken a mem
    · exact (strings a mem).2
  · intro a mem
    rw [credMsgint, Option.mem_def, Option.ite_none_right_eq_some] at mem
    cases mem.2
    rfl
  · intro a mem
    rw [sessFingerprint, Option.mem_def, Option.ite_none_right_eq_some] at mem
    cases mem.2
    rfl

theorem optionAttrs_findText {sess : StunSession} {info : ReqCredInfo} {msg full : StunMsg}
    (sent : Extends msg (optionAttrs sess info msg) full) {attrType : UInt16}
    (kind : attrKind attrType = some .string) (other : attrType ≠ attrSoftware)
    (absent : ∀ a ∈ msg.attrs, a.type ≠ attrType) :
    full.findText attrType = ((credTexts info).find? (·.type = attrType)).bind Attr.text := by
  have front : msg.attrs.find? (·.type = attrType) = none :=
    List.find?_eq_none.2 fun a mem => by simpa using absent a mem
  have software : (softwareAttr sess msg).find? (·.type = attrType) = none := by
    refine List.find?_eq_none.2 fun a mem => ?_
    rw [softwareAttr, wantedAttr, List.mem_ite_nil_right, List.mem_singleton] at mem
    rw [mem.2, decide_eq_true_eq]
    exact Ne.symm other
  have back : ((credMsgint info).toList ++ (sessFingerprint sess).toList).find?
      (·.type = attrType) = none := by
    refine List.find?_eq_none.2 fun a mem => ?_
    rw [credMsgint, sessFingerprint, wantedAttr_toList, wantedAttr_toList, List.mem_append,
      wantedAttr, wantedAttr, List.mem_ite_nil_right, List.mem_ite_nil_right, List.mem_singleton,
      List.mem_singleton] at mem
    have differ : a.type ≠ attrType := by
      intro type
      rw [← type] at kind
      rcases mem with ⟨-, rfl⟩ | ⟨-, rfl⟩ <;> exact absurd kind (by decide)
    simpa using differ
  rw [StunMsg.findText, StunMsg.findAttr, sent.attrs, optionAttrs, List.find?_append, front,
    Option.none_or, List.find?_append, software, Option.none_or, List.find?_append, back,
    Option.or_none]

theorem credMsgint_keyed {info : ReqCredInfo} (named : info.username.1 ≠ [])
    (keyed : info.authKey ≠ []) : credMsgint info = some msgintAttr := by
  refine if_pos ?_
  simp [named, keyed]

theorem optionAttrs_signed {sess : StunSession} {info : ReqCredInfo} {msg full : StunMsg}
    (sent : Extends msg (optionAttrs sess info msg) full) (named : info.username.1 ≠ [])
    (keyed : info.authKey ≠ []) : full.findAttr attrMessageIntegrity ≠ none := by
  intro absent
  have mem : msgintAttr ∈ full.attrs := by
    rw [sent.attrs, optionAttrs, credMsgint_keyed named keyed]
    simp
  exact List.find?_eq_none.1 absent msgintAttr mem rfl

section Texts

variable (info : ReqCredInfo)

theorem credTexts_username (named : info.username.1 ≠ []) :
    ((credTexts info).find? (·.type = attrUsername)).bind Attr.text = some info.username := by
  simp [credTexts, wantedAttr, named, stringAttr, Attr.text]

theorem credTexts_realm : ((credTexts info).find? (·.type = attrRealm)).bind Attr.text
      = if info.realm.1 = [] then none else some info.realm := by
  have differ : attrUsername ≠ attrRealm ∧ attrNonce ≠ attrRealm := by decide
  by_cases username : info.username.1 = [] <;> by_cases realm : info.realm.1 = []
    <;> by_cases nonce : info.nonce.1 = []
    <;> simp [credTexts, wantedAttr, username, realm, nonce, stringAttr, Attr.text, differ]

end Texts

/-! ## Lengths -/

theorem Printout.out_length {env : StunEnv} {msg msg' : StunMsg} {key : Option (List UInt8)}
    {out : List UInt8} (p : Printout env msg msg' key out) (last : NoStray msg.attrs) :
    out.length = 20 + (msg.attrs.map Attr.size).sum := by
  have sealed_ : ∀ attrs : List Attr,
      ((attrs.map (Attr.sealed p.hmac p.crc)).map Attr.size).sum = (attrs.map Attr.size).sum := by
    intro attrs
    rw [List.map_map]
    exact congrArg List.sum (List.map_congr_left fun a _ => Attr.sealed_size)
  have printed := congrArg List.length p.printed
  rw [List.length_append, List.length_append, hdrOctets_length, images_length p.images,
    images_length p.tailImages, sealed_] at printed
  rw [printed, p.attrs, p.noStray_iff.1 last, List.nil_append]
  simp only [List.map_append, List.sum_append]

theorem pjStunMsgEncode_inside {env : StunEnv} {msg msg' : StunMsg} {cells : Nat → UInt8}
    {bufSize : UInt64} {key : Option (List UInt8)} {len : Nat} {e : Enc}
    (printed : pjStunMsgEncode env msg cells bufSize 0 key = .ok (msg', len) e)
    (exact_ : ∀ a ∈ msg.attrs, a.checked = a.size) : len ≤ bufSize.toNat := by
  have fits : overruns (bufSize.toNat - 20) msg.attrs = false := by
    by_contra exceeds
    obtain ⟨a, mem, -, short⟩ := overruns_kind ((Bool.not_eq_false _).mp exceeds)
    have := exact_ a mem
    omega
  have stays := (pjStunMsgEncode_stays_iff env msg cells bufSize key).2 fits
  rw [printed] at stays
  exact stays.1

end Pjsip.Pjnath.Stun
