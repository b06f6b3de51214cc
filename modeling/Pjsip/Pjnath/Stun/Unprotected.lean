import Pjsip.Pjnath.Stun.Framing

/-!
# What authentication depends on

The digest covers what comes before MESSAGE-INTEGRITY. The username, the realm and the nonce
are looked up in the whole message, and what comes after MESSAGE-INTEGRITY may be of these
types.
-/

namespace Pjsip.Pjnath.Stun

open Pjsip.Base Reader

/-- Two packets agree on the first `n` octets, but for the length in the header. -/
structure Agree (n : Nat) (pkt pkt' : List UInt8) : Prop where
  type : pkt.take 2 = pkt'.take 2
  rest : (pkt.take n).drop 4 = (pkt'.take n).drop 4

/-! ## The octets that are the same -/

section Agree

variable {n : Nat} {pkt pkt' : List UInt8} (agree : Agree n pkt pkt')

include agree

theorem Agree.slice {pos k : Nat} (behind : 4 ≤ pos) (inside : pos + k ≤ n) :
    (pkt.drop pos).take k = (pkt'.drop pos).take k := by
  have cut : ∀ octets : List UInt8,
      (octets.drop pos).take k = (((octets.take n).drop 4).drop (pos - 4)).take k := by
    intro octets
    rw [List.drop_drop, show 4 + (pos - 4) = pos by omega, List.drop_take, List.take_take,
      Nat.min_eq_left (by omega)]
  rw [cut pkt, cut pkt', agree.rest]

theorem Agree.field {pos at_ : Nat} {v v' : UInt16}
    (read : (field16 at_ : Reader DecodeError _).run (pkt.drop pos) = .value v)
    (read' : (field16 at_ : Reader DecodeError _).run (pkt'.drop pos) = .value v')
    (behind : 4 ≤ pos) (inside : pos + (at_ + 2) ≤ n) : v = v' := by
  obtain ⟨-, rfl⟩ := field16_value.1 read
  obtain ⟨-, rfl⟩ := field16_value.1 read'
  rw [List.drop_drop, List.drop_drop, agree.slice (by omega) (by omega)]

end Agree

/-! ## The same MESSAGE-INTEGRITY -/

theorem lookForMsgint_seen {attrs : List Attr} {found : Sighting} (signed : found.amsgi.isSome) :
    (lookForMsgint attrs found).amsgiPos = found.amsgiPos := by
  induction attrs generalizing found with
  | nil => rfl
  | cons a rest ih =>
    by_cases type : a.type = attrMessageIntegrity
    · rw [lookForMsgint, if_pos type, ih rfl]
    · rw [lookForMsgint, if_neg type, if_pos signed]

theorem lookForMsgint_here {a : Attr} {rest : List Attr} {pos : Nat}
    (type : a.type = attrMessageIntegrity) :
    (lookForMsgint (a :: rest) ⟨none, pos, false⟩).amsgiPos = pos := by
  rw [lookForMsgint, if_pos type, lookForMsgint_seen rfl]

theorem lookForMsgint_le (attrs : List Attr) (pos : Nat) :
    pos ≤ (lookForMsgint attrs ⟨none, pos, false⟩).amsgiPos := by
  induction attrs generalizing pos with
  | nil => exact Nat.le_refl _
  | cons a rest ih =>
    by_cases type : a.type = attrMessageIntegrity
    · rw [lookForMsgint_here type]
    · rw [lookForMsgint_other type]
      exact Nat.le_trans (Nat.le_add_right _ _) (ih _)

/-- Attributes that agree up to the first MESSAGE-INTEGRITY have it at the same place. -/
theorem Frames.amsgiPos_eq {n : Nat} {pkt pkt' : List UInt8} (agree : Agree n pkt pkt')
    {attrs attrs' : List Attr} {pos stop stop' : Nat} (frames : Frames pkt attrs (20 + pos) stop)
    (frames' : Frames pkt' attrs' (20 + pos) stop')
    (found : (lookForMsgint attrs ⟨none, pos, false⟩).amsgi ≠ none)
    (found' : (lookForMsgint attrs' ⟨none, pos, false⟩).amsgi ≠ none)
    (whole : 20 + ((lookForMsgint attrs ⟨none, pos, false⟩).amsgiPos + 24) ≤ n) :
    (lookForMsgint attrs' ⟨none, pos, false⟩).amsgiPos
      = (lookForMsgint attrs ⟨none, pos, false⟩).amsgiPos := by
  induction attrs generalizing attrs' pos with
  | nil => exact absurd rfl found
  | cons a rest ih =>
    cases attrs' with
    | nil => exact absurd rfl found'
    | cons a' rest' =>
      have least := lookForMsgint_le (a :: rest) pos
      obtain ⟨type, length, -, frames⟩ := frames
      obtain ⟨type', length', -, frames'⟩ := frames'
      have sameType := agree.field type type' (by omega) (by omega)
      have sameLength := agree.field length length' (by omega) (by omega)
      by_cases msgint : a.type = attrMessageIntegrity
      · rw [lookForMsgint_here msgint, lookForMsgint_here (sameType ▸ msgint)]
      · have other : a'.type ≠ attrMessageIntegrity := by rwa [← sameType]
        rw [lookForMsgint_other msgint] at found whole ⊢
        rw [lookForMsgint_other other, ← sameLength] at found' ⊢
        rw [Nat.add_assoc] at frames frames'
        rw [← sameLength] at frames'
        exact ih frames frames' found found' whole

/-! ## The same digest -/

section Same

variable {pkt pkt' : List UInt8} {msg msg' : StunMsg} (parsed : ParsedFrom pkt msg)
  (parsed' : ParsedFrom pkt' msg')

include parsed

theorem ParsedFrom.covered {amsgi : Attr} (found : msg.msgint.amsgi = some amsgi) :
    msg.msgint.covered pkt = pkt.take 2 ++ (put16 (UInt16.ofNat (msg.msgint.amsgiPos + 24))
      ++ (pkt.take 20).drop 4) ++ (pkt.drop 20).take msg.msgint.amsgiPos := by
  rw [Sighting.covered]
  cases beyond : msg.msgint.hasAttrBeyondMi with
  | true => rfl
  | false =>
    have long := parsed.long
    obtain ⟨-, -, last⟩ :=
      Frames.msgint 20 0 parsed.frames parsed.accepted.oneMsgInt found
    have whole := last beyond
    change _ = 20 + (msg.msgint.amsgiPos + 24) at whole
    have length : put16 (UInt16.ofNat (msg.msgint.amsgiPos + 24)) = (pkt.drop 2).take 2 := by
      rw [← Nat.add_left_cancel whole, UInt16.ofNat_toNat, (decodeHdr_fields parsed.hdr).2.1]
      exact put16_value16 ⟨(pkt.drop 2).take 2, by simp; omega⟩
    rw [if_neg (by decide), length]
    congr 1
    calc pkt.take 20 = (pkt.take 20).take 4 ++ (pkt.take 20).drop 4 :=
          (List.take_append_drop 4 _).symm
      _ = (pkt.take 2 ++ (pkt.drop 2).take 2) ++ (pkt.take 20).drop 4 := by
          rw [List.take_take, ← List.take_add]
          rfl
      _ = _ := List.append_assoc _ _ _

include parsed'

/-- Where two packets agree up to MESSAGE-INTEGRITY, they have the same header, the same
digest, and the same octets that it is over. -/
theorem Agree.same {amsgi amsgi' : Attr} (found : msg.msgint.amsgi = some amsgi)
    (found' : msg'.msgint.amsgi = some amsgi')
    (agree : Agree (20 + (msg.msgint.amsgiPos + 24)) pkt pkt') :
    msg'.hdr.type = msg.hdr.type ∧ msg'.hdr.magic = msg.hdr.magic
      ∧ msg'.hdr.tsxId = msg.hdr.tsxId ∧ amsgi'.value = amsgi.value
      ∧ msg'.msgint.covered pkt' = msg.msgint.covered pkt := by
  have signed : msg.msgint.amsgi ≠ none := by
    rw [found]
    nofun
  have signed' : msg'.msgint.amsgi ≠ none := by
    rw [found']
    nofun
  have pos : msg'.msgint.amsgiPos = msg.msgint.amsgiPos :=
    Frames.amsgiPos_eq agree parsed.frames parsed'.frames signed signed' (Nat.le_refl _)
  obtain ⟨type, -, magic, tsxId⟩ := decodeHdr_fields parsed.hdr
  obtain ⟨type', -, magic', tsxId'⟩ := decodeHdr_fields parsed'.hdr
  obtain ⟨-, ⟨hmac, value, digest⟩, -⟩ :=
    Frames.msgint 20 0 parsed.frames parsed.accepted.oneMsgInt found
  obtain ⟨-, ⟨hmac', value', digest'⟩, -⟩ :=
    Frames.msgint 20 0 parsed'.frames parsed'.accepted.oneMsgInt found'
  change hmac.1 = (pkt.drop (20 + (msg.msgint.amsgiPos + 4))).take 20 at digest
  change hmac'.1 = (pkt'.drop (20 + (msg'.msgint.amsgiPos + 4))).take 20 at digest'
  refine ⟨?_, ?_, ?_, ?_, ?_⟩
  · rw [type, type', agree.type]
  · rw [magic, magic', agree.slice (by omega) (by omega)]
  · apply Subtype.ext
    rw [tsxId, tsxId', agree.slice (by omega) (by omega)]
  · rw [value, value']
    congr 1
    apply Subtype.ext
    rw [digest, digest', pos, agree.slice (by omega) (by omega)]
  · have header : ∀ octets : List UInt8, (octets.take 20).drop 4 = (octets.drop 4).take 16 :=
      fun octets => List.drop_take
    rw [parsed.covered found, parsed'.covered found', pos, agree.type, header pkt, header pkt',
      agree.slice (k := 16) (by omega) (by omega),
      agree.slice (k := msg.msgint.amsgiPos) (by omega) (by omega)]

end Same

/-! ## The outcome -/

/-- The callbacks look at the type, the magic and the transaction id of the message only, besides
what they are given. -/
def AuthCred.HeaderOnly : AuthCred → Prop
  | .static _ => True
  | .dyn cred => ∀ msg msg' : StunMsg, msg'.hdr.type = msg.hdr.type →
      msg'.hdr.magic = msg.hdr.magic → msg'.hdr.tsxId = msg.hdr.tsxId →
      cred.getPassword msg' = cred.getPassword msg
        ∧ ∀ verify ∈ cred.verifyNonce, verify msg' = verify msg

/-- The same verdict, and the same user name and key. -/
def SameOutcome (r r' : AuthResult) : Prop :=
  r'.status = r.status ∧ r'.info.username = r.info.username ∧ r'.info.authKey = r.info.authKey

/-- What is looked up in the whole message is the same; without a username the rest is not
looked at. -/
def SameLookups (msg msg' : StunMsg) : Prop :=
  msg'.findText attrUsername = msg.findText attrUsername
    ∧ (msg.findText attrUsername ≠ none →
        msg'.findText attrRealm = msg.findText attrRealm
          ∧ msg'.findText attrNonce = msg.findText attrNonce)

section Outcome

variable {env : StunEnv} {pkt pkt' : List UInt8} {msg msg' : StunMsg} (amsgi amsgi' : Attr)

theorem matchUsername_same {cred : AuthCred} {user : Text} {arealm : Option Text}
    (password : ∀ dyn, cred = .dyn dyn → dyn.getPassword msg' = dyn.getPassword msg)
    (realm : Text) :
    matchUsername env msg' cred realm ⟨amsgi', user, arealm⟩
      = matchUsername env msg cred realm ⟨amsgi, user, arealm⟩ := by
  cases cred with
  | static cred => rfl
  | dyn cred =>
    unfold matchUsername
    simp only [password cred rfl]

theorem verifyPresented_same {cred : AuthCred} {user : Text} {arealm : Option Text}
    (verify : ∀ dyn, cred = .dyn dyn → ∀ verify ∈ dyn.verifyNonce, verify msg' = verify msg)
    (anonce : msg'.findText attrNonce = msg.findText attrNonce)
    (value : amsgi'.value = amsgi.value)
    (covered : msg'.msgint.covered pkt' = msg.msgint.covered pkt) (realm nonce : Text)
    (key : List UInt8) :
    verifyPresented env pkt' msg' cred realm nonce ⟨amsgi', user, arealm⟩ key
      = verifyPresented env pkt msg cred realm nonce ⟨amsgi, user, arealm⟩ key := by
  have nonces : checkNonce msg' cred ⟨amsgi', user, arealm⟩ nonce (msg.findText attrNonce)
      = checkNonce msg cred ⟨amsgi, user, arealm⟩ nonce (msg.findText attrNonce) := by
    unfold checkNonce
    cases msg.findText attrNonce with
    | none => rfl
    | some sent =>
      have ok : nonceOk msg' cred ⟨amsgi', user, arealm⟩ nonce sent
          = nonceOk msg cred ⟨amsgi, user, arealm⟩ nonce sent := by
        cases cred with
        | static cred => rfl
        | dyn cred =>
          unfold nonceOk
          cases callback : cred.verifyNonce with
          | none => simp only [callback]
          | some call => simp only [callback, verify cred rfl call callback]
      simp only [ok]
  have digests : checkHmac env pkt' msg' amsgi' key = checkHmac env pkt msg amsgi key := by
    rw [checkHmac, checkHmac, value, covered]
  unfold verifyPresented
  simp only [anonce, nonces, digests]

variable {amsgi amsgi'} (nonempty : pkt.length ≠ 0) (nonempty' : pkt'.length ≠ 0)
  (found : msg.msgint.amsgi = some amsgi) (found' : msg'.msgint.amsgi = some amsgi')

include nonempty nonempty' found found'

/-- The outcome depends on the header, on what is looked up and on the digest. -/
theorem pjStunAuthenticateRequest_same (type : msg'.hdr.type = msg.hdr.type)
    (magic : msg'.hdr.magic = msg.hdr.magic) (tsxId : msg'.hdr.tsxId = msg.hdr.tsxId)
    (value : amsgi'.value = amsgi.value)
    (covered : msg'.msgint.covered pkt' = msg.msgint.covered pkt) (same : SameLookups msg msg')
    {cred : AuthCred} (headerOnly : cred.HeaderOnly) (wantResponse : Bool) :
    SameOutcome (pjStunAuthenticateRequest env pkt msg cred wantResponse)
      (pjStunAuthenticateRequest env pkt' msg' cred wantResponse) := by
  have callbacks : ∀ dyn, cred = .dyn dyn → dyn.getPassword msg' = dyn.getPassword msg
      ∧ ∀ verify ∈ dyn.verifyNonce, verify msg' = verify msg := by
    intro dyn kind
    cases kind
    exact headerOnly msg msg' type magic tsxId
  obtain ⟨sameUser, sameRest⟩ := same
  unfold pjStunAuthenticateRequest
  rw [if_neg nonempty, if_neg nonempty']
  cases auth : cred.getAuth with
  | error status => exact ⟨rfl, rfl, rfl⟩
  | ok realmNonce =>
    obtain ⟨realm, nonce⟩ := realmNonce
    simp only [findPresented, found, found', sameUser]
    cases user : msg.findText attrUsername with
    | none => exact ⟨rfl, rfl, rfl⟩
    | some user' =>
      obtain ⟨sameRealm, sameNonce⟩ := sameRest (by rw [user]; nofun)
      simp only [sameRealm]
      by_cases missing : realm.1 ≠ [] ∧ msg.findText attrRealm = none
      · simp only [if_pos missing]
        exact ⟨rfl, rfl, rfl⟩
      · simp only [if_neg missing]
        rw [matchUsername_same amsgi amsgi' fun dyn kind => (callbacks dyn kind).1]
        cases matchUsername env msg cred realm ⟨amsgi, user', msg.findText attrRealm⟩ with
        | error failure => exact ⟨rfl, rfl, rfl⟩
        | ok userKey =>
          obtain ⟨username, key⟩ := userKey
          by_cases null : key = []
          · simp only [if_pos null]
            exact ⟨rfl, rfl, rfl⟩
          · simp only [if_neg null]
            rw [verifyPresented_same amsgi amsgi' (fun dyn kind => (callbacks dyn kind).2)
              sameNonce value covered]
            cases verifyPresented env pkt msg cred realm nonce
                ⟨amsgi, user', msg.findText attrRealm⟩ key with
            | error failure => exact ⟨rfl, rfl, rfl⟩
            | ok _ => exact ⟨rfl, rfl, rfl⟩

end Outcome

/-! ## Credentials that tell messages apart -/

/-- Accepts this username. -/
def askUsername (username : Text) : AuthCred :=
  .static
    { realm := emptyText
      username := username
      dataType := .plain
      data := printed80 "k"
      nonce := emptyText }

/-- A key without a realm is the password itself. -/
def realmType (realm : Option Text) : PasswdType :=
  if realm.any (·.1 ≠ []) then .hashed else .plain

/-- Accepts any username, and what the two predicates accept. -/
def askRealmNonce (realmOk : Option Text → Bool) (nonceOk : Text → Bool) : AuthCred :=
  .dyn
    { getAuth := .ok (emptyText, emptyText)
      getPassword := fun _ realm _ =>
        if realmOk realm then .ok (realmType realm, printed80 "k") else .error .einval
      verifyNonce := some fun _ _ _ nonce => nonceOk nonce }

theorem askRealmNonce_headerOnly (realmOk : Option Text → Bool) (nonceOk : Text → Bool) :
    (askRealmNonce realmOk nonceOk).HeaderOnly := by
  intro msg msg' _ _ _
  refine ⟨rfl, ?_⟩
  intro verify mem
  cases mem
  rfl

section Ask

variable {env : StunEnv} {pkt : List UInt8} {msg : StunMsg} (nonempty : pkt.length ≠ 0)
  (wantResponse : Bool)

section Stages

variable {cred : AuthCred} {realm nonce : Text} (auth : cred.getAuth = .ok (realm, nonce))

include nonempty auth

theorem pjStunAuthenticateRequest_refused (refused : ∃ failure,
      (findPresented msg realm).bind (matchUsername env msg cred realm) = .error failure) :
    (pjStunAuthenticateRequest env pkt msg cred wantResponse).info.authKey = [] := by
  obtain ⟨failure, refused⟩ := refused
  rw [pjStunAuthenticateRequest, if_neg nonempty]
  simp only [auth]
  cases presented : findPresented msg realm with
  | error failure' => rfl
  | ok asked =>
    rw [presented] at refused
    change matchUsername env msg cred realm asked = _ at refused
    simp only [refused]
    rfl

theorem pjStunAuthenticateRequest_keyed {asked : Presented} {username : Text} {key : List UInt8}
    (presented : findPresented msg realm = .ok asked)
    (matched : matchUsername env msg cred realm asked = .ok (username, key)) (keyed : key ≠ []) :
    (pjStunAuthenticateRequest env pkt msg cred wantResponse).info.authKey = key
      ∧ (pjStunAuthenticateRequest env pkt msg cred wantResponse).status
        = (verifyPresented env pkt msg cred realm nonce asked key).mapError
            fun failure => .stunCode failure.errCode := by
  rw [pjStunAuthenticateRequest, if_neg nonempty]
  simp only [auth, presented, matched, if_neg keyed]
  cases verifyPresented env pkt msg cred realm nonce asked key with
  | error failure => exact ⟨rfl, rfl⟩
  | ok _ => exact ⟨rfl, rfl⟩

end Stages

variable {amsgi : Attr} (found : msg.msgint.amsgi = some amsgi)

include found

theorem findPresented_noUser (user : msg.findText attrUsername = none) (realm : Text) :
    findPresented msg realm = .error ⟨400, some "Missing USERNAME"⟩ := by
  simp only [findPresented, found, user]

theorem findPresented_short {user : Text} (sent : msg.findText attrUsername = some user) :
    findPresented msg emptyText = .ok ⟨amsgi, user, msg.findText attrRealm⟩ := by
  simp only [findPresented, found, sent]
  exact if_neg fun both => both.1 rfl

include nonempty

theorem askUsername_key (username : Text) :
    (pjStunAuthenticateRequest env pkt msg (askUsername username) wantResponse).info.authKey
      = if msg.findText attrUsername = some username then [107] else [] := by
  have auth : (askUsername username).getAuth = .ok (emptyText, emptyText) := rfl
  cases user : msg.findText attrUsername with
  | none =>
    have refused : (findPresented msg emptyText).bind
        (matchUsername env msg (askUsername username) emptyText)
        = .error ⟨400, some "Missing USERNAME"⟩ := by
      rw [findPresented_noUser found user]
      rfl
    exact pjStunAuthenticateRequest_refused nonempty wantResponse auth ⟨_, refused⟩
  | some sent =>
    have presented := findPresented_short found user
    by_cases same : sent = username
    · have matched : matchUsername env msg (askUsername username) emptyText
          ⟨amsgi, sent, msg.findText attrRealm⟩ = .ok (username, [107]) :=
        if_pos same
      rw [if_pos (congrArg some same)]
      exact (pjStunAuthenticateRequest_keyed nonempty wantResponse auth presented matched
        (by decide)).1
    · have refused : (findPresented msg emptyText).bind
          (matchUsername env msg (askUsername username) emptyText) = .error ⟨401, none⟩ := by
        rw [presented]
        exact if_neg same
      rw [if_neg (by simpa using same)]
      exact pjStunAuthenticateRequest_refused nonempty wantResponse auth ⟨_, refused⟩

variable {user : Text} (sent : msg.findText attrUsername = some user)

include sent

theorem askRealmNonce_matched {realmOk : Option Text → Bool} (nonceOk : Text → Bool)
    (accepted : realmOk (msg.findText attrRealm) = true) :
    (pjStunAuthenticateRequest env pkt msg (askRealmNonce realmOk nonceOk)
        wantResponse).info.authKey = [107]
      ∧ (pjStunAuthenticateRequest env pkt msg (askRealmNonce realmOk nonceOk)
          wantResponse).status
        = (verifyPresented env pkt msg (askRealmNonce realmOk nonceOk) emptyText emptyText
            ⟨amsgi, user, msg.findText attrRealm⟩ [107]).mapError
              fun failure => .stunCode failure.errCode := by
  have key : pjStunCreateKey env (msg.findText attrRealm) user
      (realmType (msg.findText attrRealm)) (printed80 "k") = [107] := by
    cases msg.findText attrRealm with
    | none => rfl
    | some realm =>
      refine if_neg fun both => ?_
      have hashed : realmType (some realm) = .hashed := if_pos (by simpa using both.1)
      exact nomatch hashed.symm.trans both.2
  have matched : matchUsername env msg (askRealmNonce realmOk nonceOk) emptyText
      ⟨amsgi, user, msg.findText attrRealm⟩ = .ok (user, [107]) := by
    simp only [matchUsername, askRealmNonce, accepted, if_true, key]
  exact pjStunAuthenticateRequest_keyed nonempty wantResponse rfl (findPresented_short found sent)
    matched (by decide)

theorem askRealmNonce_key (realmOk : Option Text → Bool) (nonceOk : Text → Bool) :
    (pjStunAuthenticateRequest env pkt msg (askRealmNonce realmOk nonceOk)
        wantResponse).info.authKey
      = if realmOk (msg.findText attrRealm) then [107] else [] := by
  cases accepted : realmOk (msg.findText attrRealm) with
  | true => exact (askRealmNonce_matched nonempty wantResponse found sent nonceOk accepted).1
  | false =>
    have auth : (askRealmNonce realmOk nonceOk).getAuth = .ok (emptyText, emptyText) := rfl
    have refused : (findPresented msg emptyText).bind
        (matchUsername env msg (askRealmNonce realmOk nonceOk) emptyText)
        = .error ⟨401, none⟩ := by
      rw [findPresented_short found sent]
      show matchUsername env msg (askRealmNonce realmOk nonceOk) emptyText
        ⟨amsgi, user, msg.findText attrRealm⟩ = _
      simp only [matchUsername, askRealmNonce, accepted]
      rfl
    exact pjStunAuthenticateRequest_refused nonempty wantResponse auth ⟨_, refused⟩

theorem askRealmNonce_stale (nonceOk : Text → Bool) :
    (pjStunAuthenticateRequest env pkt msg (askRealmNonce (fun _ => true) nonceOk)
        wantResponse).status = .error (.stunCode 438)
      ↔ ∃ nonce, msg.findText attrNonce = some nonce ∧ nonceOk nonce = false := by
  rw [(askRealmNonce_matched nonempty wantResponse found sent nonceOk rfl).2]
  have term : checkTerm emptyText emptyText (msg.findText attrRealm) (msg.findText attrNonce)
      = .ok () := by
    cases msg.findText attrRealm <;> rfl
  have hmac : ∀ failure, checkHmac env pkt msg amsgi [107] = .error failure →
      failure.errCode = 401 := by
    intro failure refused
    unfold checkHmac at refused
    split at refused
    · nomatch refused
    · cases refused
      rfl
  have fresh : checkNonce msg (askRealmNonce (fun _ => true) nonceOk)
        ⟨amsgi, user, msg.findText attrRealm⟩ emptyText (msg.findText attrNonce) = .ok () →
      (verifyPresented env pkt msg (askRealmNonce (fun _ => true) nonceOk) emptyText emptyText
        ⟨amsgi, user, msg.findText attrRealm⟩ [107]).mapError
          (fun failure => StunStatus.stunCode failure.errCode) ≠ .error (.stunCode 438) := by
    intro fresh
    unfold verifyPresented
    simp only [term, fresh]
    show Except.mapError _ (checkHmac env pkt msg amsgi [107]) ≠ _
    cases digest : checkHmac env pkt msg amsgi [107] with
    | error failure =>
      rw [Except.mapError, hmac failure digest]
      decide
    | ok _ => nofun
  cases nonce : msg.findText attrNonce with
  | none =>
    rw [nonce] at fresh
    exact iff_of_false (fresh rfl) nofun
  | some value =>
    rw [nonce] at fresh term
    cases ok : nonceOk value with
    | true =>
      refine iff_of_false (fresh (if_pos ok)) ?_
      intro stale
      obtain ⟨_, same, refused⟩ := stale
      cases same
      rw [ok] at refused
      nomatch refused
    | false =>
      refine iff_of_true ?_ ⟨value, rfl, ok⟩
      have stale : checkNonce msg (askRealmNonce (fun _ => true) nonceOk)
          ⟨amsgi, user, msg.findText attrRealm⟩ emptyText (some value) = .error ⟨438, none⟩ :=
        if_neg (by simp [Stun.nonceOk, askRealmNonce, ok])
      unfold verifyPresented
      simp only [term, nonce, stale]
      rfl

end Ask

/-! ## Packets that agree -/

/-- Authentication gives the same outcome for two requests that agree up to MESSAGE-INTEGRITY,
whatever the credential, exactly if what it looks up in the whole messages is the same. -/
theorem pjStunAuthenticate_protected_iff {env : StunEnv} {pkt pkt' : List UInt8}
    {options options' : UInt32} {wanted wanted' : Bool} {msg msg' : StunMsg} {len len' : Nat}
    (decoded : pjStunMsgDecode env pkt options wanted = .value (msg, len))
    (decoded' : pjStunMsgDecode env pkt' options' wanted' = .value (msg', len'))
    (protected_ : msg.msgint.amsgi ≠ none) (protected' : msg'.msgint.amsgi ≠ none)
    (agree : Agree (20 + (msg.msgint.amsgiPos + 24)) pkt pkt') (wantResponse : Bool) :
    (∀ cred : AuthCred, cred.HeaderOnly →
        SameOutcome (pjStunAuthenticateRequest env pkt msg cred wantResponse)
          (pjStunAuthenticateRequest env pkt' msg' cred wantResponse))
      ↔ SameLookups msg msg' := by
  have parsed := (pjStunMsgDecode_parsed decoded).1
  have parsed' := (pjStunMsgDecode_parsed decoded').1
  obtain ⟨amsgi, found⟩ := Option.ne_none_iff_exists'.1 protected_
  obtain ⟨amsgi', found'⟩ := Option.ne_none_iff_exists'.1 protected'
  have nonempty : pkt.length ≠ 0 := by
    have := parsed.long
    omega
  have nonempty' : pkt'.length ≠ 0 := by
    have := parsed'.long
    omega
  constructor
  · intro outcomes
    have user : msg'.findText attrUsername = msg.findText attrUsername := by
      apply Option.ext
      intro username
      have keys := (outcomes (askUsername username) trivial).2.2
      rw [askUsername_key nonempty wantResponse found, askUsername_key nonempty' wantResponse found']
        at keys
      show _ = some username ↔ _ = some username
      by_cases sent : msg.findText attrUsername = some username
      · rw [if_pos sent] at keys
        split at keys
        · rename_i sent'
          exact iff_of_true sent' sent
        · nomatch keys
      · rw [if_neg sent] at keys
        split at keys
        · nomatch keys
        · rename_i unsigned
          exact iff_of_false unsigned sent
    refine ⟨user, ?_⟩
    intro present
    obtain ⟨username, sent⟩ := Option.ne_none_iff_exists'.1 present
    have sent' := user.trans sent
    constructor
    · have keys := (outcomes (askRealmNonce (· = msg.findText attrRealm) fun _ => true)
        (askRealmNonce_headerOnly _ _)).2.2
      rw [askRealmNonce_key nonempty wantResponse found sent,
        askRealmNonce_key nonempty' wantResponse found' sent'] at keys
      by_contra other
      simp [other] at keys
    · apply Option.ext
      intro nonce
      have statuses := (outcomes (askRealmNonce (fun _ => true) fun value => value ≠ nonce)
        (askRealmNonce_headerOnly _ _)).1
      have only : ∀ sent : Option Text,
          (∃ value, sent = some value ∧ decide (value ≠ nonce) = false) ↔ sent = some nonce := by
        intro sent
        constructor
        · intro refused
          obtain ⟨value, rfl, same⟩ := refused
          rw [not_not.1 (of_decide_eq_false same)]
        · intro same
          exact ⟨nonce, same, decide_eq_false (not_not.2 rfl)⟩
      show _ = some nonce ↔ _ = some nonce
      rw [← only, ← only, ← askRealmNonce_stale nonempty' wantResponse found' sent', statuses,
        askRealmNonce_stale nonempty wantResponse found sent]
  · intro same cred headerOnly
    obtain ⟨type, magic, tsxId, value, covered⟩ := agree.same parsed parsed' found found'
    exact pjStunAuthenticateRequest_same nonempty nonempty' found found' type magic tsxId value covered
      same headerOnly wantResponse

/-- An attribute of this type with the text `u`. -/
def textAttr (high low : UInt8) : List UInt8 := [high, low, 0, 1, 117, 0, 0, 0]

/-- The packets below, up to MESSAGE-INTEGRITY, before which there are these attributes. -/
def protectedPart (length : UInt8) (attrs : List UInt8) : List UInt8 :=
  [0, 1, 0, length, 0x21, 0x12, 0xA4, 0x42] ++ List.replicate 12 7 ++ attrs ++ [0, 8, 0, 20]
    ++ List.replicate 20 1

def onesEnv : StunEnv := .constant ⟨List.replicate 20 1, rfl⟩ 0

def usernameFirst : List UInt8 := protectedPart 32 (textAttr 0 6)

def softwareLast : List UInt8 := protectedPart 40 (textAttr 0 6) ++ textAttr 0x80 0x22

/-- A SOFTWARE attribute after MESSAGE-INTEGRITY makes no difference: with the USERNAME before it
the HMAC decides. -/
theorem pjStunAuthenticate_protected_software :
    ∃ msg msg', pjStunMsgDecode onesEnv usernameFirst 0 false = .value (msg, 52)
      ∧ pjStunMsgDecode onesEnv softwareLast 0 false = .value (msg', 60)
      ∧ (pjStunAuthenticateRequest onesEnv usernameFirst msg (askUsername (printed80 "u"))
          true).info.authKey = [107]
      ∧ ∀ cred : AuthCred, cred.HeaderOnly →
          SameOutcome (pjStunAuthenticateRequest onesEnv usernameFirst msg cred true)
            (pjStunAuthenticateRequest onesEnv softwareLast msg' cred true) := by
  have decoded : ∃ msg, pjStunMsgDecode onesEnv usernameFirst 0 false = .value (msg, 52)
      ∧ msg.msgint.amsgi ≠ none ∧ msg.msgint.amsgiPos = 8
      ∧ msg.findText attrUsername = some (printed80 "u") ∧ msg.findText attrRealm = none
      ∧ msg.findText attrNonce = none := ⟨_, rfl, by rintro ⟨⟩, rfl, rfl, rfl, rfl⟩
  have decoded' : ∃ msg', pjStunMsgDecode onesEnv softwareLast 0 false = .value (msg', 60)
      ∧ msg'.msgint.amsgi ≠ none ∧ msg'.findText attrUsername = some (printed80 "u")
      ∧ msg'.findText attrRealm = none ∧ msg'.findText attrNonce = none :=
    ⟨_, rfl, by rintro ⟨⟩, rfl, rfl, rfl⟩
  obtain ⟨msg, decoded, protected_, place, user, realm, nonce⟩ := decoded
  obtain ⟨msg', decoded', protected', user', realm', nonce'⟩ := decoded'
  have agree : Agree (20 + (msg.msgint.amsgiPos + 24)) usernameFirst softwareLast := by
    rw [place]
    exact ⟨rfl, rfl⟩
  refine ⟨msg, msg', decoded, decoded', ?_, ?_⟩
  · obtain ⟨amsgi, found⟩ := Option.ne_none_iff_exists'.1 protected_
    rw [askUsername_key (by decide) true found, user, if_pos rfl]
  · apply (pjStunAuthenticate_protected_iff decoded decoded' protected_ protected' agree true).2
    exact ⟨user'.trans user.symm, fun _ => ⟨realm'.trans realm.symm, nonce'.trans nonce.symm⟩⟩

def noUsername : List UInt8 := protectedPart 24 []

def usernameLast : List UInt8 := protectedPart 32 [] ++ textAttr 0 6

/-- A USERNAME after MESSAGE-INTEGRITY does: without it the request is a bad one, with it there
is a key to try. -/
theorem pjStunAuthenticate_protected_username :
    ∃ msg msg', pjStunMsgDecode onesEnv noUsername 0 false = .value (msg, 44)
      ∧ pjStunMsgDecode onesEnv usernameLast 0 false = .value (msg', 52)
      ∧ msg.msgint.amsgi ≠ none ∧ msg'.msgint.amsgi ≠ none
      ∧ Agree (20 + (msg.msgint.amsgiPos + 24)) noUsername usernameLast
      ∧ (askUsername (printed80 "u")).HeaderOnly
      ∧ ¬ SameOutcome
          (pjStunAuthenticateRequest onesEnv noUsername msg (askUsername (printed80 "u")) true)
          (pjStunAuthenticateRequest onesEnv usernameLast msg' (askUsername (printed80 "u"))
            true) := by
  have decoded : ∃ msg, pjStunMsgDecode onesEnv noUsername 0 false = .value (msg, 44)
      ∧ msg.msgint.amsgi ≠ none ∧ msg.msgint.amsgiPos = 0 ∧ msg.findText attrUsername = none :=
    ⟨_, rfl, by rintro ⟨⟩, rfl, rfl⟩
  have decoded' : ∃ msg', pjStunMsgDecode onesEnv usernameLast 0 false = .value (msg', 52)
      ∧ msg'.msgint.amsgi ≠ none ∧ msg'.findText attrUsername = some (printed80 "u") :=
    ⟨_, rfl, by rintro ⟨⟩, rfl⟩
  obtain ⟨msg, decoded, protected_, first, noUser⟩ := decoded
  obtain ⟨msg', decoded', protected', user⟩ := decoded'
  refine ⟨msg, msg', decoded, decoded', protected_, protected', ?_, trivial, ?_⟩
  · rw [first]
    exact ⟨rfl, rfl⟩
  · intro same
    obtain ⟨amsgi, found⟩ := Option.ne_none_iff_exists'.1 protected_
    obtain ⟨amsgi', found'⟩ := Option.ne_none_iff_exists'.1 protected'
    have keys := same.2.2
    rw [askUsername_key (by decide) true found, askUsername_key (by decide) true found', user,
      noUser, if_pos rfl] at keys
    cases keys

end Pjsip.Pjnath.Stun
