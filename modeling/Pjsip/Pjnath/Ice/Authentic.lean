import Pjsip.Pjnath.Ice.Credential
import Pjsip.Pjnath.Stun.Options

/-!
# Checks between two agents that have each other's credentials

What one side signs a check with is what the other side expects, whatever the lengths of the
fragments. The buffer in which the user names are put together is shorter than two fragments
may be, though.
-/

namespace Pjsip.Pjnath.Ice

open Pjsip.Base Pjsip.Pjnath.Stun

/-! ## User names -/

section Username

variable (dst : BufStr) (first second : IceString)

/-- What a user name is. -/
def usernameOf : List UInt8 := first.bytes ++ 0x3A :: second.bytes

theorem usernameText_eq : (usernameText dst first second).1 = usernameOf first second := by
  show (((dst.buf.store 0 first.bytes).store first.bytes.length [0x3A]).store
    (first.bytes.length + 1) second.bytes).slice 0
      (first.bytes.length + 1 + second.bytes.length) = _
  rw [Buffer.slice_append, Nat.zero_add, Buffer.slice_store,
    Buffer.slice_store_before _ (by omega), Buffer.slice_append, Nat.zero_add]
  have colon := Buffer.slice_store (dst.buf.store 0 first.bytes) first.bytes.length [0x3A]
  have fragment := Buffer.slice_store dst.buf 0 first.bytes
  rw [List.length_singleton] at colon
  rw [colon, Buffer.slice_store_before _ (by omega), fragment, usernameOf, List.append_assoc]
  rfl

theorem mem_stored_username {i : Nat} : i ∈ (dst.username first second).buf.stored
      ↔ i ∈ dst.buf.stored ∨ i < first.bytes.length + 1 + second.bytes.length := by
  show i ∈ (((dst.buf.store 0 first.bytes).store first.bytes.length [0x3A]).store
    (first.bytes.length + 1) second.bytes).stored ↔ _
  rw [Buffer.mem_stored_store, Buffer.mem_stored_store, Buffer.mem_stored_store,
    List.length_singleton]
  by_cases before : i ∈ dst.buf.stored
  · simp [before]
  · simp only [before, false_or]
    omega

end Username

theorem IceString.no_colon (s : IceString) : (0x3A : UInt8) ∉ s.bytes := by
  intro mem
  have char := List.all_eq_true.1 s.chars _ mem
  cases char

theorem takeWhile_colon {frag : List UInt8} (plain : (0x3A : UInt8) ∉ frag) (rest : List UInt8) :
    (frag ++ 0x3A :: rest).takeWhile (· ≠ 0x3A) = frag := by
  induction frag with
  | nil => rfl
  | cons c frag ih =>
    rw [List.mem_cons, not_or] at plain
    rw [List.cons_append, List.takeWhile_cons_of_pos (by simpa using Ne.symm plain.1), ih plain.2]

namespace IceCred

/-- The session of an agent that has been given the credentials of the other one, and the
buffer. -/
def matched (cells : Nat → UInt8) (ufrag pass remUfrag remPasswd : IceString) : IceCred × Buffer :=
  createCheckList { rxUfrag := ufrag, rxPass := pass } cells remUfrag remPasswd

section Matched

variable (cells : Nat → UInt8) (ufrag pass remUfrag remPasswd : IceString)

theorem matched_tx :
    (matched cells ufrag pass remUfrag remPasswd).1.txUname.1 = usernameOf remUfrag ufrag
    ∧ (matched cells ufrag pass remUfrag remPasswd).1.txPass.1 = remPasswd.bytes :=
  ⟨usernameText_eq ⟨⟨cells, []⟩, 0⟩ remUfrag ufrag, rfl⟩

theorem matched_stored {i : Nat} : i ∈ (matched cells ufrag pass remUfrag remPasswd).2.stored
      ↔ i < ufrag.bytes.length + 1 + remUfrag.bytes.length := by
  show i ∈ ((BufStr.username ⟨⟨cells, []⟩, 0⟩ remUfrag ufrag).username ufrag remUfrag).buf.stored
    ↔ _
  rw [mem_stored_username, mem_stored_username]
  simp only [List.not_mem_nil, false_or]
  omega

end Matched

/-! ## What a check consists of -/

/-- The attributes of a check that do not depend on who sends it. -/
def checkAttrs (check : CheckData) : List Attr :=
  priorityAttr check.prio
    :: (if check.role = .controlling then
          (if check.nominate then [useCandidateAttr] else []) ++ [controllingAttr check.tieBreaker]
        else [controlledAttr check.tieBreaker])

variable {msg : StunMsg}

theorem checkMsg_attrs (check : CheckData) (empty : msg.attrs = []) :
    Extends msg (checkAttrs check) (checkMsg check msg) := by
  obtain ⟨hdr, attrs, few⟩ := msg
  cases empty
  unfold checkMsg checkAttrs
  by_cases controls : check.role = .controlling
  · simp only [if_pos controls]
    cases check.nominate <;> exact ⟨rfl, rfl⟩
  · simp only [if_neg controls]
    exact ⟨rfl, rfl⟩

/-- The types of the attributes that authentication looks at, and of those that protect. -/
def authTypes : List UInt16 := [attrUsername, attrRealm, attrMessageIntegrity, attrFingerprint]

/-- An attribute that authentication passes over, and that is easy to print and to read. -/
structure Harmless (a : Attr) : Prop where
  type : a.type ∉ authTypes
  known : attrKind a.type ≠ none
  taken : a.refused = false
  exact_ : a.checked = a.size

theorem Harmless.stops {a : Attr} (harmless : Harmless a) : a.stops = false := by
  have type := harmless.type
  simp only [authTypes, List.mem_cons, List.not_mem_nil, or_false, not_or] at type
  simp [Attr.stops, type.2.2.1, type.2.2.2]

theorem checkAttrs_harmless (check : CheckData) : ∀ a ∈ checkAttrs check, Harmless a := by
  have types : ∀ type ∈ [(0x0024 : UInt16), 0x0025, 0x8029, 0x802A],
      type ∉ authTypes ∧ attrKind type ≠ none := by
    intro type mem
    simp only [List.mem_cons, List.not_mem_nil, or_false] at mem
    rcases mem with rfl | rfl | rfl | rfl <;> decide
  have harmless : ∀ a : Attr, a.type ∈ [(0x0024 : UInt16), 0x0025, 0x8029, 0x802A] →
      a.refused = false → a.checked = a.size → Harmless a := by
    intro a mem taken exact_
    exact ⟨(types a.type mem).1, (types a.type mem).2, taken, exact_⟩
  have priority : Harmless (priorityAttr check.prio) := harmless _ (.head _) rfl rfl
  have nominated : Harmless useCandidateAttr := harmless _ (.tail _ (.head _)) rfl rfl
  have controlled : Harmless (controlledAttr check.tieBreaker) :=
    harmless _ (.tail _ (.tail _ (.head _))) rfl rfl
  have controlling : Harmless (controllingAttr check.tieBreaker) :=
    harmless _ (.tail _ (.tail _ (.tail _ (.head _)))) rfl rfl
  unfold checkAttrs
  split
  · split <;> simp [priority, nominated, controlling]
  · simp [priority, controlled]

def signInfo (ice : IceCred) : ReqCredInfo := ⟨emptyText, emptyText, ice.txUname, ice.txPass.1⟩

theorem createReq_check (env : StunEnv) (ice : IceCred) (name : Text) (tsxId : Octets 12) :
    createReq env (ice.initComp name) 0x0001 stunMagic tsxId 0
      = .ok (newTxData (createMsg 0x0001 stunMagic tsxId) ice.signInfo 0) := by
  have key : pjStunCreateKey env (some emptyText) ice.txUname .plain ice.txPass = ice.txPass.1 := by
    rw [pjStunCreateKey]
    exact if_neg fun both => both.1 rfl
  have cred : ice.stunAuthGetCred (createMsg 0x0001 stunMagic tsxId)
      = .ok (emptyText, ice.txUname, emptyText, .plain, ice.txPass) := by
    refine if_neg ?_
    show ¬ isResponse 0x0001 = true
    decide
  have auth : getAuth env (ice.initComp name) (createMsg 0x0001 stunMagic tsxId)
      = .ok ice.signInfo := by
    simp only [getAuth, initComp, cred, key]
    rfl
  show (getAuth env (ice.initComp name) (createMsg 0x0001 stunMagic tsxId)).map _ = _
  rw [auth]
  rfl

theorem optionAttrs_harmless {ice : IceCred} {name : Text} :
    ∀ a ∈ optionAttrs (ice.initComp name) ice.signInfo msg,
      attrKind a.type ≠ none ∧ a.checked = a.size := by
  have known : ∀ type ∈ [attrSoftware, attrUsername, attrRealm, attrNonce, attrMessageIntegrity,
      attrFingerprint], attrKind type ≠ none := by
    intro type mem
    simp only [List.mem_cons, List.not_mem_nil, or_false] at mem
    rcases mem with rfl | rfl | rfl | rfl | rfl | rfl <;> decide
  intro a mem
  simp only [optionAttrs, softwareAttr, credTexts, credMsgint, sessFingerprint,
    wantedAttr_toList, wantedAttr, List.mem_append, List.mem_ite_nil_right,
    List.mem_singleton] at mem
  rcases mem with ⟨-, rfl⟩ | (⟨-, rfl⟩ | ⟨-, rfl⟩ | ⟨-, rfl⟩) | ⟨-, rfl⟩ | ⟨-, rfl⟩
    <;> exact ⟨known _ (by simp [stringAttr, msgintAttr, fingerprintAttr]), rfl⟩

/-- A check that has been encoded, as the STUN layer sees it. -/
structure SignedCheck (env : StunEnv) (ice : IceCred) (pkt : List UInt8) where
  msg : StunMsg
  msg' : StunMsg
  printout : Printout env msg msg' (some ice.txPass.1) pkt
  mi : Attr
  has : printout.mi = some mi
  framed : Framed msg
  understood : Understood msg
  request : msg.hdr.type = 0x0001
  username : msg.findText attrUsername = some ice.txUname
  realm : msg.findText attrRealm = none

theorem performCheck_signed {env : StunEnv} {cells : Nat → UInt8} {ice : IceCred} {name : Text}
    {check : CheckData} {pkt : List UInt8} (named : ice.txUname.1 ≠ []) (keyed : ice.txPass.1 ≠ [])
    (made : performCheck env cells (ice.initComp name) check = .ok pkt) :
    Nonempty (SignedCheck env ice pkt) := by
  unfold performCheck at made
  rw [createReq_check] at made
  obtain ⟨_, same, made⟩ := except_bind_ok.1 made
  cases same
  obtain ⟨msg, options, made⟩ := except_bind_ok.1 made
  let bare : StunMsg := createMsg 0x0001 stunMagic check.tsxId
  have plain : Extends bare (checkAttrs check) (checkMsg check bare) := checkMsg_attrs check rfl
  have request : isRequest (checkMsg check bare).hdr.type = true := by
    rw [plain.hdr]
    show isRequest 0x0001 = true
    decide
  change applyMsgOptions (ice.initComp name) (some ice.signInfo) (checkMsg check bare) = .ok msg
    at options
  have sent := (applyMsgOptions_request request).1 options
  have harmless : ∀ a ∈ (checkMsg check bare).attrs, Harmless a := by
    rw [plain.attrs]
    exact checkAttrs_harmless check
  have arranged := optionAttrs_arranged sent (fun a mem => (harmless a mem).stops)
    fun a mem => (harmless a mem).taken
  have whole : ∀ a ∈ msg.attrs, attrKind a.type ≠ none ∧ a.checked = a.size := by
    intro a mem
    rw [sent.attrs] at mem
    rcases List.mem_append.1 mem with mem | mem
    · exact ⟨(harmless a mem).known, (harmless a mem).exact_⟩
    · exact optionAttrs_harmless a mem
  generalize printed : pjStunMsgEncode env msg cells 800 0 _ = outcome at made
  change pjStunMsgEncode env msg cells 800 0 (some ice.txPass.1) = _ at printed
  cases outcome with
  | error status e => cases made
  | ok result e =>
    obtain ⟨msg', len⟩ := result
    cases made
    obtain ⟨-, ⟨p⟩⟩ := pjStunMsgEncode_printout printed
    have inside := pjStunMsgEncode_inside printed fun a mem => (whole a mem).2
    have length := p.out_length arranged.noStray
    rw [Buffer.slice_length] at length
    obtain ⟨mi, has⟩ := p.mi_some (optionAttrs_signed sent named keyed)
    refine ⟨⟨msg, msg', p, mi, has, ⟨?_, arranged.noStray, ?_⟩, ?_, ?_, ?_, ?_⟩⟩
    · rw [sent.hdr, plain.hdr]
      rfl
    · change len ≤ 800 at inside
      omega
    · intro a mem
      rw [Attr.understood, decide_eq_true (whole a mem).1]
      rfl
    · rw [sent.hdr, plain.hdr]
      rfl
    · rw [optionAttrs_findText sent rfl (by decide) ?_]
      · exact credTexts_username _ named
      · intro a mem type
        exact (harmless a mem).type (by simp [authTypes, type])
    · rw [optionAttrs_findText sent rfl (by decide) ?_]
      · exact credTexts_realm _
      · intro a mem type
        exact (harmless a mem).type (by simp [authTypes, type])

/-! ## How a check is received -/

/-- `pj_stun_authenticate_request`, with the callbacks of this session. -/
def Passes (env : StunEnv) (ice : IceCred) (pkt : List UInt8) (msg : StunMsg) : Prop :=
  (pjStunAuthenticateRequest env pkt msg (.dyn ice.dynCred) true).status = .ok ()

theorem stunAuthGetPassword_request (ice : IceCred)
    (request : isRequest msg.hdr.type = true) (realm : Option Text) {username : Text}
    {frag rest : List UInt8} (split : username.1 = frag ++ 0x3A :: rest)
    (first : (0x3A : UInt8) ∉ frag) :
    ice.stunAuthGetPassword msg realm username
      = if frag ≠ ice.rxUfrag.bytes then .error (.stunCode 401)
        else .ok (.plain, ice.rxPass.text) := by
  have low : msg.hdr.type &&& 0x0110 = 0 := by simpa [isRequest] using request
  have success : isSuccessResponse msg.hdr.type = false := by
    rw [isSuccessResponse, low]
    rfl
  have shorter : frag.length ≠ username.1.length := by
    rw [split, List.length_append, List.length_cons]
    omega
  rw [stunAuthGetPassword, success, (isRequest_class request).1]
  show (if (username.1.takeWhile (· ≠ 0x3A)).length = username.1.length then _
    else if username.1.takeWhile (· ≠ 0x3A) ≠ ice.rxUfrag.bytes then _ else _) = _
  have fragment : username.1.takeWhile (· ≠ 0x3A) = frag := by
    rw [split]
    exact takeWhile_colon first rest
  rw [fragment, if_neg shorter]

theorem SignedCheck.passes {env : StunEnv} {one two : IceCred} {pkt : List UInt8}
    (signed : SignedCheck env one pkt) {ufrag : IceString}
    (uname : one.txUname.1 = usernameOf two.rxUfrag ufrag)
    (pass : one.txPass.1 = two.rxPass.bytes) :
    ∃ msg, pjStunMsgDecode env pkt optIsDatagram true = .value (msg, pkt.length)
      ∧ Passes env two pkt msg := by
  obtain ⟨msg, msg', p, mi, has, framed, understood, request, username, realm⟩ := signed
  obtain ⟨got, decoded, hdr, allRead⟩ := p.decoded framed optIsDatagram nofun true understood
  refine ⟨got, decoded, ?_⟩
  have type : isRequest got.hdr.type = true := by
    rw [hdr, congrArg StunMsg.hdr p.kept]
    show isRequest msg.hdr.type = true
    rw [request]
    decide
  have known : two.dynCred.getPassword got (msg.findText attrRealm) one.txUname
      = .ok (.plain, two.rxPass.text) := by
    refine (stunAuthGetPassword_request two type (msg.findText attrRealm) uname
      two.rxUfrag.no_colon).trans ?_
    exact if_neg fun other => other rfl
  have secret : one.txPass.1 ≠ [] := by
    rw [pass]
    exact two.rxPass.nonempty
  refine p.request_dynamic has framed allRead rfl rfl username known ?_ secret true
  rw [realm, pass]
  rfl

theorem findPresented_user {realm : Text} {asked : Presented}
    (found : findPresented msg realm = .ok asked) :
    msg.findText attrUsername = some asked.user := by
  unfold findPresented at found
  cases sighted : msg.msgint.amsgi with
  | none =>
    rw [sighted] at found
    nomatch found
  | some amsgi =>
    cases shown : msg.findText attrUsername with
    | none =>
      rw [sighted, shown] at found
      nomatch found
    | some user =>
      rw [sighted, shown] at found
      by_cases missing : realm.1 ≠ [] ∧ msg.findText attrRealm = none
      · simp only [if_pos missing] at found
        nomatch found
      · simp only [if_neg missing] at found
        cases found
        rfl

theorem refused {env : StunEnv} (ice : IceCred) (pkt : List UInt8)
    (request : isRequest msg.hdr.type = true) {username : Text}
    (presented : msg.findText attrUsername = some username) {frag rest : List UInt8}
    (split : username.1 = frag ++ 0x3A :: rest) (first : (0x3A : UInt8) ∉ frag)
    (other : frag ≠ ice.rxUfrag.bytes) : ¬ Passes env ice pkt msg := by
  unfold Passes pjStunAuthenticateRequest
  by_cases empty : pkt.length = 0
  · rw [if_pos empty]
    simp
  · rw [if_neg empty]
    have open_ : (AuthCred.dyn ice.dynCred).getAuth = .ok (emptyText, emptyText) := rfl
    rw [open_]
    dsimp only
    cases found : findPresented msg emptyText with
    | error failure => rintro ⟨⟩
    | ok asked =>
      have user : asked.user = username :=
        Option.some.inj ((findPresented_user found).symm.trans presented)
      have unknown : matchUsername env msg (.dyn ice.dynCred) emptyText asked
          = .error ⟨401, none⟩ := by
        have refused := stunAuthGetPassword_request ice request asked.arealm (user ▸ split) first
        rw [if_pos other] at refused
        change ice.dynCred.getPassword msg asked.arealm asked.user = _ at refused
        rw [matchUsername, refused]
      simp only [unknown]
      rintro ⟨⟩

/-! ## Two agents -/

/-- What `one` is to rely on when it sends checks to `two`, and `two` when it gets some. -/
structure Authenticates (env : StunEnv) (one two : IceCred) : Prop where
  accepted : ∀ cells name check pkt, performCheck env cells (one.initComp name) check = .ok pkt →
    ∃ msg, pjStunMsgDecode env pkt optIsDatagram true = .value (msg, pkt.length)
      ∧ Passes env two pkt msg
  refused : ∀ pkt msg username frag rest, isRequest msg.hdr.type = true →
    msg.findText attrUsername = some username → username.1 = frag ++ 0x3A :: rest →
    (0x3A : UInt8) ∉ frag → frag ≠ two.rxUfrag.bytes → ¬ Passes env two pkt msg

theorem matched_authenticates (env : StunEnv) (ufrag pass remUfrag remPasswd : IceString)
    (cells cells' : Nat → UInt8) :
    Authenticates env (matched cells ufrag pass remUfrag remPasswd).1
      (matched cells' remUfrag remPasswd ufrag pass).1 := by
  obtain ⟨uname, key⟩ := matched_tx cells ufrag pass remUfrag remPasswd
  constructor
  · intro held name check pkt made
    have named : (matched cells ufrag pass remUfrag remPasswd).1.txUname.1 ≠ [] := by
      rw [uname, usernameOf]
      simp
    have keyed : (matched cells ufrag pass remUfrag remPasswd).1.txPass.1 ≠ [] := by
      rw [key]
      exact remPasswd.nonempty
    obtain ⟨signed⟩ := performCheck_signed named keyed made
    exact signed.passes uname key
  · intro pkt msg username frag rest request presented split first other
    exact refused _ pkt request presented split first other

/-- Two agents that have been given each other's credentials authenticate each other's checks.
Their user names stay inside the buffer exactly if both fragments and the colon fit. -/
theorem createCheckList_authenticates_iff (env : StunEnv) (ufrag pass remUfrag remPasswd : IceString)
    (cells cells' : Nat → UInt8) :
    ((∀ i ∈ (matched cells ufrag pass remUfrag remPasswd).2.stored, i < usernameSize)
        ∧ (∀ i ∈ (matched cells' remUfrag remPasswd ufrag pass).2.stored, i < usernameSize)
        ∧ Authenticates env (matched cells ufrag pass remUfrag remPasswd).1
            (matched cells' remUfrag remPasswd ufrag pass).1
        ∧ Authenticates env (matched cells' remUfrag remPasswd ufrag pass).1
            (matched cells ufrag pass remUfrag remPasswd).1)
      ↔ ufrag.bytes.length + 1 + remUfrag.bytes.length ≤ usernameSize := by
  constructor
  · rintro ⟨inside, -⟩
    by_contra long
    exact absurd (inside usernameSize ((matched_stored _ _ _ _ _).2 (by omega))) (by omega)
  · intro fits
    refine ⟨?_, ?_, matched_authenticates .., matched_authenticates ..⟩
    · intro i mem
      have := (matched_stored _ _ _ _ _).1 mem
      omega
    · intro i mem
      have := (matched_stored _ _ _ _ _).1 mem
      omega

/-- A fragment or a password of one letter, over and over. -/
def repeated (n : Nat) (positive : n ≠ 0) (short : n ≤ 256) : IceString where
  bytes := List.replicate n 0x61
  nonempty := by simpa using positive
  chars := by
    rw [List.all_replicate]
    simp [positive]
    decide
  short := by simpa using short

/-- Two fragments of 64 letters, a quarter of what is allowed: the last octet of each user
name comes behind the buffer. -/
theorem createCheckList_overruns :
    ¬ ∀ i ∈ (matched (fun _ => 0) (repeated 64 (by decide) (by decide))
        (repeated 24 (by decide) (by decide)) (repeated 64 (by decide) (by decide))
        (repeated 24 (by decide) (by decide))).2.stored, i < usernameSize := by
  intro inside
  have last := inside 128 ((matched_stored _ _ _ _ _).2 (by simp [repeated]))
  exact absurd last (by decide)

end IceCred

end Pjsip.Pjnath.Ice
