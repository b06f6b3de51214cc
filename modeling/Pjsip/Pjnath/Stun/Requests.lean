import Pjsip.Pjnath.Stun.Pending

/-!
# The end of a transaction

A transaction that comes to its end calls back once. What is done then depends on the
challenge in the response: the user is told, a retry is sent in its place, or the response
is dropped, and with it the request.
-/

namespace Pjsip.Pjnath.Stun

open Pjsip.Base

variable {env : StunEnv}

/-! ## The type of a message that is sent -/

variable {msg with_ : StunMsg}

theorem addAttr_hdr {attr : Attr} (added : msg.addAttr attr = .ok with_) : with_.hdr = msg.hdr := by
  unfold StunMsg.addAttr at added
  split at added
  · cases added
    rfl
  · cases added

theorem addWanted_hdr {wanted : Bool} {attr : Attr}
    (added : addWanted wanted attr msg = .ok with_) : with_.hdr = msg.hdr := by
  unfold addWanted at added
  split at added
  · exact addAttr_hdr added
  · cases added
    rfl

variable {sess : StunSession}

theorem applyMsgOptions_hdr {authInfo : Option ReqCredInfo}
    (applied : applyMsgOptions sess authInfo msg = .ok with_) :
    with_.hdr = msg.hdr := by
  obtain ⟨_, username, applied⟩ := except_bind_ok.1 applied
  obtain ⟨_, realm, applied⟩ := except_bind_ok.1 applied
  obtain ⟨_, nonce, applied⟩ := except_bind_ok.1 applied
  obtain ⟨_, msgint, fingerprint⟩ := except_bind_ok.1 applied
  rw [addWanted_hdr fingerprint, addWanted_hdr msgint, addWanted_hdr nonce, addWanted_hdr realm,
    addWanted_hdr username]
  split
  · cases added : msg.addAttr (stringAttr attrSoftware sess.srvName attrKind_software) with
    | error status => rfl
    | ok named => exact addAttr_hdr added
  · rfl

theorem encodeMsg_type {packet : StunMsg} {key : List UInt8}
    (printed : encodeMsg env msg key = .ok packet) : packet.hdr.type = msg.hdr.type := by
  unfold encodeMsg at printed
  split at printed
  · next done =>
    cases printed
    obtain ⟨-, ⟨p⟩⟩ := pjStunMsgEncode_printout done
    rw [p.kept]
    rfl
  · cases printed

variable {tdata entry : TxData}

theorem packed_type {packet : StunMsg}
    (done : packed env sess tdata = .ok packet) : packet.hdr.type = tdata.msg.hdr.type := by
  obtain ⟨msg, applied, printed⟩ := except_bind_ok.1 done
  rw [encodeMsg_type printed, applyMsgOptions_hdr applied]

/-! ## Sending -/

variable {sent : SendResult}

theorem start_success {retransmit : Bool} {tsx : ClientTsx}
    (started : ClientTsx.start retransmit sent = (tsx, .success)) :
    tsx.waits = true ∧ tsx.Sound := by
  have timed : ∀ tsx : ClientTsx, tsx.complete = false → tsx.isDestroying = false →
      tsx.retransmitTimer = true → tsx.notifies = true → tsx.destroyTimer = false →
      (tsx.requireRetransmit = true ∨ maxTransmitCount ≤ tsx.transmitCount) →
      tsx.waits = true ∧ tsx.Sound := by
    intro tsx incomplete stays timer notifies undoomed retransmits
    refine ⟨by rw [ClientTsx.waits, incomplete, stays]; rfl,
      ⟨fun _ => notifies, fun gone => ?_, retransmits, fun doomed => ?_⟩, fun _ => timer⟩
    · rw [stays] at gone
      cases gone
    · rw [undoomed] at doomed
      cases doomed
  cases sent with
  | failed status => cases retransmit <;> cases started
  | success | pending | busy =>
    cases retransmit <;> cases started
    · exact timed _ rfl rfl rfl rfl rfl (by decide)
    · exact timed _ rfl rfl rfl rfl rfl (by decide)

theorem sendMsg_cases (env : StunEnv) (sess : StunSession) (cacheRes : Bool) (tdata : TxData)
    (sent : SendResult) :
    (∃ msg tsx, sendMsg env sess cacheRes tdata sent
        = (sess.tsxAdd { tdata with msg } tsx, [.sent msg], .success)
      ∧ sess.isDestroying = false ∧ isRequest tdata.msg.hdr.type = true
      ∧ isRequest msg.hdr.type = true ∧ tsx.waits = true ∧ tsx.Sound)
    ∨ ((sendMsg env sess cacheRes tdata sent).1.pending = sess.pending
      ∧ (sendMsg env sess cacheRes tdata sent).1.isDestroying = sess.isDestroying
      ∧ sess.next ≤ (sendMsg env sess cacheRes tdata sent).1.next
      ∧ Idle (sendMsg env sess cacheRes tdata sent).2.1
      ∧ ((sendMsg env sess cacheRes tdata sent).2.2 = .success →
        isRequest tdata.msg.hdr.type = false)) := by
  unfold sendMsg
  split
  · exact .inr ⟨rfl, rfl, Nat.le_refl _, .nil, fun fails => by cases fails⟩
  · next alive =>
    split
    · exact .inr ⟨rfl, rfl, Nat.le_refl _, .nil, fun fails => by cases fails⟩
    · next msg done =>
      have type := packed_type done
      split
      · next request =>
        split
        · next tsx started =>
          obtain ⟨waits, sound⟩ := start_success started
          exact .inl ⟨msg, tsx, rfl, by simpa using alive, type ▸ request, request, waits, sound⟩
        · next status other started =>
          exact .inr ⟨rfl, rfl, Nat.le_refl _, .sent msg, fun fails => absurd fails (other ·)⟩
      · next other =>
        rw [type] at other
        have response := eq_false_of_ne_true other
        split
        · split
          · exact .inr ⟨rfl, rfl, Nat.le_succ _, .sent msg, fun _ => response⟩
          · exact .inr ⟨rfl, rfl, Nat.le_refl _, .sent msg, fun _ => response⟩
        · exact .inr ⟨rfl, rfl, Nat.le_refl _, .sent msg, fun _ => response⟩

/-! ## Challenges -/

theorem authChallenge_sess (env : StunEnv) (sess : StunSession) (request : TxData)
    (response : Option StunMsg) (tsxId : Octets 12) : ∃ authRetry nextNonce serverRealm,
    (authChallenge env sess request response tsxId).1
      = { sess with authRetry, nextNonce, serverRealm } := by
  unfold authChallenge
  repeat' split
  all_goals exact ⟨_, _, _, rfl⟩

variable {tsxId : Octets 12}

theorem createReq_made {method : UInt16} {magic : UInt32} {request : Nat}
    (made : createReq env sess method magic tsxId request = .ok tdata) :
    tdata.request = request ∧ tdata.msg.hdr.type = method := by
  unfold createReq at made
  have obtained : ∀ {r : Except StunStatus ReqCredInfo} {f : ReqCredInfo → TxData},
      r.map f = .ok tdata → ∃ info, tdata = f info := by
    intro r f mapped
    cases r with
    | error status => cases mapped
    | ok info =>
      cases mapped
      exact ⟨info, rfl⟩
  split at made
  · cases made
  · dsimp only at made
    split at made
    · cases made
      exact ⟨rfl, rfl⟩
    · obtain ⟨info, rfl⟩ := obtained made
      exact ⟨rfl, rfl⟩
    · split at made
      · cases made
        exact ⟨rfl, rfl⟩
      · obtain ⟨info, rfl⟩ := obtained made
        exact ⟨rfl, rfl⟩

variable {response : Option StunMsg}

theorem authChallenge_retry {after : StunSession} {request again : TxData}
    (retries : authChallenge env sess request response tsxId = (after, .retry again)) :
    again.request = request.request ∧ again.msg.hdr.type = request.msg.hdr.type := by
  unfold authChallenge at retries
  repeat' split at retries
  all_goals try cases retries
  next made =>
    obtain ⟨same, type⟩ := createReq_made made
    exact ⟨same, type⟩

theorem authChallenge_pending (sess : StunSession) (entries : List TxData) (request : TxData)
    (response : Option StunMsg) (tsxId : Octets 12) :
    authChallenge env { sess with pending := entries } request response tsxId
      = ({ (authChallenge env sess request response tsxId).1 with pending := entries },
        (authChallenge env sess request response tsxId).2) := by
  cases response with
  | none => rfl
  | some response =>
    have made : ∀ nonce method magic,
        createReq env ({ sess with pending := entries }.challenged response nonce) method magic
          tsxId request.request
        = createReq env (sess.challenged response nonce) method magic tsxId request.request :=
      fun _ _ _ => rfl
    simp only [authChallenge, made]
    repeat' split
    all_goals rfl

/-- A response that a waiting transaction can take: it is final, an error has the attributes that
are called for, and if it is answered by a retry, this can be sent. -/
structure StunSession.Takes (env : StunEnv) (sess : StunSession) (tdata : TxData) (msg : StunMsg)
    (tsxId : Octets 12) (sent : SendResult) : Prop where
  final : ∀ code, msg.errCode = some code → 200 < code
  coded : sess.authType = .longTerm → isErrorResponse msg.hdr.type = true → msg.errCode ≠ none
  challenged : sess.authType = .longTerm → isErrorResponse msg.hdr.type = true →
    msg.errCode = some 401 ∨ msg.errCode = some 438 → msg.findText attrNonce ≠ none
  retried : ∀ after again, authChallenge env sess tdata (some msg) tsxId = (after, .retry again) →
    (packed env after again).toOption ≠ none ∧ ∀ status, sent ≠ .failed status

theorem StunSession.Takes.pending (takes : sess.Takes env tdata msg tsxId sent)
    (entries : List TxData) :
    { sess with pending := entries }.Takes env tdata msg tsxId sent where
  final := takes.final
  coded := takes.coded
  challenged := takes.challenged
  retried := by
    intro after again retries
    rw [authChallenge_pending] at retries
    obtain ⟨rfl, next⟩ := Prod.mk.inj retries
    exact takes.retried (authChallenge env sess tdata (some msg) tsxId).1 again (Prod.ext rfl next)

theorem StunSession.Takes.answered (takes : sess.Takes env tdata msg tsxId sent) :
    (authChallenge env sess tdata (some msg) tsxId).2 ≠ .nothing := by
  unfold authChallenge
  dsimp only
  split
  · exact nofun
  · next longTerm =>
    have long : sess.authType = .longTerm := Decidable.not_not.1 longTerm
    split
    · exact nofun
    · next failed =>
      have error : isErrorResponse msg.hdr.type = true := by simpa using failed
      split
      · next missing => exact absurd missing (takes.coded long error)
      · next code coded =>
        split
        · next challenge =>
          have asks : msg.errCode = some 401 ∨ msg.errCode = some 438 := by
            rw [coded]
            exact challenge.imp (congrArg some) (congrArg some)
          split
          · next missing => exact absurd missing (takes.challenged long error asks)
          · repeat' split
            all_goals exact nofun
        · exact nofun

theorem sendMsg_taken
    (alive : sess.isDestroying = false) (prints : (packed env sess tdata).toOption ≠ none)
    (goes : ∀ status, sent ≠ .failed status) (request : isRequest tdata.msg.hdr.type = true) :
    (sendMsg env sess true tdata sent).2.2 = .success := by
  have starts : (ClientTsx.start tdata.retransmit sent).2 = .success := by
    cases sent with
    | failed status => exact absurd rfl (goes status)
    | success | pending | busy => cases tdata.retransmit <;> rfl
  unfold sendMsg
  rw [alive]
  cases done : packed env sess tdata with
  | error status =>
    rw [done] at prints
    exact absurd rfl prints
  | ok msg =>
    rw [← packed_type done] at request
    simp only [Bool.false_eq_true, if_false, request, if_true]
    generalize ClientTsx.start tdata.retransmit sent = started at starts
    obtain ⟨tsx, status⟩ := started
    cases starts
    rfl

theorem handleAuthChallenge_cases {request : TxData}
    (alive : sess.isDestroying = false) (isReq : isRequest request.msg.hdr.type = true)
    (takes : ∀ msg, response = some msg → sess.Takes env request msg tsxId sent) :
    (∃ after, handleAuthChallenge env sess request response tsxId sent = (after, [], true)
      ∧ after.pending = sess.pending ∧ after.next = sess.next)
    ∨ ∃ (after : StunSession) (again : TxData) (tsx : ClientTsx) (msg : StunMsg),
      handleAuthChallenge env sess request response tsxId sent
        = (after.tsxAdd again tsx, [.sent msg], false)
      ∧ after.pending = sess.pending ∧ after.next = sess.next
      ∧ again.request = request.request ∧ isRequest again.msg.hdr.type = true
      ∧ tsx.waits = true ∧ tsx.Sound := by
  have same : (authChallenge env sess request response tsxId).1.pending = sess.pending
      ∧ (authChallenge env sess request response tsxId).1.next = sess.next
      ∧ (authChallenge env sess request response tsxId).1.isDestroying = sess.isDestroying := by
    obtain ⟨_, _, _, changed⟩ := authChallenge_sess env sess request response tsxId
    rw [changed]
    exact ⟨rfl, rfl, rfl⟩
  unfold handleAuthChallenge
  cases done : authChallenge env sess request response tsxId with
  | mk after next =>
    rw [done] at same
    obtain ⟨pending, order, stays⟩ := same
    cases next with
    | notifyUser => exact .inl ⟨after, rfl, pending, order⟩
    | nothing =>
      cases response with
      | none => exact absurd (congrArg Prod.snd done) nofun
      | some msg => exact absurd (congrArg Prod.snd done) (takes msg rfl).answered
    | retry again =>
      obtain ⟨sameRequest, type⟩ := authChallenge_retry done
      have isReqAgain : isRequest again.msg.hdr.type = true := type ▸ isReq
      cases response with
      | none => exact absurd (congrArg Prod.snd done) nofun
      | some msg =>
        obtain ⟨prints, goes⟩ := (takes msg rfl).retried after again done
        have taken := sendMsg_taken (stays.trans alive) prints goes isReqAgain
        rcases sendMsg_cases env after true again sent with
          ⟨packet, tsx, sentMsg, -, -, isReqPacket, waits, sound⟩ | ⟨-, -, -, -, other⟩
        · refine .inr ⟨after, { again with msg := packet }, tsx, packet, ?_, pending, order,
            sameRequest, isReqPacket, waits, sound⟩
          simp only [sentMsg]
        · rw [other taken] at isReqAgain
          cases isReqAgain

/-! ## Completion -/

/-- What is left of the entry at an address when its transaction is complete: nothing, or itself
until it is destroyed. -/
structure Spent (next handle : Nat) (left : List TxData) : Prop where
  handles : ∀ old ∈ left, old.handle = handle
  distinct : (left.map (·.handle)).Nodup
  sound : ∀ old ∈ left, old.Sound next
  idle : ∀ request, waiting request left = 0

theorem Spent.single {next handle : Nat} {old : TxData} {tsx : ClientTsx}
    (same : old.handle = handle) (sound : old.Sound next)
    (here : old.clientTsx = some tsx) (idle : tsx.waits = false) : Spent next handle [old] where
  handles := fun other mem => by rwa [List.mem_singleton.1 mem]
  distinct := by simp
  sound := fun other mem => by rwa [List.mem_singleton.1 mem]
  idle := fun request => by
    rw [waiting, List.countP_singleton, TxData.waitsFor_eq here, idle, Bool.and_false]
    rfl

theorem Spent.nothing (next handle : Nat) : Spent next handle [] where
  handles := List.forall_mem_nil _
  distinct := List.nodup_nil
  sound := List.forall_mem_nil _
  idle := fun _ => rfl

theorem Spent.mono {next later handle : Nat} {left : List TxData}
    (spent : Spent next handle left) (order : next ≤ later) : Spent later handle left :=
  { spent with sound := fun old mem => (spent.sound old mem).mono order }

theorem dispose_spent {rest : List TxData} (selects : sess.Selects entry rest) {next : Nat}
    (holds : entry.Holds ClientTsx.Steady next) (status : ReqStatus) :
    ∃ left, (sess.dispose entry.handle status).pending.Perm (left ++ rest)
      ∧ Spent next entry.handle left := by
  unfold StunSession.dispose
  split
  · exact ⟨[], selects.erase, .nothing next entry.handle⟩
  · obtain ⟨tsx, here, steady⟩ := holds.tsx
    obtain ⟨-, idle⟩ := steady.scheduleDestroy
    refine ⟨[entry.modifyTsx ClientTsx.scheduleDestroy],
      (selects.modify (f := (·.modifyTsx ClientTsx.scheduleDestroy)) rfl).perm,
      Spent.single rfl ?_ ?_ idle⟩
    · exact holds.modify fun tsx _ steady => steady.scheduleDestroy.1
    · rw [TxData.modifyTsx, here, Option.map_some]

/-- Where an entry is spent, what it stood for is in the events or in the entries that are new. -/
theorem Exchange.of_spent {after : StunSession} {events : List StunEvent}
    {left new rest : List TxData} (selects : sess.Selects entry rest)
    (leaves : after.pending.Perm (left ++ (new ++ rest))) (spent : Spent after.next entry.handle left)
    (below : entry.handle < sess.next) (order : sess.next ≤ after.next)
    (sound : ∀ tdata ∈ new, tdata.Sound after.next)
    (above : ∀ tdata ∈ new, sess.next ≤ tdata.handle) (distinct : (new.map (·.handle)).Nodup)
    (untaken : ∀ request, accepted request events = 0)
    (turned : ∀ request, waiting request new + completed request events
      = waiting request [entry]) : Exchange sess after events [entry] (left ++ new) rest where
  gone_rest := selects.perm
  left_rest := by rwa [List.append_assoc]
  next := order
  handles := by
    intro tdata mem
    rcases List.mem_append.1 mem with old | fresh
    · exact .inl ⟨entry, List.mem_singleton.2 rfl, (spent.handles tdata old).symm⟩
    · exact .inr (above tdata fresh)
  distinct := by
    rw [List.map_append, List.nodup_append]
    refine ⟨spent.distinct, distinct, ?_⟩
    rintro h inLeft h' inNew rfl
    obtain ⟨old, mem, rfl⟩ := List.mem_map.1 inLeft
    obtain ⟨tdata, fresh, same⟩ := List.mem_map.1 inNew
    have low := spent.handles old mem
    have high := above tdata fresh
    omega
  sound := fun tdata mem => (List.mem_append.1 mem).elim (spent.sound tdata) (sound tdata)
  fresh := fun request => .inl (untaken request)
  spent := fun request => by
    have same := turned request
    rw [waiting_append, spent.idle, untaken]
    omega
  kept := fun request => by
    have same := turned request
    rw [waiting_append, spent.idle, untaken]
    omega

/-- A transaction that comes to its end is spent; if it has waited, the user is told or a retry
waits in its place. -/
theorem completeTsx_exchange
    {tsx utsx : ClientTsx} {rest : List TxData} (tdata : TxData) (status : ReqStatus)
    (alive : sess.isDestroying = false) (selects : sess.Selects entry rest)
    (handle : entry.handle = tdata.handle) (request : entry.request = tdata.request)
    (isReq : isRequest tdata.msg.hdr.type = true)
    (holds : entry.Holds ClientTsx.Steady sess.next) (here : entry.clientTsx = some utsx)
    (complete : utsx.complete = tsx.complete) (notifies : utsx.notifies = tsx.notifies)
    (takes : utsx.waits = true → ∀ msg, response = some msg → sess.Takes env tdata msg tsxId sent) :
    ∃ left, Exchange sess (completeTsx env sess tdata tsx status response tsxId sent).1
      (completeTsx env sess tdata tsx status response tsxId sent).2 [entry] left rest := by
  have steady : utsx.Steady := by
    obtain ⟨_, same, steady⟩ := holds.tsx
    rw [here] at same
    cases same
    exact steady
  have stands : ∀ r, waiting r [entry] = if (entry.request == r && utsx.waits) then 1 else 0 := by
    intro r
    rw [waiting, List.countP_singleton, TxData.waitsFor_eq here]
  have idleTurn : utsx.waits = false → ∀ r, waiting r [] + completed r [] = waiting r [entry] := by
    intro idle r
    rw [stands, idle, Bool.and_false]
    rfl
  unfold completeTsx
  rw [← complete, ← notifies]
  split
  · next done =>
    have idle : utsx.waits = false := by rw [ClientTsx.waits, done]; rfl
    have sound : entry.Sound sess.next :=
      { holds with tsx := ⟨utsx, here, steady.sound idle⟩ }
    exact ⟨_, Exchange.of_spent selects selects.perm (.single rfl sound here idle) holds.handle
      (Nat.le_refl _) (List.forall_mem_nil _)
      (List.forall_mem_nil _) List.nodup_nil (fun _ => rfl) (idleTurn idle)⟩
  · next open_ =>
    rw [← handle]
    -- the entry with its transaction complete
    have marks := selects.modify (f := (·.modifyTsx ({ · with complete := true }))) rfl
    have holds' : (entry.modifyTsx ({ · with complete := true })).Holds ClientTsx.Steady
        sess.next := holds.modify fun tsx _ steady => steady.completed
    have here' : (entry.modifyTsx ({ · with complete := true })).clientTsx
        = some { utsx with complete := true } := by rw [TxData.modifyTsx, here, Option.map_some]
    split
    · next calls =>
      have waits : utsx.waits = true := by
        rw [ClientTsx.waits, eq_false_of_ne_true open_]
        cases destroying : utsx.isDestroying with
        | false => rfl
        | true =>
          rw [steady.silent destroying] at calls
          cases calls
      unfold stunTsxOnComplete
      rw [if_neg (by simpa [StunSession.modifyPending] using alive)]
      have takes' : ∀ msg, response = some msg →
          (sess.modifyPending entry.handle (·.modifyTsx ({ · with complete := true }))).Takes env
            tdata msg tsxId sent := fun msg given => (takes waits msg given).pending _
      rcases handleAuthChallenge_cases (by exact alive) isReq takes' with
        ⟨after, told, pending, order⟩ | ⟨after, again, tsx', msg, told, pending, order, sameRequest,
          isReqAgain, waitsAgain, soundAgain⟩
      · -- the user is told
        rw [told]
        obtain ⟨left, leaves, spent⟩ := dispose_spent (marks.congr pending) holds' status
        have next : (after.dispose tdata.handle status).next = sess.next :=
          (dispose_next after tdata.handle status).trans order
        refine ⟨left ++ [], Exchange.of_spent selects (handle ▸ leaves) ?_ holds.handle
          (Nat.le_of_eq next.symm) (List.forall_mem_nil _)
          (List.forall_mem_nil _) List.nodup_nil (fun _ => rfl) fun r => ?_⟩
        · show Spent (after.dispose tdata.handle status).next entry.handle left
          rw [next]
          exact spent
        · rw [stands, waits, request, Bool.and_true]
          show 0 + completed r [.requestComplete tdata.request tdata.token status] = _
          rw [completed, List.countP_singleton, Nat.zero_add]
      · -- a retry waits in its place
        rw [told]
        have order' : after.next = sess.next := order
        have below : entry.handle < after.next := order' ▸ holds.handle
        obtain ⟨left, leaves, spent⟩ :=
          dispose_spent ((marks.congr pending).add below again tsx') holds' status
        have next : ((after.tsxAdd again tsx').dispose tdata.handle status).next
            = sess.next + 1 := by
          rw [dispose_next]
          exact congrArg (· + 1) order'
        refine ⟨left ++ [{ again with handle := after.next, clientTsx := some tsx' }],
          Exchange.of_spent selects (handle ▸ leaves) ?_ holds.handle
          (Nat.le_trans (Nat.le_succ _) (Nat.le_of_eq next.symm)) ?_ ?_ (by simp)
          (fun _ => rfl) fun r => ?_⟩
        · show Spent ((after.tsxAdd again tsx').dispose tdata.handle status).next entry.handle left
          rw [next]
          exact spent.mono (Nat.le_succ _)
        · intro new mem
          rw [List.mem_singleton.1 mem]
          show TxData.Sound ((after.tsxAdd again tsx').dispose tdata.handle status).next _
          rw [next]
          refine ⟨?_, ?_, isReqAgain, tsx', rfl, soundAgain⟩
          · show after.next < sess.next + 1
            omega
          · show again.request < sess.next + 1
            rw [sameRequest, ← request]
            exact Nat.lt_succ_of_lt holds.request
        · intro new mem
          rw [List.mem_singleton.1 mem]
          exact Nat.le_of_eq order'.symm
        · rw [stands, waits, request, Bool.and_true, waiting, List.countP_singleton,
            TxData.waitsFor_eq rfl, waitsAgain, Bool.and_true, sameRequest]
          rfl
    · next calls =>
      have idle : utsx.waits = false := by
        cases waits : utsx.waits with
        | false => rfl
        | true => exact absurd (steady.calls waits) calls
      have idle' : ClientTsx.waits { utsx with complete := true } = false := rfl
      have sound : (entry.modifyTsx ({ · with complete := true })).Sound sess.next :=
        { holds' with tsx := ⟨_, here', steady.completed.sound idle'⟩ }
      have spent : Spent sess.next entry.handle
          [entry.modifyTsx ({ · with complete := true })] := .single rfl sound here' idle'
      exact ⟨_, Exchange.of_spent selects (by exact marks.perm) spent holds.handle (Nat.le_refl _)
        (List.forall_mem_nil _) (List.forall_mem_nil _)
        List.nodup_nil (fun _ => rfl) (idleTurn idle)⟩

end Pjsip.Pjnath.Stun
