import Pjsip.Pjnath.Stun.Session

/-!
# The cache of responses (`check_cached_response`)

A response is kept so that a request that comes again is answered by it, and not by the application.
What is compared, however, is the type of the response with the type of what comes in, and a request
never has it: it is given to the application each time.
-/

namespace Pjsip.Pjnath.Stun

open Pjsip.Base

/-! ## What the cache is for -/

/-- This is a response to such a request. -/
def TxData.answers (tdata : TxData) (msg : StunMsg) : Prop :=
  tdata.msgMagic = msg.hdr.magic ∧ tdata.msgKey = msg.hdr.tsxId
    ∧ methodOf tdata.msg.hdr.type = methodOf msg.hdr.type

instance (tdata : TxData) (msg : StunMsg) : Decidable (tdata.answers msg) :=
  inferInstanceAs (Decidable (tdata.msgMagic = msg.hdr.magic ∧ tdata.msgKey = msg.hdr.tsxId
    ∧ methodOf tdata.msg.hdr.type = methodOf msg.hdr.type))

def Quiet (events : List StunEvent) : Prop := ∀ msg, StunEvent.resent msg ∉ events

/-- What the cache does for a message that comes in. -/
structure StunSession.Serves (sess : StunSession) (msg : StunMsg) (events : List StunEvent) :
    Prop where
  answered : isRequest msg.hdr.type = true → (∃ tdata ∈ sess.cached, tdata.answers msg) →
    (∃ tdata ∈ sess.cached, tdata.answers msg ∧ ∃ again, .resent again ∈ events
      ∧ again.hdr.type = tdata.msg.hdr.type ∧ again.attrs = tdata.msg.attrs)
    ∧ .rxRequest msg ∉ events
  others : isRequest msg.hdr.type = true → (∀ tdata ∈ sess.cached, ¬ tdata.answers msg) →
    Quiet events
  unasked : isRequest msg.hdr.type = false → Quiet events

/-- What the cache does in a step. -/
def Served (env : StunEnv) (sess : StunSession) : StunAct → List StunEvent → Prop
  | .rxPkt options pkt _ _, events =>
    ∀ msg parsed, pjStunMsgDecode env pkt options true = .value (msg, parsed) →
      sess.Serves msg events
  | _, events => Quiet events

/-- No request comes again while its response is kept, and no response that looks like one that
is kept, and that can be printed again. -/
def StunSession.Unrepeated (env : StunEnv) (sess : StunSession) (msg : StunMsg) : Prop :=
  (isRequest msg.hdr.type = true → ∀ tdata ∈ sess.cached, ¬ tdata.answers msg)
    ∧ (isRequest msg.hdr.type = false → ∀ tdata, sess.findCached msg = some tdata →
      (encodeMsg env tdata.msg tdata.authInfo.authKey).toOption = none)

def Unrepeated (env : StunEnv) (sess : StunSession) : StunAct → Prop
  | .rxPkt options pkt _ _ =>
    ∀ msg parsed, pjStunMsgDecode env pkt options true = .value (msg, parsed) →
      sess.Unrepeated env msg
  | _ => True

/-! ## What is in the cache -/

/-- There are responses in the cache, and none once the session is destroyed. -/
structure StunSession.CachesResponses (sess : StunSession) : Prop where
  responses : ∀ tdata ∈ sess.cached, isRequest tdata.msg.hdr.type = false
  destroyed : sess.isDestroying = true → sess.cached = []

/-- What a function may do to the cache: it sends nothing from it, and adds responses. -/
structure AddsResponses (sess after : StunSession) (events : List StunEvent) : Prop where
  quiet : Quiet events
  cached : ∀ tdata ∈ after.cached, tdata ∈ sess.cached ∨ isRequest tdata.msg.hdr.type = false
  destroyed : after.isDestroying = sess.isDestroying
    ∧ (sess.isDestroying = true → after.cached = sess.cached)

theorem Quiet.nil : Quiet [] := fun _ => List.not_mem_nil

variable {events : List StunEvent}

theorem Quiet.append {more : List StunEvent} (first : Quiet events) (second : Quiet more) :
    Quiet (events ++ more) := by
  intro msg mem
  rcases List.mem_append.1 mem with left | right
  · exact first msg left
  · exact second msg right

variable {sess after : StunSession}

theorem AddsResponses.frame
    (cached : after.cached = sess.cached) (destroying : after.isDestroying = sess.isDestroying)
    (quiet : Quiet events) : AddsResponses sess after events where
  quiet := quiet
  cached := fun _ mem => .inl (cached ▸ mem)
  destroyed := ⟨destroying, fun _ => cached⟩

theorem AddsResponses.trans {between : StunSession} {more : List StunEvent}
    (first : AddsResponses sess between events) (second : AddsResponses between after more) :
    AddsResponses sess after (events ++ more) where
  quiet := first.quiet.append second.quiet
  cached := fun tdata mem => (second.cached tdata mem).elim (first.cached tdata) .inr
  destroyed := by
    refine ⟨second.destroyed.1.trans first.destroyed.1, fun gone => ?_⟩
    rw [second.destroyed.2 (first.destroyed.1.trans gone), first.destroyed.2 gone]

theorem AddsResponses.keeps
    (adds : AddsResponses sess after events) (holds : sess.CachesResponses) :
    after.CachesResponses where
  responses := fun tdata mem => (adds.cached tdata mem).elim (holds.responses tdata) id
  destroyed := fun gone => by
    have before : sess.isDestroying = true := adds.destroyed.1.symm.trans gone
    rw [adds.destroyed.2 before, holds.destroyed before]

theorem not_request_of_response {msgType : UInt16}
    (response : (isSuccessResponse msgType || isErrorResponse msgType) = true) :
    isRequest msgType = false := by
  simp only [isSuccessResponse, isErrorResponse, isRequest, Bool.or_eq_true, beq_iff_eq] at *
  rcases response with success | error
  · rw [success]
    decide
  · rw [error]
    decide

/-! ## The functions, one after the other -/

section Functions

variable (env : StunEnv)

theorem sendMsg_adds (sess : StunSession) (cacheRes : Bool) (tdata : TxData) (sent : SendResult) :
    AddsResponses sess (sendMsg env sess cacheRes tdata sent).1
      (sendMsg env sess cacheRes tdata sent).2.1 := by
  have idle : ∀ msg, Quiet [StunEvent.sent msg] := by
    intro msg again mem
    simp at mem
  unfold sendMsg
  split
  · exact .frame rfl rfl .nil
  · next alive =>
    split
    · exact .frame rfl rfl .nil
    · next msg _ =>
      split
      · split
        · exact .frame rfl rfl (idle msg)
        · exact .frame rfl rfl (idle msg)
      · split
        · split
          · next response =>
            refine ⟨idle msg, fun t mem => ?_, rfl, fun gone => absurd gone alive⟩
            rcases List.mem_append.1 mem with old | new
            · exact .inl old
            · cases List.mem_singleton.1 new
              exact .inr (not_request_of_response (Bool.and_eq_true_iff.1 response).2)
          · exact .frame rfl rfl (idle msg)
        · exact .frame rfl rfl (idle msg)

theorem authChallenge_frame (sess : StunSession) (request : TxData) (response : Option StunMsg)
    (tsxId : Octets 12) :
    (authChallenge env sess request response tsxId).1.cached = sess.cached
      ∧ (authChallenge env sess request response tsxId).1.isDestroying = sess.isDestroying := by
  unfold authChallenge
  repeat' split
  all_goals exact ⟨rfl, rfl⟩

theorem handleAuthChallenge_adds (sess : StunSession) (request : TxData)
    (response : Option StunMsg) (tsxId : Octets 12) (sent : SendResult) :
    AddsResponses sess (handleAuthChallenge env sess request response tsxId sent).1
      (handleAuthChallenge env sess request response tsxId sent).2.1 := by
  obtain ⟨cached, destroying⟩ := authChallenge_frame env sess request response tsxId
  unfold handleAuthChallenge
  generalize authChallenge env sess request response tsxId = done at cached destroying
  obtain ⟨between, next⟩ := done
  have before : AddsResponses sess between [] := .frame cached destroying .nil
  cases next with
  | notifyUser => exact before
  | nothing => exact before
  | retry tdata => exact before.trans (sendMsg_adds env between true tdata sent)

theorem stunTsxOnComplete_adds (sess : StunSession) (tdata : TxData) (status : ReqStatus)
    (response : Option StunMsg) (tsxId : Octets 12) (sent : SendResult) :
    AddsResponses sess (stunTsxOnComplete env sess tdata status response tsxId sent).1
      (stunTsxOnComplete env sess tdata status response tsxId sent).2 := by
  unfold stunTsxOnComplete
  split
  · exact .frame rfl rfl .nil
  · have challenge := handleAuthChallenge_adds env sess tdata response tsxId sent
    generalize handleAuthChallenge env sess tdata response tsxId sent = done at challenge
    obtain ⟨between, events, notifyUser⟩ := done
    refine challenge.trans (.frame (dispose_cached _ _ _) (dispose_isDestroying _ _ _) ?_)
    · cases notifyUser
      · exact .nil
      · intro msg mem
        simp at mem

theorem completeTsx_adds (sess : StunSession) (tdata : TxData) (tsx : ClientTsx)
    (status : ReqStatus) (response : Option StunMsg) (tsxId : Octets 12) (sent : SendResult) :
    AddsResponses sess (completeTsx env sess tdata tsx status response tsxId sent).1
      (completeTsx env sess tdata tsx status response tsxId sent).2 := by
  unfold completeTsx
  split
  · exact .frame rfl rfl .nil
  · have marked : AddsResponses sess
        (sess.modifyPending tdata.handle (·.modifyTsx ({ · with complete := true }))) [] :=
      .frame rfl rfl .nil
    split
    · exact marked.trans (stunTsxOnComplete_adds env _ tdata status response tsxId sent)
    · exact marked

theorem retransmitTimerCallback_adds (sess : StunSession) (tdata : TxData) (tsx : ClientTsx)
    (sent : SendResult) :
    AddsResponses sess (retransmitTimerCallback env sess tdata tsx sent).1
      (retransmitTimerCallback env sess tdata tsx sent).2 := by
  have marked : ∀ f : ClientTsx → ClientTsx,
      AddsResponses sess (sess.modifyPending tdata.handle (·.modifyTsx f)) [] :=
    fun f => .frame rfl rfl .nil
  have again : Quiet [StunEvent.sent tdata.msg] := by
    intro msg mem
    simp at mem
  unfold retransmitTimerCallback
  simp only
  split
  · exact marked _
  · split
    · exact (marked _).trans (completeTsx_adds env _ tdata tsx .timedOut none tdata.msgKey sent)
    · split
      · exact .frame rfl rfl again
      · have sentAgain : AddsResponses sess (sess.modifyPending tdata.handle (·.modifyTsx
            fun _ => (({ tsx with retransmitTimer := false } : ClientTsx).transmit true sent).1))
            [.sent tdata.msg] := .frame rfl rfl again
        exact sentAgain.trans (completeTsx_adds env _ tdata _ _ none tdata.msgKey sent)

theorem onIncomingResponse_adds (sess : StunSession) (noAuthenticate : Bool) (pkt : List UInt8)
    (msg : StunMsg) (tsxId : Octets 12) (sent : SendResult) :
    AddsResponses sess (onIncomingResponse env sess noAuthenticate pkt msg tsxId sent).1
      (onIncomingResponse env sess noAuthenticate pkt msg tsxId sent).2 := by
  have idle : AddsResponses sess sess [] := .frame rfl rfl .nil
  unfold onIncomingResponse
  split
  · exact idle
  · next tdata _ =>
    split
    · exact idle
    · split
      · exact idle
      · next tsx _ =>
        have off : AddsResponses sess (sess.modifyPending tdata.handle
            (·.modifyTsx ({ · with retransmitTimer := false }))) [] := .frame rfl rfl .nil
        unfold clientTsxOnRxMsg
        split
        · exact off.trans (completeTsx_adds env _ tdata tsx _ _ tsxId sent)
        · split
          · exact off
          · exact off.trans (completeTsx_adds env _ tdata tsx _ _ tsxId sent)

theorem sendResponse_quiet (sess : StunSession) (response : StunMsg)
    (authInfo : Option ReqCredInfo) : Quiet (sendResponse env sess response authInfo) := by
  unfold sendResponse
  intro msg mem
  repeat' split at mem
  all_goals simp at mem

theorem onIncomingRequest_quiet (sess : StunSession) (noAuthenticate : Bool) (pkt : List UInt8)
    (msg : StunMsg) : Quiet (onIncomingRequest env sess noAuthenticate pkt msg) := by
  unfold onIncomingRequest
  simp only
  split
  · next response _ =>
    cases response with
    | none => exact .nil
    | some response => exact sendResponse_quiet env sess response _
  · split
    · intro again mem
      simp at mem
    · split
      · exact .nil
      · exact sendResponse_quiet env sess _ none

theorem sendNew_adds (sess : StunSession) (cacheRes : Bool) (tdata : TxData) (sent : SendResult) :
    AddsResponses sess (sendNew env sess cacheRes tdata sent).1
      (sendNew env sess cacheRes tdata sent).2 := by
  have adds := sendMsg_adds env sess cacheRes { tdata with request := sess.next } sent
  unfold sendNew
  split
  · next after events here =>
    rw [here] at adds
    split
    · have taken : Quiet [StunEvent.accepted sess.next] := by
        intro msg mem
        simp at mem
      exact ⟨adds.quiet.append taken, adds.cached, adds.destroyed⟩
    · exact adds
  · next after events _ _ here =>
    rw [here] at adds
    exact adds

theorem cancelReq_adds (sess : StunSession) (tdata : TxData) (notify : Option StunStatus) :
    AddsResponses sess (cancelReq sess tdata notify).1 (cancelReq sess tdata notify).2 := by
  unfold cancelReq
  split
  · exact .frame rfl rfl .nil
  · refine .frame rfl rfl fun msg mem => ?_
    cases notify <;> simp at mem

theorem retransmitReq_adds (sess : StunSession) (tdata : TxData) (tsx : ClientTsx)
    (modCount : Bool) (sent : SendResult) :
    AddsResponses sess (retransmitReq sess tdata tsx modCount sent).1
      (retransmitReq sess tdata tsx modCount sent).2 := by
  unfold retransmitReq
  split
  · exact .frame rfl rfl .nil
  · refine .frame rfl rfl fun msg mem => ?_
    simp at mem

/-! ## A message that comes in -/

variable {sess : StunSession} {msg : StunMsg}

theorem findCached_some {tdata : TxData} (found : sess.findCached msg = some tdata) :
    tdata ∈ sess.cached ∧ tdata.msg.hdr.type = msg.hdr.type := by
  have same := List.find?_some found
  simp only [Bool.and_eq_true, decide_eq_true_eq] at same
  exact ⟨List.mem_of_find?_eq_some found, same.1.2⟩

theorem StunSession.CachesResponses.not_found
    (holds : sess.CachesResponses) (request : isRequest msg.hdr.type = true) :
    sess.findCached msg = none := by
  cases found : sess.findCached msg with
  | none => rfl
  | some tdata =>
    obtain ⟨mem, type⟩ := findCached_some found
    have response := holds.responses tdata mem
    rw [type, request] at response
    cases response

theorem resend_quiet_iff (tdata : TxData) : Quiet (resend env tdata)
      ↔ (encodeMsg env tdata.msg tdata.authInfo.authKey).toOption = none := by
  unfold resend
  split
  · next failed =>
    rw [failed]
    exact iff_of_true .nil rfl
  · next msg printed =>
    rw [printed]
    refine iff_of_false (fun quiet => quiet msg ?_) (by simp [Except.toOption])
    simp

theorem onRxMsg_adds (noAuthenticate : Bool) (pkt : List UInt8)
    (tsxId : Octets 12) (sent : SendResult) (fresh : sess.findCached msg = none) :
    AddsResponses sess (onRxMsg env sess noAuthenticate pkt msg tsxId sent).1
      (onRxMsg env sess noAuthenticate pkt msg tsxId sent).2 := by
  unfold onRxMsg
  rw [fresh]
  simp only
  split
  · exact onIncomingResponse_adds env sess noAuthenticate pkt msg tsxId sent
  · split
    · exact .frame rfl rfl (onIncomingRequest_quiet env sess noAuthenticate pkt msg)
    · refine .frame rfl rfl fun again mem => ?_
      simp at mem

theorem onRxMsg_found (noAuthenticate : Bool) (pkt : List UInt8)
    (tsxId : Octets 12) (sent : SendResult) {tdata : TxData}
    (found : sess.findCached msg = some tdata) :
    onRxMsg env sess noAuthenticate pkt msg tsxId sent = (sess, resend env tdata) := by
  unfold onRxMsg
  rw [found]

/-- The cache does what it is for exactly when there is no occasion for it. -/
theorem onRxMsg_serves_iff (holds : sess.CachesResponses)
    (noAuthenticate : Bool) (pkt : List UInt8) (msg : StunMsg) (tsxId : Octets 12)
    (sent : SendResult) :
    sess.Serves msg (onRxMsg env sess noAuthenticate pkt msg tsxId sent).2
      ↔ sess.Unrepeated env msg := by
  have asked : isRequest msg.hdr.type = true →
      Quiet (onRxMsg env sess noAuthenticate pkt msg tsxId sent).2 := fun request =>
    (onRxMsg_adds env noAuthenticate pkt tsxId sent (holds.not_found request)).quiet
  constructor
  · intro serves
    constructor
    · intro request tdata mem answers
      obtain ⟨⟨_, _, _, again, resent, _⟩, _⟩ := serves.answered request ⟨tdata, mem, answers⟩
      exact absurd resent (asked request again)
    · intro other tdata found
      have quiet := serves.unasked other
      rw [onRxMsg_found env noAuthenticate pkt tsxId sent found] at quiet
      exact (resend_quiet_iff env tdata).1 quiet
  · rintro ⟨requests, responses⟩
    refine ⟨fun request => ?_, fun request _ => asked request, fun other => ?_⟩
    · rintro ⟨tdata, mem, answers⟩
      exact absurd answers (requests request tdata mem)
    · cases found : sess.findCached msg with
      | none => exact (onRxMsg_adds env noAuthenticate pkt tsxId sent found).quiet
      | some tdata =>
        rw [onRxMsg_found env noAuthenticate pkt tsxId sent found]
        exact (resend_quiet_iff env tdata).2 (responses other tdata found)

/-! ## Steps -/

theorem onRxPkt_keeps (holds : sess.CachesResponses) (options : UInt32)
    (pkt : List UInt8) (tsxId : Octets 12) (sent : SendResult) :
    (onRxPkt env sess options pkt tsxId sent).1.CachesResponses := by
  unfold onRxPkt
  split
  · exact holds
  · split
    · exact holds
    · exact holds
    · next msg _ _ =>
      cases found : sess.findCached msg with
      | none => exact (onRxMsg_adds env _ pkt tsxId sent found).keeps holds
      | some tdata =>
        rw [onRxMsg_found env _ pkt tsxId sent found]
        exact holds

theorem onRxPkt_served_iff (holds : sess.CachesResponses) (options : UInt32)
    (pkt : List UInt8) (tsxId : Octets 12) (sent : SendResult) :
    Served env sess (.rxPkt options pkt tsxId sent) (onRxPkt env sess options pkt tsxId sent).2
      ↔ Unrepeated env sess (.rxPkt options pkt tsxId sent) := by
  refine forall_congr' fun msg => forall_congr' fun parsed => forall_congr' fun decoded => ?_
  unfold onRxPkt
  split
  · next gone =>
    -- a session that is destroyed has no cache, and takes no packets
    have empty := holds.destroyed gone
    refine iff_of_true ⟨fun _ => ?_, fun _ _ => .nil, fun _ => .nil⟩ ⟨fun _ => ?_, fun _ => ?_⟩
    · rintro ⟨tdata, mem, _⟩
      simp [empty] at mem
    · simp [empty]
    · simp [StunSession.findCached, empty]
  · rw [decoded]
    exact onRxMsg_serves_iff env holds _ pkt msg tsxId sent

/-- Each step leaves responses in the cache; only a packet gives occasion to send from it. -/
theorem stunStep_served_iff {after : StunSession} {act : StunAct} {events : List StunEvent}
    (holds : sess.CachesResponses) (taken : stunStep env sess act = some (after, events)) :
    after.CachesResponses ∧ (Served env sess act events ↔ Unrepeated env sess act) := by
  have frame : ∀ {done : StunSession × List StunEvent}, done = (after, events) →
      AddsResponses sess done.1 done.2 → after.CachesResponses ∧ (Quiet events ↔ True) := by
    rintro done rfl adds
    exact ⟨adds.keeps holds, iff_of_true adds.quiet trivial⟩
  cases act with
  | sendMsg token cacheRes retransmit tdata sent =>
    exact frame (Option.some.inj taken) (sendNew_adds env sess cacheRes _ sent)
  | respond rdata info code errMsg token cache sent =>
    simp only [stunStep] at taken
    split at taken
    · exact frame (Option.some.inj taken) (.frame rfl rfl .nil)
    · exact frame (Option.some.inj taken) (sendNew_adds env sess cache _ sent)
  | rxPkt options pkt tsxId sent =>
    have done : onRxPkt env sess options pkt tsxId sent = (after, events) :=
      Option.some.inj taken
    have kept := onRxPkt_keeps env holds options pkt tsxId sent
    have served := onRxPkt_served_iff env holds options pkt tsxId sent
    rw [done] at kept served
    exact ⟨kept, served⟩
  | cancelReq handle notify =>
    obtain ⟨⟨tdata, tsx⟩, _, done⟩ := Option.map_eq_some_iff.1 taken
    exact frame done (cancelReq_adds sess tdata notify)
  | setCredential authType cred => exact frame (Option.some.inj taken) (.frame rfl rfl .nil)
  | setSoftwareName name => exact frame (Option.some.inj taken) (.frame rfl rfl .nil)
  | useFingerprint wanted => exact frame (Option.some.inj taken) (.frame rfl rfl .nil)
  | retransmitReq handle modCount sent =>
    obtain ⟨⟨tdata, tsx⟩, _, done⟩ := Option.map_eq_some_iff.1 taken
    exact frame done (retransmitReq_adds sess tdata tsx modCount sent)
  | retransmitTimer handle sent =>
    obtain ⟨⟨tdata, tsx⟩, _, done⟩ := Option.bind_eq_some_iff.1 taken
    simp only at done
    split at done
    · exact frame (Option.some.inj done) (retransmitTimerCallback_adds env sess tdata tsx sent)
    · cases done
  | destroyTimer handle =>
    obtain ⟨⟨tdata, tsx⟩, _, done⟩ := Option.bind_eq_some_iff.1 taken
    simp only at done
    split at done
    · exact frame (Option.some.inj done) (.frame rfl rfl .nil)
    · cases done
  | cacheTimeout handle =>
    simp only [stunStep] at taken
    split at taken
    · cases taken
      refine ⟨⟨fun tdata mem => ?_, fun gone => ?_⟩, iff_of_true .nil trivial⟩
      · exact holds.responses tdata (List.mem_of_mem_filter mem)
      · simp only [holds.destroyed gone, List.filter_nil]
    · cases taken
  | destroy =>
    cases taken
    refine ⟨?_, iff_of_true .nil trivial⟩
    unfold StunSession.destroy
    split
    · exact holds
    · exact ⟨List.forall_mem_nil _, fun _ => rfl⟩

/-- In a run from an empty cache, the cache serves every request that comes again, and sends for
nothing else, exactly when no request comes again while its response is kept and no response
comes that looks like one that is kept. -/
theorem stunCache_served_iff {sess after : StunSession} {tr : List (StunAct × List StunEvent)}
    (empty : sess.cached = []) (run : Run (stunStep env) sess tr after) :
    Stepwise (stunStep env) (fun sess act _ events => Served env sess act events) sess
        (tr.map Prod.fst)
      ↔ Along (stunStep env) (Unrepeated env) sess (tr.map Prod.fst) := by
  have start : sess.CachesResponses := by
    refine ⟨fun tdata mem => ?_, fun _ => empty⟩
    simp [empty] at mem
  exact run.stepwise_iff (fun s a s' o holds taken => (stunStep_served_iff env holds taken).1)
    (fun s a s' o holds taken => (stunStep_served_iff env holds taken).2) start

end Functions

/-! ## A request that comes twice -/

/-- A session without credentials whose application answers requests. -/
def openSession : StunSession where
  useFingerprint := false
  authType := .none
  cred := ⟨.static ⟨emptyText, emptyText, .plain, emptyText, emptyText⟩,
    fun _ => .error .einvalidop⟩
  srvName := emptyText
  onRxRequest := true

def bindingId : Octets 12 := .fill 12 7

/-- A Binding message of this type. -/
def binding (msgType : UInt16) : StunMsg := createMsg msgType stunMagic bindingId

/-- The session after a Binding request has been answered. -/
def answered : StunSession :=
  { openSession with
    next := 1
    cached := [{ newTxData (binding 0x0101) ⟨emptyText, emptyText, emptyText, []⟩ 0 with
      resTimer := true }] }

def bindingArrives : StunAct := .rxPkt 3 (hdrOctets (binding 0x0001).hdr 0) bindingId .success

/-- The request is given to the application, which answers it and wants the answer kept; then the
request comes again, and is given to the application again. -/
def repeatedRun : List (StunAct × List StunEvent) :=
  [(bindingArrives, [.rxRequest (binding 0x0001)]),
    (.respond (binding 0x0001) ⟨emptyText, emptyText, emptyText, []⟩ 0 none 0 true .success,
      [.sent (binding 0x0101)]),
    (bindingArrives, [.rxRequest (binding 0x0001)])]

theorem repeatedRun_run :
    Run (stunStep (.constant ⟨List.replicate 20 0, rfl⟩ 0)) openSession repeatedRun answered :=
  .cons rfl (.cons rfl (.cons rfl (.nil answered)))

theorem stunCache_served_iff_repeated : Stepwise (stunStep (.constant ⟨List.replicate 20 0, rfl⟩ 0))
        (fun sess act _ events => Served (.constant ⟨List.replicate 20 0, rfl⟩ 0) sess act events)
        openSession (repeatedRun.map Prod.fst)
      ↔ Along (stunStep (.constant ⟨List.replicate 20 0, rfl⟩ 0))
        (Unrepeated (.constant ⟨List.replicate 20 0, rfl⟩ 0)) openSession
        (repeatedRun.map Prod.fst) :=
  stunCache_served_iff _ rfl repeatedRun_run

/-- The cache does not keep the request from the application. -/
theorem stunCache_unserved :
    ¬ ∀ (env : StunEnv) (sess after : StunSession) (tr : List (StunAct × List StunEvent)),
      sess.cached = [] → Run (stunStep env) sess tr after →
      Stepwise (stunStep env) (fun sess act _ events => Served env sess act events) sess
        (tr.map Prod.fst) := by
  intro serves
  obtain ⟨s₁, o₁, first, -, s₂, o₂, second, -, s₃, o₃, third, served, -⟩ :=
    serves _ _ _ _ rfl repeatedRun_run
  cases first
  cases second
  cases third
  have again := served (binding 0x0001) 20 rfl
  refine (again.answered rfl ⟨_, List.mem_singleton.2 rfl, ?_⟩).2 ?_
  · decide
  · exact List.mem_singleton.2 rfl

end Pjsip.Pjnath.Stun
