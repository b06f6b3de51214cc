import Mathlib.Data.List.Nodup
import Pjsip.Pjnath.Stun.Cache
import Pjsip.Pjnath.Stun.Requests

/-!
# Each request completes once

While a request is neither complete nor cancelled, a transaction of it waits, with its timer
scheduled. Some responses break this: a provisional one stops the timer of the transaction
and nothing else, some errors are dropped when the transaction is complete already, and so
is the status of a retry that cannot be sent.
-/

namespace Pjsip.Pjnath.Stun

open Pjsip.Base

variable {env : StunEnv}

/-! ## Steps -/

/-- This response gets to a transaction of the request that waits for it. -/
structure StunSession.Hears (env : StunEnv) (sess : StunSession) (noAuthenticate : Bool)
    (pkt : List UInt8) (msg : StunMsg) (tdata : TxData) : Prop where
  alive : sess.isDestroying = false
  fresh : sess.findCached msg = none
  response : (isSuccessResponse msg.hdr.type || isErrorResponse msg.hdr.type) = true
  found : sess.lookup msg = some tdata
  authentic : sess.refuses env noAuthenticate pkt msg tdata = false
  waits : tdata.clientTsx.any ClientTsx.waits = true

/-- The responses that get to a waiting transaction can be taken by it, and a request is cancelled
with a call only through a transaction that waits. A message is not sent again on demand. -/
def Answerable (env : StunEnv) (sess : StunSession) : StunAct → Prop
  | .rxPkt options pkt tsxId sent =>
    ∀ msg parsed tdata, pjStunMsgDecode env pkt options true = .value (msg, parsed) →
      sess.Hears env (hasOption options 4) pkt msg tdata → sess.Takes env tdata msg tsxId sent
  | .cancelReq handle (some _) =>
    sess.isDestroying = false →
      ∀ tdata tsx, sess.tsxOf handle = some (tdata, tsx) → tsx.waits = true
  | .retransmitReq .. => False
  | _ => True

/-- The entries and the events of a step fit together. -/
def Exchanged (sess after : StunSession) (events : List StunEvent) : Prop :=
  after.isDestroying = sess.isDestroying
    ∧ ∃ gone left rest, Exchange sess after events gone left rest

theorem Exchanged.idle {sess after : StunSession} {events : List StunEvent}
    (pending : after.pending = sess.pending) (next : sess.next ≤ after.next)
    (alive : after.isDestroying = sess.isDestroying) (idle : Idle events) :
    Exchanged sess after events :=
  ⟨alive, _, _, _, .idle pending next idle⟩

theorem tsxOf_some {sess : StunSession} {handle : Nat} {tdata : TxData} {tsx : ClientTsx}
    (found : sess.tsxOf handle = some (tdata, tsx)) :
    tdata ∈ sess.pending ∧ tdata.clientTsx = some tsx := by
  obtain ⟨other, here, mapped⟩ := Option.bind_eq_some_iff.1 found
  obtain ⟨tsx', has, same⟩ := Option.map_eq_some_iff.1 mapped
  cases same
  exact ⟨List.mem_of_find?_eq_some here, has⟩

section Entry

variable {sess : StunSession} {tdata : TxData} {tsx : ClientTsx}

theorem TxData.Holds.tsx_of {kind : ClientTsx → Prop} {next : Nat} (holds : tdata.Holds kind next)
    (here : tdata.clientTsx = some tsx) : kind tsx := by
  obtain ⟨_, same, kindly⟩ := holds.tsx
  rw [here] at same
  cases same
  exact kindly

theorem completeTsx_changed (sound : sess.Sound) (alive : sess.isDestroying = false)
    (mem : tdata ∈ sess.pending) (here : tdata.clientTsx = some tsx) {tsx' arg : ClientTsx}
    (steady : tsx'.Steady) (waits : tsx'.waits = tsx.waits) (complete : tsx'.complete = arg.complete)
    (notifies : tsx'.notifies = arg.notifies) (status : ReqStatus) (response : Option StunMsg)
    (tsxId : Octets 12) (sent : SendResult)
    (takes : tsx.waits = true → ∀ msg, response = some msg → sess.Takes env tdata msg tsxId sent) :
    Exchanged sess
      (completeTsx env (sess.modifyPending tdata.handle (·.modifyTsx fun _ => tsx')) tdata arg
        status response tsxId sent).1
      (completeTsx env (sess.modifyPending tdata.handle (·.modifyTsx fun _ => tsx')) tdata arg
        status response tsxId sent).2 := by
  refine ⟨(completeTsx_adds env _ tdata arg status response tsxId sent).destroyed.1, ?_⟩
  obtain ⟨rest, selects⟩ := StunSession.Selects.of_sound sound mem
  have holds := sound.entries tdata mem
  have here' : (tdata.modifyTsx fun _ => tsx').clientTsx = some tsx' := by
    rw [TxData.modifyTsx, here, Option.map_some]
  have changes := selects.modify (f := (·.modifyTsx fun _ => tsx')) rfl
  have alive' : (sess.modifyPending tdata.handle
      (·.modifyTsx fun _ => tsx')).isDestroying = false := alive
  have takes' : tsx'.waits = true → ∀ msg, response = some msg →
      (sess.modifyPending tdata.handle (·.modifyTsx fun _ => tsx')).Takes env tdata msg tsxId
        sent := fun stands msg given => (takes (waits ▸ stands) msg given).pending _
  obtain ⟨left, exchange⟩ := completeTsx_exchange tdata status alive' changes rfl rfl
    holds.isRequest (holds.modify fun _ _ _ => steady) here' complete notifies takes'
  refine ⟨_, left, rest, exchange.retime selects rfl rfl fun request => ?_⟩
  rw [waiting, waiting, List.countP_singleton, List.countP_singleton, TxData.waitsFor_eq here',
    TxData.waitsFor_eq here, waits]
  rfl

theorem modifyTsx_const (here : tdata.clientTsx = some tsx) (f : ClientTsx → ClientTsx) :
    tdata.modifyTsx f = tdata.modifyTsx fun _ => f tsx := by
  rw [TxData.modifyTsx, TxData.modifyTsx, here, Option.map_some, Option.map_some]

theorem timerOff_exchanged (sound : sess.Sound) (mem : tdata ∈ sess.pending)
    (here : tdata.clientTsx = some tsx) (idle : tsx.waits = false) :
    Exchanged sess (sess.modifyPending tdata.handle
      (·.modifyTsx ({ · with retransmitTimer := false }))) [] := by
  obtain ⟨rest, selects⟩ := StunSession.Selects.of_sound sound mem
  have holds := sound.entries tdata mem
  have steady := (holds.tsx_of here).toSteady.timerOff
  exact ⟨rfl, _, _, rest, Exchange.modify selects holds here (steady.sound idle) rfl .nil⟩

theorem modifyPending_const (sound : sess.Sound) (mem : tdata ∈ sess.pending)
    (here : tdata.clientTsx = some tsx) (f : ClientTsx → ClientTsx) :
    sess.modifyPending tdata.handle (·.modifyTsx f)
      = sess.modifyPending tdata.handle (·.modifyTsx fun _ => f tsx) := by
  unfold StunSession.modifyPending
  congr 1
  refine List.map_congr_left fun other otherMem => ?_
  split
  · next same =>
    -- addresses are distinct, so that this is the entry
    have entry : other = tdata := List.inj_on_of_nodup_map sound.distinct otherMem mem same
    rw [entry]
    exact modifyTsx_const here f
  · rfl

theorem clientTsxOnRxMsg_exchanged (sound : sess.Sound) (alive : sess.isDestroying = false)
    (mem : tdata ∈ sess.pending) (here : tdata.clientTsx = some tsx) {msg : StunMsg}
    {tsxId : Octets 12} {sent : SendResult}
    (takes : tsx.waits = true → sess.Takes env tdata msg tsxId sent) :
    Exchanged sess (clientTsxOnRxMsg env sess tdata tsx msg tsxId sent).1
      (clientTsxOnRxMsg env sess tdata tsx msg tsxId sent).2 := by
  have steady := (sound.entries tdata mem).tsx_of here
  have ends := fun status => completeTsx_changed sound alive mem here steady.toSteady.timerOff rfl
    (show _ = tsx.complete from rfl) rfl status (some msg) tsxId sent
    (fun waits other given => Option.some.inj given ▸ takes waits)
  unfold clientTsxOnRxMsg
  rw [modifyPending_const sound mem here]
  split
  · exact ends .success
  · next code coded =>
    split
    · next provisional =>
      refine (modifyPending_const sound mem here ({ · with retransmitTimer := false }))
        ▸ timerOff_exchanged sound mem here ?_
      cases waits : tsx.waits with
      | false => rfl
      | true =>
        -- a transaction that waits gets no provisional response
        have final := (takes waits).final code coded
        omega
    · exact ends _

theorem retransmitTimerCallback_exchanged (sound : sess.Sound) (alive : sess.isDestroying = false)
    (mem : tdata ∈ sess.pending) (here : tdata.clientTsx = some tsx) (sent : SendResult) :
    Exchanged sess (retransmitTimerCallback env sess tdata tsx sent).1
      (retransmitTimerCallback env sess tdata tsx sent).2 := by
  have holds := sound.entries tdata mem
  have steady := (holds.tsx_of here).toSteady
  unfold retransmitTimerCallback
  split
  · next gone =>
    have idle : tsx.waits = false := by rw [ClientTsx.waits, gone, Bool.not_true, Bool.and_false]
    exact timerOff_exchanged sound mem here idle
  · split
    · -- the last transmission has not been answered
      rw [modifyPending_const sound mem here]
      exact completeTsx_changed sound alive mem here steady.timerOff rfl rfl rfl _ none _ _
        (fun _ _ given => by cases given)
    · next more =>
      have retransmits : tsx.requireRetransmit = true :=
        steady.retransmits.resolve_right more
      have steady' : ∀ timer, ClientTsx.Steady { tsx with
          retransmitTimer := timer, transmitCount := tsx.transmitCount + 1 } := fun timer =>
        ⟨steady.calls, steady.silent, .inl retransmits, steady.doomed⟩
      obtain ⟨rest, selects⟩ := StunSession.Selects.of_sound sound mem
      have again : ∀ after, after = { tsx with
          retransmitTimer := true, transmitCount := tsx.transmitCount + 1 } →
          Exchanged sess (sess.modifyPending tdata.handle (·.modifyTsx fun _ => after))
            [.sent tdata.msg] := by
        rintro _ rfl
        exact ⟨rfl, _, _, rest, Exchange.modify selects holds here
          ⟨steady' true, fun _ => rfl⟩ rfl (.sent tdata.msg)⟩
      cases sent with
      | failed status =>
        obtain ⟨stays, gone, left, others, exchange⟩ :=
          completeTsx_changed sound alive mem here (steady' false) rfl rfl rfl
            (.failed status) none tdata.msgKey (.failed status) (fun _ _ given => by cases given)
        exact ⟨stays, gone, left, others, exchange.after_idle (.sent tdata.msg)⟩
      | success | pending | busy =>
        refine again _ ?_
        simp [retransmits]

theorem scheduleDestroy_exchanged (sound : sess.Sound) (mem : tdata ∈ sess.pending)
    (here : tdata.clientTsx = some tsx) {events : List StunEvent}
    (untaken : ∀ request, accepted request events = 0)
    (told : ∀ request, completed request events ≤ waiting request [tdata])
    (ended : ∀ request, waiting request [tdata]
      ≤ completed request events + cancelled request events) :
    Exchanged sess (sess.scheduleDestroy tdata.handle) events := by
  obtain ⟨rest, selects⟩ := StunSession.Selects.of_sound sound mem
  have holds := sound.entries tdata mem
  obtain ⟨soundGone, idle⟩ := (holds.tsx_of here).toSteady.scheduleDestroy
  have here' : (tdata.modifyTsx ClientTsx.scheduleDestroy).clientTsx
      = some tsx.scheduleDestroy := by rw [TxData.modifyTsx, here, Option.map_some]
  have spent : Spent sess.next tdata.handle [tdata.modifyTsx ClientTsx.scheduleDestroy] := by
    refine .single rfl (holds.modify fun other stands _ => ?_) here' idle
    rw [here] at stands
    cases stands
    exact soundGone
  refine ⟨rfl, [tdata], [tdata.modifyTsx ClientTsx.scheduleDestroy], rest, selects.perm,
    (selects.modify rfl).perm, Nat.le_refl _, fun new left => ?_, spent.distinct, spent.sound,
    fun request => .inl (untaken request), fun request => ?_, fun request => ?_⟩
  · exact .inl ⟨tdata, List.mem_singleton.2 rfl, (spent.handles new left).symm⟩
  · rw [spent.idle, untaken]
    have := told request
    omega
  · rw [spent.idle, untaken]
    have := ended request
    omega

theorem cancelReq_exchanged (sound : sess.Sound) (alive : sess.isDestroying = false)
    (mem : tdata ∈ sess.pending) (here : tdata.clientTsx = some tsx) (notify : Option StunStatus)
    (waits : notify ≠ none → tsx.waits = true) :
    Exchanged sess (cancelReq sess tdata notify).1 (cancelReq sess tdata notify).2 := by
  have stands : ∀ r, waiting r [tdata] = if (tdata.request == r && tsx.waits) then 1 else 0 := by
    intro r
    rw [waiting, List.countP_singleton, TxData.waitsFor_eq here]
  unfold cancelReq
  rw [alive]
  cases notify with
  | none =>
    have ended : ∀ request, waiting request [tdata] ≤ completed request [.cancelled tdata.request]
          + cancelled request [.cancelled tdata.request] := by
      intro request
      rw [stands, completed, cancelled, List.countP_singleton, List.countP_singleton]
      cases tsx.waits with
      | false => simp
      | true =>
        rw [Bool.and_true]
        exact Nat.le_add_left _ _
    exact scheduleDestroy_exchanged sound mem here (fun _ => rfl) (fun _ => Nat.zero_le _) ended
  | some status =>
    have turned : ∀ request, completed request
        [.requestComplete tdata.request tdata.token (.failed status)]
        = waiting request [tdata] := by
      intro request
      rw [stands, waits (by simp), Bool.and_true, completed, List.countP_singleton]
    exact scheduleDestroy_exchanged sound mem here (fun _ => rfl)
      (fun request => Nat.le_of_eq (turned request))
      (fun request => Nat.le_add_right_of_le (Nat.le_of_eq (turned request).symm))

theorem destroyTimer_exchanged (sound : sess.Sound) (mem : tdata ∈ sess.pending)
    (here : tdata.clientTsx = some tsx) (due : tsx.destroyTimer = true) :
    Exchanged sess (sess.erase tdata.handle) [] := by
  obtain ⟨rest, selects⟩ := StunSession.Selects.of_sound sound mem
  have gone := ((sound.entries tdata mem).tsx_of here).doomed due
  have idle : ∀ request, waiting request [tdata] = 0 := by
    intro request
    rw [waiting, List.countP_singleton, TxData.waitsFor_eq here, ClientTsx.waits, gone,
      Bool.not_true, Bool.and_false, Bool.and_false]
    rfl
  refine ⟨rfl, [tdata], [], rest, selects.perm, selects.erase, Nat.le_refl _,
    List.forall_mem_nil _, List.nodup_nil,
    List.forall_mem_nil _, fun _ => .inl rfl, fun request => ?_,
    fun request => ?_⟩
  · exact Nat.zero_le _
  · rw [idle]
    exact Nat.zero_le _

end Entry

theorem sendResponse_idle (env : StunEnv) (sess : StunSession) (response : StunMsg)
    (authInfo : Option ReqCredInfo) : Idle (sendResponse env sess response authInfo) := by
  unfold sendResponse
  repeat' split
  · exact .nil
  · exact .nil
  · exact .sent _

theorem onIncomingRequest_idle (env : StunEnv) (sess : StunSession) (noAuthenticate : Bool)
    (pkt : List UInt8) (msg : StunMsg) :
    Idle (onIncomingRequest env sess noAuthenticate pkt msg) := by
  unfold onIncomingRequest
  dsimp only
  split
  · next response _ =>
    cases response with
    | none => exact .nil
    | some response => exact sendResponse_idle env sess response _
  · split
    · exact fun _ => ⟨rfl, rfl⟩
    · split
      · exact .nil
      · exact sendResponse_idle env sess _ none

theorem resend_idle (env : StunEnv) (tdata : TxData) : Idle (resend env tdata) := by
  unfold resend
  split
  · exact .nil
  · exact fun _ => ⟨rfl, rfl⟩

theorem sendNew_exchanged (env : StunEnv) (sess : StunSession) (cacheRes : Bool) (tdata : TxData)
    (sent : SendResult) :
    Exchanged sess (sendNew env sess cacheRes tdata sent).1
      (sendNew env sess cacheRes tdata sent).2 := by
  unfold sendNew
  rcases sendMsg_cases env sess cacheRes { tdata with request := sess.next } sent with
    ⟨msg, tsx, taken, -, isReq, isReqMsg, waits, sound⟩ | ⟨pending, alive, order, idle, other⟩
  · rw [taken]
    have asked : isRequest tdata.msg.hdr.type = true := isReq
    dsimp only
    rw [if_pos asked]
    have counts : ∀ r, waiting r [{ tdata with
        request := sess.next, msg, handle := sess.next, clientTsx := some tsx }]
        = accepted r [.sent msg, .accepted sess.next] := by
      intro r
      rw [waiting, List.countP_singleton, TxData.waitsFor_eq rfl, waits, Bool.and_true]
      show _ = List.countP _ _
      rw [List.countP_cons_of_neg (by simp), List.countP_singleton]
    refine ⟨rfl, [], [{ tdata with
        request := sess.next, msg, handle := sess.next, clientTsx := some tsx }], sess.pending,
      .refl _, .refl _, Nat.le_succ _, fun new mem => ?_, by simp, fun new mem => ?_,
      fun r => ?_, fun r => ?_, fun r => ?_⟩
    · rw [List.mem_singleton.1 mem]
      exact .inr (Nat.le_refl _)
    · rw [List.mem_singleton.1 mem]
      exact ⟨Nat.lt_succ_self _, Nat.lt_succ_self _, isReqMsg, tsx, rfl, sound⟩
    · show accepted r [.sent msg, .accepted sess.next] = 0
        ∨ accepted r [.sent msg, .accepted sess.next] = 1 ∧ sess.next ≤ r ∧ r < sess.next + 1
      rw [← counts, waiting, List.countP_singleton, TxData.waitsFor_eq rfl, waits, Bool.and_true]
      by_cases same : sess.next = r
      · exact .inr ⟨if_pos (beq_iff_eq.2 same), Nat.le_of_eq same, same ▸ Nat.lt_succ_self _⟩
      · exact .inl (if_neg (by simpa using same))
    · rw [counts]
      exact Nat.le_add_left _ _
    · rw [counts]
      show 0 + accepted r [.sent msg, .accepted sess.next] ≤ _
      omega
  · have untaken : ∀ {after : StunSession} {events : List StunEvent},
        sendMsg env sess cacheRes { tdata with request := sess.next } sent
          = (after, events, .success) → isRequest tdata.msg.hdr.type ≠ true := by
      intro after events done request
      rw [done] at other
      have response := other rfl
      rw [show isRequest tdata.msg.hdr.type = false from response] at request
      cases request
    split
    · next after events done =>
      rw [done] at pending alive order idle
      rw [if_neg (untaken done)]
      exact .idle pending order alive idle
    · next after events _ _ done =>
      rw [done] at pending alive order idle
      exact .idle pending order alive idle

theorem onRxPkt_exchanged {sess : StunSession} (sound : sess.Sound)
    (alive : sess.isDestroying = false) {options : UInt32} {pkt : List UInt8} {tsxId : Octets 12}
    {sent : SendResult} (answerable : Answerable env sess (.rxPkt options pkt tsxId sent)) :
    Exchanged sess (onRxPkt env sess options pkt tsxId sent).1
      (onRxPkt env sess options pkt tsxId sent).2 := by
  have told : ∀ events, Idle events → Exchanged sess sess events :=
    fun events idle => .idle rfl (Nat.le_refl _) rfl idle
  unfold onRxPkt
  rw [if_neg (by rw [alive]; simp)]
  split
  · exact told _ .nil
  · next e _ =>
    cases e.response with
    | none => exact told _ .nil
    | some response => exact told _ (sendResponse_idle env sess response none)
  · next msg parsed decoded =>
    unfold onRxMsg
    split
    · exact told _ (resend_idle env _)
    · next fresh =>
      split
      · next response =>
        unfold onIncomingResponse
        split
        · exact told _ .nil
        · next tdata found =>
          split
          · exact told _ .nil
          · next authentic =>
            split
            · exact told _ .nil
            · next tsx here =>
              refine clientTsxOnRxMsg_exchanged sound alive (List.mem_of_find?_eq_some found) here
                fun waits => answerable msg parsed tdata decoded
                  ⟨alive, fresh, response, found, eq_false_of_ne_true authentic, ?_⟩
              rw [here, Option.any_some, waits]
      · split
        · exact told _ (onIncomingRequest_idle env sess _ pkt msg)
        · exact told _ fun _ => ⟨rfl, rfl⟩

variable {events : List StunEvent}

theorem stunStep_exchanged {sess after : StunSession} {act : StunAct}
    (sound : sess.Sound) (before : sess.isDestroying = false) (stays : act ≠ .destroy)
    (answerable : Answerable env sess act) (taken : stunStep env sess act = some (after, events)) :
    Exchanged sess after events := by
  have done : ∀ {result : StunSession × List StunEvent}, result = (after, events) →
      Exchanged sess result.1 result.2 → Exchanged sess after events := by
    rintro _ rfl exchanged
    exact exchanged
  cases act with
  | sendMsg token cacheRes retransmit tdata sent =>
    exact done (Option.some.inj taken) (sendNew_exchanged env sess cacheRes _ sent)
  | respond rdata info code errMsg token cache sent =>
    simp only [stunStep] at taken
    split at taken
    · exact done (Option.some.inj taken) (.idle rfl (Nat.le_refl _) rfl .nil)
    · exact done (Option.some.inj taken) (sendNew_exchanged env sess cache _ sent)
  | rxPkt options pkt tsxId sent =>
    exact done (Option.some.inj taken) (onRxPkt_exchanged sound before answerable)
  | cancelReq handle notify =>
    obtain ⟨⟨tdata, tsx⟩, found, ran⟩ := Option.map_eq_some_iff.1 taken
    obtain ⟨mem, here⟩ := tsxOf_some found
    refine done ran (cancelReq_exchanged sound before mem here notify fun wanted => ?_)
    cases notify with
    | none => exact absurd rfl wanted
    | some status => exact answerable before tdata tsx found
  | setCredential authType cred =>
    exact done (Option.some.inj taken) (.idle rfl (Nat.le_refl _) rfl .nil)
  | setSoftwareName name =>
    exact done (Option.some.inj taken) (.idle rfl (Nat.le_refl _) rfl .nil)
  | useFingerprint wanted =>
    exact done (Option.some.inj taken) (.idle rfl (Nat.le_refl _) rfl .nil)
  | retransmitReq handle modCount sent => exact answerable.elim
  | retransmitTimer handle sent =>
    obtain ⟨⟨tdata, tsx⟩, found, ran⟩ := Option.bind_eq_some_iff.1 taken
    obtain ⟨mem, here⟩ := tsxOf_some found
    dsimp only at ran
    split at ran
    · exact done (Option.some.inj ran)
        (retransmitTimerCallback_exchanged sound before mem here sent)
    · cases ran
  | destroyTimer handle =>
    obtain ⟨⟨tdata, tsx⟩, found, ran⟩ := Option.bind_eq_some_iff.1 taken
    obtain ⟨mem, here⟩ := tsxOf_some found
    have same : tdata.handle = handle := by
      obtain ⟨other, entry, mapped⟩ := Option.bind_eq_some_iff.1 found
      obtain ⟨_, _, stands⟩ := Option.map_eq_some_iff.1 mapped
      cases stands
      have named := List.find?_some entry
      exact of_decide_eq_true named
    dsimp only at ran
    split at ran
    · next due =>
      rw [← same] at ran
      exact done (Option.some.inj ran) (destroyTimer_exchanged sound mem here due)
    · cases ran
  | cacheTimeout handle =>
    simp only [stunStep] at taken
    split at taken
    · exact done (Option.some.inj taken) (.idle rfl (Nat.le_refl _) rfl .nil)
    · cases taken
  | destroy => exact absurd rfl stays

/-! ## A session that is destroyed -/

theorem completeTsx_destroyed {sess : StunSession} (gone : sess.isDestroying = true)
    (tdata : TxData) (tsx : ClientTsx) (status : ReqStatus) (response : Option StunMsg)
    (tsxId : Octets 12) (sent : SendResult) :
    (completeTsx env sess tdata tsx status response tsxId sent).2 = [] := by
  unfold completeTsx
  split
  · rfl
  · dsimp only
    split
    · unfold stunTsxOnComplete
      rw [if_pos (show (sess.modifyPending _ _).isDestroying = true from gone)]
    · rfl

theorem stunStep_destroyed {sess after : StunSession} {act : StunAct}
    (gone : sess.isDestroying = true) (taken : stunStep env sess act = some (after, events)) :
    after.isDestroying = true ∧ ∀ request, completed request events = 0 := by
  have done : ∀ {result : StunSession × List StunEvent}, result = (after, events) →
      result.1.isDestroying = true ∧ (∀ request, completed request result.2 = 0) →
      after.isDestroying = true ∧ ∀ request, completed request events = 0 := by
    rintro _ rfl result
    exact result
  have nothing : sess.isDestroying = true
      ∧ ∀ request, completed request ([] : List StunEvent) = 0 := ⟨gone, fun _ => rfl⟩
  have unsent : ∀ cacheRes tdata sent, sendNew env sess cacheRes tdata sent = (sess, []) := by
    intro cacheRes tdata sent
    unfold sendNew sendMsg
    rw [if_pos gone]
  cases act with
  | sendMsg token cacheRes retransmit tdata sent =>
    exact done (Option.some.inj taken) (by rwa [unsent])
  | respond rdata info code errMsg token cache sent =>
    simp only [stunStep] at taken
    split at taken
    · exact done (Option.some.inj taken) nothing
    · exact done (Option.some.inj taken) (by rwa [unsent])
  | rxPkt options pkt tsxId sent =>
    refine done (Option.some.inj taken) ?_
    unfold onRxPkt
    rw [if_pos gone]
    exact nothing
  | cancelReq handle notify =>
    obtain ⟨⟨tdata, tsx⟩, _, ran⟩ := Option.map_eq_some_iff.1 taken
    refine done ran ?_
    unfold cancelReq
    rw [gone]
    exact nothing
  | setCredential authType cred => exact done (Option.some.inj taken) nothing
  | setSoftwareName name => exact done (Option.some.inj taken) nothing
  | useFingerprint wanted => exact done (Option.some.inj taken) nothing
  | retransmitReq handle modCount sent =>
    obtain ⟨⟨tdata, tsx⟩, _, ran⟩ := Option.map_eq_some_iff.1 taken
    refine done ran ?_
    unfold retransmitReq
    rw [gone]
    exact nothing
  | retransmitTimer handle sent =>
    obtain ⟨⟨tdata, tsx⟩, _, ran⟩ := Option.bind_eq_some_iff.1 taken
    dsimp only at ran
    split at ran
    · have stays := (retransmitTimerCallback_adds env sess tdata tsx sent).destroyed.1
      refine done (Option.some.inj ran) ⟨stays.trans gone, fun request => ?_⟩
      unfold retransmitTimerCallback
      dsimp only
      split
      · rfl
      · split
        · rw [completeTsx_destroyed (by exact gone)]
          rfl
        · split
          · rfl
          · rw [completeTsx_destroyed (by exact gone)]
            rfl
    · cases ran
  | destroyTimer handle =>
    obtain ⟨⟨tdata, tsx⟩, _, ran⟩ := Option.bind_eq_some_iff.1 taken
    dsimp only at ran
    split at ran
    · exact done (Option.some.inj ran) nothing
    · cases ran
  | cacheTimeout handle =>
    simp only [stunStep] at taken
    split at taken
    · exact done (Option.some.inj taken) nothing
    · cases taken
  | destroy =>
    refine done (Option.some.inj taken) ?_
    unfold StunSession.destroy
    rw [gone]
    exact nothing

/-! ## Runs -/

def eventsOf (tr : List (StunAct × List StunEvent)) : List StunEvent := tr.flatMap Prod.snd

/-- What holds of the session and of all that has been reported. -/
structure Reported (events : List StunEvent) (sess : StunSession) : Prop where
  once : ∀ request, completed request events ≤ 1
  sound : sess.isDestroying = false → sess.Sound
  taken : sess.isDestroying = false → ∀ request, accepted request events ≤ 1
    ∧ (sess.next ≤ request → accepted request events = 0)
  spent : sess.isDestroying = false → ∀ request,
    waiting request sess.pending + completed request events ≤ accepted request events
  kept : sess.isDestroying = false → ∀ request, accepted request events
    ≤ waiting request sess.pending + completed request events + cancelled request events

theorem Reported.exchange {more : List StunEvent} {sess after : StunSession}
    (reported : Reported events sess) (alive : sess.isDestroying = false)
    (exchanged : Exchanged sess after more) : Reported (events ++ more) after := by
  obtain ⟨_, gone, left, rest, exchange⟩ := exchanged
  have sound := reported.sound alive
  have balance : ∀ request, waiting request after.pending + completed request (events ++ more)
          ≤ accepted request (events ++ more)
      ∧ accepted request (events ++ more) ≤ waiting request after.pending
          + completed request (events ++ more) + cancelled request (events ++ more) := by
    intro request
    have spent := reported.spent alive request
    have kept := reported.kept alive request
    have spentNow := exchange.spent request
    have keptNow := exchange.kept request
    rw [exchange.waiting_before] at spent kept
    rw [exchange.waiting_after, completed_append, accepted_append, cancelled_append]
    omega
  have taken : ∀ request, accepted request (events ++ more) ≤ 1
      ∧ (after.next ≤ request → accepted request (events ++ more) = 0) := by
    intro request
    obtain ⟨once, unused⟩ := reported.taken alive request
    have order := exchange.next
    rw [accepted_append]
    rcases exchange.fresh request with unheard | ⟨one, low, high⟩
    · rw [unheard]
      exact ⟨once, fun above => unused (Nat.le_trans order above)⟩
    · -- a request that is new has not been taken before
      rw [one, unused low]
      exact ⟨Nat.le_refl _, fun above => absurd high (Nat.not_lt_of_le above)⟩
  refine ⟨fun request => ?_, fun _ => exchange.keeps_sound sound, fun _ => taken,
    fun _ request => (balance request).1, fun _ request => (balance request).2⟩
  have most := (balance request).1
  have once := (taken request).1
  omega

theorem stunStep_reported {more : List StunEvent} {sess after : StunSession}
    {act : StunAct} (reported : Reported events sess) (answerable : Answerable env sess act)
    (ran : stunStep env sess act = some (after, more)) : Reported (events ++ more) after := by
  have ended : after.isDestroying = true → (∀ request, completed request more = 0) →
      Reported (events ++ more) after := by
    intro gone silent
    refine ⟨fun request => ?_, ?_, ?_, ?_, ?_⟩
    · rw [completed_append, silent]
      exact reported.once request
    all_goals
      intro alive
      rw [gone] at alive
      cases alive
  cases before : sess.isDestroying with
  | true =>
    obtain ⟨gone, silent⟩ := stunStep_destroyed before ran
    exact ended gone silent
  | false =>
    rcases Classical.em (act = .destroy) with rfl | stays
    · cases ran
      refine ended ?_ fun _ => rfl
      unfold StunSession.destroy
      rw [before]
      rfl
    · exact reported.exchange before
        (stunStep_exchanged (reported.sound before) before stays answerable ran)

theorem Reported.start {sess : StunSession} (new : sess.pending = []) : Reported [] sess where
  once := fun _ => Nat.zero_le _
  sound := fun _ => ⟨by simp [new], by simp [new]⟩
  taken := fun _ _ => ⟨Nat.zero_le _, fun _ => rfl⟩
  spent := fun _ _ => by simp [new, waiting, completed, accepted]
  kept := fun _ _ => Nat.zero_le _

theorem Reported.run {sess after : StunSession} {tr : List (StunAct × List StunEvent)}
    (new : sess.pending = []) (run : Run (stunStep env) sess tr after)
    (answerable : Along (stunStep env) (Answerable env) sess (tr.map Prod.fst)) :
    Reported (eventsOf tr) after := by
  have keeps : ∀ tr s act s' more, Reported (eventsOf tr) s → Answerable env s act →
      stunStep env s act = some (s', more) → Reported (eventsOf (tr ++ [(act, more)])) s' := by
    intro tr s act s' more reported allowed ran
    rw [eventsOf, List.flatMap_append, List.flatMap_singleton]
    exact stunStep_reported reported allowed ran
  exact run.traced_along keeps answerable (Reported.start new)

/-- A transaction of the request is on: its timer is scheduled. -/
def StunSession.Pursues (sess : StunSession) (request : Nat) : Prop :=
  ∃ tdata ∈ sess.pending, tdata.request = request
    ∧ ∃ tsx, tdata.clientTsx = some tsx ∧ tsx.retransmitTimer = true

/-- Each request leads to at most one call, and is pursued until there is a call, it is cancelled
without one, or the session is destroyed. -/
def Answered (events : List StunEvent) (sess : StunSession) : Prop :=
  (∀ request, completed request events ≤ 1)
    ∧ ∀ request, .accepted request ∈ events → completed request events = 0 →
      .cancelled request ∉ events → sess.isDestroying = false → sess.Pursues request

theorem Reported.answered {sess : StunSession}
    (reported : Reported events sess) : Answered events sess := by
  refine ⟨reported.once, fun request taken open_ wanted alive => ?_⟩
  have kept := reported.kept alive request
  have once := accepted_pos.2 taken
  have uncancelled : cancelled request events = 0 :=
    Nat.eq_zero_of_not_pos fun pos => wanted (cancelled_pos.1 pos)
  have waits : 0 < waiting request sess.pending := by omega
  obtain ⟨tdata, mem, here⟩ := List.countP_pos_iff.1 waits
  obtain ⟨tsx, has, sound⟩ := ((reported.sound alive).entries tdata mem).tsx
  rw [TxData.waitsFor_eq has, Bool.and_eq_true, beq_iff_eq] at here
  exact ⟨tdata, mem, here.1, tsx, has, sound.armed here.2⟩

/-- In a run in which the responses that get to waiting transactions can be taken by them, each
request is answered. -/
theorem stunRequests_answered {sess after : StunSession} {tr : List (StunAct × List StunEvent)}
    (new : sess.pending = []) (run : Run (stunStep env) sess tr after)
    (answerable : Along (stunStep env) (Answerable env) sess (tr.map Prod.fst)) :
    Answered (eventsOf tr) after :=
  (Reported.run new run answerable).answered

/-! ## A provisional response -/

/-- A Binding request that is to be sent, and may be retransmitted. -/
def bindingAsked : StunAct :=
  .sendMsg 5 false true (newTxData (binding 0x0001) ⟨emptyText, emptyText, emptyText, []⟩ 0)
    .success

/-- The session after the request has been sent, with the transaction as it is then. -/
def askedSession (tsx : ClientTsx) : StunSession :=
  { openSession with
    next := 1
    pending := [{ newTxData (binding 0x0001) ⟨emptyText, emptyText, emptyText, []⟩ 0 with
      token := 5
      retransmit := true
      clientTsx := some tsx }] }

def askedTsx : ClientTsx where
  complete := false
  requireRetransmit := true
  transmitCount := 1
  retransmitTimer := true
  destroyTimer := false
  isDestroying := false
  notifies := true

/-- The request is answered. -/
def answeredRun : List (StunAct × List StunEvent) :=
  [(bindingAsked, [.sent (binding 0x0001), .accepted 0]),
    (.rxPkt 3 (hdrOctets (binding 0x0101).hdr 0) bindingId .success,
      [.requestComplete 0 5 .success])]

theorem StunSession.Takes.of_success (sess : StunSession) (tdata : TxData) (tsxId : Octets 12)
    (sent : SendResult) : sess.Takes env tdata (binding 0x0101) tsxId sent where
  final := nofun
  coded := nofun
  challenged := nofun
  retried := by
    intro after again retries
    have other := congrArg Prod.snd retries
    unfold authChallenge at other
    dsimp only at other
    split at other
    · cases other
    · rw [if_pos (by decide)] at other
      cases other

theorem stunRequests_answered_binding : Answered (eventsOf answeredRun)
    (askedSession { askedTsx with
      complete := true, isDestroying := true, destroyTimer := true, retransmitTimer := false
      notifies := false }) := by
  have run : Run (stunStep (.constant ⟨List.replicate 20 0, rfl⟩ 0)) openSession answeredRun _ :=
    .cons rfl (.cons rfl (.nil _))
  refine stunRequests_answered rfl run ⟨trivial, fun s o taken => ?_⟩
  refine ⟨fun msg parsed tdata decoded _ => ?_, fun _ _ _ => trivial⟩
  cases decoded
  exact .of_success s tdata _ _

/-- An error response with the code 100. -/
def tryingOctets : List UInt8 :=
  hdrOctets (binding 0x0111).hdr 8 ++ [0x00, 0x09, 0x00, 0x04, 0x00, 0x00, 0x01, 0x00]

/-- The request is answered by a code that is not final. -/
def strandedRun : List (StunAct × List StunEvent) :=
  [(bindingAsked, [.sent (binding 0x0001), .accepted 0]),
    (.rxPkt 3 tryingOctets bindingId .success, [])]

/-- A call to cancel a request, or to send it again. -/
def StunAct.intervenes : StunAct → Bool
  | .cancelReq .. | .retransmitReq .. => true
  | _ => false

/-- After a provisional response nothing pursues the request, and there is no call either. -/
theorem stunRequests_stranded :
    ¬ ∀ (env : StunEnv) (sess after : StunSession) (tr : List (StunAct × List StunEvent)),
      sess.pending = [] → Run (stunStep env) sess tr after →
      (∀ label ∈ tr, label.1.intervenes = false) → Answered (eventsOf tr) after := by
  intro answered
  obtain ⟨-, pursued⟩ := answered (.constant ⟨List.replicate 20 0, rfl⟩ 0) openSession
    (askedSession { askedTsx with retransmitTimer := false }) strandedRun rfl
    (.cons rfl (.cons rfl (.nil _))) (by decide)
  obtain ⟨tdata, mem, -, tsx, here, armed⟩ := pursued 0 (by decide) (by decide) (by decide) rfl
  cases List.mem_singleton.1 mem
  cases here
  cases armed

end Pjsip.Pjnath.Stun
