import Pjsip.SipSimple.Evsub.Lasting

/-!
# The calls of a subscription

Each function of a subscription keeps the invariant, if the scripts do that it runs.
-/

namespace Pjsip.SipSimple

open Pjsip.Base Pjsip.Pjlib Pjsip.Sip

namespace Evsub

variable {P : Prop} {s : Evsub} {stateCb sending appCb : Script}

theorem tellState_leads (safe : Safe stateCb) : Leads P s (s.tellState stateCb) := by
  unfold tellState
  split
  · exact safe.leads
  · exact refl_leads

theorem setState_leads (safe : Safe stateCb) {state : EvsubState} :
    Leads (s.state = .terminated → state = .terminated) s (s.setState state stateCb) := by
  unfold setState
  split
  · next enters => exact terminated_bracket enters.2 (tellState_leads safe)
  · next stays =>
    refine (write_leads.weaken fun lasts => ⟨lasts, fun terminated => ?_⟩).trans
      (tellState_leads safe)
    by_contra open_
    exact stays ⟨terminated, open_⟩

theorem setState_terminated_leads (safe : Safe stateCb) :
    Leads P s (s.setState .terminated stateCb) :=
  (setState_leads safe).weaken fun _ _ => rfl

theorem terminate_leads (safe : Safe stateCb) {notify : Bool} :
    Leads P s (s.terminate notify stateCb) := by
  have first : Leads P s { s with callCb := notify } := same_leads rfl
  exact first.trans (setState_terminated_leads safe)

theorem initiate_leads {method : Option Method} {expires : Nat} {created : Bool} :
    Leads P s (s.initiate method expires created) := by
  apply same_leads
  unfold initiate
  grind [core]

theorem notify_leads {state : EvsubState} {created : Bool} :
    Leads P s (s.notify state created) := by
  apply same_leads
  unfold notify
  grind [core]

theorem sendRequest_leads (safe : Safe sending) (safe' : Safe stateCb) {method : Method}
    {sent : Bool} : Leads P s (s.sendRequest method sent sending stateCb) := by
  dsimp only [sendRequest]
  split
  · exact same_leads rfl
  · refine safe.leads.trans ?_
    split
    · exact refl_leads
    · split
      · split
        · exact refl_leads
        · have applied : Leads True (sending s) _ :=
            tell_then (.notifySent (sending s).state (sending s).dstState) trivial rfl (fun _ asks => asks)
              (setState_leads (s := (sending s).tell _) safe')
          exact applied.trans (same_leads rfl)
      · exact refl_leads

theorem accept_leads (safe : Safe sending) {tsx stCode : Nat} {created sent : Bool} :
    Leads P s (s.accept tsx stCode created sent sending) := by
  dsimp only [accept]
  split
  · exact refl_leads
  · split
    · exact refl_leads
    · split
      · exact refl_leads
      · split
        · exact refl_leads
        · refine safe.leads.trans ?_
          split
          · exact refl_leads
          · split
            · next open_ => exact setTimer_open open_
            · exact refl_leads

theorem uasSetTimeout_leads {seconds : Nat} : Leads P s (s.uasSetTimeout seconds) :=
  tell_then (.timeoutSet s.state seconds) trivial rfl (fun _ asks => asks) setTimer_leads

section Client

variable {tsx : Nat} {t : EvTsx} {info : EvInfo}

theorem authenticate_leads (safe : Safe sending) (safe' : Safe stateCb) :
    Leads P s (s.authenticate info sending stateCb) := by
  dsimp only [authenticate]
  have tried : Leads P s (if info.created then sending s else s) := by
    split
    · exact safe.leads
    · exact refl_leads
  generalize (if info.created then sending s else s) = s₁ at tried ⊢
  refine tried.trans ?_
  split
  · exact refl_leads
  · exact setState_terminated_leads safe'

theorem onSubscribed_leads (safe : Safe stateCb) : Leads P s (s.onSubscribed info stateCb) := by
  dsimp only [onSubscribed]
  have updated : Leads P s
      (if s.expires ≠ 0 then { s with expires := info.expires.getD s.expires } else s) := by
    split
    · exact same_leads rfl
    · exact refl_leads
  generalize (if s.expires ≠ 0 then { s with expires := info.expires.getD s.expires } else s) = s₁
    at updated ⊢
  refine updated.trans ?_
  generalize (if s₁.expires ≠ 0 then earlyRefreshTime s₁.expires info.rand else timeUacTerminate)
    = seconds
  generalize (if (s₁.tell _).expires ≠ 0 then TimerType.uacRefresh else .uacTerminate) = id
  have armed : Leads True s₁ ((s₁.tell (.subscribed s₁.state seconds)).setTimer id seconds) :=
    tell_then (.subscribed s₁.state seconds) trivial rfl (fun _ asks => asks) setTimer_leads
  refine armed.trans ?_
  split
  · next sent => exact (setState_leads safe).weaken fun _ terminated => nomatch sent ▸ terminated
  · exact refl_leads

theorem onSubscribeTsx_leads (safe : Safe sending) (safe' : Safe stateCb) :
    Leads P s (s.onSubscribeTsx tsx t info sending stateCb) := by
  dsimp only [onSubscribeTsx]
  split
  · next first =>
    exact (setState_leads safe').weaken fun _ terminated => nomatch first.1 ▸ terminated
  · split
    · exact refl_leads
    · split
      · exact refl_leads
      · have cleared : Leads P s { s with pendingSub := none } := same_leads rfl
        refine cleared.trans ?_
        split
        · split
          · exact refl_leads
          · exact authenticate_leads safe safe'
        · split
          · split
            · exact refl_leads
            · exact onSubscribed_leads safe'
          · split
            · exact refl_leads
            · split
              · exact refl_leads
              · exact setState_terminated_leads safe'

theorem respond_leads (safe : Safe sending) : Leads P s (s.respond info sending).1 := by
  unfold respond
  split
  · exact safe.leads
  · exact refl_leads

theorem rejectNotify_leads (safe : Safe sending) (safe' : Safe stateCb) :
    Leads P s (s.rejectNotify info sending stateCb) := by
  dsimp only [rejectNotify]
  have answered : Leads P s (s.respond info sending).1 := respond_leads safe
  refine answered.trans ?_
  split
  · exact tell_then (.rejected _) trivial rfl (fun _ open_ _ => open_) setTimer_leads
  · exact setState_terminated_leads safe'

theorem acceptNotify_leads (safe : Safe sending) (safe' : Safe stateCb) {hdr : SubStateHdr} :
    Leads P s (s.acceptNotify hdr info sending stateCb) := by
  dsimp only [acceptNotify]
  have extended : Leads P s (if s.extendable hdr then
        (s.tell (.extended s.state (refreshTime hdr.expiresParam))).setTimer .uacRefresh
          (refreshTime hdr.expiresParam)
      else s) := by
    split
    · exact tell_then (.extended s.state _) trivial rfl (fun _ asks => asks) setTimer_leads
    · exact refl_leads
  generalize (if s.extendable hdr then (s.tell _).setTimer _ _ else s) = s₁ at extended ⊢
  have answered : Leads True s₁ (s₁.respond info sending).1 := respond_leads safe
  refine (extended.trans answered).trans ?_
  split
  · exact tell_then (.notified _ hdr.state) trivial rfl (fun _ asks => asks) (setState_leads safe')
  · exact setState_terminated_leads safe'

theorem onNotifyTsx_leads (safe : Safe appCb) (safe' : Safe sending) (safe'' : Safe stateCb) :
    Leads P s (s.onNotifyTsx t info appCb sending stateCb) := by
  dsimp only [onNotifyTsx]
  split
  · exact refl_leads
  · split
    · exact rejectNotify_leads safe' safe''
    · next hdr there =>
      generalize (s.user.onRxNotify && s.callCb) = asked
      have told : Leads P s (if asked then appCb s else s) := by
        split
        · exact safe.leads
        · exact refl_leads
      generalize (if asked = true then appCb s else s) = s₁ at told ⊢
      refine told.trans ?_
      generalize (if asked = true then clampCode info.stCode else 200) = stCode
      split
      · exact rejectNotify_leads safe' safe''
      · exact acceptNotify_leads safe' safe''

theorem onTsxStateUac_leads (safe : Safe stateCb) (safe' : Safe appCb) (safe'' : Safe sending) :
    Leads P s (s.onTsxStateUac tsx t info stateCb appCb sending) := by
  unfold onTsxStateUac
  split
  · exact onSubscribeTsx_leads safe'' safe
  · split
    · exact onNotifyTsx_leads safe' safe'' safe
    · exact refl_leads

end Client

section Server

variable {tsx : Nat} {t : EvTsx} {info : EvInfo} {notifySending notifyCb : Script}

theorem settleRefresh_leads (safe : Safe stateCb) {stCode : Nat} {old : EvsubState} :
    Leads (old = .terminated → s.state = .terminated) s (s.settleRefresh stCode old stateCb) := by
  dsimp only [settleRefresh]
  split
  · have told : Leads (old = .terminated → s.state = .terminated) s
        (if s.state = .null then s.setState s.state stateCb else s) := by
      split
      · exact (setState_leads safe).weaken fun _ => id
      · exact refl_leads
    generalize (if s.state = .null then s.setState s.state stateCb else s) = s₁ at told ⊢
    refine told.trans ?_
    split
    · next open_ => exact setTimer_open open_
    · exact refl_leads
  · exact tell_then (.refused s.state old) trivial rfl (fun lasts asks => ⟨asks, lasts⟩) write_leads

theorem requestExpires_leads : Leads P s (s.requestExpires info) := by
  unfold requestExpires
  split
  · exact same_leads rfl
  · exact refl_leads

theorem beginRefresh_leads (safe : Safe stateCb) : Leads P s (s.beginRefresh stateCb) := by
  unfold beginRefresh
  split
  · exact setState_terminated_leads safe
  · split
    · next null =>
      exact write_leads.weaken fun _ =>
        ⟨fun terminated => (nomatch null ▸ terminated), nofun⟩
    · exact refl_leads

theorem onRefreshTsx_leads (safe : Safe stateCb) (safe' : Safe appCb) (safe'' : Safe sending)
    (safeNotify : Safe notifySending) (safeTold : Safe notifyCb) :
    Leads (s.handling ≠ []) s
      (s.onRefreshTsx t info stateCb appCb sending notifySending notifyCb) := by
  dsimp only [onRefreshTsx]
  split
  · exact refl_leads
  · have updated : Leads (s.handling ≠ []) s (s.requestExpires info) := requestExpires_leads
    generalize s.requestExpires info = s₀ at updated ⊢
    refine updated.trans' (Q := s₀.handling ≠ []) ?_ fun handled kept => kept.handling ▸ handled
    have entered : Leads True s₀.enterRefresh (s₀.enterRefresh.beginRefresh stateCb) :=
      beginRefresh_leads safe
    generalize s₀.enterRefresh.beginRefresh stateCb = s₁ at entered ⊢
    generalize (s₁.user.onRxRefresh && s₁.callCb) = asked
    have told : Leads True s₁ (if asked = true then appCb s₁ else s₁) := by
      split
      · exact safe'.leads
      · exact refl_leads
    generalize (if asked = true then appCb s₁ else s₁) = s₂ at told ⊢
    generalize (if asked = true ∧ s₂.expires ≠ 0 then info.stCode else 200) = stCode
    have answered : Leads True s₂.leaveRefresh (s₂.leaveRefresh.respond info sending).1 :=
      respond_leads safe''
    generalize (s₂.leaveRefresh.respond info sending).1 = s₃ at answered ⊢
    have bracket : Leads (s₀.handling ≠ []) s₀ s₃ :=
      (refresh_bracket (entered.trans told)).trans answered
    have settled : Leads (s₀.handling ≠ []) s₀
        (s₃.settleRefresh (clampCode stCode) s₀.state stateCb) :=
      bracket.trans' (settleRefresh_leads safe) fun _ kept => kept.state
    generalize s₃.settleRefresh (clampCode stCode) s₀.state stateCb = s₄ at settled ⊢
    split
    · have sent : Leads True s₄
          (s₄.sendRequest notifyMethod info.notifySent notifySending notifyCb) :=
        sendRequest_leads safeNotify safeTold
      exact (settled.trans sent).trans (same_leads rfl)
    · exact settled

theorem onNotifiedTsx_leads (safe : Safe sending) (safe' : Safe stateCb) :
    Leads P s (s.onNotifiedTsx t info sending stateCb) := by
  unfold onNotifiedTsx
  split
  · split
    · exact refl_leads
    · exact authenticate_leads safe safe'
  · split
    · exact refl_leads
    · split
      · exact setState_terminated_leads safe'
      · exact refl_leads

theorem onTsxStateUas_leads (safe : Safe stateCb) (safe' : Safe appCb) (safe'' : Safe sending)
    (safeNotify : Safe notifySending) (safeTold : Safe notifyCb) :
    Leads (s.handling ≠ []) s
      (s.onTsxStateUas t info stateCb appCb sending notifySending notifyCb) := by
  unfold onTsxStateUas
  split
  · exact onRefreshTsx_leads safe safe' safe'' safeNotify safeTold
  · split
    · exact onNotifiedTsx_leads safe'' safe
    · exact refl_leads

/-- The scripts keep the invariant. -/
structure Scripts.Safe (scripts : Scripts) : Prop where
  tsxCb : Evsub.Safe scripts.tsxCb
  stateCb : Evsub.Safe scripts.stateCb
  appCb : Evsub.Safe scripts.appCb
  sending : Evsub.Safe scripts.sending
  notifySending : Evsub.Safe scripts.notifySending
  notifyCb : Evsub.Safe scripts.notifyCb

theorem processTsx_leads {scripts : Scripts} (safe : scripts.Safe) :
    Leads (s.handling ≠ []) s (s.processTsx tsx info scripts) := by
  dsimp only [processTsx]
  have told : Leads (s.handling ≠ []) s
      (if s.user.onTsxState ∧ s.callCb then scripts.tsxCb s else s) := by
    split
    · exact safe.tsxCb.leads
    · exact refl_leads
  generalize (if s.user.onTsxState ∧ s.callCb then scripts.tsxCb s else s) = s₁ at told ⊢
  split
  · exact told
  · exact told.trans (onTsxStateUac_leads safe.stateCb safe.appCb safe.sending)
  · exact told.trans' (onTsxStateUas_leads safe.stateCb safe.appCb safe.sending
      safe.notifySending safe.notifyCb) fun handled kept => kept.handling ▸ handled

end Server

theorem onTimer_leads (safe : Safe appCb) (safe' : Safe sending) (safe'' : Safe stateCb)
    {request : TimerRequest} : Leads P s (s.onTimer request appCb sending stateCb) := by
  have stopped : Leads P s { s with timer := none } := same_leads rfl
  unfold onTimer
  cases s.timer with
  | none => exact refl_leads
  | some id =>
    refine stopped.trans ?_
    generalize ({ s with timer := none } : Evsub) = s₁
    cases id with
    | uacRefresh =>
      dsimp only
      split
      · exact safe.leads
      · split
        · exact initiate_leads.trans (sendRequest_leads safe' safe'')
        · exact initiate_leads
    | uasTimeout =>
      dsimp only
      split
      · exact safe.leads
      · split
        · exact notify_leads.trans (sendRequest_leads safe' safe'')
        · exact notify_leads
    | uacTerminate => exact setState_terminated_leads safe''
    | uacWaitNotify =>
      dsimp only
      split
      · exact initiate_leads.trans (sendRequest_leads safe' safe'')
      · exact initiate_leads

end Evsub

end Pjsip.SipSimple
