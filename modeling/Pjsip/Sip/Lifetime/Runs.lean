import Pjsip.Sip.Lifetime.Accounts

/-!
# The life of a dialog

Each call keeps the invariant, with the calls that are made in its callbacks, if the requests
that are sent have somewhere to go. In a run of such calls the accounts are right throughout.
-/

namespace Pjsip.Sip.Lifetime

open Pjsip.Base Pjsip.Pjlib Pjsip.Sip.Dlg

/-- A request that gets a transaction can be sent, and the caller's data leave the user agent's
place in the transaction to the dialog. -/
def Request.Sendable (cfg : UaCfg) (request : Request) (created : SipStatus) (modData : ModData) :
    Prop :=
  request.tdata.method.id ≠ .ack → tsxCreateUac cfg request created = .success →
    request.routed.Resolvable ∧ (Life.newUac cfg modData).user = .dialog

instance (cfg : UaCfg) (request : Request) (created : SipStatus) (modData : ModData) :
    Decidable (request.Sendable cfg created modData) := by
  unfold Request.Sendable
  infer_instance

mutual

/-- All requests that are sent in a call can be sent, those in its callbacks included. -/
def LifeAct.Sends (cfg : UaCfg) : LifeAct → Prop
  | .sendRequest request created modData _ usages ended =>
    request.Sendable cfg created modData ∧ allSend cfg usages ∧ allSend cfg ended
  | .sendResponse _ _ usages | .tsxState _ _ _ usages | .terminate _ _ usages =>
    allSend cfg usages
  | .rxRequest _ _ reported trying refused =>
    allSend cfg reported ∧ allSend cfg trying ∧ allSend cfg refused
  | .rxResponse _ _ _ response usages => allSend cfg response ∧ allSend cfg usages
  | .incLock | .decLock | .incSession | .decSession => True

def LifeAct.allSend (cfg : UaCfg) : List LifeAct → Prop
  | [] => True
  | act :: acts => act.Sends cfg ∧ allSend cfg acts

end

section Counts

variable {dlg dlg' : Dialog} {tdata tdata' : Dlg.TxData} {created status : SipStatus}

theorem sendRequest_error (handed : Dlg.sendRequest dlg tdata created = (dlg', .error status)) :
    dlg'.tsxCount = dlg.tsxCount := by
  unfold Dlg.sendRequest at handed
  grind

theorem sendRequest_ok (handed : Dlg.sendRequest dlg tdata created = (dlg', .ok tdata')) :
    tdata'.method = tdata.method ∧ (tdata.method.id = .ack → dlg'.tsxCount = dlg.tsxCount)
      ∧ (tdata.method.id ≠ .ack → dlg'.tsxCount = dlg.tsxCount + 1 ∧ created = .success) := by
  unfold Dlg.sendRequest at handed
  grind [exempt]

variable {uriCmp : List UInt8 → List UInt8 → Bool} {rdata : RxRequest} {claims : List Bool}

theorem refreshTarget_count (dlg : Dialog) (rdata : RxRequest) :
    (refreshTarget uriCmp dlg rdata).tsxCount = dlg.tsxCount := by
  unfold refreshTarget
  grind

theorem onRxRequest_refused
    (received : Dlg.onRxRequest uriCmp dlg rdata created claims = (dlg', .refused status)) :
    dlg'.tsxCount = dlg.tsxCount := by
  unfold Dlg.onRxRequest at received
  grind

theorem onRxRequest_reported {processed : Bool}
    (received : Dlg.onRxRequest uriCmp dlg rdata created claims = (dlg', .reported processed)) :
    (rdata.hasTsx = false ∧ rdata.method.id ≠ .ack → dlg'.tsxCount = dlg.tsxCount + 1)
      ∧ (¬ (rdata.hasTsx = false ∧ rdata.method.id ≠ .ack) → dlg'.tsxCount = dlg.tsxCount) := by
  unfold Dlg.onRxRequest at received
  grind [refreshTarget_count]

end Counts

namespace Life

section Calls

variable {cfg : UaCfg} {s s' : Life} {usages ended : Callback}

theorem Good.joined (good : s.Good) (pinned : s.Pinned) {dlg : Dialog} {t : DlgTsx}
    (user : t.user = .dialog) (counted : dlg.tsxCount = s.dlg.tsxCount + 1) :
    Good { s with dlg, tsxs := s.tsxs ++ [t] } ∧ s.Grows { s with dlg, tsxs := s.tsxs ++ [t] } := by
  have alive := pinned.alive good
  have kept : ∀ (tsx : Nat) (x : DlgTsx), s.tsxs[tsx]? = some x → (s.tsxs ++ [t])[tsx]? = some x :=
    fun tsx x here => by
      rw [List.getElem?_append_left (List.getElem?_eq_some_iff.1 here).1]
      exact here
  have grows : s.Grows { s with dlg, tsxs := s.tsxs ++ [t] } :=
    ⟨Int.le_refl _, fun tsx ⟨x, here, off⟩ => ⟨x, kept tsx x here, off⟩,
      fun tsx x here beyond => ⟨x, kept tsx x here, beyond⟩⟩
  refine ⟨{ good with
    counted := ?_
    ended := fun tsx failed => grows.ends (good.ended tsx failed)
    ending := good.ending
    gone := fun tsx counted => grows.detached tsx (good.gone tsx counted)
    idle := fun gone => ?_ }, grows⟩
  · change dlg.tsxCount = (s.tsxs ++ [t]).countP _
    rw [counted, good.counted, List.countP_append, attached]
    simp [user]
  · change s.destroyed = true at gone
    rw [alive] at gone
    cases gone

theorem Good.renamed (good : s.Good) (pinned : s.Pinned) {dlg : Dialog}
    (same : dlg.tsxCount = s.dlg.tsxCount) : Good { s with dlg } ∧ s.Grows { s with dlg } :=
  ⟨good.recount (pinned.alive good) same good.covered, .same rfl (Int.le_refl _)⟩

variable {request : Request}

theorem tsxSendMsg_keeps (safe : Safe usages)
    (resolvable : request.routed.Resolvable) {tsx : Nat} {sent : Sent} {status : SipStatus}
    (good : s.Good) {t : DlgTsx} (here : s.tsxs[tsx]? = some t) (null : t.state = .null)
    (done : s.tsxSendMsg cfg tsx request sent usages = some (s', status)) :
    s'.Good ∧ s.Grows s' ∧ (status ≠ .success → s'.Ended tsx) := by
  have routed := (processRouteSet_success_iff cfg.toDestCfg request.routed).2 resolvable
  unfold tsxSendMsg at done
  rw [routed] at done
  cases sent with
  | calling =>
    obtain ⟨_, taken, same⟩ := Option.map_eq_some_iff.1 done
    cases same
    obtain ⟨good', grows⟩ := setState_none_keeps safe tsx .calling 0 s s' good trivial taken
    exact ⟨good', grows, fun failed => absurd rfl failed⟩
  | failed error =>
    obtain ⟨_, taken, same⟩ := Option.map_eq_some_iff.1 done
    cases same
    obtain ⟨good', grows⟩ := setState_none_keeps safe tsx .terminated
      (Tsx.failureCode error) s s' good trivial taken
    have low : t.state.rank < TsxState.terminated.rank := by simp [null, TsxState.rank]
    exact ⟨good', grows, fun _ => setState_terminated_ends safe good here low taken⟩

theorem failSend_keeps (safe : Safe ended) {tsx tsxCount : Nat} (good : s.Good)
    (pinned : s.Pinned) (beyond : s.Ended tsx) (done : s.failSend tsx tsxCount ended = some s') :
    s'.Good ∧ s.Grows s' := by
  obtain ⟨s₁, taken, rfl⟩ := Option.map_eq_some_iff.1 done
  have kept : s₁.Good ∧ s.Grows s₁ := by
    split at taken
    · exact tsxTerminate_keeps safe tsx _ s s₁ good trivial taken
    · exact good.unmoved taken
  obtain ⟨good₁, grows⟩ := kept
  have pinned₁ := grows.pinned pinned
  refine ⟨good₁.telling (pinned₁.alive good₁) ?_ (fun _ _ => nofun) (fun _ _ => nofun) ?_,
    grows.trans (.same rfl (Int.le_refl _))⟩
  · intro event here
    rw [List.mem_singleton.1 here]
    exact ⟨nofun, nofun, nofun, nofun⟩
  · rintro _ ⟨⟩
    exact grows.ends beyond

theorem sendLocked_safe (safe : Safe usages) (safe' : Safe ended)
    {created : SipStatus} {modData : ModData}
    (sendable : request.Sendable cfg created modData) (sent : Sent) :
    Safe fun s => s.sendLocked cfg request created modData sent usages ended := by
  intro s s'' good pinned done
  dsimp only [sendLocked] at done
  cases handing : Dlg.sendRequest s.dlg request.tdata (tsxCreateUac cfg request created) with
  | mk dlg handed =>
  rw [handing] at done
  cases handed with
  | error status =>
    cases done
    exact good.renamed pinned (sendRequest_error handing)
  | ok tdata =>
    obtain ⟨method, acks, counts⟩ := sendRequest_ok handing
    dsimp only at done
    split at done
    · next ack =>
      cases done
      exact good.renamed pinned (acks (method ▸ ack))
    · next other =>
      obtain ⟨counted, created⟩ := counts (method ▸ other)
      obtain ⟨resolvable, user⟩ := sendable (method ▸ other) created
      obtain ⟨joined, grown⟩ := good.joined pinned user counted
      obtain ⟨⟨s', status⟩, taken, rest⟩ := Option.bind_eq_some_iff.1 done
      have here : (s.tsxs ++ [newUac cfg modData])[s.tsxs.length]? = some (newUac cfg modData) :=
        List.getElem?_concat_length
      obtain ⟨good', grows, failed⟩ :=
        tsxSendMsg_keeps safe resolvable joined here rfl taken
      have pinned' := grows.pinned (grown.pinned pinned)
      split at rest
      · next error =>
        obtain ⟨good'', grows'⟩ := failSend_keeps safe' good' pinned' (failed error) rest
        exact ⟨good'', (grown.trans grows).trans grows'⟩
      · cases rest
        exact ⟨good', grown.trans grows⟩

theorem sendRequest_keeps (safe : Safe usages) (safe' : Safe ended)
    {created : SipStatus} {modData : ModData}
    (sendable : request.Sendable cfg created modData) (sent : Sent) :
    Keeps (fun s => s.destroyed = false) fun s =>
      s.sendRequest cfg request created modData sent usages ended := by
  intro s s' good alive done
  dsimp only [sendRequest] at done
  split at done
  · exact good.unmoved done
  split at done
  · cases done
    exact ⟨(good.locked alive).1, (good.locked alive).2.1⟩
  · exact keeps_bracket (sendLocked_safe safe safe' sendable sent) s s' good alive done

theorem tsxRecvMsg_safe (safe : Safe usages) (tsx : Nat) :
    Safe fun s => s.tsxRecvMsg tsx usages := by
  intro s s' good _ done
  dsimp only [tsxRecvMsg] at done
  split at done
  · exact good.unmoved done
  · split at done
    · exact setState_none_keeps safe tsx .trying _ s s' good trivial done
    · exact good.unmoved done

theorem sendResponse_keeps (safe : Safe usages) (tsx : Nat) (answer : Option (TsxState × Nat)) :
    Keeps (fun _ => True) fun s => s.sendResponse tsx answer usages := by
  intro s s' good _ done
  dsimp only [sendResponse] at done
  split at done
  · next attached =>
    obtain ⟨t, here, user⟩ := attached_some attached
    cases answer with
    | none => exact keeps_bracket keeps_some s s' good (good.alive here user) done
    | some answer =>
      exact keeps_bracket (setState_none_keeps safe tsx answer.1 answer.2).always s s' good
        (good.alive here user) done
  · exact good.unmoved done

theorem refuse_safe (safe : Safe usages) (tsx : Nat) (reception : Reception) :
    Safe fun s => s.refuse tsx reception usages := by
  intro s s' good _ done
  dsimp only [refuse] at done
  split at done
  · exact sendResponse_keeps safe tsx reception.answer s s' good trivial done
  · exact good.unmoved done

theorem receiveLocked_safe {reported trying refused : Callback} (safe : Safe reported)
    (safe' : Safe trying) (safe'' : Safe refused) (rdata : RxRequest) (reception : Reception) :
    Safe fun s => s.receiveLocked cfg rdata reception reported trying refused := by
  intro s s' good pinned done
  dsimp only [receiveLocked] at done
  split at done
  · exact good.unmoved done
  · next dlg status received =>
    cases done
    exact good.renamed pinned (onRxRequest_refused received)
  · next dlg processed received =>
    obtain ⟨counted, same⟩ := onRxRequest_reported received
    split at done
    · next fresh =>
      obtain ⟨joined, grown⟩ := good.joined pinned (t := newUas) rfl (counted fresh)
      have answer : Safe fun now => if processed = false then
          now.refuse s.tsxs.length reception refused else some now := by
        split
        · exact refuse_safe safe'' _ reception
        · exact keeps_some
      have rest := (tsxRecvMsg_safe safe' s.tsxs.length).bind answer
      obtain ⟨good', grows⟩ := (callUsages_safe safe).bind rest _ s' joined (grown.pinned pinned)
        done
      exact ⟨good', grown.trans grows⟩
    · next known =>
      obtain ⟨good', grown⟩ := good.renamed pinned (same known)
      obtain ⟨good'', grows⟩ := callUsages_safe safe _ s' good' (grown.pinned pinned) done
      exact ⟨good'', grown.trans grows⟩

theorem onRxRequest_keeps {reported trying refused : Callback} (safe : Safe reported)
    (safe' : Safe trying) (safe'' : Safe refused) (rdata : RxRequest) (reception : Reception) :
    Keeps (fun s => s.destroyed = false) fun s =>
      s.onRxRequest cfg rdata reception reported trying refused :=
  keeps_bracket (receiveLocked_safe safe safe' safe'' rdata reception)

theorem Good.settled (good : s.Good) (alive : s.destroyed = false) {sessCount : Int} {held : Nat}
    (pinned : (held : Int) < sessCount) (surplus : s.sessCount - s.held ≤ sessCount - 1 - held) :
    (decLock { s with sessCount, held }).Good ∧ s.Grows (decLock { s with sessCount, held }) := by
  have recounted : Good { s with sessCount, held } :=
    good.recount alive rfl (Int.le_of_lt pinned)
  obtain ⟨good', tsxs, held', sess'⟩ := recounted.unlocked pinned
  refine ⟨good', .same tsxs ?_⟩
  rw [held', sess']
  exact surplus

end Calls

end Life

mutual

theorem LifeAct.exec_keeps {cfg : UaCfg} : (act : LifeAct) → act.Sends cfg →
    Keeps (fun s => s.destroyed = false ∨ act.ofTsx = true) (act.exec cfg)
  | .incLock, _ => by
      intro s s' good alive done
      have alive : s.destroyed = false := alive.resolve_right nofun
      cases done
      have covered := good.covered
      rw [Life.incLock_alive alive]
      refine ⟨good.recount alive rfl ?_, .same rfl ?_⟩
      · push_cast
        omega
      · push_cast
        omega
  | .decLock, _ => by
      intro s s' good alive done
      have alive : s.destroyed = false := alive.resolve_right nofun
      dsimp only [exec] at done
      split at done
      · cases done
      · cases done
        have covered := good.covered
        exact good.settled alive (by omega) (by omega)
  | .incSession, _ => by
      intro s s' good alive done
      have alive : s.destroyed = false := alive.resolve_right nofun
      cases done
      have covered := good.covered
      rw [Life.incSession, Life.incLock_alive (by exact alive)]
      refine good.settled alive ?_ ?_
      · push_cast
        omega
      · push_cast
        omega
  | .decSession, _ => by
      intro s s' good alive done
      have alive : s.destroyed = false := alive.resolve_right nofun
      dsimp only [exec] at done
      split at done
      · cases done
      · cases done
        have covered := good.covered
        rw [Life.decSession, Life.incLock_alive (by exact alive)]
        refine good.settled alive ?_ ?_
        · dsimp only
          omega
        · dsimp only
          omega
  | .sendRequest request created modData sent usages ended, sends => by
      intro s s' good alive done
      exact Life.sendRequest_keeps (execAll_safe usages sends.2.1) (execAll_safe ended sends.2.2)
        sends.1 sent s s' good (alive.resolve_right nofun) done
  | .sendResponse tsx answer usages, sends =>
    (Life.sendResponse_keeps (execAll_safe usages sends) tsx answer).always
  | .rxRequest rdata reception reported trying refused, sends => by
      intro s s' good alive done
      exact Life.onRxRequest_keeps (execAll_safe reported sends.1) (execAll_safe trying sends.2.1)
        (execAll_safe refused sends.2.2) rdata reception s s' good (alive.resolve_right nofun) done
  | .tsxState tsx state code usages, sends => by
      intro s s' good _ done
      dsimp only [exec] at done
      split at done
      · exact Life.setState_none_keeps (execAll_safe usages sends) tsx state code s s' good trivial
          done
      · exact good.unmoved done
  | .rxResponse tsx state code response usages, sends => by
      intro s s' good _ done
      dsimp only [exec] at done
      split at done
      · refine Life.setState_keeps (execAll_safe usages sends.2) ?_ tsx state code s s' good trivial
          done
        rintro _ ⟨⟩
        exact execAll_safe response sends.1
      · exact good.unmoved done
  | .terminate tsx code usages, sends =>
    (Life.tsxTerminate_keeps (execAll_safe usages sends) tsx code).always

theorem LifeAct.execAll_safe {cfg : UaCfg} : (acts : List LifeAct) → allSend cfg acts →
    Safe (execAll cfg acts)
  | [], _ => keeps_some
  | act :: acts, sends =>
    .bind ((exec_keeps act sends.1).mono fun _ good pinned => .inl (pinned.alive good))
      (execAll_safe acts sends.2)

end

theorem LifeAct.run_good {cfg : UaCfg} {acts : List LifeAct} {s s' : Life} (good : s.Good)
    (sends : allSend cfg acts) (ran : run cfg acts s = some s') : s'.Good := by
  induction acts generalizing s with
  | nil =>
    cases ran
    exact good
  | cons act acts ih =>
    dsimp only [run] at ran
    split at ran
    · cases ran
    · next allowed =>
      obtain ⟨s₁, taken, rest⟩ := Option.bind_eq_some_iff.1 ran
      have alive : s.destroyed = false ∨ act.ofTsx = true := by
        simpa only [not_and_or, Bool.not_eq_true, Bool.not_eq_false] using allowed
      obtain ⟨good₁, -⟩ := exec_keeps act sends.1 s s₁ good alive taken
      exact ih good₁ sends.2 rest

theorem Life.good_start {dlg : Dialog} {tsxs : List DlgTsx} {sessCount : Int} {held : Nat}
    (counted : dlg.tsxCount = tsxs.countP (·.user = .dialog)) (covered : (held : Int) ≤ sessCount) :
    Life.Good { dlg, sessCount, tsxs, held } where
  counted
  reported := fun _ _ => nofun
  positive := fun _ _ => nofun
  once := .nil
  ended := fun _ => nofun
  ending := endsInTime_of_quiet rfl fun _ => nofun
  gone := fun _ => nofun
  covered
  registered := rfl
  idle := nofun

theorem Life.Created.good {s : Life} (created : s.Created) : s.Good := by
  cases created with
  | uac rand target => exact good_start rfl (Int.le_refl 0)
  | fork first toTag contact => exact good_start rfl (Int.le_refl 0)
  | uas rand rdata contact locked => exact good_start rfl (Int.le_refl _)

/-- In every run of calls whose requests can be sent the accounts of the dialog are right. -/
theorem dialog_accounted {cfg : UaCfg} {acts : List LifeAct} {s₀ s : Life} (created : s₀.Created)
    (sends : LifeAct.allSend cfg acts) (ran : LifeAct.run cfg acts s₀ = some s) : s.Accounted :=
  (LifeAct.run_good created.good sends ran).toAccounted

/-- A user agent of a default configuration. -/
def plainUa : UaCfg where
  misread := enorouteset
  id := 3
  uriCmp := (· == ·)

/-- A BYE to a SIP URI, with these Route headers. -/
def bye (routes : List Uri) (savedStrictRoute : Option Uri := none) : Request where
  tdata := ⟨true, ⟨.bye, []⟩, some 0⟩
  routed := { uri := { scheme := .sip }, routes, savedStrictRoute }

/-- A proxy's Route. -/
def looseRoute : Uri where
  scheme := .sip
  lrParam := true

/-- A failed send, in whose callback another request is sent; the dialog goes with the second. -/
def twoByes : List LifeAct :=
  [.incSession, .sendRequest (bye [looseRoute]) .success ⟨-1, .null⟩ (.failed ⟨.eresolve, nofun⟩)
      [.sendRequest (bye [looseRoute]) .success ⟨-1, .null⟩ .calling [] []] [],
    .decSession,
    .rxResponse 1 .completed 200 [] [], .tsxState 1 .terminated 200 []]

theorem dialog_accounted_twice :
    ∃ s, LifeAct.run plainUa twoByes (Life.mk (createUac 0 []) 0 true false [] 0 []) = some s
      ∧ s.destroyed = true ∧ s.Accounted := by
  have sendable : (bye [looseRoute]).Sendable plainUa .success ⟨-1, .null⟩ :=
    fun _ _ => ⟨nofun, rfl⟩
  have sends : LifeAct.allSend plainUa twoByes := by
    simp [twoByes, LifeAct.allSend, LifeAct.Sends, sendable]
  have ends : (LifeAct.run plainUa twoByes
      (Life.mk (createUac 0 []) 0 true false [] 0 [])).map Life.destroyed = some true := by
    decide +kernel
  obtain ⟨s, ran, gone⟩ := Option.map_eq_some_iff.1 ends
  exact ⟨s, ran, gone, dialog_accounted (.uac 0 []) sends ran⟩

/-- One request is sent while a session is held. -/
def oneBye (request : Request) (modData : ModData) : List LifeAct :=
  [.incSession, .sendRequest request .success modData .calling [] [], .decSession]

/-- After either of these two sends the dialog stays for ever. A strict Route of another scheme,
which `pjsip_process_route_set` has put aside, is put back when the request is sent: the
transaction is never sent, terminated nor detached. Data of the caller's in the user agent's place
take the place of the dialog: it is not told of the end of the transaction. -/
theorem dialog_unaccounted :
    (∃ s, LifeAct.run plainUa
        (oneBye (bye [looseRoute] (some { scheme := .other })) ⟨-1, .null⟩)
        (Life.mk (createUac 0 []) 0 true false [] 0 []) = some s
      ∧ s.sessCount = 0 ∧ s.destroyed = false ∧ ¬ s.Accounted)
    ∧ ∃ s, LifeAct.run plainUa
        (oneBye (bye [looseRoute]) ⟨plainUa.id, .null⟩ ++ [.tsxState 0 .terminated 200 []])
        (Life.mk (createUac 0 []) 0 true false [] 0 []) = some s
      ∧ s.sessCount = 0 ∧ s.destroyed = false ∧ ¬ s.Accounted := by
  constructor
  · have ends : (LifeAct.run plainUa
        (oneBye (bye [looseRoute] (some { scheme := .other })) ⟨-1, .null⟩)
        (Life.mk (createUac 0 []) 0 true false [] 0 [])).map
          (fun s => (s.sessCount, s.destroyed, s.tsxs, decide (.sendFailed 0 ∈ s.log))) =
        some (0, false, [Life.newUac plainUa ⟨-1, .null⟩], true) := by
      decide +kernel
    obtain ⟨s, ran, result⟩ := Option.map_eq_some_iff.1 ends
    simp only [Prod.mk.injEq, decide_eq_true_eq] at result
    obtain ⟨sess, alive, tsxs, failed⟩ := result
    refine ⟨s, ran, sess, alive, fun accounted => ?_⟩
    obtain ⟨t, here, beyond, -⟩ := accounted.ended 0 failed
    rw [tsxs] at here
    cases here
    cases beyond
  · have ends : (LifeAct.run plainUa
        (oneBye (bye [looseRoute]) ⟨plainUa.id, .null⟩ ++ [.tsxState 0 .terminated 200 []])
        (Life.mk (createUac 0 []) 0 true false [] 0 [])).map
          (fun s => (s.sessCount, s.destroyed, s.dlg.tsxCount, s.attached)) =
        some (0, false, 1, 0) := by
      decide +kernel
    obtain ⟨s, ran, result⟩ := Option.map_eq_some_iff.1 ends
    simp only [Prod.mk.injEq] at result
    obtain ⟨sess, alive, counted, attached⟩ := result
    refine ⟨s, ran, sess, alive, fun accounted => ?_⟩
    have same := accounted.counted
    rw [counted, attached] at same
    cases same

end Pjsip.Sip.Lifetime
