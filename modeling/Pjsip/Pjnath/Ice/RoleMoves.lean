import Mathlib.Data.List.Perm.Subperm
import Pjsip.Base.Run
import Pjsip.Pjnath.Ice.Sending

/-!
# The role protocol in a session

What a session does with its role is what `RoleSess` says: one can follow it through every step but
a change of the role by the application, with the same role and tie-breaker, and with every request
that is pending, under some transaction id and with the attribute it was sent with.
-/

namespace Pjsip.Pjnath.Ice

open Pjsip.Base

/-- The role stays, and a request that is new says so. -/
structure Tells (ice ice' : IceSess) : Prop where
  role : ice'.role = ice.role
  tieBreaker : ice'.tieBreaker = ice.tieBreaker
  pending : ∃ more kept, ice'.pending = more ++ kept ∧ kept.Sublist ice.pending
    ∧ ∀ r ∈ more, r.roleKind = roleKind ice.role

namespace Tells

variable {env : IceEnv} {ice ice' ice'' : IceSess}

theorem drop (role : ice'.role = ice.role) (tieBreaker : ice'.tieBreaker = ice.tieBreaker)
    (pending : ice'.pending.Sublist ice.pending) : Tells ice ice' :=
  ⟨role, tieBreaker, [], _, rfl, pending, nofun⟩

theorem same (role : ice'.role = ice.role) (tieBreaker : ice'.tieBreaker = ice.tieBreaker)
    (pending : ice'.pending = ice.pending) : Tells ice ice' :=
  drop role tieBreaker (pending ▸ List.Sublist.refl _)

theorem refl (ice : IceSess) : Tells ice ice := same rfl rfl rfl

theorem trans (first : Tells ice ice') (second : Tells ice' ice'') : Tells ice ice'' := by
  obtain ⟨more, kept, pending, sub, told⟩ := first.pending
  obtain ⟨more', kept', pending', sub', told'⟩ := second.pending
  rw [pending, List.sublist_append_iff] at sub'
  obtain ⟨left, right, rfl, leftSub, rightSub⟩ := sub'
  refine ⟨second.role.trans first.role, second.tieBreaker.trans first.tieBreaker, more' ++ left,
    right, by rw [pending', List.append_assoc], rightSub.trans sub, fun r mem => ?_⟩
  rcases List.mem_append.1 mem with mem | mem
  · exact (told' r mem).trans (by rw [first.role])
  · exact told r (leftSub.subset mem)

theorem alike (tells : Tells ice' ice'') (role : ice'.role = ice.role)
    (tieBreaker : ice'.tieBreaker = ice.tieBreaker) (pending : ice'.pending = ice.pending) :
    Tells ice ice'' :=
  (same role tieBreaker pending).trans tells

theorem foldl {α : Type} {f : IceSess → α → IceSess} (tells : ∀ ice a, Tells ice (f ice a))
    (as : List α) (ice : IceSess) : Tells ice (as.foldl f ice) :=
  List.foldlRecOn _ _ (refl ice) fun _ before a _ => before.trans (tells _ a)

theorem performed {checkId : Nat} {nominate : Bool} (performed : Performed ice checkId nominate ice') :
    Tells ice ice' := by
  cases performed with
  | unmade => exact same rfl rfl rfl
  | unsent => exact same rfl rfl rfl
  | sent tdata =>
    refine ⟨rfl, rfl, [_], _, rfl, List.Sublist.refl _, fun r mem => ?_⟩
    rw [List.mem_singleton.1 mem]
    rfl

theorem onIceComplete (ice : IceSess) (status : IceStatus) :
    Tells ice (ice.onIceComplete status) := by
  rw [IceSess.onIceComplete]
  split
  · exact refl ice
  · exact same rfl rfl rfl

theorem startNominatedCheck (ice : IceSess) : Tells ice ice.startNominatedCheck := by
  obtain ⟨clist, eq⟩ := ice.startNominatedCheck_eq
  rw [eq]
  exact same rfl rfl rfl

theorem checkIceComplete (ice : IceSess) : Tells ice ice.checkIceComplete.1 := by
  unfold IceSess.checkIceComplete
  repeat' split
  all_goals first
    | exact onIceComplete ice _
    | exact startNominatedCheck ice
    | exact refl ice
    | exact same rfl rfl rfl

theorem onCheckComplete (ice : IceSess) (check : Check) :
    Tells ice (ice.onCheckComplete check).1 := by
  unfold IceSess.onCheckComplete
  refine trans ?_ (checkIceComplete _)
  generalize thawed : (if check.errCode = .success then
    { ice with clist := ice.clist.mapChecks (IceSess.unfreeze check) } else ice : IceSess) = ice₁
  have before : Tells ice ice₁ := by
    rw [← thawed]
    split
    · exact same rfl rfl rfl
    · exact refl ice
  refine before.trans ?_
  split
  · exact drop rfl rfl List.filter_sublist
  · exact refl ice₁

theorem failCheck (ice : IceSess) (ckid : Nat) (status : IceStatus) :
    Tells ice (ice.failCheck ckid status) :=
  (onCheckComplete _ _).alike rfl rfl rfl

theorem makeValid (ice : IceSess) (ckid l : Nat) : Tells ice (ice.makeValid ckid l) := by
  obtain ⟨validList, comps, eq⟩ := ice.makeValid_eq ckid l
  rw [eq]
  exact (onCheckComplete _ _).alike rfl rfl rfl

theorem startPeriodicCheck (ice : IceSess) : Tells ice (ice.startPeriodicCheck env) := by
  have checked := ice.startPeriodicCheck_checked env
  generalize ice.startPeriodicCheck env = ice' at checked ⊢
  have running : Tells ice ice.running := same rfl rfl rfl
  cases checked with
  | destroying => exact refl ice
  | idle => exact running
  | sent _ _ made =>
    exact (running.trans (performed made)).trans (same rfl rfl rfl)
  | failed _ _ made status =>
    exact ((running.trans (performed made)).trans (failCheck _ _ status)).trans
      (same rfl rfl rfl)

theorem addCand (ice : IceSess) (compId transportId : Nat) (type : CandType) (localPref : Nat)
    (foundation : List UInt8) (addr baseAddr : Stun.SockAddr) :
    Tells ice (ice.addCand compId transportId type localPref foundation addr baseAddr).1 := by
  obtain ⟨more, eq⟩ := ice.addCand_eq compId transportId type localPref foundation addr baseAddr
  rw [eq]
  exact same rfl rfl rfl

theorem addRcand (ice : IceSess) (remCand : List Cand) (trickleDone : Bool) :
    Tells ice (ice.addRcandAndUpdateChecklist remCand trickleDone).1 := by
  have updated := ice.addRcand_updated remCand trickleDone
  obtain ⟨more, saved⟩ := ice.saveRcands_eq remCand
  rw [saved] at updated
  generalize kept : ({ ice with rcands := ice.rcands ++ more } : IceSess) = ice₁ at updated
  have before : Tells ice ice₁ := by
    rw [← kept]
    exact same rfl rfl rfl
  generalize ice.addRcandAndUpdateChecklist remCand trickleDone = result at updated ⊢
  have pairs : Tells ice₁ ice₁.withPairs := same rfl rfl rfl
  refine before.trans ?_
  cases updated with
  | empty => exact same rfl rfl rfl
  | unbased => exact pairs
  | updated =>
    have ends : Tells ice₁.withPairs ice₁.withPairs.endTrickling := by
      have dropped : Tells ice₁.withPairs ice₁.withPairs.dropComps :=
        drop rfl rfl List.filter_sublist
      rw [IceSess.endTrickling]
      split
      · exact dropped.trans (checkIceComplete _)
      · exact dropped
    cases trickleDone with
    | true => exact (pairs.trans ends).trans (same rfl rfl rfl)
    | false => exact pairs.trans (same rfl rfl rfl)

theorem createCheckList (ice : IceSess) (remUfrag remPasswd : List UInt8) (remCand : List Cand) :
    Tells ice (ice.createCheckList remUfrag remPasswd remCand).1 := by
  rw [IceSess.createCheckList]
  split
  · exact refl ice
  · dsimp only
    split
    · exact (addRcand _ remCand _).alike rfl rfl rfl
    · exact same rfl rfl rfl

theorem updateCheckList (ice : IceSess) (remUfrag remPasswd : List UInt8) (remCand : List Cand)
    (trickleDone : Bool) :
    Tells ice (ice.updateCheckList remUfrag remPasswd remCand trickleDone).1 := by
  rw [IceSess.updateCheckList]
  split
  · exact refl ice
  · split
    · exact refl ice
    · exact (addRcand ice _ trickleDone).trans (same rfl rfl rfl)

theorem triggerCheck (ice : IceSess) (useCandidate : Bool) (i : Nat) :
    Tells ice (ice.triggerCheck env useCandidate i) := by
  rw [IceSess.triggerCheck]
  generalize begun : ({ ice with
    clist := ice.clist.modifySlot i fun c =>
      { c with nominated := useCandidate || c.nominated } } : IceSess) = ice₁
  have before : Tells ice ice₁ := by
    rw [← begun]
    exact same rfl rfl rfl
  refine before.trans ?_
  split
  · split
    · exact refl ice₁
    · exact performed (performCheck_performed env ice₁ i _)
  · split
    · exact refl ice₁
    · exact performed (performCheck_performed env ice₁ i _)
  · exact refl ice₁
  · refine trans ?_ (onCheckComplete _ _)
    split
    · obtain ⟨validList, comps, eq⟩ := IceSess.nominateValid_eq ice₁ (ice₁.clist.slot i)
        (List.range ice₁.validList.length)
      rw [eq]
      exact same rfl rfl rfl
    · exact refl ice₁
  · exact refl ice₁

theorem addTriggered (ice : IceSess) (rcheck : RxCheck) (lcand rcand : Nat) :
    Tells ice (ice.addTriggered env rcheck lcand rcand) := by
  have triggered := @IceSess.addTriggered_triggered env ice rcheck lcand rcand
  generalize ice.addTriggered env rcheck lcand rcand = made at triggered ⊢
  cases triggered with
  | full => exact refl ice
  | added _ _ _ sent =>
    rcases sent with rfl | ⟨-, sent⟩
    · exact same rfl rfl rfl
    · have before : Tells ice _ := (performed sent).alike rfl rfl rfl
      exact before.trans (same rfl rfl rfl)

theorem handleIncomingCheck (ice : IceSess) (rcheck : RxCheck) :
    Tells ice (ice.handleIncomingCheck env rcheck) := by
  rw [IceSess.handleIncomingCheck]
  split
  · exact refl ice
  · dsimp only
    split
    · exact refl ice
    · split
      · exact same rfl rfl rfl
      · split
        · exact (triggerCheck _ _ _).alike rfl rfl rfl
        · exact (addTriggered _ _ _ _).alike rfl rfl rfl

theorem startCheck (ice : IceSess) : Tells ice (ice.startCheck env).1 := by
  rcases ice.startCheck_cases env with same | ⟨timerEndOfCand, eq⟩
  · rw [same]
    exact refl ice
  · obtain ⟨clist, thawed, -⟩ := ice.thawed_eq
    have before : Tells ice ice.thawed := by
      rw [thawed]
      exact same rfl rfl rfl
    rw [eq]
    exact (before.trans (foldl handleIncomingCheck _ _)).trans
      (same rfl rfl rfl)

theorem onTimer (ice : IceSess) : Tells ice ice.onTimer := by
  rw [IceSess.onTimer]
  have stopped : Tells ice { ice with timer := .none } := same rfl rfl rfl
  refine stopped.trans ?_
  dsimp only
  split
  · exact refl _
  · split
    · exact refl _
    · exact onIceComplete _ _
    · split
      · exact same rfl rfl rfl
      · exact refl _
    · exact startNominatedCheck _
    · exact same rfl rfl rfl

theorem endOfCandIndTimer (ice : IceSess) : Tells ice ice.endOfCandIndTimer := by
  rw [IceSess.endOfCandIndTimer]
  dsimp only
  split
  · exact (checkIceComplete _).alike rfl rfl rfl
  · exact same rfl rfl rfl

theorem destroy (ice : IceSess) : Tells ice ice.destroy := by
  rw [IceSess.destroy]
  split
  · exact refl ice
  · exact drop rfl rfl (List.nil_sublist _)

theorem checkSucceeded (ice : IceSess) (ckid transportId : Nat)
    (completion : IceSess.Completion) :
    Tells ice (ice.checkSucceeded env ckid transportId completion) := by
  rw [IceSess.checkSucceeded]
  dsimp only
  split
  · exact failCheck ice ckid _
  · split
    · exact failCheck ice ckid _
    · split
      · exact makeValid ice ckid _
      · split
        · rename_i ice₁ status added
          obtain ⟨more, grown⟩ := IceSess.addCand_keeps added
          exact (failCheck ice₁ ckid _).alike (by rw [grown]) (by rw [grown]) (by rw [grown])
        · rename_i ice₁ l added
          obtain ⟨more, grown⟩ := IceSess.addCand_keeps added
          exact (makeValid ice₁ ckid l).alike (by rw [grown]) (by rw [grown]) (by rw [grown])

end Tells

/-! ## Moves of the protocol -/

/-- What a session of the role protocol does without being asked, any number of times. -/
def Acts (p : Agent) : RoleSess → RoleSess → Prop :=
  Relation.ReflTransGen fun view view' => ∃ sent, RoleAct p view view' sent

/-- The status of a transaction that ended with a response. -/
def StunCode.status : StunCode → IceStatus
  | .success => .success
  | .roleConflict => .stunCode 487

/-- The moves of the role protocol in a step of a session: the message, if it is one of the
protocol, and then what the session does of its own. -/
inductive RoleMoves (p q : Agent) (view : RoleSess) : IceAct → RoleSess → Prop
  | own {act : IceAct} {view' : RoleSess} (acts : Acts p view view') : RoleMoves p q view act view'
  | request {msg : IceSess.RxRequest} {tsx : Nat} {roleAttr : RoleAttr} {mid view' : RoleSess}
      {sent : List (Agent × RoleMsg)} (carries : msg.roleAttr = some roleAttr)
      (taken : RoleRecv p view q (.request tsx roleAttr) mid sent) (acts : Acts p mid view') :
      RoleMoves p q view (.rxRequest msg) view'
  | response {request : Request} {completion : IceSess.Completion} {tsx : Nat} {code : StunCode}
      {mid view' : RoleSess} {sent : List (Agent × RoleMsg)}
      (answers : completion.status = code.status)
      (taken : RoleRecv p view q (.response tsx code) mid sent) (acts : Acts p mid view') :
      RoleMoves p q view (.requestComplete request completion) view'

/-- The attribute that a request was sent with. -/
def IceSess.sentAttr (ice : IceSess) (request : Request) : RoleAttr :=
  ⟨request.roleKind, ice.tieBreaker⟩

/-- `view` is what the role protocol knows of a session. -/
structure Views (ice : IceSess) (view : RoleSess) : Prop where
  role : view.role = ice.role
  tieBreaker : view.tieBreaker = ice.tieBreaker
  pending : (ice.pending.map ice.sentAttr).Subperm (view.pending.map Prod.snd)

section Simulation

variable {env : IceEnv} {ice ice' : IceSess} {view : RoleSess} {act : IceAct} {status : IceStatus}

theorem Views.check (views : Views ice view) (p : Agent) {more : List Request}
    (told : ∀ r ∈ more, r.roleKind = roleKind ice.role) :
    ∃ view', Acts p view view' ∧ Views { ice with pending := more ++ ice.pending } view' := by
  induction more with
  | nil => exact ⟨view, .refl, views⟩
  | cons r rest ih =>
    obtain ⟨view₁, acts, views₁⟩ := ih fun r' mem => told r' (List.mem_cons_of_mem r mem)
    refine ⟨_, acts.tail ⟨_, .check⟩, views₁.role, views₁.tieBreaker, ?_⟩
    have attr : view₁.roleAttr = ice.sentAttr r := by
      rw [RoleSess.roleAttr, views₁.role, views₁.tieBreaker]
      exact congrArg (RoleAttr.mk · _) (told r List.mem_cons_self).symm
    refine List.Subperm.trans (List.subperm_cons (ice.sentAttr r) |>.2 views₁.pending) ?_
    rw [RoleSess.performCheck, List.map_cons, attr]

theorem Views.tells (views : Views ice view) (tells : Tells ice ice') (p : Agent) :
    ∃ view', Acts p view view' ∧ Views ice' view' := by
  obtain ⟨more, kept, pending, sub, told⟩ := tells.pending
  have fewer : Views { ice with pending := kept } view :=
    ⟨views.role, views.tieBreaker, (sub.map ice.sentAttr).subperm.trans views.pending⟩
  obtain ⟨view', acts, views'⟩ := fewer.check p told
  refine ⟨view', acts, views'.role.trans tells.role.symm,
    views'.tieBreaker.trans tells.tieBreaker.symm, ?_⟩
  have attr : ice'.sentAttr = ice.sentAttr := by
    funext r
    rw [IceSess.sentAttr, IceSess.sentAttr, tells.tieBreaker]
  rw [pending, attr]
  exact views'.pending

theorem Views.complete (views : Views ice view) {request : Request}
    (pending : request ∈ ice.pending) : ∃ tsx, (tsx, ice.sentAttr request) ∈ view.pending
      ∧ Views { ice with pending := ice.pending.erase request }
        (view.complete (tsx, ice.sentAttr request)) := by
  obtain ⟨⟨tsx, attr⟩, there, same⟩ :=
    List.mem_map.1 (views.pending.subset (List.mem_map_of_mem pending))
  obtain rfl : attr = ice.sentAttr request := same
  refine ⟨tsx, there, views.role, views.tieBreaker, ?_⟩
  have out := (List.perm_cons_erase pending).map ice.sentAttr
  have outView := (List.perm_cons_erase there).map Prod.snd
  exact (List.subperm_cons _).1 (out.subperm_right.1 (outView.subperm_left.1 views.pending))

theorem onStunRxRequest_views (views : Views ice view) (p q : Agent) (msg : IceSess.RxRequest) :
    ∃ view', RoleMoves p q view (.rxRequest msg) view'
      ∧ Views (ice.onStunRxRequest env msg) view' := by
  rw [IceSess.onStunRxRequest]
  split
  · exact ⟨view, .own .refl, views⟩
  · split
    · exact ⟨view, .own .refl, views⟩
    · split
      · next refused =>
        -- a session without a role refuses nothing, nor does one that is told none
        cases attr : msg.roleAttr with
        | none =>
          rw [attr] at refused
          cases refused
        | some roleAttr =>
          rw [attr, ← views.role, ← views.tieBreaker] at refused
          have refuse : RoleRecv p view q (.request 0 roleAttr) view _ := .refuse refused
          exact ⟨view, .request attr refuse .refl, views⟩
      · next role accepted =>
        have taken : Views { ice with role } { view with role } :=
          ⟨rfl, views.tieBreaker, views.pending⟩
        have follows : ∀ ice', Tells { ice with role } ice' →
            ∃ view', RoleMoves p q view (.rxRequest msg) view' ∧ Views ice' view' := by
          intro ice' tells
          obtain ⟨view', acts, views'⟩ := taken.tells tells p
          refine ⟨view', ?_, views'⟩
          cases attr : msg.roleAttr with
          | none =>
            rw [attr] at accepted
            cases accepted
            have same : { view with role := ice.role } = view := by rw [← views.role]
            exact .own (same ▸ acts)
          | some roleAttr =>
            rw [attr, ← views.role, ← views.tieBreaker] at accepted
            have accept : RoleRecv p view q (.request 0 roleAttr) { view with role } _ :=
              .accept accepted
            exact .request attr accept acts
        apply follows
        dsimp only
        split
        · exact .refl _
        · split
          · exact .same rfl rfl rfl
          · exact .handleIncomingCheck _ _

theorem onStunRequestComplete_views (views : Views ice view) (p q : Agent) {request : Request}
    (pending : request ∈ ice.pending) (completion : IceSess.Completion) :
    ∃ view', RoleMoves p q view (.requestComplete request completion) view'
      ∧ Views ({ ice with pending := ice.pending.erase request }.onStunRequestComplete env request
          completion) view' := by
  obtain ⟨tsx, there, ended⟩ := views.complete pending
  generalize { ice with pending := ice.pending.erase request } = ice₁ at ended ⊢
  have own : ∀ {ice'}, Tells ice₁ ice' → ∃ view', RoleMoves p q view
      (.requestComplete request completion) view' ∧ Views ice' view' := by
    intro ice' tells
    obtain ⟨view', acts, views'⟩ := ended.tells tells p
    by_cases answered : ∃ code : StunCode, completion.status = code.status
    · obtain ⟨code, answers⟩ := answered
      have recv : RoleRecv p view q (.response tsx code) _ _ := .ignored there
      exact ⟨view', .response answers recv acts, views'⟩
    · exact ⟨view', .own (.head ⟨_, .timeout _⟩ acts), views'⟩
  have cleared : ∀ ckid, Tells ice₁ (ice₁.clearTdata ckid) :=
    fun _ => .same rfl rfl rfl
  rw [IceSess.onStunRequestComplete]
  split
  · exact own (.refl _)
  · split
    · exact own (cleared _)
    · rename_i ckid _
      split
      · exact own ((cleared ckid).trans (.checkSucceeded _ _ _ completion))
      · next conflict =>
        have taken : Views { ice₁.clearTdata ckid with
              role := conflictRole request.roleKind
              clist := (ice₁.clearTdata ckid).clist.modifySlot ckid (Check.setState .waiting .success) }
            { view.complete (tsx, ice.sentAttr request) with
              role := conflictRole request.roleKind } :=
          ⟨rfl, ended.tieBreaker, ended.pending⟩
        obtain ⟨view', acts, views'⟩ := taken.tells (.performed (performCheck_performed env _ _ _)) p
        have recv : RoleRecv p view q (.response tsx .roleConflict) _ _ := .conflictUnsent there
        have answers : completion.status = StunCode.status .roleConflict := conflict
        exact ⟨view', .response answers recv acts, views'⟩
      · exact own ((cleared ckid).trans (.failCheck _ _ _))

/-- A session of the role protocol follows a session through every step that is not a change of
the role by the application. -/
theorem iceStep_views (views : Views ice view) (p q : Agent)
    (kept : ∀ role, act ≠ .changeRole role) (taken : iceStep env ice act = some (ice', status)) :
    ∃ view', RoleMoves p q view act view' ∧ Views ice' view' := by
  have own : ∀ {ice'}, Tells ice ice' → ∃ view', RoleMoves p q view act view' ∧ Views ice' view' := by
    intro ice' tells
    obtain ⟨view', acts, views'⟩ := views.tells tells p
    exact ⟨view', .own acts, views'⟩
  cases iceStep_stepped taken with
  | addCand => exact own (.addCand ice _ _ _ _ _ _ _)
  | setOptions => exact own (.same rfl rfl rfl)
  | changeRole role => exact absurd rfl (kept role)
  | setPrefs => exact own (.same rfl rfl rfl)
  | createCheckList => exact own (.createCheckList ice _ _ _)
  | updateCheckList => exact own (.updateCheckList ice _ _ _ _)
  | startCheck => exact own (.startCheck ice)
  | periodicTimer => exact own (.startPeriodicCheck ice)
  | timer => exact own (.onTimer ice)
  | endOfCandTimer => exact own (.endOfCandIndTimer ice)
  | rxRequest msg => exact onStunRxRequest_views views p q msg
  | requestComplete request completion pending =>
    exact onStunRequestComplete_views views p q pending completion
  | destroy => exact own (.destroy ice)

/-- A session of the role protocol has followed a session from `start`. -/
def Followed (p q : Agent) (start : RoleSess) (ice : IceSess) : Prop :=
  ∃ view, Relation.ReflTransGen (fun v v' => ∃ act, RoleMoves p q v act v') start view
    ∧ Views ice view

theorem run_followed {role : Role} {tieBreaker compCnt : Nat} {tr : List (IceAct × IceStatus)}
    (run : Run (iceStep env) (IceSess.create role tieBreaker compCnt) tr ice)
    (kept : Along (iceStep env) (fun _ act => ∀ role, act ≠ .changeRole role)
      (IceSess.create role tieBreaker compCnt) (tr.map Prod.fst)) (p q : Agent) :
    Followed p q ⟨role, tieBreaker, [], 0⟩ ice := by
  have start : Views (IceSess.create role tieBreaker compCnt) ⟨role, tieBreaker, [], 0⟩ :=
    ⟨rfl, rfl, List.Subperm.refl _⟩
  refine run.invariant_along (fun s act s' o followed keeps taken => ?_) kept ⟨_, .refl, start⟩
  obtain ⟨view, moves, views⟩ := followed
  obtain ⟨view', move, views'⟩ := iceStep_views views p q keeps taken
  exact ⟨view', moves.tail ⟨act, move⟩, views'⟩

end Simulation

end Pjsip.Pjnath.Ice
