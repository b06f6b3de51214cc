import Pjsip.Sip.RouteSet.Dialog

/-!
# The route set and the remote tag of a client dialog (`sip_dialog.c`)

Until a 2xx response has come to a request that creates dialogs, the remote tag is that of the
last such provisional response; from then on it stays. The route set goes with the tag, but the
response to an UPDATE neither changes nor freezes it.
-/

namespace Pjsip.Sip.Dlg

open Pjsip.Pjlib Pjsip.Sip.RouteSet

/-! ## One response -/

namespace RxResponse

variable {rdata : RxResponse}

def creating (rdata : RxResponse) : Bool := rdata.provisional || rdata.success

theorem creating_iff : rdata.creating = true
    ↔ methodCreatesDialog rdata.method = true ∧ 100 < rdata.code ∧ rdata.code < 300 := by
  simp only [creating, provisional, success, Bool.or_eq_true, Bool.and_eq_true, decide_eq_true_eq]
  rw [← and_or_left]
  refine and_congr_right fun _ => ?_
  omega

theorem success_iff :
    rdata.success = true ↔ methodCreatesDialog rdata.method = true ∧ rdata.code / 100 = 2 := by
  rw [success, Bool.and_eq_true, decide_eq_true_eq]

theorem creating_of_success (success : rdata.success = true) : rdata.creating = true := by
  rw [creating, success, Bool.or_true]

end RxResponse

namespace RoutedDialog

variable (uriCmp : List UInt8 → List UInt8 → Bool) {dlg : RoutedDialog} {rdata : RxResponse}

theorem establishes_iff (uac : dlg.role = .uac) : dlg.establishes rdata = true
    ↔ rdata.creating = true ∧ (dlg.state = .null
      ∨ dlg.uacHas2xx = false ∧ sameTag dlg.dlg.remoteTag rdata.toTag = false) := by
  rw [RxResponse.creating_iff]
  simp only [establishes, uac, Bool.or_eq_true, Bool.and_eq_true, decide_eq_true_eq,
    Bool.not_eq_true', decide_true, true_and]
  have class_ : rdata.code / 100 ≤ 2 ↔ rdata.code < 300 := by omega
  rw [class_]
  constructor
  · rintro (⟨⟨null, method⟩, code⟩ | ⟨⟨⟨⟨first, low⟩, high⟩, method⟩, other⟩)
    · exact ⟨⟨method, code⟩, .inl null⟩
    · exact ⟨⟨method, low, high⟩, .inr ⟨first, other⟩⟩
  · rintro ⟨⟨method, low, high⟩, null | ⟨first, other⟩⟩
    · exact .inl ⟨⟨null, method⟩, low, high⟩
    · exact .inr ⟨⟨⟨⟨first, low⟩, high⟩, method⟩, other⟩

/-- The route set with this response. -/
def routesWith (dlg : RoutedDialog) (rdata : RxResponse) : List RouteHdr :=
  if !dlg.routeSetFrozen && !rdata.isUpdate then routeSetOf rdata.hdrs else dlg.routeSet

/-- Whether the route set is frozen after this response. -/
def frozenWith (dlg : RoutedDialog) (rdata : RxResponse) : Bool :=
  dlg.routeSetFrozen || (rdata.success && !rdata.isUpdate)

/-- The route set, and whether it is frozen, are all that has changed. -/
structure Rerouted (dlg dlg' : RoutedDialog) (rdata : RxResponse) : Prop where
  inner : dlg'.dlg = dlg.dlg
  role : dlg'.role = dlg.role
  state : dlg'.state = dlg.state
  uacHas2xx : dlg'.uacHas2xx = dlg.uacHas2xx
  routeSet : dlg'.routeSet = dlg.routesWith rdata
  frozen : dlg'.routeSetFrozen = dlg.frozenWith rdata

theorem dlgUpdateRouteset_spec (dlg : RoutedDialog) (code : rdata.code < 300) :
    Rerouted dlg (dlg.dlgUpdateRouteset rdata) rdata := by
  unfold dlgUpdateRouteset
  split
  · next frozen =>
    exact ⟨rfl, rfl, rfl, rfl, by simp [routesWith, frozen], by simp [frozenWith, frozen]⟩
  · next thawed =>
    split
    · next update =>
      exact ⟨rfl, rfl, rfl, rfl, by simp [routesWith, RxResponse.isUpdate, update],
        by simp [frozenWith, RxResponse.isUpdate, update]⟩
    · next counts =>
      have routes : dlg.routesWith rdata = routeSetOf rdata.hdrs := by
        simp [routesWith, RxResponse.isUpdate, thawed, counts]
      have frozen : dlg.frozenWith rdata = rdata.success := by
        simp [frozenWith, RxResponse.isUpdate, thawed, counts]
      have low : ¬ rdata.code ≥ 300 := by omega
      rw [if_neg low]
      -- the destination of the first request is of no interest here
      generalize initial : (if dlg.role = .uac then
        { dlg with initialDest := if rdata.tpOutgoing then rdata.tpRemoteHost else [] }
        else dlg) = dlg₁
      have same : dlg₁.dlg = dlg.dlg ∧ dlg₁.role = dlg.role ∧ dlg₁.state = dlg.state
          ∧ dlg₁.uacHas2xx = dlg.uacHas2xx ∧ dlg₁.routeSetFrozen = false := by
        rw [Bool.not_eq_true] at thawed
        rw [← initial]
        split
        · exact ⟨rfl, rfl, rfl, rfl, thawed⟩
        · exact ⟨rfl, rfl, rfl, rfl, thawed⟩
      obtain ⟨dlg_, role, state, has2xx, open_⟩ := same
      split
      · next final =>
        exact ⟨dlg_, role, state, has2xx, routes.symm,
          (frozen.trans (RxResponse.success_iff.2 final)).symm⟩
      · next early =>
        have last : rdata.success = false := by
          rw [Bool.eq_false_iff]
          exact fun final => early (RxResponse.success_iff.1 final)
        exact ⟨dlg_, role, state, has2xx, routes.symm, open_.trans (frozen.trans last).symm⟩

theorem updateTarget_remoteTag (dlg : Dialog) (contact : Option (List UInt8)) :
    (dlg.updateTarget uriCmp contact).remoteTag = dlg.remoteTag := by
  unfold Dialog.updateTarget
  split
  · rfl
  · split
    · rfl
    · rfl

/-- What a response leaves of a client dialog. -/
structure Received (dlg dlg' : RoutedDialog) (rdata : RxResponse) : Prop where
  role : dlg'.role = .uac
  remoteTag : dlg'.dlg.remoteTag = if dlg.establishes rdata then rdata.toTag else dlg.dlg.remoteTag
  state : dlg'.state = if dlg.establishes rdata then .established else dlg.state
  uacHas2xx : dlg'.uacHas2xx = (dlg.uacHas2xx || rdata.success)
  routeSet : dlg'.routeSet
    = if dlg.establishes rdata || rdata.success then dlg.routesWith rdata else dlg.routeSet
  frozen : dlg'.routeSetFrozen = dlg.frozenWith rdata

theorem establish_spec (uac : dlg.role = .uac) (establishes : dlg.establishes rdata = true) :
    Received dlg (dlg.establish uriCmp rdata) rdata := by
  have created := RxResponse.creating_iff.1 ((establishes_iff uac).1 establishes).1
  have updated := dlgUpdateRouteset_spec
    { dlg with dlg := { dlg.dlg with remoteTag := rdata.toTag } } created.2.2
  unfold establish
  dsimp only
  generalize dlgUpdateRouteset _ rdata = dlg₁ at updated
  have tag : (dlg₁.dlg.updateTarget uriCmp rdata.contact).remoteTag = rdata.toTag := by
    rw [updateTarget_remoteTag, updated.inner]
  have role : dlg₁.role = .uac := updated.role.trans uac
  have has2xx : dlg₁.uacHas2xx = dlg.uacHas2xx := updated.uacHas2xx
  split
  · next first =>
    have final : rdata.success = true := RxResponse.success_iff.2 ⟨created.1, first.2.2⟩
    refine ⟨role, ?_, ?_, ?_, ?_, updated.frozen⟩
    · rw [if_pos establishes]
      exact tag
    · rw [if_pos establishes]
    · rw [final, Bool.or_true]
    · rw [establishes]
      exact updated.routeSet
  · next later =>
    refine ⟨role, ?_, ?_, ?_, ?_, updated.frozen⟩
    · rw [if_pos establishes]
      exact tag
    · rw [if_pos establishes]
    · show dlg₁.uacHas2xx = _
      rw [has2xx]
      cases early : dlg.uacHas2xx with
      | true => rfl
      | false =>
        symm
        rw [Bool.false_or, Bool.eq_false_iff]
        intro final
        exact later ⟨role, has2xx.trans early, (RxResponse.success_iff.1 final).2⟩
    · rw [establishes]
      exact updated.routeSet

theorem confirm_spec (uac : dlg.role = .uac) (final : rdata.success = true) :
    (dlg.confirm uriCmp rdata).role = .uac
      ∧ (dlg.confirm uriCmp rdata).dlg.remoteTag = dlg.dlg.remoteTag
      ∧ (dlg.confirm uriCmp rdata).state = dlg.state
      ∧ (dlg.confirm uriCmp rdata).uacHas2xx = true
      ∧ (dlg.confirm uriCmp rdata).routeSet = dlg.routesWith rdata
      ∧ (dlg.confirm uriCmp rdata).routeSetFrozen = dlg.frozenWith rdata := by
  have low : rdata.code < 300 := by
    have class_ := (RxResponse.success_iff.1 final).2
    omega
  have updated := dlgUpdateRouteset_spec
    { dlg with dlg := dlg.dlg.updateTarget uriCmp rdata.contact } low
  unfold confirm
  dsimp only
  generalize dlgUpdateRouteset _ rdata = dlg₁ at updated
  have role : dlg₁.role = .uac := updated.role.trans uac
  have tag : dlg₁.dlg.remoteTag = dlg.dlg.remoteTag := by
    rw [updated.inner]
    exact updateTarget_remoteTag uriCmp dlg.dlg rdata.contact
  split
  · exact ⟨role, tag, updated.state, rfl, updated.routeSet, updated.frozen⟩
  · next again =>
    refine ⟨role, tag, updated.state, ?_, updated.routeSet, updated.frozen⟩
    cases has : dlg₁.uacHas2xx with
    | true => rfl
    | false => exact absurd ⟨role, has⟩ again

theorem onRxResponse_spec (uac : dlg.role = .uac) (rdata : RxResponse) :
    Received dlg (dlg.onRxResponse uriCmp rdata) rdata := by
  rw [onRxResponse]
  cases final : rdata.success with
  | false =>
    rw [if_neg fun h => Bool.false_ne_true (final.symm.trans (RxResponse.success_iff.2 h))]
    cases establishes : dlg.establishes rdata with
    | true => exact establish_spec uriCmp uac establishes
    | false =>
      refine ⟨uac, ?_, ?_, ?_, ?_, ?_⟩ <;> simp [establishes, final, frozenWith]
  | true =>
    rw [if_pos (RxResponse.success_iff.1 final)]
    cases establishes : dlg.establishes rdata with
    | false =>
      obtain ⟨role, tag, state, has2xx, routes, frozen⟩ :=
        confirm_spec uriCmp uac final
      refine ⟨role, ?_, ?_, ?_, ?_, frozen⟩ <;>
        simp [establishes, final, tag, state, has2xx, routes]
    | true =>
      -- the second time, the route set is what it has just become
      have once := establish_spec uriCmp uac establishes
      rw [if_pos rfl]
      generalize dlg.establish uriCmp rdata = dlg₁ at once
      have tag₁ := once.remoteTag
      have state₁ := once.state
      have routes₁ := once.routeSet
      simp only [establishes, if_true, Bool.true_or] at tag₁ state₁ routes₁
      obtain ⟨role, tag, state, has2xx, routes, frozen⟩ :=
        confirm_spec uriCmp once.role final
      refine ⟨role, ?_, ?_, ?_, ?_, ?_⟩
      · rw [tag, tag₁, if_pos establishes]
      · rw [state, state₁, if_pos establishes]
      · rw [has2xx, final, Bool.or_true]
      · rw [routes, establishes, routesWith, once.frozen, frozenWith, final, routes₁]
        cases dlg.routeSetFrozen <;> cases rdata.isUpdate <;> rfl
      · rw [frozen, frozenWith, once.frozen, frozenWith]
        cases dlg.routeSetFrozen <;> cases rdata.isUpdate <;> cases rdata.success <;> rfl

end RoutedDialog

/-! ## What has happened -/

/-- Every response that can establish the dialog has a To tag. -/
def Tagged (history : List DlgEvent) : Prop :=
  ∀ rdata, .response rdata ∈ history → rdata.creating = true → rdata.toTag ≠ []

section History

variable {before : List DlgEvent} {rdata : RxResponse}

theorem Tagged.rest {event : DlgEvent} (tagged : Tagged (event :: before)) : Tagged before :=
  fun rdata mem => tagged rdata (.tail _ mem)

@[simp] theorem firstSuccess_response : firstSuccess (.response rdata :: before)
    = (firstSuccess before).or (if rdata.success then some rdata else none) := rfl

@[simp] theorem firstFreezing_response : firstFreezing (.response rdata :: before)
    = (firstFreezing before).or (if rdata.success && !rdata.isUpdate then some rdata else none) :=
  rfl

@[simp] theorem lastProvisional_response : lastProvisional (.response rdata :: before)
    = if rdata.provisional then some rdata else lastProvisional before := rfl

@[simp] theorem lastBringing_response : lastBringing (.response rdata :: before)
    = if brings before rdata then some rdata else lastBringing before := rfl

theorem firstSuccess_mem (found : firstSuccess before = some rdata) :
    .response rdata ∈ before ∧ rdata.success = true := by
  induction before with
  | nil => cases found
  | cons event before ih =>
    cases event with
    | response last =>
      rw [firstSuccess_response, Option.or_eq_some_iff] at found
      rcases found with earlier | ⟨-, now⟩
      · exact ⟨.tail _ (ih earlier).1, (ih earlier).2⟩
      · split at now
        · next success =>
          cases now
          exact ⟨.head _, success⟩
        · cases now
    | answer stCode => exact ⟨.tail _ (ih found).1, (ih found).2⟩
    | act a => exact ⟨.tail _ (ih found).1, (ih found).2⟩

theorem lastProvisional_mem (found : lastProvisional before = some rdata) :
    .response rdata ∈ before ∧ rdata.provisional = true := by
  induction before with
  | nil => cases found
  | cons event before ih =>
    cases event with
    | response last =>
      rw [lastProvisional_response] at found
      split at found
      · next provisional =>
        cases found
        exact ⟨.head _, provisional⟩
      · exact ⟨.tail _ (ih found).1, (ih found).2⟩
    | answer stCode => exact ⟨.tail _ (ih found).1, (ih found).2⟩
    | act a => exact ⟨.tail _ (ih found).1, (ih found).2⟩

theorem lastProvisional_of_bringing (found : lastBringing before = some rdata) :
    lastProvisional before ≠ none := by
  induction before with
  | nil => cases found
  | cons event before ih =>
    cases event with
    | response last =>
      rw [lastBringing_response] at found
      rw [lastProvisional_response]
      split
      · nofun
      · next other =>
        rw [if_neg fun new => other (by simp_all [brings])] at found
        exact ih found
    | answer stCode => exact ih found
    | act a => exact ih found

theorem heard_congr {tag tag' : List UInt8} (same : sameTag tag tag' = true) :
    heard tag before = heard tag' before := by
  induction before with
  | nil => rfl
  | cons event before ih =>
    cases event with
    | response last => exact ih
    | answer stCode => exact ih
    | act a =>
      cases a with
      | rxRequest rdata created claims =>
        have first : sameTag rdata.fromTag tag = sameTag rdata.fromTag tag' := by
          rw [sameTag_comm, sameTag_congr same, sameTag_comm]
        show (sameTag rdata.fromTag tag || heard tag before) = _
        rw [first, ih]
        rfl
      | sendRequest tdata created => exact ih
      | tsxTerminated => exact ih

end History

/-! ## The dialog and its history -/

/-- The remote tag and the route set are what the responses have made them. -/
structure Follows (uriCmp : List UInt8 → List UInt8 → Bool) (history : List DlgEvent)
    (dlg : RoutedDialog) : Prop where
  /-- Before the first 2xx response the tag is that of the last provisional one, and the route set
  that of the response with which this tag appeared. -/
  early : firstSuccess history = none → ∀ rdata, lastProvisional history = some rdata →
    sameTag dlg.dlg.remoteTag rdata.toTag = true
      ∧ ∃ first, lastBringing history = some first ∧ sameTag first.toTag rdata.toTag = true
        ∧ dlg.routeSet = first.recordRoutes.reverse
  /-- From then on both are those of the 2xx response. -/
  confirmed : ∀ rdata, firstSuccess history = some rdata →
    sameTag dlg.dlg.remoteTag rdata.toTag = true ∧ dlg.routeSet = rdata.recordRoutes.reverse
  kept : firstSuccess history ≠ none → ∀ later : List DlgEvent,
    (dlg.run uriCmp later).dlg.remoteTag = dlg.dlg.remoteTag
      ∧ (dlg.run uriCmp later).routeSet = dlg.routeSet

/-- What a client dialog knows of its history. -/
structure Knows (history : List DlgEvent) (dlg : RoutedDialog) : Prop where
  role : dlg.role = .uac
  has2xx : dlg.uacHas2xx = (firstSuccess history).isSome
  frozen : dlg.routeSetFrozen = (firstFreezing history).isSome
  established : firstSuccess history ≠ none ∨ lastProvisional history ≠ none →
    dlg.state = .established
  confirmed : ∀ rdata, firstSuccess history = some rdata →
    sameTag dlg.dlg.remoteTag rdata.toTag = true
  early : firstSuccess history = none → ∀ rdata, lastProvisional history = some rdata →
    sameTag dlg.dlg.remoteTag rdata.toTag = true
  unknown : firstSuccess history = none → lastProvisional history = none →
    dlg.dlg.remoteTag = [] ∨ heard dlg.dlg.remoteTag history = true
  fresh : firstSuccess history = none → lastProvisional history = none →
    dlg.state = .established → answered history = true
  routesConfirmed : ∀ rdata, firstFreezing history = some rdata →
    dlg.routeSet = routeSetOf rdata.hdrs
  routesEarly : firstFreezing history = none → ∀ rdata, lastBringing history = some rdata →
    dlg.routeSet = routeSetOf rdata.hdrs

namespace Knows

variable (uriCmp : List UInt8 → List UInt8 → Bool) {history : List DlgEvent}
  {dlg : RoutedDialog} {rdata : RxResponse}

theorem not_establishes (knows : Knows history dlg) {final : RxResponse}
    (found : firstSuccess history = some final) : dlg.establishes rdata = false := by
  rw [Bool.eq_false_iff]
  intro establishes
  rcases ((RoutedDialog.establishes_iff knows.role).1 establishes).2 with null | first
  · rw [knows.established (.inl (by rw [found]; nofun))] at null
    cases null
  · have has := knows.has2xx
    rw [first.1, found] at has
    cases has

theorem creating_tag {dlg' : RoutedDialog} (knows : Knows history dlg)
    (received : RoutedDialog.Received dlg dlg' rdata) (unconfirmed : firstSuccess history = none)
    (creating : rdata.creating = true) : sameTag dlg'.dlg.remoteTag rdata.toTag = true := by
  rw [received.remoteTag]
  split
  · exact sameTag_refl rdata.toTag
  · next stays =>
    rw [RoutedDialog.establishes_iff knows.role] at stays
    have has : dlg.uacHas2xx = false := by rw [knows.has2xx, unconfirmed]; rfl
    cases same : sameTag dlg.dlg.remoteTag rdata.toTag with
    | true => rfl
    | false => exact absurd ⟨creating, .inr ⟨has, same⟩⟩ stays

theorem brings_establishes (knows : Knows history dlg) (tag : rdata.toTag ≠ [])
    (brings : brings history rdata = true) : dlg.establishes rdata = true := by
  simp only [Dlg.brings, Bool.and_eq_true, Option.isNone_iff_eq_none] at brings
  obtain ⟨⟨⟨provisional, -⟩, unconfirmed⟩, new⟩ := brings
  have creating : rdata.creating = true := by rw [RxResponse.creating, provisional]; rfl
  have has : dlg.uacHas2xx = false := by rw [knows.has2xx, unconfirmed]; rfl
  refine (RoutedDialog.establishes_iff knows.role).2 ⟨creating, ?_⟩
  cases last : lastProvisional history with
  | some last_ =>
    rw [last] at new
    refine .inr ⟨has, ?_⟩
    rw [sameTag_congr (knows.early unconfirmed last_ last)]
    simpa using new
  | none =>
    rw [last] at new
    cases state : dlg.state with
    | null => exact .inl rfl
    | established =>
      refine .inr ⟨has, ?_⟩
      rcases knows.unknown unconfirmed last with nil | known
      · rw [nil]
        exact sameTag_nil tag
      · rw [Bool.eq_false_iff]
        intro same
        rw [heard_congr same] at known
        simp [learned, knows.fresh unconfirmed last state, known] at new

theorem provisional_stays (knows : Knows history dlg) {last : RxResponse}
    (earlier : lastProvisional history = some last) (provisional : rdata.provisional = true)
    (counts : rdata.isUpdate = false) (old : Dlg.brings history rdata = false) :
    dlg.establishes rdata = false := by
  cases found : firstSuccess history with
  | some final => exact knows.not_establishes found
  | none =>
    rw [Bool.eq_false_iff]
    intro establishes
    rcases ((RoutedDialog.establishes_iff knows.role).1 establishes).2 with null | other
    · rw [knows.established (.inr (by rw [earlier]; nofun))] at null
      cases null
    · rw [sameTag_congr (knows.early found last earlier)] at other
      simp [Dlg.brings, provisional, counts, found, earlier, other.2] at old

theorem routes_frozen {dlg' : RoutedDialog}
    (received : RoutedDialog.Received dlg dlg' rdata) (frozen : dlg.routeSetFrozen = true) :
    dlg'.routeSet = dlg.routeSet := by
  rw [received.routeSet, RoutedDialog.routesWith, frozen]
  exact ite_self _

theorem response (knows : Knows history dlg) (tag : rdata.creating = true → rdata.toTag ≠ []) :
    Knows (.response rdata :: history) (dlg.onRxResponse uriCmp rdata) := by
  have received := RoutedDialog.onRxResponse_spec uriCmp knows.role rdata
  generalize dlg.onRxResponse uriCmp rdata = dlg' at received
  have unchanged : ∀ {final}, firstSuccess history = some final →
      dlg'.dlg.remoteTag = dlg.dlg.remoteTag := by
    intro final found
    rw [received.remoteTag, if_neg (by rw [knows.not_establishes found]; simp)]
  have quiet : rdata.success = false → rdata.provisional = false →
      dlg.establishes rdata = false := by
    intro early other
    rw [Bool.eq_false_iff]
    intro establishes
    have creating := ((RoutedDialog.establishes_iff knows.role).1 establishes).1
    rw [RxResponse.creating, early, other] at creating
    cases creating
  have none_before : firstSuccess (.response rdata :: history) = none →
      firstSuccess history = none ∧ rdata.success = false := by
    intro unconfirmed'
    rw [firstSuccess_response, Option.or_eq_none_iff] at unconfirmed'
    refine ⟨unconfirmed'.1, ?_⟩
    cases final : rdata.success with
    | false => rfl
    | true => simp [final] at unconfirmed'
  refine ⟨received.role, ?_, ?_, ?_, ?_, ?_, ?_, ?_, ?_, ?_⟩
  · rw [received.uacHas2xx, knows.has2xx, firstSuccess_response]
    cases firstSuccess history <;> cases rdata.success <;> rfl
  · rw [received.frozen, RoutedDialog.frozenWith, knows.frozen, firstFreezing_response]
    cases firstFreezing history <;> cases rdata.success && !rdata.isUpdate <;> rfl
  · intro told
    rw [received.state]
    split
    · rfl
    · next stays =>
      cases state : dlg.state with
      | established => rfl
      | null =>
        have other : rdata.creating = false := by
          rw [Bool.eq_false_iff]
          intro creating
          exact stays ((RoutedDialog.establishes_iff knows.role).2 ⟨creating, .inl state⟩)
        rw [RxResponse.creating, Bool.or_eq_false_iff] at other
        have before := knows.established
        simp only [firstSuccess_response, lastProvisional_response, other.1, other.2,
          Bool.false_eq_true, if_false, Option.or_none] at told
        rw [before told] at state
        cases state
  · intro final found
    -- the tag stays once there has been a 2xx
    rw [firstSuccess_response, Option.or_eq_some_iff] at found
    rcases found with earlier | ⟨unconfirmed', now⟩
    · rw [unchanged earlier]
      exact knows.confirmed final earlier
    · split at now
      · next success =>
        cases now
        exact knows.creating_tag received unconfirmed' (RxResponse.creating_of_success success)
      · cases now
  · intro unconfirmed' last found
    obtain ⟨unconfirmed', early⟩ := none_before unconfirmed'
    rw [lastProvisional_response] at found
    split at found
    · next provisional =>
      cases found
      exact knows.creating_tag received unconfirmed' (by rw [RxResponse.creating, provisional]; rfl)
    · next other =>
      rw [received.remoteTag, if_neg (by rw [quiet early (by simpa using other)]; simp)]
      exact knows.early unconfirmed' last found
  · intro unconfirmed' unheard
    obtain ⟨unconfirmed', early⟩ := none_before unconfirmed'
    rw [lastProvisional_response] at unheard
    split at unheard
    · cases unheard
    · next other =>
      rw [received.remoteTag, if_neg (by rw [quiet early (by simpa using other)]; simp)]
      exact knows.unknown unconfirmed' unheard
  · intro unconfirmed unheard state
    obtain ⟨unconfirmed, early⟩ := none_before unconfirmed
    rw [lastProvisional_response] at unheard
    split at unheard
    · cases unheard
    · next other =>
      rw [received.state, if_neg (by rw [quiet early (by simpa using other)]; simp)] at state
      exact knows.fresh unconfirmed unheard state
  · intro final found
    -- the 2xx to an UPDATE is a first 2xx, but does not freeze the route set
    rw [firstFreezing_response, Option.or_eq_some_iff] at found
    rcases found with earlier | ⟨unconfirmed', now⟩
    · have frozen : dlg.routeSetFrozen = true := by rw [knows.frozen, earlier]; rfl
      rw [routes_frozen received frozen]
      exact knows.routesConfirmed final earlier
    · split at now
      · next freezes =>
        cases now
        have thawed : dlg.routeSetFrozen = false := by rw [knows.frozen, unconfirmed']; rfl
        rw [Bool.and_eq_true, Bool.not_eq_true'] at freezes
        rw [received.routeSet, RoutedDialog.routesWith, thawed, freezes.1, freezes.2, Bool.or_true]
        rfl
      · cases now
  · intro unconfirmed' last found
    rw [firstFreezing_response, Option.or_eq_none_iff] at unconfirmed'
    obtain ⟨unconfirmed', thaws⟩ := unconfirmed'
    have thawed : dlg.routeSetFrozen = false := by rw [knows.frozen, unconfirmed']; rfl
    rw [lastBringing_response] at found
    split at found
    · next brings =>
      cases found
      have shape := brings
      simp only [Dlg.brings, Bool.and_eq_true, Bool.not_eq_true'] at shape
      obtain ⟨⟨⟨provisional, counts⟩, -⟩, -⟩ := shape
      have creating : rdata.creating = true := by rw [RxResponse.creating, provisional]; rfl
      rw [received.routeSet, knows.brings_establishes (tag creating) brings,
        RoutedDialog.routesWith, thawed, counts]
      rfl
    · next old =>
      rw [Bool.not_eq_true] at old
      rw [← knows.routesEarly unconfirmed' last found, received.routeSet]
      cases counts : rdata.isUpdate with
      | true =>
        rw [RoutedDialog.routesWith, counts, Bool.not_true, Bool.and_false]
        exact ite_self _
      | false =>
        have early : rdata.success = false := by
          cases final : rdata.success with
          | false => rfl
          | true => simp [final, counts] at thaws
        obtain ⟨earlier, known⟩ :=
          Option.ne_none_iff_exists'.1 (lastProvisional_of_bringing found)
        have stays : dlg.establishes rdata = false := by
          cases provisional : rdata.provisional with
          | true => exact knows.provisional_stays known provisional counts old
          | false => exact quiet early provisional
        rw [stays, early]
        rfl

theorem answer (knows : Knows history dlg) (stCode : Nat) :
    Knows (.answer stCode :: history) (dlg.beautifyResponse stCode) := by
  rw [RoutedDialog.beautifyResponse]
  split
  · next final =>
    refine { knows with established := fun _ => rfl, fresh := fun _ _ _ => ?_ }
    rw [answered, decide_eq_true final.1]
    rfl
  · next early =>
    refine { knows with fresh := fun unconfirmed unheard state => ?_ }
    rw [answered, knows.fresh unconfirmed unheard state, Bool.or_true]

theorem tag_ne_nil (knows : Knows history dlg) (tagged : Tagged history)
    (told : firstSuccess history ≠ none ∨ lastProvisional history ≠ none) :
    dlg.dlg.remoteTag ≠ [] := by
  cases final : firstSuccess history with
  | some rdata =>
    obtain ⟨mem, success⟩ := firstSuccess_mem final
    exact ne_nil_of_sameTag (knows.confirmed rdata final)
      (tagged rdata mem (RxResponse.creating_of_success success))
  | none =>
    obtain ⟨rdata, last⟩ :=
      Option.ne_none_iff_exists'.1 (told.resolve_left fun h => h final)
    obtain ⟨mem, provisional⟩ := lastProvisional_mem last
    refine ne_nil_of_sameTag (knows.early final rdata last) (tagged rdata mem ?_)
    rw [RxResponse.creating, provisional]
    rfl

end Knows

section Acts

variable (uriCmp : List UInt8 → List UInt8 → Bool)

theorem onRxRequest_remoteTag (dlg : Dialog) (rdata : RxRequest) (created : SipStatus)
    (claims : List Bool) :
    (onRxRequest uriCmp dlg rdata created claims).1.remoteTag = dlg.remoteTag ∨ dlg.remoteTag = []
        ∧ (onRxRequest uriCmp dlg rdata created claims).1.remoteTag = rdata.fromTag := by
  unfold onRxRequest
  split
  · exact .inl rfl
  · dsimp only
    generalize tagged : (if dlg.remoteTag = [] then
      { dlg with remoteCseq := rdata.cseq, remoteTag := rdata.fromTag }
      else { dlg with remoteCseq := rdata.cseq }) = dlg₁
    have tag : dlg₁.remoteTag = dlg.remoteTag
        ∨ dlg.remoteTag = [] ∧ dlg₁.remoteTag = rdata.fromTag := by
      rw [← tagged]
      split
      · next untagged => exact .inr ⟨untagged, rfl⟩
      · exact .inl rfl
    split
    · split
      · exact tag
      · rw [(refreshTarget_frame ..).2.2]
        exact tag
    · rw [(refreshTarget_frame ..).2.2]
      exact tag

theorem act_remoteTag (dlg : Dialog) (a : DlgAct) : (dlg.act uriCmp a).remoteTag = dlg.remoteTag
      ∨ dlg.remoteTag = [] ∧ ∃ rdata created claims, a = .rxRequest rdata created claims
        ∧ (dlg.act uriCmp a).remoteTag = rdata.fromTag := by
  cases a with
  | sendRequest tdata created => exact .inl (sendRequest_frame dlg tdata created).2
  | tsxTerminated => exact .inl rfl
  | rxRequest rdata created claims =>
    rcases onRxRequest_remoteTag uriCmp dlg rdata created claims with same | ⟨untagged, new⟩
    · exact .inl same
    · exact .inr ⟨untagged, rdata, created, claims, rfl, new⟩

end Acts

section Runs

variable (uriCmp : List UInt8 → List UInt8 → Bool) {history : List DlgEvent} {dlg : RoutedDialog}

theorem Knows.act (knows : Knows history dlg) (tagged : Tagged history) (a : DlgAct) :
    Knows (.act a :: history) { dlg with dlg := dlg.dlg.act uriCmp a } := by
  have kept : firstSuccess history ≠ none ∨ lastProvisional history ≠ none →
      (dlg.dlg.act uriCmp a).remoteTag = dlg.dlg.remoteTag := fun told =>
    (act_remoteTag uriCmp dlg.dlg a).resolve_right
      fun new => knows.tag_ne_nil tagged told new.1
  refine { knows with confirmed := ?_, early := ?_, unknown := ?_ }
  · intro final found
    have found' : firstSuccess history = some final := found
    show sameTag (dlg.dlg.act uriCmp a).remoteTag _ = true
    rw [kept (.inl (by rw [found']; nofun))]
    exact knows.confirmed final found
  · intro unconfirmed last found
    have found' : lastProvisional history = some last := found
    show sameTag (dlg.dlg.act uriCmp a).remoteTag _ = true
    rw [kept (.inr (by rw [found']; nofun))]
    exact knows.early unconfirmed last found
  · intro unconfirmed unheard
    show (dlg.dlg.act uriCmp a).remoteTag = [] ∨ heard (dlg.dlg.act uriCmp a).remoteTag _ = true
    rcases act_remoteTag uriCmp dlg.dlg a with same | ⟨-, rdata, created, claims, rfl, new⟩
    · rw [same]
      refine (knows.unknown unconfirmed unheard).imp_right fun known => ?_
      cases a with
      | rxRequest rdata created claims =>
        show (_ || heard dlg.dlg.remoteTag history) = true
        rw [known, Bool.or_true]
      | sendRequest tdata created => exact known
      | tsxTerminated => exact known
    · rw [new]
      right
      show (sameTag rdata.fromTag rdata.fromTag || _) = true
      rw [sameTag_refl, Bool.true_or]

theorem Knows.forked (first : RoutedDialog) (rdata : RxResponse) (contact : List UInt8)
    (creating : rdata.creating = true) :
    Knows [.response rdata] ((first.fork rdata contact).onRxResponse uriCmp rdata) := by
  have role : (first.fork rdata contact).role = .uac := rfl
  have received := RoutedDialog.onRxResponse_spec uriCmp role rdata
  have known : (first.fork rdata contact).establishes rdata = false := by
    rw [Bool.eq_false_iff]
    intro establishes
    rcases ((RoutedDialog.establishes_iff role).1 establishes).2 with null | ⟨-, other⟩
    · cases null
    · rw [show (first.fork rdata contact).dlg.remoteTag = rdata.toTag from rfl,
        sameTag_refl] at other
      cases other
  generalize (first.fork rdata contact).onRxResponse uriCmp rdata = dlg' at received
  have tag : dlg'.dlg.remoteTag = rdata.toTag := by
    rw [received.remoteTag, known]
    rfl
  have routes : dlg'.routeSet = routeSetOf rdata.hdrs := by
    rw [received.routeSet]
    split
    · exact ite_self _
    · rfl
  have nothing : firstSuccess [.response rdata] = none →
      lastProvisional [.response rdata] ≠ none := by
    intro unconfirmed unheard
    simp only [firstSuccess_response, lastProvisional_response] at unconfirmed unheard
    rw [RxResponse.creating, Bool.or_eq_true] at creating
    rcases creating with provisional | success
    · rw [if_pos provisional] at unheard
      cases unheard
    · rw [success] at unconfirmed
      cases unconfirmed
  refine ⟨received.role, ?_, ?_, ?_, ?_, ?_, fun unfinished unheard => absurd unheard (nothing unfinished),
    fun unfinished unheard => absurd unheard (nothing unfinished), ?_, ?_⟩
  · rw [received.uacHas2xx]
    show rdata.success = (if rdata.success then some rdata else none).isSome
    cases rdata.success <;> rfl
  · rw [received.frozen]
    show (rdata.success && !rdata.isUpdate)
      = (if rdata.success && !rdata.isUpdate then some rdata else none).isSome
    cases rdata.success && !rdata.isUpdate <;> rfl
  · intro _
    rw [received.state, known]
    rfl
  · intro final found
    have same := (Option.ite_none_right_eq_some.1 found).2
    cases same
    rw [tag, sameTag_refl]
  · intro _ last found
    have same := (Option.ite_none_right_eq_some.1 found).2
    cases same
    rw [tag, sameTag_refl]
  · intro final found
    have same := (Option.ite_none_right_eq_some.1 found).2
    cases same
    exact routes
  · intro _ last found
    have same := (Option.ite_none_right_eq_some.1 found).2
    cases same
    exact routes

theorem knows_of_client (client : Client uriCmp history dlg) (tagged : Tagged history) :
    Knows history dlg := by
  induction client with
  | created rand target routeSet =>
    exact ⟨rfl, rfl, rfl, fun told => absurd told (by simp [firstSuccess, lastProvisional]),
      nofun, nofun, fun _ _ => .inl rfl, nofun, nofun, nofun⟩
  | forked first rdata contact invite known =>
    refine Knows.forked uriCmp first rdata contact (RxResponse.creating_iff.2 ⟨?_, known⟩)
    simp [methodCreatesDialog, invite]
  | next event client ih =>
    have knows := ih tagged.rest
    cases event with
    | response rdata => exact knows.response uriCmp (tagged rdata (.head _))
    | answer stCode => exact knows.answer stCode
    | act a => exact knows.act uriCmp tagged.rest a

/-! ## What stays -/

theorem step_routes_frozen (role : dlg.role = .uac) (frozen : dlg.routeSetFrozen = true)
    (event : DlgEvent) : (dlg.step uriCmp event).routeSet = dlg.routeSet
      ∧ (dlg.step uriCmp event).role = .uac
      ∧ (dlg.step uriCmp event).routeSetFrozen = true := by
  cases event with
  | response rdata =>
    have received := RoutedDialog.onRxResponse_spec uriCmp role rdata
    refine ⟨Knows.routes_frozen received frozen, received.role, ?_⟩
    rw [RoutedDialog.step, received.frozen, RoutedDialog.frozenWith, frozen, Bool.true_or]
  | answer stCode =>
    rw [RoutedDialog.step, RoutedDialog.beautifyResponse]
    split
    · exact ⟨rfl, role, frozen⟩
    · exact ⟨rfl, role, frozen⟩
  | act a => exact ⟨rfl, role, frozen⟩

theorem run_routes_frozen (role : dlg.role = .uac) (frozen : dlg.routeSetFrozen = true)
    (later : List DlgEvent) : (dlg.run uriCmp later).routeSet = dlg.routeSet := by
  induction later generalizing dlg with
  | nil => rfl
  | cons event later ih =>
    obtain ⟨same, role', frozen'⟩ := step_routes_frozen uriCmp role frozen event
    exact (ih role' frozen').trans same

/-- The tag of the dialog has been decided. -/
structure Decided (dlg : RoutedDialog) : Prop where
  role : dlg.role = .uac
  has2xx : dlg.uacHas2xx = true
  established : dlg.state = .established
  tag : dlg.dlg.remoteTag ≠ []

theorem step_decided (decided : Decided dlg) (event : DlgEvent) :
    (dlg.step uriCmp event).dlg.remoteTag = dlg.dlg.remoteTag
      ∧ Decided (dlg.step uriCmp event) := by
  cases event with
  | response rdata =>
    have received := RoutedDialog.onRxResponse_spec uriCmp decided.role rdata
    have stays : dlg.establishes rdata = false := by
      rw [Bool.eq_false_iff]
      intro establishes
      rcases ((RoutedDialog.establishes_iff decided.role).1 establishes).2 with
        null | ⟨first, -⟩
      · rw [decided.established] at null
        cases null
      · rw [decided.has2xx] at first
        cases first
    have tag := received.remoteTag
    have state := received.state
    rw [stays] at tag state
    refine ⟨tag, received.role, ?_, state.trans decided.established, ?_⟩
    · rw [RoutedDialog.step, received.uacHas2xx, decided.has2xx, Bool.true_or]
    · exact fun nil => decided.tag (tag.symm.trans nil)
  | answer stCode =>
    rw [RoutedDialog.step, RoutedDialog.beautifyResponse,
      if_neg (by rw [decided.established]; nofun)]
    exact ⟨rfl, decided⟩
  | act a =>
    have same := (act_remoteTag uriCmp dlg.dlg a).resolve_right fun new => decided.tag new.1
    exact ⟨same, decided.role, decided.has2xx, decided.established,
      fun nil => decided.tag (same.symm.trans nil)⟩

theorem run_decided (decided : Decided dlg) (later : List DlgEvent) :
    (dlg.run uriCmp later).dlg.remoteTag = dlg.dlg.remoteTag := by
  induction later generalizing dlg with
  | nil => rfl
  | cons event later ih =>
    obtain ⟨same, decided'⟩ := step_decided uriCmp decided event
    exact (ih decided').trans same

theorem routeSetOf_eq (hdrs : List RxHdr) :
    routeSetOf hdrs = (hdrs.filterMap RxHdr.recordRoute?).reverse :=
  List.filterMap_reverse

theorem firstFreezing_eq (regular : Regular history) :
    firstFreezing history = firstSuccess history := by
  induction history with
  | nil => rfl
  | cons event before ih =>
    cases event with
    | response rdata =>
      rw [Regular, Bool.and_eq_true, Bool.or_eq_true] at regular
      rw [firstFreezing_response, firstSuccess_response, ih regular.2]
      cases known : firstSuccess before with
      | some final => rfl
      | none =>
        have now := regular.1
        rw [known] at now
        cases update : rdata.isUpdate <;> simp_all [Dlg.regular]
    | answer stCode => exact ih regular
    | act a => exact ih regular

theorem lastBringing_tag (regular : Regular history) (unconfirmed : firstSuccess history = none)
    {rdata : RxResponse} (last : lastProvisional history = some rdata) :
    ∃ first, lastBringing history = some first ∧ sameTag first.toTag rdata.toTag = true := by
  induction history generalizing rdata with
  | nil => cases last
  | cons event before ih =>
    cases event with
    | response now =>
      rw [firstSuccess_response, Option.or_eq_none_iff] at unconfirmed
      rw [Regular, Bool.and_eq_true, unconfirmed.1] at regular
      rw [lastBringing_response]
      rw [lastProvisional_response] at last
      split at last
      · next provisional =>
        cases last
        split
        · exact ⟨rdata, rfl, sameTag_refl rdata.toTag⟩
        · next old =>
          -- it has the tag of the provisional response before it
          obtain ⟨earlier, found, same⟩ : ∃ earlier, lastProvisional before = some earlier
              ∧ sameTag earlier.toTag rdata.toTag = true := by
            have now := regular.1
            cases found : lastProvisional before with
            | none => cases update : rdata.isUpdate <;> simp_all [Dlg.regular, brings]
            | some earlier => cases update : rdata.isUpdate <;> simp_all [Dlg.regular, brings]
          obtain ⟨first, brought, same'⟩ := ih regular.2 unconfirmed.1 found
          exact ⟨first, brought, (sameTag_congr same').trans same⟩
      · next other =>
        rw [if_neg fun new => other (by simp_all [brings])]
        exact ih regular.2 unconfirmed.1 last
    | answer stCode => exact ih regular unconfirmed last
    | act a => exact ih regular unconfirmed last

end Runs

/-- A response of this fork, with one Record-Route. -/
def forkResponse (code : Nat) (method : Method) (toTag : List UInt8) : DlgEvent :=
  .response {
    code
    method
    toTag
    hdrs := [.recordRoute { uri := .other 0 toTag }]
    contact := none
    tpOutgoing := true
    tpRemoteHost := [] }

def inviteMethod : Method := ⟨.invite, ascii "INVITE".toList⟩

theorem client_events {uriCmp : List UInt8 → List UInt8 → Bool} (events : List DlgEvent) :
    Client uriCmp events.reverse ((RoutedDialog.createUac 7 [] []).run uriCmp events) := by
  suffices later : ∀ (history : List DlgEvent) (dlg : RoutedDialog), Client uriCmp history dlg →
      Client uriCmp (events.reverse ++ history) (dlg.run uriCmp events) by
    simpa using later [] _ (.created 7 [] [])
  induction events with
  | nil => exact fun _ _ client => client
  | cons event events ih =>
    intro history dlg client
    rw [List.reverse_cons, List.append_assoc]
    exact ih _ _ (client.next event)

/-- 183 from two forks, an UPDATE that the second one answers with 180, and 200 from the first. -/
def forks : List DlgEvent :=
  [forkResponse 183 inviteMethod [1], forkResponse 183 inviteMethod [2],
    forkResponse 180 updateMethod [2], forkResponse 200 inviteMethod [1],
    forkResponse 200 updateMethod [1]]

/-- After 183 an UPDATE is answered 200 by the same fork, and then another accepts the INVITE. -/
def updated : List DlgEvent :=
  [forkResponse 183 inviteMethod [1], forkResponse 200 updateMethod [1],
    forkResponse 200 inviteMethod [2]]

end Pjsip.Sip.Dlg
