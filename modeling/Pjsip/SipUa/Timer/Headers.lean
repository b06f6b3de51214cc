import Pjsip.SipUa.Timer.Model

/-!
# The headers of a response

`pjsip_timer_update_resp` writes its headers into a message that already holds others: it adds a
Session-Expires header and, where the UAC refreshes, has `timer` in a Require header that may hold
the option tags of other extensions. The search for `timer` takes any other option tag for it.
-/

namespace Pjsip.SipUa.Timer

open Pjsip.Pjlib Pjsip.Sip

/-- `PJSIP_GENERIC_ARRAY_MAX_COUNT` -/
def genericArrayMaxCount : Nat := 32

/-- The values of a `pjsip_generic_array_hdr`. -/
abbrev GenericArrayHdr := { values : List (List UInt8) // values.length ≤ genericArrayMaxCount }

/-- `hdr->values[hdr->count++] = value`; no result where that is behind the array. -/
def GenericArrayHdr.push (hdr : GenericArrayHdr) (value : List UInt8) : Option GenericArrayHdr :=
  if room : hdr.1.length < genericArrayMaxCount then
    some ⟨hdr.1 ++ [value], by simpa using Nat.succ_le_of_lt room⟩
  else none

inductive Hdr where
  | sessExpires (hdr : SessExpiresHdr)
  | minSe (value : Nat)
  | require (hdr : GenericArrayHdr)
  | other (name value : List UInt8)
  deriving DecidableEq

/-- A response with its headers in order. -/
structure RespMsg where
  code : Nat
  method : Method
  cseq : Int32
  hdrs : List Hdr
  deriving DecidableEq

def Hdr.sessExpires? : Hdr → Option SessExpiresHdr
  | .sessExpires hdr => some hdr
  | _ => none

def Hdr.minSe? : Hdr → Option Nat
  | .minSe value => some value
  | _ => none

def Hdr.require? : Hdr → Option GenericArrayHdr
  | .require hdr => some hdr
  | _ => none

/-- Has `timer` in the first Require header, as `pjsip_timer_update_resp` has it: any value that
is not `timer` is taken for it. -/
def addRequireTimer : List Hdr → Option (List Hdr)
  | [] => some [.require ⟨[strTimer], by decide⟩]
  | .require hdr :: rest =>
    if hdr.1.any fun value => stricmp value strTimer ≠ 0 then some (.require hdr :: rest)
    else (hdr.push strTimer).map (.require · :: rest)
  | hdr :: rest => (addRequireTimer rest).map (hdr :: ·)

/-- The headers of a 2xx response when the timer is active. -/
def addAcceptedHdrs (timer : PjsipTimer) (hdrs : List Hdr) : Option (List Hdr) :=
  let hdrs := hdrs ++ [.sessExpires (addSessExpires timer)]
  if timer.refresher = .uac then addRequireTimer hdrs else some hdrs

/-- The timer's headers of a response, up to where `pjsip_timer_update_resp` starts the timer. -/
def updateRespHdrs (options : InvOptions) (timer : PjsipTimer) (msg : RespMsg) : Option RespMsg :=
  if options.supportTimer = false then some msg
  else if msg.code / 100 = 2 then
    if timer.active then
      (addAcceptedHdrs timer msg.hdrs).map fun hdrs => { msg with hdrs := hdrs }
    else some msg
  else if msg.code = 422 then
    some { msg with hdrs := msg.hdrs ++ [.minSe timer.setting.minSe] }
  else some msg

/-! ## The message and what is read of it -/

theorem addRequireTimer_others {hdrs hdrs' : List Hdr} (added : addRequireTimer hdrs = some hdrs')
    {β : Type} {f : Hdr → Option β} (skips : ∀ hdr, f (.require hdr) = none) :
    hdrs'.filterMap f = hdrs.filterMap f := by
  induction hdrs generalizing hdrs' with
  | nil =>
    cases added
    simp [skips]
  | cons hdr rest ih =>
    cases hdr with
    | require hdr =>
      simp only [addRequireTimer] at added
      split at added
      · cases added
        rfl
      · obtain ⟨pushed, -, rfl⟩ := Option.map_eq_some_iff.1 added
        rw [List.filterMap_cons, List.filterMap_cons, skips, skips]
    | sessExpires _ | minSe _ | other _ _ =>
      obtain ⟨rest', tail, rfl⟩ := Option.map_eq_some_iff.1 added
      rw [List.filterMap_cons, List.filterMap_cons, ih tail]

/-- What is read of a response: the first header of each kind. -/
def RespMsg.read (msg : RespMsg) : Response where
  code := msg.code
  method := msg.method
  cseq := msg.cseq
  require := (msg.hdrs.findSome? Hdr.require?).map Subtype.val
  sessExpires := msg.hdrs.findSome? Hdr.sessExpires?
  minSe := msg.hdrs.findSome? Hdr.minSe?

theorem RespMsg.read_snoc (msg : RespMsg) (hdr : Hdr) :
    { msg with hdrs := msg.hdrs ++ [hdr] : RespMsg }.read = { msg.read with
      require := msg.read.require.or (hdr.require?.map Subtype.val)
      sessExpires := msg.read.sessExpires.or hdr.sessExpires?
      minSe := msg.read.minSe.or hdr.minSe? } := by
  simp [RespMsg.read, List.findSome?_append, Option.map_or]

theorem addRequireTimer_require {hdrs hdrs' : List Hdr} (added : addRequireTimer hdrs = some hdrs') :
    (hdrs'.findSome? Hdr.require?).map Subtype.val
      = some (requireTimer ((hdrs.findSome? Hdr.require?).map Subtype.val)) := by
  induction hdrs generalizing hdrs' with
  | nil =>
    cases added
    rfl
  | cons hdr rest ih =>
    cases hdr with
    | require hdr =>
      simp only [addRequireTimer] at added
      show _ = some (requireTimer (some hdr.1))
      rw [requireTimer]
      split at added
      · next has =>
        cases added
        rw [if_pos has]
        rfl
      · next all =>
        obtain ⟨pushed, push, rfl⟩ := Option.map_eq_some_iff.1 added
        rw [GenericArrayHdr.push] at push
        split at push
        · cases push
          rw [if_neg all]
          rfl
        · cases push
    | sessExpires _ | minSe _ | other _ _ =>
      obtain ⟨rest', tail, rfl⟩ := Option.map_eq_some_iff.1 added
      have later := ih tail
      exact later

theorem RespMsg.read_require (msg : RespMsg) {hdrs : List Hdr}
    (added : addRequireTimer msg.hdrs = some hdrs) : { msg with hdrs : RespMsg }.read
      = { msg.read with require := some (requireTimer msg.read.require) } := by
  have expires : hdrs.findSome? Hdr.sessExpires? = msg.hdrs.findSome? Hdr.sessExpires? := by
    rw [← List.head?_filterMap, ← List.head?_filterMap, addRequireTimer_others added fun _ => rfl]
  have minSe : hdrs.findSome? Hdr.minSe? = msg.hdrs.findSome? Hdr.minSe? := by
    rw [← List.head?_filterMap, ← List.head?_filterMap, addRequireTimer_others added fun _ => rfl]
  simp only [RespMsg.read, addRequireTimer_require added, expires, minSe]

/-- In a response that has none of the headers of the timer yet, what is written is what
`pjsipTimerUpdateResp` says of the headers that are read. -/
theorem updateRespHdrs_read {options : InvOptions} {update : Bool} {now : Nat}
    {timer timer' : PjsipTimer} {msg msg' : RespMsg} {res : Response}
    (fresh : msg.read.sessExpires = none ∧ msg.read.minSe = none)
    (written : updateRespHdrs options timer msg = some msg')
    (updated : pjsipTimerUpdateResp options update now timer msg.read = some (timer', res)) :
    msg'.read = res := by
  obtain ⟨noExpires, noMinSe⟩ := fresh
  rw [updateRespHdrs] at written
  rw [pjsipTimerUpdateResp] at updated
  by_cases off : options.supportTimer = false
  · rw [if_pos off] at written updated
    cases written
    cases updated
    rfl
  rw [if_neg off] at written updated
  by_cases accepted : msg.code / 100 = 2
  · rw [if_pos accepted] at written
    rw [if_pos (show msg.read.code / 100 = 2 from accepted)] at updated
    by_cases active : timer.active = true
    · rw [if_pos active] at written updated
      obtain ⟨hdrs', added, rfl⟩ := Option.map_eq_some_iff.1 written
      obtain ⟨_, -, result⟩ := Option.map_eq_some_iff.1 updated
      cases result
      have expires := msg.read_snoc (.sessExpires (addSessExpires timer))
      rw [noExpires] at expires
      rw [addAcceptedHdrs] at added
      split at added
      · next uac =>
        have required := RespMsg.read_require { msg with hdrs := msg.hdrs ++ [_] } added
        rw [expires] at required
        rw [if_pos uac]
        simpa [Hdr.require?, Hdr.sessExpires?, Hdr.minSe?] using required
      · next other =>
        cases added
        rw [expires, if_neg other]
        simp [Hdr.require?, Hdr.sessExpires?, Hdr.minSe?]
    · rw [if_neg active] at written updated
      cases written
      cases updated
      rfl
  rw [if_neg accepted] at written
  rw [if_neg (show ¬ msg.read.code / 100 = 2 from accepted)] at updated
  by_cases tooSmall : msg.code = 422
  · rw [if_pos tooSmall] at written
    rw [if_pos (show msg.read.code = 422 from tooSmall)] at updated
    cases written
    cases updated
    rw [msg.read_snoc, noMinSe]
    simp [Hdr.require?, Hdr.sessExpires?, Hdr.minSe?]
  · rw [if_neg tooSmall] at written
    rw [if_neg (show ¬ msg.read.code = 422 from tooSmall)] at updated
    cases written
    cases updated
    rfl

/-! ## What the headers are to say -/

/-- An option tag that is `timer`, ignoring case. -/
def isTimer (value : List UInt8) : Bool := SameText value strTimer

theorem isTimer_iff {value : List UInt8} : isTimer value = true ↔ stricmp value strTimer = 0 := by
  rw [isTimer, decide_eq_true_eq, stricmp_visible]
  constructor
  · exact fun same => ⟨same.length, visible_lower same⟩
  · exact fun ⟨lengths, seen⟩ => (sameText_of_visible (by decide) lengths.symm seen.symm).symm

def sessExpiresHdrs (hdrs : List Hdr) : List SessExpiresHdr := hdrs.filterMap Hdr.sessExpires?

/-- The option tags of all Require headers, in order. -/
def requireValues (hdrs : List Hdr) : List (List UInt8) :=
  (hdrs.filterMap Hdr.require?).flatMap Subtype.val

/-- The name of a refresher in a header. -/
def TimerRefresher.named : TimerRefresher → List UInt8
  | .unknown => []
  | .uac => strUac
  | .uas => strUas

/-- The values of before in order, and `timer` as often as before, or once. -/
structure TimerRequired (before after : List (List UInt8)) : Prop where
  kept : before.Sublist after
  others : after.filter (! isTimer ·) = before.filter (! isTimer ·)
  times : after.countP isTimer = if before.any isTimer then before.countP isTimer else 1

/-- The headers of a 2xx response when the timer is active. -/
structure TimerHeaders (timer : PjsipTimer) (before after : List Hdr) : Prop where
  sessExpires : sessExpiresHdrs after = [⟨timer.setting.sessExpires, timer.refresher.named⟩]
  require : timer.refresher = .uac → TimerRequired (requireValues before) (requireValues after)

/-! ## What they say -/

theorem TimerRequired.same_iff {values : List (List UInt8)} :
    TimerRequired values values ↔ values.any isTimer = true := by
  constructor
  · intro required
    by_contra lacks
    have times := required.times
    rw [if_neg lacks, List.countP_eq_zero.2 (by simpa using lacks)] at times
    cases times
  · intro holds
    exact ⟨.refl _, rfl, by rw [if_pos holds]⟩

theorem TimerRequired.grown_iff (first second : List (List UInt8)) :
    TimerRequired (first ++ second) (first ++ strTimer :: second)
      ↔ (first ++ second).any isTimer = false := by
  have itself : isTimer strTimer = true := by decide
  have more : (first ++ strTimer :: second).countP isTimer
      = (first ++ second).countP isTimer + 1 := by
    simp [itself]
    omega
  constructor
  · intro required
    by_contra holds
    have times := required.times
    rw [if_pos (Bool.not_eq_false _ ▸ holds), more] at times
    omega
  · intro lacks
    have zero : (first ++ second).countP isTimer = 0 := by
      rw [List.countP_eq_zero]
      exact fun value mem => Bool.not_eq_true _ ▸ List.any_eq_false.1 lacks value mem
    refine ⟨(List.sublist_cons_self _ _).append_left _, by simp [itself], ?_⟩
    rw [more, if_neg (by simp [lacks]), zero]

/-- The first Require header, if there is one, holds something other than `timer` exactly if some
Require header holds `timer`. -/
def Mistakable (hdrs : List Hdr) : Prop :=
  ∀ hdr ∈ hdrs.findSome? Hdr.require?,
    (∃ value ∈ hdr.1, isTimer value = false) ↔ ∃ value ∈ requireValues hdrs, isTimer value = true

theorem addRequireTimer_required {hdrs : List Hdr}
    (room : ∀ hdr ∈ hdrs.findSome? Hdr.require?, hdr.1.length < genericArrayMaxCount) :
    ∃ hdrs', addRequireTimer hdrs = some hdrs'
      ∧ (TimerRequired (requireValues hdrs) (requireValues hdrs') ↔ Mistakable hdrs) := by
  induction hdrs with
  | nil =>
    exact ⟨_, rfl, iff_of_true ((TimerRequired.grown_iff [] []).2 rfl) nofun⟩
  | cons hdr rest ih =>
    cases hdr with
    | require hdr =>
      have short := room hdr rfl
      have values : requireValues (.require hdr :: rest) = hdr.1 ++ requireValues rest := rfl
      have mistakable : Mistakable (.require hdr :: rest)
          ↔ ((∃ value ∈ hdr.1, isTimer value = false)
            ↔ ∃ value ∈ hdr.1 ++ requireValues rest, isTimer value = true) := by
        constructor
        · exact fun right => right hdr rfl
        · rintro right _ ⟨⟩
          exact right
      have search : (hdr.1.any fun value => stricmp value strTimer ≠ 0) = true
          ↔ ∃ value ∈ hdr.1, isTimer value = false := by
        simp only [List.any_eq_true, decide_eq_true_eq, ne_eq, ← isTimer_iff, Bool.not_eq_true]
      simp only [addRequireTimer]
      split
      · next has =>
        refine ⟨_, rfl, ?_⟩
        rw [values, TimerRequired.same_iff, mistakable, iff_true_left (search.1 has)]
        exact List.any_eq_true
      · next all =>
        refine ⟨.require ⟨hdr.1 ++ [strTimer], by simpa using Nat.succ_le_of_lt short⟩ :: rest,
          ?_, ?_⟩
        · rw [GenericArrayHdr.push, dif_pos short]
          rfl
        · have grown : requireValues (.require ⟨hdr.1 ++ [strTimer],
              by simpa using Nat.succ_le_of_lt short⟩ :: rest)
                = hdr.1 ++ strTimer :: requireValues rest := by
            show (hdr.1 ++ [strTimer]) ++ requireValues rest = _
            rw [List.append_assoc, List.singleton_append]
          rw [grown, values, TimerRequired.grown_iff, mistakable,
            iff_false_left (fun has => all (search.2 has)), ← List.any_eq_true,
            Bool.not_eq_true]
    | sessExpires _ | minSe _ | other _ _ =>
      obtain ⟨rest', added, required⟩ := ih room
      exact ⟨_, congrArg (Option.map (_ :: ·)) added, required⟩

/-- The headers of a 2xx response come out right exactly if the search for `timer`, which takes
every other option tag for it, happens to end as the right search would. -/
theorem updateRespHdrs_headers_iff {options : InvOptions} {timer : PjsipTimer} {msg : RespMsg}
    (support : options.supportTimer = true) (active : timer.active = true)
    (accepted : msg.code / 100 = 2) (fresh : sessExpiresHdrs msg.hdrs = [])
    (room : ∀ hdr ∈ msg.hdrs.findSome? Hdr.require?, hdr.1.length < genericArrayMaxCount) :
    (∃ msg', updateRespHdrs options timer msg = some msg' ∧ TimerHeaders timer msg.hdrs msg'.hdrs)
      ↔ (timer.refresher = .uac → Mistakable msg.hdrs) := by
  have one : addSessExpires timer = ⟨timer.setting.sessExpires, timer.refresher.named⟩ := by
    rw [addSessExpires]
    cases timer.refresher <;> rfl
  let hdrs := msg.hdrs ++ [.sessExpires (addSessExpires timer)]
  have expires : sessExpiresHdrs hdrs = [⟨timer.setting.sessExpires, timer.refresher.named⟩] := by
    show (msg.hdrs ++ [_]).filterMap _ = _
    rw [List.filterMap_append, show msg.hdrs.filterMap Hdr.sessExpires? = [] from fresh, one]
    rfl
  have values : requireValues hdrs = requireValues msg.hdrs := by
    simp [requireValues, hdrs, List.filterMap_append, Hdr.require?]
  have first : hdrs.findSome? Hdr.require? = msg.hdrs.findSome? Hdr.require? := by
    simp [hdrs, List.findSome?_append, Hdr.require?]
  have written : updateRespHdrs options timer msg
      = (if timer.refresher = .uac then addRequireTimer hdrs else some hdrs).map
        fun hdrs => { msg with hdrs := hdrs } := by
    rw [updateRespHdrs, if_neg (by simp [support]), if_pos accepted, if_pos active]
    rfl
  rw [written]
  by_cases uac : timer.refresher = .uac
  · obtain ⟨hdrs', added, required⟩ := addRequireTimer_required (by rwa [first])
    have same : Mistakable hdrs ↔ Mistakable msg.hdrs := by
      rw [Mistakable, Mistakable, first, values]
    have kept : sessExpiresHdrs hdrs' = sessExpiresHdrs hdrs :=
      addRequireTimer_others added fun _ => rfl
    rw [if_pos uac, added, ← same, ← required, values]
    constructor
    · rintro ⟨msg', ⟨⟩, headers⟩ uac
      exact headers.require uac
    · exact fun right => ⟨_, rfl, kept.trans expires, right⟩
  · rw [if_neg uac]
    exact iff_of_true ⟨_, rfl, expires, fun same => absurd same uac⟩ fun same => absurd same uac

section Example

/-- The timer of a called party that lets the caller refresh. -/
def refreshedTimer : PjsipTimer :=
  { resetTimer pjsipTimerSettingDefault with active := true, refresher := .uac, role := .uas }

/-- A 200 response to an INVITE with these option tags required. -/
def okRequiring (values : GenericArrayHdr) : RespMsg where
  code := 200
  method := pjsipInviteMethod
  cseq := 1
  hdrs := [.require values]

theorem updateRespHdrs_headers_both :
    Mistakable [.require ⟨[strTimer, ascii ['1', '0', '0', 'r', 'e', 'l']], by decide⟩]
      ∧ ∃ msg', updateRespHdrs ⟨true, false, false⟩ refreshedTimer
          (okRequiring ⟨[strTimer, ascii ['1', '0', '0', 'r', 'e', 'l']], by decide⟩) = some msg'
        ∧ TimerHeaders refreshedTimer
          [.require ⟨[strTimer, ascii ['1', '0', '0', 'r', 'e', 'l']], by decide⟩] msg'.hdrs := by
  have mistakable :
      Mistakable [.require ⟨[strTimer, ascii ['1', '0', '0', 'r', 'e', 'l']], by decide⟩] := by
    rintro _ ⟨⟩
    decide
  refine ⟨mistakable, ?_⟩
  exact (updateRespHdrs_headers_iff rfl rfl rfl rfl (by rintro _ ⟨⟩; decide)).2 fun _ => mistakable

/-- The option tag of reliable provisional responses is taken for `timer`. -/
theorem updateRespHdrs_misses_timer : ¬ ∃ msg', updateRespHdrs ⟨true, false, false⟩ refreshedTimer
        (okRequiring ⟨[ascii ['1', '0', '0', 'r', 'e', 'l']], by decide⟩) = some msg'
      ∧ TimerHeaders refreshedTimer [.require ⟨[ascii ['1', '0', '0', 'r', 'e', 'l']], by decide⟩]
        msg'.hdrs := by
  rintro ⟨msg', written, headers⟩
  cases written
  have times := (headers.require rfl).times
  revert times
  decide

end Example

end Pjsip.SipUa.Timer
