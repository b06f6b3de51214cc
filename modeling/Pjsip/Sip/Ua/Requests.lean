import Pjsip.Sip.Ua.Exact

/-!
# Requests inside of dialogs

`mod_ua_on_rx_request` looks for the dialog of a request in the same table as
`pjsip_ua_find_dialog`, by the same tags, but does not look at the Call-ID. The table here is one
that any calls have led to, as long as no assertion failed: dialogs of one set may have different
Call-IDs.
-/

namespace Pjsip.Sip.Ua

open Pjsip.Base Pjsip.Pjlib

variable {rows : Nat} {dialogs : DlgId → Dialog}

/-! ## Incoming requests -/

/-- What is read of a request. -/
structure RxRequest where
  /-- The method of the request line. -/
  method : MethodId
  /-- The method of the CSeq header. -/
  cseqMethod : MethodId
  callId : List UInt8
  fromTag : List UInt8
  toTag : List UInt8
  /-- The dialog of the INVITE transaction that a CANCEL is for. -/
  cancelledDlg : Option DlgId
  deriving DecidableEq, Repr

inductive RxOutcome where
  /-- Left to other modules. -/
  | declined
  /-- Answered with 481. -/
  | answered
  | dropped
  /-- An empty set is taken for a dialog. -/
  | invalid
  /-- Handed to `pjsip_dlg_on_rx_request` of a dialog. -/
  | handed (d : DlgId)
  deriving DecidableEq, Repr

/-- `find_dlg_set_for_msg`, for requests -/
def findDlgSetForMsg (ua : UserAgent rows) (rdata : RxRequest) : Option Nat :=
  if rdata.cseqMethod = .cancel then rdata.cancelledDlg.bind ua.dlgSet
  else pjHashGetLower ua.dlgTable rdata.toTag 0

/-- A request without a dialog; an ACK is not answered. -/
def noDialog (rdata : RxRequest) : RxOutcome :=
  if rdata.method ≠ .ack then .answered else .dropped

/-- `mod_ua_on_rx_request`; a dialog whose lock cannot be taken is looked for again from the
start, with the tags and the table that there are then. -/
def modUaOnRxRequest (ua : UserAgent rows) (remoteTags : DlgId → Tag) (rdata : RxRequest) :
    RxOutcome :=
  if rdata.toTag.length = 0 ∧ rdata.method ≠ .cancel then .declined
  else if rdata.method = .register then .declined
  else
    match findDlgSetForMsg ua rdata with
    | none => noDialog rdata
    | some set =>
      match findRemote remoteTags rdata.fromTag (ua.sets set).dlgList with
      | some d => .handed d
      | none =>
        match (ua.sets set).dlgList with
        | [] => .invalid
        | firstDlg :: _ =>
          if (remoteTags firstDlg).1.length ≠ 0 then noDialog rdata else .handed firstDlg

/-- The dialogs of the set that a local tag is mapped to. -/
def dlgsWith (ua : UserAgent rows) (tag : List UInt8) : List DlgId :=
  match pjHashGetLower ua.dlgTable tag 0 with
  | none => []
  | some set => (ua.sets set).dlgList

/-- The dialog of a set that a From tag stands for: the first with this remote tag, or the first
of all if none has it and the first has no remote tag yet. -/
inductive Selects (remoteTags : DlgId → Tag) (fromTag : List UInt8) : List DlgId → DlgId → Prop
  | tag {before after : List DlgId} {d : DlgId}
      (others : ∀ r ∈ before, ¬ SameText (remoteTags r).1 fromTag)
      (own : SameText (remoteTags d).1 fromTag) :
      Selects remoteTags fromTag (before ++ d :: after) d
  | half {rest : List DlgId} {d : DlgId}
      (others : ∀ r ∈ d :: rest, ¬ SameText (remoteTags r).1 fromTag)
      (empty : (remoteTags d).1 = []) : Selects remoteTags fromTag (d :: rest) d

theorem Selects.mem {remoteTags : DlgId → Tag} {fromTag : List UInt8} {dlgList : List DlgId}
    {d : DlgId} (selects : Selects remoteTags fromTag dlgList d) : d ∈ dlgList := by
  cases selects <;> simp

/-- A request is handed to a dialog with its Call-ID, whose tags are the tags of the request, or
which is the first of its set and has no remote tag while none of the set has this one. -/
def ReachesOwn (dialogs : DlgId → Dialog) (ua : UserAgent rows) (remoteTags : DlgId → Tag)
    (rdata : RxRequest) : Prop :=
  ∀ d, modUaOnRxRequest ua remoteTags rdata = .handed d → (dialogs d).callId = rdata.callId
    ∧ SameText (dialogs d).localTag.1 rdata.toTag
    ∧ (SameText (remoteTags d).1 rdata.fromTag
      ∨ (∀ r ∈ dlgsWith ua rdata.toTag, ¬ SameText (remoteTags r).1 rdata.fromTag)
        ∧ (dlgsWith ua rdata.toTag).head? = some d ∧ (remoteTags d).1 = [])

/-- A dialog that `pjsip_ua_find_dialog` finds gets the request. -/
def FoundIsHanded (dialogs : DlgId → Dialog) (ua : UserAgent rows) (remoteTags : DlgId → Tag)
    (rdata : RxRequest) : Prop :=
  ∀ d, pjsipUaFindDialog dialogs ua remoteTags rdata.callId rdata.toTag rdata.fromTag = some d →
    modUaOnRxRequest ua remoteTags rdata = .handed d

/-! ## Tables that calls have led to -/

/-- The user agent and the registered dialogs after any calls, no assertion having failed. -/
inductive Reachable (dialogs : DlgId → Dialog) : UserAgent rows → List DlgId → Prop
  | init : Reachable dialogs (initUa rows) []
  | register {ua ua' : UserAgent rows} {registered : List DlgId} {d : DlgId}
      (before : Reachable dialogs ua registered) (new : d ∉ registered)
      (stepped : pjsipUaRegisterDlg dialogs ua d = .ok ua') :
      Reachable dialogs ua' (registered ++ [d])
  | unregister {ua ua' : UserAgent rows} {registered : List DlgId} {d : DlgId}
      (before : Reachable dialogs ua registered) (mem : d ∈ registered)
      (stepped : pjsipUaUnregisterDlg dialogs ua d = .ok ua') :
      Reachable dialogs ua' (registered.erase d)

/-- The dialogs of a set have one local tag, and an entry has the tag of the set it leads to. -/
structure Grouped (dialogs : DlgId → Dialog) (ua : UserAgent rows) : Prop where
  sameSet : ∀ set, ∀ d ∈ (ua.sets set).dlgList, SameSet dialogs d (ua.sets set).htKey
  held : ∀ e, ua.dlgTable.Holds e → ∃ d, e.key = keyOf dialogs d
    ∧ SameSet dialogs d (ua.sets e.value).htKey
    ∧ e.value < ua.allocated ∧ e.value ∉ ua.freeDlgsetNodes
  inUse : ∀ set, (ua.sets set).dlgList ≠ [] → set < ua.allocated ∧ set ∉ ua.freeDlgsetNodes
  freeNodup : ua.freeDlgsetNodes.Nodup
  freeAllocated : ∀ set ∈ ua.freeDlgsetNodes, set < ua.allocated

section Grouped

variable {ua ua' : UserAgent rows} {d : DlgId} {set : Nat}

theorem grouped_init : Grouped dialogs (initUa rows) where
  sameSet _ _ mem := by nomatch mem
  held e held := by
    obtain ⟨i, mem⟩ := held
    nomatch mem
  inUse _ used := absurd rfl used
  freeNodup := List.nodup_nil
  freeAllocated _ mem := by nomatch mem

theorem Grouped.found (grouped : Grouped dialogs ua) {tag : List UInt8}
    (found : pjHashGetLower ua.dlgTable tag 0 = some set) :
    SameText (dialogs (ua.sets set).htKey).localTag.1 tag := by
  obtain ⟨e, held, same, rfl⟩ := ChainedTable.get_holds found
  obtain ⟨r, key, text, -, -⟩ := grouped.held e held
  rw [key, findKey_zero] at same
  exact text.symm.trans (sameKey_keyOf.1 same)

theorem Grouped.sameSet_update (grouped : Grouped dialogs ua) {new : DlgSet}
    (same : ∀ r ∈ new.dlgList, SameSet dialogs r new.htKey) (node : Nat) :
    ∀ r ∈ (Function.update ua.sets set new node).dlgList,
      SameSet dialogs r (Function.update ua.sets set new node).htKey := by
  by_cases here : node = set
  · subst here
    rw [Function.update_self]
    exact same
  · rw [Function.update_of_ne here]
    exact grouped.sameSet node

theorem Grouped.relist (grouped : Grouped dialogs ua) {dlgList : List DlgId}
    (same : ∀ r ∈ dlgList, SameSet dialogs r (ua.sets set).htKey)
    (used : dlgList ≠ [] → set < ua.allocated ∧ set ∉ ua.freeDlgsetNodes)
    (dlgSet : DlgId → Option Nat) :
    Grouped dialogs { ua with
      sets := Function.update ua.sets set { ua.sets set with dlgList }, dlgSet } where
  sameSet := grouped.sameSet_update same
  held e held := by
    obtain ⟨r, key, text, rest⟩ := grouped.held e held
    refine ⟨r, key, ?_, rest⟩
    show SameSet dialogs r (Function.update ua.sets set _ e.value).htKey
    by_cases here : e.value = set
    · rw [here, Function.update_self, ← here]
      exact text
    · rw [Function.update_of_ne here]
      exact text
  inUse node inUse' := by
    change (Function.update ua.sets set _ node).dlgList ≠ [] at inUse'
    by_cases here : node = set
    · subst here
      rw [Function.update_self] at inUse'
      exact used inUse'
    · rw [Function.update_of_ne here] at inUse'
      exact grouped.inUse node inUse'
  freeNodup := grouped.freeNodup
  freeAllocated := grouped.freeAllocated

theorem Grouped.create (grouped : Grouped dialogs ua) :
    Grouped dialogs (createDlgSet dialogs ua d) := by
  rcases alloc : allocDlgsetNode ua with ⟨set, ua'⟩
  obtain ⟨table, sets, dlgSet, taken, small, notFree, more, sub⟩ :=
    allocDlgsetNode_spec alloc grouped.freeNodup grouped.freeAllocated
  rw [createDlgSet_eq alloc table sets dlgSet]
  refine ⟨?_, ?_, ?_, grouped.freeNodup.sublist sub, fun node mem =>
    Nat.lt_of_lt_of_le (grouped.freeAllocated node (sub.subset mem)) more⟩
  · exact grouped.sameSet_update fun r mem => by rw [List.mem_singleton.1 mem]; exact rfl
  · have own : SameSet dialogs d (Function.update ua.sets set ⟨d, [d]⟩ set).htKey := by
      rw [Function.update_self]
      exact rfl
    intro e held
    rcases ChainedTable.Holds.of_put held with rfl | ⟨e', old, same, rfl⟩ | old
    · exact ⟨d, rfl, own, small, notFree⟩
    · -- another set had this tag: its entry now leads to the new one
      obtain ⟨r, key, -⟩ := grouped.held e' old
      rw [key] at same
      exact ⟨r, key, (sameKey_dialogs.1 same).trans own, small, notFree⟩
    · obtain ⟨r, key, text, low, notIn⟩ := grouped.held e old
      have node : e.value ≠ set := fun same => notIn (same ▸ taken (same ▸ low))
      refine ⟨r, key, ?_, Nat.lt_of_lt_of_le low more, fun there => notIn (sub.subset there)⟩
      show SameSet dialogs r (Function.update ua.sets set _ e.value).htKey
      rw [Function.update_of_ne node]
      exact text
  · intro node used'
    change (Function.update ua.sets set _ node).dlgList ≠ [] at used'
    by_cases here : node = set
    · subst here
      exact ⟨small, notFree⟩
    · rw [Function.update_of_ne here] at used'
      obtain ⟨low, notIn⟩ := grouped.inUse node used'
      exact ⟨Nat.lt_of_lt_of_le low more, fun there => notIn (sub.subset there)⟩

theorem Grouped.register (grouped : Grouped dialogs ua)
    (stepped : pjsipUaRegisterDlg dialogs ua d = .ok ua') : Grouped dialogs ua' := by
  unfold pjsipUaRegisterDlg at stepped
  dsimp only at stepped
  split at stepped
  · nomatch stepped
  · split at stepped
    · split at stepped
      · rename_i set found
        split at stepped
        · nomatch stepped
        · cases stepped
          rw [getLower_own (d := d) rfl, ← getLower_text (d := d) rfl] at found
          obtain ⟨e, there, -, value⟩ := ChainedTable.get_holds found
          obtain ⟨-, -, -, used⟩ := grouped.held e there
          refine grouped.relist (fun r mem => ?_) (fun _ => value ▸ used) _
          rcases List.mem_append.1 mem with old | new
          · exact grouped.sameSet set r old
          · rw [List.mem_singleton.1 new]
            exact (grouped.found found).symm
      · cases stepped
        exact grouped.create
    · cases stepped
      exact grouped.create

theorem Grouped.erased (grouped : Grouped dialogs ua)
    (same : SameSet dialogs d (ua.sets set).htKey) {e : Entry HashKey Nat}
    (held : (pjHashSetLower none ua.dlgTable (dialogs (ua.sets set).htKey).localTag.1
      (dialogs d).tagHval none).Holds e) :
    ua.dlgTable.Holds e ∧ e.value ≠ set := by
  rw [setLower_none same] at held
  obtain ⟨old, apart⟩ := held.of_erase
  obtain ⟨r, key, text, -⟩ := grouped.held e old
  refine ⟨old, fun node => ?_⟩
  rw [key] at apart
  exact Bool.eq_false_iff.1 apart (sameKey_keyOf.2 (node ▸ text))

theorem Grouped.remove (grouped : Grouped dialogs ua) (same : SameSet dialogs d (ua.sets set).htKey)
    (stepped : removeDlgSet dialogs ua d set = .ok ua') : Grouped dialogs ua' := by
  unfold removeDlgSet at stepped
  dsimp only at stepped
  split at stepped
  · nomatch stepped
  · rename_i valid
    cases stepped
    rw [ne_eq, not_not, getLower_own same] at valid
    obtain ⟨e, there, -, value⟩ := ChainedTable.get_holds valid
    obtain ⟨-, -, -, low, notFree⟩ := grouped.held e there
    rw [value] at low notFree
    have emptied : Grouped dialogs { ua with
        sets := Function.update ua.sets set { ua.sets set with dlgList := [] } } :=
      grouped.relist (fun r mem => by nomatch mem) (fun used' => absurd rfl used') ua.dlgSet
    refine ⟨emptied.sameSet, ?_, ?_, ?_, ?_⟩
    · intro e held
      obtain ⟨old, other⟩ := grouped.erased same held
      obtain ⟨r, key, text, lowE, notIn⟩ := emptied.held e old
      refine ⟨r, key, text, lowE, fun mem => ?_⟩
      rcases List.mem_append.1 mem with mem | mem
      · exact notIn mem
      · exact other (List.mem_singleton.1 mem)
    · intro node used'
      obtain ⟨lowN, notIn⟩ := emptied.inUse node used'
      refine ⟨lowN, fun mem => ?_⟩
      rcases List.mem_append.1 mem with mem | mem
      · exact notIn mem
      · change (Function.update ua.sets set _ node).dlgList ≠ [] at used'
        rw [List.mem_singleton.1 mem, Function.update_self] at used'
        exact used' rfl
    · show (ua.freeDlgsetNodes ++ [set]).Nodup
      rw [List.nodup_append]
      refine ⟨grouped.freeNodup, by simp, ?_⟩
      intro free memFree x lastNode equal
      rw [List.mem_singleton.1 lastNode] at equal
      exact notFree (equal ▸ memFree)
    · intro node mem
      rcases List.mem_append.1 mem with mem | mem
      · exact grouped.freeAllocated node mem
      · exact List.mem_singleton.1 mem ▸ low

theorem Grouped.rekey (grouped : Grouped dialogs ua) (isKey : (ua.sets set).htKey = d)
    {keyDlg : DlgId} {dlgList : List DlgId} (first : keyDlg ∈ dlgList)
    (sub : ∀ r ∈ dlgList, SameSet dialogs r d) (used : set < ua.allocated)
    (notFree : set ∉ ua.freeDlgsetNodes)
    (stepped : rekeyDlgSet dialogs ua d set keyDlg dlgList = .ok ua') : Grouped dialogs ua' := by
  unfold rekeyDlgSet at stepped
  dsimp only at stepped
  split at stepped
  · nomatch stepped
  · cases stepped
    have keySame := sub keyDlg first
    refine ⟨?_, ?_, ?_, grouped.freeNodup, grouped.freeAllocated⟩
    · exact grouped.sameSet_update fun r mem => (sub r mem).trans keySame.symm
    · intro e held
      rw [pjHashSetNpLower, findKey_owner] at held
      have own : SameSet dialogs keyDlg (Function.update ua.sets set ⟨keyDlg, dlgList⟩ set).htKey := by
        rw [Function.update_self]
        exact rfl
      have isSame : SameSet dialogs d (ua.sets set).htKey := isKey ▸ rfl
      rcases ChainedTable.Holds.of_put held with rfl | ⟨e', old, same, rfl⟩ | old
      · exact ⟨keyDlg, rfl, own, used, notFree⟩
      · obtain ⟨there, -⟩ := grouped.erased isSame old
        obtain ⟨r, key, -⟩ := grouped.held e' there
        rw [key] at same
        exact ⟨r, key, (sameKey_dialogs.1 same).trans own, used, notFree⟩
      · obtain ⟨there, other⟩ := grouped.erased isSame old
        obtain ⟨r, key, text, rest⟩ := grouped.held e there
        refine ⟨r, key, ?_, rest⟩
        show SameSet dialogs r (Function.update ua.sets set _ e.value).htKey
        rw [Function.update_of_ne other]
        exact text
    · intro node used'
      change (Function.update ua.sets set _ node).dlgList ≠ [] at used'
      by_cases here : node = set
      · subst here
        exact ⟨used, notFree⟩
      · rw [Function.update_of_ne here] at used'
        exact grouped.inUse node used'

theorem Grouped.unregister (grouped : Grouped dialogs ua)
    (stepped : pjsipUaUnregisterDlg dialogs ua d = .ok ua') : Grouped dialogs ua' := by
  unfold pjsipUaUnregisterDlg at stepped
  split at stepped
  · nomatch stepped
  · rename_i set own
    split at stepped
    · rename_i mem
      have same := grouped.sameSet set d mem
      obtain ⟨used, notFree⟩ := grouped.inUse set (List.ne_nil_of_mem mem)
      split at stepped
      · exact grouped.remove same stepped
      · rename_i keyDlg rest left
        have sub (r : DlgId) (there : r ∈ keyDlg :: rest) : SameSet dialogs r (ua.sets set).htKey :=
          grouped.sameSet set r (List.mem_of_mem_erase (left ▸ there))
        split at stepped
        · rename_i isKey
          exact grouped.rekey isKey List.mem_cons_self (fun r there => isKey ▸ sub r there)
            used notFree stepped
        · cases stepped
          exact grouped.relist sub (fun _ => ⟨used, notFree⟩) ua.dlgSet
    · nomatch stepped

end Grouped

theorem Reachable.grouped {ua : UserAgent rows} {registered : List DlgId}
    (reachable : Reachable dialogs ua registered) : Grouped dialogs ua := by
  induction reachable with
  | init => exact grouped_init
  | register before new stepped ih => exact ih.register stepped
  | unregister before mem stepped ih => exact ih.unregister stepped

/-! ## Where requests go -/

section Handed

variable {ua : UserAgent rows} {remoteTags : DlgId → Tag}

variable {tag : List UInt8} {dlgList : List DlgId}

theorem findRemote_some {d : DlgId} : findRemote remoteTags tag dlgList = some d
      ↔ ∃ before after, dlgList = before ++ d :: after
        ∧ (∀ r ∈ before, ¬ SameText (remoteTags r).1 tag) ∧ SameText (remoteTags d).1 tag := by
  have remote (r : DlgId) : stricmp (remoteTags r).1 tag = 0 ↔ SameText (remoteTags r).1 tag :=
    stricmp_eq_zero (remoteTags r).2
  rw [findRemote, List.find?_eq_some_iff_append]
  simp only [decide_eq_true_eq, Bool.not_eq_true', decide_eq_false_iff_not, remote]
  constructor
  · rintro ⟨own, before, after, split, others⟩
    exact ⟨before, after, split, others, own⟩
  · rintro ⟨before, after, split, others, own⟩
    exact ⟨own, before, after, split, others⟩

theorem findRemote_none : findRemote remoteTags tag dlgList = none
      ↔ ∀ r ∈ dlgList, ¬ SameText (remoteTags r).1 tag := by
  have remote (r : DlgId) : stricmp (remoteTags r).1 tag = 0 ↔ SameText (remoteTags r).1 tag :=
    stricmp_eq_zero (remoteTags r).2
  rw [findRemote, List.find?_eq_none]
  simp only [decide_eq_true_eq, remote]

theorem selects_iff {d : DlgId} :
    Selects remoteTags tag dlgList d ↔ findRemote remoteTags tag dlgList = some d
      ∨ findRemote remoteTags tag dlgList = none ∧ dlgList.head? = some d
        ∧ (remoteTags d).1 = [] := by
  constructor
  · intro selects
    cases selects with
    | tag others own => exact .inl (findRemote_some.2 ⟨_, _, rfl, others, own⟩)
    | half others empty => exact .inr ⟨findRemote_none.2 others, rfl, empty⟩
  · rintro (found | ⟨unmatched, first, empty⟩)
    · obtain ⟨before, after, rfl, others, own⟩ := findRemote_some.1 found
      exact .tag others own
    · obtain ⟨rest, rfl⟩ := List.head?_eq_some_iff.1 first
      exact .half (findRemote_none.1 unmatched) empty

theorem noDialog_ne_handed {rdata : RxRequest} {d : DlgId} : noDialog rdata ≠ .handed d := by
  unfold noDialog
  split
  · nofun
  · nofun

theorem handed_iff {rdata : RxRequest} {d : DlgId} (toTag : rdata.toTag ≠ [])
    (method : rdata.method ≠ .register) (cseqMethod : rdata.cseqMethod ≠ .cancel) :
    modUaOnRxRequest ua remoteTags rdata = .handed d
      ↔ Selects remoteTags rdata.fromTag (dlgsWith ua rdata.toTag) d := by
  have long : ¬ (rdata.toTag.length = 0 ∧ rdata.method ≠ .cancel) :=
    fun short => toTag (List.length_eq_zero_iff.1 short.1)
  rw [selects_iff]
  unfold modUaOnRxRequest findDlgSetForMsg dlgsWith
  rw [if_neg long, if_neg method, if_neg cseqMethod]
  cases found : pjHashGetLower ua.dlgTable rdata.toTag 0 with
  | none => simp [noDialog_ne_handed, findRemote]
  | some set =>
    dsimp only
    cases first : findRemote remoteTags rdata.fromTag (ua.sets set).dlgList with
    | some d' => simp
    | none =>
      cases (ua.sets set).dlgList with
      | nil => simp
      | cons firstDlg rest =>
        -- the first dialog of the set stands in if it has no remote tag
        dsimp only
        split
        · rename_i tagged
          refine iff_of_false noDialog_ne_handed ?_
          rintro (found | ⟨-, first, empty⟩)
          · nomatch found
          · cases first
            exact tagged (by rw [empty]; rfl)
        · rename_i empty
          rw [not_not, List.length_eq_zero_iff] at empty
          simp only [RxOutcome.handed.injEq, reduceCtorEq, true_and, false_or,
            List.head?_cons, Option.some.injEq]
          constructor
          · rintro rfl
            exact ⟨rfl, empty⟩
          · exact And.left

end Handed

/-- Of the requests inside of dialogs exactly those reach only their own dialog, for which the
dialog that the tags select has the Call-ID; a dialog that can be found always gets them. -/
theorem inDialog_own_iff {ua : UserAgent rows} {registered : List DlgId}
    (reachable : Reachable dialogs ua registered) (remoteTags : DlgId → Tag) (rdata : RxRequest)
    (toTag : rdata.toTag ≠ []) (notCancel : rdata.method ≠ .cancel ∧ rdata.cseqMethod ≠ .cancel)
    (notRegister : rdata.method ≠ .register) :
    ReachesOwn dialogs ua remoteTags rdata ∧ FoundIsHanded dialogs ua remoteTags rdata
      ↔ ∀ d, Selects remoteTags rdata.fromTag (dlgsWith ua rdata.toTag) d →
        (dialogs d).callId = rdata.callId := by
  have grouped := reachable.grouped
  constructor
  · rintro ⟨own, -⟩ d selects
    exact (own d ((handed_iff toTag notRegister notCancel.2).2 selects)).1
  · intro callIds
    constructor
    · intro d handed
      have selects := (handed_iff toTag notRegister notCancel.2).1 handed
      have member : ∀ r ∈ dlgsWith ua rdata.toTag, SameText (dialogs r).localTag.1 rdata.toTag := by
        intro r mem
        unfold dlgsWith at mem
        split at mem
        · cases mem
        · rename_i set found
          exact (grouped.sameSet set r mem).trans (grouped.found found)
      refine ⟨callIds d selects, ?_⟩
      have localTag := member d selects.mem
      generalize dlgsWith ua rdata.toTag = list at selects
      cases selects with
      | tag others own => exact ⟨localTag, .inl own⟩
      | half others empty => exact ⟨localTag, .inr ⟨others, rfl, empty⟩⟩
    · intro d found
      refine (handed_iff toTag notRegister notCancel.2).2 ?_
      unfold pjsipUaFindDialog at found
      split at found
      · cases found
      · rename_i set at_
        have listed : dlgsWith ua rdata.toTag = (ua.sets set).dlgList := by
          unfold dlgsWith
          rw [at_]
        split at found
        · cases found
        · rename_i d' first
          split at found
          · cases found
          · cases found
            rw [listed]
            exact selects_iff.2 (.inl first)

/-- Two dialogs that one call has been forked into, and one of another call. -/
def forkDialogs (d : DlgId) : Dialog :=
  if d = 2 then
    { role := .uac, callId := [50], localTag := ⟨[102], by decide⟩, tagHval := 102
      hashed := by decide }
  else
    { role := .uac, callId := [49], localTag := ⟨[99], by decide⟩, tagHval := 99
      hashed := by decide }

def forkUa : UserAgent 31 :=
  createDlgSet forkDialogs (joinDlgSet (createDlgSet forkDialogs (initUa 31) 0) 1 0) 2

theorem forkUa_reachable : Reachable forkDialogs forkUa [0, 1, 2] :=
  .register (.register (.register .init List.not_mem_nil rfl) (by decide) rfl) (by decide) rfl

/-- A BYE from the second fork. -/
def forkBye (callId : List UInt8) : RxRequest where
  method := .bye
  cseqMethod := .bye
  callId := callId
  fromTag := [101]
  toTag := [99]
  cancelledDlg := none

def forkRemote (d : DlgId) : Tag := if d = 0 then ⟨[100], by decide⟩ else ⟨[101], by decide⟩

theorem inDialog_own_forked : modUaOnRxRequest forkUa forkRemote (forkBye [49]) = .handed 1
    ∧ ReachesOwn forkDialogs forkUa forkRemote (forkBye [49])
    ∧ FoundIsHanded forkDialogs forkUa forkRemote (forkBye [49]) := by
  refine ⟨rfl, (inDialog_own_iff forkUa_reachable forkRemote (forkBye [49]) (by decide)
    ⟨by decide, by decide⟩ (by decide)).2 fun d selects => ?_⟩
  have mem : d ∈ [0, 1] := selects.mem
  have other : d ≠ 2 := by
    rintro rfl
    exact absurd mem (by decide)
  rw [forkDialogs, if_neg other]
  rfl

/-- A BYE of another call with the tags of the dialog ends the dialog. -/
theorem inDialog_foreign :
    ¬ ∀ (dialogs : DlgId → Dialog) (ua : UserAgent 31) (registered : List DlgId),
      Reachable dialogs ua registered → ∀ (remoteTags : DlgId → Tag) (rdata : RxRequest),
        rdata.toTag ≠ [] → rdata.method ≠ .cancel ∧ rdata.cseqMethod ≠ .cancel →
        rdata.method ≠ .register →
        ReachesOwn dialogs ua remoteTags rdata ∧ FoundIsHanded dialogs ua remoteTags rdata := by
  intro all
  have own := (all _ forkUa _ forkUa_reachable forkRemote (forkBye [50]) (by decide)
    ⟨by decide, by decide⟩ (by decide)).1
  have handed : modUaOnRxRequest forkUa forkRemote (forkBye [50]) = .handed 1 := by rfl
  have callId : (forkDialogs 1).callId = [50] := (own 1 handed).1
  cases callId

end Pjsip.Sip.Ua
