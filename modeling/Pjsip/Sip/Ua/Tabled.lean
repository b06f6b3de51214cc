import Pjsip.Sip.Ua.Layer

/-!
# Dialogs in the table

What the table of dialogs is meant to be after any calls, and the invariant that it follows
from: how the entries of the table, the nodes of the sets and the dialogs point to each other.
-/

namespace Pjsip.Sip.Ua

open Pjsip.Base Pjsip.Pjlib

variable {rows : Nat} {dialogs : DlgId → Dialog}

/-! ## Runs -/

/-- A call of `pjsip_ua_register_dlg` or `pjsip_ua_unregister_dlg`. -/
inductive Op where
  | register (d : DlgId)
  | unregister (d : DlgId)
  deriving DecidableEq, Repr

def step (dialogs : DlgId → Dialog) (ua : UserAgent rows) : Op → Except Assertion (UserAgent rows)
  | .register d => pjsipUaRegisterDlg dialogs ua d
  | .unregister d => pjsipUaUnregisterDlg dialogs ua d

def run (dialogs : DlgId → Dialog) (ua : UserAgent rows) : List Op → Except Assertion (UserAgent rows)
  | [] => .ok ua
  | op :: ops => (step dialogs ua op).bind fun ua => run dialogs ua ops

/-- The registered dialogs in the order of their registration. -/
def registeredAfter (registered : List DlgId) : List Op → List DlgId
  | [] => registered
  | .register d :: ops => registeredAfter (registered ++ [d]) ops
  | .unregister d :: ops => registeredAfter (registered.erase d) ops

/-- Dialogs with one local tag, ignoring case. -/
def SameSet (dialogs : DlgId → Dialog) (d d' : DlgId) : Prop :=
  SameText (dialogs d).localTag.1 (dialogs d').localTag.1

/-- A dialog is registered once at a time. A client dialog may have the local tag of others if it
has their Call-ID; a server dialog has a local tag of its own. -/
def Legal (dialogs : DlgId → Dialog) (registered : List DlgId) : List Op → Prop
  | [] => True
  | .register d :: ops =>
    d ∉ registered
    ∧ (∀ r ∈ registered, SameSet dialogs r d →
        (dialogs d).role = .uac ∧ (dialogs r).callId = (dialogs d).callId)
    ∧ Legal dialogs (registered ++ [d]) ops
  | .unregister d :: ops => d ∈ registered ∧ Legal dialogs (registered.erase d) ops

/-- The registered dialogs with a local tag, in the order of their registration. -/
def members (dialogs : DlgId → Dialog) (registered : List DlgId) (tag : List UInt8) : List DlgId :=
  registered.filter fun d => SameText (dialogs d).localTag.1 tag

/-- The dialog has this Call-ID and, ignoring case, these tags. -/
def Matches (dialogs : DlgId → Dialog) (remoteTags : DlgId → Tag)
    (callId localTag remoteTag : List UInt8) (d : DlgId) : Prop :=
  (dialogs d).callId = callId ∧ SameText (dialogs d).localTag.1 localTag
    ∧ SameText (remoteTags d).1 remoteTag

/-- What the table is meant to be. -/
structure Exact (dialogs : DlgId → Dialog) (ua : UserAgent rows) (registered : List DlgId) :
    Prop where
  /-- A tag is mapped to the dialogs with it, or to nothing if there are none. -/
  maps : ∀ tag, match pjHashGetLower ua.dlgTable tag 0 with
    | some set => members dialogs registered tag ≠ []
        ∧ (ua.sets set).dlgList = members dialogs registered tag
    | none => members dialogs registered tag = []
  /-- The key of an entry is the tag of a registered dialog, in the memory of that dialog. -/
  keys : ∀ e, ua.dlgTable.Holds e → ∃ d ∈ registered,
    e.key.pool = some d ∧ e.key.bytes = (dialogs d).localTag.1
  finds : ∀ remoteTags callId localTag remoteTag,
    match pjsipUaFindDialog dialogs ua remoteTags callId localTag remoteTag with
    | some d => d ∈ registered ∧ Matches dialogs remoteTags callId localTag remoteTag d
    | none => ∀ d ∈ registered, ¬ Matches dialogs remoteTags callId localTag remoteTag d

/-! ## The invariant -/

/-- The key of an entry that was made for a dialog. -/
def keyOf (dialogs : DlgId → Dialog) (d : DlgId) : HashKey :=
  ⟨(dialogs d).tagHval, (dialogs d).localTag.1, some d⟩

/-- How the table, the nodes and the dialogs point to each other. -/
structure Tabled (dialogs : DlgId → Dialog) (ua : UserAgent rows) (registered : List DlgId) :
    Prop where
  nodup : registered.Nodup
  callIds : ∀ d ∈ registered, ∀ r ∈ registered, SameSet dialogs r d →
    (dialogs r).callId = (dialogs d).callId
  listed : ∀ d ∈ registered, ∃ set, ua.dlgSet d = some set
    ∧ (ua.sets set).dlgList = members dialogs registered (dialogs d).localTag.1
    ∧ ua.dlgTable.get (keyOf dialogs d) = some set
  held : ∀ e, ua.dlgTable.Holds e → ∃ d ∈ registered, e.key = keyOf dialogs d
    ∧ ua.dlgSet d = some e.value ∧ (ua.sets e.value).htKey = d
  freeNodup : ua.freeDlgsetNodes.Nodup
  freeAllocated : ∀ set ∈ ua.freeDlgsetNodes, set < ua.allocated
  unused : ∀ d ∈ registered, ∀ set, ua.dlgSet d = some set →
    set < ua.allocated ∧ set ∉ ua.freeDlgsetNodes

/-! ## Keys -/

section Keys

variable (dialogs) in
theorem findKey_own (d : DlgId) (pool : Option Nat) :
    findKey (dialogs d).localTag.1 (dialogs d).tagHval pool
      = ⟨pjHashCalcTolower 0 (dialogs d).localTag.1, (dialogs d).localTag.1, pool⟩ := by
  rw [(dialogs d).hashed, findKey_calc]

theorem findKey_owner (d : DlgId) :
    findKey (dialogs d).localTag.1 (dialogs d).tagHval (some d) = keyOf dialogs d := by
  rw [findKey_own, keyOf, (dialogs d).hashed]

theorem sameKey_keyOf {d : DlgId} {tag : List UInt8} {pool : Option Nat} :
    sameKey true (keyOf dialogs d) ⟨pjHashCalcTolower 0 tag, tag, pool⟩ = true
      ↔ SameText (dialogs d).localTag.1 tag := by
  rw [keyOf, (dialogs d).hashed]
  exact sameKey_text (dialogs d).localTag.2

theorem sameKey_dialogs {d d' : DlgId} :
    sameKey true (keyOf dialogs d) (keyOf dialogs d') = true ↔ SameSet dialogs d d' := by
  rw [keyOf.eq_1 dialogs d', (dialogs d').hashed]
  exact sameKey_keyOf

theorem sameKey_apart {d d' : DlgId} (apart : ¬ SameSet dialogs d d') :
    sameKey true (keyOf dialogs d) (keyOf dialogs d') = false :=
  Bool.eq_false_iff.2 fun same => apart (sameKey_dialogs.1 same)

variable {table : PjHashTable rows Nat}

theorem getLower_text {d : DlgId} {tag : List UInt8} (same : SameText (dialogs d).localTag.1 tag) :
    pjHashGetLower table tag 0 = table.get (keyOf dialogs d) :=
  (ChainedTable.get_congr (sameKey_keyOf.2 same)).symm

theorem tagHval_same {d d' : DlgId} (same : SameSet dialogs d d') :
    (dialogs d).tagHval = (dialogs d').tagHval := by
  rw [(dialogs d).hashed, (dialogs d').hashed]
  exact pjHashCalcTolower_lower 0 same

theorem getLower_own {d : DlgId} {d' : DlgId} (same : SameSet dialogs d d') :
    pjHashGetLower table (dialogs d').localTag.1 (dialogs d).tagHval
      = table.get (keyOf dialogs d) := by
  rw [pjHashGetLower, tagHval_same same, findKey_own]
  exact (ChainedTable.get_congr (sameKey_keyOf.2 same)).symm

theorem setLower_none {d : DlgId} {d' : DlgId} (same : SameSet dialogs d d') :
    pjHashSetLower none table (dialogs d').localTag.1 (dialogs d).tagHval none = table.erase
          ⟨pjHashCalcTolower 0 (dialogs d').localTag.1, (dialogs d').localTag.1, none⟩ := by
  rw [tagHval_same same, pjHashSetLower, findKey_own]

end Keys

/-! ## Members -/

section Members

variable {registered : List DlgId} {d r : DlgId} {tag tag' : List UInt8}

theorem mem_members : r ∈ members dialogs registered tag
    ↔ r ∈ registered ∧ SameText (dialogs r).localTag.1 tag := by
  simp [members]

theorem members_congr (same : SameText tag tag') :
    members dialogs registered tag = members dialogs registered tag' := by
  refine List.filter_congr fun r _ => ?_
  rw [decide_eq_decide]
  exact ⟨fun h => h.trans same, fun h => h.trans same.symm⟩

theorem members_add (same : SameText (dialogs d).localTag.1 tag) :
    members dialogs (registered ++ [d]) tag = members dialogs registered tag ++ [d] := by
  simp [members, same]

theorem members_add_other (apart : ¬ SameText (dialogs d).localTag.1 tag) :
    members dialogs (registered ++ [d]) tag = members dialogs registered tag := by
  simp [members, apart]

theorem members_erase (nodup : registered.Nodup) :
    members dialogs (registered.erase d) tag = (members dialogs registered tag).erase d := by
  have own : (members dialogs registered tag).Nodup := nodup.filter _
  rw [nodup.erase_eq_filter, own.erase_eq_filter, members, members, List.filter_comm]

theorem members_erase_other (nodup : registered.Nodup)
    (apart : ¬ SameText (dialogs d).localTag.1 tag) :
    members dialogs (registered.erase d) tag = members dialogs registered tag := by
  rw [members_erase nodup, List.erase_of_not_mem fun mem => apart (mem_members.1 mem).2]

end Members

/-! ## What the invariant says -/

section Facts

variable {ua : UserAgent rows} {registered : List DlgId} {d r : DlgId}

theorem Tabled.found (tabled : Tabled dialogs ua registered) {tag : List UInt8} {set : Nat}
    (found : pjHashGetLower ua.dlgTable tag 0 = some set) :
    ∃ r ∈ registered, SameText (dialogs r).localTag.1 tag ∧ ua.dlgSet r = some set
      ∧ (ua.sets set).htKey = r ∧ (ua.sets set).dlgList = members dialogs registered tag := by
  obtain ⟨e, held, same, rfl⟩ := ChainedTable.get_holds found
  obtain ⟨r, mem, key, own, htKey⟩ := tabled.held e held
  have text : SameText (dialogs r).localTag.1 tag := by
    rw [key, findKey_zero] at same
    exact sameKey_keyOf.1 same
  obtain ⟨set, own', list, -⟩ := tabled.listed r mem
  have node : set = e.value := Option.some.inj (own'.symm.trans own)
  subst node
  exact ⟨r, mem, text, own, htKey, list.trans (members_congr text)⟩

theorem Tabled.sameSet_of_set (tabled : Tabled dialogs ua registered) (mem : d ∈ registered)
    (mem' : r ∈ registered) {set : Nat} (own : ua.dlgSet d = some set)
    (own' : ua.dlgSet r = some set) : SameSet dialogs r d := by
  obtain ⟨_, at_, list, -⟩ := tabled.listed d mem
  obtain ⟨_, at', list', -⟩ := tabled.listed r mem'
  obtain rfl := Option.some.inj (at_.symm.trans own)
  obtain rfl := Option.some.inj (at'.symm.trans own')
  have there : r ∈ members dialogs registered (dialogs r).localTag.1 :=
    mem_members.2 ⟨mem', rfl⟩
  rw [← list', list] at there
  exact (mem_members.1 there).2

theorem Tabled.set_of_sameSet (tabled : Tabled dialogs ua registered) (mem : d ∈ registered)
    (mem' : r ∈ registered) {set : Nat} (own : ua.dlgSet d = some set)
    (same : SameSet dialogs r d) : ua.dlgSet r = some set := by
  obtain ⟨_, at_, -, get⟩ := tabled.listed d mem
  obtain ⟨_, at', -, get'⟩ := tabled.listed r mem'
  rw [at'] at *
  rw [ChainedTable.get_congr (sameKey_dialogs.2 same), get] at get'
  rw [← get', ← at_, own]

theorem Tabled.exact (tabled : Tabled dialogs ua registered) : Exact dialogs ua registered where
  maps tag := by
    split
    · rename_i set found
      obtain ⟨r, mem, text, -, -, list⟩ := tabled.found found
      refine ⟨fun empty => ?_, list⟩
      have there : r ∈ members dialogs registered tag := mem_members.2 ⟨mem, text⟩
      rw [empty] at there
      nomatch there
    · rename_i absent
      refine List.eq_nil_iff_forall_not_mem.2 fun r mem => ?_
      obtain ⟨mem, text⟩ := mem_members.1 mem
      obtain ⟨set, -, -, get⟩ := tabled.listed r mem
      rw [getLower_text text, get] at absent
      nomatch absent
  keys e held := by
    obtain ⟨d, mem, key, -⟩ := tabled.held e held
    exact ⟨d, mem, by rw [key]; rfl, by rw [key]; rfl⟩
  finds remoteTags callId localTag remoteTag := by
    have remote (d : DlgId) : stricmp (remoteTags d).1 remoteTag = 0
        ↔ SameText (remoteTags d).1 remoteTag := stricmp_eq_zero (remoteTags d).2
    unfold pjsipUaFindDialog
    cases found : pjHashGetLower ua.dlgTable localTag 0 with
    | none =>
      intro d mem isMatch
      obtain ⟨set, -, -, get⟩ := tabled.listed d mem
      rw [getLower_text isMatch.2.1, get] at found
      nomatch found
    | some set =>
      obtain ⟨r, -, -, -, -, list⟩ := tabled.found found
      dsimp only
      rw [list]
      cases first : findRemote remoteTags remoteTag (members dialogs registered localTag) with
      | none =>
        intro d mem isMatch
        have unmatched := List.find?_eq_none.1 first d (mem_members.2 ⟨mem, isMatch.2.1⟩)
        exact unmatched (decide_eq_true ((remote d).2 isMatch.2.2))
      | some d =>
        have there := mem_members.1 (List.mem_of_find?_eq_some first)
        have tag := (remote d).1 (of_decide_eq_true
          (List.find?_some (p := fun d => decide (stricmp (remoteTags d).1 remoteTag = 0)) first))
        dsimp only
        by_cases own : (dialogs d).callId = callId
        · rw [if_neg fun other => other own]
          exact ⟨there.1, own, there.2, tag⟩
        · -- the dialogs of the set are forks: none has another Call-ID
          rw [if_pos own]
          intro d' mem isMatch
          have fork := tabled.callIds d there.1 d' mem (isMatch.2.1.trans there.2.symm)
          exact own (fork.symm.trans isMatch.1)

end Facts

end Pjsip.Sip.Ua
