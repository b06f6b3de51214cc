import Pjsip.Pjlib.Hash
import Pjsip.Sip.Method

/-!
# The table of dialogs (`sip_ua_layer.c`)

Dialogs with one local tag, ignoring case, are a dialog set, and a hash table maps the tag to
the set. The key of an entry is not copied: it is the text of the tag in the memory of one of
the dialogs. Dialogs and the nodes of dialog sets are referred to by numbers.
-/

namespace Pjsip.Sip.Ua

open Pjsip.Base Pjsip.Pjlib

abbrev DlgId := Nat

/-- A tag is a token: it has no NUL. -/
abbrev Tag := { text : List UInt8 // 0 ∉ text }

/-- What does not change in a `pjsip_dialog` once it has been created. -/
structure Dialog where
  role : Role
  callId : List UInt8
  localTag : Tag
  /-- `local.tag_hval` -/
  tagHval : UInt32
  hashed : tagHval = pjHashCalcTolower 0 localTag.1

/-- `struct dlg_set`; `ht_key` is the local tag of the dialog `htKey`. -/
structure DlgSet where
  htKey : DlgId
  dlgList : List DlgId
  deriving DecidableEq, Repr

/-- `mod_ua`, with the nodes that its pool holds, and the `dlg_set` of each dialog. -/
structure UserAgent (rows : Nat) where
  dlgTable : PjHashTable rows Nat
  sets : Nat → DlgSet
  freeDlgsetNodes : List Nat
  /-- The number of nodes that have been allocated from the pool. -/
  allocated : Nat
  dlgSet : DlgId → Option Nat

/-- An assertion that failed. -/
inductive Assertion where
  | tagInitialized | setNotEmpty | registered | validSet | sameHash
  deriving DecidableEq, Repr

variable {rows : Nat} (dialogs : DlgId → Dialog)

/-- The user agent after `pjsip_ua_init_module`. -/
def initUa (rows : Nat) : UserAgent rows where
  dlgTable := .empty
  sets _ := ⟨0, []⟩
  freeDlgsetNodes := []
  allocated := 0
  dlgSet _ := none

/-- `alloc_dlgset_node` -/
def allocDlgsetNode (ua : UserAgent rows) : Nat × UserAgent rows :=
  match ua.freeDlgsetNodes with
  | set :: rest => (set, { ua with freeDlgsetNodes := rest })
  | [] => (ua.allocated, { ua with allocated := ua.allocated + 1 })

/-- A dialog set with one dialog, under its tag. -/
def createDlgSet (ua : UserAgent rows) (d : DlgId) : UserAgent rows :=
  let dlg := dialogs d
  let (set, ua) := allocDlgsetNode ua
  { ua with
    sets := Function.update ua.sets set ⟨d, [d]⟩
    dlgSet := Function.update ua.dlgSet d (some set)
    dlgTable := pjHashSetNpLower d ua.dlgTable dlg.localTag.1 dlg.tagHval set }

/-- The dialog is added at the end of a set. -/
def joinDlgSet (ua : UserAgent rows) (d : DlgId) (set : Nat) : UserAgent rows :=
  { ua with
    sets := Function.update ua.sets set { ua.sets set with dlgList := (ua.sets set).dlgList ++ [d] }
    dlgSet := Function.update ua.dlgSet d (some set) }

/-- `pjsip_ua_register_dlg` -/
def pjsipUaRegisterDlg (ua : UserAgent rows) (d : DlgId) : Except Assertion (UserAgent rows) :=
  let dlg := dialogs d
  if dlg.localTag.1.length = 0 ∨ dlg.tagHval = 0 then .error .tagInitialized
  else
    match dlg.role with
    | .uac =>
      match pjHashGetLower ua.dlgTable dlg.localTag.1 dlg.tagHval with
      | some set =>
        if (ua.sets set).dlgList = [] then .error .setNotEmpty
        else .ok (joinDlgSet ua d set)
      | none => .ok (createDlgSet dialogs ua d)
    | .uas => .ok (createDlgSet dialogs ua d)

/-- The set of the last dialog leaves the table. -/
def removeDlgSet (ua : UserAgent rows) (d : DlgId) (set : Nat) :
    Except Assertion (UserAgent rows) :=
  let htKey := (dialogs (ua.sets set).htKey).localTag.1
  if pjHashGetLower ua.dlgTable htKey (dialogs d).tagHval ≠ some set then .error .validSet
  else
    .ok { ua with
      sets := Function.update ua.sets set { ua.sets set with dlgList := [] }
      dlgTable := pjHashSetLower none ua.dlgTable htKey (dialogs d).tagHval none
      freeDlgsetNodes := ua.freeDlgsetNodes ++ [set] }

/-- The entry of the set gets the tag of `keyDlg` as its key. -/
def rekeyDlgSet (ua : UserAgent rows) (d : DlgId) (set keyDlg : Nat) (dlgList : List DlgId) :
    Except Assertion (UserAgent rows) :=
  let htKey := (dialogs (ua.sets set).htKey).localTag.1
  if (dialogs keyDlg).tagHval ≠ (dialogs d).tagHval then .error .sameHash
  else
    .ok { ua with
      sets := Function.update ua.sets set ⟨keyDlg, dlgList⟩
      dlgTable := pjHashSetNpLower keyDlg
        (pjHashSetLower none ua.dlgTable htKey (dialogs d).tagHval none)
        (dialogs keyDlg).localTag.1 (dialogs keyDlg).tagHval set }

/-- `pjsip_ua_unregister_dlg` -/
def pjsipUaUnregisterDlg (ua : UserAgent rows) (d : DlgId) : Except Assertion (UserAgent rows) :=
  match ua.dlgSet d with
  | none => .error .registered
  | some set =>
    if d ∈ (ua.sets set).dlgList then
      match (ua.sets set).dlgList.erase d with
      | [] => removeDlgSet dialogs ua d set
      | keyDlg :: rest =>
        -- the text of the key goes away with the dialog
        if (ua.sets set).htKey = d then rekeyDlgSet dialogs ua d set keyDlg (keyDlg :: rest)
        else
          .ok { ua with
            sets := Function.update ua.sets set { ua.sets set with dlgList := keyDlg :: rest } }
    else .error .registered

/-! ## Finding dialogs -/

/-- The first dialog of a set that has the remote tag. -/
def findRemote (remoteTag : DlgId → Tag) (tag : List UInt8) (dlgList : List DlgId) : Option DlgId :=
  dlgList.find? fun d => stricmp (remoteTag d).1 tag = 0

/-- `pjsip_ua_find_dialog`; `remoteTags` are the remote tags that the dialogs have by now. -/
def pjsipUaFindDialog (ua : UserAgent rows) (remoteTags : DlgId → Tag)
    (callId localTag remoteTag : List UInt8) : Option DlgId :=
  match pjHashGetLower ua.dlgTable localTag 0 with
  | none => none
  | some set =>
    match findRemote remoteTags remoteTag (ua.sets set).dlgList with
    | none => none
    | some d => if (dialogs d).callId ≠ callId then none else some d

end Pjsip.Sip.Ua
