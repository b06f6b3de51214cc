import Pjsip.Sip.Ua.Tabled

/-!
# The table is exact

As long as dialogs with one local tag are forks of each other, the table maps a tag to the
dialogs that are registered with it, in their order, and nothing else. The one thing in the
way is the check that a tag has been hashed: a tag whose hash is 0 does not pass it.
-/

namespace Pjsip.Sip.Ua

open Pjsip.Base Pjsip.Pjlib

variable {rows : Nat} {dialogs : DlgId → Dialog}

/-! ## Registering -/

section Register

variable {ua : UserAgent rows} {registered : List DlgId} {d : DlgId}

theorem tabled_init : Tabled dialogs (initUa rows) [] where
  nodup := List.nodup_nil
  callIds _ mem := by nomatch mem
  listed _ mem := by nomatch mem
  held e held := by
    obtain ⟨i, mem⟩ := held
    nomatch mem
  freeNodup := List.nodup_nil
  freeAllocated _ mem := by nomatch mem
  unused _ mem := by nomatch mem

theorem callIds_add (tabled : Tabled dialogs ua registered)
    (forks : ∀ r ∈ registered, SameSet dialogs r d → (dialogs r).callId = (dialogs d).callId) :
    ∀ x ∈ registered ++ [d], ∀ r ∈ registered ++ [d], SameSet dialogs r x →
      (dialogs r).callId = (dialogs x).callId := by
  intro x memX r memR same
  rcases List.mem_append.1 memX with oldX | newX <;>
    rcases List.mem_append.1 memR with oldR | newR
  · exact tabled.callIds x oldX r oldR same
  · obtain rfl := List.mem_singleton.1 newR
    exact (forks x oldX same.symm).symm
  · obtain rfl := List.mem_singleton.1 newX
    exact forks r oldR same
  · rw [List.mem_singleton.1 newX, List.mem_singleton.1 newR]

theorem nodup_add (tabled : Tabled dialogs ua registered) (new : d ∉ registered) :
    (registered ++ [d]).Nodup := by
  rw [List.nodup_append]
  refine ⟨tabled.nodup, by simp, ?_⟩
  intro r mem x last same
  exact new (List.mem_singleton.1 last ▸ same ▸ mem)

theorem Tabled.join (tabled : Tabled dialogs ua registered) (new : d ∉ registered)
    (forks : ∀ r ∈ registered, SameSet dialogs r d → (dialogs r).callId = (dialogs d).callId)
    {set : Nat} (found : ua.dlgTable.get (keyOf dialogs d) = some set) :
    Tabled dialogs (joinDlgSet ua d set) (registered ++ [d]) := by
  rw [← getLower_text (d := d) rfl] at found
  obtain ⟨first, memFirst, sameFirst, ownFirst, keyFirst, list⟩ := tabled.found found
  have others {r : DlgId} (mem : r ∈ registered) : r ≠ d := fun same => new (same ▸ mem)
  have kept {r : DlgId} (mem : r ∈ registered) : (joinDlgSet ua d set).dlgSet r = ua.dlgSet r :=
    Function.update_of_ne (others mem) _ _
  refine ⟨nodup_add tabled new, callIds_add tabled forks, ?_, ?_, tabled.freeNodup,
    tabled.freeAllocated, ?_⟩
  · intro r mem
    rcases List.mem_append.1 mem with mem | mem
    · obtain ⟨own, at_, listOwn, get⟩ := tabled.listed r mem
      refine ⟨own, (kept mem).trans at_, ?_, get⟩
      by_cases here : own = set
      · subst here
        have same := tabled.sameSet_of_set mem memFirst at_ ownFirst
        have text : SameText (dialogs d).localTag.1 (dialogs r).localTag.1 :=
          sameFirst.symm.trans same
        show (Function.update ua.sets own _ own).dlgList = _
        rw [Function.update_self, members_add text, ← listOwn]
      · have apart : ¬ SameText (dialogs d).localTag.1 (dialogs r).localTag.1 := by
          intro text
          have owner := tabled.set_of_sameSet memFirst mem ownFirst (text.symm.trans sameFirst.symm)
          exact here (Option.some.inj (at_.symm.trans owner))
        show (Function.update ua.sets set _ own).dlgList = _
        rw [Function.update_of_ne here, members_add_other apart, listOwn]
    · obtain rfl := List.mem_singleton.1 mem
      refine ⟨set, Function.update_self .., ?_, (getLower_text (d := r) rfl).symm.trans found⟩
      show (Function.update ua.sets set _ set).dlgList = _
      rw [Function.update_self, members_add rfl, ← list]
  · intro e held
    obtain ⟨r, mem, key, own, htKey⟩ := tabled.held e held
    refine ⟨r, List.mem_append_left _ mem, key, (kept mem).trans own, ?_⟩
    show (Function.update ua.sets set _ e.value).htKey = r
    by_cases here : e.value = set
    · rw [here, Function.update_self, ← here]
      exact htKey
    · rw [Function.update_of_ne here]
      exact htKey
  · intro r mem own at_
    rcases List.mem_append.1 mem with mem | mem
    · exact tabled.unused r mem own ((kept mem).symm.trans at_)
    · obtain rfl := List.mem_singleton.1 mem
      change Function.update ua.dlgSet r (some set) r = some own at at_
      rw [Function.update_self] at at_
      exact Option.some.inj at_ ▸ tabled.unused first memFirst set ownFirst

/-- A node that is handed out was free or new, and is not handed out again. -/
theorem allocDlgsetNode_spec {set : Nat} {ua' : UserAgent rows}
    (alloc : allocDlgsetNode ua = (set, ua')) (nodup : ua.freeDlgsetNodes.Nodup)
    (low : ∀ node ∈ ua.freeDlgsetNodes, node < ua.allocated) :
    ua'.dlgTable = ua.dlgTable ∧ ua'.sets = ua.sets ∧ ua'.dlgSet = ua.dlgSet
      ∧ (set < ua.allocated → set ∈ ua.freeDlgsetNodes)
      ∧ set < ua'.allocated ∧ set ∉ ua'.freeDlgsetNodes ∧ ua.allocated ≤ ua'.allocated
      ∧ ua'.freeDlgsetNodes.Sublist ua.freeDlgsetNodes := by
  unfold allocDlgsetNode at alloc
  cases free : ua.freeDlgsetNodes with
  | nil =>
    rw [free] at alloc
    cases alloc
    exact ⟨rfl, rfl, rfl, fun small => absurd small (Nat.lt_irrefl _), Nat.lt_succ_self _,
      List.not_mem_nil, Nat.le_succ _, List.Sublist.refl _⟩
  | cons first rest =>
    rw [free] at alloc
    cases alloc
    rw [free] at nodup
    exact ⟨rfl, rfl, rfl, fun _ => List.mem_cons_self, low set (free ▸ List.mem_cons_self),
      (List.nodup_cons.1 nodup).1, Nat.le_refl _, List.sublist_cons_self _ _⟩

theorem createDlgSet_eq {set : Nat} {ua' : UserAgent rows}
    (alloc : allocDlgsetNode ua = (set, ua')) (table : ua'.dlgTable = ua.dlgTable)
    (sets : ua'.sets = ua.sets) (dlgSet : ua'.dlgSet = ua.dlgSet) :
    createDlgSet dialogs ua d = { ua' with
      sets := Function.update ua.sets set ⟨d, [d]⟩
      dlgSet := Function.update ua.dlgSet d (some set)
      dlgTable := ua.dlgTable.put (keyOf dialogs d) set } := by
  unfold createDlgSet
  rw [alloc]
  dsimp only
  rw [table, sets, dlgSet, pjHashSetNpLower, findKey_owner]

theorem Tabled.create (tabled : Tabled dialogs ua registered) (new : d ∉ registered)
    (alone : ∀ r ∈ registered, ¬ SameSet dialogs r d) :
    Tabled dialogs (createDlgSet dialogs ua d) (registered ++ [d]) := by
  rcases alloc : allocDlgsetNode ua with ⟨set, ua'⟩
  obtain ⟨table, sets, dlgSet, taken, small, notFree, more, sub⟩ :=
    allocDlgsetNode_spec alloc tabled.freeNodup tabled.freeAllocated
  have unused (r : DlgId) (mem : r ∈ registered) : ua.dlgSet r ≠ some set := by
    intro own
    obtain ⟨low, notIn⟩ := tabled.unused r mem set own
    exact notIn (taken low)
  rw [createDlgSet_eq alloc table sets dlgSet]
  have others {r : DlgId} (mem : r ∈ registered) : r ≠ d := fun same => new (same ▸ mem)
  refine ⟨nodup_add tabled new,
    callIds_add tabled fun r mem same => absurd same (alone r mem), ?_, ?_, ?_, ?_, ?_⟩
  · intro r mem
    rcases List.mem_append.1 mem with mem | mem
    · obtain ⟨own, at_, listOwn, get⟩ := tabled.listed r mem
      have node : own ≠ set := fun same => unused r mem (same ▸ at_)
      refine ⟨own, (Function.update_of_ne (others mem) _ _).trans at_, ?_, ?_⟩
      · show (Function.update ua.sets set _ own).dlgList = _
        rw [Function.update_of_ne node, members_add_other fun same => alone r mem same.symm,
          listOwn]
      · show (ua.dlgTable.put _ _).get _ = _
        rw [ChainedTable.get_put_other _ (sameKey_apart fun same => alone r mem same.symm), get]
    · obtain rfl := List.mem_singleton.1 mem
      refine ⟨set, Function.update_self .., ?_, ChainedTable.get_put_self set⟩
      have unlisted : members dialogs registered (dialogs r).localTag.1 = [] :=
        List.eq_nil_iff_forall_not_mem.2 fun x there =>
          alone x (mem_members.1 there).1 (mem_members.1 there).2
      show (Function.update ua.sets set _ set).dlgList = _
      rw [Function.update_self, members_add rfl, unlisted]
      rfl
  · intro e held
    rcases held.of_put with rfl | ⟨e', old, same, -⟩ | old
    · refine ⟨d, List.mem_append_right _ List.mem_cons_self, rfl, Function.update_self .., ?_⟩
      show (Function.update ua.sets set _ set).htKey = d
      rw [Function.update_self]
    · -- there was no entry with this key
      obtain ⟨r, mem, key, -⟩ := tabled.held e' old
      rw [key] at same
      exact absurd (sameKey_dialogs.1 same) (alone r mem)
    · obtain ⟨r, mem, key, own, htKey⟩ := tabled.held e old
      have node : e.value ≠ set := fun same => unused r mem (same ▸ own)
      refine ⟨r, List.mem_append_left _ mem, key,
        (Function.update_of_ne (others mem) _ _).trans own, ?_⟩
      show (Function.update ua.sets set _ e.value).htKey = r
      rw [Function.update_of_ne node, htKey]
  · exact tabled.freeNodup.sublist sub
  · intro free mem
    exact Nat.lt_of_lt_of_le (tabled.freeAllocated free (sub.subset mem)) more
  · intro r mem own at_
    rcases List.mem_append.1 mem with mem | mem
    · have before : ua.dlgSet r = some own := (Function.update_of_ne (others mem) _ _).symm.trans at_
      obtain ⟨low, notIn⟩ := tabled.unused r mem own before
      exact ⟨Nat.lt_of_lt_of_le low more, fun there => notIn (sub.subset there)⟩
    · obtain rfl := List.mem_singleton.1 mem
      change Function.update ua.dlgSet r (some set) r = some own at at_
      rw [Function.update_self] at at_
      exact Option.some.inj at_ ▸ ⟨small, notFree⟩

theorem Tabled.register (tabled : Tabled dialogs ua registered) (new : d ∉ registered)
    (forks : ∀ r ∈ registered, SameSet dialogs r d →
      (dialogs d).role = .uac ∧ (dialogs r).callId = (dialogs d).callId)
    (hash : (dialogs d).tagHval ≠ 0) :
    ∃ ua', pjsipUaRegisterDlg dialogs ua d = .ok ua' ∧ Tabled dialogs ua' (registered ++ [d]) := by
  have tagged : (dialogs d).localTag.1.length ≠ 0 := by
    intro empty
    refine hash ?_
    rw [(dialogs d).hashed, List.length_eq_zero_iff.1 empty]
    rfl
  have checked : ¬ ((dialogs d).localTag.1.length = 0 ∨ (dialogs d).tagHval = 0) := by
    rintro (empty | zero)
    · exact tagged empty
    · exact hash zero
  unfold pjsipUaRegisterDlg
  rw [if_neg checked]
  cases role : (dialogs d).role with
  | uac =>
    rw [getLower_own (d := d) rfl]
    cases found : ua.dlgTable.get (keyOf dialogs d) with
    | some set =>
      obtain ⟨r, mem, text, -, -, list⟩ :=
        tabled.found ((getLower_text (d := d) rfl).trans found)
      have there : r ∈ (ua.sets set).dlgList := list ▸ mem_members.2 ⟨mem, text⟩
      refine ⟨_, if_neg fun empty => ?_, tabled.join new (fun r mem same => (forks r mem same).2) found⟩
      rw [empty] at there
      nomatch there
    | none =>
      refine ⟨_, rfl, tabled.create new fun r mem same => ?_⟩
      obtain ⟨set, -, -, get⟩ := tabled.listed r mem
      rw [ChainedTable.get_congr (sameKey_dialogs.2 same), found] at get
      nomatch get
  | uas =>
    refine ⟨_, rfl, tabled.create new fun r mem same => ?_⟩
    have client := (forks r mem same).1
    rw [role] at client
    nomatch client

theorem register_zero (hash : (dialogs d).tagHval = 0) :
    pjsipUaRegisterDlg dialogs ua d = .error .tagInitialized :=
  if_pos (.inr hash)

end Register

/-! ## Unregistering -/

section Unregister

variable {ua : UserAgent rows} {registered : List DlgId} {d : DlgId}

theorem Tabled.callIds_erase (tabled : Tabled dialogs ua registered) :
    ∀ x ∈ registered.erase d, ∀ r ∈ registered.erase d, SameSet dialogs r x →
      (dialogs r).callId = (dialogs x).callId := by
  intro x memX r memR same
  exact tabled.callIds x (List.mem_of_mem_erase memX) r (List.mem_of_mem_erase memR) same

variable {set : Nat}

theorem Tabled.keyDlg (tabled : Tabled dialogs ua registered) (mem : d ∈ registered)
    (own : ua.dlgSet d = some set) :
    ua.dlgTable.get (keyOf dialogs d) = some set
      ∧ (ua.sets set).dlgList = members dialogs registered (dialogs d).localTag.1
      ∧ SameSet dialogs d (ua.sets set).htKey := by
  obtain ⟨node, at_, list, get⟩ := tabled.listed d mem
  obtain rfl := Option.some.inj (at_.symm.trans own)
  obtain ⟨r, -, text, -, key, -⟩ := tabled.found ((getLower_text (d := d) rfl).trans get)
  exact ⟨get, list, key ▸ text.symm⟩

theorem erase_apart {table : PjHashTable rows Nat} {x h : DlgId} (apart : ¬ SameSet dialogs x h) :
    (table.erase ⟨pjHashCalcTolower 0 (dialogs h).localTag.1, (dialogs h).localTag.1, none⟩).get
      (keyOf dialogs x) = table.get (keyOf dialogs x) := by
  refine ChainedTable.get_erase_other (Bool.eq_false_iff.2 fun same => apart ?_)
  exact sameKey_keyOf.1 (sameKey_symm same)

theorem Tabled.remove (tabled : Tabled dialogs ua registered) (mem : d ∈ registered)
    (own : ua.dlgSet d = some set)
    (last : members dialogs (registered.erase d) (dialogs d).localTag.1 = []) :
    ∃ ua', removeDlgSet dialogs ua d set = .ok ua' ∧ Tabled dialogs ua' (registered.erase d) := by
  obtain ⟨get, -, sameKey⟩ := tabled.keyDlg mem own
  have valid : pjHashGetLower ua.dlgTable (dialogs (ua.sets set).htKey).localTag.1
      (dialogs d).tagHval = some set := (getLower_own sameKey).trans get
  have apart {x : DlgId} (there : x ∈ registered.erase d) : ¬ SameSet dialogs x d := by
    intro same
    have left : x ∈ members dialogs (registered.erase d) (dialogs d).localTag.1 :=
      mem_members.2 ⟨there, same⟩
    rw [last] at left
    nomatch left
  refine ⟨_, if_neg fun other => other valid, tabled.nodup.erase d, tabled.callIds_erase,
    ?_, ?_, ?_, ?_, ?_⟩
  · intro x there
    obtain ⟨node, at_, list, getX⟩ := tabled.listed x (List.mem_of_mem_erase there)
    have other : node ≠ set := by
      rintro rfl
      exact apart there (tabled.sameSet_of_set mem (List.mem_of_mem_erase there) own at_)
    refine ⟨node, at_, ?_, ?_⟩
    · show (Function.update ua.sets set _ node).dlgList = _
      rw [Function.update_of_ne other,
        members_erase_other tabled.nodup fun text => apart there text.symm, list]
    · show (pjHashSetLower none _ _ _ none).get _ = _
      rw [setLower_none sameKey, erase_apart fun same => apart there (same.trans sameKey.symm),
        getX]
  · intro e held
    have held' : (ua.dlgTable.erase _).Holds e := (setLower_none sameKey) ▸ held
    obtain ⟨old, key⟩ := held'.of_erase
    obtain ⟨r, memR, keyR, ownR, htKey⟩ := tabled.held e old
    have other : r ≠ d := by
      rintro rfl
      rw [keyR] at key
      exact Bool.eq_false_iff.1 key (sameKey_keyOf.2 sameKey)
    refine ⟨r, (List.mem_erase_of_ne other).2 memR, keyR, ownR, ?_⟩
    show (Function.update ua.sets set _ e.value).htKey = r
    by_cases here : e.value = set
    · rw [here, Function.update_self, ← here, htKey]
    · rw [Function.update_of_ne here, htKey]
  · show (ua.freeDlgsetNodes ++ [set]).Nodup
    rw [List.nodup_append]
    refine ⟨tabled.freeNodup, by simp, ?_⟩
    intro free memFree x lastNode same
    rw [List.mem_singleton.1 lastNode] at same
    exact (tabled.unused d mem set own).2 (same ▸ memFree)
  · intro free memFree
    rcases List.mem_append.1 memFree with old | new
    · exact tabled.freeAllocated free old
    · exact List.mem_singleton.1 new ▸ (tabled.unused d mem set own).1
  · intro x there node at_
    obtain ⟨low, notFree⟩ := tabled.unused x (List.mem_of_mem_erase there) node at_
    refine ⟨low, fun memFree => ?_⟩
    rcases List.mem_append.1 memFree with old | new
    · exact notFree old
    · have same : ua.dlgSet x = some set := List.mem_singleton.1 new ▸ at_
      exact apart there (tabled.sameSet_of_set mem (List.mem_of_mem_erase there) own same)

/-- Its tag was the key, and there are others in the set: the first gives the new key. -/
theorem Tabled.rekey (tabled : Tabled dialogs ua registered) (mem : d ∈ registered)
    (own : ua.dlgSet d = some set) (isKey : (ua.sets set).htKey = d) {keyDlg : DlgId}
    {rest : List DlgId}
    (left : members dialogs (registered.erase d) (dialogs d).localTag.1 = keyDlg :: rest) :
    ∃ ua', rekeyDlgSet dialogs ua d set keyDlg (keyDlg :: rest) = .ok ua'
      ∧ Tabled dialogs ua' (registered.erase d) := by
  have first : keyDlg ∈ members dialogs (registered.erase d) (dialogs d).localTag.1 :=
    left ▸ List.mem_cons_self
  obtain ⟨memKey, sameKey⟩ := mem_members.1 first
  have ownKey := tabled.set_of_sameSet mem (List.mem_of_mem_erase memKey) own sameKey
  have table : pjHashSetNpLower keyDlg
      (pjHashSetLower none ua.dlgTable (dialogs (ua.sets set).htKey).localTag.1
        (dialogs d).tagHval none) (dialogs keyDlg).localTag.1 (dialogs keyDlg).tagHval set
      = (ua.dlgTable.erase ⟨pjHashCalcTolower 0 (dialogs d).localTag.1,
          (dialogs d).localTag.1, none⟩).put (keyOf dialogs keyDlg) set := by
    rw [isKey, setLower_none rfl, pjHashSetNpLower, findKey_owner]
  unfold rekeyDlgSet
  dsimp only
  rw [table]
  refine ⟨_, if_neg fun other => other (tagHval_same sameKey), tabled.nodup.erase d, tabled.callIds_erase,
    ?_, ?_, tabled.freeNodup, tabled.freeAllocated, ?_⟩
  · intro x there
    have memX := List.mem_of_mem_erase there
    obtain ⟨node, at_, list, get⟩ := tabled.listed x memX
    by_cases same : SameSet dialogs x d
    · refine ⟨set, tabled.set_of_sameSet mem memX own same, ?_, ?_⟩
      · show (Function.update ua.sets set _ set).dlgList = _
        rw [Function.update_self, members_congr same, left]
      · show (ChainedTable.put _ _ _).get _ = _
        exact ChainedTable.get_put_same set (sameKey_dialogs.2 (SameText.trans sameKey same.symm))
    · have other : node ≠ set := by
        rintro rfl
        exact same (tabled.sameSet_of_set mem memX own at_)
      refine ⟨node, at_, ?_, ?_⟩
      · show (Function.update ua.sets set _ node).dlgList = _
        rw [Function.update_of_ne other,
          members_erase_other tabled.nodup fun text => same text.symm, list]
      · show (ChainedTable.put _ _ _).get _ = _
        rw [ChainedTable.get_put_other _ (sameKey_apart fun text => same (text.symm.trans sameKey)),
          erase_apart same, get]
  · intro e held
    rcases ChainedTable.Holds.of_put held with rfl | ⟨e', old, key, -⟩ | old
    · refine ⟨keyDlg, memKey, rfl, ownKey, ?_⟩
      show (Function.update ua.sets set _ set).htKey = keyDlg
      rw [Function.update_self]
    · -- the old entry has been deleted before
      obtain ⟨there, apart⟩ := old.of_erase
      obtain ⟨r, -, keyR, -⟩ := tabled.held e' there
      rw [keyR] at key apart
      exact absurd (sameKey_keyOf.2 ((sameKey_dialogs.1 key).trans sameKey))
        (Bool.eq_false_iff.1 apart)
    · obtain ⟨there, apart⟩ := old.of_erase
      obtain ⟨r, memR, keyR, ownR, htKey⟩ := tabled.held e there
      have other : ¬ SameSet dialogs r d := by
        intro same
        rw [keyR] at apart
        exact Bool.eq_false_iff.1 apart (sameKey_keyOf.2 same)
      have node : e.value ≠ set := by
        intro same
        exact other (tabled.sameSet_of_set mem memR own (same ▸ ownR))
      have ne : r ≠ d := by
        rintro rfl
        exact other rfl
      refine ⟨r, (List.mem_erase_of_ne ne).2 memR, keyR, ownR, ?_⟩
      show (Function.update ua.sets set _ e.value).htKey = r
      rw [Function.update_of_ne node, htKey]
  · intro x there
    exact tabled.unused x (List.mem_of_mem_erase there)

theorem Tabled.leave (tabled : Tabled dialogs ua registered) (mem : d ∈ registered)
    (own : ua.dlgSet d = some set) (notKey : (ua.sets set).htKey ≠ d) {list : List DlgId}
    (left : members dialogs (registered.erase d) (dialogs d).localTag.1 = list) :
    Tabled dialogs { ua with
      sets := Function.update ua.sets set { ua.sets set with dlgList := list } }
      (registered.erase d) := by
  refine ⟨tabled.nodup.erase d, tabled.callIds_erase, ?_, ?_, tabled.freeNodup,
    tabled.freeAllocated, ?_⟩
  · intro x there
    have memX := List.mem_of_mem_erase there
    obtain ⟨node, at_, listX, get⟩ := tabled.listed x memX
    refine ⟨node, at_, ?_, get⟩
    show (Function.update ua.sets set _ node).dlgList = _
    by_cases here : node = set
    · subst here
      have same := tabled.sameSet_of_set mem memX own at_
      rw [Function.update_self, members_congr same, left]
    · have apart : ¬ SameSet dialogs x d := by
        intro same
        have owner := tabled.set_of_sameSet mem memX own same
        exact here (Option.some.inj (at_.symm.trans owner))
      rw [Function.update_of_ne here,
        members_erase_other tabled.nodup fun text => apart text.symm, listX]
  · intro e held
    obtain ⟨r, memR, key, ownR, htKey⟩ := tabled.held e held
    have other : r ≠ d := by
      rintro rfl
      exact notKey (Option.some.inj (own.symm.trans ownR) ▸ htKey)
    refine ⟨r, (List.mem_erase_of_ne other).2 memR, key, ownR, ?_⟩
    show (Function.update ua.sets set _ e.value).htKey = r
    by_cases here : e.value = set
    · rw [here, Function.update_self, ← here, htKey]
    · rw [Function.update_of_ne here, htKey]
  · intro x there
    exact tabled.unused x (List.mem_of_mem_erase there)

theorem Tabled.unregister (tabled : Tabled dialogs ua registered) (mem : d ∈ registered) :
    ∃ ua', pjsipUaUnregisterDlg dialogs ua d = .ok ua'
      ∧ Tabled dialogs ua' (registered.erase d) := by
  obtain ⟨set, own, list, -⟩ := tabled.listed d mem
  have there : d ∈ (ua.sets set).dlgList := by
    rw [list]
    exact mem_members.2 ⟨mem, rfl⟩
  have left : members dialogs (registered.erase d) (dialogs d).localTag.1
      = (ua.sets set).dlgList.erase d := by
    rw [members_erase tabled.nodup, list]
  unfold pjsipUaUnregisterDlg
  rw [own]
  dsimp only
  rw [if_pos there]
  cases rest : (ua.sets set).dlgList.erase d with
  | nil => exact tabled.remove mem own (left.trans rest)
  | cons keyDlg rest' =>
    dsimp only
    by_cases isKey : (ua.sets set).htKey = d
    · rw [if_pos isKey]
      exact tabled.rekey mem own isKey (left.trans rest)
    · exact ⟨_, if_neg isKey, tabled.leave mem own isKey (left.trans rest)⟩

end Unregister

/-! ## Every run -/

theorem Tabled.run {ua : UserAgent rows} {registered : List DlgId} {ops : List Op}
    (tabled : Tabled dialogs ua registered) (legal : Legal dialogs registered ops)
    (hashes : ∀ d, .register d ∈ ops → (dialogs d).tagHval ≠ 0) :
    ∃ ua', run dialogs ua ops = .ok ua' ∧ Tabled dialogs ua' (registeredAfter registered ops) := by
  induction ops generalizing ua registered with
  | nil => exact ⟨ua, rfl, tabled⟩
  | cons op ops ih =>
    have later : ∀ d, .register d ∈ ops → (dialogs d).tagHval ≠ 0 :=
      fun d mem => hashes d (List.mem_cons_of_mem _ mem)
    cases op with
    | register d =>
      obtain ⟨new, forks, legal⟩ := legal
      obtain ⟨ua', stepped, tabled'⟩ :=
        tabled.register new forks (hashes d List.mem_cons_self)
      obtain ⟨ua'', ran, tabled''⟩ := ih tabled' legal later
      refine ⟨ua'', ?_, tabled''⟩
      show (pjsipUaRegisterDlg dialogs ua d).bind _ = _
      rw [stepped]
      exact ran
    | unregister d =>
      obtain ⟨mem, legal⟩ := legal
      obtain ⟨ua', stepped, tabled'⟩ := tabled.unregister mem
      obtain ⟨ua'', ran, tabled''⟩ := ih tabled' legal later
      refine ⟨ua'', ?_, tabled''⟩
      show (pjsipUaUnregisterDlg dialogs ua d).bind _ = _
      rw [stepped]
      exact ran

theorem run_zero {ua ua' : UserAgent rows} {ops : List Op} {d : DlgId}
    (ran : run dialogs ua ops = .ok ua') (mem : .register d ∈ ops) : (dialogs d).tagHval ≠ 0 := by
  intro hash
  induction ops generalizing ua with
  | nil => nomatch mem
  | cons op ops ih =>
    rcases List.mem_cons.1 mem with rfl | mem
    · change (pjsipUaRegisterDlg dialogs ua d).bind _ = _ at ran
      rw [register_zero hash] at ran
      nomatch ran
    · change (step dialogs ua op).bind _ = _ at ran
      cases stepped : step dialogs ua op with
      | ok next_ =>
        rw [stepped] at ran
        exact ih ran mem
      | error a =>
        rw [stepped] at ran
        nomatch ran

theorem Legal.take {registered : List DlgId} {ops more : List Op}
    (legal : Legal dialogs registered (ops ++ more)) : Legal dialogs registered ops := by
  induction ops generalizing registered with
  | nil => trivial
  | cons op ops ih =>
    cases op with
    | register d => exact ⟨legal.1, legal.2.1, ih legal.2.2⟩
    | unregister d => exact ⟨legal.1, ih legal.2⟩

/-- After every step of a run no assertion has failed and the table is exact, if and only if no
dialog is registered whose tag hashes to 0. -/
theorem dlgTable_exact_iff (rows : Nat) (dialogs : DlgId → Dialog) (ops : List Op)
    (legal : Legal dialogs [] ops) :
    (∀ done left, ops = done ++ left → ∃ ua, run dialogs (initUa rows) done = .ok ua
        ∧ Exact dialogs ua (registeredAfter [] done))
      ↔ ∀ d, .register d ∈ ops → (dialogs d).tagHval ≠ 0 := by
  constructor
  · intro all d mem
    obtain ⟨ua, ran, -⟩ := all ops [] (List.append_nil ops).symm
    exact run_zero ran mem
  · rintro hashes done left rfl
    have start : Tabled dialogs (initUa rows) [] := tabled_init
    obtain ⟨ua, ran, tabled⟩ := start.run legal.take
      fun d mem => hashes d (List.mem_append_left _ mem)
    exact ⟨ua, ran, tabled.exact⟩

/-- Three forks, of which the first goes, then a server dialog. -/
def forkedDialogs (d : DlgId) : Dialog where
  role := if d = 3 then .uas else .uac
  callId := if d = 3 then [50] else [49]
  localTag := if d = 3 then ⟨[98], by decide⟩ else if d = 1 then ⟨[65], by decide⟩
    else ⟨[97], by decide⟩
  tagHval := if d = 3 then 98 else 97
  hashed := by
    by_cases server : d = 3
    · simp [server, pjHashCalcTolower, pjTolower]
    · by_cases second : d = 1
      · simp [second, pjHashCalcTolower, pjTolower]
      · simp [server, second, pjHashCalcTolower, pjTolower]

theorem dlgTable_exact_forked :
    ∃ ua, run forkedDialogs (initUa 31) [.register 0, .register 1, .unregister 0] = .ok ua
      ∧ Exact forkedDialogs ua (registeredAfter [] [.register 0, .register 1, .unregister 0]) := by
  refine (dlgTable_exact_iff 31 forkedDialogs
    [.register 0, .register 1, .unregister 0, .register 3] ?_).2 ?_ _ [.register 3] rfl
  · simp [Legal, forkedDialogs, SameSet, SameText, pjTolower]
  · simp [forkedDialogs]

/-- A local tag with the hash 0. -/
def zeroTag : List UInt8 := ascii "4C2E91A0-7B5D-4F83-9E16-D00130BAAFCB".toList

def zeroDialog : Dialog where
  role := .uac
  callId := [49]
  localTag := ⟨zeroTag, by decide⟩
  tagHval := 0
  hashed := by decide +kernel

/-- The only dialog there is cannot be registered. -/
theorem dlgTable_not_exact : ¬ ∀ (dialogs : DlgId → Dialog) (ops : List Op), Legal dialogs [] ops →
      ∀ done left, ops = done ++ left → ∃ ua, run dialogs (initUa 31) done = .ok ua
        ∧ Exact dialogs ua (registeredAfter [] done) := by
  intro all
  have legal : Legal (fun _ => zeroDialog) [] [.register 0] :=
    ⟨List.not_mem_nil, nofun, trivial⟩
  obtain ⟨ua, ran, -⟩ := all _ _ legal [.register 0] [] rfl
  have stopped : run (fun _ => zeroDialog) (initUa 31) [.register 0] = .error .tagInitialized := rfl
  rw [stopped] at ran
  nomatch ran

end Pjsip.Sip.Ua
