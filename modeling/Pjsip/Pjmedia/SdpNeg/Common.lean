import Pjsip.Pjmedia.SdpNeg.Alignment

/-!
# A format in common

`process_m_answer` looks for a format that is in both lines. Where asymmetric codecs are allowed, it
looks for it in the answer only.
-/

namespace Pjsip.Pjmedia.SdpNeg

open Pjsip.Base Pjsip.Pjlib Pjsip.Pjmedia.Sdp

/-- A format of the answer is one of the offer: a static one by its number, a dynamic one by what
both lines map it to. -/
def IsOffered (offer answer : SdpMedia) (fmt ansFmt : PjStr) : Prop :=
  if u32 (pjStrtoul fmt) < 96 then fmt = ansFmt
  else
    ∃ a ∈ offer.attr, attrIs RTPMAP (some fmt) a = true ∧
      ∃ b, pjmediaSdpMediaFindAttr2 answer RTPMAP (some ansFmt) = some b ∧
        answersRtpmap (pjmediaSdpAttrGetRtpmap a).2 (pjmediaSdpAttrGetRtpmap b).2 = true

/-- The lines have a format in common. -/
def Common (offer answer : SdpMedia) : Prop :=
  ∃ fmt ∈ offer.desc.fmt, ∃ ansFmt ∈ answer.desc.fmt, IsOffered offer answer fmt ansFmt

/-- The answer is accepted only with a format in common. -/
def AcceptsCommon (offer answer : SdpMedia) (allowAsym : Bool) : Prop :=
  ∀ offer' answer', processMAnswer offer answer allowAsym = some (.success, offer', answer') →
    Common offer answer

section Rtpmaps

variable {offer offer' answer : SdpMedia}

/-- The `rtpmap`s of one line are in the other. -/
def MapsIn (offer' offer : SdpMedia) : Prop :=
  ∀ a ∈ offer'.attr, a.name = RTPMAP → a ∈ offer.attr

theorem attrIs_name {name : PjStr} {cFmt : Option PjStr} {a : SdpAttr}
    (is_ : attrIs name cFmt a = true) : a.name = name :=
  of_decide_eq_true (Bool.and_eq_true_iff.1 is_).1

theorem IsOffered.mono (maps : MapsIn offer' offer) {fmt ansFmt : PjStr}
    (offered : IsOffered offer' answer fmt ansFmt) : IsOffered offer answer fmt ansFmt := by
  unfold IsOffered at offered ⊢
  split
  · next static =>
    rwa [if_pos static] at offered
  · next dynamic =>
    rw [if_neg dynamic] at offered
    obtain ⟨a, mem, is_, rest⟩ := offered
    exact ⟨a, maps a mem (attrIs_name is_), is_, rest⟩

theorem removeFmtAttrs_maps (offer : SdpMedia) (fmt : PjStr) :
    MapsIn (removeFmtAttrs offer fmt) offer :=
  fun _ mem _ => List.mem_of_mem_eraseP (List.mem_of_mem_eraseP mem)

theorem updateMediaDirection_maps (remote offer : SdpMedia) :
    MapsIn (updateMediaDirection remote offer) offer := by
  have removed : ∀ a ∈ (removeAllMediaDirections offer).attr, a ∈ offer.attr := by
    intro a mem
    simp only [removeAllMediaDirections, List.foldl_cons, List.foldl_nil, pjmediaSdpAttrRemoveAll,
      List.mem_filter] at mem
    exact mem.1.1.1.1
  have added : ∀ dir, dir.name ≠ RTPMAP →
      MapsIn (pjmediaSdpMediaAddAttr (removeAllMediaDirections offer) dir) offer := by
    intro dir other a mem name
    unfold pjmediaSdpMediaAddAttr pjmediaSdpAttrAdd at mem
    dsimp only at mem
    split at mem
    · exact removed a mem
    · rcases List.mem_append.1 mem with old | new
      · exact removed a old
      · exact absurd (List.mem_singleton.1 new ▸ name) other
  unfold updateMediaDirection
  dsimp only
  split
  · split
    · exact added _ (by decide)
    · exact added _ (by decide)
    · exact added _ (by decide)
    · exact fun a mem _ => removed a mem
  · exact fun _ mem _ => mem

end Rtpmaps

variable {offer offer' answer : SdpMedia}

theorem findAnswered_offered {fmt : PjStr} {j : Nat}
    (found : findAnswered offer answer fmt = some (some j)) :
    ∃ ansFmt ∈ answer.desc.fmt, IsOffered offer answer fmt ansFmt := by
  unfold findAnswered at found
  split at found
  · next static =>
    obtain ⟨inside, same, -⟩ := List.findIdx?_eq_some_iff_getElem.1 (Option.some.inj found)
    refine ⟨_, List.getElem_mem inside, ?_⟩
    rw [IsOffered, if_pos static]
    exact of_decide_eq_true same
  · next dynamic =>
    split at found
    · cases found
    · next a mapped =>
      obtain ⟨inside, same, -⟩ := List.findIdx?_eq_some_iff_getElem.1 (Option.some.inj found)
      refine ⟨_, List.getElem_mem inside, ?_⟩
      rw [IsOffered, if_neg dynamic]
      refine ⟨a, List.mem_of_find?_eq_some mapped, List.find?_some mapped, ?_⟩
      split at same
      · cases same
      · next b answered => exact ⟨b, answered, same⟩

theorem keepAnswered_offered {fmts : List PjStr} {kept : List (Nat × PjStr)}
    (result : keepAnswered answer offer fmts = some (offer', kept)) (nonempty : kept ≠ []) :
    ∃ fmt ∈ fmts, ∃ ansFmt ∈ answer.desc.fmt, IsOffered offer answer fmt ansFmt := by
  -- by induction on the formats of the offer: one that is kept is answered, by the `rtpmap`s that
  -- are left then
  induction fmts generalizing offer with
  | nil =>
    cases result
    exact absurd rfl nonempty
  | cons fmt rest ih =>
    simp only [keepAnswered, Option.bind_eq_bind, Option.bind_eq_some_iff] at result
    obtain ⟨found, found_eq, result⟩ := result
    cases found with
    | none =>
      obtain ⟨fmt', mem, ansFmt, mem', offered⟩ := ih result
      exact ⟨fmt', List.mem_cons_of_mem _ mem, ansFmt, mem',
        offered.mono (removeFmtAttrs_maps offer fmt)⟩
    | some j => exact ⟨fmt, List.mem_cons_self, findAnswered_offered found_eq⟩

theorem hasCommonCodec_iff :
    hasCommonCodec offer answer = true ↔ offer.desc.fmt ≠ [] ∧ answer.desc.fmt ≠ [] := by
  unfold hasCommonCodec
  cases answer.desc.fmt with
  | nil => simp
  | cons first rest => cases offer.desc.fmt <;> simp

/-- A format is looked for in the offer unless asymmetric codecs are allowed. Then any two lists
that are not empty will do. -/
theorem processMAnswer_common_iff (media : answer.desc.media = offer.desc.media)
    (transport : pjmediaSdpTransportCmp answer.desc.transport offer.desc.transport = .success)
    (offered : offer.desc.port ≠ 0) (answered : answer.desc.port ≠ 0) (allowAsym : Bool) :
    AcceptsCommon offer answer allowAsym ↔ (allowAsym = true → offer.desc.fmt ≠ [] →
      answer.desc.fmt ≠ [] → Common offer answer) := by
  unfold AcceptsCommon processMAnswer
  rw [if_neg (not_not.2 media), if_neg answered, if_neg (not_not.2 transport), if_neg offered]
  cases allowAsym with
  | true =>
    have found := @hasCommonCodec_iff (updateMediaDirection answer offer) answer
    rw [updateMediaDirection_desc] at found
    simp only [if_true, true_imp_iff]
    by_cases formats : offer.desc.fmt ≠ [] ∧ answer.desc.fmt ≠ []
    · rw [if_pos (found.2 formats)]
      exact ⟨fun common _ _ => common _ _ rfl, fun common _ _ _ => common formats.1 formats.2⟩
    · rw [if_neg (mt found.1 formats)]
      refine iff_of_true ?_ fun first second => absurd ⟨first, second⟩ formats
      rintro _ _ ⟨⟩
  | false =>
    refine iff_of_true ?_ (by simp)
    intro offer' answer' result
    simp only [Bool.false_eq_true, if_false, Option.bind_eq_bind, Option.bind_eq_some_iff] at result
    obtain ⟨⟨offer₁, kept⟩, kept_eq, result⟩ := result
    have formats : kept ≠ [] := by
      rintro rfl
      cases result
    obtain ⟨fmt, mem, ansFmt, mem', common⟩ := keepAnswered_offered kept_eq formats
    rw [updateMediaDirection_desc] at mem
    exact ⟨fmt, mem, ansFmt, mem', common.mono (updateMediaDirection_maps answer offer)⟩

/-- A line of audio with these formats. -/
def audioLine (fmt : List PjStr) : SdpMedia :=
  ⟨⟨ AUDIO, 4000, 1, "RTP/AVP".toList, fmt⟩, none, []⟩

theorem processMAnswer_common_small :
    AcceptsCommon (audioLine [['0']]) (audioLine [['8'], ['0']]) true := by
  refine (@processMAnswer_common_iff (audioLine [['0']]) (audioLine [['8'], ['0']]) rfl (by decide)
    (by decide) (by decide) true).2 fun _ _ _ => ?_
  exact ⟨['0'], List.mem_cons_self, ['0'], by decide, by rw [IsOffered, if_pos (by decide)]⟩

/-- PCMA answers PCMU. -/
theorem processMAnswer_asym_uncommon :
    ¬ AcceptsCommon (audioLine [['0']]) (audioLine [['8']]) true := by
  intro common
  obtain ⟨fmt, mem, ansFmt, mem', offered⟩ := common _ _ rfl
  rw [List.mem_singleton.1 mem, List.mem_singleton.1 mem', IsOffered, if_pos (by decide)] at offered
  cases offered

end Pjsip.Pjmedia.SdpNeg
