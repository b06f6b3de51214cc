import Pjsip.Pjmedia.Rtp.Seq

/-!
# Received RTP packets

`pjmedia_rtp_session_update2` sets the flag of the sender first. The sequence control then writes
the whole status once more.
-/

namespace Pjsip.Pjmedia.Rtp

/-- The fields of `pjmedia_rtp_session` that a received packet touches. -/
structure RtpSession where
  seqCtrl : RtpSeqSession
  outPt : Nat
  hasPeerSsrc : Bool
  peerSsrc : UInt32
  received : UInt32
  deriving DecidableEq, Repr

/-- The fields of a header that are read, in the byte order of the host. -/
structure RtpHdr where
  pt : Nat
  seq : UInt16
  ssrc : UInt32
  deriving DecidableEq, Repr

/-- The check of the sender in `pjmedia_rtp_session_update2`. -/
def checkSsrc (ses : RtpSession) (hdr : RtpHdr) : RtpSession × RtpStatus :=
  let ses :=
    if ¬ ses.hasPeerSsrc ∧ ses.peerSsrc = 0 then { ses with peerSsrc := hdr.ssrc } else ses
  if hdr.ssrc ≠ ses.peerSsrc then
    (if ¬ ses.hasPeerSsrc then { ses with peerSsrc := hdr.ssrc } else ses, { badssrc := true })
  else (ses, {})

/-- `pjmedia_rtp_session_update2`; `st` is what the caller's status held before. -/
def pjmediaRtpSessionUpdate2 (ses : RtpSession) (hdr : RtpHdr) (st : RtpStatus) (checkPt : Bool) :
    RtpSession × RtpStatus :=
  let (ses, seqSt) := checkSsrc ses hdr
  if checkPt ∧ hdr.pt ≠ ses.outPt then
    (ses, { seqSt with bad := true, badpt := true, diff := st.diff })
  else
    let seqCtrl :=
      if ses.received = 0 then pjmediaRtpSeqInit ses.seqCtrl hdr.seq.toNat else ses.seqCtrl
    -- the sequence control writes all of the status
    let (seqCtrl, seqSt) := pjmediaRtpSeqUpdate seqCtrl hdr.seq.toNat
    let received :=
      if seqSt.restart then ses.received + 1
      else if ¬ seqSt.bad then ses.received + 1 else ses.received
    ({ ses with seqCtrl := seqCtrl, received := received }, seqSt)

variable (ses : RtpSession) (hdr : RtpHdr)

/-- The peer that the session knows, once it has seen the header. -/
def RtpSession.peer : UInt32 :=
  if ¬ ses.hasPeerSsrc ∧ ses.peerSsrc = 0 then hdr.ssrc else ses.peerSsrc

/-- The sequence control as the packet finds it. -/
def RtpSession.control : RtpSeqSession :=
  if ses.received = 0 then pjmediaRtpSeqInit ses.seqCtrl hdr.seq.toNat else ses.seqCtrl

/-- What the sequence control says of the packet. -/
def RtpSession.sequence : RtpStatus :=
  (pjmediaRtpSeqUpdate (ses.control hdr) hdr.seq.toNat).2

/-- What is to become of a packet, whatever its sender. -/
structure Counted (after : RtpSession) (st : RtpStatus) : Prop where
  fixed : ses.hasPeerSsrc = true → after.peerSsrc = ses.peerSsrc
  received : after.received = if st.bad then ses.received else ses.received + 1
  flags : { st with badssrc := false } = ses.sequence hdr

theorem pjmediaRtpSeqUpdate_flags (sess : RtpSeqSession) (seq : Nat) :
    (pjmediaRtpSeqUpdate sess seq).2.badssrc = false ∧
      ((pjmediaRtpSeqUpdate sess seq).2.restart = true →
        (pjmediaRtpSeqUpdate sess seq).2.bad = false) := by
  unfold pjmediaRtpSeqUpdate updateProbation updateJump
  simp only
  repeat' split
  all_goals exact ⟨rfl, by simp⟩

theorem checkSsrc_keeps : (checkSsrc ses hdr).1.seqCtrl = ses.seqCtrl ∧
    (checkSsrc ses hdr).1.received = ses.received ∧
      (ses.hasPeerSsrc = true → (checkSsrc ses hdr).1.peerSsrc = ses.peerSsrc) := by
  obtain ⟨control, outPt, fixed, peer, number⟩ := ses
  unfold checkSsrc
  by_cases same : hdr.ssrc = peer <;> by_cases unset : peer = 0 <;> cases fixed <;> simp_all

theorem update2_unchecked (st : RtpStatus) :
    (pjmediaRtpSessionUpdate2 ses hdr st false).2 = ses.sequence hdr ∧
      Counted ses hdr (pjmediaRtpSessionUpdate2 ses hdr st false).1 (ses.sequence hdr) := by
  obtain ⟨control, number, fixed⟩ := checkSsrc_keeps ses hdr
  obtain ⟨sender, restart⟩ := pjmediaRtpSeqUpdate_flags (ses.control hdr) hdr.seq.toNat
  have unchecked : ¬ (false = true ∧ hdr.pt ≠ (checkSsrc ses hdr).1.outPt) := by simp
  have updated : pjmediaRtpSessionUpdate2 ses hdr st false = ({ (checkSsrc ses hdr).1 with
          seqCtrl := (pjmediaRtpSeqUpdate (ses.control hdr) hdr.seq.toNat).1
          received := if (ses.sequence hdr).restart then ses.received + 1
            else if ¬ (ses.sequence hdr).bad then ses.received + 1 else ses.received },
        ses.sequence hdr) := by
    rw [pjmediaRtpSessionUpdate2]
    simp only [if_neg unchecked, control, number]
    rfl
  rw [updated]
  refine ⟨rfl, fixed, ?_, ?_⟩
  · change (ses.sequence hdr).restart = true → (ses.sequence hdr).bad = false at restart
    by_cases restarted : (ses.sequence hdr).restart = true
    · simp [restarted, restart restarted]
    · cases (ses.sequence hdr).bad <;> simp [restarted]
  · show { ses.sequence hdr with badssrc := false } = _
    rw [← sender]
    rfl

/-- The status has its sequence flags, and the flag of the sender exactly where the sender is the
known one: it is never set. -/
theorem update2_status_iff (st : RtpStatus) :
    Counted ses hdr (pjmediaRtpSessionUpdate2 ses hdr st false).1
        (pjmediaRtpSessionUpdate2 ses hdr st false).2 ∧
      ((pjmediaRtpSessionUpdate2 ses hdr st false).2.badssrc = decide (hdr.ssrc ≠ ses.peer hdr) ↔
        hdr.ssrc = ses.peer hdr) := by
  obtain ⟨status, counted⟩ := update2_unchecked ses hdr st
  obtain ⟨sender, -⟩ := pjmediaRtpSeqUpdate_flags (ses.control hdr) hdr.seq.toNat
  rw [status]
  refine ⟨counted, ?_⟩
  show (pjmediaRtpSeqUpdate (ses.control hdr) hdr.seq.toNat).2.badssrc = _ ↔ _
  rw [sender, eq_comm, decide_eq_false_iff_not, not_not]

/-- The sender of the second packet is another one. -/
theorem update2_sender_lost :
    (pjmediaRtpSessionUpdate2 ⟨heardTwo, 0, false, 1, 2⟩ ⟨0, 2, 7⟩ {} false).2.badssrc ≠
      decide ((7 : UInt32) ≠ RtpSession.peer ⟨heardTwo, 0, false, 1, 2⟩ ⟨0, 2, 7⟩) := by
  decide

end Pjsip.Pjmedia.Rtp
