import GroupVoip.HeaderRoundTrip

/-!
# The header of a message

Both sides keep the last header of a channel, the encoder as it wrote it, the
decoder with its time made up.  Whatever the encoder leaves out of the next
header, the decoder finds in that one.
-/

namespace GroupVoip

namespace RTMP

open Library.WireBytes

/-- A channel on both sides between two messages. -/
inductive InStep : WriteChannel → ReadChannel → Prop where
  | fresh : InStep {} {}
  | after {h : Header} {stamp : UInt32} (fits : Fits h)
      (earlier : stamp.toNat ≤ h.getTimer.toNat) :
      InStep { writeHeader := some h, writeTimestamp := stamp }
        { readHeader := some { h with timerBase := h.getTimer }
          readPacketHeader := some h }

/-- A header that is not written in full is not much later than the last. -/
structure Near (header lastHeader : Header) : Prop where
  streamId : header.streamId = lastHeader.streamId
  later : lastHeader.getTimer.toNat ≤ header.getTimer.toNat
  soon : header.getTimer.toNat < lastHeader.getTimer.toNat + 250

theorem near_of_getHeaderType {w : WriteChannel} {lastHeader : Header}
    (header : Header)
    (earlier : w.writeTimestamp.toNat ≤ lastHeader.getTimer.toNat)
    (notNew : getHeaderType w header lastHeader ≠ .HEADER_NEW) :
    Near header lastHeader := by
  by_cases full : header.streamId ≠ lastHeader.streamId ∨
      diffTimestamps header.getTimer lastHeader.getTimer < 0 ∨
      diffTimestamps header.getTimer w.writeTimestamp ≥ 250
  · exact absurd (if_pos full) notNew
  · obtain ⟨stream, times⟩ := not_or.mp full
    simp only [diffTimestamps] at times
    exact ⟨not_not.mp stream, by omega, by omega⟩

theorem sameFields_of_getHeaderType (w : WriteChannel)
    (header lastHeader : Header)
    (notNew : getHeaderType w header lastHeader ≠ .HEADER_NEW)
    (notSame : getHeaderType w header lastHeader ≠ .HEADER_SAME_SOURCE) :
    lastHeader.size = header.size ∧
      lastHeader.dataType = header.dataType := by
  rw [getHeaderType] at notNew notSame
  split_ifs at notNew notSame with full differs
  · exact absurd rfl notNew
  · exact absurd rfl notSame
  · obtain ⟨size, dataType⟩ := not_or.mp differs
    exact ⟨(not_not.mp size).symm, (not_not.mp dataType).symm⟩
  · obtain ⟨size, dataType⟩ := not_or.mp differs
    exact ⟨(not_not.mp size).symm, (not_not.mp dataType).symm⟩

theorem timer_of_continue {w : WriteChannel} {header lastHeader : Header}
    (isContinue : getHeaderType w header lastHeader = .HEADER_CONTINUE) :
    header.getTimer = lastHeader.getTimer + lastHeader.timerDelta := by
  rw [getHeaderType] at isContinue
  split_ifs at isContinue with full differs timer
  exact not_not.mp timer

/-- The difference to the last timer is too small for an extended
timestamp. -/
theorem Near.timerSince {header lastHeader : Header}
    (near : Near header lastHeader) :
    (timerSince header lastHeader).toNat < 250 ∧
      isExtended (timerSince header lastHeader) = false := by
  have small : (RTMP.timerSince header lastHeader).toNat < 250 := by
    have below := header.getTimer.toNat_lt
    have := near.later
    have := near.soon
    rw [timerSince_eq, UInt32.toNat_sub]
    omega
  refine ⟨small, ?_⟩
  rw [← Bool.not_eq_true, isExtended_iff]
  omega

theorem sub_timerSince (header lastHeader : Header) :
    header.getTimer - timerSince header lastHeader = lastHeader.getTimer := by
  rw [timerSince_eq, UInt32.sub_eq_iff_eq_add, UInt32.add_comm,
    UInt32.sub_add_cancel]

/-- What was written for a header, as the decoder needs it. -/
structure Written (last : Option Header) (header : Header)
    (headerType : HeaderType) (fields : Bytes) (h : Header) : Prop where
  fields : fields = wireFields h headerType
  fits : Fits h
  follows : Follows last h headerType
  timer : h.getTimer = header.getTimer
  others : h = { header with
    timerBase := h.timerBase
    timerDelta := h.timerDelta
    extendedTimestamp := h.extendedTimestamp }

/-- The time behind a difference is the last timer. -/
theorem Near.written {header lastHeader : Header}
    (near : Near header lastHeader) (fits : Fits header) {h : Header}
    (base : h.timerBase = header.getTimer - RTMP.timerSince header lastHeader)
    (delta : h.timerDelta = RTMP.timerSince header lastHeader)
    (extended : h.extendedTimestamp.toNat < 2147483648)
    (others : h = { header with
      timerBase := h.timerBase
      timerDelta := h.timerDelta
      extendedTimestamp := h.extendedTimestamp }) :
    h.timerBase = lastHeader.getTimer ∧ h.getTimer = header.getTimer ∧
      Fits h := by
  have timer : h.getTimer = header.getTimer := by
    rw [Header.getTimer, base, delta, UInt32.sub_add_cancel]
  have small := near.timerSince.1
  refine ⟨by rw [base, sub_timerSince], timer, ?_, ?_, ?_, ?_, ?_, extended⟩
  · rw [others]
    exact fits.size
  · rw [others]
    exact fits.streamLow
  · rw [others]
    exact fits.streamHigh
  · rw [timer]
    exact fits.timer
  · rw [delta]
    omega

theorem written_new {header : Header} (fits : Fits header)
    (fresh : header.extendedTimestamp = 0) (last : Option Header) :
    Written last header .HEADER_NEW (encodeNew header).1
      (encodeNew header).2 := by
  have timer : (encodeNew header).2.getTimer = header.getTimer :=
    UInt32.add_zero _
  have extended : (encodeNew header).2.extendedTimestamp =
      if isExtended header.getTimer then header.getTimer else 0 := by
    rw [← fresh]
    rfl
  have noDelta : (encodeNew header).2.timerDelta = 0 := rfl
  refine ⟨?_, ⟨fits.size, fits.streamLow, fits.streamHigh, ?_, ?_, ?_⟩,
    ⟨header, .inl rfl, noDelta, ?_⟩, timer, rfl⟩
  · rw [wireFields_timed _ (by decide), wireTime, timer]
    simp only [encodeNew, afterTime, List.append_assoc]
  · rw [timer]
    exact fits.timer
  · rw [noDelta]
    decide
  · rw [extended]
    split_ifs
    · exact fits.timer
    · decide
  · rw [Timed, wireTime, timer, extended]

section

variable {header lastHeader : Header} (near : Near header lastHeader)
  (fits : Fits header) (fresh : header.extendedTimestamp = 0)

include near fits fresh

theorem written_sameSource :
    Written (some { lastHeader with timerBase := lastHeader.getTimer }) header
      .HEADER_SAME_SOURCE
      (encodeFields header lastHeader .HEADER_SAME_SOURCE).1
      (encodeFields header lastHeader .HEADER_SAME_SOURCE).2 := by
  have plain := near.timerSince.2
  have extended : (encodeFields header lastHeader
      .HEADER_SAME_SOURCE).2.extendedTimestamp = 0 := by
    simp only [encodeFields, plain, Bool.false_eq_true, if_false, fresh]
  obtain ⟨base, timer, fitsStill⟩ := near.written fits
    (h := (encodeFields header lastHeader .HEADER_SAME_SOURCE).2) rfl rfl
    (by rw [extended]; decide) rfl
  refine ⟨?_, fitsStill, ⟨_, .inr rfl, ?_⟩, timer, rfl⟩
  · rw [wireFields_timed _ (by decide)]
    simp only [encodeFields, wireTime, afterTime, List.append_assoc]
  · refine ⟨near.streamId.symm, base.symm, ?_⟩
    rw [Timed, extended]
    simp only [encodeFields, wireTime, plain, Bool.false_eq_true, if_false]

theorem written_timerChange (size : lastHeader.size = header.size)
    (dataType : lastHeader.dataType = header.dataType) :
    Written (some { lastHeader with timerBase := lastHeader.getTimer }) header
      .HEADER_TIMER_CHANGE
      (encodeFields header lastHeader .HEADER_TIMER_CHANGE).1
      (encodeFields header lastHeader .HEADER_TIMER_CHANGE).2 := by
  have plain := near.timerSince.2
  have extended : (encodeFields header lastHeader
      .HEADER_TIMER_CHANGE).2.extendedTimestamp = 0 := by
    simp only [encodeFields, plain, Bool.false_eq_true, if_false, fresh]
  obtain ⟨base, timer, fitsStill⟩ := near.written fits
    (h := (encodeFields header lastHeader .HEADER_TIMER_CHANGE).2) rfl rfl
    (by rw [extended]; decide) rfl
  refine ⟨?_, fitsStill, ⟨_, .inr rfl, ?_⟩, timer, rfl⟩
  · rw [wireFields_timed _ (by decide)]
    simp only [encodeFields, wireTime, afterTime, List.nil_append]
    rfl
  · refine ⟨near.streamId.symm, base.symm, size, dataType, ?_⟩
    rw [Timed, extended]
    simp only [encodeFields, wireTime, plain, Bool.false_eq_true, if_false]

theorem written_continue (lastFits : Fits lastHeader)
    (size : lastHeader.size = header.size)
    (dataType : lastHeader.dataType = header.dataType)
    (steady : header.getTimer = lastHeader.getTimer + lastHeader.timerDelta) :
    Written (some { lastHeader with timerBase := lastHeader.getTimer }) header
      .HEADER_CONTINUE
      (encodeFields header lastHeader .HEADER_CONTINUE).1
      (encodeFields header lastHeader .HEADER_CONTINUE).2 := by
  have extended : (encodeFields header lastHeader
      .HEADER_CONTINUE).2.extendedTimestamp =
        lastHeader.extendedTimestamp := by
    simp only [encodeFields, fresh]
    split_ifs with repeats
    · rfl
    · exact (not_not.mp repeats).symm
  have delta : (encodeFields header lastHeader
      .HEADER_CONTINUE).2.timerDelta = lastHeader.timerDelta := by
    simp only [encodeFields]
    rw [timerSince_eq, steady, UInt32.add_comm, UInt32.add_sub_cancel]
  obtain ⟨base, timer, fitsStill⟩ := near.written fits
    (h := (encodeFields header lastHeader .HEADER_CONTINUE).2) rfl rfl
    (by rw [extended]; exact lastFits.extended) rfl
  refine ⟨?_, fitsStill, ⟨_, .inr rfl, ?_⟩, timer, rfl⟩
  · rw [wireFields, extended]
    rfl
  · exact ⟨near.streamId.symm, base.symm, size, dataType, delta.symm,
      extended.symm⟩

end

/-- The next header of a channel that is in step. -/
theorem InStep.written {w : WriteChannel} {r : ReadChannel}
    (inStep : InStep w r) {header : Header} (fits : Fits header)
    (fresh : header.extendedTimestamp = 0) :
    Written r.readHeader header (headerTypeOf w header)
      (encodeFields header (w.writeHeader.getD header)
        (headerTypeOf w header)).1
      (encodeHeader w header).2 := by
  cases inStep with
  | fresh => exact written_new fits fresh none
  | @after last stamp lastFits earlier =>
      have channelType : headerTypeOf
          { writeHeader := some last, writeTimestamp := stamp } header =
            getHeaderType { writeHeader := some last, writeTimestamp := stamp }
              header last := rfl
      have near := near_of_getHeaderType
        (w := { writeHeader := some last, writeTimestamp := stamp }) header
        earlier
      have sameFields := sameFields_of_getHeaderType
        { writeHeader := some last, writeTimestamp := stamp } header last
      simp only [encodeHeader, channelType, Option.getD_some]
      cases isType : getHeaderType
          { writeHeader := some last, writeTimestamp := stamp } header last with
      | HEADER_NEW => exact written_new fits fresh _
      | HEADER_SAME_SOURCE =>
          exact written_sameSource (near (by rw [isType]; decide)) fits fresh
      | HEADER_TIMER_CHANGE =>
          obtain ⟨size, dataType⟩ := sameFields (by rw [isType]; decide)
            (by rw [isType]; decide)
          exact written_timerChange (near (by rw [isType]; decide)) fits fresh
            size dataType
      | HEADER_CONTINUE =>
          obtain ⟨size, dataType⟩ := sameFields (by rw [isType]; decide)
            (by rw [isType]; decide)
          exact written_continue (near (by rw [isType]; decide)) fits fresh
            lastFits size dataType (timer_of_continue isType)

/-- The decoder makes up the time of a header when its packet is complete. -/
def ReadChannel.received (h : Header) : ReadChannel where
  readHeader := some { h with timerBase := h.getTimer }
  readPacketHeader := some h

/-- After the message both sides are in step again. -/
theorem InStep.wrote {w : WriteChannel} {r : ReadChannel}
    (inStep : InStep w r) {header : Header} (fits : Fits header)
    (fresh : header.extendedTimestamp = 0) :
    InStep (w.wrote header) (.received (encodeHeader w header).2) := by
  have written := inStep.written fits fresh
  refine .after written.fits ?_
  rw [written.timer]
  by_cases full : headerTypeOf w header = .HEADER_NEW
  · rw [if_pos full]
  · rw [if_neg full]
    cases inStep with
    | fresh => exact absurd rfl full
    | after lastFits earlier =>
        exact le_trans earlier (near_of_getHeaderType header earlier full).later

end RTMP

end GroupVoip
