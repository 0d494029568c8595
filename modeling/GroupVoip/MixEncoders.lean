import GroupVoip.FLVSegmentOutput
import GroupVoip.MixCoder

/-!
# Encoders and the drain loop

The backend of the program: mixers and encoders around `FLVSegmentOutput`.
An encoder may keep its input and return nothing.  `main` calls `getOutput`
until it returns nothing.
-/

namespace GroupVoip

variable {V A β σ : Type}

/-- Mixers and encoders, with their state in `σ`. -/
structure Encoders (σ : Type) where
  mixVideo : σ → VideoMix → σ × Bytes × (Slot → VideoRect)
  encodeVideo : σ → Bytes → σ × Option Bytes × Bool
  mixAudio : σ → AudioMix → σ × Bytes
  encodeAudio : σ → Nat → Bytes → σ × Option Bytes

namespace Encoders

/-- The output slot with a number. -/
def outputSlot (streamId : Nat) : OutputSlot :=
  ⟨streamId % (MAX_XCODING_INSTANCES + 1), Nat.mod_lt _ (Nat.succ_pos _)⟩

/-- Mixers and encoders around the writer of the segments, which may have run
out of a buffer. -/
def backend (e : Encoders σ) :
    Backend (σ × Except Abort FLVSegmentOutput) where
  mixVideo b mix :=
    let (s, rawFrameMixed, videoRect) := e.mixVideo b.1 mix
    ((s, b.2), rawFrameMixed, videoRect)
  encodeVideo b rawFrameMixed :=
    let (s, encodedFrame, bIsKeyFrame) := e.encodeVideo b.1 rawFrameMixed
    ((s, b.2), encodedFrame, bIsKeyFrame)
  packageVideo b videoPacket ts bIsKeyFrame streamId videoRect :=
    (b.1, b.2.bind fun o =>
      o.packageVideoFrame videoPacket ts bIsKeyFrame (outputSlot streamId)
        videoRect)
  mixAudio b mix :=
    let (s, rawFrameMixed) := e.mixAudio b.1 mix
    ((s, b.2), rawFrameMixed)
  encodeAudio b mixer rawFrameMixed :=
    let (s, encodedFrame) := e.encodeAudio b.1 mixer rawFrameMixed
    ((s, b.2), encodedFrame)
  packageAudio b audioPacket ts streamId :=
    (b.1, b.2.bind fun o =>
      o.packageAudioFrame audioPacket ts (outputSlot streamId))
  getOneFrameForAllStreams b :=
    match b.2.bind FLVSegmentOutput.getOneFrameForAllStreams with
    | .ok (result, o) => ((b.1, .ok o), result)
    | .error stopped => ((b.1, .error stopped), none)

end Encoders

namespace MixCoder

/-- The loop that calls `getOutput` until it returns nothing.  The second
component tells whether it did within the given turns. -/
def drain (backend : Backend β) :
    Nat → MixCoder V A β → Except Abort (MixCoder V A β × Bool)
  | 0, m => .ok (m, false)
  | turns + 1, m => do
      let (m, out) ← m.getOutput backend
      match out.resultFlvPacket with
      | some _ => m.drain backend turns
      | none => return (m, true)

end MixCoder

end GroupVoip
