import GroupVoip.CodecInfo
import GroupVoip.Library.ReferenceFrames

/-!
# VideoEncoder

The video encoder asks for frames in five temporal layers with a period of 16
frames.  With the flags that it gives to the codec, the frames up to a layer,
which are the content of one `outFile_`, are decoded without the others.
-/

namespace GroupVoip

open Library.ReferenceFrames

/-- The stored pictures of the codec. -/
inductive ReferenceBuffer where
  | LAST
  | GF
  | ARF
deriving DecidableEq, Repr

/-- The flags of `vpx_codec_encode`. -/
structure EncodeFlags where
  FORCE_KF : Bool := false
  NO_REF_LAST : Bool := false
  NO_REF_GF : Bool := false
  NO_REF_ARF : Bool := false
  NO_UPD_LAST : Bool := false
  NO_UPD_GF : Bool := false
  NO_UPD_ARF : Bool := false
deriving DecidableEq, Repr

namespace EncodeFlags

def noRef (flags : EncodeFlags) : ReferenceBuffer → Bool
  | .LAST => flags.NO_REF_LAST
  | .GF => flags.NO_REF_GF
  | .ARF => flags.NO_REF_ARF

def noUpd (flags : EncodeFlags) : ReferenceBuffer → Bool
  | .LAST => flags.NO_UPD_LAST
  | .GF => flags.NO_UPD_GF
  | .ARF => flags.NO_UPD_ARF

end EncodeFlags

/-- `pkt->data.frame`. -/
abbrev VpxFrame := CodedFrame ReferenceBuffer Bytes

/-- What `vpx_codec_get_cx_data` returns. -/
inductive VpxPacket where
  | VPX_CODEC_CX_FRAME_PKT (frame : VpxFrame)
  | other

/-- What the codec promises of its flags when it places no key frames
itself. -/
structure VpxFrame.Obeys (frame : VpxFrame) (flags : EncodeFlags) : Prop where
  keyFrame : flags.FORCE_KF = true → ∀ b, frame.refs b = false
  noRef : ∀ b, flags.noRef b = true → frame.refs b = false
  noUpd : ∀ b, flags.noUpd b = true → frame.updates b = false

/-- The codec, on its state `ε`; it may fail. -/
structure Vpx (ε : Type) where
  encode : ε → Bytes → UInt32 → EncodeFlags → Option (ε × List VpxPacket)
  obeys : ∀ codec raw tick flags next packets,
    encode codec raw tick flags = some (next, packets) →
    ∀ frame, .VPX_CODEC_CX_FRAME_PKT frame ∈ packets → frame.Obeys flags

def VPX_TS_MAX_PERIODICITY : Nat := 16

def NUM_LAYERS : Nat := 5

/-- `cfg_.ts_layer_id` -/
def ts_layer_id (i : Nat) : Nat :=
  [0, 4, 3, 4, 2, 4, 3, 4, 1, 4, 3, 4, 2, 4, 3, 4].getD i 0

def layerFlags (i : Nat) : EncodeFlags :=
  match i with
  | 0 => { FORCE_KF := true }
  | 1 | 3 | 5 | 7 | 9 | 11 | 13 | 15 =>
      { NO_UPD_LAST := true, NO_UPD_GF := true, NO_UPD_ARF := true }
  | 2 | 6 | 10 | 14 => { NO_UPD_ARF := true, NO_UPD_GF := true }
  | 4 | 12 => { NO_REF_LAST := true, NO_UPD_ARF := true }
  | 8 => { NO_REF_LAST := true, NO_REF_GF := true }
  | _ => {}

/-- `raw` is the memory at `raw_.planes[0]`; `outFile` lists what is written
to the files of the layers, with the layer. -/
structure VideoEncoder (ε : Type) where
  codec : ε
  raw : Bytes
  frameInputCnt : Nat := 0
  frameOutputCnt : Nat := 0
  timestampTick : UInt32 := 0
  outFile : List (Nat × VpxFrame) := []

namespace VideoEncoder

variable {ε : Type}

/-- The loop over the packets of one frame. -/
def takePackets (layer : Nat) (flags : EncodeFlags) :
    List VpxPacket → VideoEncoder ε × Option Bytes × Bool →
      VideoEncoder ε × Option Bytes × Bool
  | [], made => made
  | .other :: rest, made => takePackets layer flags rest made
  | .VPX_CODEC_CX_FRAME_PKT frame :: rest, (e, _, _) =>
      takePackets layer flags rest
        ({ e with
          frameOutputCnt := e.frameOutputCnt + 1
          outFile := e.outFile ++ [(layer, frame)] },
        some frame.data, decide (flags = { FORCE_KF := true }))

/-- The result and the value of `*bIsKeyFrame` behind the call. -/
def encodeAFrame (vpx : Vpx ε) (e : VideoEncoder ε) (input : Option Bytes)
    (bIsKeyFrame : Bool) : VideoEncoder ε × Option Bytes × Bool :=
  match input with
  | none => (e, none, bIsKeyFrame)
  | some data =>
      if 0 < data.length then
        let i := e.frameInputCnt % VPX_TS_MAX_PERIODICITY
        let flags := layerFlags i
        let raw := data ++ e.raw.drop data.length
        match vpx.encode e.codec raw e.timestampTick flags with
        | none => ({ e with raw := raw }, none, bIsKeyFrame)
        | some (codec, packets) =>
            let (e, result, bIsKeyFrame) :=
              takePackets (ts_layer_id i) flags packets
                ({ e with codec := codec, raw := raw }, none, bIsKeyFrame)
            ({ e with
              timestampTick := e.timestampTick + 1
              frameInputCnt := e.frameInputCnt + 1 }, result, bIsKeyFrame)
      else (e, none, bIsKeyFrame)

/-- The calls for the pictures of a list. -/
def encodeAll (vpx : Vpx ε) (e : VideoEncoder ε) (inputs : List (Option Bytes)) :
    VideoEncoder ε :=
  inputs.foldl (fun e input => (e.encodeAFrame vpx input false).1) e

/-- The frames that are written to the file of a layer. -/
def layerFile (e : VideoEncoder ε) (i : Nat) : List (Nat × VpxFrame) :=
  e.outFile.filter fun written => decide (written.1 ≤ i)

/-! ## The layers -/

/-- The lowest layer whose frames refer to the buffer, which is also the
highest one whose frames update it. -/
def level : ReferenceBuffer → Nat
  | .LAST => 3
  | .GF => 2
  | .ARF => 1

/-- What the flags of a frame forbid is enough for its layer. -/
theorem layerFlags_level (i : Nat) (inside : i < VPX_TS_MAX_PERIODICITY)
    (b : ReferenceBuffer) :
    ((layerFlags i).FORCE_KF = true ∨ (layerFlags i).noRef b = true ∨
      level b ≤ ts_layer_id i) ∧
    ((layerFlags i).noUpd b = true ∨ ts_layer_id i ≤ level b) := by
  have everyFrame : ∀ i < VPX_TS_MAX_PERIODICITY, ∀ b ∈
      [ReferenceBuffer.LAST, .GF, .ARF],
      ((layerFlags i).FORCE_KF = true ∨ (layerFlags i).noRef b = true ∨
        level b ≤ ts_layer_id i) ∧
      ((layerFlags i).noUpd b = true ∨ ts_layer_id i ≤ level b) := by
    decide
  exact everyFrame i inside b (by cases b <;> decide)

theorem layered_of_obeys {i : Nat} (inside : i < VPX_TS_MAX_PERIODICITY)
    {frame : VpxFrame} (obeys : frame.Obeys (layerFlags i)) :
    Layered level (ts_layer_id i) frame where
  refs_le := by
    intro b refers
    rcases (layerFlags_level i inside b).1 with key | forbidden | isLow
    · rw [obeys.keyFrame key b] at refers
      cases refers
    · rw [obeys.noRef b forbidden] at refers
      cases refers
    · exact isLow
  le_updates := by
    intro b updated
    rcases (layerFlags_level i inside b).2 with forbidden | isHigh
    · rw [obeys.noUpd b forbidden] at updated
      cases updated
    · exact isHigh

/-- Every frame that was written keeps to its layer. -/
def InLayers (e : VideoEncoder ε) : Prop :=
  ∀ written ∈ e.outFile, Layered level written.1 written.2

theorem takePackets_inLayers {layer : Nat} {flags : EncodeFlags}
    (packets : List VpxPacket)
    (layered : ∀ frame, .VPX_CODEC_CX_FRAME_PKT frame ∈ packets →
      Layered level layer frame)
    {made : VideoEncoder ε × Option Bytes × Bool} (inLayers : made.1.InLayers) :
    (takePackets layer flags packets made).1.InLayers := by
  induction packets generalizing made with
  | nil => exact inLayers
  | cons packet rest inductionHypothesis =>
      have later : ∀ frame, .VPX_CODEC_CX_FRAME_PKT frame ∈ rest →
          Layered level layer frame :=
        fun frame member => layered frame (List.mem_cons_of_mem _ member)
      cases packet with
      | other => exact inductionHypothesis later inLayers
      | VPX_CODEC_CX_FRAME_PKT frame =>
          obtain ⟨e, result, bIsKeyFrame⟩ := made
          refine inductionHypothesis later ?_
          intro written member
          rcases List.mem_append.mp member with before | here
          · exact inLayers written before
          · rw [List.mem_singleton] at here
            rw [here]
            exact layered frame List.mem_cons_self

theorem encodeAFrame_inLayers (vpx : Vpx ε) {e : VideoEncoder ε}
    (inLayers : e.InLayers) (input : Option Bytes) (bIsKeyFrame : Bool) :
    (e.encodeAFrame vpx input bIsKeyFrame).1.InLayers := by
  cases input with
  | none => exact inLayers
  | some data =>
      by_cases nonempty : 0 < data.length
      · simp only [encodeAFrame, if_pos nonempty]
        split
        · exact inLayers
        · rename_i codec packets encoded
          have inside : e.frameInputCnt % VPX_TS_MAX_PERIODICITY <
              VPX_TS_MAX_PERIODICITY := Nat.mod_lt _ (by decide)
          refine takePackets_inLayers packets ?_ inLayers
          intro frame member
          exact layered_of_obeys inside
            (vpx.obeys _ _ _ _ _ _ encoded frame member)
      · simp only [encodeAFrame, if_neg nonempty]
        exact inLayers

theorem encodeAll_inLayers (vpx : Vpx ε) (inputs : List (Option Bytes))
    {e : VideoEncoder ε} (inLayers : e.InLayers) :
    (e.encodeAll vpx inputs).InLayers := by
  induction inputs generalizing e with
  | nil => exact inLayers
  | cons input rest inductionHypothesis =>
      exact inductionHypothesis (encodeAFrame_inLayers vpx inLayers input false)

end VideoEncoder

/-- A codec that refers to all it may refer to and updates all it may. -/
def freestVpx : Vpx Unit where
  encode _ raw _ flags :=
    some ((), [.VPX_CODEC_CX_FRAME_PKT {
      refs := fun b => !flags.FORCE_KF && !flags.noRef b
      updates := fun b => !flags.noUpd b
      data := raw }])
  obeys := by
    intro _ raw tick flags _ packets encoded frame member
    cases encoded
    rw [List.mem_singleton, VpxPacket.VPX_CODEC_CX_FRAME_PKT.injEq] at member
    rw [member]
    exact ⟨fun key b => by simp [key], fun b forbidden => by simp [forbidden],
      fun b forbidden => by simp [forbidden]⟩

example :
    let e := VideoEncoder.encodeAll freestVpx { codec := (), raw := [] }
      (List.replicate 32 (some [0]))
    (e.outFile.length, (e.layerFile 2).length, (e.layerFile 0).length) =
      (32, 8, 2) := by
  decide

end GroupVoip
