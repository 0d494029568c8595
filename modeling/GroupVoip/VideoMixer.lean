import GroupVoip.AudioResampler
import GroupVoip.Library.Planes
import GroupVoip.MixEncoders

/-!
# VideoMixer

The pictures of the valid streams are scaled and copied into one picture, side
by side.  The mixer keeps a scaling context for each slot and makes all of them
anew when the size that they scale to changes.  The scaling library is a
parameter.
-/

namespace GroupVoip

open Library.Buffers Library.Planes Library.Runs

variable {γ : Type}

/-- The three planes of a picture. -/
structure Planes (τ : Type) where
  y : τ
  u : τ
  v : τ
deriving DecidableEq, Repr

/-- What a scaling context is made for. -/
structure SwsContext where
  srcWidth : Int
  srcHeight : Int
  dstWidth : Int
  dstHeight : Int
deriving DecidableEq, Repr

/-- The scaling library, with its state in `γ`.  It may fail to make a
context, and it fills the planes that it is given. -/
structure Swscale (γ : Type) where
  getCachedContext : γ → SwsContext → γ × Bool
  freeContext : γ → SwsContext → γ
  scale : γ → SwsContext → (Fin 3 → Bytes) → (Fin 3 → Int) → Int →
    γ × Planes (Nat → UInt8)

def mappingToScalingWidth (totalStream : Nat) : Nat :=
  if totalStream = 1 then 640 else 320

def mappingToScalingHeight (totalStream : Nat) : Nat :=
  if totalStream = 1 then 480 else 240

structure VideoMixer (γ : Type) where
  library : γ
  outputWidth : Nat
  outputHeight : Nat
  swsCtx : Slot → Option SwsContext := fun _ => none
  totalStreams : Nat := 0

namespace VideoMixer

/-! ## The contexts -/

def releaseTurn (l : Swscale γ) (m : VideoMixer γ) (i : Slot) :
    VideoMixer γ :=
  match m.swsCtx i with
  | some ctx =>
      { m with
        library := l.freeContext m.library ctx
        swsCtx := Function.update m.swsCtx i none }
  | none => m

def releaseSws (l : Swscale γ) (m : VideoMixer γ) : VideoMixer γ :=
  Streams.slots.foldl (releaseTurn l) m

def initTurn (l : Swscale γ) (rawData : Slot → Option VideoRawData)
    (outputWidth outputHeight : Nat) (m : VideoMixer γ) (i : Slot) :
    Except Abort (VideoMixer γ) :=
  match rawData i with
  | none => .ok m
  | some v =>
      let curSetting := v.rawVideoSettings
      if curSetting.bIsValid && (m.swsCtx i).isNone then do
        let ctx : SwsContext :=
          { srcWidth := curSetting.width, srcHeight := curSetting.height
            dstWidth := outputWidth, dstHeight := outputHeight }
        let (library, made) := l.getCachedContext m.library ctx
        assertThat made .swsContextMade
        return { m with
          library := library
          swsCtx := Function.update m.swsCtx i (some ctx) }
      else .ok m

def tryToInitSws (l : Swscale γ) (m : VideoMixer γ)
    (rawData : Slot → Option VideoRawData) (totalStreams : Nat) :
    Except Abort (VideoMixer γ) := do
  let outputWidth := mappingToScalingWidth totalStreams
  let outputHeight := mappingToScalingHeight totalStreams
  let m :=
    if mappingToScalingWidth m.totalStreams ≠ outputWidth then m.releaseSws l
    else m
  let m ← run (initTurn l rawData outputWidth outputHeight) m Streams.slots
  return { m with totalStreams := totalStreams }

/-! ## Scaling -/

/-- What the scaling loop has done so far: the planes of each slot, and the
first entries of `validStreamId`. -/
structure ScaleLoop (γ : Type) where
  library : γ
  scaledVideoPlanes : Slot → Option (Planes Bytes) := fun _ => none
  validStreamId : List Slot := []

/-- The pointers to the planes of a picture. -/
def inputPlanes (v : VideoRawData) : Option (Fin 3 → Bytes) :=
  if ∀ plane, (v.rawVideoPlanes plane).isSome = true then
    some fun plane => (v.rawVideoPlanes plane).getD []
  else none

/-- New planes, as the library fills them. -/
def scaledPlanes (scaledWidth scaledHeight : Nat)
    (contents : Planes (Nat → UInt8)) : Planes Bytes where
  y := (List.range (scaledWidth * scaledHeight)).map contents.y
  u := (List.range ((scaledWidth * scaledHeight + 4) / 4)).map contents.u
  v := (List.range ((scaledWidth * scaledHeight + 4) / 4)).map contents.v

def scaleTurn (l : Swscale γ) (swsCtx : Slot → Option SwsContext)
    (rawData : Slot → Option VideoRawData) (totalStreams : Nat)
    (s : ScaleLoop γ) (i : Slot) : Except Abort (ScaleLoop γ) :=
  match rawData i with
  | none => .ok s
  | some v =>
      if v.rawVideoSettings.bIsValid then do
        let inputPlanes ← inBounds (inputPlanes v)
        let ctx ← inBounds (swsCtx i)
        let (library, contents) := l.scale s.library ctx inputPlanes
          v.rawVideoStrides v.rawVideoSettings.height
        -- the array has an entry for each of the streams counted
        if s.validStreamId.length < totalStreams then do
          let validStreamId := s.validStreamId ++ [i]
          assertThat (validStreamId.length ≤ totalStreams) .validStreamsInRange
          return {
            library := library
            scaledVideoPlanes := Function.update s.scaledVideoPlanes i
              (some (scaledPlanes (mappingToScalingWidth totalStreams)
                (mappingToScalingHeight totalStreams) contents))
            validStreamId := validStreamId }
        else .error .undefinedBehaviour
      else .ok s

/-! ## Layouts -/

/-- The picture that is put together, the rectangles reported for the slots,
and where the next stream goes. -/
structure Drawing (size : Nat) where
  out : Buffer UInt8 size
  videoRect : Slot → VideoRect
  startingOffsetY : Nat := 0
  startingOffsetUV : Nat := 0

/-- Copy the planes of a stream to three places of the output. -/
def copyPlanes {size : Nat} (planes : Planes Bytes)
    (outputWidth scaledWidth scaledHeight : Nat)
    (offsetY offsetU offsetV : Nat) (out : Buffer UInt8 size) :
    Except Abort (Buffer UInt8 size) := do
  let (out, _) ← inBounds <| copyRows planes.y scaledWidth scaledWidth
    outputWidth scaledHeight 0 offsetY out
  let (out, _) ← inBounds <| copyRows planes.u (scaledWidth / 2)
    (scaledWidth / 2) (outputWidth / 2) (scaledHeight / 2) 0 offsetU out
  let (out, _) ← inBounds <| copyRows planes.v (scaledWidth / 2)
    (scaledWidth / 2) (outputWidth / 2) (scaledHeight / 2) 0 offsetV out
  return out

/-- A single stream fills the output, one plane after the other. -/
def drawOne {size : Nat} (outputWidth outputHeight scaledWidth : Nat)
    (scaled : Slot → Option (Planes Bytes)) (validStreamId : List Slot)
    (d : Drawing size) : Except Abort (Drawing size) := do
  let curStreamId ← inBounds validStreamId[0]?
  let planes ← inBounds (scaled curStreamId)
  let videoRect := Function.update d.videoRect curStreamId
    { x := 0, y := 0, width := outputWidth, height := outputHeight }
  let (out, offsetOut) ← inBounds <| copyRows planes.y outputWidth scaledWidth
    outputWidth outputHeight 0 0 d.out
  let (out, offsetOut) ← inBounds <| copyRows planes.u (outputWidth / 2)
    (scaledWidth / 2) (outputWidth / 2) (outputHeight / 2) 0 offsetOut out
  let (out, _) ← inBounds <| copyRows planes.v (outputWidth / 2)
    (scaledWidth / 2) (outputWidth / 2) (outputHeight / 2) 0 offsetOut out
  return { d with out := out, videoRect := videoRect }

/-- What is different between the layouts of two, three and four streams. -/
structure Layout where
  startingOffsetY : Nat
  startingOffsetUV : Nat
  rectY : Nat → Nat
  offsetY : Nat
  offsetU : Nat
  offsetV : Nat
  lastOfFirstLine : Option Nat

def layoutTwo (outputWidth outputHeight : Nat) : Layout where
  startingOffsetY := 0
  startingOffsetUV := 0
  rectY _ := outputHeight / 4
  offsetY := outputWidth * outputHeight / 4
  offsetU := outputWidth * outputHeight * 17 / 16
  offsetV := outputWidth * outputHeight * 21 / 16
  lastOfFirstLine := none

def layoutThree (outputWidth outputHeight scaledWidth : Nat) : Layout where
  startingOffsetY := scaledWidth / 2
  startingOffsetUV := scaledWidth / 4
  rectY startingOffsetY := startingOffsetY / outputWidth
  offsetY := 0
  offsetU := outputWidth * outputHeight
  offsetV := outputWidth * outputHeight * 5 / 4
  lastOfFirstLine := some 0

def layoutFour (outputWidth outputHeight : Nat) : Layout where
  startingOffsetY := 0
  startingOffsetUV := 0
  rectY startingOffsetY := startingOffsetY / outputWidth
  offsetY := 0
  offsetU := outputWidth * outputHeight
  offsetV := outputWidth * outputHeight * 5 / 4
  lastOfFirstLine := some 1

def drawTurn {size : Nat} (layout : Layout)
    (outputWidth outputHeight scaledWidth scaledHeight : Nat)
    (scaled : Slot → Option (Planes Bytes)) (validStreamId : List Slot)
    (d : Drawing size) (index : Nat) : Except Abort (Drawing size) := do
  let curStreamId ← inBounds validStreamId[index]?
  let planes ← inBounds (scaled curStreamId)
  let videoRect := Function.update d.videoRect curStreamId
    { x := (d.startingOffsetY % outputWidth : Nat)
      y := layout.rectY d.startingOffsetY
      width := scaledWidth
      height := scaledHeight }
  let out ← copyPlanes planes outputWidth scaledWidth scaledHeight
    (layout.offsetY + d.startingOffsetY) (layout.offsetU + d.startingOffsetUV)
    (layout.offsetV + d.startingOffsetUV) d.out
  if layout.lastOfFirstLine = some index then
    return {
      out := out
      videoRect := videoRect
      startingOffsetY := outputWidth * outputHeight / 2
      startingOffsetUV := outputWidth * outputHeight / 8 }
  else
    return {
      out := out
      videoRect := videoRect
      startingOffsetY := d.startingOffsetY + scaledWidth
      startingOffsetUV := d.startingOffsetUV + scaledWidth / 2 }

/-- The output before the streams are drawn. -/
def blacken {size : Nat} (outputWidth outputHeight : Nat)
    (out : Buffer UInt8 size) : Except Abort (Buffer UInt8 size) := do
  let blackY : UInt8 := 16
  let out ← inBounds
    (out.write 0 (List.replicate (outputWidth * outputHeight) blackY))
  let blackUV : UInt8 := 128
  inBounds (out.write (outputWidth * outputHeight)
    (List.replicate (outputWidth * outputHeight / 2) blackUV))

def drawStreams {size : Nat} (layout : Layout)
    (outputWidth outputHeight scaledWidth scaledHeight : Nat)
    (scaled : Slot → Option (Planes Bytes)) (validStreamId : List Slot)
    (totalStreams : Nat) (d : Drawing size) :
    Except Abort (Drawing size) := do
  let out ← blacken outputWidth outputHeight d.out
  run (drawTurn layout outputWidth outputHeight scaledWidth scaledHeight
      scaled validStreamId)
    { d with
      out := out
      startingOffsetY := layout.startingOffsetY
      startingOffsetUV := layout.startingOffsetUV }
    (List.range totalStreams)

/-- The layout for the number of streams; more than four are not drawn. -/
def draw {size : Nat} (outputWidth outputHeight : Nat)
    (scaled : Slot → Option (Planes Bytes)) (validStreamId : List Slot)
    (totalStreams : Nat) (d : Drawing size) : Except Abort (Drawing size) :=
  let scaledWidth := mappingToScalingWidth totalStreams
  let scaledHeight := mappingToScalingHeight totalStreams
  let streams (layout : Layout) :=
    drawStreams layout outputWidth outputHeight scaledWidth scaledHeight
      scaled validStreamId totalStreams d
  match totalStreams with
  | 1 => drawOne outputWidth outputHeight scaledWidth scaled validStreamId d
  | 2 => streams (layoutTwo outputWidth outputHeight)
  | 3 => streams (layoutThree outputWidth outputHeight scaledWidth)
  | 4 => streams (layoutFour outputWidth outputHeight)
  | _ => .ok d

/-! ## mixStreams -/

/-- What a `mixStreams` call leaves behind: the mixer, the scaled planes, the
bytes of the buffer it returns, if any, and the rectangles. -/
structure Mixed (γ : Type) where
  mixer : VideoMixer γ
  scaledVideoPlanes : Slot → Option (Planes Bytes)
  result : Option Bytes
  videoRect : Slot → VideoRect

/-- `held` is what the memory of the new buffer held before. -/
def mixStreams (l : Swscale γ) (held : Nat → UInt8) (m : VideoMixer γ)
    (mix : VideoMix) (videoRect : Slot → VideoRect) :
    Except Abort (Mixed γ) := do
  let m ← m.tryToInitSws l mix.rawData mix.totalStreams
  let s ← run (scaleTurn l m.swsCtx mix.rawData mix.totalStreams)
    { library := m.library } Streams.slots
  assertThat (s.validStreamId.length = mix.totalStreams) .validStreamsCounted
  let m := { m with library := s.library }
  if mix.totalStreams > 0 then
    let out := Buffer.fresh held (m.outputWidth * m.outputHeight * 3 / 2)
    let d ← draw m.outputWidth m.outputHeight s.scaledVideoPlanes
      s.validStreamId mix.totalStreams { out := out, videoRect := videoRect }
    return {
      mixer := m
      scaledVideoPlanes := s.scaledVideoPlanes
      result := some d.out.cells
      videoRect := d.videoRect }
  else
    return {
      mixer := m
      scaledVideoPlanes := s.scaledVideoPlanes
      result := none
      videoRect := videoRect }

end VideoMixer

/-- `VideoMixer` among the encoders, with the rest of them in `σ`.  It may
have stopped the program. -/
def VideoMixer.encoders {σ : Type} (l : Swscale γ) (held : Nat → UInt8)
    (others : Encoders σ) : Encoders (Except Abort (VideoMixer γ) × σ) where
  mixVideo b mix :=
    match b.1.bind fun m =>
        m.mixStreams l held mix (fun _ => ⟨0, 0, 0, 0⟩) with
    | .ok mixed =>
        ((.ok mixed.mixer, b.2), mixed.result.getD [], mixed.videoRect)
    | .error stopped =>
        ((.error stopped, b.2), [], fun _ => ⟨0, 0, 0, 0⟩)
  encodeVideo b rawFrameMixed :=
    let (s, encodedFrame, bIsKeyFrame) := others.encodeVideo b.2 rawFrameMixed
    ((b.1, s), encodedFrame, bIsKeyFrame)
  mixAudio b mix :=
    let (s, rawFrameMixed) := others.mixAudio b.2 mix
    ((b.1, s), rawFrameMixed)
  encodeAudio b mixer rawFrameMixed :=
    let (s, encodedFrame) := others.encodeAudio b.2 mixer rawFrameMixed
    ((b.1, s), encodedFrame)

end GroupVoip
