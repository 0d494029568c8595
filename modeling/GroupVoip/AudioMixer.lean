import GroupVoip.AudioResampler
import GroupVoip.FLVSegmentParser
import GroupVoip.Library.WireBytes

/-!
# AudioMixer

The mixer adds up the frames of the valid streams into one stereo frame, with
a loop of its own for one, two, three and four streams.  What the arrays on
its stack held before and the random numbers are parameters.
-/

namespace GroupVoip

open Library.Buffers Library.Runs Library.WireBytes

/-! ## Samples -/

/-- A block of bytes as `short`s. -/
def asShorts : Bytes → List Int16
  | low :: high :: rest =>
      (UInt16.ofNat (ofLE [low, high])).toInt16 :: asShorts rest
  | _ => []

/-- `short`s as the bytes they take. -/
def ofShorts (samples : List Int16) : Bytes :=
  samples.flatMap fun sample => toLE 2 sample.toUInt16.toNat

/-- The macro, with its arguments in the order the source has them. -/
def CLIP (val max min : Int) : Int :=
  if val > max then max else if val < min then min else val

def AudioRawData.samples (s : AudioRawData) : List Int16 :=
  asShorts s.rawAudioFrame

/-- What a stream adds to sample `i` of the stereo frame. -/
def AudioRawData.sampleAt (s : AudioRawData) (i : Nat) : Except Abort Int := do
  let sample ← inBounds s.samples[if s.bIsStereo then i else i / 2]?
  return sample.toInt

/-- What a call finds on its stack, and what `randInRange` gives it. -/
structure MixerMemory where
  valShort : Nat → Int16
  indexArr : Nat → Int
  randInRange : Nat → Nat

namespace AudioMixer

/-- `rawData[index]->`. -/
def element (rawData : Slot → Option AudioRawData) (index : Int) :
    Except Abort AudioRawData :=
  if 0 ≤ index ∧ index < MAX_XCODING_INSTANCES then
    inBounds (rawData (Slot.ofNat index.toNat))
  else .error .undefinedBehaviour

/-! ## White noise -/

/-- Two draws of one turn of the loop. -/
def noiseTurn {n : Nat} (randInRange : Nat → Nat) (buffer : Buffer Int16 n)
    (i : Nat) : Except Abort (Buffer Int16 n) := do
  let buffer ← inBounds (buffer.write (randInRange i) [2])
  inBounds (buffer.write (randInRange (i + 1)) [-2])

def genWhiteNoise (memory : MixerMemory) (bufSize : Nat) :
    Except Abort (Buffer Int16 bufSize) :=
  run (noiseTurn memory.randInRange) (Buffer.fresh (fun _ => 0) bufSize)
    ((List.range bufSize).filter fun i => i % 2 = 0)

/-! ## The loops -/

/-- One turn of the loop over a mono stream, which has written the samples
from `l.2` on. -/
def monoTurn {n : Nat} (samples : List Int16)
    (l : Buffer Int16 n × Nat) (i : Nat) :
    Except Abort (Buffer Int16 n × Nat) := do
  let singleSample ← inBounds samples[i]?
  let valShort ← inBounds (l.1.write (l.2 - 1) [singleSample])
  let valShort ← inBounds (valShort.write (l.2 - 2) [singleSample])
  return (valShort, l.2 - 2)

def mixOneStreams (rawData : Slot → Option AudioRawData) (oneIndex : Int)
    {n : Nat} (valShort : Buffer Int16 n) (sampleSize : Nat) :
    Except Abort (Buffer Int16 n) := do
  let s ← element rawData oneIndex
  if s.bIsStereo then
    if sampleSize * 2 ≤ s.samples.length then
      inBounds (valShort.write 0 (s.samples.take (sampleSize * 2)))
    else .error .undefinedBehaviour
  else
    let l ← run (monoTurn s.samples) (valShort, sampleSize * 2)
      (List.range sampleSize).reverse
    return l.1

def addSample (i : Nat) (val : Int) (s : AudioRawData) :
    Except Abort Int := do
  let sample ← s.sampleAt i
  return val + sample

/-- One turn of a loop over several streams. -/
def mixTurn {n : Nat} (streams : List AudioRawData)
    (valShort : Buffer Int16 n) (i : Nat) : Except Abort (Buffer Int16 n) := do
  let val ← run (addSample i) 0 streams
  inBounds (valShort.write i [Int16.ofInt (CLIP val 32767 (-32768))])

/-- The streams at the first entries of an index array, mixed from the last
sample down. -/
def mixIndexes (count : Nat) (rawData : Slot → Option AudioRawData)
    (indexArr : List Int) {n : Nat} (valShort : Buffer Int16 n)
    (sampleSize : Nat) : Except Abort (Buffer Int16 n) := do
  let indexes ← (List.range count).mapM fun k => inBounds indexArr[k]?
  let streams ← indexes.mapM (element rawData)
  run (mixTurn streams) valShort (List.range (sampleSize * 2)).reverse

def mixTwoStreams := mixIndexes 2
def mixThreeStreams := mixIndexes 3
def mixFourStreams := mixIndexes 4

/-! ## Finding the streams -/

/-- The test of every loop over the slots. -/
def isMixed (rawData : Slot → Option AudioRawData) (excludeStreamId : UInt32)
    (j : Slot) : Bool :=
  match rawData j with
  | some s => s.bIsValid && UInt32.ofNat j.val ≠ excludeStreamId
  | none => false

def findTurn {n : Nat} (rawData : Slot → Option AudioRawData)
    (excludeStreamId : UInt32) (l : Nat × Buffer Int n) (j : Slot) :
    Except Abort (Nat × Buffer Int n) :=
  if isMixed rawData excludeStreamId j then do
    let indexArr ← inBounds (l.2.write l.1 [(j.val : Int)])
    return (l.1 + 1, indexArr)
  else .ok l

def findIndexes (rawData : Slot → Option AudioRawData)
    (excludeStreamId : UInt32) {n : Nat} (indexArr : Buffer Int n) :
    Except Abort (List Int) := do
  let l ← run (findTurn rawData excludeStreamId) (0, indexArr) Streams.slots
  return l.2.cells

/-- The first of the streams, 0 if there is none. -/
def findFirst (rawData : Slot → Option AudioRawData)
    (excludeStreamId : UInt32) : Int :=
  match Streams.slots.find? (isMixed rawData excludeStreamId) with
  | some j => j.val
  | none => 0

/-! ## mixStreams -/

/-- The `switch`; more than four streams have no case. -/
def mixCases (memory : MixerMemory) (rawData : Slot → Option AudioRawData)
    (sampleSize totalStreams : Nat) (excludeStreamId : UInt32)
    (valShort : Buffer Int16 (sampleSize * 2)) :
    Except Abort (Buffer Int16 (sampleSize * 2)) :=
  match totalStreams with
  | 1 =>
      if excludeStreamId ≠ 0xffffffff then
        genWhiteNoise memory (sampleSize * 2)
      else
        mixOneStreams rawData (findFirst rawData excludeStreamId) valShort
          sampleSize
  | 2 =>
      if excludeStreamId ≠ 0xffffffff then
        mixOneStreams rawData (findFirst rawData excludeStreamId) valShort
          sampleSize
      else do
        let twoIndex ←
          findIndexes rawData excludeStreamId (Buffer.fresh memory.indexArr 2)
        mixTwoStreams rawData twoIndex valShort sampleSize
  | 3 =>
      if excludeStreamId ≠ 0xffffffff then do
        let twoIndex ←
          findIndexes rawData excludeStreamId (Buffer.fresh memory.indexArr 2)
        mixTwoStreams rawData twoIndex valShort sampleSize
      else do
        let threeIndex ←
          findIndexes rawData excludeStreamId (Buffer.fresh memory.indexArr 3)
        mixThreeStreams rawData threeIndex valShort sampleSize
  | 4 =>
      if excludeStreamId ≠ 0xffffffff then do
        let threeIndex ←
          findIndexes rawData excludeStreamId (Buffer.fresh memory.indexArr 3)
        mixThreeStreams rawData threeIndex valShort sampleSize
      else do
        -- the array has two elements for four streams
        let fourIndex ←
          findIndexes rawData excludeStreamId (Buffer.fresh memory.indexArr 2)
        mixFourStreams rawData fourIndex valShort sampleSize
  | _ => .ok valShort

/-- The bytes of the buffer that is returned, if any. -/
def mixStreams (memory : MixerMemory) (rawData : Slot → Option AudioRawData)
    (sampleSize totalStreams : Nat) (excludeStreamId : UInt32) :
    Except Abort (Option Bytes) :=
  if totalStreams > 0 then
    -- the size of the array is an `int`
    if sampleSize * 2 < 0x80000000 then do
      let frameTotalLen : UInt32 := UInt32.ofNat sampleSize * 2 * 2
      let valShort ← mixCases memory rawData sampleSize totalStreams
        excludeStreamId (Buffer.fresh memory.valShort (sampleSize * 2))
      return some ((ofShorts valShort.cells).take frameTotalLen.toNat)
    else .error .undefinedBehaviour
  else .ok none

end AudioMixer

end GroupVoip
