import GroupVoip.KaraokeParser
import Mathlib.Logic.Function.Iterate

/-!
# KaraokeGenerator

The karaoke thread plays one song after the other.  `loadASong` reads the
file ahead, passes every frame on when its time has come, and passes it on a
second time, as delayed, `DELAY_INTERVAL` later.

The thread takes one step after the other.  What it learns from outside is the
`Surroundings` of the call: each reading of the clock, each reading of the
cancel flag and the size of each read.
-/

namespace GroupVoip

open Library.Framing

namespace Karaoke

def DELAY_INTERVAL : Int := 100

structure DelayObject where
  flvFrameObj : FLVFrameObject
  enqueTime : Int
deriving DecidableEq, Repr

/-- A call of `delegate_.onKaraokeFrameParsed`, with the time at which the
frame went into the delay queue, or came out of it. -/
structure Delivery where
  frame : Bytes
  bIsDelayed : Bool
  time : Int
deriving DecidableEq, Repr

/-- What the thread meets during one `loadASong`, by the number of the
reading.  The clock does not go back, and a cancellation stays until the thread
resets it. -/
structure Surroundings where
  currentTimeMillis : Nat → Int
  bCancelCurrentSong : Nat → Bool
  readSize : Nat → Nat
  clock_mono : ∀ {i j : Nat}, i ≤ j → currentTimeMillis i ≤ currentTimeMillis j
  cancel_stays : ∀ {i j : Nat}, i ≤ j →
    bCancelCurrentSong i = true → bCancelCurrentSong j = true

/-- The fields of the generator, and the history of its calls. -/
structure KaraokeGenerator where
  flvFrameQueue : List FLVFrameObject := []
  delayObjectQueue : List DelayObject := []
  firstPTS : Int32 := -1
  lastTimestamp : Int32 := 0
  clockReads : Nat := 0
  parsed : List FLVFrameObject := []
  delivered : List Delivery := []
deriving DecidableEq, Repr

namespace KaraokeGenerator

variable (env : Surroundings) (g : KaraokeGenerator)

/-- The reading of the clock that comes next. -/
def now : Int :=
  env.currentTimeMillis g.clockReads

/-- Pass a frame on and put it into the delay queue. -/
def deliver (f : FLVFrameObject) : KaraokeGenerator :=
  { g with
    delivered := g.delivered ++ [⟨f.frame, false, g.now env⟩]
    delayObjectQueue := g.delayObjectQueue ++ [⟨f, g.now env⟩]
    clockReads := g.clockReads + 1 }

/-- The first frame of a song is passed on at once, and the others wait for
their time. -/
def onKaraokeFrameParsed (f : FLVFrameObject) : KaraokeGenerator :=
  let g := { g with parsed := g.parsed ++ [f], lastTimestamp := f.timestamp }
  if g.firstPTS = -1 then
    ({ g with firstPTS := f.timestamp }).deliver env f
  else
    { g with flvFrameQueue := g.flvFrameQueue ++ [f] }

def isDue (curTime : Int) (delayObj : DelayObject) : Bool :=
  DELAY_INTERVAL ≤ curTime - delayObj.enqueTime

/-- The loop ends at the first object that is not due. -/
def checkForDelaySend : KaraokeGenerator :=
  let curTime := g.now env
  { g with
    delivered := g.delivered ++
      (g.delayObjectQueue.takeWhile (isDue curTime)).map fun delayObj =>
        ⟨delayObj.flvFrameObj.frame, true, curTime⟩
    delayObjectQueue := g.delayObjectQueue.dropWhile (isDue curTime)
    clockReads := g.clockReads + 1 }

end KaraokeGenerator

/-! ## One song -/

/-- Where the thread is in `loadASong`. -/
inductive Point where
  | loopHead
  | frameWait
  | moreData
  | readBuf (result : Bytes)
  | turnEnd
  | afterLoop
  | cancelDrain
  | emptyDelayObjectQueue
  | delayDrain (startTime : Int)
  | finished
deriving DecidableEq, Repr

structure Loading where
  generator : KaraokeGenerator
  flvParser : flvReader.Scan
  input : Bytes
  fileLen : Int32
  startTime : Int
  bytesTotal : Int32 := 0
  flagReads : Nat := 0
  readCalls : Nat := 0
  point : Point := .loopHead

/-- The start of `loadASong`.  `input.read(header)` on a buffered file gives
all the thirteen bytes. -/
def loadASong (env : Surroundings) (g : KaraokeGenerator) (file : Bytes) :
    Loading where
  generator := { g with firstPTS := -1, clockReads := g.clockReads + 1 }
  flvParser := newFLVParser g.lastTimestamp
  input := file.drop 13
  fileLen := Int32.ofNat file.length - 13
  startTime := g.now env

def parserAct (env : Surroundings) (g : KaraokeGenerator) (f : FLVFrameObject) :
    Except Empty KaraokeGenerator :=
  .ok (g.onKaraokeFrameParsed env f)

/-- `flvParser_.readData(result, bytesRead)`. -/
def readData (env : Surroundings) (flvParser : flvReader.Scan)
    (g : KaraokeGenerator) (src : Bytes) : flvReader.Scan × KaraokeGenerator :=
  match (flvReader.framer (parserAct env)).read
      (flvParser.owned (parserAct env) g) src with
  | .ok c => (Emitter.scanOf c, c.state.2)
  | .error impossible => nomatch impossible

namespace Loading

variable (env : Surroundings) (s : Loading)

def cancelled : Bool :=
  env.bCancelCurrentSong s.flagReads

/-- The time of a frame has not come yet. -/
def early (f : FLVFrameObject) : Prop :=
  s.generator.now env - s.startTime <
    (f.timestamp - s.generator.firstPTS).toInt

instance (f : FLVFrameObject) : Decidable (s.early env f) :=
  inferInstanceAs (Decidable (_ < _))

def atLoopHead : Loading :=
  if s.bytesTotal < s.fileLen ∨ s.generator.flvFrameQueue ≠ [] then
    { s with
      flagReads := s.flagReads + 1
      point :=
        if s.cancelled env then .afterLoop
        else if s.generator.flvFrameQueue ≠ [] then .frameWait
        else .moreData }
  else { s with point := .afterLoop }

/-- One turn of the loop that waits for the time of the first frame. -/
def atFrameWait : Loading :=
  match s.generator.flvFrameQueue with
  | [] => { s with point := .moreData }
  | curFrame :: others =>
      let g := { s.generator with clockReads := s.generator.clockReads + 1 }
      if s.early env curFrame then
        { s with generator := g.checkForDelaySend env }
      else
        { s with
          generator :=
            ({ g with flvFrameQueue := others }).deliver env curFrame
          point := .moreData }

def atMoreData : Loading :=
  { s with
    point := if s.generator.flvFrameQueue.length < 10 then .readBuf []
      else .turnEnd }

/-- How many bytes the next `input.read` gives: as many as it likes, but at
least one if there are any. -/
def bytesRead (result : Bytes) : Nat :=
  min (max 1 (env.readSize s.readCalls))
    (min (4096 - result.length) s.input.length)

/-- One turn of the loop of `readBuf`, or what follows it.  The exception of
the parser leaves the outer loop. -/
def atReadBuf (result : Bytes) : Loading :=
  if result.length < 4096 ∧
      Int32.ofNat result.length + s.bytesTotal < s.fileLen then
    { s with
      input := s.input.drop (s.bytesRead env result)
      readCalls := s.readCalls + 1
      point := .readBuf (result ++ s.input.take (s.bytesRead env result)) }
  else
    let (flvParser, g) := readData env s.flvParser s.generator result
    if flvParser.state.scanState = .overflowed then
      { s with flvParser := flvParser, generator := g, point := .afterLoop }
    else
      { s with
        flvParser := flvParser
        generator := g
        bytesTotal := s.bytesTotal + Int32.ofNat result.length
        point := .turnEnd }

def atTurnEnd : Loading :=
  { s with
    generator := s.generator.checkForDelaySend env
    point := .loopHead }

def atAfterLoop : Loading :=
  { s with
    flagReads := s.flagReads + 1
    point := if s.cancelled env then .cancelDrain else .emptyDelayObjectQueue }

/-- One turn of the loop that empties the frame queue of a cancelled song. -/
def atCancelDrain : Loading :=
  match s.generator.flvFrameQueue with
  | [] => { s with point := .emptyDelayObjectQueue }
  | curFrame :: others =>
      let g := { s.generator with clockReads := s.generator.clockReads + 1 }
      if s.early env curFrame then
        { s with generator := g.checkForDelaySend env }
      else
        { s with
          generator := (({ g with flvFrameQueue := others }).deliver env
            curFrame).checkForDelaySend env }

def atEmptyDelayObjectQueue : Loading :=
  { s with
    generator :=
      { s.generator with clockReads := s.generator.clockReads + 1 }
    point := .delayDrain (s.generator.now env) }

/-- One turn of the loop of `emptyDelayObjectQueue`, or what follows it. -/
def atDelayDrain (startTime : Int) : Loading :=
  if s.generator.delayObjectQueue = [] then
    let duration := s.generator.now env - startTime
    { s with
      generator :=
        { s.generator with
          clockReads := s.generator.clockReads + 1
          lastTimestamp :=
            Int32.ofInt (s.generator.lastTimestamp.toInt + duration) }
      point := .finished }
  else { s with generator := s.generator.checkForDelaySend env }

def step : Loading :=
  match s.point with
  | .loopHead => s.atLoopHead env
  | .frameWait => s.atFrameWait env
  | .moreData => s.atMoreData
  | .readBuf result => s.atReadBuf env result
  | .turnEnd => s.atTurnEnd env
  | .afterLoop => s.atAfterLoop env
  | .cancelDrain => s.atCancelDrain env
  | .emptyDelayObjectQueue => s.atEmptyDelayObjectQueue env
  | .delayDrain startTime => s.atDelayDrain env startTime
  | .finished => s

end Loading

/-- The state of a call of `loadASong` after `n` steps. -/
def loading (env : Surroundings) (g : KaraokeGenerator) (file : Bytes)
    (n : Nat) : Loading :=
  (Loading.step env)^[n] (loadASong env g file)

end Karaoke

end GroupVoip
