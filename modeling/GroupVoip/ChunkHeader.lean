import GroupVoip.GroupMixer

/-!
# RTMPUtils

The basic header of a chunk: the type of the header and the id of the channel,
in one byte, two or three.  The encoder and the decoder have the length of the
id's encoding from different limits.
-/

namespace GroupVoip

namespace RTMP

open Library.WireBytes

inductive HeaderType where
  | HEADER_NEW
  | HEADER_SAME_SOURCE
  | HEADER_TIMER_CHANGE
  | HEADER_CONTINUE
deriving DecidableEq, Repr

namespace HeaderType

def value : HeaderType → Nat
  | .HEADER_NEW => 0
  | .HEADER_SAME_SOURCE => 1
  | .HEADER_TIMER_CHANGE => 2
  | .HEADER_CONTINUE => 3

def ofValue : Nat → Option HeaderType
  | 0 => some .HEADER_NEW
  | 1 => some .HEADER_SAME_SOURCE
  | 2 => some .HEADER_TIMER_CHANGE
  | 3 => some .HEADER_CONTINUE
  | _ => none

@[simp]
theorem ofValue_value (headerType : HeaderType) :
    ofValue headerType.value = some headerType := by
  cases headerType <;> rfl

end HeaderType

def Header.getTimer (header : Header) : UInt32 :=
  header.timerBase + header.timerDelta

def writeReverseInt (value : Int) : Bytes :=
  toLE 4 (Int32.ofInt value).toUInt32.toNat

def readReverseInt (bytes : Bytes) : Int :=
  (UInt32.ofNat (ofLE bytes)).toInt32.toInt

def writeMediumInt (value : UInt32) : Bytes :=
  toBE 3 value.toNat

def readUnsignedMediumInt (bytes : Bytes) : UInt32 :=
  UInt32.ofNat (ofBE bytes)

def encodeHeaderByte (headerSize : HeaderType) (channelId : Nat) : Bytes :=
  if channelId ≤ 63 then [UInt8.ofNat (headerSize.value * 64 + channelId)]
  else if channelId ≤ 320 then
    [UInt8.ofNat (headerSize.value * 64), UInt8.ofNat (channelId - 64)]
  else
    [UInt8.ofNat (headerSize.value * 64 + 1), UInt8.ofNat (channelId - 64),
      UInt8.ofNat ((channelId - 64) / 256)]

/-- The number of bytes that the first one announces. -/
def byteCount (headerByte : UInt8) : Nat :=
  if headerByte &&& 0x3f = 0 then 2
  else if headerByte &&& 0x3f = 1 then 3
  else 1

def decodeChannelId (header byteCount : Nat) : Nat :=
  if byteCount = 1 then header % 64
  else if byteCount = 2 then 64 + header % 256
  else 64 + header / 256 % 256 + header % 256 * 256

def decodeHeaderSize (header byteCount : Nat) : Nat :=
  if byteCount = 1 then header / 64
  else if byteCount = 2 then header / 16384
  else header / 4194304

def getHeaderLength : HeaderType → Nat
  | .HEADER_NEW => 12
  | .HEADER_SAME_SOURCE => 8
  | .HEADER_TIMER_CHANGE => 4
  | .HEADER_CONTINUE => 1

def diffTimestamps (a b : UInt32) : Int :=
  (a.toNat : Int) - b.toNat

/-- What the decoder makes of the front of some bytes. -/
structure BasicHeader where
  headerSize : Nat
  channelId : Nat
  byteCount : Nat
deriving DecidableEq, Repr

def readBasicHeader (bytes : Bytes) : BasicHeader :=
  let byteCount := byteCount (bytes.getD 0 0)
  let headerValue := ofBE (bytes.take byteCount)
  { headerSize := decodeHeaderSize headerValue byteCount
    channelId := decodeChannelId headerValue byteCount
    byteCount := byteCount }

/-! ## The channel ids that come back -/

theorem length_encodeHeaderByte_le (headerSize : HeaderType)
    (channelId : Nat) : (encodeHeaderByte headerSize channelId).length ≤ 3 := by
  unfold encodeHeaderByte
  split_ifs <;> simp

theorem encodeHeaderByte_ne_nil (headerSize : HeaderType) (channelId : Nat) :
    encodeHeaderByte headerSize channelId ≠ [] := by
  unfold encodeHeaderByte
  split_ifs <;> simp

/-- The ids that the decoder gives back. -/
def ValidChannel (channelId : Nat) : Prop :=
  2 ≤ channelId ∧ channelId ≤ 65599 ∧ channelId ≠ 320

instance (channelId : Nat) : Decidable (ValidChannel channelId) :=
  inferInstanceAs (Decidable (_ ∧ _ ∧ _))

theorem readBasicHeader_oneByte (headerSize : HeaderType) {channelId : Nat}
    (low : 2 ≤ channelId) (high : channelId ≤ 63) (rest : Bytes) :
    readBasicHeader (encodeHeaderByte headerSize channelId ++ rest) =
      ⟨headerSize.value, channelId, 1⟩ := by
  have everyByte : ∀ (headerSize : Fin 4) (id : Fin 64), 2 ≤ id.val →
      byteCount (UInt8.ofNat (headerSize.val * 64 + id.val)) = 1 ∧
        (UInt8.ofNat (headerSize.val * 64 + id.val)).toNat =
          headerSize.val * 64 + id.val := by
    decide +kernel
  have small : headerSize.value < 4 := by cases headerSize <;> decide
  obtain ⟨count, value⟩ := everyByte ⟨headerSize.value, small⟩
    ⟨channelId, by omega⟩ low
  have bytes : encodeHeaderByte headerSize channelId ++ rest =
      UInt8.ofNat (headerSize.value * 64 + channelId) :: rest := by
    rw [encodeHeaderByte, if_pos high]
    rfl
  rw [bytes, readBasicHeader, List.getD_cons_zero]
  simp only [count, List.take_succ_cons, List.take_zero, ofBE,
    List.reverse_singleton, ofLE, value, decodeHeaderSize, decodeChannelId,
    if_true]
  congr 1 <;> omega

/-- The first byte of an id of two or three bytes. -/
theorem firstByte_eq (headerSize : HeaderType) :
    byteCount (UInt8.ofNat (headerSize.value * 64)) = 2 ∧
      (UInt8.ofNat (headerSize.value * 64)).toNat = headerSize.value * 64 ∧
      byteCount (UInt8.ofNat (headerSize.value * 64 + 1)) = 3 ∧
      (UInt8.ofNat (headerSize.value * 64 + 1)).toNat =
        headerSize.value * 64 + 1 := by
  cases headerSize <;> decide

theorem readBasicHeader_twoBytes (headerSize : HeaderType) {channelId : Nat}
    (low : 64 ≤ channelId) (high : channelId ≤ 320) (rest : Bytes) :
    readBasicHeader (encodeHeaderByte headerSize channelId ++ rest) =
      ⟨headerSize.value, 64 + (channelId - 64) % 256, 2⟩ := by
  obtain ⟨count, value, _⟩ := firstByte_eq headerSize
  have bytes : encodeHeaderByte headerSize channelId ++ rest =
      UInt8.ofNat (headerSize.value * 64) ::
        UInt8.ofNat (channelId - 64) :: rest := by
    rw [encodeHeaderByte, if_neg (by omega), if_pos high]
    rfl
  rw [bytes, readBasicHeader, List.getD_cons_zero]
  simp only [count, List.take_succ_cons, List.take_zero, ofBE,
    List.reverse_cons, List.reverse_nil, List.nil_append, List.cons_append,
    ofLE, value, UInt8.toNat_ofNat', decodeHeaderSize, decodeChannelId]
  congr 1 <;> simp only [OfNat.ofNat_ne_one, if_false, if_true] <;> omega

/-- The bytes of a header value of three. -/
theorem threeBytes_eq (a : Nat) {b c : Nat} (bSmall : b < 256)
    (cSmall : c < 256) :
    (c + 256 * (b + 256 * a)) / 4194304 = a / 64 ∧
      (c + 256 * (b + 256 * a)) / 256 % 256 = b ∧
      (c + 256 * (b + 256 * a)) % 256 = c := by
  omega

theorem readBasicHeader_threeBytes (headerSize : HeaderType)
    {channelId : Nat} (low : 320 < channelId) (rest : Bytes) :
    readBasicHeader (encodeHeaderByte headerSize channelId ++ rest) =
      ⟨headerSize.value, 64 + (channelId - 64) % 65536, 3⟩ := by
  obtain ⟨_, _, count, value⟩ := firstByte_eq headerSize
  have bytes : encodeHeaderByte headerSize channelId ++ rest =
      UInt8.ofNat (headerSize.value * 64 + 1) ::
        UInt8.ofNat (channelId - 64) ::
        UInt8.ofNat ((channelId - 64) / 256) :: rest := by
    rw [encodeHeaderByte, if_neg (by omega), if_neg (by omega)]
    rfl
  obtain ⟨top, middle, last⟩ := threeBytes_eq (headerSize.value * 64 + 1)
    (Nat.mod_lt (channelId - 64) (by decide : 0 < 2 ^ 8))
    (Nat.mod_lt ((channelId - 64) / 256) (by decide : 0 < 2 ^ 8))
  rw [bytes, readBasicHeader, List.getD_cons_zero]
  simp only [count, List.take_succ_cons, List.take_zero, ofBE,
    List.reverse_cons, List.reverse_nil, List.nil_append, List.cons_append,
    ofLE, value, UInt8.toNat_ofNat', decodeHeaderSize, decodeChannelId,
    OfNat.ofNat_ne_one, Nat.reduceEqDiff, if_false, Nat.mul_zero,
    Nat.add_zero, top, middle, last]
  congr 1 <;> omega

theorem readBasicHeader_encode (headerSize : HeaderType) {channelId : Nat}
    (valid : ValidChannel channelId) (rest : Bytes) :
    readBasicHeader (encodeHeaderByte headerSize channelId ++ rest) =
      ⟨headerSize.value, channelId,
        (encodeHeaderByte headerSize channelId).length⟩ := by
  obtain ⟨low, high, notLast⟩ := valid
  by_cases oneByte : channelId ≤ 63
  · have length : (encodeHeaderByte headerSize channelId).length = 1 := by
      rw [encodeHeaderByte, if_pos oneByte]
      rfl
    rw [readBasicHeader_oneByte headerSize low oneByte, length]
  · by_cases twoBytes : channelId ≤ 320
    · have length : (encodeHeaderByte headerSize channelId).length = 2 := by
        rw [encodeHeaderByte, if_neg oneByte, if_pos twoBytes]
        rfl
      have same : 64 + (channelId - 64) % 256 = channelId := by omega
      rw [readBasicHeader_twoBytes headerSize (by omega) twoBytes, length, same]
    · have length : (encodeHeaderByte headerSize channelId).length = 3 := by
        rw [encodeHeaderByte, if_neg oneByte, if_neg twoBytes]
        rfl
      have same : 64 + (channelId - 64) % 65536 = channelId := by omega
      rw [readBasicHeader_threeBytes headerSize (by omega), length, same]

/-- The ids 0 and 1 announce an id in the next bytes, 320 comes back as 64,
and what does not fit into two bytes loses its upper part. -/
theorem channelId_roundTrip_iff (headerSize : HeaderType) (channelId : Nat) :
    (∀ rest, (readBasicHeader
        (encodeHeaderByte headerSize channelId ++ rest)).channelId =
          channelId) ↔
      ValidChannel channelId := by
  constructor
  · intro comesBack
    by_cases oneByte : channelId ≤ 63
    · refine ⟨?_, by omega, by omega⟩
      by_contra announces
      have zero := comesBack [0, 0]
      have everyId : ∀ headerSize : HeaderType, ∀ id : Fin 2,
          (readBasicHeader
            (encodeHeaderByte headerSize id.val ++ [0, 0])).channelId ≠
              id.val := by
        intro headerSize
        cases headerSize <;> decide
      exact everyId headerSize ⟨channelId, by omega⟩ zero
    · have whole := comesBack []
      by_cases twoBytes : channelId ≤ 320
      · rw [readBasicHeader_twoBytes headerSize (by omega) twoBytes] at whole
        simp only at whole
        exact ⟨by omega, by omega, by omega⟩
      · rw [readBasicHeader_threeBytes headerSize (by omega)] at whole
        simp only at whole
        exact ⟨by omega, by omega, by omega⟩
  · intro valid rest
    rw [readBasicHeader_encode headerSize valid]

end RTMP

end GroupVoip
