import Rclweb.Host.Batch

/-!
# Batches on a machine of 32 bits

Each reader of a batch agrees with itself on the unbounded machine: the rules for scanners follow
the reader step by step, with the number of bytes that are known to be left.  Lengths of 16 bits
are too small to wrap.  Those of 32 bits are checked right before the slice they bound, and the
counts ask for memory right away.
-/

namespace Rclweb

open Engine Scan

namespace Host

namespace Batch

variable {c n : ℕ}

/-! ## Reads -/

theorem agrees_need (hn : n ≤ 2 ^ 31) : Agrees word32 (need n) c n := .require32 _ hn

theorem agrees_readU8 (h : 1 ≤ c) : Agrees word32 readU8 c (c - 1) :=
  (Agrees.byteAt (by omega)).bind fun _ => (Agrees.advance h).bind fun _ => .pure _

theorem agrees_readNumber {w : ℕ} (h : w ≤ c) : Agrees word32 (readNumber w) c (c - w) :=
  (Agrees.numberAt (by omega)).bind fun _ => (Agrees.advance h).bind fun _ => .pure _

theorem agrees_readU16 (h : 2 ≤ c) : Agrees word32 readU16 c (c - 2) := (agrees_readNumber h).map _

theorem agrees_readU32 (h : 4 ≤ c) : Agrees word32 readU32 c (c - 4) := (agrees_readNumber h).map _

theorem agrees_readI32 (h : 4 ≤ c) : Agrees word32 readI32 c (c - 4) := (agrees_readU32 h).map _

theorem agrees_readU64 (h : 8 ≤ c) : Agrees word32 readU64 c (c - 8) := (agrees_readNumber h).map _

theorem agrees_readArray16 (h : 16 ≤ c) : Agrees word32 readArray16 c (c - 16) :=
  (Agrees.array h).bind fun _ => (Agrees.advance h).bind fun _ => .pure _

theorem agrees_readText (h : n ≤ c) : Agrees word32 (readText n) c (c - n) :=
  (Agrees.slice h).bind fun raw => (Agrees.text raw _).bind fun _ =>
    (Agrees.advance h).bind fun _ => .pure _

/-- Bytes of any length that a word can hold. -/
theorem agrees_readBytes (hn : n < 2 ^ 32) : Agrees word32 (readBytes n) c 0 :=
  .requireSlice _ hn fun _ =>
    (Agrees.advance le_rfl).bind fun _ => (Agrees.pure _).mono le_rfl (Nat.zero_le _)

theorem agrees_readCheckedText (len : UInt32) : Agrees word32 (readCheckedText len.toNat) c 0 :=
  .requireSlice _ len.toNat_lt fun raw => (Agrees.text raw _).bind fun _ =>
    (Agrees.advance le_rfl).bind fun _ => (Agrees.pure _).mono le_rfl (Nat.zero_le _)

theorem toNat_u16_le (len : UInt16) : len.toNat + 2 ≤ 2 ^ 31 := by
  have := len.toNat_lt
  omega

theorem agrees_readU16String : Agrees word32 readU16String c 0 :=
  (agrees_need (by omega)).bind fun _ => (agrees_readU16 le_rfl).bind fun len =>
    (agrees_need (by have := toNat_u16_le len; omega)).bind fun _ =>
      (agrees_readText le_rfl).mono le_rfl (Nat.zero_le _)

/-! ## Commands -/

theorem agrees_decodeTopicOptions : Agrees word32 decodeTopicOptions c 0 := by
  refine (agrees_need (by omega)).bind fun _ => ?_
  refine (agrees_readArray16 (by omega)).bind fun _ => ?_
  refine (agrees_readU32 (by omega)).bind fun _ => ?_
  refine (Agrees.byteAt (by omega)).bind fun _ => ?_
  refine (Agrees.byteAt (by omega)).bind fun _ => ?_
  refine (Agrees.numberAt (by omega)).bind fun _ => ?_
  refine (Agrees.advance (by omega)).bind fun _ => ?_
  refine (agrees_readU16 (by omega)).bind fun topicLen => ?_
  refine (agrees_need (toNat_u16_le topicLen)).bind fun _ => ?_
  refine (agrees_readText (by omega)).bind fun _ => ?_
  refine (agrees_readU16 (by omega)).bind fun typeLen => ?_
  refine (agrees_need (by have := toNat_u16_le typeLen; omega)).bind fun _ => ?_
  refine (agrees_readText (by omega)).bind fun _ => ?_
  exact (Agrees.pure _).mono le_rfl (Nat.zero_le _)

theorem agrees_decodeEndpointOptions : Agrees word32 decodeEndpointOptions c 0 := by
  refine (agrees_need (by omega)).bind fun _ => ?_
  refine (agrees_readArray16 (by omega)).bind fun _ => ?_
  refine (agrees_readU32 (by omega)).bind fun _ => ?_
  refine (Agrees.byteAt (by omega)).bind fun _ => ?_
  refine (Agrees.byteAt (by omega)).bind fun _ => ?_
  refine (Agrees.advance (by omega)).bind fun _ => ?_
  refine (agrees_readU16 (by omega)).bind fun nameLen => ?_
  refine (agrees_need (toNat_u16_le nameLen)).bind fun _ => ?_
  refine (agrees_readText (by omega)).bind fun _ => ?_
  refine (agrees_readU16 (by omega)).bind fun typeLen => ?_
  refine (agrees_need (by have := toNat_u16_le typeLen; omega)).bind fun _ => ?_
  refine (agrees_readText (by omega)).bind fun _ => ?_
  exact (Agrees.pure _).mono le_rfl (Nat.zero_le _)

theorem agrees_decodeAuthenticate : Agrees word32 decodeAuthenticate c 0 := by
  refine (agrees_need (by omega)).bind fun _ => ?_
  refine (agrees_readArray16 (by omega)).bind fun _ => ?_
  refine (agrees_readU16 (by omega)).bind fun schemeLen => ?_
  refine (agrees_need (toNat_u16_le schemeLen)).bind fun _ => ?_
  refine (agrees_readText (by omega)).bind fun _ => ?_
  refine (agrees_readU16 (by omega)).bind fun tokenLen => ?_
  refine (agrees_readBytes (by have := toNat_u16_le tokenLen; omega)).bind fun _ => ?_
  exact .pure _

theorem agrees_decodeSendSample : Agrees word32 decodeSendSample c 0 := by
  refine (agrees_need (by omega)).bind fun _ => ?_
  refine (agrees_readU32 (by omega)).bind fun _ => ?_
  refine (agrees_readU32 (by omega)).bind fun stringLen => ?_
  refine (agrees_readCheckedText stringLen).bind fun _ => ?_
  exact .pure _

theorem agrees_decodeOpidPayload : Agrees word32 decodeOpidPayload c 0 := by
  refine (agrees_need (by omega)).bind fun _ => ?_
  refine (agrees_readU32 (by omega)).bind fun _ => ?_
  refine (agrees_readArray16 (by omega)).bind fun _ => ?_
  refine (agrees_readU32 (by omega)).bind fun len => ?_
  refine (agrees_readBytes len.toNat_lt).bind fun _ => ?_
  exact .pure _

theorem agrees_decodePointField : Agrees word32 decodePointField c 0 := by
  refine agrees_readU16String.bind fun _ => ?_
  refine (agrees_need (by omega)).bind fun _ => ?_
  refine (agrees_readU32 (by omega)).bind fun _ => ?_
  refine (agrees_readU8 (by omega)).bind fun _ => ?_
  refine (agrees_readU32 (by omega)).bind fun _ => ?_
  exact .pure _

theorem agrees_decodePointFields : Agrees word32 decodePointFields c 0 := by
  refine (agrees_need (by omega)).bind fun _ => ?_
  refine (agrees_readU32 (by omega)).bind fun fieldCount => ?_
  refine (Agrees.reserve _ _).bind fun _ => ?_
  exact Agrees.repeated (fun _ => agrees_decodePointField) _ _

theorem agrees_decodeSendPointCloud2 : Agrees word32 decodeSendPointCloud2 c 0 := by
  refine (agrees_need (by omega)).bind fun _ => ?_
  refine (agrees_readU32 (by omega)).bind fun _ => ?_
  refine (agrees_readU32 (by omega)).bind fun _ => ?_
  refine (agrees_readU32 (by omega)).bind fun _ => ?_
  refine (agrees_readU32 (by omega)).bind fun _ => ?_
  refine (agrees_readU32 (by omega)).bind fun _ => ?_
  refine (Agrees.byteAt (by omega)).bind fun _ => ?_
  refine (Agrees.byteAt (by omega)).bind fun _ => ?_
  refine (Agrees.advance (by omega)).bind fun _ => ?_
  refine (agrees_readI32 (by omega)).bind fun _ => ?_
  refine (agrees_readU32 (by omega)).bind fun _ => ?_
  refine agrees_readU16String.bind fun _ => ?_
  refine agrees_decodePointFields.bind fun _ => ?_
  refine (agrees_need (by omega)).bind fun _ => ?_
  refine (agrees_readU32 (by omega)).bind fun dataLen => ?_
  refine (agrees_readBytes dataLen.toNat_lt).bind fun _ => ?_
  exact .pure _

theorem agrees_decodeSendGenerated : Agrees word32 decodeSendGenerated c 0 := by
  refine (agrees_need (by omega)).bind fun _ => ?_
  refine (agrees_readU32 (by omega)).bind fun _ => ?_
  refine agrees_readU16String.bind fun _ => ?_
  refine (agrees_need (by omega)).bind fun _ => ?_
  refine (agrees_readU32 (by omega)).bind fun valueLen => ?_
  refine (agrees_readBytes valueLen.toNat_lt).bind fun _ => ?_
  exact .pure _

theorem agrees_decodeStart : Agrees word32 decodeStart c 0 := by
  refine (agrees_need (by omega)).bind fun _ => ?_
  refine (Agrees.byteAt (by omega)).bind fun _ => ?_
  refine (Agrees.byteAt (by omega)).bind fun _ => ?_
  refine (Agrees.advance (by omega)).bind fun _ => ?_
  exact .pure _

theorem agrees_decodeCancelAction : Agrees word32 decodeCancelAction c 0 := by
  refine (agrees_need (by omega)).bind fun _ => ?_
  refine (agrees_readU32 (by omega)).bind fun _ => ?_
  refine (agrees_readArray16 (by omega)).bind fun _ => ?_
  exact .pure _

theorem agrees_decodeUnsubscribe : Agrees word32 decodeUnsubscribe c 0 := by
  refine (agrees_need (by omega)).bind fun _ => ?_
  refine (agrees_readArray16 (by omega)).bind fun _ => ?_
  refine (agrees_readU32 (by omega)).bind fun _ => ?_
  exact .pure _

/-- **Every command agrees with itself.** -/
theorem agrees_decodeCommand (cmd : UInt8) : Agrees word32 (decodeCommand cmd) 0 0 := by
  unfold decodeCommand
  split
  · exact agrees_decodeStart
  · exact agrees_decodeAuthenticate
  · exact agrees_decodeTopicOptions.map _
  · exact agrees_decodeUnsubscribe
  · exact .pure _
  · exact agrees_decodeTopicOptions.map _
  · exact agrees_decodeSendSample
  · exact agrees_decodeEndpointOptions.map _
  · exact agrees_decodeOpidPayload.map _
  · exact agrees_decodeOpidPayload.map _
  · exact agrees_decodeEndpointOptions.map _
  · exact agrees_decodeOpidPayload.map _
  · exact agrees_decodeCancelAction
  · exact agrees_decodeOpidPayload.map _
  · exact agrees_decodeOpidPayload.map _
  · exact agrees_decodeOpidPayload.map _
  · exact agrees_decodeSendPointCloud2
  · exact agrees_decodeSendGenerated
  · exact .fail _

/-! ## Events -/

theorem agrees_decodeWsBytes (inlineWs : Bool) (resolveWs : ResolveWs) (i : ℕ) :
    Agrees word32 (decodeWsBytes inlineWs resolveWs i) c 0 := by
  refine (agrees_need (by omega)).bind fun _ => ?_
  refine (Agrees.numberAt (by omega)).bind fun _ => ?_
  refine (Agrees.numberAt (by omega)).bind fun _ => ?_
  refine (Agrees.numberAt (by omega)).bind fun len => ?_
  refine (Agrees.advance (by omega)).bind fun _ => ?_
  cases inlineWs with
  | true => exact (agrees_readBytes (UInt32.ofNat len).toNat_lt).bind fun _ => .pure _
  | false => exact (Agrees.lift _).bind fun _ => .pure _

theorem agrees_decodeTimer : Agrees word32 decodeTimer c 0 := by
  refine (agrees_need (by omega)).bind fun _ => ?_
  refine (agrees_readU64 (by omega)).bind fun _ => ?_
  exact .pure _

theorem agrees_decodeCommandEvent : Agrees word32 decodeCommandEvent c 0 := by
  refine (agrees_need (by omega)).bind fun _ => ?_
  refine (Agrees.byteAt (by omega)).bind fun cmd => ?_
  refine (Agrees.advance (by omega)).bind fun _ => ?_
  exact (agrees_decodeCommand cmd).bind fun _ => .pure _

theorem agrees_decodeRelease : Agrees word32 decodeRelease c 0 := by
  refine (agrees_need (by omega)).bind fun _ => ?_
  refine (agrees_readU32 (by omega)).bind fun _ => ?_
  exact .pure _

/-- **Every event agrees with itself.** -/
theorem agrees_decodeEvent (inlineWs : Bool) (resolveWs : ResolveWs) (i : ℕ) :
    Agrees word32 (decodeEvent inlineWs resolveWs i) c 0 := by
  refine (agrees_need (by omega)).bind fun _ => ?_
  refine (Agrees.byteAt (by omega)).bind fun kind => ?_
  refine (Agrees.advance (by omega)).bind fun _ => ?_
  split
  · exact agrees_decodeWsBytes inlineWs resolveWs i
  · exact agrees_decodeTimer
  · exact agrees_decodeCommandEvent
  · exact agrees_decodeRelease
  · exact .fail _

end Batch

open Batch

/-- **A batch agrees with itself** on the 32-bit machine. -/
theorem agrees_decodeHostBatch (resolveWs : ResolveWs) :
    Agrees word32 (decodeHostBatch resolveWs) 0 0 := by
  refine (agrees_need (by omega)).bind fun _ => ?_
  refine (Agrees.numberAt (by omega)).bind fun magic => ?_
  split
  · exact .fail _
  refine (Agrees.numberAt (by omega)).bind fun version => ?_
  split
  · exact .fail _
  refine (Agrees.numberAt (by omega)).bind fun flags => ?_
  refine (Agrees.numberAt (by omega)).bind fun count => ?_
  refine (Agrees.advance (by omega)).bind fun _ => ?_
  refine (Agrees.reserve _ _).bind fun _ => ?_
  exact Agrees.repeated (fun i => agrees_decodeEvent _ resolveWs i) 0 count

end Host
end Rclweb
