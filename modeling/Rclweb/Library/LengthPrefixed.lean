import Rclweb.Library.BigEndian

/-!
# Messages behind their lengths

A byte stream carries messages one after the other, each behind its length in four bytes.  A
reader looks at the front of what it has (`front`): a whole message, not yet a whole message, or
a length over its limit.

A receive that is polled may have taken a part of a message from the stream when it has to wait
(`Receive`).  What it answers depends only on the bytes it took and the bytes that are there
(`Receive.explains_poll`), so nothing is lost as long as the receive itself is not.
-/

namespace Rclweb
namespace LengthPrefixed

/-- The length of a message. -/
def lengthBytes (m : List UInt8) : List UInt8 := BigEndian.toBytes 4 m.length

/-- A message behind its length. -/
def frame (m : List UInt8) : List UInt8 := lengthBytes m ++ m

/-- A stream of messages. -/
def frames (ms : List (List UInt8)) : List UInt8 := ms.flatMap frame

@[simp] theorem length_lengthBytes (m : List UInt8) : (lengthBytes m).length = 4 :=
  BigEndian.length_toBytes 4 m.length

@[simp] theorem frames_nil : frames [] = [] := rfl

theorem frames_cons (m : List UInt8) (ms : List (List UInt8)) :
    frames (m :: ms) = frame m ++ frames ms := rfl

theorem frames_append (ms ms' : List (List UInt8)) :
    frames (ms ++ ms') = frames ms ++ frames ms' :=
  List.flatMap_append

theorem frames_singleton (m : List UInt8) : frames [m] = frame m :=
  List.flatMap_singleton frame m

/-! ## The front of a stream -/

/-- **What a stream begins with.** -/
inductive Front where
  /-- Not a whole message yet. -/
  | short
  | tooLong (rest : List UInt8)
  | message (m rest : List UInt8)
  deriving DecidableEq, Repr

def front (limit : ℕ) (bytes : List UInt8) : Front :=
  if bytes.length < 4 then .short
  else
    let len := BigEndian.ofBytes (bytes.take 4)
    let body := bytes.drop 4
    if limit < len then .tooLong body
    else if body.length < len then .short
    else .message (body.take len) (body.drop len)

variable {limit : ℕ} {m rest bytes : List UInt8} {ms : List (List UInt8)}

/-- The length of a message that is not longer than the format can say. -/
theorem ofBytes_lengthBytes (hm : m.length < 2 ^ 32) :
    BigEndian.ofBytes (lengthBytes m) = m.length :=
  BigEndian.ofBytes_toBytes_of_lt (hm.trans_eq (by norm_num))

theorem front_frame (hlimit : limit < 2 ^ 32) (hm : m.length ≤ limit) :
    front limit (frame m ++ rest) = .message m rest := by
  have htake : (frame m ++ rest).take 4 = lengthBytes m := by
    rw [frame, List.append_assoc, List.take_left' (length_lengthBytes m)]
  have hdrop : (frame m ++ rest).drop 4 = m ++ rest := by
    rw [frame, List.append_assoc, List.drop_left' (length_lengthBytes m)]
  have hlong : ¬ (frame m ++ rest).length < 4 := by
    rw [frame, List.length_append, List.length_append, length_lengthBytes]
    omega
  unfold front
  dsimp only
  rw [if_neg hlong, htake, hdrop, ofBytes_lengthBytes (hm.trans_lt hlimit),
    if_neg (not_lt.mpr hm), if_neg (by rw [List.length_append]; omega), List.take_left,
    List.drop_left]

/-- A message at the front is the stream's beginning. -/
theorem eq_of_front (h : front limit bytes = .message m rest) :
    ∃ len : List UInt8, len.length = 4 ∧ bytes = len ++ m ++ rest := by
  unfold front at h
  dsimp only at h
  split_ifs at h with hshort
  cases h
  refine ⟨bytes.take 4, by rw [List.length_take]; omega, ?_⟩
  rw [List.append_assoc, List.take_append_drop, List.take_append_drop]

theorem length_of_front (h : front limit bytes = .message m rest) :
    rest.length < bytes.length := by
  obtain ⟨len, hlen, rfl⟩ := eq_of_front h
  rw [List.length_append, List.length_append]
  omega

/-- **A message at the front of a part of a stream** is the first message of the stream. -/
theorem message_of_part {m' rest' : List UInt8} (hm : m.length < 2 ^ 32)
    (hpart : bytes <+: frame m ++ rest) (h : front limit bytes = .message m' rest') :
    m' = m ∧ bytes = frame m ++ rest' ∧ rest' <+: rest := by
  unfold front at h
  dsimp only at h
  split_ifs at h with hshort _ hbody
  cases h
  obtain ⟨tail, htail⟩ := hpart
  have htake : bytes.take 4 = lengthBytes m := by
    rw [← @List.take_append_of_le_length _ bytes tail 4 (not_lt.mp hshort), htail, frame,
      List.append_assoc, List.take_left' (length_lengthBytes m)]
  have hdrop : bytes.drop 4 ++ tail = m ++ rest := by
    rw [← List.drop_append_of_le_length (not_lt.mp hshort), htail, frame, List.append_assoc,
      List.drop_left' (length_lengthBytes m)]
  rw [htake, ofBytes_lengthBytes hm] at hbody ⊢
  have hmessage : (bytes.drop 4).take m.length = m := by
    rw [← @List.take_append_of_le_length _ _ tail _ (not_lt.mp hbody), hdrop, List.take_left]
  refine ⟨hmessage, ?_, tail, ?_⟩
  · calc bytes = bytes.take 4 ++ bytes.drop 4 := (List.take_append_drop 4 bytes).symm
      _ = lengthBytes m ++ ((bytes.drop 4).take m.length ++ (bytes.drop 4).drop m.length) := by
        rw [htake, List.take_append_drop]
      _ = frame m ++ (bytes.drop 4).drop m.length := by
        rw [hmessage, frame, List.append_assoc]
  · rw [← List.drop_append_of_le_length (not_lt.mp hbody), hdrop, List.drop_left]

/-- A part of an empty stream has nothing at its front. -/
@[simp] theorem front_nil : front limit [] = .short := rfl

/-- More behind a message changes nothing at the front. -/
theorem front_append (h : front limit bytes = .message m rest) (more : List UInt8) :
    front limit (bytes ++ more) = .message m (rest ++ more) := by
  unfold front at h ⊢
  dsimp only at h ⊢
  split_ifs at h with hshort hlimit hbody
  cases h
  have hfour : 4 ≤ bytes.length := not_lt.mp hshort
  have hlen := not_lt.mp hbody
  rw [List.take_append_of_le_length hfour, List.drop_append_of_le_length hfour, if_neg hlimit,
    List.take_append_of_le_length hlen, List.drop_append_of_le_length hlen]
  rw [if_neg, if_neg]
  · rw [List.length_append]
    omega
  · rw [List.length_append]
    omega

/-- No length is over the largest one the format can say. -/
theorem front_ne_tooLong (bytes rest : List UInt8) : front (2 ^ 32 - 1) bytes ≠ .tooLong rest := by
  intro h
  unfold front at h
  dsimp only at h
  split_ifs at h with hshort hlimit
  have hlt := BigEndian.ofBytes_lt (bytes.take 4)
  have hfour : (bytes.take 4).length = 4 := by
    rw [List.length_take]
    omega
  rw [hfour] at hlt
  omega

/-! ## Reading a whole stream -/

/-- **Reading message after message**, as far as there are any. -/
inductive Reads (limit : ℕ) : List UInt8 → List (List UInt8) → List UInt8 → Prop
  | nil {bytes : List UInt8} : front limit bytes = .short → Reads limit bytes [] bytes
  | cons {bytes m rest left : List UInt8} {ms : List (List UInt8)} :
      front limit bytes = .message m rest → Reads limit rest ms left →
        Reads limit bytes (m :: ms) left

/-- **A stream of messages is read back**, with what is left behind it. -/
theorem reads_frames (hlimit : limit < 2 ^ 32) (hms : ∀ m ∈ ms, m.length ≤ limit)
    (hrest : front limit rest = .short) : Reads limit (frames ms ++ rest) ms rest := by
  induction ms with
  | nil => exact .nil hrest
  | cons m ms ih =>
    rw [frames_cons, List.append_assoc]
    refine .cons (front_frame hlimit (hms m List.mem_cons_self)) (ih fun m' hm' => ?_)
    exact hms m' (List.mem_cons_of_mem m hm')

/-- What is read is determined by the stream. -/
theorem Reads.unique {left left' : List UInt8} {ms' : List (List UInt8)}
    (h : Reads limit bytes ms left) (h' : Reads limit bytes ms' left') :
    ms = ms' ∧ left = left' := by
  induction h generalizing ms' with
  | nil hshort =>
    cases h' with
    | nil _ => exact ⟨rfl, rfl⟩
    | cons hmessage _ =>
      rw [hshort] at hmessage
      cases hmessage
  | cons hmessage _ ih =>
    cases h' with
    | nil hshort =>
      rw [hshort] at hmessage
      cases hmessage
    | cons hmessage' hreads' =>
      rw [hmessage] at hmessage'
      cases hmessage'
      obtain ⟨rfl, rfl⟩ := ih hreads'
      exact ⟨rfl, rfl⟩

/-- Behind what is read there is no whole message. -/
theorem Reads.front_left {left : List UInt8} (h : Reads limit bytes ms left) :
    front limit left = .short := by
  induction h with
  | nil hshort => exact hshort
  | cons _ _ ih => exact ih

/-- **Reading goes on where it stopped**, once there is more. -/
theorem Reads.append {left left' more : List UInt8} {ms' : List (List UInt8)}
    (h : Reads limit bytes ms left) (h' : Reads limit (left ++ more) ms' left') :
    Reads limit (bytes ++ more) (ms ++ ms') left' := by
  induction h with
  | nil _ => exact h'
  | cons hmessage _ ih => exact .cons (front_append hmessage more) (ih h')

/-! ## A receive that waits -/

/-- **A receive in progress**, with the bytes it has taken from the stream. -/
inductive Receive where
  | length (got : List UInt8)
  | body (len : ℕ) (lengthGot got : List UInt8)
  deriving DecidableEq, Repr

namespace Receive

/-- A receive that has not been polled. -/
def start : Receive := .length []

/-- What a receive has taken from the stream. -/
def taken : Receive → List UInt8
  | .length got => got
  | .body _ lengthGot got => lengthGot ++ got

/-- What polling a receive gives. -/
inductive Poll where
  | pending (receive : Receive)
  | tooLong (rest : List UInt8)
  | message (m rest : List UInt8)
  deriving DecidableEq, Repr

/-- Poll the read of a body. -/
def pollBody (len : ℕ) (lengthGot got available : List UInt8) : Poll :=
  let need := len - got.length
  if available.length < need then .pending (.body len lengthGot (got ++ available))
  else .message (got ++ available.take need) (available.drop need)

/-- **Poll a receive** with the bytes that are there. -/
def poll (limit : ℕ) : Receive → List UInt8 → Poll
  | .length got, available =>
    let need := 4 - got.length
    if available.length < need then .pending (.length (got ++ available))
    else
      let lengthGot := got ++ available.take need
      let len := BigEndian.ofBytes lengthGot
      if limit < len then .tooLong (available.drop need)
      else pollBody len lengthGot [] (available.drop need)
  | .body len lengthGot got, available => pollBody len lengthGot got available

/-- **The receives there can be**: a part of the length, or the length and a part of the body. -/
def Sound (limit : ℕ) : Receive → Prop
  | .length got => got.length < 4
  | .body len lengthGot got =>
    lengthGot.length = 4 ∧ len = BigEndian.ofBytes lengthGot ∧ len ≤ limit ∧ got.length ≤ len

theorem sound_start : start.Sound limit := show 0 < 4 by norm_num

/-- What polling a receive means for the stream it reads. -/
def Explains (limit : ℕ) (bytes : List UInt8) : Poll → Prop
  | .pending receive => front limit bytes = .short ∧ receive.taken = bytes ∧ receive.Sound limit
  | .tooLong rest => front limit bytes = .tooLong rest
  | .message m rest => front limit bytes = .message m rest

theorem explains_pollBody {len : ℕ} {lengthGot got available : List UInt8}
    (hsound : (body len lengthGot got).Sound limit) :
    Explains limit (lengthGot ++ got ++ available) (pollBody len lengthGot got available) := by
  obtain ⟨hfour, hlen, hle, hgot⟩ := hsound
  have hlong : ¬ (lengthGot ++ got ++ available).length < 4 := by
    rw [List.length_append, List.length_append]
    omega
  have htake : (lengthGot ++ got ++ available).take 4 = lengthGot := by
    rw [List.append_assoc, List.take_left' hfour]
  have hdrop : (lengthGot ++ got ++ available).drop 4 = got ++ available := by
    rw [List.append_assoc, List.drop_left' hfour]
  have hfront : front limit (lengthGot ++ got ++ available) =
      if (got ++ available).length < len then .short
      else .message ((got ++ available).take len) ((got ++ available).drop len) := by
    unfold front
    dsimp only
    rw [if_neg hlong, htake, hdrop, ← hlen, if_neg (not_lt.mpr hle)]
  have hlength : (got ++ available).length = got.length + available.length := List.length_append
  unfold pollBody
  dsimp only
  by_cases hwait : available.length < len - got.length
  · rw [if_pos hwait]
    refine ⟨by rw [hfront, if_pos (by omega)], (List.append_assoc ..).symm, hfour, hlen, hle, ?_⟩
    omega
  · rw [if_neg hwait]
    show front limit _ = _
    rw [hfront, if_neg (by omega), List.take_append, List.drop_append,
      List.take_of_length_le hgot, List.drop_of_length_le hgot, List.nil_append]

/-- **What a poll answers is what the stream begins with**, counting from the first byte the
receive has taken. -/
theorem explains_poll {receive : Receive} (hsound : receive.Sound limit)
    (available : List UInt8) :
    Explains limit (receive.taken ++ available) (poll limit receive available) := by
  cases receive with
  | body len lengthGot got => exact explains_pollBody hsound
  | length got =>
    have hgot : got.length < 4 := hsound
    have hlength : (got ++ available).length = got.length + available.length := List.length_append
    unfold poll taken
    dsimp only
    by_cases hwait : available.length < 4 - got.length
    · rw [if_pos hwait]
      have hshort : (got ++ available).length < 4 := by omega
      exact ⟨if_pos hshort, rfl, hshort⟩
    rw [if_neg hwait]
    have htake : (got ++ available).take 4 = got ++ available.take (4 - got.length) := by
      rw [List.take_append, List.take_of_length_le hgot.le]
    have hdrop : (got ++ available).drop 4 = available.drop (4 - got.length) := by
      rw [List.drop_append, List.drop_of_length_le hgot.le, List.nil_append]
    set lengthGot := got ++ available.take (4 - got.length) with hlengthGot
    by_cases hlimit : limit < BigEndian.ofBytes lengthGot
    · rw [if_pos hlimit]
      show front limit _ = _
      unfold front
      dsimp only
      rw [if_neg (by omega), htake, hdrop, if_pos hlimit]
    rw [if_neg hlimit]
    have hwhole : got ++ available = lengthGot ++ [] ++ available.drop (4 - got.length) := by
      rw [List.append_nil, ← htake, ← hdrop, List.take_append_drop]
    rw [hwhole]
    refine explains_pollBody ⟨?_, rfl, not_lt.mp hlimit, Nat.zero_le _⟩
    rw [hlengthGot, List.length_append, List.length_take]
    omega

end Receive
end LengthPrefixed
end Rclweb
