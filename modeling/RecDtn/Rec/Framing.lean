import RecDtn.Lang.Python
import RecDtn.Wire.CborHead

namespace RecDtn.Rec.Framing

open Python Wire.CborHead List

/-- What `handleConnection` writes: the length of the reply in eight bytes, and
the reply. -/
def framed (reply : List UInt8) : List UInt8 := bigEndian 8 reply.length ++ reply

/-- `sock_recv(n)` waits until some bytes are available and returns at most `n`
of them. The rest is still to come. -/
def sockRecv (incoming : List UInt8) (n : Nat) (available : ℕ+) : List UInt8 × List UInt8 :=
  incoming.splitAt (min n available)

/-- The second half of `_send_message`, up to the bytes that it hands to
`deserialize`. Both reads are made once. -/
def receiveReply (incoming : List UInt8) (first second : ℕ+) : Py (List UInt8) :=
  let (data, rest) := sockRecv incoming 8 first
  let replyLength := ofBigEndian data
  if 0 < replyLength then .ok (sockRecv rest replyLength second).1
  else raise .assertionError ""

/-- The first bytes of a number are the number without its last digits. -/
theorem take_bigEndian (width less count : Nat) :
    (bigEndian (width + less) count).take width = bigEndian width (count / 256 ^ less) := by
  induction less generalizing count with
  | zero => simp [take_of_length_le, length_bigEndian]
  | succ less ih =>
    have short : width ≤ (bigEndian (width + less) (count / 256)).length := by
      rw [length_bigEndian]
      exact Nat.le_add_right _ _
    rw [← Nat.add_assoc, bigEndian, take_append_of_le_length short, ih, Nat.div_div_eq_div_mul,
      Nat.pow_succ, Nat.mul_comm]

/-- A length that is read before all of its bytes have come is too small. -/
theorem ofBigEndian_take_lt {width read count : Nat} (short : read < width)
    (fits : count < 256 ^ width)
    (positive : 0 < count) : ofBigEndian ((bigEndian width count).take read) < count := by
  obtain ⟨less, rfl⟩ := Nat.exists_eq_add_of_lt short
  rw [Nat.add_assoc, take_bigEndian, ofBigEndian_bigEndian]
  · apply Nat.div_lt_self positive
    exact Nat.one_lt_pow (Nat.succ_ne_zero less) (by decide)
  · apply Nat.div_lt_of_lt_mul
    rwa [← Nat.pow_add, Nat.add_comm]

/-- What is handed on is never longer than the length that was read, nor than
what was available. -/
theorem length_le_of_receiveReply {incoming handed : List UInt8} {first second : ℕ+}
    (received : receiveReply incoming first second = .ok handed) :
    handed.length ≤ ofBigEndian (sockRecv incoming 8 first).1 ∧ handed.length ≤ second := by
  unfold receiveReply at received
  simp only at received
  split at received
  · cases received
    have bound : ∀ (rest : List UInt8) (n : Nat), (sockRecv rest n second).1.length ≤ min n second := by
      intro rest n
      rw [sockRecv, splitAt_eq, length_take]
      exact min_le_left _ _
    exact le_min_iff.mp (bound _ _)
  · cases received

/-- The bytes of the length, or as many of them as the first read returns. -/
theorem sockRecv_framed (reply : List UInt8) (first : ℕ+) :
    sockRecv (framed reply) 8 first = ((bigEndian 8 reply.length).take (min 8 first),
      (bigEndian 8 reply.length).drop (min 8 first) ++ reply) := by
  have within : min 8 (first : Nat) ≤ (bigEndian 8 reply.length).length := by
    rw [length_bigEndian]
    exact min_le_left _ _
  rw [sockRecv, splitAt_eq, framed, take_append_of_le_length within, drop_append_of_le_length within]

theorem receiveReply_eq_ok_iff {reply : List UInt8} (positive : 0 < reply.length)
    (fits : reply.length < 2 ^ 64) (first second : ℕ+) :
    receiveReply (framed reply) first second = .ok reply ↔ 8 ≤ (first : Nat) ∧
      reply.length ≤ second := by
  constructor
  · intro received
    obtain ⟨announced, available⟩ := length_le_of_receiveReply received
    refine ⟨?_, available⟩
    by_contra short
    have missing : min 8 (first : Nat) < 8 := by omega
    have small : ofBigEndian ((bigEndian 8 reply.length).take (min 8 first)) < reply.length :=
      ofBigEndian_take_lt missing fits positive
    rw [sockRecv_framed] at announced
    exact absurd announced (Nat.not_le.mpr small)
  · rintro ⟨complete, available⟩
    have length : ofBigEndian (bigEndian 8 reply.length) = reply.length :=
      ofBigEndian_bigEndian 8 _ fits
    have all : (bigEndian 8 reply.length).length ≤ 8 := (length_bigEndian _ _).le
    unfold receiveReply
    simp only [sockRecv_framed, Nat.min_eq_left complete, take_of_length_le all,
      drop_of_length_le all, nil_append, length, if_pos positive]
    rw [sockRecv, splitAt_eq, Nat.min_eq_left available, take_length]

theorem readyReply_received : receiveReply (framed [7, 8, 9]) 8 3 = .ok [7, 8, 9] :=
  (receiveReply_eq_ok_iff (by decide) (by decide) 8 3).mpr ⟨by decide, by decide⟩

/-- The reply comes in two pieces, and the second one is left behind. -/
theorem splitReply_not_received : receiveReply (framed [7, 8, 9]) 8 2 ≠ .ok [7, 8, 9] := by
  decide

end RecDtn.Rec.Framing
