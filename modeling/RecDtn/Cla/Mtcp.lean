import RecDtn.Bpv7.RoundTrip

/-! The Minimal TCP convergence layer. -/

namespace RecDtn.Cla.Mtcp

open Wire Lang Bpv7 Cboring Go List

variable [Cboring] [Crc16]

/-- The buffer that a bundle is marshalled into cannot hold more than an `int`
counts, and panics when it grows beyond that. -/
def buffered (b : Bundle) : Go (List UInt8 × Bundle) := do
  let (buff, sent) ← b.marshalCbor
  if buff.length < 2 ^ 63 then return (buff, sent) else .error .panic

/-- The deferred function of `Send` turns a panic into an error. -/
def recovered {α : Type} : Go α → Go α
  | .error .panic => .error (.error (.text "MTCPClient.Send"))
  | result => result

/-- `Send`: what goes to the connection, and the bundle with its CRCs updated.
The empty byte string at the end probes the connection. -/
def send (b : Bundle) : Go (List UInt8 × Bundle) := recovered do
  let (buff, sent) ← buffered b
  return (writeByteStringLen (UInt64.ofNat buff.length) ++ (buff ++ writeByteStringLen 0), sent)

/-- What a client does while it holds its mutex. -/
inductive Write where
  | send (b : Bundle)
  | keepalive

/-- Everything that a client writes to its connection, and the bundles that it
has sent as it leaves them. -/
def transmit : List Write → Go (List UInt8 × List Bundle)
  | [] => return ([], [])
  | .send b :: rest => do
    let (bytes, sent) ← send b
    let (later, others) ← transmit rest
    return (bytes ++ later, sent :: others)
  | .keepalive :: rest => do
    let (later, others) ← transmit rest
    return (writeByteStringLen 0 ++ later, others)

/-- The bundles among the writes. -/
def bundles : List Write → List Bundle
  | [] => []
  | .send b :: rest => b :: bundles rest
  | .keepalive :: rest => bundles rest

variable [Ed25519]

/-- What comes of a connection: the bundles that were given to `receiveCallback`,
and the error that was logged when the handler returned. -/
structure Handled where
  received : List Bundle
  logged : Option (Fault GoError)

/-- The loop of `handleSender`, at the bundle with the number `count`, which is
checked at `clock count`. The length of a byte string only matters if it is zero. -/
def receiveEach (clock : Nat → Time) : Nat → Nat → List UInt8 → Handled
  | 0, _, _ => ⟨[], some .spin⟩
  | fuel + 1, count, input =>
    match readByteStringLen.run input with
    | .error (.error .eof) _ => ⟨[], none⟩
    | .error fault _ => ⟨[], some fault⟩
    | .ok length rest =>
      if length = 0 then receiveEach clock fuel count rest
      else
        let parsed := Bundle.parseBundle (clock count) rest
        match parsed.err with
        | some fault => ⟨[], some fault⟩
        | none =>
          let later := receiveEach clock fuel (count + 1) parsed.rest
          { later with received := parsed.bundle :: later.received }

/-- Every round takes at least one byte. -/
def handleSender (clock : Nat → Time) (input : List UInt8) : Handled :=
  receiveEach clock (input.length + 1) 0 input

variable {clock : Nat → Time} {fuel count : Nat} {rest : List UInt8}

theorem receiveEach_end : receiveEach clock (fuel + 1) count [] = ⟨[], none⟩ := by
  rw [receiveEach, readByteStringLen_of_end]
  rfl

theorem receiveEach_empty : receiveEach clock (fuel + 1) count (writeByteStringLen 0 ++ rest) =
    receiveEach clock fuel count rest := by
  have read : readByteStringLen.run (writeByteStringLen 0 ++ rest) = .ok 0 rest :=
    (reads_byteStringLen 0).run rest
  simp only [receiveEach, read, if_true]

variable {b sent : Bundle} {bytes : List UInt8}

theorem receiveEach_frame {length : UInt64} {tail : List UInt8} (announced : length ≠ 0)
    (parsed : Bundle.parseBundle (clock count) rest = ⟨b, none, tail⟩) :
    receiveEach clock (fuel + 1) count (writeByteStringLen length ++ rest) =
      { receiveEach clock fuel (count + 1) tail with
        received := b :: (receiveEach clock fuel (count + 1) tail).received } := by
  have read : readByteStringLen.run (writeByteStringLen length ++ rest) = .ok length rest :=
    (reads_byteStringLen length).run rest
  simp only [receiveEach, read, if_neg announced, parsed]

omit [Ed25519] in
theorem send_eq_ok : send b = .ok (bytes, sent) ↔ ∃ buff, b.marshalCbor = .ok (buff, sent) ∧
    buff.length < 2 ^ 63 ∧
      bytes = writeByteStringLen (UInt64.ofNat buff.length) ++ (buff ++ writeByteStringLen 0) := by
  have same {α : Type} {call : Go α} {value : α} :
      recovered call = .ok value ↔ call = .ok value := by
    unfold recovered
    split
    · simp
    · rfl
  rw [send, same, buffered]
  cases b.marshalCbor with
  | error fault => simp
  | ok marshalled =>
    obtain ⟨buff, left⟩ := marshalled
    by_cases small : buff.length < 2 ^ 63
    · simp only [ok_bind, if_pos small, pure, Except.pure, Except.ok.injEq, Prod.mk.injEq]
      constructor
      · rintro ⟨rfl, rfl⟩
        exact ⟨buff, ⟨rfl, rfl⟩, small, rfl⟩
      · rintro ⟨_, ⟨rfl, rfl⟩, -, rfl⟩
        exact ⟨rfl, rfl⟩
    · simp only [ok_bind, if_neg small, error_bind, reduceCtorEq, Except.ok.injEq, Prod.mk.injEq, false_iff]
      rintro ⟨_, ⟨rfl, rfl⟩, fits, -⟩
      exact small fits

omit [Ed25519] in
/-- The length that is announced is not taken for a keepalive. -/
theorem announced_ne_zero {buff : List UInt8} (marshalled : b.marshalCbor = .ok (buff, sent))
    (small : buff.length < 2 ^ 63) : UInt64.ofNat buff.length ≠ 0 := by
  obtain ⟨primary, extensions, payload, -, -, -, rfl⟩ := Bundle.marshalCbor_eq_ok.mp marshalled
  intro zero
  have zero := congrArg UInt64.toNat zero
  rw [UInt64.toNat_ofNat_of_lt' (Nat.lt_trans small (by decide))] at zero
  cases zero

/-- From the bundle with the number `count` on, the codec restores each bundle
at the time at which it is received. -/
def Restorable (clock : Nat → Time) : Nat → List Bundle → Prop
  | _, [] => True
  | count, b :: rest =>
    (b.InFormat (clock count) ∧ b.EndpointsWellFormed) ∧ Restorable clock (count + 1) rest

/-- A bundle and the empty byte string after it take two rounds. -/
theorem receiveEach_send (format : b.InFormat (clock count)) (formed : b.EndpointsWellFormed)
    (written : send b = .ok (bytes, sent)) :
    sent.stripCRC = b.stripCRC ∧ receiveEach clock (fuel + 2) count (bytes ++ rest) =
      { receiveEach clock fuel (count + 1) rest with
        received := sent.fresh :: (receiveEach clock fuel (count + 1) rest).received } := by
  obtain ⟨buff, marshalled, small, rfl⟩ := send_eq_ok.mp written
  obtain ⟨_, _, again, same, parsed⟩ := format.roundTrips formed
  cases marshalled.symm.trans again
  refine ⟨same, ?_⟩
  rw [append_assoc, append_assoc,
    receiveEach_frame (announced_ne_zero marshalled small) (parsed _), receiveEach_empty]

/-- The server keeps in step with the client over all of its writes. -/
theorem receiveEach_transmit {writes : List Write} {stream : List UInt8} {sent : List Bundle}
    (transmitted : transmit writes = .ok (stream, sent))
    (restorable : Restorable clock count (bundles writes))
    (enough : stream.length < fuel) :
    receiveEach clock fuel count stream = ⟨sent.map Bundle.fresh, none⟩ ∧
      sent.map Bundle.stripCRC = (bundles writes).map Bundle.stripCRC := by
  have empty : 0 < (writeByteStringLen 0).length := length_pos_iff.mpr (writeByteStringLen_ne_nil 0)
  induction writes generalizing stream sent count fuel with
  | nil =>
    cases transmitted
    obtain ⟨less, rfl⟩ := Nat.exists_eq_add_of_lt enough
    exact ⟨receiveEach_end, rfl⟩
  | cons write rest ih =>
    cases write with
    | keepalive =>
      obtain ⟨⟨later, others⟩, following, made⟩ := bind_eq_ok.mp transmitted
      cases made
      rw [length_append] at enough
      obtain ⟨less, rfl⟩ : ∃ less, fuel = less + 1 := ⟨fuel - 1, by omega⟩
      rw [receiveEach_empty]
      exact ih following restorable (by omega)
    | send b =>
      obtain ⟨⟨bytes, first⟩, written, transmitted⟩ := bind_eq_ok.mp transmitted
      obtain ⟨⟨later, others⟩, following, made⟩ := bind_eq_ok.mp transmitted
      cases made
      obtain ⟨⟨format, formed⟩, restorable⟩ := restorable
      have frame : 2 ≤ bytes.length := by
        obtain ⟨buff, -, -, rfl⟩ := send_eq_ok.mp written
        have head := length_pos_iff.mpr (writeByteStringLen_ne_nil (UInt64.ofNat buff.length))
        simp only [length_append]
        omega
      rw [length_append] at enough
      obtain ⟨less, rfl⟩ : ∃ less, fuel = less + 2 := ⟨fuel - 2, by omega⟩
      have enough : later.length < less := by omega
      obtain ⟨handled, others⟩ := ih following restorable enough
      obtain ⟨same, received⟩ : _ ∧ receiveEach clock (less + 2) count (bytes ++ later) = _ :=
        receiveEach_send format formed written
      rw [received, handled, map_cons, map_cons, same, others]
      exact ⟨rfl, rfl⟩

/-- Every bundle arrives, in order and without an error before the end of the
stream. It is the bundle that the client has sent, with the CRC values that the
encoder has computed. -/
theorem handleSender_transmit {clock : Nat → Time} {writes : List Write} {stream : List UInt8}
    {sent : List Bundle}
    (transmitted : transmit writes = .ok (stream, sent))
    (restorable : Restorable clock 0 (bundles writes)) :
    handleSender clock stream = ⟨sent.map Bundle.fresh, none⟩ ∧
      sent.map Bundle.stripCRC = (bundles writes).map Bundle.stripCRC :=
  receiveEach_transmit transmitted restorable (Nat.lt_succ_self _)

end RecDtn.Cla.Mtcp

namespace RecDtn.Cla.Mtcp

open Bpv7

open scoped Samples

def relayedTwice : List Write := [.send relayedBundle, .keepalive, .send relayedBundle]

theorem relayedTwice_received : ∃ stream sent, transmit relayedTwice = .ok (stream, sent) ∧
    handleSender (fun _ => 0) stream = ⟨sent.map Bundle.fresh, none⟩ ∧
    sent.map Bundle.stripCRC = [relayedBundle.stripCRC, relayedBundle.stripCRC] := by
  have formed : relayedBundle.EndpointsWellFormed := by
    refine ⟨by decide, ?_⟩
    intro cb member value present
    simp only [relayedBundle, List.mem_cons, List.not_mem_nil, or_false] at member
    rcases member with rfl | rfl | rfl | rfl
    · cases present
      decide
    · cases present
      trivial
    · cases present
      trivial
    · cases present
      trivial
  have restorable : Restorable (fun _ => 0) 0 (bundles relayedTwice) :=
    ⟨⟨relayedBundle_inFormat, formed⟩, ⟨relayedBundle_inFormat, formed⟩, trivial⟩
  have returns : (transmit relayedTwice).toBool = true := by decide +kernel
  obtain ⟨result, transmitted⟩ := Lang.Go.toBool_iff.mp returns
  exact ⟨result.1, result.2, transmitted, handleSender_transmit transmitted restorable⟩

end RecDtn.Cla.Mtcp
