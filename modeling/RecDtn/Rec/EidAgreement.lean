import RecDtn.Bpv7.EndpointText
import RecDtn.Rec.Eid

/-! Whether the daemon reads an endpoint ID of a node as the node wrote it. -/

namespace RecDtn.Python

open Lang

theorem utf8_intStr (number : Nat) : utf8 (intStr number) = decimal number := by
  have natural : intStr number = Nat.toDigits 10 number := by
    simp [intStr]
  rw [natural, utf8_of_ascii]
  · rfl
  · intro letter member
    have digit := Nat.isDigit_of_mem_toDigits (by decide) (by decide) member
    simp only [Char.isDigit, Bool.and_eq_true, decide_eq_true_eq, UInt32.le_iff_toNat_le] at digit
    simp only [isAscii, decide_eq_true_eq, Char.toNat]
    have upper : letter.val.toNat ≤ 57 := digit.2
    omega

end RecDtn.Python

namespace RecDtn.Rec.Eid

open Python Bpv7 Lang

variable {letter : Char} {node : Str}

theorem isAscii_of_isNodeLetter (node : isNodeLetter letter = true) : isAscii letter = true := by
  simp only [isNodeLetter, Bool.or_eq_true, List.contains_iff_mem] at node
  rcases node with alphanumeric | mark
  · unfold Char.isAlphanum Char.isAlpha Char.isUpper Char.isLower Char.isDigit at alphanumeric
    simp only [Bool.or_eq_true, Bool.and_eq_true, decide_eq_true_eq,
      UInt32.le_iff_toNat_le] at alphanumeric
    simp only [isAscii, decide_eq_true_eq, Char.toNat]
    have bound : letter.val.toNat ≤ 122 := by
      rcases alphanumeric with (upper | lower) | digit
      · exact le_trans upper.2 (by decide)
      · exact lower.2
      · exact le_trans digit.2 (by decide)
    omega
  · have marks : (str "-._~!$&'()*+,;=").all isAscii = true := by decide
    exact List.all_eq_true.mp marks letter mark

theorem isNodeByte_of_isNodeLetter (node : isNodeLetter letter = true) :
    DtnEndpoint.isNodeByte letter.toNat.toUInt8 = true := by
  have table : ∀ code : Fin 128, isNodeLetter (Char.ofNat code) = true →
      DtnEndpoint.isNodeByte code.val.toUInt8 = true := by decide +kernel
  have small : letter.toNat < 128 := by
    simpa [isAscii] using isAscii_of_isNodeLetter node
  apply table ⟨letter.toNat, small⟩
  rw [Char.ofNat_toNat]
  exact node

theorem chomp_eq_self (line : '\n' ∉ node) : chomp node = node := by
  apply if_neg
  intro last
  exact line (List.mem_of_getLast? last)

theorem mem_chomp_or (member : letter ∈ node) : letter ∈ chomp node ∨ letter = '\n' := by
  unfold chomp
  split
  · rename_i last
    have parts := List.dropLast_append_getLast? '\n' last
    rw [← parts] at member
    simpa using member
  · exact .inl member

theorem isNodeLetter_of_nodeRe (name : nodeRe node = true) (member : letter ∈ chomp node) :
    isNodeLetter letter = true := by
  simp only [nodeRe, Bool.or_eq_true, List.isEmpty_iff, List.all_eq_true] at name
  rcases name with empty | letters
  · rw [empty] at member
    cases member
  · exact letters letter member

theorem isAscii_of_nodeRe (name : nodeRe node = true) (member : letter ∈ node) :
    isAscii letter = true := by
  rcases mem_chomp_or member with kept | newline
  · exact isAscii_of_isNodeLetter (isNodeLetter_of_nodeRe name kept)
  · rw [newline]
    decide

theorem newline_mem_utf8 {text : Str} (letters : ∀ letter ∈ text, isAscii letter = true) :
    DtnEndpoint.newline ∈ utf8 text ↔ '\n' ∈ text := by
  rw [utf8_of_ascii letters, List.mem_map]
  constructor
  · rintro ⟨letter, member, same⟩
    have small : letter.toNat < 128 := by simpa [isAscii] using letters letter member
    have code : letter.toNat = 10 := by
      have codes := congrArg UInt8.toNat same
      rwa [Nat.toUInt8, UInt8.toNat_ofNat_of_lt' (lt_trans small (by decide))] at codes
    have newline : letter = '\n' := by rw [← Char.ofNat_toNat letter, code]
    exact newline ▸ member
  · intro member
    exact ⟨'\n', member, rfl⟩

/-- The daemon accepts the text, and writes it back unchanged. -/
def Agrees (text : Str) : Prop :=
  ∃ endpoint, newEndpointID (utf8 text) = .ok endpoint ∧ endpoint.string = utf8 text

theorem agrees_dtnNone : Agrees dtnNone :=
  ⟨⟨some (.dtn .none)⟩, rfl, rfl⟩

theorem agrees_dtnText {service : Str} (name : nodeRe node = true)
    (letters : ∀ letter ∈ service, isAscii letter = true) :
    Agrees (dtnText node service) ↔ node ≠ [] ∧ '\n' ∉ node ∧ '\n' ∉ service := by
  let written : DtnEndpoint := ⟨utf8 node, utf8 service, false⟩
  have text : utf8 (dtnText node service) = ascii "dtn:" ++ written.ssp := by
    rw [dtnText, List.append_assoc, utf8_append, utf8_append]
    rfl
  have line : DtnEndpoint.newline ∈ written.ssp ↔ '\n' ∈ node ∨ '\n' ∈ service := by
    rw [← newline_mem_utf8 fun _ => isAscii_of_nodeRe name, ← newline_mem_utf8 letters]
    simp [written, DtnEndpoint.ssp, DtnEndpoint.newline, DtnEndpoint.slash]
  have some : written.ssp ≠ [] := List.cons_ne_nil _ _
  unfold Agrees
  rw [text]
  constructor
  · rintro ⟨endpoint, accepted, -⟩
    obtain ⟨single, parsed, read, -, -⟩ := (newEndpointID_dtn some).mp accepted
    refine ⟨?_, fun member => single (line.mpr (.inl member)),
      fun member => single (line.mpr (.inr member))⟩
    -- the daemon wants a letter where the empty name has its slash
    rintro rfl
    rcases DtnEndpoint.parseDtnSsp_cases written.ssp with ⟨null, -⟩ | ⟨cause,
      failed⟩ | ⟨e, named, formed, same, -⟩
    · exact absurd (congrArg List.head? null) (by simp [DtnEndpoint.ssp, DtnEndpoint.slash, ascii])
    · rw [failed] at read
      cases read
    · simp only [DtnEndpoint.WellFormed, named] at formed
      obtain ⟨first, rest, nodeName⟩ := List.exists_cons_of_ne_nil formed.1
      have letter := formed.2.1 first (nodeName ▸ List.mem_cons_self)
      have slash : first = DtnEndpoint.slash := by
        have third : written.ssp[2]? = e.ssp[2]? := congrArg (·[2]?) same
        simp only [DtnEndpoint.ssp, nodeName, List.cons_append, List.getElem?_cons_succ] at third
        exact (Option.some.inj third).symm
      rw [slash] at letter
      exact absurd letter (by decide)
  · rintro ⟨nonempty, nodeLine, serviceLine⟩
    have formed : written.WellFormed := by
      refine ⟨?_, ?_, fun member => serviceLine ((newline_mem_utf8 letters).mp member)⟩
      · simpa [written, utf8_of_ascii fun _ => isAscii_of_nodeRe name] using nonempty
      · intro byte member
        simp only [written, utf8_of_ascii fun _ => isAscii_of_nodeRe name, List.mem_map] at member
        obtain ⟨letter, member, rfl⟩ := member
        rw [← chomp_eq_self nodeLine] at member
        exact isNodeByte_of_isNodeLetter (isNodeLetter_of_nodeRe name member)
    refine ⟨⟨.some (.dtn written)⟩,
      (newEndpointID_dtn some).mpr ⟨?_, written, ?_, formed.checkValid, rfl⟩, rfl⟩
    · rw [line]
      exact not_or.mpr ⟨nodeLine, serviceLine⟩
    · exact DtnEndpoint.parseDtnSsp_ssp written rfl formed

theorem utf8_ipnText (node service : Nat) :
    utf8 (ipnText node service) = ascii "ipn:" ++ (decimal node ++ dot :: decimal service) := by
  rw [ipnText, List.append_assoc, utf8_append, utf8_append, utf8_intStr, ← utf8_intStr service]
  rfl

theorem agrees_ipnText {node service : Nat} : Agrees (ipnText node service) ↔
    (0 < node ∧ node < 2 ^ 64) ∧ 0 < service ∧ service < 2 ^ 64 := by
  unfold Agrees
  rw [utf8_ipnText]
  constructor
  · rintro ⟨endpoint, accepted, -⟩
    obtain ⟨nodeFits, serviceFits, -⟩ := newEndpointID_ipn.mp accepted
    exact ⟨nodeFits, serviceFits⟩
  · rintro ⟨nodeFits, serviceFits⟩
    refine ⟨_, newEndpointID_ipn.mpr ⟨nodeFits, serviceFits, rfl⟩, ?_⟩
    simp only [EndpointID.string, EndpointType.string, IpnEndpoint.string,
      UInt64.toNat_ofNat_of_lt' nodeFits.2, UInt64.toNat_ofNat_of_lt' serviceFits.2, List.append_assoc]
    rfl

variable [Unicode]

theorem ne_dtnNone_of_newEndpointID {eid : Eid} (named : eid.isSome = true) {endpoint : EndpointID}
    (read : newEndpointID (utf8 eid.text) = .ok endpoint) : endpoint ≠ EndpointID.dtnNone := by
  obtain ⟨value, normal⟩ := eid.normal
  have shape := normal_normalize normal
  have other : eid.text ≠ dtnNone := bne_iff_ne.mp named
  generalize eid.text = text at read shape other
  cases shape with
  | null => exact absurd rfl other
  | dtn node service name single letters some written =>
    have text : ∃ rest, utf8 (dtnText node service) = ascii "dtn:" ++ DtnEndpoint.slash :: rest := by
      rw [dtnText, List.append_assoc, utf8_append]
      exact ⟨_, rfl⟩
    obtain ⟨rest, text⟩ := text
    rw [text] at read
    obtain ⟨-, parsed, parsing, -, rfl⟩ := (newEndpointID_dtn (List.cons_ne_nil _ _)).mp read
    rcases DtnEndpoint.parseDtnSsp_cases (DtnEndpoint.slash :: rest) with ⟨null, -⟩ | ⟨cause,
      failed⟩ | ⟨e, named, -, -, same⟩
    · exact absurd (congrArg List.head? null) (by simp [DtnEndpoint.slash, ascii])
    · rw [failed] at parsing
      cases parsing
    · rw [same] at parsing
      cases parsing
      intro null
      cases null
      cases named
  | ipn node service positive numbers =>
    rw [utf8_ipnText] at read
    obtain ⟨-, -, rfl⟩ := newEndpointID_ipn.mp read
    intro null
    cases null

/-- Of a `dtn` text: a node name that is not empty, all on one line. Of an `ipn`
text: numbers of 64 bits, the second one not zero either. -/
def Portable (value : Str) : Prop :=
  if value = dtnNone then True
  else if dtnPrefix.isPrefixOf value then
    (value.drop dtnPrefix.length).head? ≠ some '/' ∧ '\n' ∉ value
  else ∃ node service : Nat,
    ((value.drop ipnPrefix.length).splitOn '.').map parseInt =
      [.ok (node : Int), .ok (service : Int)] ∧ node < 2 ^ 64 ∧ 0 < service ∧ service < 2 ^ 64

theorem agrees_iff_portable {value : Str} {eid : Eid} (accepted : Eid.new value = .ok eid) :
    Agrees eid.text ↔ Portable value := by
  have normal := normal_new accepted
  unfold Portable
  generalize eid.text = text at normal ⊢
  clear accepted
  cases normal with
  | null => simp [agrees_dtnNone]
  | dtn node service name single letters some written =>
    rename_i ssp
    have other : dtnPrefix ++ ssp ≠ dtnNone := by
      intro same
      exact absurd (congrArg (List.take 5) same) (by simp [dtnPrefix, dtnNone, str])
    have start : dtnPrefix.isPrefixOf (dtnPrefix ++ ssp) = true :=
      List.isPrefixOf_iff_prefix.mpr (List.prefix_append _ _)
    have line : '\n' ∈ dtnPrefix ++ ssp ↔ '\n' ∈ node ∨ '\n' ∈ service := by
      rcases written with rfl | ⟨rfl, rfl⟩
      · simp [dtnPrefix, str]
      · simp [dtnPrefix, str]
    have head : ssp.head? = .some '/' ↔ node = [] := by
      cases node with
      | nil =>
        rcases written with rfl | ⟨rfl, rfl⟩
        · simp
        · exact absurd rfl some
      | cons first rest =>
        have first_ne : first ≠ '/' := fun same => single (same ▸ List.mem_cons_self)
        rcases written with rfl | ⟨rfl, rfl⟩
        · simp [first_ne]
        · simp [first_ne]
    rw [if_neg other, if_pos start, List.drop_left, agrees_dtnText name letters, line, ne_eq,
      ne_eq, head, not_or]
  | ipn node service positive numbers =>
    rename_i rest
    have other : ipnPrefix ++ rest ≠ dtnNone := by
      intro same
      exact absurd (congrArg List.head? same) (by simp [ipnPrefix, dtnNone, str])
    have start : ¬dtnPrefix.isPrefixOf (ipnPrefix ++ rest) = true := by
      simp [dtnPrefix, ipnPrefix, str, List.isPrefixOf]
    rw [if_neg other, if_neg start, List.drop_left, agrees_ipnText, numbers]
    constructor
    · rintro ⟨nodeFits, serviceFits⟩
      exact ⟨node, service, rfl, nodeFits.2, serviceFits⟩
    · rintro ⟨_, _, same, nodeFits, serviceFits⟩
      simp only [List.cons.injEq, Except.ok.injEq, Int.natCast_inj, and_true] at same
      obtain ⟨rfl, rfl⟩ := same
      exact ⟨⟨positive, nodeFits⟩, serviceFits⟩

end RecDtn.Rec.Eid

namespace RecDtn.Rec.Eid

open Python Bpv7

open scoped Samples

theorem dtnNode_agrees : ∃ eid, Eid.new (str "dtn://node/service") = .ok eid ∧
    Agrees eid.text := by
  have accepted : Eid.new (str "dtn://node/service") =
      .ok ⟨str "dtn://node/service", str "dtn://node/service", rfl⟩ := rfl
  refine ⟨_, accepted, (agrees_iff_portable accepted).mpr ?_⟩
  rw [Portable, if_neg (by decide), if_pos (by decide)]
  decide

/-- The node takes a service number of zero, the daemon does not. -/
theorem ipnServiceZero_not_agrees : ∃ eid, Eid.new (str "ipn:1.0") = .ok eid ∧
    ¬Agrees eid.text := by
  refine ⟨⟨str "ipn:1.0", str "ipn:1.0", rfl⟩, rfl, ?_⟩
  rintro ⟨endpoint, accepted, -⟩
  have refused : newEndpointID (utf8 (str "ipn:1.0")) =
      .error (.error (.text "ipn's node and Service number must be >= 1")) := rfl
  rw [refused] at accepted
  cases accepted

end RecDtn.Rec.Eid
