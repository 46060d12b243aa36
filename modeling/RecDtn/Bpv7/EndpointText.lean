import RecDtn.Bpv7.Checking

namespace RecDtn.Bpv7

open Wire Lang EndpointID Go List

def colon : UInt8 := 58

def dot : UInt8 := 46

/-- The class `[[:alnum:]]`. -/
def isAlnum (byte : UInt8) : Bool :=
  isDigit byte || (65 ≤ byte && byte ≤ 90) || (97 ≤ byte && byte ≤ 122)

def newDtnEndpoint (uri : List UInt8) : Go EndpointType :=
  if (ascii "dtn:").isPrefixOf uri then do
    let parsed ← DtnEndpoint.parseDtnSsp (uri.drop 4)
    Go.check parsed.checkValid
    return .dtn parsed
  else .error (.error (.text "URI does not start with the \"dtn\" URI prefix (\"dtn:\")"))

/-- `strconv.ParseUint` of a text that is made of digits. -/
def parseDigits (digits : List UInt8) : Go UInt64 :=
  match parseUint digits with
  | some number => .ok number
  | none =>
    .error (.error (.text s!"strconv.ParseUint: parsing \"{display digits}\": value out of range"))

/-- The regexp `^ipn:(\d+)\.(\d+)$` takes the digits up to the dot. -/
def newIpnEndpoint (uri : List UInt8) : Go EndpointType :=
  let digits := (uri.drop 4).takeWhile isDigit
  match (uri.drop 4).dropWhile isDigit with
  | mark :: service =>
    if (ascii "ipn:").isPrefixOf uri ∧ digits ≠ [] ∧ mark = dot ∧ service ≠ [] ∧
        service.all isDigit = true then do
      let node ← parseDigits digits
      let number ← parseDigits service
      let endpoint : IpnEndpoint := ⟨node, number⟩
      Go.check endpoint.checkValid
      return .ipn endpoint
    else .error (.error (.text "uri does not match an ipn endpoint"))
  | [] => .error (.error (.text "uri does not match an ipn endpoint"))

/-- The regexp `^([[:alnum:]]+):.+$` finds the scheme, and the scheme decides
who reads the text. -/
def newEndpointID (uri : List UInt8) : Go EndpointID :=
  let scheme := uri.takeWhile isAlnum
  match uri.dropWhile isAlnum with
  | mark :: ssp =>
    if scheme ≠ [] ∧ mark = colon ∧ ssp ≠ [] ∧ DtnEndpoint.newline ∉ ssp then
      if scheme = ascii "dtn" then (fun endpoint => ⟨some endpoint⟩) <$> newDtnEndpoint uri
      else if scheme = ascii "ipn" then (fun endpoint => ⟨some endpoint⟩) <$> newIpnEndpoint uri
      else .error (.error (.text s!"no handler registered for URI scheme {display scheme}"))
    else .error (.error (.text "given URI does not match URI regexp"))
  | [] => .error (.error (.text "given URI does not match URI regexp"))

theorem settled_newDtnEndpoint (uri : List UInt8) : Settled (newDtnEndpoint uri) := by
  unfold newDtnEndpoint
  split
  · apply settled_bind (DtnEndpoint.settled_parseDtnSsp _)
    intro parsed
    exact settled_bind (settled_check _) fun _ => .ok _
  · exact .error _

theorem settled_newIpnEndpoint (uri : List UInt8) : Settled (newIpnEndpoint uri) := by
  have digits : ∀ text, Settled (parseDigits text) := by
    intro text
    unfold parseDigits
    split
    · exact .ok _
    · exact .error _
  unfold newIpnEndpoint
  simp only
  split
  · split
    · apply settled_bind (digits _)
      intro node
      apply settled_bind (digits _)
      intro service
      exact settled_bind (settled_check _) fun _ => .ok _
    · exact .error _
  · exact .error _

/-- A text is left to the constructor of one of the two schemes, or refused. -/
theorem newEndpointID_cases (uri : List UInt8) :
    newEndpointID uri = (fun endpoint => ⟨some endpoint⟩) <$> newDtnEndpoint uri ∨
      newEndpointID uri = (fun endpoint => ⟨some endpoint⟩) <$> newIpnEndpoint uri ∨
      ∃ cause, newEndpointID uri = .error (.error cause) := by
  unfold newEndpointID
  dsimp only
  split
  · split
    · split
      · exact .inl rfl
      split
      · exact .inr (.inl rfl)
      · exact .inr (.inr ⟨_, rfl⟩)
    · exact .inr (.inr ⟨_, rfl⟩)
  · exact .inr (.inr ⟨_, rfl⟩)

theorem settled_newEndpointID (uri : List UInt8) : Settled (newEndpointID uri) := by
  rcases newEndpointID_cases uri with dtn | ipn | ⟨cause, refused⟩
  · rw [dtn]
    exact settled_map (settled_newDtnEndpoint uri) _
  · rw [ipn]
    exact settled_map (settled_newIpnEndpoint uri) _
  · rw [refused]
    exact .error cause

variable {eid : EndpointID} {node service : Nat} {endpoint : EndpointType} {uri : List UInt8}

theorem newEndpointID_dtn {ssp : List UInt8} (nonempty : ssp ≠ []) :
    newEndpointID (ascii "dtn:" ++ ssp) = .ok eid ↔ DtnEndpoint.newline ∉ ssp ∧
      ∃ e, DtnEndpoint.parseDtnSsp ssp = .ok e ∧ e.checkValid = none ∧ eid = ⟨some (.dtn e)⟩ := by
  have scheme : (ascii "dtn:" ++ ssp).takeWhile isAlnum = ascii "dtn" := rfl
  have rest : (ascii "dtn:" ++ ssp).dropWhile isAlnum = colon :: ssp := rfl
  have tail : (ascii "dtn:" ++ ssp).drop 4 = ssp := rfl
  have start : (ascii "dtn:").isPrefixOf (ascii "dtn:" ++ ssp) = true := rfl
  have named : ascii "dtn" ≠ [] := by decide
  unfold newEndpointID
  simp only [scheme, rest, named, nonempty, ne_eq, not_false_eq_true, true_and]
  by_cases line : DtnEndpoint.newline ∈ ssp
  · simp [line]
  · simp only [line, not_false_eq_true, ↓reduceIte, true_and, newDtnEndpoint, start, tail]
    cases parsed : DtnEndpoint.parseDtnSsp ssp with
    | error fault => simp
    | ok e =>
      cases valid : e.checkValid with
      | some cause => simp [Go.check, valid]
      | none => simp [Go.check, valid, eq_comm]

private theorem digits_decimal (number : Nat) (rest : List UInt8) :
    (decimal number ++ dot :: rest).takeWhile isDigit = decimal number ∧
      (decimal number ++ dot :: rest).dropWhile isDigit = dot :: rest := by
  have digits : ∀ byte ∈ decimal number, isDigit byte = true := fun byte => isDigit_of_mem_decimal
  have stop : ¬isDigit dot = true := by decide
  constructor
  · rw [takeWhile_append_of_pos digits, takeWhile_cons_of_neg stop, append_nil]
  · rw [dropWhile_append_of_pos digits, dropWhile_cons_of_neg stop]

theorem parseDigits_decimal {number : Nat} {value : UInt64} :
    parseDigits (decimal number) = .ok value ↔ number < 2 ^ 64 ∧ value = UInt64.ofNat number := by
  unfold parseDigits
  rw [parseUint_decimal]
  by_cases fits : number < 2 ^ 64
  · rw [if_pos fits]
    simp only [Except.ok.injEq, fits, true_and]
    exact eq_comm
  · rw [if_neg fits]
    constructor
    · intro impossible
      cases impossible
    · intro both
      exact absurd both.1 fits

theorem newIpnEndpoint_decimal (node service : Nat) :
    newIpnEndpoint (ascii "ipn:" ++ (decimal node ++ dot :: decimal service)) = (do
      let nodeNumber ← parseDigits (decimal node) let serviceNumber ← parseDigits (decimal service)
      Go.check (IpnEndpoint.checkValid ⟨nodeNumber, serviceNumber⟩) return .ipn ⟨nodeNumber, serviceNumber⟩) := by
  have tail : (ascii "ipn:" ++ (decimal node ++ dot :: decimal service)).drop 4 =
      decimal node ++ dot :: decimal service := rfl
  have start : (ascii "ipn:").isPrefixOf
      (ascii "ipn:" ++ (decimal node ++ dot :: decimal service)) = true := rfl
  have digits : (decimal service).all isDigit = true :=
    all_eq_true.mpr fun byte => isDigit_of_mem_decimal
  obtain ⟨before, after⟩ := digits_decimal node (decimal service)
  unfold newIpnEndpoint
  simp only [tail, before, after]
  rw [if_pos ⟨start, decimal_ne_nil node, trivial, decimal_ne_nil service, digits⟩]

private theorem checkValid_ofNat (nodeFits : node < 2 ^ 64) (serviceFits : service < 2 ^ 64) :
    IpnEndpoint.checkValid ⟨UInt64.ofNat node, UInt64.ofNat service⟩ = none ↔ 0 < node ∧
      0 < service := by
  rw [IpnEndpoint.checkValid_eq_none, UInt64.toNat_ofNat_of_lt' nodeFits,
    UInt64.toNat_ofNat_of_lt' serviceFits]

theorem newIpnEndpoint_eq_ok :
    newIpnEndpoint (ascii "ipn:" ++ (decimal node ++ dot :: decimal service)) = .ok endpoint ↔
      (0 < node ∧ node < 2 ^ 64) ∧ (0 < service ∧ service < 2 ^ 64) ∧
        endpoint = .ipn ⟨UInt64.ofNat node, UInt64.ofNat service⟩ := by
  rw [newIpnEndpoint_decimal]
  constructor
  · intro made
    obtain ⟨nodeNumber, nodeRead, made⟩ := bind_eq_ok.mp made
    obtain ⟨serviceNumber, serviceRead, made⟩ := bind_eq_ok.mp made
    obtain ⟨_, checked, made⟩ := bind_eq_ok.mp made
    obtain ⟨nodeFits, rfl⟩ := parseDigits_decimal.mp nodeRead
    obtain ⟨serviceFits, rfl⟩ := parseDigits_decimal.mp serviceRead
    have positive := (checkValid_ofNat nodeFits serviceFits).mp (check_eq_ok.mp checked)
    cases made
    exact ⟨⟨positive.1, nodeFits⟩, ⟨positive.2, serviceFits⟩, rfl⟩
  · rintro ⟨⟨nodePositive, nodeFits⟩, ⟨servicePositive, serviceFits⟩, rfl⟩
    have valid := (checkValid_ofNat nodeFits serviceFits).mpr ⟨nodePositive, servicePositive⟩
    rw [parseDigits_decimal.mpr ⟨nodeFits, rfl⟩, parseDigits_decimal.mpr ⟨serviceFits, rfl⟩,
      ok_bind, ok_bind, check_eq_ok.mpr valid]
    rfl

theorem newEndpointID_ipn :
    newEndpointID (ascii "ipn:" ++ (decimal node ++ dot :: decimal service)) = .ok eid ↔
      (0 < node ∧ node < 2 ^ 64) ∧ (0 < service ∧ service < 2 ^ 64) ∧
        eid = ⟨some (.ipn ⟨UInt64.ofNat node, UInt64.ofNat service⟩)⟩ := by
  let body := decimal node ++ dot :: decimal service
  have scheme : (ascii "ipn:" ++ body).takeWhile isAlnum = ascii "ipn" := rfl
  have rest : (ascii "ipn:" ++ body).dropWhile isAlnum = colon :: body := rfl
  have line : DtnEndpoint.newline ∉ body := by
    intro member
    rcases mem_append.mp member with digit | other
    · exact absurd (isDigit_of_mem_decimal digit) (by decide)
    · rcases mem_cons.mp other with same | digit
      · exact absurd same (by decide)
      · exact absurd (isDigit_of_mem_decimal digit) (by decide)
  have made : newEndpointID (ascii "ipn:" ++ body) =
      (fun endpoint => ⟨some endpoint⟩) <$> newIpnEndpoint (ascii "ipn:" ++ body) := by
    unfold newEndpointID
    simp only [scheme, rest]
    rw [if_pos ⟨by decide, trivial, by simp [body], line⟩, if_neg (by decide), if_pos trivial]
  rw [made]
  constructor
  · intro wrapped
    obtain ⟨endpoint, read, rfl⟩ := map_eq_ok.mp wrapped
    obtain ⟨nodeFits, serviceFits, rfl⟩ := newIpnEndpoint_eq_ok.mp read
    exact ⟨nodeFits, serviceFits, rfl⟩
  · rintro ⟨nodeFits, serviceFits, rfl⟩
    rw [newIpnEndpoint_eq_ok.mpr ⟨nodeFits, serviceFits, rfl⟩]
    rfl

theorem formed_of_newDtnEndpoint (read : newDtnEndpoint uri = .ok endpoint) :
    endpoint.WellFormed ∧ endpoint.checkValid = none := by
  unfold newDtnEndpoint at read
  split at read
  · obtain ⟨parsed, ssp, read⟩ := bind_eq_ok.mp read
    obtain ⟨_, checked, read⟩ := bind_eq_ok.mp read
    cases read
    exact ⟨DtnEndpoint.wellFormed_of_parseDtnSsp ssp, check_eq_ok.mp checked⟩
  · cases read

theorem formed_of_newIpnEndpoint (read : newIpnEndpoint uri = .ok endpoint) :
    endpoint.WellFormed ∧ endpoint.checkValid = none := by
  unfold newIpnEndpoint at read
  dsimp only at read
  split at read
  · split at read
    · obtain ⟨node, -, read⟩ := bind_eq_ok.mp read
      obtain ⟨number, -, read⟩ := bind_eq_ok.mp read
      obtain ⟨_, checked, read⟩ := bind_eq_ok.mp read
      cases read
      exact ⟨trivial, check_eq_ok.mp checked⟩
    · cases read
  · cases read

/-- A text that is read names a valid endpoint that its own text tells. -/
theorem formed_of_newEndpointID (read : newEndpointID uri = .ok eid) :
    eid.WellFormed ∧ eid.checkValid = none := by
  rcases newEndpointID_cases uri with dtn | ipn | ⟨cause, refused⟩
  · rw [dtn] at read
    obtain ⟨endpoint, made, rfl⟩ := map_eq_ok.mp read
    obtain ⟨formed, valid⟩ := formed_of_newDtnEndpoint made
    exact ⟨⟨endpoint, rfl, formed⟩, valid⟩
  · rw [ipn] at read
    obtain ⟨endpoint, made, rfl⟩ := map_eq_ok.mp read
    obtain ⟨formed, valid⟩ := formed_of_newIpnEndpoint made
    exact ⟨⟨endpoint, rfl, formed⟩, valid⟩
  · rw [refused] at read
    cases read

theorem checkValid_of_newEndpointID (read : newEndpointID uri = .ok eid) :
    eid.checkValid = none := (formed_of_newEndpointID read).2

/-- The text of a valid endpoint that its text tells is read as that endpoint. -/
theorem newEndpointID_string (formed : eid.WellFormed) (valid : eid.checkValid = none) :
    newEndpointID eid.string = .ok eid := by
  obtain ⟨endpoint⟩ := eid
  obtain ⟨endpoint, rfl, formed⟩ := formed
  cases endpoint with
  | dtn e =>
    have text : (⟨some (.dtn e)⟩ : EndpointID).string = e.string := rfl
    cases null : e.isDtnNone with
    | true =>
      have same : e = DtnEndpoint.none := by
        simpa [EndpointType.WellFormed, DtnEndpoint.WellFormed, null] using formed
      subst same
      have none : newEndpointID (ascii "dtn:" ++ ascii "none") = .ok ⟨some (.dtn DtnEndpoint.none)⟩ :=
        (newEndpointID_dtn (by decide)).mpr ⟨by decide, _, by rfl, by rfl, rfl⟩
      exact none
    | false =>
      have single : DtnEndpoint.newline ∉ e.ssp := e.newline_notMem_ssp null formed
      have named : e.ssp ≠ [] := by simp [DtnEndpoint.ssp]
      rw [text, DtnEndpoint.string, null]
      exact (newEndpointID_dtn named).mpr
        ⟨single, e, DtnEndpoint.parseDtnSsp_ssp e null formed, valid, rfl⟩
  | ipn e =>
    have text : (⟨some (.ipn e)⟩ : EndpointID).string =
        ascii "ipn:" ++ (decimal e.node.toNat ++ dot :: decimal e.service.toNat) := by
      simp [EndpointID.string, EndpointType.string, IpnEndpoint.string, ascii, dot]
    have positive := IpnEndpoint.checkValid_eq_none.mp valid
    rw [text, newEndpointID_ipn, UInt64.ofNat_toNat, UInt64.ofNat_toNat]
    exact ⟨⟨positive.1, e.node.toNat_lt⟩, ⟨positive.2, e.service.toNat_lt⟩, rfl⟩

section

variable [Cboring]

/-- The ways in which the daemon gets hold of an endpoint: from a text, or from
the wire with a check. -/
inductive EndpointID.Obtained (eid : EndpointID) : Prop where
  | text (uri : List UInt8) (read : newEndpointID uri = .ok eid)
  | wire (input rest : List UInt8) (read : unmarshalCbor.run input = .ok eid rest)
      (valid : eid.checkValid = none)

/-- Both forms of an endpoint are read as that endpoint, and nothing of what
follows its encoding is taken. -/
def EndpointID.ReadBack (eid : EndpointID) : Prop :=
  newEndpointID eid.string = .ok eid ∧
    ∃ written, eid.marshalCbor = .ok written ∧
      ∀ rest, unmarshalCbor.run (written ++ rest) = .ok eid rest

/-- Either source only gives valid endpoints that their texts tell. -/
theorem EndpointID.Obtained.formed (obtained : eid.Obtained) :
    eid.WellFormed ∧ eid.checkValid = none := by
  cases obtained with
  | text uri read => exact formed_of_newEndpointID read
  | wire input rest read valid =>
    obtain ⟨buffer, read⟩ := Reader.run_eq_ok.mp read
    exact ⟨unmarshalCbor_wellFormed read, valid⟩

theorem endpointID_readBack {eid : EndpointID} (obtained : eid.Obtained) : eid.ReadBack := by
  obtain ⟨formed, valid⟩ := obtained.formed
  obtain ⟨written, marshalled⟩ := marshalCbor_of_valid valid
  refine ⟨newEndpointID_string formed valid, written, marshalled, ?_⟩
  intro rest
  exact (reads_marshalCbor formed marshalled).run rest

end

section

attribute [local instance] standardCbor

/-- A text of each scheme, and the null endpoint from the wire. -/
theorem brokerEndpoints_readBack :
    (⟨some (.dtn ⟨ascii "broker", ascii "rec", false⟩)⟩ : EndpointID).ReadBack ∧
      (⟨some (.ipn ⟨23, 42⟩)⟩ : EndpointID).ReadBack ∧ dtnNone.ReadBack :=
  ⟨endpointID_readBack (.text (ascii "dtn://broker/rec") rfl),
    endpointID_readBack (.text (ascii "ipn:23.42") rfl),
    endpointID_readBack (.wire [0x82, 0x01, 0x00, 0xff] [0xff] rfl rfl)⟩

end

end RecDtn.Bpv7
