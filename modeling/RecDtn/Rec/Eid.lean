import Mathlib.Data.List.TakeWhile
import RecDtn.Lang.Python

namespace RecDtn.Rec

open Python List

namespace Eid

def dtnNone : Str := str "dtn:none"
def dtnPrefix : Str := str "dtn://"
def ipnPrefix : Str := str "ipn:"

/-- The class `[A-Za-z0-9-._~!$&'()*+,;=]`. -/
def isNodeLetter (letter : Char) : Bool :=
  letter.isAlphanum || (str "-._~!$&'()*+,;=").contains letter

/-- `$` matches before a newline at the end as well. -/
def chomp (text : Str) : Str := if text.getLast? = some '\n' then text.dropLast else text

/-- `_NODE_RE.match`, with its two alternatives. -/
def nodeRe (node : Str) : Bool := (chomp node).isEmpty || (chomp node).all isNodeLetter

/-- The texts `dtn://` node `/` service and `ipn:` node `.` service. -/
def dtnText (node service : Str) : Str := dtnPrefix ++ node ++ '/' :: service

def ipnText (node service : Int) : Str := ipnPrefix ++ intStr node ++ '.' :: intStr service

def normalizeDtn (ssp : Str) : Py Str :=
  if ssp = str "none" then raise .eidError "invalid DTN host: use 'dtn:none', not 'dtn://none'"
  else if ssp = [] then raise .eidError "invalid DTN EID: missing node"
  else
    let node := ssp.takeWhile (· != '/')
    let service := (ssp.dropWhile (· != '/')).drop 1
    if nodeRe node = false then raise .eidError s!"invalid DTN node '{String.ofList node}'"
    else if service = [] then .ok (dtnText node [])
    else if service.all isAscii = false then
      raise .eidError s!"invalid DTN service '{String.ofList service}'"
    else .ok (dtnText node service)

variable [Unicode]

def normalizeIpn (rest : Str) : Py Str :=
  if (str "//").isPrefixOf rest then
    raise .eidError "invalid IPN EID: must be 'ipn:N.S', not 'ipn://N.S'"
  else
    match rest.splitOn '.' with
    | [node, service] =>
      match parseInt node, parseInt service with
      | .error err, _ => raise .eidError s!"invalid IPN numbers: {err.text}"
      | _, .error err => raise .eidError s!"invalid IPN numbers: {err.text}"
      | .ok nodeNumber, .ok serviceNumber =>
        if nodeNumber < 1 then raise .eidError "IPN node must be >= 1"
        else if serviceNumber < 0 then raise .eidError "IPN service must be >= 0"
        else .ok (ipnText nodeNumber serviceNumber)
    | _ => raise .eidError "invalid IPN EID: need exactly one dot (node.service)"

/-- `_normalize`. -/
def normalize (eid : Str) : Py Str :=
  if eid = dtnNone then .ok eid
  else if dtnPrefix.isPrefixOf eid then normalizeDtn (eid.drop dtnPrefix.length)
  else if ipnPrefix.isPrefixOf eid then normalizeIpn (eid.drop ipnPrefix.length)
  else raise .eidError "unknown scheme (expected 'dtn:' or 'ipn:')"

end Eid

/-- An `EID` is what `_normalize` has returned for some text. -/
structure Eid [Unicode] where
  text : Str
  normal : ∃ value, Eid.normalize value = .ok text

variable {sep : Char} {front : Str}

namespace Eid

variable [Unicode]

@[ext] theorem ext {first second : Eid} (same : first.text = second.text) : first = second := by
  cases first
  cases second
  cases same
  rfl

instance : DecidableEq Eid := fun first second =>
  decidable_of_iff (first.text = second.text) ⟨ext, congrArg text⟩

/-- `EID(value)`. -/
def new (value : Str) : Py Eid :=
  match normal : normalize value with
  | .ok text => .ok ⟨text, value, normal⟩
  | .error err => .error err

/-- `EID.none()`. -/
def none : Eid := ⟨dtnNone, dtnNone, if_pos rfl⟩

/-- `BROADCAST_ADDRESS`. -/
def broadcastAddress : Eid := ⟨str "dtn://rec.all/~", str "dtn://rec.all/~", rfl⟩

/-- `DATASTORE_MULTICAST_ADDRESS`. -/
def datastoreMulticastAddress : Eid := ⟨str "dtn://rec.store/~", str "dtn://rec.store/~", rfl⟩

/-- The truth value of an endpoint ID. -/
def isSome (eid : Eid) : Bool := eid.text != dtnNone

/-- What `_normalize` makes of the texts that it accepts. -/
inductive Normal : Str → Str → Prop where
  | null : Normal dtnNone dtnNone
  | dtn {ssp : Str} (node service : Str) (name : nodeRe node = true) (single : '/' ∉ node)
      (letters : ∀ letter ∈ service, isAscii letter = true) (some : ssp ≠ [])
      (written : ssp = node ++ '/' :: service ∨ ssp = node ∧ service = []) :
      Normal (dtnPrefix ++ ssp) (dtnText node service)
  | ipn {rest : Str} (node service : Nat) (positive : 0 < node)
      (numbers : (rest.splitOn '.').map parseInt = [.ok (node : Int), .ok (service : Int)]) :
      Normal (ipnPrefix ++ rest) (ipnText node service)

variable {text rest value : Str} {node service : Nat}

theorem normal_normalizeDtn {ssp : Str} (normal : normalizeDtn ssp = .ok text) :
    Normal (dtnPrefix ++ ssp) text := by
  have single : '/' ∉ ssp.takeWhile (· != '/') := by
    intro member
    have kept := mem_takeWhile_imp member
    simp at kept
  -- without a slash the service is empty, and the normal text has one all the same
  have written : ssp = ssp.takeWhile (· != '/') ++ '/' :: (ssp.dropWhile (· != '/')).drop 1 ∨
      ssp = ssp.takeWhile (· != '/') ∧ (ssp.dropWhile (· != '/')).drop 1 = [] := by
    have parts := takeWhile_append_dropWhile (p := (· != '/')) (l := ssp)
    cases rest : ssp.dropWhile (· != '/') with
    | nil =>
      rw [rest, append_nil] at parts
      exact .inr ⟨parts.symm, rfl⟩
    | cons mark service =>
      have slash : mark = '/' := by
        have stopped := head_dropWhile_not (· != '/') (rest ▸ cons_ne_nil mark service)
        simpa [rest] using stopped
      rw [rest, slash] at parts
      exact .inl parts.symm
  unfold normalizeDtn at normal
  split at normal
  · cases normal
  split at normal
  · cases normal
  rename_i some
  simp only at normal
  split at normal
  · cases normal
  rename_i named
  have name : nodeRe (ssp.takeWhile (· != '/')) = true := by simpa using named
  split at normal
  · rename_i absent
    cases normal
    rw [absent] at written
    exact .dtn _ [] name single (by simp) some written
  split at normal
  · cases normal
  · rename_i letters
    cases normal
    exact .dtn _ _ name single (by simpa using letters) some written

theorem normal_normalizeIpn (normal : normalizeIpn rest = .ok text) :
    Normal (ipnPrefix ++ rest) text := by
  unfold normalizeIpn at normal
  split at normal
  · cases normal
  split at normal
  · rename_i nodeText serviceText parts
    split at normal
    · cases normal
    · cases normal
    · rename_i nodeNumber serviceNumber nodeRead serviceRead
      split at normal
      · cases normal
      split at normal
      · cases normal
      · rename_i small negative
        cases normal
        obtain ⟨node, rfl⟩ := Int.eq_ofNat_of_zero_le (show 0 ≤ nodeNumber by omega)
        obtain ⟨service, rfl⟩ := Int.eq_ofNat_of_zero_le (show 0 ≤ serviceNumber by omega)
        refine .ipn node service (by omega) ?_
        rw [parts, map_cons, map_cons, map_nil, nodeRead, serviceRead]
  · cases normal

theorem normal_normalize (normal : normalize value = .ok text) : Normal value text := by
  have split : ∀ {mark : Str}, mark.isPrefixOf value = true →
      mark ++ value.drop mark.length = value :=
    fun start => prefix_iff_eq_append.mp (List.isPrefixOf_iff_prefix.mp start)
  unfold normalize at normal
  split at normal
  · rename_i null
    cases normal
    rw [null]
    exact .null
  split at normal
  · rename_i start
    rw [← split start]
    exact normal_normalizeDtn normal
  split at normal
  · rename_i start
    rw [← split start]
    exact normal_normalizeIpn normal
  · cases normal

theorem normal_new {eid : Eid} (made : new value = .ok eid) : Normal value eid.text := by
  unfold new at made
  split at made
  · rename_i text normal
    cases made
    exact normal_normalize normal
  · cases made

section

omit [Unicode]

/-- A text is split where the separator first occurs. -/
theorem parts_of_single (single : sep ∉ front) (back : Str) :
    (front ++ sep :: back).takeWhile (· != sep) = front ∧
      (front ++ sep :: back).dropWhile (· != sep) = sep :: back := by
  have letter : ∀ other ∈ front, (other != sep) = true := by
    intro other member
    rw [bne_iff_ne]
    rintro rfl
    exact single member
  have stop : ¬(sep != sep) = true := by
    rw [bne_self_eq_false]
    exact Bool.false_ne_true
  constructor
  · rw [takeWhile_append_of_pos letter, takeWhile_cons_of_neg (p := (· != sep)) stop, append_nil]
  · rw [dropWhile_append_of_pos letter, dropWhile_cons_of_neg (p := (· != sep)) stop]

theorem normalizeDtn_normal {node service : Str} (name : nodeRe node = true) (single : '/' ∉ node)
    (letters : ∀ letter ∈ service, isAscii letter = true) :
    normalizeDtn (node ++ '/' :: service) = .ok (dtnText node service) := by
  have named : node ++ '/' :: service ≠ str "none" := by
    intro same
    have slash : '/' ∈ str "none" := same ▸ mem_append_right node mem_cons_self
    exact absurd slash (by decide)
  have nonempty : node ++ '/' :: service ≠ [] := append_ne_nil_of_right_ne_nil _ (cons_ne_nil _ _)
  obtain ⟨before, after⟩ := parts_of_single single service
  have plain : service.all isAscii = true := all_eq_true.mpr letters
  unfold normalizeDtn
  rw [if_neg named, if_neg nonempty]
  dsimp only
  rw [before, after, name, if_neg (by decide), drop_one, tail_cons]
  split
  · rename_i absent
    rw [absent]
  · rw [plain, if_neg (by decide)]

theorem isDigit_of_mem_intStr {number : Nat} {letter : Char} (member : letter ∈ intStr number) :
    letter.isDigit = true := by
  have text : intStr number = Nat.toDigits 10 number := by
    simp [intStr]
  rw [text] at member
  exact Nat.isDigit_of_mem_toDigits (by decide) (by decide) member

theorem dot_notMem_intStr (number : Nat) : '.' ∉ intStr number := by
  intro member
  exact absurd (isDigit_of_mem_intStr member) (by decide)

end

theorem fits_of_numbers
    (numbers : (rest.splitOn '.').map parseInt = [.ok (node : Int), .ok (service : Int)]) :
    node < 10 ^ maxStrDigits ∧ service < 10 ^ maxStrDigits := by
  have fits : ∀ number : Nat, .ok (number : Int) ∈ (rest.splitOn '.').map parseInt →
      number < 10 ^ maxStrDigits := by
    intro number member
    obtain ⟨part, -, parsed⟩ := mem_map.mp member
    exact natAbs_lt_of_parseInt parsed
  rw [numbers] at fits
  exact ⟨fits node mem_cons_self, fits service (mem_cons_of_mem _ mem_cons_self)⟩

variable [DecimalDigits]

theorem normalizeIpn_normal (positive : 0 < node) (nodeFits : node < 10 ^ maxStrDigits)
    (serviceFits : service < 10 ^ maxStrDigits) :
    normalizeIpn (intStr node ++ '.' :: intStr service) = .ok (ipnText node service) := by
  have undotted : ∀ number : Nat, ∀ letter ∈ intStr number, (letter == '.') = false := by
    intro number letter member
    rw [beq_eq_false_iff_ne]
    rintro rfl
    exact dot_notMem_intStr number member
  have parts : (intStr node ++ '.' :: intStr service).splitOn '.' =
      [intStr node, intStr service] := by
    rw [List.splitOn, splitOnP_append_cons_of_forall_mem (undotted node) '.' (by decide),
      splitOnP_eq_singleton (undotted service)]
  have short : ¬(str "//").isPrefixOf (intStr node ++ '.' :: intStr service) = true := by
    intro start
    obtain ⟨rest, same⟩ := isPrefixOf_iff_prefix.mp start
    have slash : '/' ∈ intStr node ++ '.' :: intStr service :=
      same ▸ mem_append_left rest mem_cons_self
    rcases mem_append.mp slash with digit | other
    · exact absurd (isDigit_of_mem_intStr digit) (by decide)
    · rcases mem_cons.mp other with dot | digit
      · exact absurd dot (by decide)
      · exact absurd (isDigit_of_mem_intStr digit) (by decide)
  unfold normalizeIpn
  rw [if_neg short, parts]
  dsimp only
  rw [parseInt_intStr nodeFits, parseInt_intStr serviceFits]
  dsimp only
  rw [if_neg (by omega), if_neg (by omega)]

section

omit [Unicode]

theorem dtnText_ne_dtnNone (node service : Str) : dtnText node service ≠ dtnNone := by
  intro same
  exact absurd (congrArg (List.take 5) same) (by simp [dtnText, dtnPrefix, dtnNone, str])

theorem ipnText_ne_dtnNone (node service : Int) : ipnText node service ≠ dtnNone := by
  intro same
  exact absurd (congrArg List.head? same) (by simp [ipnText, ipnPrefix, dtnNone, str])

theorem isPrefixOf_dtnText (node service : Str) :
    dtnPrefix.isPrefixOf (dtnText node service) = true := by
  rw [dtnText, append_assoc]
  exact isPrefixOf_iff_prefix.mpr (prefix_append _ _)

theorem isPrefixOf_ipnText (node service : Int) :
    ipnPrefix.isPrefixOf (ipnText node service) = true := by
  rw [ipnText, append_assoc]
  exact isPrefixOf_iff_prefix.mpr (prefix_append _ _)

theorem not_isPrefixOf_ipnText (node service : Int) :
    ¬dtnPrefix.isPrefixOf (ipnText node service) = true := by
  simp [ipnText, dtnPrefix, ipnPrefix, str, List.isPrefixOf]

theorem drop_dtnText (node service : Str) :
    (dtnText node service).drop dtnPrefix.length = node ++ '/' :: service := by
  rw [dtnText, append_assoc, drop_left]

theorem drop_ipnText (node service : Int) :
    (ipnText node service).drop ipnPrefix.length = intStr node ++ '.' :: intStr service := by
  rw [ipnText, append_assoc, drop_left]

end

theorem normalize_of_normal (normal : Normal value text) : normalize text = .ok text := by
  cases normal with
  | null => exact if_pos rfl
  | dtn node service name single letters some written =>
    rw [normalize, if_neg (dtnText_ne_dtnNone node service),
      if_pos (isPrefixOf_dtnText node service), drop_dtnText,
      normalizeDtn_normal name single letters]
  | ipn node service positive numbers =>
    obtain ⟨nodeFits, serviceFits⟩ := fits_of_numbers numbers
    rw [normalize, if_neg (ipnText_ne_dtnNone node service),
      if_neg (not_isPrefixOf_ipnText node service),
      if_pos (isPrefixOf_ipnText node service), drop_ipnText,
      normalizeIpn_normal positive nodeFits serviceFits]

theorem new_text (eid : Eid) : new eid.text = .ok eid := by
  obtain ⟨value, normal⟩ := eid.normal
  have again := normalize_of_normal (normal_normalize normal)
  unfold new
  split
  · rename_i text read
    rw [again] at read
    cases read
    rfl
  · rename_i err failed
    rw [again] at failed
    cases failed

end Eid

/-- `text.split(sep, 1)`. -/
def splitOnce (sep : Char) (text : Str) : List Str :=
  match text.dropWhile (· != sep) with
  | [] => [text]
  | _ :: after => [text.takeWhile (· != sep), after]

/-- `parts[index]`. -/
def itemAt (parts : List Str) (index : Nat) : Py Str :=
  match parts[index]? with
  | some text => .ok text
  | none => raise .indexError "list index out of range"

def formatInt (number : Int) : Py Str :=
  if 10 ^ maxStrDigits ≤ number.natAbs then
    raise .valueError s!"Exceeds the limit ({maxStrDigits} digits) for integer string conversion"
  else .ok (intStr number)

theorem splitOnce_of_single (single : sep ∉ front) (back : Str) :
    splitOnce sep (front ++ sep :: back) = [front, back] := by
  obtain ⟨before, after⟩ := Eid.parts_of_single single back
  rw [splitOnce, before, after]

namespace Eid

variable [Unicode] (eid : Eid)

/-- The parts of a normal form, `None` for `dtn:none`. -/
def partOf (index : Nat) : Py (Option Str) :=
  if eid.text = dtnNone then .ok .none
  else if dtnPrefix.isPrefixOf eid.text then some <$>
    itemAt (splitOnce '/' (eid.text.drop dtnPrefix.length)) index
  else some <$> itemAt (splitOnce '.' (eid.text.drop ipnPrefix.length)) index

def node : Py (Option Str) := eid.partOf 0

def service : Py (Option Str) := eid.partOf 1

/-- `EID.dtn(node, service)`. -/
def dtn (node : Str) (service : Option Str) : Py Eid :=
  let service := if service = some [] then .none else service
  if nodeRe node = false then raise .eidError s!"invalid DTN node '{String.ofList node}'"
  else
    match service with
    | .none => new (dtnText node [])
    | some service =>
      if service.all isAscii = false then raise .eidError s!"invalid DTN service '{String.ofList service}'"
      else new (dtnText node service)

/-- `EID.ipn(node_number, service_number)`. -/
def ipn (nodeNumber serviceNumber : Int) : Py Eid :=
  if nodeNumber < 1 then raise .eidError "IPN node must be >= 1"
  else if serviceNumber < 0 then raise .eidError "IPN service must be >= 0"
  else do
    let node ← formatInt nodeNumber
    let service ← formatInt serviceNumber
    new (ipnPrefix ++ node ++ '.' :: service)

/-- An endpoint ID is `dtn:none`, or what the constructor of its scheme makes of its
own parts. -/
inductive Rebuilt : Prop where
  | null (same : eid = none)
  | dtn (node service : Str) (scheme : dtnPrefix <+: eid.text) (nodeRead : eid.node = .ok (some node))
      (serviceRead : eid.service = .ok (some service)) (made : Eid.dtn node (some service) = .ok eid)
  | ipn (node service : Str) (nodeNumber serviceNumber : Int) (scheme : ipnPrefix <+: eid.text)
      (nodeRead : eid.node = .ok (some node)) (serviceRead : eid.service = .ok (some service))
      (nodeParsed : parseInt node = .ok nodeNumber) (serviceParsed : parseInt service = .ok serviceNumber)
      (made : Eid.ipn nodeNumber serviceNumber = .ok eid)

variable {eid} {node service : Str}

theorem parts_of_dtnText (single : '/' ∉ node) (text : eid.text = dtnText node service) :
    eid.node = .ok (some node) ∧ eid.service = .ok (some service) := by
  have split : ∀ index, eid.partOf index = some <$> itemAt [node, service] index := by
    intro index
    rw [partOf, text, if_neg (dtnText_ne_dtnNone node service),
      if_pos (isPrefixOf_dtnText node service), drop_dtnText, splitOnce_of_single single]
  exact ⟨split 0, split 1⟩

theorem parts_of_ipnText {node service : Nat} (text : eid.text = ipnText node service) :
    eid.node = .ok (some (intStr node)) ∧ eid.service = .ok (some (intStr service)) := by
  have split : ∀ index, eid.partOf index = some <$> itemAt [intStr node, intStr service] index := by
    intro index
    rw [partOf, text, if_neg (ipnText_ne_dtnNone node service),
      if_neg (not_isPrefixOf_ipnText node service),
      drop_ipnText, splitOnce_of_single (dot_notMem_intStr node)]
  exact ⟨split 0, split 1⟩

/-- An empty service is written like none. -/
theorem dtn_eq_new (name : nodeRe node = true)
    (letters : ∀ letter ∈ service, isAscii letter = true) :
    dtn node (some service) = new (dtnText node service) := by
  have plain : service.all isAscii = true := all_eq_true.mpr letters
  unfold dtn
  dsimp only
  rw [name, if_neg (by decide)]
  by_cases empty : service = []
  · rw [empty, if_pos rfl]
  · rw [if_neg (fun same => empty (Option.some.inj same))]
    dsimp only
    rw [plain, if_neg (by decide)]

theorem ipn_eq_new {node service : Nat} (positive : 0 < node) (nodeFits : node < 10 ^ maxStrDigits)
    (serviceFits : service < 10 ^ maxStrDigits) : ipn node service = new (ipnText node service) := by
  have written : ∀ {number : Nat}, number < 10 ^ maxStrDigits →
      formatInt number = .ok (intStr number) := by
    intro number fits
    rw [formatInt, Int.natAbs_natCast, if_neg (Nat.not_le.mpr fits)]
  rw [ipn, if_neg (by omega), if_neg (by omega), written nodeFits, written serviceFits]
  rfl

/-- Every text that is accepted lands on a fixed point, which its own parts make
again. -/
theorem rebuilt_of_new [DecimalDigits] {value : Str} {eid : Eid} (made : new value = .ok eid) :
    new eid.text = .ok eid ∧ eid.Rebuilt := by
  have again := new_text eid
  have normal := normal_new made
  refine ⟨again, ?_⟩
  generalize shape : eid.text = text at normal again
  cases normal with
  | null => exact .null (Eid.ext shape)
  | dtn node service name single letters _ _ =>
    obtain ⟨nodeRead, serviceRead⟩ := parts_of_dtnText single shape
    refine .dtn node service ?_ nodeRead serviceRead ?_
    · rw [shape]
      exact isPrefixOf_iff_prefix.mp (isPrefixOf_dtnText node service)
    · rw [dtn_eq_new name letters, again]
  | ipn node service positive numbers =>
    obtain ⟨nodeRead, serviceRead⟩ := parts_of_ipnText shape
    obtain ⟨nodeFits, serviceFits⟩ := fits_of_numbers numbers
    refine .ipn _ _ node service ?_ nodeRead serviceRead (parseInt_intStr nodeFits)
      (parseInt_intStr serviceFits) ?_
    · rw [shape]
      exact isPrefixOf_iff_prefix.mp (isPrefixOf_ipnText node service)
    · rw [ipn_eq_new positive nodeFits serviceFits, again]

end Eid

open scoped Samples

/-- A service with slashes, and numbers in an odd spelling. -/
theorem spelledEids_rebuilt :
    (∃ eid, Eid.new (str "dtn://store1//a/b") = .ok eid ∧ eid.text = str "dtn://store1//a/b" ∧
      eid.Rebuilt) ∧
      ∃ eid, Eid.new (str "ipn: +007.1_0") = .ok eid ∧ eid.text = str "ipn:7.10" ∧ eid.Rebuilt := by
  have slashes : Eid.new (str "dtn://store1//a/b") =
      .ok ⟨str "dtn://store1//a/b", str "dtn://store1//a/b", rfl⟩ := rfl
  have numbers : Eid.new (str "ipn: +007.1_0") =
      .ok ⟨str "ipn:7.10", str "ipn: +007.1_0", rfl⟩ := rfl
  exact ⟨⟨_, slashes, rfl, (Eid.rebuilt_of_new slashes).2⟩,
    ⟨_, numbers, rfl, (Eid.rebuilt_of_new numbers).2⟩⟩

end RecDtn.Rec
