import Mathlib.Algebra.Group.Nat.Defs
import Mathlib.Data.List.Basic

namespace RecDtn.Python

open List Option

/-- A text as its characters. Lone surrogates are left out; they do not occur
in what has been decoded from UTF-8. -/
abbrev Str := List Char

def str (literal : String) : Str := literal.toList

/-- `encode("utf-8")`. -/
def utf8 (text : Str) : List UInt8 := text.flatMap String.utf8EncodeChar

def isAscii (letter : Char) : Bool := letter.toNat < 128

/-- An ASCII letter is one byte, its code. -/
theorem utf8_of_ascii {text : Str} (letters : ∀ letter ∈ text, isAscii letter = true) :
    utf8 text = text.map fun letter => letter.toNat.toUInt8 := by
  induction text with
  | nil => rfl
  | cons letter rest ih =>
    have small : letter.val.toNat ≤ 127 := by
      have bound := letters letter mem_cons_self
      simp only [isAscii, decide_eq_true_eq] at bound
      exact Nat.le_of_lt_succ bound
    have single : String.utf8EncodeChar letter = [letter.toNat.toUInt8] := by
      simp only [String.utf8EncodeChar, if_pos small]
      rfl
    rw [utf8, flatMap_cons, single, map_cons]
    exact congrArg (_ :: ·) (ih fun other member => letters other (mem_cons_of_mem _ member))

theorem utf8_append (first second : Str) : utf8 (first ++ second) = utf8 first ++ utf8 second :=
  flatMap_append

/-- `decode("utf-8")`. -/
def decodeUtf8 (bytes : List UInt8) : Option Str := bytes.toByteArray.utf8Decode?.map Array.toList

theorem decodeUtf8_utf8 (text : Str) : decodeUtf8 (utf8 text) = some text := by
  change text.utf8Encode.utf8Decode?.map Array.toList = some text
  rw [List.utf8Decode?_utf8Encode]
  rfl

theorem utf8_injective : Function.Injective utf8 := by
  intro first second same
  have decoded := congrArg decodeUtf8 same
  rw [decodeUtf8_utf8, decodeUtf8_utf8] at decoded
  exact Option.some.inj decoded

inductive ExceptionClass where
  | typeError
  | valueError
  | assertionError
  | keyError
  | indexError
  | runtimeError
  | fileNotFoundError
  | osError
  | eidError
  | invalidMessageError
  | invalidBundleError
  | nameTakenError
  | noSuchNameError
  deriving DecidableEq

/-- An exception that has been raised, with its text. -/
structure PyError where
  type : ExceptionClass
  text : String
  deriving DecidableEq

/-- A call that returns or raises. -/
abbrev Py (α : Type) := Except PyError α

def raise {α : Type} (type : ExceptionClass) (text : String) : Py α := .error ⟨type, text⟩

/-- The character database: digits of any script, and whitespace. -/
class Unicode where
  digit : Char → Option Nat
  isSpace : Char → Bool
  digit_lt : ∀ letter value, digit letter = some value → value < 10

@[reducible] def Unicode.ofAscii : Unicode where
  digit letter := if letter.isDigit then some (letter.toNat - 48) else none
  isSpace letter := letter.isWhitespace
  digit_lt := by
    intro letter value read
    split at read
    · rename_i digit
      simp only [Char.isDigit, Bool.and_eq_true, decide_eq_true_eq, UInt32.le_iff_toNat_le] at digit
      cases read
      have upper : letter.val.toNat ≤ 57 := digit.2
      simp only [Char.toNat]
      omega
    · cases read

/-- Digits, with single underscores between them. -/
def digitValues [Unicode] : Str → Option (List Nat)
  | [] => none
  | [last] => do return [← Unicode.digit last]
  | letter :: '_' :: rest => do return (← Unicode.digit letter) :: (← digitValues rest)
  | letter :: rest => do return (← Unicode.digit letter) :: (← digitValues rest)

def strip [Unicode] (text : Str) : Str :=
  ((text.dropWhile Unicode.isSpace).reverse.dropWhile Unicode.isSpace).reverse

/-- The most digits that a conversion accepts. -/
def maxStrDigits : Nat := 4300

/-- `int(text, 10)`. -/
def parseInt [Unicode] (text : Str) : Py Int :=
  let (sign, digits) : Int × Str :=
    match strip text with
    | '+' :: rest => (1, rest)
    | '-' :: rest => (-1, rest)
    | rest => (1, rest)
  match digitValues digits with
  | none => raise .valueError s!"invalid literal for int() with base 10: '{String.ofList text}'"
  | some values =>
    if maxStrDigits < values.length then
      raise .valueError s!"Exceeds the limit ({maxStrDigits} digits) for integer string conversion"
    else .ok (sign * ((values.foldl (fun number value => 10 * number + value) 0 : Nat) : Int))

/-- The text of a number. -/
def intStr (number : Int) : Str :=
  (if number < 0 then ['-'] else []) ++ Nat.toDigits 10 number.natAbs

/-- The ten digits of ASCII are digits, and no whitespace. -/
class DecimalDigits [Unicode] : Prop where
  digit : ∀ letter : Char, letter.isDigit = true → Unicode.digit letter = some (letter.toNat - 48)
  isSpace : ∀ letter : Char, letter.isDigit = true → Unicode.isSpace letter = false

theorem DecimalDigits.ofAscii : @DecimalDigits Unicode.ofAscii :=
  @DecimalDigits.mk Unicode.ofAscii (fun _ digit => if_pos digit) (by
    intro letter digit
    simp only [Char.isDigit, Bool.and_eq_true, decide_eq_true_eq, UInt32.le_iff_toNat_le] at digit
    have lower : 48 ≤ letter.val.toNat := digit.1
    change letter.isWhitespace = false
    simp only [Char.isWhitespace, Bool.or_eq_false_iff, decide_eq_false_iff_not]
    refine ⟨⟨⟨?_, ?_⟩, ?_⟩, ?_⟩
    all_goals
      rintro rfl
      exact absurd lower (by decide))

section Decimal

variable [Unicode] {text : Str} {values : List Nat}

theorem digitValues_lt (read : digitValues text = some values) :
    ∀ value ∈ values, value < 10 := by
  induction text using digitValues.induct generalizing values with
  | case1 => cases read
  | case2 last =>
    obtain ⟨value, digit, read⟩ := bind_eq_some_iff.mp read
    cases read
    exact forall_mem_singleton.mpr (Unicode.digit_lt last value digit)
  | case3 letter rest ih =>
    obtain ⟨value, digit, read⟩ := bind_eq_some_iff.mp read
    obtain ⟨later, others, read⟩ := bind_eq_some_iff.mp read
    cases read
    exact forall_mem_cons.mpr ⟨Unicode.digit_lt letter value digit, ih others⟩
  | case4 letter rest _ _ ih =>
    rw [digitValues] at read
    · obtain ⟨value, digit, read⟩ := bind_eq_some_iff.mp read
      obtain ⟨later, others, read⟩ := bind_eq_some_iff.mp read
      cases read
      exact forall_mem_cons.mpr ⟨Unicode.digit_lt letter value digit, ih others⟩
    · assumption
    · assumption

omit [Unicode] in
theorem foldl_digits_lt (small : ∀ value ∈ values, value < 10) (start : Nat) :
    values.foldl (fun number value => 10 * number + value) start <
      (start + 1) * 10 ^ values.length := by
  induction values generalizing start with
  | nil => exact Nat.lt_of_lt_of_eq (Nat.lt_succ_self start) (Nat.mul_one _).symm
  | cons first rest ih =>
    have bound := small first mem_cons_self
    have later := ih (fun value member => small value (mem_cons_of_mem _ member)) (10 * start + first)
    refine Nat.lt_of_lt_of_le later ?_
    rw [length_cons, Nat.pow_succ', ← Nat.mul_assoc]
    exact Nat.mul_le_mul_right _ (by omega)

/-- A number that has been read has no more digits than may be read. -/
theorem natAbs_lt_of_parseInt {number : Int} (parsed : parseInt text = .ok number) :
    number.natAbs < 10 ^ maxStrDigits := by
  have bound : ∀ (sign : Int) (digits : Str), sign.natAbs = 1 →
      (match digitValues digits with
        | none => raise .valueError s!"invalid literal for int() with base 10: '{String.ofList text}'"
        | some values =>
          if maxStrDigits < values.length then
            raise .valueError s!"Exceeds the limit ({maxStrDigits} digits) for integer string conversion"
          else .ok (sign * ((values.foldl (fun number value => 10 * number + value) 0 : Nat) : Int))) =
        Except.ok number → number.natAbs < 10 ^ maxStrDigits := by
    intro sign digits unit read
    split at read
    · cases read
    · rename_i values found
      split at read
      · cases read
      · rename_i short
        cases read
        rw [Int.natAbs_mul, unit, Nat.one_mul, Int.natAbs_natCast]
        have few := foldl_digits_lt (digitValues_lt found) 0
        rw [Nat.zero_add, Nat.one_mul] at few
        exact Nat.lt_of_lt_of_le few (Nat.pow_le_pow_right (by decide) (Nat.le_of_not_lt short))
  unfold parseInt at parsed
  split at parsed
  rename_i sign digits signed
  refine bound sign digits ?_ parsed
  split at signed
  all_goals
    cases signed
    rfl

variable [DecimalDigits]

theorem digitValues_of_digits (some : text ≠ [])
    (digits : ∀ letter ∈ text, letter.isDigit = true) :
    digitValues text = .some (text.map fun letter => letter.toNat - 48) := by
  induction text with
  | nil => exact absurd rfl some
  | cons letter rest ih =>
    have first := DecimalDigits.digit letter (digits letter mem_cons_self)
    cases rest with
    | nil =>
      rw [digitValues, first]
      rfl
    | cons next rest =>
      have later := ih (cons_ne_nil next rest) (fun other member => digits other (mem_cons_of_mem _ member))
      have mark : next ≠ '_' := by
        rintro rfl
        have digit := digits '_' (mem_cons_of_mem _ mem_cons_self)
        exact absurd digit (by decide)
      rw [digitValues, first, later]
      · rfl
      · intro same
        exact absurd same (cons_ne_nil next rest)
      · intro _ same
        exact mark (List.cons.inj same).1

theorem strip_of_digits (digits : ∀ letter ∈ text, letter.isDigit = true) :
    strip text = text := by
  have kept : ∀ letters : Str, (∀ letter ∈ letters, letter.isDigit = true) →
      letters.dropWhile Unicode.isSpace = letters := by
    intro letters all
    cases letters with
    | nil => rfl
    | cons letter rest =>
      rw [dropWhile_cons_of_neg]
      rw [DecimalDigits.isSpace letter (all letter mem_cons_self)]
      decide
  rw [strip, kept text digits, kept text.reverse, reverse_reverse]
  intro letter member
  exact digits letter (mem_reverse.mp member)

theorem parseInt_intStr {number : Nat} (fits : number < 10 ^ maxStrDigits) :
    parseInt (intStr number) = .ok (number : Int) := by
  have text : intStr number = Nat.toDigits 10 number := by
    simp [intStr]
  have digits : ∀ letter ∈ Nat.toDigits 10 number, letter.isDigit = true := fun letter member =>
    Nat.isDigit_of_mem_toDigits (by decide) (by decide) member
  have some : Nat.toDigits 10 number ≠ [] := Nat.toDigits_ne_nil
  have short : (Nat.toDigits 10 number).length ≤ maxStrDigits :=
    (Nat.length_toDigits_le_iff (by decide) (by decide)).mpr fits
  have unsigned : ∀ mark rest, Nat.toDigits 10 number = mark :: rest → mark ≠ '+' ∧
      mark ≠ '-' := by
    intro mark rest same
    have digit := digits mark (same ▸ mem_cons_self)
    constructor
    · rintro rfl
      exact absurd digit (by decide)
    · rintro rfl
      exact absurd digit (by decide)
  have value : ∀ (letters : Str) (start : Nat), (letters.map fun letter => letter.toNat - 48).foldl
      (fun number value => 10 * number + value) start = Nat.ofDigitChars 10 letters start := by
    intro letters
    induction letters with
    | nil =>
      intro start
      rfl
    | cons letter rest ih =>
      intro start
      rw [map_cons, foldl_cons, Nat.ofDigitChars_cons]
      exact ih _
  rw [text, parseInt, strip_of_digits digits]
  split
  rename_i sign rest signed
  split at signed
  · rename_i first
    exact absurd rfl (unsigned _ _ first).1
  · rename_i first
    exact absurd rfl (unsigned _ _ first).2
  · cases signed
    rw [digitValues_of_digits some digits]
    dsimp only
    rw [length_map, if_neg (Nat.not_lt.mpr short), value, Nat.ofDigitChars_ten_toDigits, Int.one_mul]

end Decimal

/-- `str(data)` of a byte string is its literal. -/
def bytesStr (data : List UInt8) : Str :=
  let quote : UInt8 := if data.contains 39 && !data.contains 34 then 34 else 39
  let letter (byte : UInt8) := Char.ofNat byte.toNat
  let escaped (byte : UInt8) : Str :=
    if byte = quote ∨ byte = 92 then str "\\" ++ [letter byte]
    else if byte = 9 then str "\\t"
    else if byte = 10 then str "\\n"
    else if byte = 13 then str "\\r"
    else if byte < 32 ∨ 127 ≤ byte then
      str "\\x" ++ [Nat.digitChar (byte.toNat / 16), Nat.digitChar (byte.toNat % 16)]
    else [letter byte]
  'b' :: letter quote :: data.flatMap escaped ++ [letter quote]

/-- The order in which the members of a set are visited. The language leaves it
open. -/
structure SetOrder (α : Type) where
  visit : List α → List α
  perm : ∀ members, (visit members).Perm members

namespace SetOrder

def asStored {α : Type} : SetOrder α := ⟨id, .refl⟩

@[simp] theorem mem_visit {α : Type} (order : SetOrder α) (members : List α) (member : α) :
    member ∈ order.visit members ↔ member ∈ members :=
  (order.perm members).mem_iff

end SetOrder

/-- The names of a function's parameters, and whether they have a default. -/
structure Signature where
  name : String
  parameters : List (String × Bool)

/-- A list of names as the interpreter words it. -/
def quoted : List String → String
  | [] => ""
  | [last] => s!"'{last}'"
  | [first, last] => s!"'{first}' and '{last}'"
  | [first, second, last] => s!"'{first}', '{second}', and '{last}'"
  | first :: rest => s!"'{first}', " ++ quoted rest

/-- A call with keyword arguments only: each has to name a parameter, and a
parameter without a default has to be named. -/
def Signature.check (signature : Signature) (keywords : List Str) : Py Unit :=
  match keywords.find? fun keyword =>
      !(signature.parameters.map fun parameter => str parameter.1).contains keyword with
  | some keyword => raise .typeError
    s!"{signature.name}() got an unexpected keyword argument '{String.ofList keyword}'"
  | none =>
    match (signature.parameters.filter fun parameter =>
        !parameter.2 && !keywords.contains (str parameter.1)).map Prod.fst with
    | [] => .ok ()
    | [name] =>
      raise .typeError s!"{signature.name}() missing 1 required positional argument: '{name}'"
    | names => raise .typeError
      s!"{signature.name}() missing {names.length} required positional arguments: {quoted names}"

end RecDtn.Python

namespace RecDtn.Samples

attribute [scoped instance] Python.Unicode.ofAscii Python.DecimalDigits.ofAscii

end RecDtn.Samples
