import Mathlib.Algebra.Group.Nat.Defs
import Mathlib.Data.List.Basic

namespace RecDtn.Lang

open List

def ascii (text : String) : List UInt8 := text.toList.map fun letter => letter.toNat.toUInt8

/-- `%d` of an unsigned number. -/
def decimal (number : Nat) : List UInt8 :=
  (Nat.toDigits 10 number).map fun letter => letter.toNat.toUInt8

/-- `%X` of an unsigned number. -/
def hexUpper (number : Nat) : String := String.ofList ((Nat.toDigits 16 number).map Char.toUpper)

/-- `%x` of a byte slice: two digits a byte. -/
def hexBytes (bytes : List UInt8) : String :=
  String.ofList (bytes.flatMap fun byte =>
    [Nat.digitChar (byte.toNat / 16), Nat.digitChar (byte.toNat % 16)])

/-- A byte text inside a message, one character a byte. -/
def display (text : List UInt8) : String := String.ofList (text.map fun byte => Char.ofNat byte.toNat)

def isDigit (byte : UInt8) : Bool := 48 ≤ byte && byte ≤ 57

def decimalValue (digits : List UInt8) : Nat :=
  digits.foldl (fun value digit => 10 * value + (digit.toNat - 48)) 0

/-- `strconv.ParseUint(text, 10, 64)`: digits only, and the value has to fit. -/
def parseUint (text : List UInt8) : Option UInt64 :=
  if text ≠ [] ∧ text.all isDigit = true ∧ decimalValue text < 2 ^ 64 then
    some (UInt64.ofNat (decimalValue text))
  else none

private theorem toUInt8_digit (letter : Char) (digit : letter.isDigit = true) :
    (letter.toNat.toUInt8).toNat = letter.toNat := by
  have bounds : 48 ≤ letter.toNat ∧ letter.toNat ≤ 57 := by
    simpa [Char.isDigit, UInt32.le_iff_toNat_le] using digit
  simp only [Nat.toUInt8, UInt8.toNat_ofNat']
  omega

private theorem isDigit_toDigits {letter : Char} (member : letter ∈ Nat.toDigits 10 number) :
    letter.isDigit = true :=
  Nat.isDigit_of_mem_toDigits (by decide) (by decide) member

theorem isDigit_of_mem_decimal {byte : UInt8} (member : byte ∈ decimal number) :
    isDigit byte = true := by
  obtain ⟨letter, present, same⟩ := mem_map.mp member
  have digit := isDigit_toDigits present
  have code := toUInt8_digit letter digit
  have bounds : 48 ≤ letter.toNat ∧ letter.toNat ≤ 57 := by
    simpa [Char.isDigit, UInt32.le_iff_toNat_le] using digit
  subst same
  simp only [isDigit, Bool.and_eq_true, decide_eq_true_eq, UInt8.le_iff_toNat_le, code]
  exact bounds

theorem decimalValue_decimal (number : Nat) : decimalValue (decimal number) = number := by
  -- The byte fold is the library's character fold, digit by digit.
  have folds : ∀ (letters : List Char) (start : Nat),
      (∀ letter ∈ letters, letter.isDigit = true) →
      (letters.map fun letter => letter.toNat.toUInt8).foldl
        (fun value digit => 10 * value + (digit.toNat - 48)) start =
      Nat.ofDigitChars 10 letters start := by
    intro letters
    induction letters with
    | nil => intro start _; rfl
    | cons letter rest ih =>
      intro start digits
      rw [map_cons, foldl_cons, Nat.ofDigitChars_cons, toUInt8_digit letter (digits letter (by simp))]
      exact ih _ (fun other member => digits other (by simp [member]))
  rw [decimalValue, decimal, folds _ _ (fun letter member => isDigit_toDigits member)]
  exact Nat.ofDigitChars_ten_toDigits

theorem decimal_injective (same : decimal first = decimal second) : first = second := by
  rw [← decimalValue_decimal first, same, decimalValue_decimal]

theorem decimal_ne_nil (number : Nat) : decimal number ≠ [] := by
  simp [decimal]

theorem parseUint_decimal (number : Nat) :
    parseUint (decimal number) = if number < 2 ^ 64 then some (UInt64.ofNat number) else none := by
  have digits : (decimal number).all isDigit = true :=
    all_eq_true.mpr fun byte => isDigit_of_mem_decimal
  unfold parseUint
  simp only [decimalValue_decimal, decimal_ne_nil, digits, ne_eq, not_false_eq_true, true_and]

/-- `%v` of a text and `%d` of a number, with a separator between them. -/
def field (separator : UInt8) (text : List UInt8) (number : Nat) : List UInt8 :=
  text ++ separator :: decimal number

variable {separator : UInt8} {first second : List UInt8}

/-- What follows the last separator of a text does not contain it. -/
private theorem append_cons_inj {early late : List UInt8} (notEarly : separator ∉ early)
    (notLate : separator ∉ late)
    (same : first ++ separator :: early = second ++ separator :: late) :
    first = second ∧ early = late := by
  rcases append_eq_append_iff.mp same with ⟨shift, ahead, behind⟩ | ⟨shift, ahead, behind⟩
  · cases shift with
    | nil => simp_all
    | cons head tail =>
      have member : separator ∈ early := by simp_all
      exact absurd member notEarly
  · cases shift with
    | nil => simp_all
    | cons head tail =>
      have member : separator ∈ late := by simp_all
      exact absurd member notLate

theorem field_inj (mark : isDigit separator = false) :
    field separator first m = field separator second n ↔ first = second ∧ m = n := by
  have absent : ∀ number, separator ∉ decimal number := by
    intro number member
    rw [isDigit_of_mem_decimal member] at mark
    cases mark
  constructor
  · intro same
    obtain ⟨texts, digits⟩ := append_cons_inj (absent m) (absent n) same
    exact ⟨texts, decimal_injective digits⟩
  · rintro ⟨rfl, rfl⟩
    rfl

private theorem digitChar_injective {first second : Nat} (small : first < 16) (other : second < 16)
    (same : Nat.digitChar first = Nat.digitChar second) : first = second := by
  have table : ∀ a b : Fin 16, Nat.digitChar a = Nat.digitChar b → a = b := by decide
  have equal := table ⟨first, small⟩ ⟨second, other⟩ same
  simpa using equal

theorem hexBytes_injective (same : hexBytes first = hexBytes second) : first = second := by
  have letters := String.ofList_injective same
  clear same
  induction first generalizing second with
  | nil =>
    cases second with
    | nil => rfl
    | cons other rest => simp at letters
  | cons byte rest ih =>
    cases second with
    | nil => simp at letters
    | cons other others =>
      simp only [flatMap_cons, cons_append, nil_append, List.cons.injEq] at letters
      obtain ⟨high, low, later⟩ := letters
      have bound := byte.toNat_lt
      have otherBound := other.toNat_lt
      have highs := digitChar_injective (by omega) (by omega) high
      have lows := digitChar_injective (by omega) (by omega) low
      have equal : byte = other := UInt8.toNat_inj.mp (by omega)
      rw [equal, ih later]

end RecDtn.Lang
