import Mathlib.Algebra.Group.Int.Defs
import Mathlib.Algebra.Group.Nat.Defs
import Mathlib.Tactic.Common

/-!
Contract: the parts of a text that `strtok_r`, `strchr` and the conversions of
`sscanf` and `strtol` in base 16 find, and texts on which they find again what was
printed.

A text is the characters before the terminating null.

Owns: tokens, the cut at a character, hexadecimal numbers, and their round trips.

Does not own: any format made of them.
-/

namespace MhWallet.Text

/-- The characters of a C string. -/
abbrev CString := List Char

/-! ## Tokens -/

/-- The tokens of a text whose current token is `current` so far. -/
def tokensFrom (delimiter : Char) (current : CString) : CString → List CString
  | [] => if current.isEmpty then [] else [current]
  | char :: rest =>
      if char = delimiter then
        if current.isEmpty then tokensFrom delimiter [] rest
        else current :: tokensFrom delimiter [] rest
      else tokensFrom delimiter (current ++ [char]) rest

/-- What repeated calls of `strtok_r` return: the longest non-empty parts without
the delimiter. -/
def tokens (delimiter : Char) (text : CString) : List CString :=
  tokensFrom delimiter [] text

theorem tokensFrom_append {delimiter : Char} {token : CString} (clean : delimiter ∉ token)
    (current rest : CString) :
    tokensFrom delimiter current (token ++ rest) =
      tokensFrom delimiter (current ++ token) rest := by
  induction token generalizing current with
  | nil => simp
  | cons char token inductionHypothesis =>
      have differ : char ≠ delimiter := fun same => clean (same ▸ List.mem_cons_self)
      have tail : delimiter ∉ token := fun there => clean (List.mem_cons_of_mem _ there)
      rw [List.cons_append, tokensFrom, if_neg differ, inductionHypothesis tail]
      simp

/-- Lines that are not empty and contain no delimiter are the tokens of their
concatenation, each followed by the delimiter. -/
theorem tokens_lines {delimiter : Char} {lines : List CString}
    (clean : ∀ line ∈ lines, line ≠ [] ∧ delimiter ∉ line) :
    tokens delimiter (lines.flatMap fun line => line ++ [delimiter]) = lines := by
  unfold tokens
  induction lines with
  | nil => rfl
  | cons line lines inductionHypothesis =>
      obtain ⟨nonempty, without⟩ := clean line List.mem_cons_self
      have later := inductionHypothesis fun other there =>
        clean other (List.mem_cons_of_mem _ there)
      rw [List.flatMap_cons, List.append_assoc, tokensFrom_append without, List.nil_append,
        List.singleton_append, tokensFrom, if_pos rfl, if_neg (by simpa using nonempty), later]

/-! ## The cut at a character -/

/-- `strchr`: the text before the first such character and the text after it. -/
def cut (separator : Char) : CString → Option (CString × CString)
  | [] => none
  | char :: rest =>
      if char = separator then some ([], rest)
      else (cut separator rest).map fun parts => (char :: parts.1, parts.2)

theorem cut_append {separator : Char} {key : CString} (clean : separator ∉ key)
    (value : CString) : cut separator (key ++ separator :: value) = some (key, value) := by
  induction key with
  | nil => simp [cut]
  | cons char key inductionHypothesis =>
      have differ : char ≠ separator := fun same => clean (same ▸ List.mem_cons_self)
      have tail : separator ∉ key := fun there => clean (List.mem_cons_of_mem _ there)
      rw [List.cons_append, cut, if_neg differ, inductionHypothesis tail]
      rfl

/-! ## Hexadecimal numbers -/

def hexValue (char : Char) : Option Nat :=
  if '0' ≤ char ∧ char ≤ '9' then some (char.toNat - '0'.toNat)
  else if 'A' ≤ char ∧ char ≤ 'F' then some (char.toNat - 'A'.toNat + 10)
  else if 'a' ≤ char ∧ char ≤ 'f' then some (char.toNat - 'a'.toNat + 10)
  else none

def isSpace (char : Char) : Bool :=
  char = ' ' || ('\t' ≤ char && char ≤ '\r')

/-- The digits at the start of a text, as the number they continue, and what
follows them. -/
def scanDigits (number : Nat) : CString → Nat × CString
  | [] => (number, [])
  | char :: rest =>
      match hexValue char with
      | some digit => scanDigits (16 * number + digit) rest
      | none => (number, char :: rest)

/-- An optional sign. -/
def scanSign : CString → Bool × CString
  | '-' :: rest => (true, rest)
  | '+' :: rest => (false, rest)
  | text => (false, text)

/-- An optional `0x`; none where a digit does not follow. -/
def scanPrefix : CString → Option CString
  | '0' :: 'x' :: rest => scanFirst rest
  | '0' :: 'X' :: rest => scanFirst rest
  | text => scanFirst text
where
  scanFirst : CString → Option CString
    | [] => none
    | char :: rest => (hexValue char).map fun _ => char :: rest

/-- A hexadecimal number with a sign, after blanks: whether it is negative, its
magnitude, and what follows it. -/
def scanHex (text : CString) : Option (Bool × Nat × CString) :=
  let (negative, text) := scanSign (text.dropWhile isSpace)
  (scanPrefix text).map fun digits =>
    let (number, rest) := scanDigits 0 digits
    (negative, number, rest)

/-- The `unsigned long` that the conversion yields. -/
def unsignedLong (negative : Bool) (number : Nat) : UInt64 :=
  if number < 2 ^ 64 then
    if negative then -(UInt64.ofNat number) else UInt64.ofNat number
  else UInt64.ofNat (2 ^ 64 - 1)

/-- `strtol` in base 16. -/
def strtol16 (text : CString) : Int :=
  match scanHex text with
  | none => 0
  | some (negative, number, _) =>
      if negative then max (-(number : Int)) (-2 ^ 63) else min (number : Int) (2 ^ 63 - 1)

/-! ## Printed numbers -/

def hexDigit (digit : Nat) : Char :=
  if digit < 10 then Char.ofNat ('0'.toNat + digit) else Char.ofNat ('A'.toNat + (digit - 10))

/-- `%X`. -/
def hexDigits (number : Nat) : CString :=
  if number < 16 then [hexDigit number]
  else hexDigits (number / 16) ++ [hexDigit (number % 16)]

/-- `%0<width>X`. -/
def printHex (width number : Nat) : CString :=
  List.replicate (width - (hexDigits number).length) '0' ++ hexDigits number

theorem hexValue_hexDigit {digit : Nat} (small : digit < 16) :
    hexValue (hexDigit digit) = some digit := by
  have each : ∀ digit : Fin 16, hexValue (hexDigit digit) = some digit.val := by decide
  exact each ⟨digit, small⟩

/-- A text that a hexadecimal number does not run on into. -/
def Stops (text : CString) : Prop :=
  ∀ char ∈ text.head?, hexValue char = none ∧ char ≠ 'x' ∧ char ≠ 'X'

theorem scanDigits_stops {text : CString} (stops : Stops text) (number : Nat) :
    scanDigits number text = (number, text) := by
  cases text with
  | nil => rfl
  | cons char rest => rw [scanDigits, (stops char rfl).1]

theorem scanDigits_hexDigits (start number : Nat) (rest : CString) :
    scanDigits start (hexDigits number ++ rest) =
      scanDigits (start * 16 ^ (hexDigits number).length + number) rest := by
  induction number using hexDigits.induct generalizing rest with
  | case1 number small =>
      rw [hexDigits, if_pos small, List.singleton_append, scanDigits, hexValue_hexDigit small]
      rw [List.length_singleton, Nat.pow_one, Nat.mul_comm]
  | case2 number large inductionHypothesis =>
      have digit : number % 16 < 16 := Nat.mod_lt _ (by decide)
      rw [hexDigits, if_neg large, List.append_assoc, inductionHypothesis,
        List.singleton_append, scanDigits, hexValue_hexDigit digit]
      have value : 16 * (start * 16 ^ (hexDigits (number / 16)).length + number / 16) +
          number % 16 = start * 16 ^ ((hexDigits (number / 16)).length + 1) + number := by
        rw [Nat.pow_succ, ← Nat.mul_assoc]
        omega
      rw [List.length_append, List.length_singleton, ← value]

theorem scanDigits_zeros (count : Nat) (rest : CString) :
    scanDigits 0 (List.replicate count '0' ++ rest) = scanDigits 0 rest := by
  induction count with
  | zero => rfl
  | succ count inductionHypothesis =>
      rw [List.replicate_succ, List.cons_append, scanDigits,
        show hexValue '0' = some 0 from by decide]
      exact inductionHypothesis

/-- The characters that begin a number are neither blanks nor signs nor an `x`. -/
theorem plain_of_hexValue {char : Char} {digit : Nat} (value : hexValue char = some digit) :
    isSpace char = false ∧ char ≠ '-' ∧ char ≠ '+' ∧ char ≠ 'x' ∧ char ≠ 'X' := by
  refine ⟨?_, ?_, ?_, ?_, ?_⟩
  · by_contra space
    simp only [isSpace, Bool.not_eq_false, Bool.or_eq_true, decide_eq_true_eq,
      Bool.and_eq_true] at space
    rcases space with rfl | ⟨above, below⟩
    · simp [hexValue] at value
    · rw [Char.le_def, UInt32.le_iff_toNat_le] at below
      simp only [hexValue, Char.le_def, UInt32.le_iff_toNat_le] at value
      have blanks : char.val.toNat ≤ 13 := below
      have digits : '0'.val.toNat = 48 := rfl
      have upper : 'A'.val.toNat = 65 := rfl
      have lower : 'a'.val.toNat = 97 := rfl
      rw [if_neg (by omega), if_neg (by omega), if_neg (by omega)] at value
      cases value
  all_goals
    rintro rfl
    simp [hexValue] at value

/-- What follows a digit of a number is a digit or stops it. -/
theorem scanPrefix_cons {char : Char} {rest : CString}
    (first : ∃ digit, hexValue char = some digit)
    (second : ∀ next ∈ rest.head?, next ≠ 'x' ∧ next ≠ 'X') :
    scanPrefix (char :: rest) = some (char :: rest) := by
  obtain ⟨digit, value⟩ := first
  have plain : scanPrefix.scanFirst (char :: rest) = some (char :: rest) := by
    rw [scanPrefix.scanFirst, value]
    rfl
  rw [← plain]
  cases rest with
  | nil =>
      rw [scanPrefix]
      · simp
      · simp
  | cons next rest =>
      obtain ⟨lower, upper⟩ := second next rfl
      rw [scanPrefix]
      · simp [lower]
      · simp [upper]

theorem scanHex_of_digits {digits rest : CString} (nonempty : digits ≠ [])
    (all : ∀ char ∈ digits, ∃ digit, hexValue char = some digit) (stops : Stops rest) :
    scanHex (digits ++ rest) = some (false, scanDigits 0 (digits ++ rest)) := by
  cases digits with
  | nil => exact absurd rfl nonempty
  | cons char digits =>
      obtain ⟨digit, value⟩ := all char List.mem_cons_self
      obtain ⟨space, minus, plus, -, -⟩ := plain_of_hexValue value
      have unsigned : scanSign (char :: (digits ++ rest)) = (false, char :: (digits ++ rest)) := by
        rw [scanSign]
        · simpa using minus
        · simpa using plus
      have second : ∀ next ∈ (digits ++ rest).head?, next ≠ 'x' ∧ next ≠ 'X' := by
        intro next there
        cases digits with
        | nil => exact (stops next there).2
        | cons another digits =>
            have same : another = next := by simpa using there
            obtain ⟨_, another⟩ := all next (by simp [same])
            exact (plain_of_hexValue another).2.2.2
      rw [scanHex, List.cons_append, List.dropWhile_cons_of_neg (by simp [space]), unsigned]
      simp only [scanPrefix_cons ⟨digit, value⟩ second, Option.map_some]

theorem hexDigits_all (number : Nat) :
    ∀ char ∈ hexDigits number, ∃ digit, hexValue char = some digit := by
  induction number using hexDigits.induct with
  | case1 number small =>
      intro char there
      rw [hexDigits, if_pos small, List.mem_singleton] at there
      exact ⟨number, there ▸ hexValue_hexDigit small⟩
  | case2 number large inductionHypothesis =>
      intro char there
      rw [hexDigits, if_neg large, List.mem_append, List.mem_singleton] at there
      rcases there with earlier | last
      · exact inductionHypothesis char earlier
      · exact ⟨number % 16, last ▸ hexValue_hexDigit (Nat.mod_lt _ (by decide))⟩

theorem hexDigits_ne_nil (number : Nat) : hexDigits number ≠ [] := by
  rw [hexDigits]
  split <;> simp

theorem printHex_all (width number : Nat) :
    ∀ char ∈ printHex width number, ∃ digit, hexValue char = some digit := by
  intro char there
  rcases List.mem_append.mp there with zero | digit
  · rw [List.eq_of_mem_replicate zero]
    exact ⟨0, by decide⟩
  · exact hexDigits_all number char digit

/-- A printed number is read back. -/
theorem scanHex_printHex (width number : Nat) {rest : CString} (stops : Stops rest) :
    scanHex (printHex width number ++ rest) = some (false, number, rest) := by
  have nonempty : printHex width number ≠ [] := by
    simp [printHex, hexDigits_ne_nil]
  rw [scanHex_of_digits nonempty (printHex_all width number) stops, printHex,
    List.append_assoc, scanDigits_zeros, scanDigits_hexDigits, scanDigits_stops stops]
  simp

end MhWallet.Text
