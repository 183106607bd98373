import CallTone.Proofs.NumberTexts
import CallTone.Proofs.Utf8RoundTrip

/-! Strings in JSON texts. What stands for a character is one of four things, and each is
read as the character again, also the two units that are the halves of a character above the
first plane. None has a quote that is not escaped, so a string ends where it was closed. All
of it is pure ASCII. -/
namespace CallTone.JsonStrings
open Json Text NumberTexts Utf8RoundTrip

variable {cs ds rest : List Char} {n fuel : Nat}

/-! ASCII -/

/-- All characters are among the first 128. -/
def Ascii (cs : List Char) : Prop := ∀ c ∈ cs, isAscii c = true

instance (cs : List Char) : Decidable (Ascii cs) := decidable_of_iff _ List.all_eq_true

theorem ascii_append : Ascii (cs ++ ds) ↔ Ascii cs ∧ Ascii ds := by
  simp only [Ascii, List.mem_append, or_imp, forall_and]

theorem ascii_cons {c : Char} : Ascii (c :: cs) ↔ isAscii c = true ∧ Ascii cs := by
  simp only [Ascii, List.mem_cons, or_imp, forall_and, forall_eq]

theorem ascii_nil : Ascii [] := by simp [Ascii]

theorem ascii_digits (digits : Digits cs) : Ascii cs := by
  intro c member
  have digit := digits c member
  simp only [isAsciiDigit, Bool.and_eq_true, decide_eq_true_eq, Char.le_def,
    UInt32.le_iff_toNat_le] at digit
  simp only [isAscii, decide_eq_true_eq]
  exact Nat.lt_of_le_of_lt digit.2 (by decide)

/-! Characters inside a string -/

private theorem hex_value : ∀ k < 16, hexValue? (hexDigit k) = some k := by decide

private theorem hex_ascii : ∀ k < 16, isAscii (hexDigit k) = true := by decide

/-- A UTF-16 unit has four hexadecimal digits. -/
theorem unit_text (unit : n < 0x10000) : hexText 4 n =
    [hexDigit (n / 4096), hexDigit (n / 256 % 16), hexDigit (n / 16 % 16), hexDigit (n % 16)] := by
  have zero : hexDigit 0 = '0' := rfl
  unfold hexText
  by_cases one : n < 16
  · rw [Nat.toDigits_of_lt_base one, show n / 4096 = 0 by omega, show n / 256 % 16 = 0 by omega,
      show n / 16 % 16 = 0 by omega, show n % 16 = n by omega, zero]
    rfl
  by_cases two : n < 256
  · rw [Nat.toDigits_of_base_le (by decide) (by omega), Nat.toDigits_of_lt_base (by omega),
      show n / 4096 = 0 by omega, show n / 256 % 16 = 0 by omega,
      show n / 16 % 16 = n / 16 by omega, zero]
    rfl
  by_cases three : n < 4096
  · rw [Nat.toDigits_of_base_le (by decide) (by omega),
      Nat.toDigits_of_base_le (by decide) (by omega), Nat.toDigits_of_lt_base (by omega),
      Nat.div_div_eq_div_mul, show n / 4096 = 0 by omega,
      show n / 256 % 16 = n / 256 by omega, zero]
    rfl
  · rw [Nat.toDigits_of_base_le (by decide) (by omega),
      Nat.toDigits_of_base_le (by decide) (by omega),
      Nat.toDigits_of_base_le (by decide) (by omega), Nat.toDigits_of_lt_base (by omega),
      show n / 16 / 16 / 16 = n / 4096 by omega, show n / 16 / 16 % 16 = n / 256 % 16 by omega]
    rfl

theorem unit_read (unit : n < 0x10000) (rest : List Char) :
    readUnit (hexText 4 n ++ rest) = some (n, rest) := by
  rw [unit_text unit]
  simp only [List.cons_append, List.nil_append, readUnit, hex_value (n / 4096) (by omega),
    hex_value (n / 256 % 16) (by omega), hex_value (n / 16 % 16) (by omega),
    hex_value (n % 16) (by omega)]
  rw [show ((n / 4096 * 16 + n / 256 % 16) * 16 + n / 16 % 16) * 16 + n % 16 = n by omega]

theorem unit_ascii (unit : n < 0x10000) : Ascii (escapeUnit n) := by
  rw [escapeUnit, unit_text unit]
  simp only [ascii_cons, ascii_nil, and_true, hex_ascii (n / 4096) (by omega),
    hex_ascii (n / 256 % 16) (by omega), hex_ascii (n / 16 % 16) (by omega),
    hex_ascii (n % 16) (by omega)]
  decide

/-- A character of the first plane is the one that its unit escapes. -/
theorem escape_read (unit : n < 0x10000) (scalar : n < 0xD800 ∨ 0xDFFF < n) (rest : List Char) :
    readEscape ('u' :: (hexText 4 n ++ rest)) = some (Char.ofNat n, rest) := by
  simp only [readEscape, unit_read unit]
  rw [if_neg (by omega), if_neg (by omega)]

/-- A character above the first plane is put together from the two halves that escape it. -/
theorem halves_read (low : 0x10000 ≤ n) (high : n < 0x110000) (rest : List Char) :
    readEscape ('u' :: (hexText 4 (0xD800 + (n - 0x10000) / 0x400) ++
      ('\\' :: 'u' :: (hexText 4 (0xDC00 + (n - 0x10000) % 0x400) ++ rest)))) =
        some (Char.ofNat n, rest) := by
  rw [readEscape, unit_read (by omega)]
  simp only [unit_read (n := 0xDC00 + (n - 0x10000) % 0x400) (by omega)]
  rw [if_pos (by omega), if_pos (by omega),
    show 0x10000 + (0xD800 + (n - 0x10000) / 0x400 - 0xD800) * 0x400 +
      (0xDC00 + (n - 0x10000) % 0x400 - 0xDC00) = n by omega]

/-- What stands for a character inside a string: a short escape, the character itself, its
UTF-16 unit, or the two units that are its halves. -/
inductive Escaped (c : Char) : List Char → Prop where
  | short (mark : Char) (ascii : isAscii mark = true) (other : mark ≠ 'u')
      (names : shortEscape? mark = some c) : Escaped c ['\\', mark]
  | plain (quote : c ≠ '"') (slash : c ≠ '\\') (visible : 0x20 ≤ c.toNat ∧ c.toNat ≤ 0x7E) :
      Escaped c [c]
  | unit (low : c.toNat < 0x10000) : Escaped c (escapeUnit c.toNat)
  | halves (high : 0x10000 ≤ c.toNat) :
      Escaped c (escapeUnit (0xD800 + (c.toNat - 0x10000) / 0x400) ++
        escapeUnit (0xDC00 + (c.toNat - 0x10000) % 0x400))

theorem character_escaped (c : Char) : Escaped c (escapeChar c) := by
  unfold escapeChar
  split
  · next quote => exact .short '"' (by decide) (by decide) (by rw [quote]; rfl)
  split
  · next slash => exact .short '\\' (by decide) (by decide) (by rw [slash]; rfl)
  split
  · next line => exact .short 'n' (by decide) (by decide) (by rw [line]; rfl)
  split
  · next back => exact .short 'r' (by decide) (by decide) (by rw [back]; rfl)
  split
  · next tab => exact .short 't' (by decide) (by decide) (by rw [tab]; rfl)
  split
  · next page => exact .short 'f' (by decide) (by decide) (by rw [page]; rfl)
  split
  · next erase => exact .short 'b' (by decide) (by decide) (by rw [erase]; rfl)
  split
  · next quote slash _ _ _ _ _ visible => exact .plain quote slash visible
  split
  · next low => exact .unit low
  · next high => exact .halves (Nat.le_of_not_lt high)

/-- A short escape is read by its mark. -/
theorem short_read {mark c : Char} (other : mark ≠ 'u') (names : shortEscape? mark = some c)
    (rest : List Char) : readEscape (mark :: rest) = some (c, rest) := by
  unfold readEscape
  split
  · next same => exact absurd (List.cons.inj same).1 other
  · next same =>
    obtain ⟨rfl, rfl⟩ := List.cons.inj same
    rw [names]
    rfl
  · next same => cases same

/-- What stands for a character is read as the character. -/
theorem character_read {c : Char} (escaped : Escaped c cs) (fuel : Nat) (rest : List Char) :
    readString (fuel + 1) (cs ++ rest) =
      (readString fuel rest).map fun (cs, tail) => (c :: cs, tail) := by
  have scalar := scalar_bounds c
  cases escaped with
  | short mark ascii other names =>
    rw [List.cons_append, List.singleton_append, readString, short_read other names]
  | plain quote slash visible =>
    rw [List.singleton_append, readString, if_neg (by omega)]
    · exact quote
    · exact slash
  | unit low =>
    rw [escapeUnit, List.cons_append, List.cons_append, readString,
      escape_read low (by omega), Char.ofNat_toNat]
  | halves high =>
    rw [escapeUnit, escapeUnit, List.cons_append, List.cons_append, List.cons_append,
      List.cons_append, List.append_assoc, List.cons_append, List.cons_append, readString,
      halves_read high (by omega), Char.ofNat_toNat]

theorem character_ascii {c : Char} (escaped : Escaped c cs) : Ascii cs := by
  have scalar := scalar_bounds c
  cases escaped with
  | short mark ascii other names =>
    exact ascii_cons.mpr ⟨by decide, ascii_cons.mpr ⟨ascii, ascii_nil⟩⟩
  | plain quote slash visible =>
    simp only [ascii_cons, ascii_nil, and_true, isAscii, decide_eq_true_eq]
    omega
  | unit low => exact unit_ascii low
  | halves high => exact ascii_append.mpr ⟨unit_ascii (by omega), unit_ascii (by omega)⟩

theorem character_given {c : Char} (escaped : Escaped c cs) : cs ≠ [] := by
  cases escaped <;> nofun

/-! Strings -/

theorem characters_length (cs : List Char) : cs.length ≤ (cs.flatMap escapeChar).length := by
  induction cs with
  | nil => rfl
  | cons c cs ih =>
    have given := List.length_pos_iff.mpr (character_given (character_escaped c))
    rw [List.flatMap_cons, List.length_append, List.length_cons]
    omega

theorem characters_read (cs : List Char) (enough : cs.length < fuel) (rest : List Char) :
    readString fuel (cs.flatMap escapeChar ++ '"' :: rest) = some (cs, rest) := by
  induction cs generalizing fuel with
  | nil =>
    obtain ⟨fuel, rfl⟩ := Nat.exists_eq_add_one_of_ne_zero (Nat.ne_of_gt enough)
    rfl
  | cons c cs ih =>
    obtain ⟨fuel, rfl⟩ := Nat.exists_eq_add_one_of_ne_zero (Nat.ne_of_gt (Nat.zero_lt_of_lt enough))
    rw [List.flatMap_cons, List.append_assoc, character_read (character_escaped c),
      ih (by simpa using enough)]
    rfl

/-- What follows the first quote of a string is read up to its last. -/
theorem string_read (s : String) (rest : List Char) :
    ∃ after, stringText s ++ rest = '"' :: after ∧
      readString (after.length + 1) after = some (s.toList, rest) := by
  refine ⟨s.toList.flatMap escapeChar ++ '"' :: rest, by simp [stringText], ?_⟩
  have long := characters_length s.toList
  exact characters_read s.toList (by rw [List.length_append]; omega) rest

theorem string_ascii (s : String) : Ascii (stringText s) := by
  rw [stringText, List.cons_append, ascii_cons, ascii_append, ascii_cons]
  refine ⟨by decide, fun c member => ?_, by decide, ascii_nil⟩
  obtain ⟨d, -, within⟩ := List.mem_flatMap.mp member
  exact character_ascii (character_escaped d) c within

end CallTone.JsonStrings
