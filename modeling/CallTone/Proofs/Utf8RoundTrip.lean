import CallTone.Text.Utf8

/-! UTF-8 read back. The segments of an encoded text are its own characters:
the first octet of each announces its length, and the range announced for the
second octet admits the one written, because no character is a surrogate. -/
namespace CallTone.Utf8RoundTrip
open Text.Utf8

theorem segments_one (announced : lead b = .one) :
    segments (b :: rest) = .char (Char.ofNat b) :: segments rest := by
  rw [segments.eq_def]
  simp only [announced]

theorem segments_two (announced : lead b = .two) (tail : isTail b₁ = true) :
    segments (b :: b₁ :: rest) =
      .char (Char.ofNat ((b - 0xC0) * 0x40 + (b₁ - 0x80))) :: segments rest := by
  rw [segments.eq_def]
  simp only [announced, tail, ↓reduceIte]

theorem segments_three (announced : lead b = .three least most) (above : least ≤ b₁)
    (below : b₁ ≤ most) (tail : isTail b₂ = true) :
    segments (b :: b₁ :: b₂ :: rest) =
      .char (Char.ofNat ((b - 0xE0) * 0x1000 + (b₁ - 0x80) * 0x40 + (b₂ - 0x80))) ::
        segments rest := by
  rw [segments.eq_def]
  simp only [announced, above, below, and_self, tail, ↓reduceIte]

theorem segments_four (announced : lead b = .four least most) (above : least ≤ b₁)
    (below : b₁ ≤ most) (third : isTail b₂ = true) (fourth : isTail b₃ = true) :
    segments (b :: b₁ :: b₂ :: b₃ :: rest) =
      .char (Char.ofNat ((b - 0xF0) * 0x40000 + (b₁ - 0x80) * 0x1000 + (b₂ - 0x80) * 0x40 +
        (b₃ - 0x80))) :: segments rest := by
  rw [segments.eq_def]
  simp only [announced, above, below, and_self, third, fourth, ↓reduceIte]

theorem tail_octet (n : Nat) : isTail (0x80 + n % 0x40) = true := by
  have small := Nat.mod_lt n (show 0 < 0x40 by decide)
  simp only [isTail, Bool.and_eq_true, decide_eq_true_eq]
  omega

theorem lead_of_two (low : 0x80 ≤ n) (high : n < 0x800) : lead (0xC0 + n / 0x40) = .two := by
  unfold lead
  rw [if_neg (by omega), if_neg (by omega), if_pos (by omega)]

/-- The range announced for the second octet of three admits exactly what is
written there: the shortest form is required, and surrogates are left out. -/
theorem lead_of_three (low : 0x800 ≤ n) (high : n < 0x10000)
    (scalar : n < 0xD800 ∨ 0xDFFF < n) :
    ∃ least most, lead (0xE0 + n / 0x1000) = .three least most ∧
      least ≤ 0x80 + n / 0x40 % 0x40 ∧ 0x80 + n / 0x40 % 0x40 ≤ most := by
  unfold lead
  rw [if_neg (by omega), if_neg (by omega), if_neg (by omega)]
  by_cases shortest : 0xE0 + n / 0x1000 = 0xE0
  · exact ⟨0xA0, 0xBF, by rw [if_pos shortest], by omega, by omega⟩
  · by_cases surrogates : 0xE0 + n / 0x1000 = 0xED
    · exact ⟨0x80, 0x9F, by rw [if_neg shortest, if_pos surrogates], by omega, by omega⟩
    · exact ⟨0x80, 0xBF, by rw [if_neg shortest, if_neg surrogates, if_pos (by omega)],
        by omega, by omega⟩

theorem lead_of_four (low : 0x10000 ≤ n) (high : n < 0x110000) :
    ∃ least most, lead (0xF0 + n / 0x40000) = .four least most ∧
      least ≤ 0x80 + n / 0x1000 % 0x40 ∧ 0x80 + n / 0x1000 % 0x40 ≤ most := by
  unfold lead
  rw [if_neg (by omega), if_neg (by omega), if_neg (by omega), if_neg (by omega),
    if_neg (by omega), if_neg (by omega)]
  by_cases shortest : 0xF0 + n / 0x40000 = 0xF0
  · exact ⟨0x90, 0xBF, by rw [if_pos shortest], by omega, by omega⟩
  · by_cases middle : 0xF0 + n / 0x40000 < 0xF4
    · exact ⟨0x80, 0xBF, by rw [if_neg shortest, if_pos middle], by omega, by omega⟩
    · exact ⟨0x80, 0x8F, by rw [if_neg shortest, if_neg middle, if_pos (by omega)],
        by omega, by omega⟩

theorem scalar_bounds (c : Char) :
    c.toNat < 0xD800 ∨ (0xDFFF < c.toNat ∧ c.toNat < 0x110000) := by
  have valid := c.valid
  simp only [UInt32.isValidChar, Nat.isValidChar] at valid
  exact valid

/-- The octets of one character are cut off as that character, whatever
follows them. -/
theorem segments_character (c : Char) (rest : List Nat) :
    segments (encodeChar c ++ rest) = .char c :: segments rest := by
  have scalar := scalar_bounds c
  unfold encodeChar
  by_cases one : c.toNat < 0x80
  · rw [if_pos one, List.singleton_append, segments_one (by simp [lead, one]), Char.ofNat_toNat]
  by_cases two : c.toNat < 0x800
  · have value : (0xC0 + c.toNat / 0x40 - 0xC0) * 0x40 + (0x80 + c.toNat % 0x40 - 0x80) =
        c.toNat := by omega
    rw [if_neg one, if_pos two]
    simp only [List.cons_append, List.nil_append]
    rw [segments_two (lead_of_two (by omega) two) (tail_octet _), value, Char.ofNat_toNat]
  by_cases three : c.toNat < 0x10000
  · obtain ⟨least, most, announced, above, below⟩ := lead_of_three (by omega) three (by omega)
    have value : (0xE0 + c.toNat / 0x1000 - 0xE0) * 0x1000 +
        (0x80 + c.toNat / 0x40 % 0x40 - 0x80) * 0x40 + (0x80 + c.toNat % 0x40 - 0x80) =
          c.toNat := by omega
    rw [if_neg one, if_neg two, if_pos three]
    simp only [List.cons_append, List.nil_append]
    rw [segments_three announced above below (tail_octet _), value, Char.ofNat_toNat]
  · obtain ⟨least, most, announced, above, below⟩ :=
      lead_of_four (n := c.toNat) (by omega) (by omega)
    have value : (0xF0 + c.toNat / 0x40000 - 0xF0) * 0x40000 +
        (0x80 + c.toNat / 0x1000 % 0x40 - 0x80) * 0x1000 +
          (0x80 + c.toNat / 0x40 % 0x40 - 0x80) * 0x40 + (0x80 + c.toNat % 0x40 - 0x80) =
            c.toNat := by omega
    rw [if_neg one, if_neg two, if_neg three]
    simp only [List.cons_append, List.nil_append]
    rw [segments_four announced above below (tail_octet _) (tail_octet _), value,
      Char.ofNat_toNat]

/-- An encoded text is read back whole, with nothing replaced. -/
theorem encoded_text_read_back (cs : List Char) : decodeLossy (encode cs) = cs := by
  induction cs with
  | nil => rfl
  | cons c rest ih =>
    simp only [decodeLossy, encode, List.flatMap_cons] at ih ⊢
    rw [segments_character, List.map_cons, ih]
    rfl

/-- The octets of a text of the first 128 characters are their numbers. -/
theorem encode_ascii (ascii : ∀ c ∈ cs, Text.isAscii c = true) :
    encode cs = cs.map Char.toNat := by
  induction cs with
  | nil => rfl
  | cons c rest ih =>
    have small : c.toNat < 0x80 := by simpa [Text.isAscii] using ascii c (by simp)
    rw [List.map_cons, ← ih (fun d member => ascii d (by simp [member]))]
    simp [encode, encodeChar, small]

end CallTone.Utf8RoundTrip
