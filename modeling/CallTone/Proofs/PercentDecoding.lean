import CallTone.Proofs.Utf8RoundTrip
import CallTone.Text.Percent

/-! Percent decoding, in both of its uses. An encoded text is read back as it
was. A text that nobody encoded is left as it is exactly when no escape stands
in it: every escape that is read shrinks the text by at least two characters
that are neither slash nor point, so no rearrangement of what is left can make
up for it. -/
namespace CallTone.PercentDecoding
open Text Text.Percent Utf8RoundTrip

/-- A percent sign and two hexadecimal digits stand in the text. -/
def HasEscape (cs : List Char) : Prop :=
  ∃ a b, ['%', a, b] <:+: cs ∧ (hexValue? a).isSome ∧ (hexValue? b).isSome

/-- What a path keeps of a character: slashes separate, and points alone
between slashes are dropped. -/
def solid (c : Char) : Bool := c ≠ '/' && c ≠ '.'

/-- How many characters of a text no path can lose. -/
def weight (cs : List Char) : Nat := cs.countP solid

/-- The same count over octets. -/
def octetWeight (os : List Nat) : Nat := os.countP fun b => b ≠ 0x2F && b ≠ 0x2E

/-! Encoded texts -/

private theorem hex_value_of_capital : ∀ n < 16, hexValue? (capitalHexDigit n) = some n := by
  decide

private theorem plain_capital : ∀ n < 16, isPlain (capitalHexDigit n) = true := by
  decide

theorem ascii_of_plain (plain : isPlain c = true) : isAscii c = true := by
  simp only [isPlain, isAsciiLetter, isAsciiDigit, Bool.or_eq_true, Bool.and_eq_true,
    decide_eq_true_eq, beq_iff_eq, Char.le_def, UInt32.le_iff_toNat_le] at plain
  simp only [isAscii, decide_eq_true_eq]
  change c.val.toNat < 0x80
  rcases plain with ((((((⟨_, high⟩ | ⟨_, high⟩) | ⟨_, high⟩) | rfl) | rfl) | rfl) | rfl) | rfl
  · exact Nat.lt_of_le_of_lt high (by decide)
  · exact Nat.lt_of_le_of_lt high (by decide)
  · exact Nat.lt_of_le_of_lt high (by decide)
  all_goals decide

private theorem octet_bound (b : Nat) (member : b ∈ Utf8.encodeChar c) : b < 256 := by
  have scalar := scalar_bounds c
  unfold Utf8.encodeChar at member
  simp only at member
  split at member
  · simp only [List.mem_singleton] at member
    omega
  split at member
  · simp only [List.mem_cons, List.not_mem_nil, or_false] at member
    omega
  split at member <;>
  · simp only [List.mem_cons, List.not_mem_nil, or_false] at member
    omega

/-- An encoded text is made of plain characters and percent signs. -/
theorem encoded_character (member : d ∈ encode cs) : isPlain d = true ∨ d = '%' := by
  obtain ⟨c, _, within⟩ := List.mem_flatMap.mp member
  unfold encodeChar at within
  split at within
  · rename_i plain
    simp only [List.mem_singleton] at within
    exact .inl (within ▸ plain)
  · obtain ⟨b, octet, digits⟩ := List.mem_flatMap.mp within
    have bound := octet_bound b octet
    simp only [encodeOctet, List.mem_cons, List.not_mem_nil, or_false] at digits
    rcases digits with rfl | rfl | rfl
    · exact .inr rfl
    · exact .inl (plain_capital _ (by omega))
    · exact .inl (plain_capital _ (by omega))

theorem encoded_ascii (member : d ∈ encode cs) : isAscii d = true := by
  rcases encoded_character member with plain | rfl
  · exact ascii_of_plain plain
  · decide

private theorem octets_of_plain (plain : isPlain c = true) (rest : List Char) :
    octets (c :: rest) = c.toNat :: octets rest := by
  have other : c ≠ '%' := by
    rintro rfl
    exact absurd plain (by decide)
  exact octets.eq_3 c rest (fun a b tail same => absurd same other)

private theorem octets_of_escape (bound : b < 256) (rest : List Char) :
    octets (encodeOctet b ++ rest) = b :: octets rest := by
  have high := hex_value_of_capital (b / 16) (by omega)
  have low := hex_value_of_capital (b % 16) (by omega)
  have value : 16 * (b / 16) + b % 16 = b := by omega
  simp only [encodeOctet, List.cons_append, List.nil_append, octets, high, low, value]

private theorem octets_of_escapes (bounds : ∀ b ∈ os, b < 256) (rest : List Char) :
    octets (os.flatMap encodeOctet ++ rest) = os ++ octets rest := by
  induction os with
  | nil => rfl
  | cons b os ih =>
    rw [List.flatMap_cons, List.append_assoc, octets_of_escape (bounds b (by simp)),
      ih (fun d member => bounds d (by simp [member])), List.cons_append]

/-- The octets of an encoded text are the octets of the text. -/
theorem octets_encode (cs : List Char) : octets (encode cs) = Utf8.encode cs := by
  induction cs with
  | nil => rfl
  | cons c rest ih =>
    simp only [encode, Utf8.encode, List.flatMap_cons] at ih ⊢
    by_cases plain : isPlain c = true
    · have small : c.toNat < 0x80 := by simpa [isAscii] using ascii_of_plain plain
      have alone : Utf8.encodeChar c = [c.toNat] := by simp [Utf8.encodeChar, small]
      rw [encodeChar, if_pos plain, alone, List.singleton_append, octets_of_plain plain, ih,
        List.singleton_append]
    · rw [encodeChar, if_neg plain, octets_of_escapes (fun b member => octet_bound b member), ih]

private theorem decodeFrom_ascii (ascii : ∀ c ∈ cs, isAscii c = true) :
    decodeFrom run cs = decodeRun (run.reverse ++ cs) := by
  induction cs generalizing run with
  | nil => simp [decodeFrom]
  | cons c rest ih =>
    rw [decodeFrom, if_pos (ascii c (by simp)), ih (fun d member => ascii d (by simp [member])),
      List.reverse_cons, List.append_assoc, List.singleton_append]

/-- Percent encoding loses nothing: every text is read back from its encoded
form, whatever characters it has. -/
theorem decode_encode (cs : List Char) : decode (encode cs) = cs := by
  rw [decode, decodeFrom_ascii (fun c member => encoded_ascii member), List.reverse_nil,
    List.nil_append, decodeRun, octets_encode, encoded_text_read_back]

/-! Texts without escapes -/

theorem no_escape_nil : ¬ HasEscape [] := by
  rintro ⟨a, b, inside, _⟩
  simp at inside

theorem has_escape_cons (inside : HasEscape rest) : HasEscape (c :: rest) := by
  obtain ⟨a, b, within, digits⟩ := inside
  exact ⟨a, b, within.trans (List.suffix_cons c rest).isInfix, digits⟩

/-- An escape starts with the first character or stands in the rest. -/
theorem has_escape_cons_iff : HasEscape (c :: rest) ↔
    (∃ a b tail, c = '%' ∧ rest = a :: b :: tail ∧ (hexValue? a).isSome ∧ (hexValue? b).isSome) ∨
      HasEscape rest := by
  constructor
  · rintro ⟨a, b, inside, digits⟩
    rcases List.infix_cons_iff.mp inside with ⟨tail, starts⟩ | later
    · simp only [List.cons_append, List.nil_append, List.cons.injEq] at starts
      exact .inl ⟨a, b, tail, starts.1.symm, starts.2.symm, digits⟩
    · exact .inr ⟨a, b, later, digits⟩
  · rintro (⟨a, b, tail, rfl, rfl, digits⟩ | later)
    · exact ⟨a, b, ⟨[], tail, rfl⟩, digits⟩
    · exact has_escape_cons later

theorem has_escape_within (inside : HasEscape cs) (within : cs <:+: ds) : HasEscape ds := by
  obtain ⟨a, b, stands, digits⟩ := inside
  exact ⟨a, b, stands.trans within, digits⟩

private theorem hex_bounds (digit : (hexValue? c).isSome) :
    isAscii c = true ∧ solid c = true := by
  have range : ('0' ≤ c ∧ c ≤ '9') ∨ ('a' ≤ c ∧ c ≤ 'f') ∨ ('A' ≤ c ∧ c ≤ 'F') := by
    unfold hexValue? isAsciiDigit at digit
    simp only [Bool.and_eq_true, decide_eq_true_eq] at digit
    split at digit
    · exact .inl ‹_›
    split at digit
    · exact .inr (.inl ‹_›)
    split at digit
    · exact .inr (.inr ‹_›)
    · cases digit
  simp only [Char.le_def, UInt32.le_iff_toNat_le] at range
  constructor
  · simp only [isAscii, decide_eq_true_eq]
    change c.val.toNat < 0x80
    rcases range with ⟨_, high⟩ | ⟨_, high⟩ | ⟨_, high⟩ <;>
      exact Nat.lt_of_le_of_lt high (by decide)
  · simp only [solid, Bool.and_eq_true, decide_eq_true_eq]
    constructor <;>
    · rintro rfl
      revert range
      decide

private theorem has_escape_around (other : isAscii c = false)
    (inside : HasEscape (before ++ c :: after)) : HasEscape before ∨ HasEscape after := by
  have strange {d : Char} (digit : (hexValue? d).isSome) : d ≠ c := by
    rintro rfl
    simp [(hex_bounds digit).1] at other
  induction before with
  | nil =>
    rcases has_escape_cons_iff.mp inside with ⟨a, b, tail, rfl, _⟩ | later
    · exact absurd other (by decide)
    · exact .inr later
  | cons d before ih =>
    rcases has_escape_cons_iff.mp inside with ⟨a, b, tail, rfl, starts, first, second⟩ | later
    · match before, starts with
      | [], starts => exact absurd (List.cons.inj starts).1.symm (strange first)
      | [_], starts =>
        exact absurd (List.cons.inj (List.cons.inj starts).2).1.symm (strange second)
      | x :: y :: more, starts =>
        have firstSame := (List.cons.inj starts).1
        have secondSame := (List.cons.inj (List.cons.inj starts).2).1
        subst firstSame secondSame
        exact .inl (has_escape_cons_iff.mpr (.inl ⟨x, y, more, rfl, rfl, first, second⟩))
    · exact (ih later).imp has_escape_cons id

private theorem octets_without_escape (free : ¬ HasEscape cs) : octets cs = cs.map Char.toNat := by
  fun_induction octets cs with
  | case1 => rfl
  | case2 a b rest high low second first ih =>
    have starts : HasEscape ('%' :: a :: b :: rest) :=
      ⟨a, b, ⟨[], rest, rfl⟩, by simp [first], by simp [second]⟩
    exact absurd starts free
  | case3 a b rest _ ih =>
    rw [ih (fun inside => free (has_escape_cons inside))]
    rfl
  | case4 c rest _ ih => rw [ih (fun inside => free (has_escape_cons inside)), List.map_cons]

private theorem decodeRun_without_escape (ascii : ∀ c ∈ run, isAscii c = true)
    (free : ¬ HasEscape run) : decodeRun run = run := by
  rw [decodeRun, octets_without_escape free, ← encode_ascii ascii, encoded_text_read_back]

private theorem decodeFrom_without_escape (ascii : ∀ c ∈ run, isAscii c = true)
    (free : ¬ HasEscape (run.reverse ++ cs)) : decodeFrom run cs = run.reverse ++ cs := by
  induction cs generalizing run with
  | nil =>
    rw [List.append_nil] at free ⊢
    rw [decodeFrom, decodeRun_without_escape (by simpa using ascii) free]
  | cons c rest ih =>
    rw [decodeFrom]
    by_cases small : isAscii c = true
    · rw [if_pos small, ih (by simpa [small] using ascii) (by simpa using free)]
      simp
    · have before : ¬ HasEscape run.reverse := fun inside =>
        free (has_escape_within inside (List.prefix_append _ _).isInfix)
      have after : ¬ HasEscape rest := fun inside =>
        free (has_escape_within inside ⟨run.reverse ++ [c], [], by simp⟩)
      rw [if_neg small, decodeRun_without_escape (by simpa using ascii) before,
        ih (by simp) (by simpa using after), List.reverse_nil, List.nil_append]

/-! The weight of what is decoded -/

private theorem heavy_octet (announced : Utf8.lead b ≠ .one) :
    octetWeight (b :: os) = octetWeight os + 1 := by
  have large : ¬ b < 0x80 := fun small => announced (by simp [Utf8.lead, small])
  have counted : (b ≠ 0x2F && b ≠ 0x2E) = true := by
    simp only [Bool.and_eq_true, decide_eq_true_eq]
    omega
  exact List.countP_cons_of_pos counted

theorem octet_weight_cons_le : octetWeight os ≤ octetWeight (b :: os) :=
  (List.sublist_cons_self b os).countP_le

private theorem weight_cons_le : weight (c :: cs) ≤ weight cs + 1 := by
  rw [weight, weight, List.countP_cons]
  split <;> omega

private theorem weight_of_segment {segment : Utf8.Segment} (announced : Utf8.lead b ≠ .one)
    (below : weight (cs.map Utf8.Segment.replaced) ≤ octetWeight os) :
    weight ((segment :: cs).map Utf8.Segment.replaced) ≤ octetWeight (b :: os) := by
  rw [List.map_cons, heavy_octet announced]
  exact Nat.le_trans weight_cons_le (Nat.succ_le_succ below)

/-- Each character that is read weighs no more than the octets it is read
from; a run that is no character becomes one. -/
theorem weight_of_octets (os : List Nat) : weight (Utf8.decodeLossy os) ≤ octetWeight os := by
  unfold Utf8.decodeLossy
  fun_induction Utf8.segments os with
  | case1 => exact Nat.le_refl 0
  | case2 b rest announced ih =>
    by_cases light : b = 0x2F ∨ b = 0x2E
    · have read : weight (Char.ofNat b :: (Utf8.segments rest).map Utf8.Segment.replaced) =
          weight ((Utf8.segments rest).map Utf8.Segment.replaced) := by
        rcases light with rfl | rfl <;> rfl
      rw [List.map_cons]
      exact Nat.le_trans (Nat.le_of_eq read) (Nat.le_trans ih octet_weight_cons_le)
    · have counted : octetWeight (b :: rest) = octetWeight rest + 1 :=
        List.countP_cons_of_pos (by simpa [not_or] using light)
      rw [List.map_cons, counted]
      exact Nat.le_trans weight_cons_le (Nat.succ_le_succ ih)
  -- Every other octet is weighed, and the octets after it can only add to that.
  | _ =>
    refine weight_of_segment (by simp [*]) ?_
    grind [octet_weight_cons_le, weight]

private theorem weight_of_plain_octet (below : octetWeight os ≤ weight cs) :
    octetWeight (c.toNat :: os) ≤ weight (c :: cs) ∧
      (octetWeight os < weight cs → octetWeight (c.toNat :: os) < weight (c :: cs)) := by
  have same : (decide (c.toNat ≠ 0x2F) && decide (c.toNat ≠ 0x2E)) = solid c := by
    have slash : c.toNat = 0x2F ↔ c = '/' := Char.toNat_inj (c := c) (d := '/')
    have point : c.toNat = 0x2E ↔ c = '.' := Char.toNat_inj (c := c) (d := '.')
    simp only [solid, ne_eq, slash, point]
  simp only [octetWeight, weight, List.countP_cons] at below ⊢
  simp only [same]
  omega

/-- Reading the octets of a run never adds weight, and an escape weighs three
before it is read and at most one after. -/
theorem weight_of_run (run : List Char) : octetWeight (octets run) ≤ weight run ∧
    (HasEscape run → octetWeight (octets run) < weight run) := by
  fun_induction octets run with
  | case1 => exact ⟨Nat.le_refl 0, fun inside => absurd inside no_escape_nil⟩
  | case2 a b rest high low second first ih =>
    have heavy : weight ('%' :: a :: b :: rest) = weight rest + 3 := by
      have firstSolid := (hex_bounds (c := a) (by simp [first])).2
      have secondSolid := (hex_bounds (c := b) (by simp [second])).2
      simp [weight, firstSolid, secondSolid, show solid '%' = true from rfl]
    have one : octetWeight ((16 * high + low) :: octets rest) ≤ octetWeight (octets rest) + 1 := by
      rw [octetWeight, octetWeight, List.countP_cons]
      split <;> omega
    omega
  | case3 a b rest none ih =>
    obtain ⟨bound, strict⟩ := weight_of_plain_octet (c := '%') ih.1
    refine ⟨bound, fun inside => strict (ih.2 ?_)⟩
    rcases has_escape_cons_iff.mp inside with ⟨x, y, tail, _, starts, first, second⟩ | later
    · obtain ⟨high, firstValue⟩ := Option.isSome_iff_exists.mp first
      obtain ⟨low, secondValue⟩ := Option.isSome_iff_exists.mp second
      simp only [List.cons.injEq] at starts
      exact (none high low (starts.1 ▸ firstValue) (starts.2.1 ▸ secondValue)).elim
    · exact later
  | case4 c rest other ih =>
    obtain ⟨bound, strict⟩ := weight_of_plain_octet (c := c) ih.1
    refine ⟨bound, fun inside => strict (ih.2 ?_)⟩
    rcases has_escape_cons_iff.mp inside with ⟨a, b, tail, sign, starts, _⟩ | later
    · exact (other a b tail sign starts).elim
    · exact later

private theorem weight_decodeRun (run : List Char) : weight (decodeRun run) ≤ weight run ∧
    (HasEscape run → weight (decodeRun run) < weight run) := by
  have read := weight_of_octets (octets run)
  obtain ⟨bound, strict⟩ := weight_of_run run
  exact ⟨Nat.le_trans read bound, fun inside => Nat.lt_of_le_of_lt read (strict inside)⟩

private theorem weight_decodeFrom (run cs : List Char) :
    weight (decodeFrom run cs) ≤ weight (run.reverse ++ cs) ∧
      (HasEscape (run.reverse ++ cs) →
        weight (decodeFrom run cs) < weight (run.reverse ++ cs)) := by
  induction cs generalizing run with
  | nil =>
    rw [List.append_nil, decodeFrom]
    exact weight_decodeRun run.reverse
  | cons c rest ih =>
    rw [decodeFrom]
    by_cases small : isAscii c = true
    · simpa [small] using ih (c :: run)
    · obtain ⟨before, beforeStrict⟩ := weight_decodeRun run.reverse
      obtain ⟨after, afterStrict⟩ := ih []
      rw [if_neg small]
      simp only [weight, List.countP_append, List.countP_cons, List.reverse_nil,
        List.nil_append] at before beforeStrict after afterStrict ⊢
      refine ⟨by omega, fun inside => ?_⟩
      rcases has_escape_around (by simpa using small) inside with earlier | later
      · have := beforeStrict earlier
        omega
      · have := afterStrict later
        omega

/-- Decoding never adds weight. -/
theorem weight_decode_le (cs : List Char) : weight (decode cs) ≤ weight cs :=
  (weight_decodeFrom [] cs).1

/-- Reading an escape loses weight. -/
theorem weight_decode_lt (inside : HasEscape cs) : weight (decode cs) < weight cs :=
  (weight_decodeFrom [] cs).2 inside

/-- Without an escape, decoding leaves a text as it is. -/
theorem decode_without_escape (free : ¬ HasEscape cs) : decode cs = cs :=
  decodeFrom_without_escape (by simp) free

end CallTone.PercentDecoding
