import CallTone.Text.Digit

/-!
Letters: what texts are made of. A letter is a character, or half of a surrogate pair that stands
alone, as an escape in a document can write it. A half has a code but is no character: it cannot be
encoded, and messages show replacement characters for it. A text of characters alone is a string.
-/
namespace CallTone

/-- A character, or half of a surrogate pair. -/
inductive Letter where
  | char (c : Char)
  /-- The half whose code lies so far above U+D800. -/
  | half (place : Fin 0x800)
deriving DecidableEq, Repr

namespace Letter

def code : Letter → Nat
  | .char c => c.toNat
  | .half place => 0xD800 + place

def char? : Letter → Option Char
  | .char c => some c
  | .half _ => none

def isChar (letter : Letter) : Bool := letter.char?.isSome

/-- The characters that messages show for a letter. -/
def told : Letter → List Char
  | .char c => [c]
  | .half _ => List.replicate 3 '\ufffd'

end Letter

/-- A text: letters in a row. -/
structure Text where
  letters : List Letter
deriving DecidableEq, Repr

namespace Text

def ofChars (cs : List Char) : Text := ⟨cs.map .char⟩

def ofString (s : String) : Text := ofChars s.toList

instance : Coe String Text := ⟨ofString⟩

def codes (text : Text) : List Nat := text.letters.map Letter.code

/-- Texts are ordered by the codes of their letters. -/
instance : LT Text := ⟨fun a b => List.Lex (· < ·) a.codes b.codes⟩

instance : LE Text := ⟨fun a b => ¬ b < a⟩

instance (a b : Text) : Decidable (a < b) := List.decidableLex (· < ·) a.codes b.codes

instance (a b : Text) : Decidable (a ≤ b) := inferInstanceAs (Decidable (¬ b < a))

theorem le_trans {a b c : Text} (first : a ≤ b) (second : b ≤ c) : a ≤ c :=
  @List.le_trans Nat _ _ _ _ a.codes b.codes c.codes first second

theorem le_total (a b : Text) : a ≤ b ∨ b ≤ a :=
  @List.le_total Nat _ _ a.codes b.codes

/-- The string that messages show for a text. -/
def told (text : Text) : String := String.ofList (text.letters.flatMap Letter.told)

/-- Where a text is only shown, it is shown as messages show it. -/
instance : CoeTail Text String := ⟨told⟩

/-! ### Strings among texts -/

def isString (text : Text) : Bool := text.letters.all Letter.isChar

/-- The characters of a text, without its halves. -/
def chars (text : Text) : List Char := text.letters.filterMap Letter.char?

/-- Halves in a row that cannot be encoded: the place of the first, and how many follow it. -/
structure Stray where
  place : Nat
  first : Fin 0x800
  following : Nat
deriving DecidableEq, Repr

/-- The first halves that cannot be encoded, those left out that stand for octets; places are
counted from `place`. -/
def strayFrom (isOctet : Fin 0x800 → Bool) (place : Nat) : List Letter → Option Stray
  | [] => none
  | .char _ :: rest => strayFrom isOctet (place + 1) rest
  | .half first :: rest =>
    if isOctet first then strayFrom isOctet (place + 1) rest
    else some ⟨place, first, (rest.takeWhile fun letter => !letter.isChar).length⟩

/-- The words for halves that cannot be encoded. -/
def Stray.message (stray : Stray) : String :=
  let place :=
    if stray.following = 0 then
      "character '\\u" ++ String.ofList (hexText 4 (Letter.half stray.first).code) ++
        "' in position " ++ toString stray.place
    else
      "characters in position " ++ toString stray.place ++ "-" ++
        toString (stray.place + stray.following)
  "'utf-8' codec can't encode " ++ place ++ ": surrogates not allowed"

/-- The string that a text is, or the halves that keep it from being one. -/
def strict (text : Text) : Except Stray String :=
  match strayFrom (fun _ => false) 0 text.letters with
  | none => .ok (String.ofList text.chars)
  | some stray => .error stray

def string? (text : Text) : Option String := text.strict.toOption

@[simp] theorem isString_ofString (s : String) : (ofString s).isString = true := by
  simp [isString, ofString, ofChars, Letter.isChar, Letter.char?]

@[simp] theorem chars_ofString (s : String) : (ofString s).chars = s.toList := by
  rw [chars, ofString, ofChars, List.filterMap_map]
  exact List.filterMap_some

theorem ofChars_chars {text : Text} (plain : text.isString = true) : ofChars text.chars = text := by
  obtain ⟨letters⟩ := text
  induction letters with
  | nil => rfl
  | cons letter rest ih =>
    simp only [isString, List.all_cons, Bool.and_eq_true] at plain
    have later := congrArg letters (ih plain.2)
    cases letter with
    | char c =>
      simp only [ofChars, chars] at later ⊢
      simpa [Letter.char?] using later
    | half place => cases plain.1

theorem strayFrom_eq_none {place : Nat} {letters : List Letter} :
    strayFrom (fun _ => false) place letters = none ↔ letters.all Letter.isChar = true := by
  induction letters generalizing place with
  | nil => simp [strayFrom]
  | cons letter rest ih =>
    cases letter with
    | char c => simp [strayFrom, ih, Letter.isChar, Letter.char?]
    | half first => simp [strayFrom, Letter.isChar, Letter.char?]

/-- A text is a string exactly when all its letters are characters. -/
theorem strict_eq_ok {text : Text} {s : String} : text.strict = .ok s ↔ ofString s = text := by
  unfold strict
  cases found : strayFrom (fun _ => false) 0 text.letters with
  | none =>
    have plain : ofChars text.chars = text := ofChars_chars (strayFrom_eq_none.mp found)
    constructor
    · rintro ⟨⟩
      rwa [ofString, String.toList_ofList]
    · rintro rfl
      rw [chars_ofString, String.ofList_toList]
  | some stray =>
    refine iff_of_false nofun ?_
    rintro rfl
    have plain : strayFrom (fun _ => false) 0 (ofString s).letters = none :=
      strayFrom_eq_none.mpr (isString_ofString s)
    rw [plain] at found
    cases found

@[simp] theorem strict_ofString (s : String) : (ofString s).strict = .ok s := strict_eq_ok.mpr rfl

@[simp] theorem ofString_inj {s t : String} : ofString s = ofString t ↔ s = t := by
  rw [← strict_eq_ok, strict_ofString, Except.ok.injEq, eq_comm]

/-- The letters of a text are all characters exactly when it is a string. -/
theorem isString_iff {text : Text} : text.isString = true ↔ ∃ s, text.strict = .ok s := by
  constructor
  · intro plain
    exact ⟨String.ofList text.chars, strict_eq_ok.mpr (by
      rw [ofString, String.toList_ofList, ofChars_chars plain])⟩
  · rintro ⟨s, written⟩
    rw [← strict_eq_ok.mp written]
    exact isString_ofString s

theorem string?_eq_some {text : Text} {s : String} : text.string? = some s ↔ ofString s = text := by
  rw [← strict_eq_ok, string?]
  cases text.strict <;> simp [Except.toOption]

end Text

/-! ### Types of texts -/

/-- A type of texts: each is made of letters, none of some letters, and every string is one. -/
class Spelling (τ : Type) where
  text : τ → Text
  ofText? : Text → Option τ
  ofString : String → τ
  ofText?_eq_some {written : Text} {a : τ} : ofText? written = some a ↔ text a = written
  text_ofString (s : String) : text (ofString s) = s

namespace Spelling

instance : Spelling Text where
  text := id
  ofText? := some
  ofString := Text.ofString
  ofText?_eq_some := by simp [eq_comm]
  text_ofString _ := rfl

@[default_instance] instance : Spelling String where
  text := Text.ofString
  ofText? := Text.string?
  ofString := id
  ofText?_eq_some := Text.string?_eq_some
  text_ofString _ := rfl

/-- Texts of one type are told apart by their letters. -/
theorem text_inj {τ : Type} [Spelling τ] {a b : τ} : text a = text b ↔ a = b := by
  refine ⟨fun same => ?_, congrArg text⟩
  have first : ofText? (text b) = some a := ofText?_eq_some.mpr same
  have second : ofText? (text b) = some b := ofText?_eq_some.mpr rfl
  exact Option.some.inj (first.symm.trans second)

end Spelling
end CallTone
