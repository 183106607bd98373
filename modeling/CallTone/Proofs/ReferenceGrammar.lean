import CallTone.Proofs.FileReferences

/-! The grammar of references. A reference is cut where certain characters first stand,
and each piece is described here by what is in it and what it stops at, without
saying how the pieces are found. Splitting a reference finds exactly these pieces, and
refuses it when its authority is not accepted. -/
namespace CallTone.ReferenceGrammar
open FileReferences

/-! Pieces -/

/-- The text is cut where the first character stands that ends the part before. -/
structure CutAt (ends : Char → Bool) (text before after : List Char) : Prop where
  whole : text = before ++ after
  inside : ∀ c ∈ before, ends c = false
  stopped : ∀ c ∈ after.head?, ends c = true

theorem cut_at_iff (ends : Char → Bool) (text before after : List Char) :
    CutAt ends text before after ↔
      text.takeWhile (fun c => !ends c) = before ∧ text.dropWhile (fun c => !ends c) = after := by
  constructor
  · rintro ⟨rfl, inside, stopped⟩
    induction before with
    | nil =>
      cases after with
      | nil => exact ⟨rfl, rfl⟩
      | cons c rest => simp [stopped c rfl]
    | cons c before ih =>
      have first : ends c = false := inside c List.mem_cons_self
      have rest := ih fun d member => inside d (List.mem_cons_of_mem c member)
      simp [first, rest]
  · rintro ⟨rfl, rfl⟩
    refine ⟨List.takeWhile_append_dropWhile.symm, fun c member => ?_, fun c first => ?_⟩
    · simpa using List.mem_takeWhile_imp member
    · have stopped := List.head?_dropWhile_not (fun c => !ends c) text
      rw [Option.mem_def.mp first] at stopped
      simpa using stopped

/-- A word that can be a scheme: a letter, then letters, digits and a few signs. -/
def SchemeWord : List Char → Prop
  | [] => False
  | first :: more =>
    Text.isAsciiLetter first = true ∧ ∀ c ∈ more, Uri.isSchemeChar c = true

/-- The scheme of a text, in small letters, and what follows its colon. -/
inductive SchemeOf (text : List Char) : List Char → List Char → Prop where
  | named (word : SchemeWord letters) (split : text = letters ++ ':' :: rest) :
      SchemeOf text (letters.map Text.smallLetter) rest
  | nameless (none : ∀ letters rest, text = letters ++ ':' :: rest → ¬ SchemeWord letters) :
      SchemeOf text [] text

/-- The authority after two slashes, and the rest. -/
inductive AuthorityOf (text : List Char) : List Char → List Char → Prop where
  | given (start : text = '/' :: '/' :: after)
      (cut : CutAt Uri.endsAuthority after authority rest) : AuthorityOf text authority rest
  | absent (none : ∀ after, text ≠ '/' :: '/' :: after) : AuthorityOf text [] text

/-- The pieces of a reference: after the blanks in front, and with tabs and line breaks
dropped, a scheme, an authority, and a path up to the first sign of a query or a
fragment. -/
inductive Pieces (uri : String) : List Char → List Char → List Char → Prop where
  | laid (blank : CutAt (fun c => 0x20 < c.toNat) uri.toList front body)
      (named : SchemeOf (keptOf body) scheme rest) (given : AuthorityOf rest authority tail)
      (ends : CutAt cuts tail path further) : Pieces uri scheme authority path

/-- What a reference is split into, or why it is refused. Only its authority decides
which: whether its brackets are in order, and then whether it hides a delimiter. -/
inductive Splits (uri : String) : Except Uri.Fault Uri → Prop where
  | parts (pieces : Pieces uri scheme authority path) (accepted : Accepted authority) :
      Splits uri (.ok ⟨String.ofList scheme, String.ofList authority, String.ofList path⟩)
  | disordered (pieces : Pieces uri scheme authority path)
      (checked : Uri.checkAuthority authority = .error fault) : Splits uri (.error fault)
  | concealing (pieces : Pieces uri scheme authority path)
      (checked : Uri.checkAuthority authority = .ok ())
      (hides : authority.any Uri.hidesDelimiter = true) :
      Splits uri (.error (.compatibility (String.ofList authority)))

/-! Splitting finds the pieces -/

/-- A text is at the first colon when there is none before it. -/
private theorem cut_at_colon (text before after : List Char) :
    CutAt (· = ':') text before after ↔
      text.takeWhile (· ≠ ':') = before ∧ text.dropWhile (· ≠ ':') = after := by
  rw [cut_at_iff]
  simp

private theorem scheme_word_chars (word : SchemeWord letters) :
    ∀ c ∈ letters, Uri.isSchemeChar c = true := by
  cases letters with
  | nil => exact word.elim
  | cons first more =>
    have letter : Uri.isSchemeChar first = true := by simp [Uri.isSchemeChar, word.1]
    exact List.forall_mem_cons.mpr ⟨letter, word.2⟩

/-- No scheme has a colon in it. -/
private theorem scheme_word_cut (word : SchemeWord letters) (rest : List Char) :
    CutAt (· = ':') (letters ++ ':' :: rest) letters (':' :: rest) := by
  refine ⟨rfl, fun c member => ?_, fun c first => ?_⟩
  · have schemely := scheme_word_chars word c member
    refine decide_eq_false ?_
    rintro rfl
    exact absurd schemely (by decide)
  · cases first
    rfl

theorem split_scheme_named (word : SchemeWord letters) (rest : List Char) :
    Uri.splitScheme (letters ++ ':' :: rest) = (letters.map Text.smallLetter, rest) := by
  obtain ⟨before, after⟩ := (cut_at_colon ..).mp (scheme_word_cut word rest)
  unfold Uri.splitScheme
  rw [before, after]
  have chars := scheme_word_chars word
  cases letters with
  | nil => exact word.elim
  | cons first more =>
    have schemely : (first :: more).all Uri.isSchemeChar = true := List.all_eq_true.mpr chars
    simp [word.1, schemely]

theorem split_scheme_nameless
    (none : ∀ letters rest, text = letters ++ ':' :: rest → ¬ SchemeWord letters) :
    Uri.splitScheme text = ([], text) := by
  have cut := (cut_at_colon text _ _).mpr ⟨rfl, rfl⟩
  unfold Uri.splitScheme
  dsimp only
  split
  next rest after =>
    rw [after] at cut
    split
    next first more before =>
      split
      next word =>
        simp only [Bool.and_eq_true, List.all_eq_true] at word
        refine absurd ?_ (none _ rest cut.whole)
        rw [before] at word ⊢
        exact ⟨word.1, fun c member => word.2 c (List.mem_cons_of_mem first member)⟩
      next => rfl
    next => rfl
  next => rfl

theorem scheme_of_iff (text scheme rest : List Char) :
    SchemeOf text scheme rest ↔ Uri.splitScheme text = (scheme, rest) := by
  constructor
  · intro named
    cases named with
    | named word split =>
      rw [split]
      exact split_scheme_named word rest
    | nameless none => exact split_scheme_nameless none
  · intro found
    by_cases named : ∃ letters rest, text = letters ++ ':' :: rest ∧ SchemeWord letters
    · obtain ⟨letters, rest, rfl, word⟩ := named
      rw [split_scheme_named word] at found
      cases found
      exact .named word rfl
    · have none : ∀ letters rest, text = letters ++ ':' :: rest → ¬ SchemeWord letters :=
        fun letters rest split word => named ⟨letters, rest, split, word⟩
      rw [split_scheme_nameless none] at found
      cases found
      exact .nameless none

theorem authority_of_iff (text authority rest : List Char) :
    AuthorityOf text authority rest ↔ Uri.splitAuthority text = (authority, rest) := by
  constructor
  · intro given
    cases given with
    | given start cut =>
      obtain ⟨rfl, rfl⟩ := (cut_at_iff ..).mp cut
      rw [start]
      rfl
    | absent none =>
      unfold Uri.splitAuthority
      split
      next after => exact absurd rfl (none after)
      next => rfl
  · intro found
    unfold Uri.splitAuthority at found
    split at found
    next after =>
      cases found
      exact .given rfl ((cut_at_iff ..).mpr ⟨rfl, rfl⟩)
    next none =>
      cases found
      exact .absent none

/-- What is left of a text after the blanks in front and what is dropped anywhere. -/
private theorem clean_of_cut (blank : CutAt (fun c => 0x20 < c.toNat) text front body) :
    Uri.clean text = keptOf body := by
  obtain ⟨-, rfl⟩ := (cut_at_iff ..).mp blank
  have blanks : (fun c : Char => !decide (0x20 < c.toNat)) = fun c => decide (c.toNat ≤ 0x20) := by
    funext c
    rw [← decide_not]
    exact decide_eq_decide.mpr Nat.not_lt
  have breaks : (fun c => decide (c ≠ '\t' ∧ c ≠ '\n' ∧ c ≠ '\r')) = fun c => !dropped c := by
    funext c
    simp [dropped]
  rw [Uri.clean, keptOf, blanks, breaks]

private theorem path_of_cut (cut : CutAt cuts tail path further) :
    (tail.takeWhile (· ≠ '#')).takeWhile (· ≠ '?') = path := by
  obtain ⟨rfl, -⟩ := (cut_at_iff ..).mp cut
  rw [takeWhile_twice]
  congr
  funext c
  simp [cuts]

theorem cut_exists (ends : Char → Bool) (text : List Char) :
    ∃ before after, CutAt ends text before after :=
  ⟨_, _, (cut_at_iff ends text _ _).mpr ⟨rfl, rfl⟩⟩

/-- Every reference has pieces, be its authority accepted or not. -/
theorem pieces_exist (uri : String) : ∃ scheme authority path, Pieces uri scheme authority path := by
  obtain ⟨front, body, blank⟩ := cut_exists (fun c => 0x20 < c.toNat) uri.toList
  have named := (scheme_of_iff (keptOf body) _ _).mpr rfl
  have given := (authority_of_iff (Uri.splitScheme (keptOf body)).2 _ _).mpr rfl
  obtain ⟨path, further, ends⟩ :=
    cut_exists cuts (Uri.splitAuthority (Uri.splitScheme (keptOf body)).2).2
  exact ⟨_, _, path, .laid blank named given ends⟩

/-- What is made of the pieces. -/
theorem pieces_parsed (pieces : Pieces uri scheme authority path) :
    Uri.parse uri =
      match Uri.checkAuthority authority with
      | .error fault => .error fault
      | .ok () =>
        if authority.any Uri.hidesDelimiter then
          .error (.compatibility (String.ofList authority))
        else .ok ⟨String.ofList scheme, String.ofList authority, String.ofList path⟩ := by
  obtain ⟨blank, named, given, ends⟩ := pieces
  obtain rfl := path_of_cut ends
  unfold Uri.parse
  rw [clean_of_cut blank, (scheme_of_iff ..).mp named]
  have parts := (authority_of_iff ..).mp given
  cases checked : Uri.checkAuthority authority with
  | error fault => simp only [parts, checked]
  | ok _ => simp only [parts, checked]

/-- Splitting a reference comes to what it is split into by the grammar: its parts, or
why it is refused. -/
theorem splits_iff (uri : String) (outcome : Except Uri.Fault Uri) :
    Splits uri outcome ↔ Uri.parse uri = outcome := by
  constructor
  · intro splits
    cases splits with
    | parts pieces accepted =>
      rw [pieces_parsed pieces, accepted.1]
      simp only [accepted.2, Bool.false_eq_true, ↓reduceIte]
    | disordered pieces checked => rw [pieces_parsed pieces, checked]
    | concealing pieces checked hides =>
      rw [pieces_parsed pieces, checked]
      simp only [hides, ↓reduceIte]
  · intro parsed
    obtain ⟨scheme, authority, path, pieces⟩ := pieces_exist uri
    rw [pieces_parsed pieces] at parsed
    cases checked : Uri.checkAuthority authority with
    | error fault =>
      rw [checked] at parsed
      rw [← parsed]
      exact .disordered pieces checked
    | ok _ =>
      rw [checked] at parsed
      cases hides : authority.any Uri.hidesDelimiter with
      | true =>
        rw [← parsed]
        simpa only [hides, ↓reduceIte] using Splits.concealing pieces checked hides
      | false =>
        rw [← parsed]
        simpa only [hides, Bool.false_eq_true, ↓reduceIte] using
          Splits.parts pieces ⟨checked, hides⟩

/-- Blanks, capitals, a line break in the scheme, a second slash pair and a fragment. -/
example : Splits " FI\nLE:/\t/a//b%20c;x?y#z" (.ok ⟨"file", "a", "//b%20c;x"⟩) :=
  (splits_iff ..).mpr (by decide)

end CallTone.ReferenceGrammar
