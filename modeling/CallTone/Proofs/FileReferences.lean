import Mathlib.Data.List.TakeWhile
import CallTone.Device
import CallTone.Engine
import CallTone.Proofs.PercentDecoding

/-! References to local files. What the engine makes of a reference that starts
with the plain `file` start is one function of the characters after it: tabs and
line breaks are dropped, fragment and query are cut off, escapes are read. The
path is the same as that of the characters themselves exactly when none of
these steps has anything to do. -/
namespace CallTone.FileReferences
open Text PercentDecoding

/-- The characters that splitting a reference drops wherever they stand. -/
def dropped (c : Char) : Bool := c = '\t' ∨ c = '\n' ∨ c = '\r'

/-- The characters that end the part of a reference that names a place. -/
def cuts (c : Char) : Bool := c = '#' ∨ c = '?'

/-- What is left of the characters after the plain start. -/
def keptOf (cs : List Char) : List Char := cs.filter fun c => !dropped c

/-- The characters that name the place, escapes not yet read. -/
def namedOf (cs : List Char) : List Char := (keptOf cs).takeWhile fun c => !cuts c

/-- The authority among the characters after the plain start. -/
def authorityOf (cs : List Char) : List Char :=
  (keptOf cs).takeWhile fun c => !Uri.endsAuthority c

/-- The path among the characters after the plain start. -/
def pathOf (cs : List Char) : List Char :=
  (((keptOf cs).dropWhile fun c => !Uri.endsAuthority c).takeWhile (· ≠ '#')).takeWhile (· ≠ '?')

/-- An authority that splitting does not refuse. -/
def Accepted (authority : List Char) : Prop :=
  Uri.checkAuthority authority = .ok () ∧ authority.any Uri.hidesDelimiter = false

/-! Splitting a `file` reference -/

private theorem clean_reference (cs : List Char) :
    Uri.clean (Device.localStart ++ cs) =
      'f' :: 'i' :: 'l' :: 'e' :: ':' :: '/' :: '/' :: keptOf cs := by
  have start : Device.localStart = ['f', 'i', 'l', 'e', ':', '/', '/'] := rfl
  have same : (fun c => decide (c ≠ '\t' ∧ c ≠ '\n' ∧ c ≠ '\r')) = fun c => !dropped c := by
    funext c
    simp [dropped]
  rw [Uri.clean, same, start]
  rfl

private theorem split_reference (cs : List Char) :
    Uri.splitScheme ('f' :: 'i' :: 'l' :: 'e' :: ':' :: cs) = (['f', 'i', 'l', 'e'], cs) := rfl

private theorem parse_reference (starts : uri.toList = Device.localStart ++ cs) :
    Uri.parse uri =
      match Uri.checkAuthority (authorityOf cs) with
      | .error fault => .error fault
      | .ok () =>
        if (authorityOf cs).any Uri.hidesDelimiter then
          .error (.compatibility (String.ofList (authorityOf cs)))
        else .ok ⟨"file", String.ofList (authorityOf cs), String.ofList (pathOf cs)⟩ := by
  unfold Uri.parse
  rw [starts, clean_reference, split_reference]
  rfl

private theorem parse_accepted (starts : uri.toList = Device.localStart ++ cs)
    (accepted : Accepted (authorityOf cs)) :
    Uri.parse uri = .ok ⟨"file", String.ofList (authorityOf cs), String.ofList (pathOf cs)⟩ := by
  rw [parse_reference starts, accepted.1]
  simp only [accepted.2, Bool.false_eq_true, ↓reduceIte]

private theorem parse_refused (starts : uri.toList = Device.localStart ++ cs)
    (refused : ¬ Accepted (authorityOf cs)) : ∃ fault, Uri.parse uri = .error fault := by
  rw [parse_reference starts]
  cases checked : Uri.checkAuthority (authorityOf cs) with
  | error fault => exact ⟨fault, rfl⟩
  | ok _ =>
    cases hidden : (authorityOf cs).any Uri.hidesDelimiter with
    | true => exact ⟨.compatibility (String.ofList (authorityOf cs)), rfl⟩
    | false => exact absurd ⟨checked, hidden⟩ refused

theorem takeWhile_twice (p q : α → Bool) (l : List α) :
    (l.takeWhile p).takeWhile q = l.takeWhile fun a => p a && q a := by
  induction l with
  | nil => rfl
  | cons a l ih => cases first : p a <;> cases second : q a <;> simp [first, second, ih]

/-- Authority and path together are the text up to the first character that
starts a query or a fragment. -/
private theorem authority_and_path (cs : List Char) : authorityOf cs ++ pathOf cs = namedOf cs := by
  have cut : (fun c => decide (c ≠ '#') && decide (c ≠ '?')) = fun c => !cuts c := by
    funext c
    simp [cuts]
  rw [authorityOf, pathOf, namedOf, takeWhile_twice, cut]
  induction keptOf cs with
  | nil => rfl
  | cons c cs ih =>
    cases ends : Uri.endsAuthority c with
    | true => simp [ends]
    | false =>
      have goesOn : cuts c = false := by
        simp only [Uri.endsAuthority, Bool.or_eq_false_iff, beq_eq_false_iff_ne] at ends
        simp [cuts, ends]
      simpa [ends, goesOn] using ih

/-- What a `file` reference names, and that it names nothing otherwise. -/
theorem file_reference_names_iff (starts : uri.toList = Device.localStart ++ cs) :
    Engine.target uri = .ok (some path) ↔ Accepted (authorityOf cs) ∧
      Percent.decode (namedOf cs) ≠ [] ∧ path = Path.ofChars (Percent.decode (namedOf cs)) := by
  unfold Engine.target
  by_cases accepted : Accepted (authorityOf cs)
  · rw [parse_accepted starts accepted]
    simp only [↓reduceIte, String.toList_append, String.toList_ofList, authority_and_path]
    cases Percent.decode (namedOf cs) with
    | nil => simp
    | cons c chars => simp [accepted, eq_comm]
  · obtain ⟨fault, failed⟩ := parse_refused starts accepted
    simp [failed, accepted]

/-- A `file` reference is never looked up among the media. -/
theorem file_reference_not_looked_up (starts : uri.toList = Device.localStart ++ cs) :
    Engine.target uri ≠ .ok none := by
  unfold Engine.target
  by_cases accepted : Accepted (authorityOf cs)
  · rw [parse_accepted starts accepted]
    simp only [↓reduceIte]
    split <;> simp
  · obtain ⟨fault, failed⟩ := parse_refused starts accepted
    simp [failed]

/-! Encoded paths -/

private theorem encoded_stays (member : c ∈ Percent.encode cs) :
    dropped c = false ∧ cuts c = false ∧ c ≠ '[' ∧ c ≠ ']' ∧ Uri.hidesDelimiter c = false := by
  have apart {d : Char} (strange : Percent.isPlain d = false) (other : d ≠ '%') : c ≠ d := by
    rintro rfl
    rcases encoded_character member with plain | sign
    · simp [strange] at plain
    · exact other sign
  refine ⟨?_, ?_, apart (by decide) (by decide), apart (by decide) (by decide), ?_⟩
  · simp [dropped, apart (d := '\t') (by decide) (by decide),
      apart (d := '\n') (by decide) (by decide), apart (d := '\r') (by decide) (by decide)]
  · simp [cuts, apart (d := '#') (by decide) (by decide),
      apart (d := '?') (by decide) (by decide)]
  · have small : c.toNat < 0x80 := by simpa [isAscii] using encoded_ascii member
    refine Bool.eq_false_iff.mpr fun hidden => ?_
    simp only [Uri.hidesDelimiter, List.contains_eq_mem, List.mem_cons, List.not_mem_nil,
      or_false, decide_eq_true_eq] at hidden
    omega

/-- Splitting leaves every character of an encoded path in the part that names
the place. -/
theorem encoded_named (cs : List Char) : namedOf (Percent.encode cs) = Percent.encode cs := by
  have kept : keptOf (Percent.encode cs) = Percent.encode cs :=
    List.filter_eq_self.mpr fun c member => by simp [(encoded_stays member).1]
  rw [namedOf, kept]
  exact List.takeWhile_eq_self_iff.mpr fun c member => by simp [(encoded_stays member).2.1]

theorem encoded_accepted (cs : List Char) : Accepted (authorityOf (Percent.encode cs)) := by
  have inside {c : Char} (member : c ∈ authorityOf (Percent.encode cs)) :
      c ∈ Percent.encode cs :=
    (List.mem_filter.mp ((List.takeWhile_prefix _).subset member)).1
  have brackets : (authorityOf (Percent.encode cs)).contains '[' = false ∧
      (authorityOf (Percent.encode cs)).contains ']' = false := by
    simp only [List.contains_eq_mem, decide_eq_false_iff_not]
    exact ⟨fun member => (encoded_stays (inside member)).2.2.1 rfl,
      fun member => (encoded_stays (inside member)).2.2.2.1 rfl⟩
  constructor
  · simp only [Uri.checkAuthority, brackets, Bool.false_eq_true, ne_eq, not_true_eq_false,
      ↓reduceIte]
  · rw [List.any_eq_false]
    exact fun c member => by simp [(encoded_stays (inside member)).2.2.2.2]

/-- The reference of a path names that path and nothing else. -/
theorem target_of_path (given : path ≠ "") :
    Engine.target (Uri.ofFile path) = .ok (some (Path.ofString path)) := by
  have starts : (Uri.ofFile path).toList = Device.localStart ++ Percent.encode path.toList := by
    rw [Uri.ofFile, String.toList_append]
    exact congrArg (Device.localStart ++ ·) String.toList_ofList
  rw [file_reference_names_iff starts, encoded_named, decode_encode]
  exact ⟨encoded_accepted path.toList, by simpa using given, rfl⟩

end CallTone.FileReferences
