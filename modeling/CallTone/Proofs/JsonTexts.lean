import CallTone.Proofs.JsonStrings

/-! JSON texts are read back. Reading takes a value off the front of a text, whatever can
follow it there, and skips the blanks that indent its items and members. As many steps of
nesting as the text has characters are enough. Only the order of members is not kept, since
they are written in the order of their names; so what is read is the value with its members
in that order. -/
namespace CallTone.JsonTexts
open Json Text NumberTexts JsonStrings

variable {cs rest : List Char} {fuel depth : Nat} {α β : Type}

/-! Members in the order of their names -/

theorem insert_perm (member : String × α) (members : List (String × α)) :
    (insertMember member members).Perm (member :: members) := by
  induction members with
  | nil => exact .refl _
  | cons first rest ih =>
    rw [insertMember]
    split
    · exact .refl _
    · exact (ih.cons first).trans (.swap member first rest)

/-- Sorting keeps every member. -/
theorem sort_perm (members : List (String × α)) : (sortMembers members).Perm members := by
  suffices any : ∀ sorted, (members.foldl (fun sorted member => insertMember member sorted)
      sorted).Perm (sorted ++ members) from any []
  induction members with
  | nil => intro sorted; rw [List.append_nil]; exact .refl _
  | cons member members ih =>
    intro sorted
    refine (ih _).trans ?_
    exact ((insert_perm member sorted).append_right members).trans List.perm_middle.symm

theorem insert_sorted {member : String × α} {members : List (String × α)}
    (sorted : (members.map Prod.fst).Pairwise (· ≤ ·)) :
    ((insertMember member members).map Prod.fst).Pairwise (· ≤ ·) := by
  induction members with
  | nil => simp [insertMember]
  | cons first rest ih =>
    rw [List.map_cons, List.pairwise_cons] at sorted
    rw [insertMember]
    split
    · next before =>
      rw [List.map_cons, List.map_cons, List.pairwise_cons, List.pairwise_cons]
      refine ⟨fun name among => ?_, sorted⟩
      have first_le : member.1 ≤ first.1 := String.not_lt.mp (String.lt_asymm before)
      rcases List.mem_cons.mp among with rfl | later
      · exact first_le
      · exact String.le_trans first_le (sorted.1 name later)
    · next after =>
      rw [List.map_cons, List.pairwise_cons]
      refine ⟨fun name among => ?_, ih sorted.2⟩
      have kept := ((insert_perm member rest).map Prod.fst).mem_iff.mp among
      rcases List.mem_cons.mp kept with rfl | later
      · exact String.not_lt.mp after
      · exact sorted.1 name later

/-- Members are sorted by their names. -/
theorem sort_sorted (members : List (String × α)) :
    ((sortMembers members).map Prod.fst).Pairwise (· ≤ ·) := by
  refine List.foldlRecOn members (fun sorted member => insertMember member sorted) (b := [])
    (motive := fun sorted => (sorted.map Prod.fst).Pairwise (· ≤ ·)) .nil ?_
  exact fun sorted ordered member _ => insert_sorted ordered

/-- Different names are sorted strictly. -/
theorem sort_rising {members : List (String × α)} (distinct : (members.map Prod.fst).Nodup) :
    ((sortMembers members).map Prod.fst).Pairwise (· < ·) := by
  have once := ((sort_perm members).map Prod.fst).nodup_iff.mpr distinct
  refine (sort_sorted members).imp₂ (fun a b below different => ?_) once
  exact String.not_le.mp fun above => different (String.le_antisymm below above)

theorem insert_map (f : String × α → β) (member : String × α) (members : List (String × α)) :
    insertMember (member.1, f member) (members.map fun m => (m.1, f m)) =
      (insertMember member members).map fun m => (m.1, f m) := by
  induction members with
  | nil => rfl
  | cons first rest ih =>
    rw [List.map_cons, insertMember, insertMember, ih]
    split <;> rfl

/-- Members are sorted by their names, whatever stands under these. -/
theorem sort_map (f : String × α → β) (members : List (String × α)) :
    sortMembers (members.map fun m => (m.1, f m)) =
      (sortMembers members).map fun m => (m.1, f m) := by
  suffices any : ∀ sorted : List (String × α),
      (members.map fun m => (m.1, f m)).foldl (fun sorted member => insertMember member sorted)
        (sorted.map fun m => (m.1, f m)) =
      (members.foldl (fun sorted member => insertMember member sorted) sorted).map
        fun m => (m.1, f m) from any []
  induction members with
  | nil => intro sorted; rfl
  | cons member members ih =>
    intro sorted
    rw [List.map_cons, List.foldl_cons, List.foldl_cons, insert_map, ih]

mutual

/-- The value with the members of each object in the order of their names. -/
def sorted : Json → Json
  | .arr items => .arr (sortedItems items)
  | .obj members => .obj (sortMembers (sortedMembers members))
  | .null => .null
  | .bool b => .bool b
  | .int n => .int n
  | .real x => .real x
  | .str s => .str s

/-- The items, each sorted. -/
def sortedItems : List Json → List Json
  | [] => []
  | item :: items => sorted item :: sortedItems items

/-- The members in their own order, each value sorted. -/
def sortedMembers : List (String × Json) → List (String × Json)
  | [] => []
  | (name, value) :: members => (name, sorted value) :: sortedMembers members

end

theorem sorted_members_eq (members : List (String × Json)) :
    sortedMembers members = members.map fun m => (m.1, sorted m.2) := by
  induction members with
  | nil => rfl
  | cons member members ih => rw [sortedMembers, ih, List.map_cons]

/-! Texts -/

/-- The text of a member of an object. -/
def memberText (depth : Nat) (member : String × Json) : List Char :=
  stringText member.1 ++ ':' :: ' ' :: indentedText depth member.2

theorem member_texts_eq (depth : Nat) (members : List (String × Json)) :
    memberTexts depth members = members.map fun m => (m.1, memberText depth m) := by
  induction members with
  | nil => rfl
  | cons member members ih => rw [memberTexts, ih, List.map_cons, memberText]

/-- The texts of several items or members, as they stand between their brackets. -/
def block (depth : Nat) (texts : List (List Char)) : List Char :=
  joinWith (',' :: lineBreak (depth + 1)) texts

/-- An object is written as its sorted members. -/
theorem object_text (depth : Nat) (member : String × Json) (members : List (String × Json)) :
    indentedText depth (.obj (member :: members)) =
      '\x7b' :: (lineBreak (depth + 1) ++
        (block depth ((sortMembers (member :: members)).map (memberText (depth + 1))) ++
          (lineBreak depth ++ ['\x7d']))) := by
  rw [indentedText, member_texts_eq, sort_map, List.map_map]
  simp only [List.cons_append, List.append_assoc]
  rfl

theorem array_text (depth : Nat) (item : Json) (items : List Json) :
    indentedText depth (.arr (item :: items)) =
      '[' :: (lineBreak (depth + 1) ++
        (block depth (itemTexts (depth + 1) (item :: items)) ++ (lineBreak depth ++ [']']))) := by
  rw [indentedText]
  simp only [List.cons_append, List.append_assoc]
  rfl

theorem block_more (depth : Nat) (first second : List Char) (texts : List (List Char)) :
    block depth (first :: second :: texts) =
      first ++ ',' :: (lineBreak (depth + 1) ++ block depth (second :: texts)) := by
  rw [block, joinWith, List.append_assoc, List.cons_append, ← block]
  exact nofun

/-! Blanks -/

/-- The character is none of those that are skipped between tokens. -/
def Solid (c : Char) : Prop := c ≠ ' ' ∧ c ≠ '\t' ∧ c ≠ '\n' ∧ c ≠ '\r'

instance (c : Char) : Decidable (Solid c) := inferInstanceAs (Decidable (_ ∧ _ ∧ _ ∧ _))

theorem skip_solid {c : Char} (solid : Solid c) (rest : List Char) :
    skipBlanks (c :: rest) = c :: rest := by
  obtain ⟨space, tab, line, back⟩ := solid
  rw [skipBlanks, if_neg (by simp [space, tab, line, back])]

theorem skip_space (rest : List Char) : skipBlanks (' ' :: rest) = skipBlanks rest := by
  rw [skipBlanks, if_pos (.inl rfl)]

theorem skip_line (depth : Nat) (rest : List Char) :
    skipBlanks (lineBreak depth ++ rest) = skipBlanks rest := by
  rw [lineBreak, List.cons_append, skipBlanks, if_pos (by simp)]
  induction 2 * depth with
  | zero => rfl
  | succ width ih => rw [List.replicate_succ, List.cons_append, skip_space, ih]

/-- Nothing read depends on blanks before it. -/
theorem value_after (same : skipBlanks cs = skipBlanks rest) (fuel : Nat) :
    readValue fuel cs = readValue fuel rest := by
  cases fuel with
  | zero => rfl
  | succ fuel => rw [readValue, readValue, same]

theorem items_after (same : skipBlanks cs = skipBlanks rest) (fuel : Nat) :
    readItems fuel cs = readItems fuel rest := by
  cases fuel with
  | zero => rfl
  | succ fuel => rw [readItems, readItems, value_after same]

theorem members_after (same : skipBlanks cs = skipBlanks rest) (fuel : Nat) :
    readMembers fuel cs = readMembers fuel rest := by
  cases fuel with
  | zero => rfl
  | succ fuel => rw [readMembers, readMembers, same]

theorem line_ends (depth : Nat) (rest : List Char) : NumberEnds (lineBreak depth ++ rest) := by
  rw [lineBreak, List.cons_append]
  rintro c ⟨⟩
  decide

/-! Values -/

/-- JSON has a text for the value: all binary numbers in it are finite. -/
inductive Writable : Json → Prop where
  | null : Writable .null
  | bool (b : Bool) : Writable (.bool b)
  | int (n : Int) : Writable (.int n)
  | real {x : Binary64} (finite : x.isFinite = true) : Writable (.real x)
  | str (s : String) : Writable (.str s)
  | arr {items : List Json} (each : ∀ item ∈ items, Writable item) : Writable (.arr items)
  | obj {members : List (String × Json)} (each : ∀ member ∈ members, Writable member.2) :
      Writable (.obj members)

/-- Reading takes the text of the value off the front of a text and gives the sorted value. -/
def ReadsBack (j : Json) : Prop :=
  ∀ depth fuel rest, NumberEnds rest → (indentedText depth j).length ≤ fuel →
    readValue fuel (indentedText depth j ++ rest) = some (sorted j, rest)

/-- The characters that a number starts with are read as one. -/
theorem number_read {c : Char} (numeric : c = '-' ∨ isAsciiDigit c = true) (fuel : Nat)
    (rest : List Char) : readValue (fuel + 1) (c :: rest) = readNumber (c :: rest) := by
  have solid : Solid c := by
    refine ⟨?_, ?_, ?_, ?_⟩ <;>
    · rintro rfl
      exact absurd numeric (by decide)
  rw [readValue, skip_solid solid]
  split
  case h_7 => rfl
  all_goals
    next same =>
      cases (List.cons.inj same).1
      exact absurd numeric (by decide)

/-- The text of a value starts with a character that is no blank and closes no list. -/
theorem value_starts {j : Json} (writable : Writable j) (depth : Nat) :
    ∃ c more, indentedText depth j = c :: more ∧ Solid c ∧ c ≠ ']' := by
  have digit : ∀ c, isAsciiDigit c = true → Solid c ∧ c ≠ ']' := by
    intro c digit
    refine ⟨⟨?_, ?_, ?_, ?_⟩, ?_⟩ <;>
    · rintro rfl
      exact absurd digit (by decide)
  have numeral : ∀ {n : Numeral} (negative : Prop) [Decidable negative], n.Proper →
      ∃ c more, (if negative then ['-'] else []) ++ n.text = c :: more ∧ Solid c ∧ c ≠ ']' := by
    intro n negative _ proper
    split
    · exact ⟨'-', n.text, rfl, by decide, by decide⟩
    · obtain ⟨c, others, starts, first⟩ := numeral_head proper
      exact ⟨c, others, starts, digit c first⟩
  cases writable with
  | null => exact ⟨'n', _, rfl, by decide, by decide⟩
  | bool b =>
    cases b with
    | true => exact ⟨'t', _, rfl, by decide, by decide⟩
    | false => exact ⟨'f', _, rfl, by decide, by decide⟩
  | int n =>
    obtain ⟨written, proper, text, -⟩ := int_written n
    rw [indentedText, text]
    exact numeral _ proper
  | real finite =>
    obtain ⟨written, proper, text, -⟩ := real_written finite
    rw [indentedText, text]
    exact numeral _ proper
  | str s => exact ⟨'"', _, rfl, by decide, by decide⟩
  | @arr items each =>
    cases items with
    | nil => exact ⟨'[', _, rfl, by decide, by decide⟩
    | cons item items => exact ⟨'[', _, array_text .., by decide, by decide⟩
  | @obj members each =>
    cases members with
    | nil => exact ⟨'\x7b', _, rfl, by decide, by decide⟩
    | cons member members => exact ⟨'\x7b', _, object_text .., by decide, by decide⟩

theorem signed_reads {n : Numeral} (proper : n.Proper) (ends : NumberEnds rest) (negative : Bool)
    (fuel : Nat) :
    readValue (fuel + 1) ((if negative then ['-'] else []) ++ n.text ++ rest) =
      some (n.json negative, rest) := by
  have read := signed_read proper ends negative
  obtain ⟨c, others, starts, first⟩ := numeral_head proper
  rw [starts] at read ⊢
  cases negative with
  | true =>
    rw [if_pos rfl, List.append_assoc, List.singleton_append] at read ⊢
    rw [number_read (.inl rfl), read]
  | false =>
    rw [if_neg (by decide), List.nil_append, List.cons_append] at read ⊢
    rw [number_read (.inr first), read]

/-! Lists -/

/-- The items of a list are read one by one up to its end. -/
theorem items_read {items : List Json} (given : items ≠ []) (each : ∀ item ∈ items, ReadsBack item)
    (enough : (block depth (itemTexts (depth + 1) items)).length + 1 ≤ fuel) (rest : List Char) :
    readItems fuel (block depth (itemTexts (depth + 1) items) ++
      (lineBreak depth ++ ']' :: rest)) = some (sortedItems items, rest) := by
  induction items generalizing fuel with
  | nil => exact absurd rfl given
  | cons item items ih =>
    obtain ⟨fuel, rfl⟩ := Nat.exists_eq_add_one_of_ne_zero (Nat.ne_of_gt (Nat.lt_of_lt_of_le
      (Nat.succ_pos _) enough))
    have own := each item List.mem_cons_self
    cases items with
    | nil =>
      have read := own (depth + 1) fuel _ (line_ends depth (']' :: rest))
        (Nat.le_of_succ_le_succ enough)
      change readItems (fuel + 1) (indentedText (depth + 1) item ++ _) = _
      rw [readItems, read]
      simp only [skip_line, skip_solid (show Solid ']' by decide)]
      rfl
    | cons next others =>
      rw [itemTexts, itemTexts, block_more] at enough ⊢
      simp only [List.length_append, List.length_cons] at enough
      rw [List.append_assoc, List.cons_append, List.append_assoc]
      have read := own (depth + 1) fuel (',' :: (lineBreak (depth + 1) ++
        (block depth (itemTexts (depth + 1) (next :: others)) ++ (lineBreak depth ++ ']' :: rest))))
        (by rintro c ⟨⟩; decide) (by omega)
      have later : readItems fuel (block depth (itemTexts (depth + 1) (next :: others)) ++
          (lineBreak depth ++ ']' :: rest)) = some (sortedItems (next :: others), rest) :=
        ih (by simp) (fun other member => each other (List.mem_cons_of_mem item member))
          (by rw [itemTexts]; omega)
      rw [itemTexts] at read later
      rw [readItems, read]
      simp only [skip_solid (show Solid ',' by decide)]
      rw [items_after (skip_line (depth + 1) _), later]
      rfl

/-- What members are read as once the first one's name and value are. -/
def afterValue (fuel : Nat) (name : String) :
    Option (Json × List Char) → Option (List (String × Json) × List Char)
  | none => none
  | some (value, rest) =>
    match skipBlanks rest with
    | ',' :: more => (readMembers fuel more).map fun (members, after) =>
        ((name, value) :: members, after)
    | '\x7d' :: after => some ([(name, value)], after)
    | _ => none

/-- The name, the colon and the blank are read alike whatever follows the value. -/
theorem named_read (fuel depth : Nat) (member : String × Json) (rest : List Char) :
    readMembers (fuel + 1) (memberText depth member ++ rest) =
      afterValue fuel member.1 (readValue fuel (indentedText depth member.2 ++ rest)) := by
  obtain ⟨after, starts, name⟩ := string_read member.1
    (':' :: ' ' :: (indentedText depth member.2 ++ rest))
  have spaced := value_after (skip_space (indentedText depth member.2 ++ rest)) fuel
  rw [memberText, List.append_assoc, List.cons_append, List.cons_append, starts, readMembers,
    skip_solid (by decide)]
  simp only [name, skip_solid (show Solid ':' by decide), spaced, String.ofList_toList]
  rfl

theorem value_within_member (depth : Nat) (member : String × Json) :
    (indentedText depth member.2).length ≤ (memberText depth member).length := by
  simp only [memberText, List.length_append, List.length_cons]
  omega

/-- The members of an object are read one by one up to its end. -/
theorem members_read {members : List (String × Json)} (given : members ≠ [])
    (each : ∀ member ∈ members, ReadsBack member.2)
    (enough : (block depth (members.map (memberText (depth + 1)))).length + 1 ≤ fuel)
    (rest : List Char) :
    readMembers fuel (block depth (members.map (memberText (depth + 1))) ++
      (lineBreak depth ++ '\x7d' :: rest)) =
        some (members.map fun m => (m.1, sorted m.2), rest) := by
  induction members generalizing fuel with
  | nil => exact absurd rfl given
  | cons member members ih =>
    obtain ⟨fuel, rfl⟩ := Nat.exists_eq_add_one_of_ne_zero (Nat.ne_of_gt (Nat.lt_of_lt_of_le
      (Nat.succ_pos _) enough))
    have own := each member List.mem_cons_self
    have long := value_within_member (depth + 1) member
    cases members with
    | nil =>
      have read := own (depth + 1) fuel _ (line_ends depth ('\x7d' :: rest))
        (Nat.le_trans long (Nat.le_of_succ_le_succ enough))
      change readMembers (fuel + 1) (memberText (depth + 1) member ++ _) = _
      rw [named_read, read, afterValue, skip_line, skip_solid (by decide)]
      rfl
    | cons next others =>
      rw [List.map_cons, List.map_cons, block_more] at enough ⊢
      simp only [List.length_append, List.length_cons] at enough
      rw [List.append_assoc, List.cons_append, List.append_assoc]
      have read := own (depth + 1) fuel (',' :: (lineBreak (depth + 1) ++
        (block depth (memberText (depth + 1) next :: others.map (memberText (depth + 1))) ++
          (lineBreak depth ++ '\x7d' :: rest)))) (by rintro c ⟨⟩; decide) (by omega)
      have later : readMembers fuel (block depth ((next :: others).map (memberText (depth + 1))) ++
          (lineBreak depth ++ '\x7d' :: rest)) =
            some ((next :: others).map fun m => (m.1, sorted m.2), rest) :=
        ih (by simp) (fun other among => each other (List.mem_cons_of_mem member among))
          (by rw [List.map_cons]; omega)
      rw [List.map_cons] at later
      rw [named_read, read, afterValue]
      simp only [skip_solid (show Solid ',' by decide)]
      rw [members_after (skip_line (depth + 1) _), later]
      rfl

/-! Whole texts -/

theorem fuel_given {j : Json} (writable : Writable j)
    (enough : (indentedText depth j).length ≤ fuel) : ∃ less, fuel = less + 1 := by
  obtain ⟨c, more, starts, -, -⟩ := value_starts writable depth
  rw [starts, List.length_cons] at enough
  exact Nat.exists_eq_add_one_of_ne_zero (by omega)

theorem block_starts {c : Char} {first more : List Char} (starts : first = c :: more)
    (depth : Nat) (texts : List (List Char)) :
    ∃ others, block depth (first :: texts) = c :: others := by
  cases texts with
  | nil => exact ⟨more, starts⟩
  | cons second texts => exact ⟨_, by rw [block_more, starts, List.cons_append]⟩

theorem array_read {items : List Json} (writable : Writable (.arr items))
    (each : ∀ item ∈ items, Writable item ∧ ReadsBack item) : ReadsBack (.arr items) := by
  intro depth fuel rest ends enough
  obtain ⟨fuel, rfl⟩ := fuel_given writable enough
  cases items with
  | nil => rfl
  | cons item items =>
    obtain ⟨c, more, starts, solid, notClosed⟩ :=
      value_starts (each item List.mem_cons_self).1 (depth + 1)
    obtain ⟨others, begins⟩ := block_starts starts depth (itemTexts (depth + 1) items)
    rw [array_text] at enough ⊢
    simp only [List.length_cons, List.length_append] at enough
    have within : (block depth (itemTexts (depth + 1) (item :: items))).length + 1 ≤ fuel := by
      omega
    have read := items_read (List.cons_ne_nil item items)
      (fun item among => (each item among).2) within rest
    simp only [List.cons_append, List.append_assoc, List.nil_append]
    rw [itemTexts, begins, List.cons_append] at read ⊢
    rw [readValue, skip_solid (by decide)]
    simp only [skip_line, skip_solid solid]
    split
    · next closed => exact absurd (List.cons.inj closed).1 notClosed
    · rw [read]
      rfl

/-- The members of an object are read in the order of their names, in which they are
written. -/
theorem object_read {members : List (String × Json)} (writable : Writable (.obj members))
    (each : ∀ member ∈ members, ReadsBack member.2) : ReadsBack (.obj members) := by
  intro depth fuel rest ends enough
  obtain ⟨fuel, rfl⟩ := fuel_given writable enough
  cases members with
  | nil => rfl
  | cons member members =>
    have perm := sort_perm (member :: members)
    have given := List.ne_nil_of_mem (perm.mem_iff.mpr List.mem_cons_self)
    obtain ⟨first, later, order⟩ := List.exists_cons_of_ne_nil given
    rw [object_text] at enough ⊢
    simp only [List.length_cons, List.length_append] at enough
    have within : (block depth ((sortMembers (member :: members)).map
        (memberText (depth + 1)))).length + 1 ≤ fuel := by
      omega
    have read := members_read given (fun member among => each member (perm.mem_iff.mp among))
      within rest
    have quoted : memberText (depth + 1) first = '"' :: _ := rfl
    obtain ⟨others, begins⟩ := block_starts quoted depth (later.map (memberText (depth + 1)))
    simp only [List.cons_append, List.append_assoc, List.nil_append]
    rw [sorted, sorted_members_eq, sort_map]
    rw [order, List.map_cons, begins, List.cons_append] at read ⊢
    rw [readValue, skip_solid (by decide)]
    simp only [skip_line, skip_solid (show Solid '"' by decide)]
    split
    · next closed => exact absurd (List.cons.inj closed).1 (by decide)
    · rw [read]
      rfl

/-- Every value that has a text is read off the front of it. -/
theorem value_read {j : Json} (writable : Writable j) : ReadsBack j := by
  induction writable with
  | null =>
    intro depth fuel rest ends enough
    obtain ⟨fuel, rfl⟩ := fuel_given .null enough
    rfl
  | bool b =>
    intro depth fuel rest ends enough
    obtain ⟨fuel, rfl⟩ := fuel_given (.bool b) enough
    cases b <;> rfl
  | int n =>
    intro depth fuel rest ends enough
    obtain ⟨fuel, rfl⟩ := fuel_given (.int n) enough
    obtain ⟨written, proper, text, json⟩ := int_written n
    have read := signed_reads proper ends (decide (n < 0)) fuel
    rw [json] at read
    simp only [decide_eq_true_eq] at read
    rw [indentedText, text, read, sorted]
  | real finite =>
    intro depth fuel rest ends enough
    obtain ⟨fuel, rfl⟩ := fuel_given (.real finite) enough
    obtain ⟨written, proper, text, json⟩ := real_written finite
    rw [indentedText, text, signed_reads proper ends, json, sorted]
  | str s =>
    intro depth fuel rest ends enough
    obtain ⟨fuel, rfl⟩ := fuel_given (.str s) enough
    obtain ⟨after, starts, read⟩ := string_read s rest
    rw [indentedText, starts, readValue, skip_solid (by decide)]
    simp only [read, Option.map_some, String.ofList_toList, sorted]
  | arr each ih => exact array_read (.arr each) fun item among => ⟨each item among, ih item among⟩
  | obj each ih => exact object_read (.obj each) ih

/-- The text of a value is read as the value, with its members in the order of their names. -/
theorem text_read {j : Json} (writable : Writable j) : Json.read j.indented = some (sorted j) := by
  have read := value_read writable 0 (2 * (indentedText 0 j).length + 2) [] nofun (by omega)
  rw [List.append_nil] at read
  rw [Json.read, indented, String.toList_ofList]
  simp only [read]
  rfl

/-! Characters -/

theorem numeral_ascii {n : Numeral} (proper : n.Proper) (negative : Prop) [Decidable negative] :
    Ascii ((if negative then ['-'] else []) ++ n.text) := by
  refine ascii_append.mpr ⟨?_, ascii_append.mpr ⟨ascii_digits proper.whole, ascii_append.mpr ?_⟩⟩
  · split
    · exact ascii_cons.mpr ⟨by decide, ascii_nil⟩
    · exact ascii_nil
  · constructor
    · cases given : n.places with
      | none => exact ascii_nil
      | some places =>
        exact ascii_cons.mpr ⟨by decide, ascii_digits (proper.places places given).1⟩
    · cases n.exponent with
      | none => exact ascii_nil
      | some e =>
        obtain ⟨ds, digits, -, -, text⟩ := exponent_text e
        rw [Numeral.exponentPart, text]
        refine ascii_cons.mpr ⟨by decide, ascii_cons.mpr ⟨?_, ascii_digits digits⟩⟩
        split <;> decide

theorem line_ascii (depth : Nat) : Ascii (lineBreak depth) :=
  ascii_cons.mpr ⟨by decide, fun _ among => List.eq_of_mem_replicate among ▸ by decide⟩

theorem block_ascii {texts : List (List Char)} (each : ∀ text ∈ texts, Ascii text) :
    Ascii (block depth texts) := by
  induction texts with
  | nil => exact ascii_nil
  | cons first texts ih =>
    cases texts with
    | nil => exact each first List.mem_cons_self
    | cons second texts =>
      rw [block_more]
      refine ascii_append.mpr ⟨each first List.mem_cons_self, ascii_cons.mpr ⟨by decide, ?_⟩⟩
      exact ascii_append.mpr ⟨line_ascii _, ih fun text among => each text (.tail _ among)⟩

theorem item_texts_eq (depth : Nat) (items : List Json) :
    itemTexts depth items = items.map (indentedText depth) := by
  induction items with
  | nil => rfl
  | cons item items ih => rw [itemTexts, ih, List.map_cons]

theorem wrapped_ascii {opens closes : Char} {inside : List Char} (first : isAscii opens = true)
    (last : isAscii closes = true) (inner : Ascii inside) (depth : Nat) :
    Ascii (opens :: (lineBreak (depth + 1) ++ (inside ++ (lineBreak depth ++ [closes])))) := by
  simp only [ascii_cons, ascii_append, line_ascii, inner, first, last, ascii_nil, and_self]

/-- Everything in the text of a value is ASCII. -/
theorem text_ascii {j : Json} (writable : Writable j) (depth : Nat) :
    Ascii (indentedText depth j) := by
  induction writable generalizing depth with
  | null => exact (by decide : Ascii "null".toList)
  | bool b =>
    cases b with
    | true => exact (by decide : Ascii "true".toList)
    | false => exact (by decide : Ascii "false".toList)
  | int n =>
    obtain ⟨written, proper, text, -⟩ := int_written n
    rw [indentedText, text]
    exact numeral_ascii proper _
  | real finite =>
    obtain ⟨written, proper, text, -⟩ := real_written finite
    rw [indentedText, text]
    exact numeral_ascii proper _
  | str s => exact string_ascii s
  | @arr items each ih =>
    cases items with
    | nil => exact (by decide : Ascii ['[', ']'])
    | cons item items =>
      rw [array_text, item_texts_eq]
      refine wrapped_ascii (by decide) (by decide) (block_ascii fun text among => ?_) depth
      obtain ⟨item, within, rfl⟩ := List.mem_map.mp among
      exact ih item within (depth + 1)
  | @obj members each ih =>
    cases members with
    | nil => exact (by decide : Ascii ['\x7b', '\x7d'])
    | cons member members =>
      rw [object_text]
      refine wrapped_ascii (by decide) (by decide) (block_ascii fun text among => ?_) depth
      obtain ⟨member, within, rfl⟩ := List.mem_map.mp among
      have kept := (sort_perm _).mem_iff.mp within
      refine ascii_append.mpr ⟨string_ascii member.1, ascii_cons.mpr ⟨by decide, ?_⟩⟩
      exact ascii_cons.mpr ⟨by decide, ih member kept (depth + 1)⟩

end CallTone.JsonTexts
