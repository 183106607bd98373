import CallTone.Text.Digit

/-!
UTF-8 in both directions, over octets as naturals. Decoding cuts the octets into segments: a
character, or the longest run of octets that starts a character and is not continued as one. Every
ill-formed octet is in exactly one such run, so replacing each run by one replacement character, or
refusing the first one with its place and its reason, are both read off the same segments.
-/
namespace CallTone.Text.Utf8

def encodeChar (c : Char) : List Nat :=
  let n := c.toNat
  if n < 0x80 then [n]
  else if n < 0x800 then [0xC0 + n / 0x40, 0x80 + n % 0x40]
  else if n < 0x10000 then [0xE0 + n / 0x1000, 0x80 + n / 0x40 % 0x40, 0x80 + n % 0x40]
  else [0xF0 + n / 0x40000, 0x80 + n / 0x1000 % 0x40, 0x80 + n / 0x40 % 0x40, 0x80 + n % 0x40]

def encode (cs : List Char) : List Nat := cs.flatMap encodeChar

/-- Why octets do not form a character. -/
inductive Reason where
  /-- No character starts with this octet. -/
  | start
  /-- The next octet does not continue the character. -/
  | continuation
  /-- The octets end inside the character. -/
  | ending
deriving DecidableEq, Repr

/-- A cut of the octets: a character or a run that is not one. -/
inductive Segment where
  | char (c : Char)
  | broken (octets : List Nat) (reason : Reason)
deriving DecidableEq

def isTail (b : Nat) : Bool := 0x80 ≤ b && b ≤ 0xBF

/-- What a first octet announces: the character's length and the range of its second octet. -/
inductive Lead where
  | one
  | two
  | three (low high : Nat)
  | four (low high : Nat)
  | none
deriving DecidableEq

/-- The announcement of a first octet. -/
def lead (b : Nat) : Lead :=
  if b < 0x80 then .one
  else if b < 0xC2 then .none
  else if b < 0xE0 then .two
  else if b = 0xE0 then .three 0xA0 0xBF
  else if b = 0xED then .three 0x80 0x9F
  else if b < 0xF0 then .three 0x80 0xBF
  else if b = 0xF0 then .four 0x90 0xBF
  else if b < 0xF4 then .four 0x80 0xBF
  else if b = 0xF4 then .four 0x80 0x8F
  else .none

/-- The segments of octets, in order. -/
def segments : List Nat → List Segment
  | [] => []
  | b :: rest =>
    match lead b with
    | .one => .char (Char.ofNat b) :: segments rest
    | .none => .broken [b] .start :: segments rest
    | .two =>
      match rest with
      | [] => [.broken [b] .ending]
      | b₁ :: rest₁ =>
        if isTail b₁ then .char (Char.ofNat ((b - 0xC0) * 0x40 + (b₁ - 0x80))) :: segments rest₁
        else .broken [b] .continuation :: segments (b₁ :: rest₁)
    | .three low high =>
      match rest with
      | [] => [.broken [b] .ending]
      | b₁ :: rest₁ =>
        if low ≤ b₁ ∧ b₁ ≤ high then
          match rest₁ with
          | [] => [.broken [b, b₁] .ending]
          | b₂ :: rest₂ =>
            if isTail b₂ then
              .char (Char.ofNat ((b - 0xE0) * 0x1000 + (b₁ - 0x80) * 0x40 + (b₂ - 0x80))) ::
                segments rest₂
            else .broken [b, b₁] .continuation :: segments (b₂ :: rest₂)
        else .broken [b] .continuation :: segments (b₁ :: rest₁)
    | .four low high =>
      match rest with
      | [] => [.broken [b] .ending]
      | b₁ :: rest₁ =>
        if low ≤ b₁ ∧ b₁ ≤ high then
          match rest₁ with
          | [] => [.broken [b, b₁] .ending]
          | b₂ :: rest₂ =>
            if isTail b₂ then
              match rest₂ with
              | [] => [.broken [b, b₁, b₂] .ending]
              | b₃ :: rest₃ =>
                if isTail b₃ then
                  .char (Char.ofNat ((b - 0xF0) * 0x40000 + (b₁ - 0x80) * 0x1000 +
                    (b₂ - 0x80) * 0x40 + (b₃ - 0x80))) :: segments rest₃
                else .broken [b, b₁, b₂] .continuation :: segments (b₃ :: rest₃)
            else .broken [b, b₁] .continuation :: segments (b₂ :: rest₂)
        else .broken [b] .continuation :: segments (b₁ :: rest₁)

/-- The character of a segment, the replacement character for a run that is none. -/
def Segment.replaced : Segment → Char
  | .char c => c
  | .broken _ _ => '\uFFFD'

/-- The text of octets, with a replacement character for each run that is no character. -/
def decodeLossy (octets : List Nat) : List Char := (segments octets).map Segment.replaced

/-- The first run of octets that is no character. -/
structure Fault where
  offset : Nat
  octets : List Nat
  reason : Reason
deriving DecidableEq

/-- The text of the segments from `offset` on, or the first run that is no character. -/
def collect (offset : Nat) : List Segment → Except Fault (List Char)
  | [] => .ok []
  | .char c :: rest => (collect (offset + (encodeChar c).length) rest).map (c :: ·)
  | .broken octets reason :: _ => .error ⟨offset, octets, reason⟩

/-- The text of octets, or the first run that is no character. -/
def decode (octets : List Nat) : Except Fault (List Char) := collect 0 (segments octets)

/-- The octets at the end that start a character and stop short. -/
def unfinished (octets : List Nat) : List Nat :=
  match (segments octets).getLast? with
  | some (.broken pending .ending) => pending
  | _ => []

/-- The text of octets that arrive in blocks. Places are counted from the start of a block, the
unfinished octets of the block before included. -/
def decodeBlocks (pending : List Nat) : List (List Nat) → Except Fault (List Char)
  | [] => decode pending
  | block :: blocks =>
    let octets := pending ++ block
    let later := unfinished octets
    match decode (octets.take (octets.length - later.length)) with
    | .error fault => .error fault
    | .ok cs => (decodeBlocks later blocks).map (cs ++ ·)

def Reason.text : Reason → String
  | .start => "invalid start byte"
  | .continuation => "invalid continuation byte"
  | .ending => "unexpected end of data"

/-- The message about a run of octets: its place, and its value when it is a single one. -/
def Fault.message (fault : Fault) : String :=
  let place :=
    match fault.octets with
    | [b] => "byte 0x" ++ String.ofList (hexText 2 b) ++ " in position " ++ toString fault.offset
    | octets => "bytes in position " ++ toString fault.offset ++ "-" ++
        toString (fault.offset + octets.length - 1)
  "'utf-8' codec can't decode " ++ place ++ ": " ++ fault.reason.text

end CallTone.Text.Utf8
