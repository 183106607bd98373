import CallTone.Text.Digit
import CallTone.Text.Pieces
import CallTone.Text.Quoted

/-!
Hosts in square brackets. What stands between the brackets has to be an IP address of version 6, or
an address of a future version: `v`, hexadecimal digits, a point and a name. An IP address of
version 4 is no host in brackets.
-/
namespace CallTone.Uri

/-- Whether the text is a number from 0 to 255 in at most three digits without a leading zero. -/
def isOctet (cs : List Char) : Bool :=
  !cs.isEmpty && cs.all Text.isAsciiDigit && cs.length ≤ 3 &&
    (cs == ['0'] || cs.head? != some '0') &&
    cs.foldl (fun n c => 10 * n + (c.toNat - 48)) 0 ≤ 255

def isAddress4 (cs : List Char) : Bool :=
  let pieces := Text.splitOn '.' cs
  pieces.length == 4 && pieces.all isOctet

def isGroup (cs : List Char) : Bool :=
  !cs.isEmpty && cs.length ≤ 4 && cs.all fun c => (Text.hexValue? c).isSome

/-- The inner places where two colons meet, counted from `index`. -/
def emptyPlaces (index : Nat) : List (List Char) → List Nat
  | [] => []
  | [_] => []
  | piece :: pieces =>
    if piece.isEmpty then index :: emptyPlaces (index + 1) pieces else emptyPlaces (index + 1) pieces

/-- Whether groups, an address of version 4 at the end counted as two, form an address: eight of
them, or fewer with one gap of empty groups. A gap at an end is written with two colons. -/
def areGroups (pieces : List (List Char)) : Bool :=
  if 9 < pieces.length then false
  else
    match emptyPlaces 1 (pieces.drop 1) with
    | [] => pieces.length == 8 && pieces.all isGroup
    | [gap] =>
      let high := pieces.take gap
      let low := pieces.drop (gap + 1)
      let highGroups := if high.head? == some [] then high.drop 1 else high
      let lowGroups := if low.getLast? == some [] then low.dropLast else low
      (high.head? != some [] || highGroups.isEmpty) &&
        (low.getLast? != some [] || lowGroups.isEmpty) &&
        highGroups.length + lowGroups.length < 8 && highGroups.all isGroup && lowGroups.all isGroup
    | _ => false

/-- The groups with an address of version 4 at the end read as two groups. -/
def groupsOf (pieces : List (List Char)) : Option (List (List Char)) :=
  match pieces.getLast? with
  | some last =>
    if last.contains '.' then
      if isAddress4 last then some (pieces.dropLast ++ [['0'], ['0']]) else none
    else some pieces
  | none => some pieces

/-- Whether the text is an address of version 6, a zone after `%` allowed. -/
def isAddress6 (cs : List Char) : Bool :=
  match Text.splitOn '%' cs with
  | [address] => plain address
  | [address, zone] => !zone.isEmpty && plain address
  | _ => false
where
  /-- An address without a zone. -/
  plain (address : List Char) : Bool :=
    let pieces := Text.splitOn ':' address
    if pieces.length < 3 then false
    else
      match groupsOf pieces with
      | some groups => areGroups groups
      | none => false

def isFutureAddress (cs : List Char) : Bool :=
  match cs with
  | 'v' :: rest =>
    let version := rest.takeWhile fun c => (Text.hexValue? c).isSome
    match rest.dropWhile fun c => (Text.hexValue? c).isSome with
    | '.' :: name => !version.isEmpty && !name.isEmpty && !name.contains '\n'
    | _ => false
  | _ => false

/-- What is wrong with a host in brackets. -/
inductive HostFault where
  | future
  | version4
  | noAddress (host : String)
deriving DecidableEq, Repr

def checkHost (cs : List Char) : Except HostFault Unit :=
  if cs.head? = some 'v' then
    if isFutureAddress cs then .ok () else .error .future
  else if isAddress4 cs then .error .version4
  else if isAddress6 cs then .ok ()
  else .error (.noAddress (String.ofList cs))

def HostFault.message : HostFault → String
  | .future => "IPvFuture address is invalid"
  | .version4 => "An IPv4 address cannot be in brackets"
  | .noAddress host => Text.quoted host ++ " does not appear to be an IPv4 or IPv6 address"

end CallTone.Uri
