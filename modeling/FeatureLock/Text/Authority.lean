import FeatureLock.Json.Token
import FeatureLock.Number.Numeral

/-!
# Users, hosts and ports

What stands behind two slashes in an address names perhaps a user, then a host and
perhaps a port.

## Main Definitions

- `isNetworkAddress`: eight groups of hexadecimal digits, as a host in brackets has
  them
- `isHost`, `isPort`: hosts and ports
- `isAuthority`: whether all of it is well-formed

## Design Notes

Characters that stand for nothing in an address are gone before it is looked at.
-/

namespace FeatureLock.Text

/-! ### Network addresses -/

/-- Whether digits are those of a number of 8 bits, without a zero in front. -/
def isByteNumeral (ds : List Char) : Bool :=
  ds ≠ [] && (ds = ['0'] || ds.head? ≠ some '0') && Numeral.value ds ≤ 255

/-- Whether characters are so many numbers of 8 bits between points. -/
def isByteList : Nat → List Char → Bool
  | 0, _ => false
  | n + 1, cs =>
    let ds := cs.takeWhile Numeral.isDigit
    isByteNumeral ds && match cs.drop ds.length with
      | [] => n == 0
      | '.' :: rest => isByteList n rest
      | _ => false

/-- Whether characters are so many groups of at most four hexadecimal digits between colons.  Two
colons may once stand for groups that are left out; four numbers between points may stand for the
last two groups. -/
def isGroupList : Nat → Bool → List Char → Bool
  | left, shortened, [] => shortened || left == 0
  | 0, _, _ => false
  | left + 1, shortened, ':' :: cs => !shortened && isGroupList left true cs
  | left + 1, shortened, cs =>
    let ds := (cs.take 4).takeWhile fun c => (Json.hexValue? c).isSome
    match cs.drop ds.length with
    | [] => shortened || left == 0
    | '.' :: _ => ds ≠ [] && isByteList 4 cs && (left == 1 || (shortened && 1 < left))
    | ':' :: rest => rest ≠ [] && isGroupList left shortened rest
    | _ => false

/-- **Whether characters are a network address** of eight groups. -/
def isNetworkAddress : List Char → Bool
  | ':' :: ':' :: cs => isGroupList 7 true cs
  | ':' :: _ => false
  | cs => isGroupList 8 false cs

/-! ### Hosts and ports -/

/-- Whether a character may not stand in a host without brackets. -/
def isForbidden (c : Char) : Bool :=
  c ∈ ['\x00', ' ', ':', '<', '>', '@', '[', '\\', ']', '^', '|']

/-- Whether characters are a host: a network address in brackets, or a name. -/
def isHost : List Char → Bool
  | '[' :: cs => cs.getLast? = some ']' && isNetworkAddress cs.dropLast
  | cs => !cs.any isForbidden

/-- The characters up to a colon outside of brackets. -/
def hostPart : Bool → List Char → List Char
  | _, [] => []
  | inside, c :: cs =>
    if c = ':' ∧ !inside then []
    else c :: hostPart (if c = '[' then true else if c = ']' then false else inside) cs

/-- Whether a port, from its colon on, is none or a number of 16 bits.  It ends at a backslash. -/
def isPort (cs : List Char) : Bool :=
  let ds := (cs.drop 1).takeWhile (· ≠ '\\')
  ds.all Numeral.isDigit && Numeral.value ds ≤ 65535

/-- **Whether the part of an address behind two slashes is well-formed**: perhaps a user, then a
host and perhaps a port.  The host may be empty where nothing else is said; a colon alone is no
user. -/
def isAuthority (cs : List Char) : Bool :=
  let all := cs.takeWhile (· ∉ ['/', '?', '#'])
  let server := (all.reverse.takeWhile (· ≠ '@')).reverse
  let user := all.take (all.length - server.length)
  let host := hostPart false server
  if host = [] then
    server = [] && (user ∈ [[], [':', '@']] || (user = ['@'] && all.length == cs.length))
  else isHost host && isPort (server.drop host.length)

end FeatureLock.Text
