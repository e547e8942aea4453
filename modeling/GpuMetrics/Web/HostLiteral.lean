import GpuMetrics.Text.Digit
import GpuMetrics.Text.Pieces
import GpuMetrics.Text.Quoted

/-!
# Addresses between square brackets

A host between square brackets is an address of the sixth version, with groups of hexadecimal digits
between colons, or an address of a later version, which is only looked at in outline. An address of
the fourth version may not stand there.
-/

namespace GpuMetrics.Web

/-! ## Addresses of the fourth version -/

/-- A number from 0 to 255 in decimal digits without zeros in front. -/
def isOctet (s : List Char) : Bool :=
  !s.isEmpty && s.all Text.isAsciiDigit && s.length ≤ 3 && (s = ['0'] || s.head? ≠ some '0')
    && Text.digitsValue s ≤ 255

/-- Four octets with points between them. -/
def isDotted (s : List Char) : Bool :=
  let octets := Text.pieces '.' s
  octets.length = 4 && octets.all isOctet

/-! ## Addresses of the sixth version -/

/-- One to four hexadecimal digits. -/
def isGroup (s : List Char) : Bool := !s.isEmpty && s.length ≤ 4 && s.all Text.isHex

/-- The groups of an address. A dotted address at the end stands for two groups. -/
def groupsOf (s : List Char) : Option (List (List Char)) :=
  let parts := Text.pieces ':' s
  match parts.getLast? with
  | none => none
  | some last =>
    if parts.length < 3 then none
    else if last.contains '.' then
      if isDotted last then some (parts.dropLast ++ [['0'], ['0']]) else none
    else some parts

/-- The number of groups in an address. -/
def groupCount : Nat := 8

/-- Whether the groups make an address. Groups may be left out at one place, where two colons follow
each other; at an end of the address the colons leave an empty part. -/
def areGroups (parts : List (List Char)) : Bool :=
  let inner := parts.tail.dropLast
  let first := parts.head?.getD []
  let last := parts.getLast?.getD []
  match inner.findIdx? List.isEmpty with
  | none => parts.length = groupCount && parts.all isGroup
  | some i =>
    let before := if first.isEmpty then inner.take i else first :: inner.take i
    let after := inner.drop (i + 1)
    let tail := if last.isEmpty then after else after ++ [last]
    parts.length ≤ groupCount + 1 && !after.any List.isEmpty
      && (!first.isEmpty || before.isEmpty) && (!last.isEmpty || tail.isEmpty)
      && before.length + tail.length < groupCount
      && before.all isGroup && tail.all isGroup

/-- An address of the sixth version. Behind a percent sign it may name a zone. -/
def isGrouped (s : List Char) : Bool :=
  let (address, zone) := Text.cutFirst '%' s
  let zoned := match zone with
    | none => true
    | some z => !z.isEmpty && !z.contains '%'
  !s.contains '/' && zoned && ((groupsOf address).map areGroups).getD false

/-! ## Addresses of later versions -/

/-- The letter of a version, its number, a point, and something else. -/
def isFuture (s : List Char) : Bool :=
  let r := s.drop 1
  !(r.takeWhile Text.isHex).isEmpty &&
  match r.dropWhile Text.isHex with
  | '.' :: rest => !rest.isEmpty
  | _ => false

/-- Why a host may not stand between brackets. -/
inductive HostFault
  | /-- A bracket is missing, or something stands where only a host may. -/
    unmatched
  | /-- The host begins like an address of a later version and is none. -/
    noFuture
  | /-- The host is an address of the fourth version. -/
    dotted
  | /-- The host is no address. -/
    noAddress (host : String)
  deriving DecidableEq, Repr

/-- How a message names the fault. -/
def HostFault.message : HostFault → String
  | unmatched => "Invalid IPv6 URL"
  | noFuture => "IPvFuture address is invalid"
  | dotted => "An IPv4 address cannot be in brackets"
  | noAddress host => Text.quoted host ++ " does not appear to be an IPv4 or IPv6 address"

/-- Accepts what may stand between brackets. -/
def checkLiteral (host : List Char) : Except HostFault Unit :=
  if host.head? = some 'v' then
    if isFuture host then .ok () else .error .noFuture
  else if isDotted host then .error .dotted
  else if isGrouped host then .ok ()
  else .error (.noAddress (String.ofList host))

/-- The host in the authority part of a target that has brackets: a name may stand in front of it
behind an at sign, and a port behind it. Nothing else may stand around brackets. -/
def hostOf (s : List Char) : Except HostFault (List Char) :=
  let s := match Text.cutLast? '@' s with
    | some (_, host) => host
    | none => s
  match Text.cutFirst '[' s with
  | (_, none) => .ok (Text.cutFirst ':' s).1
  | (before, some inner) =>
    let (host, port) := Text.cutFirst ']' inner
    let isPort := match port with
      | some (c :: _) => c = ':'
      | _ => true
    if before.isEmpty && isPort then .ok host else .error .unmatched

/-- Accepts the authority part of a target: without brackets anything, and with brackets what may
stand between them. -/
def checkAuthority (s : List Char) : Except HostFault Unit :=
  match s.contains '[', s.contains ']' with
  | false, false => .ok ()
  | true, true => (hostOf s).bind checkLiteral
  | _, _ => .error .unmatched

end GpuMetrics.Web
