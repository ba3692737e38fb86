/-!
Checking that a text is an absolute URL, with the failures a URL parser reports. A URL starts
with a scheme (a letter, then letters, digits, `+`, `-` or `.`) and a colon. The web schemes
(`http`, `https`, `ws`, `wss`, `ftp`) need a host: a bracketed IPv6 address, a dotted IPv4
address when the last label is a number, or a domain without forbidden characters; a port,
if given, is a decimal below 65536. Other schemes take the rest as it stands.
-/

namespace SubtitleQueue.Net

/-- Why a text is not a URL. -/
inductive UrlError where
  | relativeWithoutBase
  | emptyHost
  | invalidPort
  | invalidIpv4
  | invalidIpv6
  | invalidDomainCharacter
  deriving Repr, DecidableEq, Inhabited

/-- The text of a URL failure. -/
def UrlError.message : UrlError → String
  | .relativeWithoutBase => "relative URL without a base"
  | .emptyHost => "empty host"
  | .invalidPort => "invalid port number"
  | .invalidIpv4 => "invalid IPv4 address"
  | .invalidIpv6 => "invalid IPv6 address"
  | .invalidDomainCharacter => "invalid domain character"

/-- The web schemes, whose URLs need a host. -/
def webSchemes : List String := ["http", "https", "ws", "wss", "ftp"]

/-- Whether a character may not appear in a domain. -/
def forbiddenInDomain (c : Char) : Bool :=
  c.toNat ≤ 0x1F || c.toNat == 0x7F || " #%/:<>?@[\\]^|".toList.contains c

/-- The value of a hexadecimal digit. -/
def hexDigit? (c : Char) : Option Nat :=
  if c.isDigit then some (c.toNat - 48)
  else if 'a' ≤ c && c ≤ 'f' then some (c.toNat - 87)
  else if 'A' ≤ c && c ≤ 'F' then some (c.toNat - 55)
  else none

/-- Digits in a base as a number. -/
def digitsIn (base : Nat) (cs : List Char) : Option Nat :=
  cs.foldlM (fun n c => match hexDigit? c with
    | some d => if d < base then some (n * base + d) else none
    | none => none) 0

/-- One part of an IPv4 address: decimal, hexadecimal after `0x`, or octal after `0`. -/
def ipv4Number (cs : List Char) : Option Nat :=
  match cs with
  | [] => none
  | '0' :: x :: rest => if x == 'x' || x == 'X' then (if rest.isEmpty then some 0 else digitsIn 16 rest)
    else digitsIn 8 (x :: rest)
  | _ => digitsIn 10 cs

/-- Splits a text at a character. -/
def splitAt (c : Char) (cs : List Char) : List (List Char) :=
  (String.ofList cs).splitOn (String.singleton c) |>.map String.toList

/-- Whether a host's last label is a number, which makes it an IPv4 address. -/
def endsInNumber (host : List Char) : Bool :=
  let labels := (splitAt '.' host).reverse
  let last := match labels with
    | [] :: prev :: _ => some prev
    | [] :: [] => none
    | l :: _ => some l
    | [] => none
  match last with
  | some l => (!l.isEmpty && l.all Char.isDigit) || (ipv4Number l).isSome
  | none => false

/-- Checks a dotted IPv4 address. -/
def checkIpv4 (host : List Char) : Except UrlError Unit := do
  let parts := splitAt '.' host
  let parts := if parts.length > 1 && (parts.getLast?.getD []).isEmpty then parts.dropLast else parts
  if parts.length > 4 then throw .invalidIpv4
  let nums ← parts.mapM fun p => match ipv4Number p with
    | some n => pure n
    | none => throw .invalidIpv4
  let init := nums.dropLast
  if init.any (· > 255) then throw .invalidIpv4
  match nums.getLast? with
  | some l => if l ≥ Nat.pow 256 (5 - nums.length) then throw .invalidIpv4
  | none => throw .invalidIpv4

/-- Checks the pieces of an IPv6 address between the brackets. -/
def checkIpv6 (cs : List Char) : Except UrlError Unit := do
  let groups := splitAt ':' cs
  -- `::` stands for a run of zero groups, at most once
  let empties := groups.filter (·.isEmpty)
  let compressed := (String.ofList cs).splitOn "::" |>.length
  if compressed > 2 then throw .invalidIpv6
  if cs.isEmpty then throw .invalidIpv6
  let real := groups.filter (!·.isEmpty)
  -- a trailing dotted IPv4 part counts as two groups
  let (real, extra) ← match real.getLast? with
    | some l =>
      if l.contains '.' then do
        let ps := splitAt '.' l
        if ps.length != 4 then throw .invalidIpv6
        for p in ps do
          match digitsIn 10 p with
          | some n => if n > 255 || p.isEmpty || (p.length > 1 && p.head? == some '0') then throw .invalidIpv6
          | none => throw .invalidIpv6
        pure (real.dropLast, 2)
      else pure (real, 0)
    | none => pure (real, 0)
  for g in real do
    if g.length > 4 || (digitsIn 16 g).isNone then throw .invalidIpv6
  let count := real.length + extra
  if compressed == 2 then
    if count > 7 then throw .invalidIpv6
    -- a single colon may not start or end the address
    if cs.head? == some ':' && !(cs.take 2 == [':', ':']) then throw .invalidIpv6
    if cs.getLast? == some ':' && !(cs.reverse.take 2 == [':', ':']) then throw .invalidIpv6
  else
    if count != 8 || !empties.isEmpty then throw .invalidIpv6

/-- Decodes `%xx` escapes. -/
def percentDecode : List Char → List Char
  | '%' :: a :: b :: rest =>
    match hexDigit? a, hexDigit? b with
    | some x, some y => Char.ofNat (x * 16 + y) :: percentDecode rest
    | _, _ => '%' :: percentDecode (a :: b :: rest)
  | c :: rest => c :: percentDecode rest
  | [] => []

/-- Checks a host of a web URL. -/
def checkHost (host : List Char) : Except UrlError Unit := do
  match host with
  | '[' :: rest =>
    if rest.getLast? != some ']' then throw .invalidIpv6
    checkIpv6 rest.dropLast
  | _ =>
    let h := (percentDecode host).map Char.toLower
    if h.isEmpty then throw .emptyHost
    if h.any forbiddenInDomain then throw .invalidDomainCharacter
    if endsInNumber h then checkIpv4 h

/-- Checks the authority of a web URL: user information, host and port. -/
def checkAuthority (auth : List Char) : Except UrlError Unit := do
  let afterUser := match (splitAt '@' auth).getLast? with
    | some a => a
    | none => auth
  if afterUser.isEmpty then throw .emptyHost
  let (host, port) := match afterUser with
    | '[' :: _ =>
      let h := afterUser.takeWhile (· != ']')
      let rest := afterUser.drop (h.length + 1)
      (h ++ (if afterUser.length > h.length then [']'] else []), rest.drop 1)
    | _ => (afterUser.takeWhile (· != ':'), (afterUser.dropWhile (· != ':')).drop 1)
  checkHost host
  if !port.isEmpty then
    if !port.all Char.isDigit then throw .invalidPort
    match digitsIn 10 port with
    | some n => if n > 65535 then throw .invalidPort
    | none => throw .invalidPort

/-- Checks that a text is an absolute URL. -/
def checkUrl (s : String) : Except UrlError Unit := do
  let trimmed : List Char := ((s.toList.reverse.dropWhile fun c => c.toNat ≤ 0x20).reverse).dropWhile fun c => c.toNat ≤ 0x20
  let cs : List Char := trimmed.filter fun c => c != (Char.ofNat 9) && c != (Char.ofNat 10) && c != (Char.ofNat 13)
  let scheme := match cs with
    | c :: rest =>
      if c.isAlpha then
        let more := rest.takeWhile fun (d : Char) => d.isAlphanum || d == '+' || d == '-' || d == '.'
        if (rest.drop more.length).head? == some ':' then some (c :: more) else none
      else none
    | [] => none
  match scheme with
  | none => throw UrlError.relativeWithoutBase
  | some sch =>
    let name := String.ofList (sch.map Char.toLower)
    let rest := cs.drop (sch.length + 1)
    if webSchemes.contains name then
      let rest := rest.dropWhile fun c => c == '/' || c == '\\'
      let auth := rest.takeWhile fun c => c != '/' && c != '\\' && c != '?' && c != '#'
      checkAuthority auth

end SubtitleQueue.Net
