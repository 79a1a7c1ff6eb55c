import LintReport.Decimal.Radix
import LintReport.Text.Digit

/-!
# Hosts

A host in brackets is an address: of version six, or of a version to come. A host must not hold a
character that compatibility normalisation would turn into a delimiter of URLs.
-/

namespace LintReport.Url

def isHexDigit (c : Char) : Bool :=
  (Decimal.digitIn? 16 c).isSome

def isOctet (t : Text) : Bool :=
  let values := t.filterMap (Decimal.digitIn? 10)
  values.length = t.length && 1 ≤ t.length && t.length ≤ 3 &&
    (t.length = 1 || t.head? != some '0') && Text.ofDigits values ≤ 255

def isAddress4 (t : Text) : Bool :=
  let octets := Text.split '.' t
  octets.length = 4 && octets.all isOctet

/-- Whether a text is one of the eight numbers of an address of version six. -/
def isGroup (t : Text) : Bool :=
  1 ≤ t.length && t.length ≤ 4 && t.all isHexDigit

/-- The parts of an address of version six, where an address of version four at the end counts as
two groups. -/
def addressParts? (t : Text) : Option (List Text) :=
  let parts := Text.split ':' t
  if parts.length < 3 then none
  else
    match parts.getLast? with
    | some last =>
      if last.contains '.' then
        if isAddress4 last then some (parts.dropLast ++ [['0'], ['0']]) else none
      else some parts
    | none => none

/-- Whether the parts are groups, where an empty first part is allowed if nothing else stands before
the gap, and an empty last part if nothing else stands after it. -/
def partsFit (parts : List Text) : Bool :=
  let inner := (parts.drop 1).dropLast
  match inner.countP (·.isEmpty) with
  | 0 => parts.length = 8 && parts.all isGroup
  | 1 =>
    let before := parts.take (1 + inner.findIdx (·.isEmpty))
    let after := parts.drop (2 + inner.findIdx (·.isEmpty))
    let beforeCount := if before = [[]] then 0 else before.length
    let afterCount := if after = [[]] then 0 else after.length
    (before = [[]] || before.all isGroup) && (after = [[]] || after.all isGroup) &&
      beforeCount + afterCount < 8
  | _ => false

def isAddress6 (t : Text) : Bool :=
  let (address, zone) := Text.breakAt (· = '%') t
  (zone.isEmpty || (1 < zone.length && !(zone.drop 1).contains '%')) &&
    match addressParts? address with
    | some parts => parts.length ≤ 9 && partsFit parts
    | none => false

def isFutureAddress (t : Text) : Bool :=
  match t with
  | 'v' :: rest =>
    let (version, address) := Text.breakAt (fun c => !isHexDigit c) rest
    !version.isEmpty && address.head? = some '.' && 1 < address.length
  | _ => false

def isBracketed (t : Text) : Bool :=
  if t.head? = some 'v' then isFutureAddress t else isAddress6 t

/-- What follows the last at sign, or the whole text if there is none. -/
def afterUser (host : Text) : Text :=
  ((Text.split '@' host).getLast?).getD host

/-- Whether brackets are used in a host only around an address. Nothing but a user stands before
them, and a colon is the first character after them. -/
def bracketsFit (host : Text) : Bool :=
  if host.contains '[' && host.contains ']' then
    match Text.breakAt (· = '[') (afterUser host) with
    | ([], _ :: rest) =>
      let (inside, behind) := Text.breakAt (· = ']') rest
      isBracketed inside && (behind.length ≤ 1 || behind[1]? = some ':')
    | (_, _ :: _) => false
    | (name, []) => isBracketed (Text.breakAt (· = ':') name).1
  else
    !host.contains '[' && !host.contains ']'

/-- The characters that compatibility normalisation turns into a slash, a question mark, a number
sign, an at sign or a colon, by code point. -/
def disguises : List Nat := [
  0x2047, 0x2048, 0x2049, 0x2100, 0x2101, 0x2105, 0x2106, 0x2A74, 0xFE13, 0xFE16, 0xFE55, 0xFE56,
  0xFE5F, 0xFE6B, 0xFF03, 0xFF0F, 0xFF1A, 0xFF1F, 0xFF20]

def isHost (host : Text) : Bool :=
  bracketsFit host && !host.any fun c => disguises.contains c.toNat

end LintReport.Url
