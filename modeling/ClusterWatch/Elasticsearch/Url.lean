import ClusterWatch.DomainName.Basic
import ClusterWatch.Text.Utf8

/-!
# HTTP addresses

Which texts are addresses that a request can be sent to.  The rules are lenient:
the case of the scheme and the number and direction of the slashes after it do
not matter, line breaks and tabs are ignored, and so are blanks at both ends.
What has to be right is the host and the port.
-/

namespace ClusterWatch.Elasticsearch.Url

open Text (dropTrailing hexValue? splitAt takeTrailing)

/-! ## Hosts -/

/-- The number that digits form in a base up to sixteen. -/
def number? (base : Nat) (digits : List Char) : Option Nat :=
  digits.foldlM (fun n c => do
    let d ← hexValue? c
    if d < base then some (n * base + d) else none) 0

/-- A part of an IPv4 address: hexadecimal after `0x`, octal after another leading
zero, and decimal otherwise. -/
def addressPart? : List Char → Option Nat
  | [] => none
  | '0' :: 'x' :: digits => number? 16 digits
  | '0' :: 'X' :: digits => number? 16 digits
  | ['0'] => some 0
  | '0' :: digits => number? 8 digits
  | digits => number? 10 digits

/-- The labels of a host, without the empty one after a final dot. -/
def hostParts (labels : List (List Char)) : List (List Char) :=
  if labels.length > 1 ∧ labels.getLast? = some [] then labels.dropLast else labels

/-- The last label of a host is a number, so the host has to be an IPv4 address. -/
def endsInNumber (labels : List (List Char)) : Bool :=
  match (hostParts labels).getLast? with
  | none => false
  | some part => part ≠ [] && (part.all Char.isDigit || (addressPart? part).isSome)

/-- The labels are an IPv4 address: up to four numbers, of which the last fills the
bytes that the others leave. -/
def isIpv4 (labels : List (List Char)) : Bool :=
  match (hostParts labels).mapM addressPart? with
  | none => false
  | some numbers =>
      numbers.length ≤ 4 && numbers.dropLast.all (· ≤ 255) &&
        match numbers.getLast? with
        | none => false
        | some last => last < Nat.pow 256 (5 - numbers.length)

/-- A group of an IPv6 address. -/
def isGroup (digits : List Char) : Bool :=
  1 ≤ digits.length && digits.length ≤ 4 && digits.all fun c => (hexValue? c).isSome

/-- The IPv4 address at the end of an IPv6 address: four decimal numbers without
leading zeros. -/
def isTail (text : List Char) : Bool :=
  let parts := splitAt '.' text
  parts.length = 4 && parts.all fun part =>
    (part = ['0'] || part.head? ≠ some '0') && part ≠ [] && part.all Char.isDigit &&
      (number? 10 part).any (· ≤ 255)

/-- The number of groups that a run of groups between colons stands for. -/
def groupCount? (isLast : Bool) (text : List Char) : Option Nat :=
  if text = [] then some 0
  else
    let parts := splitAt ':' text
    let tail := (parts.getLast?.map isTail).getD false
    if isLast && tail && parts.dropLast.all isGroup then some (parts.length + 1)
    else if parts.all isGroup then some parts.length
    else none

/-- The text is an IPv6 address: eight groups, or fewer where a pair of colons
stands for one or more zeros. -/
def isIpv6 (text : List Char) : Bool :=
  match Text.cutAt? [':', ':'] text with
  | none => groupCount? true text == some 8
  | some (before, after) =>
      match groupCount? false before, groupCount? true after with
      | some m, some n => m + n ≤ 7
      | _, _ => false

/-- The bytes of a text in which a percent sign and two hexadecimal digits stand
for a byte. -/
def percentDecode : List Char → List UInt8
  | '%' :: a :: b :: rest =>
      match hexValue? a, hexValue? b with
      | some high, some low => UInt8.ofNat (high * 16 + low) :: percentDecode rest
      | _, _ => 0x25 :: percentDecode (a :: b :: rest)
  | c :: rest => String.utf8EncodeChar c ++ percentDecode rest
  | [] => []

/-- The character cannot be part of a host name. -/
def isForbidden (c : Char) : Bool :=
  c.toNat ≤ 0x20 || c.toNat = 0x7F ||
    ['"', '#', '%', '/', ':', '<', '>', '?', '@', '[', '\\', ']', '^', '\x60', '\x7b', '|',
      '\x7d'].contains c

/-- The text is an IPv4 address or a domain name that an address can have. -/
def isName (text : List Char) : Bool :=
  match DomainName.labels? text with
  | none => false
  | some labels =>
      labels ≠ [[]] && labels.all (fun label => label.all fun c => !isForbidden c) &&
        (!endsInNumber labels || isIpv4 labels)

/-- The text is a host: an IPv6 address in brackets, an IPv4 address or a name. -/
def isHost (text : List Char) : Bool :=
  match text with
  | '[' :: rest => rest.getLast? = some ']' && isIpv6 rest.dropLast
  | _ => isName (Text.Utf8.decodeLenient (percentDecode text)).toList

/-- The text is a port, or there is none. -/
def isPort (text : List Char) : Bool :=
  text.all Char.isDigit && (number? 10 text).any (· ≤ 65535)

/-! ## Addresses -/

/-- Cuts off the port: what follows the last colon outside of brackets. -/
def cutPort (text : List Char) : List Char × List Char :=
  let port := takeTrailing (fun c => c ≠ ':' ∧ c ≠ ']') text
  let host := dropTrailing (fun c => c ≠ ':' ∧ c ≠ ']') text
  if host.getLast? = some ':' then (host.dropLast, port) else (text, [])

/-- The text after the last at sign, before which a user may stand. -/
def afterUser (text : List Char) : List Char :=
  takeTrailing (· ≠ '@') text

/-- Cuts an address after its scheme, which is given in lower case. -/
def scheme? : List Char → Option (List Char × List Char)
  | [] => none
  | ':' :: rest => some ([], rest)
  | c :: rest =>
      if c.isAlphanum ∨ c = '+' ∨ c = '-' ∨ c = '.' then
        (scheme? rest).map fun (scheme, rest) => (c.toLower :: scheme, rest)
      else none

/-- The text is an address of HTTP, with or without encryption. -/
def isHttp (text : String) : Bool :=
  let isEdge (c : Char) : Bool := c.toNat ≤ 0x20
  let trimmed := dropTrailing isEdge (text.toList.dropWhile isEdge)
  let cleaned := trimmed.filter fun c => c ≠ '\t' ∧ c ≠ '\n' ∧ c ≠ '\r'
  match scheme? cleaned with
  | none => false
  | some (scheme, rest) =>
      (scheme = ['h', 't', 't', 'p'] || scheme = ['h', 't', 't', 'p', 's']) &&
        let authority := (rest.dropWhile fun c => c = '/' ∨ c = '\\').takeWhile fun c =>
          c ≠ '/' ∧ c ≠ '\\' ∧ c ≠ '?' ∧ c ≠ '#'
        let (host, port) := cutPort (afterUser authority)
        isHost host && isPort port

end ClusterWatch.Elasticsearch.Url
