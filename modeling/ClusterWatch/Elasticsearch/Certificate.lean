import ClusterWatch.Text.Base64
import ClusterWatch.Text.Split

/-!
# Certificates in PEM

A PEM text holds sections between lines with a label, each with a byte sequence
in base64.  Of these the sections labeled `CERTIFICATE` count: each must hold an
X.509 certificate.  Text outside of sections is ignored, and so is what another
section holds.
-/

namespace ClusterWatch.Elasticsearch.Certificate

/-! ## Values in DER -/

/-- The number that bytes form, the most significant first. -/
def bigEndian (bytes : List UInt8) : Nat :=
  bytes.foldl (fun n byte => n * 256 + byte.toNat) 0

/-- The length of a value, which is written with as few bytes as possible, and the
bytes after it. -/
def length? : List UInt8 → Option (Nat × List UInt8)
  | [] => none
  | byte :: rest =>
      if byte < 0x80 then some (byte.toNat, rest)
      else
        let count := byte.toNat - 0x80
        let n := bigEndian (rest.take count)
        let least := if count = 1 then 0x80 else Nat.pow 256 (count - 1)
        if 1 ≤ count ∧ count ≤ 2 ∧ count ≤ rest.length ∧ least ≤ n then
          some (n, rest.drop count)
        else none

/-- The contents of the value with the given tag that the bytes begin with, and
the bytes after it. -/
def element? (tag : UInt8) : List UInt8 → Option (List UInt8 × List UInt8)
  | [] => none
  | byte :: rest => do
      if byte ≠ tag then none
      else
        let (size, rest) ← length? rest
        if size ≤ rest.length ∧ size < 0xFFFF then some (rest.take size, rest.drop size) else none

/-- The contents of the only value. -/
def whole? (tag : UInt8) (bytes : List UInt8) : Option (List UInt8) := do
  let (contents, rest) ← element? tag bytes
  if rest = [] then some contents else none

/-- The tag of a sequence. -/
def sequenceTag : UInt8 := 0x30

/-! ## Extensions -/

/-- An extension of a certificate.  Whether it is critical does not matter for a
certificate that is trusted as it is. -/
structure Extension where
  id : List UInt8
  value : List UInt8

/-- Reads an extension. -/
def extension? (bytes : List UInt8) : Option Extension := do
  let (id, rest) ← element? 0x06 bytes
  let rest ←
    match element? 0x01 rest with
    | some (truth, rest) => if truth = [0xFF] ∨ truth = [0x00] then some rest else none
    | none => some rest
  let value ← whole? 0x04 rest
  return ⟨id, value⟩

/-- The identifiers of the extensions that are understood. -/
def understood : List (List UInt8) :=
  [15, 17, 19, 30, 31, 37].map fun n => [0x55, 0x1D, n]

/-- The identifier of the usage of a key, whose value is not a sequence. -/
def keyUsage : List UInt8 :=
  [0x55, 0x1D, 15]

/-- An extension that is understood has a value of the right form and occurs once. -/
def acceptsExtension (before : List (List UInt8)) (e : Extension) : Bool :=
  !understood.contains e.id ||
    (!before.contains e.id && (e.id == keyUsage || (whole? sequenceTag e.value).isSome))

/-- Reads extensions one after another; each takes a byte. -/
def acceptsExtensions : Nat → List (List UInt8) → List UInt8 → Bool
  | _, _, [] => true
  | 0, _, _ => false
  | steps + 1, before, bytes =>
      match element? sequenceTag bytes with
      | none => false
      | some (contents, rest) =>
          match extension? contents with
          | none => false
          | some e => acceptsExtension before e && acceptsExtensions steps (e.id :: before) rest

/-! ## Certificates -/

/-- The parts that certificates of all versions have: a serial number, the
algorithm of the signature, the issuer, the validity, the subject and its key.
The result is the algorithm and what follows. -/
def commonParts? (bytes : List UInt8) : Option (List UInt8 × List UInt8) := do
  let (_, rest) ← element? 0x02 bytes
  let (algorithm, rest) ← element? sequenceTag rest
  let (_, rest) ← element? sequenceTag rest
  let (_, rest) ← element? sequenceTag rest
  let (_, rest) ← element? sequenceTag rest
  let (_, rest) ← element? sequenceTag rest
  return (algorithm, rest)

/-- The bytes are an X.509 certificate, of version 3 or of version 1.  Its signature
is a whole number of bytes. -/
def isCertificate (bytes : List UInt8) : Bool :=
  (do
    let parts ← whole? sequenceTag bytes
    let (signed, rest) ← element? sequenceTag parts
    let (algorithm, rest) ← element? sequenceTag rest
    let signature ← whole? 0x03 rest
    if signature.head? ≠ some 0 then none
    else
      match element? 0xA0 signed with
      | none =>
          let (_, rest) ← commonParts? signed
          return rest.isEmpty
      | some (version, rest) =>
          if (← whole? 0x02 version) ≠ [2] then none
          else
            let (inner, rest) ← commonParts? rest
            if inner ≠ algorithm then none
            else if rest = [] then return true
            else
              let extensions ← whole? sequenceTag (← whole? 0xA3 rest)
              return acceptsExtensions extensions.length [] extensions).getD false

/-! ## Sections -/

/-- The lines of a text, each of which ends at a line feed or a carriage return. -/
def lines (text : List Char) : List (List Char) :=
  Text.splitBy (fun c => c == '\n' || c == '\r') text

/-- What a line that opens a section begins with. -/
def opening : List Char :=
  "-----BEGIN ".toList

/-- What a line that closes a section of a label begins with. -/
def closing (label : List Char) : List Char :=
  "-----END ".toList ++ label ++ "-----".toList

/-- The label in a line that opens a section: it stands before five hyphens, at
which and between which there may be spaces. -/
def label? (line : List Char) : Option (List Char) :=
  let text := line.drop opening.length
  let isMargin (c : Char) : Bool := c = '-' || c = ' '
  let margin := Text.takeTrailing isMargin text
  if margin.count '-' = 5 then
    some (Text.dropTrailing isMargin text ++ margin.takeWhile (· = ' '))
  else none

/-- The labels of sections that are decoded. -/
def decodedLabels : List String :=
  ["CERTIFICATE", "PUBLIC KEY", "RSA PRIVATE KEY", "PRIVATE KEY", "EC PRIVATE KEY", "X509 CRL",
    "CERTIFICATE REQUEST", "ECHCONFIG"]

/-- The character may stand anywhere in the contents of a section. -/
def isFiller (c : Char) : Bool :=
  c = ' ' || ('\t' ≤ c && c ≤ '\r')

/-- What a closed section holds is acceptable. -/
def acceptsSection (label contents : List Char) : Bool :=
  if decodedLabels.contains (String.ofList label) then
    match Text.Base64.decodeLoose? (contents.filter fun c => !isFiller c) with
    | none => false
    | some bytes => String.ofList label ≠ "CERTIFICATE" || isCertificate bytes
  else true

/-- Goes through the lines.  Inside a section its label and its contents so far
are known; a section that is opened there takes over the contents. -/
def acceptsLines : Option (List Char × List Char) → List (List Char) → Bool
  | inside, [] => inside.isNone
  | inside, line :: rest =>
      if opening.isPrefixOf line then
        match label? line with
        | none => false
        | some label => acceptsLines (some (label, (inside.map Prod.snd).getD [])) rest
      else
        match inside with
        | none => acceptsLines none rest
        | some (label, contents) =>
            if (closing label).isPrefixOf line then
              acceptsSection label contents && acceptsLines none rest
            else acceptsLines (some (label, contents ++ line)) rest

/-- A client can trust what the PEM text holds. -/
def acceptsPem (text : String) : Bool :=
  acceptsLines none (lines text.toList)

end ClusterWatch.Elasticsearch.Certificate
