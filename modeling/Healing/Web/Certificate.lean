/-
  Bundles of certificates.

  A bundle is a text with sections between marks.  Each section holds bytes in base 64, and each
  certificate among them has to have the structure of one.  What stands outside of sections does not
  count.

  1. **Elements** - `readElement?` reads a tag, a length and a content; `elements?` reads several.
  2. **Certificates** - `isCertificate`.
  3. **Sections** - `sections?` finds the sections of a text, with their labels.
  4. **Bundles** - `isCertificateBundle`.
-/
import Healing.Base64
import Healing.Text.Search

namespace Healing.Web

/-! ## Elements -/

/-- A tag and its content. -/
structure Element where
  tag : UInt8
  content : List UInt8
deriving Inhabited

/-- The number that bytes stand for. -/
def bytesNumber (bytes : List UInt8) : Nat := bytes.foldl (fun n b => n * 256 + b.toNat) 0

/-- Read a length in as few bytes as possible, at most in three behind the first. -/
def readLength? : List UInt8 → Option (Nat × List UInt8)
  | [] => none
  | b :: r =>
    if b < 0x80 then some (b.toNat, r)
    else
      let count := b.toNat - 0x80
      let bytes := r.take count
      let n := bytesNumber bytes
      if 1 ≤ count && count ≤ 3 && bytes.length = count && 128 ≤ n && Nat.pow 256 (count - 1) ≤ n then
        some (n, r.drop count)
      else none

/-- Read an element. -/
def readElement? : List UInt8 → Option (Element × List UInt8)
  | [] => none
  | tag :: r => do
    let (n, r) ← readLength? r
    if n ≤ r.length then some (⟨tag, r.take n⟩, r.drop n) else none

/-- The elements that bytes consist of, if there are at most so many. -/
def elements? : Nat → List UInt8 → Option (List Element)
  | _, [] => some []
  | 0, _ => none
  | most + 1, bytes => do
    let (e, r) ← readElement? bytes
    let es ← elements? most r
    some (e :: es)

/-! ## Certificates -/

/-- The tag of a sequence. -/
def sequenceTag : UInt8 := 0x30

/-- The tag of a whole number. -/
def integerTag : UInt8 := 0x02

/-- The tag of a string of bits. -/
def bitsTag : UInt8 := 0x03

/-- The tag of the version of a certificate. -/
def versionTag : UInt8 := 0xA0

/-- Whether elements are what is signed in a certificate: a number, then the algorithm, the issuer,
    the validity, the subject and the key. -/
def isSignedPart (es : List Element) : Bool :=
  let es := match es with
    | e :: r => if e.tag = versionTag then r else es
    | [] => []
  (es.take 6).map Element.tag = integerTag :: List.replicate 5 sequenceTag

/-- Whether bytes have the structure of a certificate: a signed part, an algorithm and a
    signature. -/
def isCertificate (bytes : List UInt8) : Bool :=
  match elements? 1 bytes with
  | some [whole] =>
    match elements? 3 whole.content with
    | some [signed, algorithm, signature] =>
      whole.tag = sequenceTag && signed.tag = sequenceTag && algorithm.tag = sequenceTag
        && signature.tag = bitsTag && (elements? 10 signed.content).any isSignedPart
    | _ => false
  | _ => false

/-! ## Sections -/

/-- A section of a bundle. -/
structure Section where
  label : List Char
  /-- The lines between the marks, put together. -/
  body : List Char := []
deriving Inhabited

/-- The lines of a text. -/
def lines (cs : List Char) : List (List Char) :=
  (cs.map fun c => if c = '\r' then '\n' else c).splitOn '\n'

/-- A line without the blanks at its end. -/
def trimEnd (line : List Char) : List Char := (line.reverse.dropWhile (· = ' ')).reverse

/-- The mark in front of a label at the start of a section. -/
def startMark : List Char := "-----BEGIN ".toList

/-- The mark in front of a label at the end of a section. -/
def endMark : List Char := "-----END ".toList

/-- The mark behind a label. -/
def closingMark : List Char := "-----".toList

/-- The label in a line that has started a section: what stands in front of exactly five hyphens. -/
def startLabel? (afterMark : List Char) : Option (List Char) :=
  let backwards := (trimEnd afterMark).reverse
  if (backwards.takeWhile (· = '-')).length = closingMark.length then
    some (backwards.dropWhile (· = '-')).reverse
  else none

/-- The sections in lines, where `current` has been started.  Each section has to come to its
    end. -/
def sectionsFrom? (current : Option Section) : List (List Char) → Option (List Section)
  | [] => if current.isNone then some [] else none
  | line :: r =>
    match Text.dropPrefix? startMark line with
    | some rest => do
      let label ← startLabel? rest
      sectionsFrom? (some { label, body := (current.map Section.body).getD [] }) r
    | none =>
      match current with
      | none => sectionsFrom? none r
      | some s =>
        if (Text.dropPrefix? (endMark ++ s.label ++ closingMark) line).isSome then
          (sectionsFrom? none r).map (s :: ·)
        else sectionsFrom? (some { s with body := s.body ++ trimEnd line }) r

/-- The sections of a text. -/
def sections? (text : String) : Option (List Section) := sectionsFrom? none (lines text.toList)

/-! ## Bundles -/

/-- The labels of the sections that are looked into. -/
def knownLabels : List String :=
  ["CERTIFICATE", "PUBLIC KEY", "RSA PRIVATE KEY", "PRIVATE KEY", "EC PRIVATE KEY", "X509 CRL",
    "CERTIFICATE REQUEST", "ECHCONFIG"]

/-- Whether a section is what its label says. -/
def Section.isValid (s : Section) : Bool :=
  if s.label = "CERTIFICATE".toList then (Base64.decode? s.body).any isCertificate
  else !knownLabels.contains (String.ofList s.label) || (Base64.decode? s.body).isSome

/-- Whether a text is a bundle of certificates. -/
def isCertificateBundle (text : String) : Bool :=
  (sections? text).any fun l => l.all Section.isValid

end Healing.Web
