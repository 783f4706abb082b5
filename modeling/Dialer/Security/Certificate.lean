import Dialer.Security.Der

/-!
# Root certificates

To serve as a root a certificate has to be laid out as X.509 says. `Certificate.check` finds out
whether it is, and if not what is wrong with it.

A certificate is signed data: the certificate proper, the algorithm and the signature. The
certificate proper of version 3 has a field for its version, names the algorithm once more and may
end with extensions; that of version 1 has neither a field for its version nor extensions. Names,
times, keys and most extensions are not looked into.
-/

namespace Dialer.Certificate

/-- What is wrong with a certificate. -/
inductive Fault
  | badEncoding
  /-- The algorithm inside differs from the one outside. -/
  | algorithmMismatch
  /-- An extension that may occur once occurs again. -/
  | repeatedExtension
deriving DecidableEq, Repr

/-- The text of a fault. -/
def Fault.message : Fault → String
  | badEncoding => "BadEncoding"
  | algorithmMismatch => "Other(OtherError(SignatureAlgorithmMismatch))"
  | repeatedExtension => "Other(OtherError(ExtensionValueInvalid))"

/-! ### Reading -/

/-- Read an element with a given tag; returns its contents and what follows it. -/
def expect (tag : UInt8) (bytes : Bytes) : Except Fault (Bytes × Bytes) :=
  match Der.expect? tag bytes with
  | none => .error .badEncoding
  | some found => .ok found

/-- Read elements with given tags; returns what follows them. -/
def pass (tags : List UInt8) (bytes : Bytes) : Except Fault Bytes :=
  tags.foldlM (fun bytes tag => (expect tag bytes).map Prod.snd) bytes

/-- Nothing may be left. -/
def finish (bytes : Bytes) : Except Fault Unit :=
  if bytes.isEmpty then .ok () else .error .badEncoding

/-! ### Extensions -/

/-- The kind of key use, whose value is a string of bits. -/
def keyUsage : UInt8 := 15

/-- The extensions whose values are looked into, by the last byte of their identifiers: key usage,
alternative names, basic constraints, name constraints, revocation lists and extended key usage. -/
def knownExtensions : List UInt8 := [keyUsage, 17, 19, 30, 31, 37]

/-- The known extension with an identifier, if there is one. -/
def known? (id : Bytes) : Option UInt8 :=
  match id with
  | [0x55, 0x1d, last] => if knownExtensions.contains last then some last else none
  | _ => none

/-- Pass over the field that says whether an extension is critical. It may be missing. -/
def passCritical (bytes : Bytes) : Except Fault Bytes :=
  if bytes.head? = some Der.boolean then do
    let (value, rest) ← expect Der.boolean bytes
    if value = [0x00] ∨ value = [0xff] then return rest else throw .badEncoding
  else .ok bytes

/-- Note a known extension; its value is one sequence, except for the use of the key. -/
def note (seen : List UInt8) (number : UInt8) (value : Bytes) : Except Fault (List UInt8) :=
  if seen.contains number then .error .repeatedExtension
  else if number = keyUsage then .ok (number :: seen)
  else do
    finish (← pass [Der.sequence] value)
    return number :: seen

/-- Check one extension. Returns the known ones there have been so far. -/
def checkExtension (seen : List UInt8) (extension : Bytes) : Except Fault (List UInt8) := do
  let (id, rest) ← expect Der.objectId extension
  let rest ← passCritical rest
  let (value, rest) ← expect Der.octetString rest
  let seen ← match known? id with
    | some number => note seen number value
    | none => .ok seen
  finish rest
  return seen

/-- **Check a list of extensions,** one after the other. -/
def checkExtensions : (seen : List UInt8) → List (Option Bytes) → Except Fault Unit
  | _, [] => .ok ()
  | _, none :: _ => .error .badEncoding
  | seen, some extension :: rest => do checkExtensions (← checkExtension seen extension) rest

/-! ### Certificates -/

/-- The layout of version 1: serial number, algorithm, issuer, validity, subject and key. -/
def checkVersion1 (proper : Bytes) : Except Fault Unit := do
  finish (← pass (Der.integer :: List.replicate 5 Der.sequence) proper)

/-- The layout of version 3 behind its version: serial number, algorithm, issuer, validity, subject,
key and, if anything follows, extensions. -/
def checkVersion3 (algorithm proper : Bytes) : Except Fault Unit := do
  let rest ← pass [Der.integer] proper
  let (inner, rest) ← expect Der.sequence rest
  if inner ≠ algorithm then throw .algorithmMismatch
  let rest ← pass (List.replicate 4 Der.sequence) rest
  if rest.isEmpty then return
  let (field, rest) ← expect (Der.field 3) rest
  let (extensions, more) ← expect Der.sequence field
  checkExtensions [] (Der.elements Der.sequence extensions)
  finish more
  finish rest

/-- Check the certificate proper, signed with an algorithm. -/
def checkProper (algorithm proper : Bytes) : Except Fault Unit :=
  match Der.expect? (Der.field 0) proper with
  | none => checkVersion1 proper
  | some (version, rest) =>
    -- Version 3 is written as the number 2.
    if version = [Der.integer, 1, 2] then checkVersion3 algorithm rest else .error .badEncoding

/-- **What is wrong with a certificate,** if anything. The signature has a whole number of bytes,
which its first byte says. -/
def check (der : Bytes) : Except Fault Unit := do
  let (signed, rest) ← expect Der.sequence der
  let (proper, more) ← expect Der.sequence signed
  let (algorithm, more) ← expect Der.sequence more
  let (signature, more) ← expect Der.bitString more
  if signature.head? ≠ some 0 then throw .badEncoding
  finish more
  finish rest
  checkProper algorithm proper

/-- The fault of a certificate, if it has one. -/
def fault? (der : Bytes) : Option Fault :=
  match check der with
  | .ok () => none
  | .error fault => some fault

end Dialer.Certificate
