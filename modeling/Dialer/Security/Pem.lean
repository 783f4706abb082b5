import Dialer.Security.Base64
import Dialer.Text.Quoted

/-!
# PEM

Certificates are passed around as text: a section begins with a line that names what it holds, goes
on with Base64 and ends with a line that names it again. `Pem.certificates` collects what the
sections labelled `CERTIFICATE` hold. Lines outside sections do not matter, sections with other
known labels must still be well formed, and sections with unknown labels are dropped.

A line that begins a section counts even inside another one: the label is replaced and what was
collected stays.
-/

namespace Dialer.Pem

/-- Why a text is no sequence of sections. -/
inductive Fault
  /-- A line begins like a section but does not end like one. -/
  | illegalStart (line : Bytes)
  /-- The text ends inside a section. -/
  | missingEnd (label : Bytes)
  | base64 (fault : Base64.Fault)
deriving DecidableEq, Repr

/-- The text of a fault. -/
def Fault.message : Fault → String
  | illegalStart line => "illegal section start: " ++ Text.quoted (Utf8.decodeLossy line)
  | missingEnd label => "section end " ++ Text.quoted (Utf8.decodeLossy label) ++ " missing"
  | base64 fault => fault.message

/-- Whether a byte ends a line. -/
def endsLine (byte : UInt8) : Bool := byte == 10 || byte == 13

/-- **The lines of a text,** each with the byte that ends it; only the last may lack one. -/
def lines : Bytes → List Bytes
  | [] => []
  | byte :: rest =>
    if endsLine byte then [byte] :: lines rest
    else
      match lines rest with
      | [] => [[byte]]
      | line :: more => (byte :: line) :: more

/-- What a line that begins a section begins with. -/
def beginMark : Bytes := Utf8.encode "-----BEGIN "

/-- The line that ends a section with a label. -/
def endMark (label : Bytes) : Bytes := Utf8.encode "-----END " ++ label ++ Utf8.encode "-----"

/-- Look back from the end of a line, given in reverse, over dashes, blanks and line ends. Returns
how many dashes there are and how many bytes were passed when the last of them was. -/
def trailer : Bytes → Nat × Nat
  | [] => (0, 0)
  | byte :: rest =>
    if byte = 45 then
      let (dashes, passed) := trailer rest
      (dashes + 1, passed + 1)
    else if endsLine byte || byte == 32 then
      let (dashes, passed) := trailer rest
      (dashes, if dashes = 0 then 0 else passed + 1)
    else (0, 0)

/-- The label of a line that begins a section: what stands before its five last dashes. -/
def label? (line : Bytes) : Option Bytes :=
  let (dashes, passed) := trailer line.reverse
  if dashes = 5 then some ((line.take (line.length - passed)).drop beginMark.length) else none

/-- The label of a certificate. -/
def certificateLabel : Bytes := Utf8.encode "CERTIFICATE"

/-- The labels of sections whose contents are known. -/
def knownLabels : List Bytes :=
  ["CERTIFICATE", "PUBLIC KEY", "RSA PRIVATE KEY", "PRIVATE KEY", "EC PRIVATE KEY", "X509 CRL",
    "CERTIFICATE REQUEST", "ECHCONFIG"].map Utf8.encode

/-- An open section: its label and the Base64 read so far. -/
structure Section where
  label : Bytes
  body : Bytes := []
deriving DecidableEq, Repr

/-- What has been read of a text. -/
structure State where
  /-- The section that is open. -/
  current : Option Section := none
  /-- The contents of the certificate sections, last first. -/
  found : List Bytes := []
deriving DecidableEq, Repr

/-- Close a section. -/
def State.close (s : State) (closed : Section) : Except Fault State :=
  if knownLabels.contains closed.label then
    match Base64.decode closed.body with
    | .error fault => .error (.base64 fault)
    | .ok content =>
      .ok ⟨none, if closed.label = certificateLabel then content :: s.found else s.found⟩
  else .ok ⟨none, s.found⟩

/-- **Read one line.** -/
def State.read (s : State) (line : Bytes) : Except Fault State :=
  if beginMark.isPrefixOf line then
    match label? line with
    | none => .error (.illegalStart line)
    | some label => .ok { s with current := some ⟨label, (s.current.map (·.body)).getD []⟩ }
  else
    match s.current with
    | none => .ok s
    | some opened =>
      if (endMark opened.label).isPrefixOf line then s.close opened
      else .ok { s with current := some { opened with body := opened.body ++ line } }

/-- Read lines until the first fault. -/
def State.readAll (s : State) : List Bytes → Except Fault State
  | [] => .ok s
  | line :: rest =>
    match s.read line with
    | .error fault => .error fault
    | .ok next => next.readAll rest

/-- **The contents of all certificate sections,** in order. -/
def certificates (text : Bytes) : Except Fault (List Bytes) :=
  match State.readAll {} (lines text) with
  | .error fault => .error fault
  | .ok s =>
    match s.current with
    | some opened => .error (.missingEnd opened.label)
    | none => .ok s.found.reverse

end Dialer.Pem
