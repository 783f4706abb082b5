import Dialer.Proofs.Security.Base64
import Dialer.Security.Pem

/-!
# How sections are written and read

An `Armor` is a section as it is written: a line that begins it, lines of Base64, and the mark that
ends it. `Reads s text t` says that reading a text takes one state to another, whatever follows it;
lines and sections are told by what they do to the state.

* `reads_outside`, `reads_inside`, `reads_opening`, `reads_closing`: lines of each kind.
* `label?_beginLine_concat`: the label of a section is read as it was written.
* `Armor.reads_front`: reading a section up to its end leaves it open.
-/

namespace Dialer.Pem

/-! ### Lines -/

/-- How a line can end. -/
inductive LineEnd
  | lf
  | cr
  /-- Both; the second of them is read as a line of its own. -/
  | crlf
deriving DecidableEq, Repr

/-- The bytes at the end of a line. -/
def LineEnd.bytes : LineEnd → Bytes
  | lf => [10]
  | cr => [13]
  | crlf => [13, 10]

/-- There is no line end in the bytes. -/
def Unbroken (bytes : Bytes) : Prop := ∀ byte ∈ bytes, endsLine byte = false

instance (bytes : Bytes) : Decidable (Unbroken bytes) :=
  List.decidableBAll (fun byte => endsLine byte = false) bytes

/-- **A line:** what stands in it, and how it ends. -/
structure Line where
  content : Bytes
  ending : LineEnd
  unbroken : Unbroken content

/-- The bytes of a line. -/
def Line.bytes (line : Line) : Bytes := line.content ++ line.ending.bytes

variable {content rest : Bytes} {byte : UInt8}

theorem unbroken_nil : Unbroken [] := nofun

theorem Unbroken.append {more : Bytes} (h : Unbroken content) (hmore : Unbroken more) :
    Unbroken (content ++ more) := by
  intro byte hbyte
  exact (List.mem_append.mp hbyte).elim (h byte) (hmore byte)

theorem Unbroken.shorten {front : Bytes} (h : Unbroken content) (hfront : front <+: content) :
    Unbroken front := fun byte hbyte => h byte (hfront.subset hbyte)

theorem lines_unbroken_append (h : Unbroken content) (hbyte : endsLine byte = true) (rest : Bytes) :
    lines (content ++ byte :: rest) = (content ++ [byte]) :: lines rest := by
  induction content with
  | nil => rw [List.nil_append, lines, if_pos hbyte, List.nil_append]
  | cons first content ih =>
    obtain ⟨hfirst, hcontent⟩ := List.forall_mem_cons.mp h
    rw [List.cons_append, lines, if_neg (by simp [hfirst]), ih hcontent]
    rfl

theorem lines_unbroken (h : Unbroken content) (hne : content ≠ []) : lines content = [content] := by
  induction content with
  | nil => exact absurd rfl hne
  | cons first content ih =>
    obtain ⟨hfirst, hcontent⟩ := List.forall_mem_cons.mp h
    rw [lines, if_neg (by simp [hfirst])]
    rcases content with _ | ⟨second, content⟩
    · rfl
    · rw [ih hcontent (List.cons_ne_nil _ _)]

/-- What has no line end in it stands at the beginning of one line. -/
theorem exists_lines_append (h : Unbroken content) (hne : content ≠ []) (rest : Bytes) :
    ∃ tail more, lines (content ++ rest) = (content ++ tail) :: more := by
  induction content with
  | nil => exact absurd rfl hne
  | cons first content ih =>
    obtain ⟨hfirst, hcontent⟩ := List.forall_mem_cons.mp h
    rw [List.cons_append, lines, if_neg (by simp [hfirst])]
    rcases content with _ | ⟨second, content⟩
    · rcases hlines : lines rest with _ | ⟨line, more⟩
      · exact ⟨[], [], by rw [List.nil_append, hlines]; rfl⟩
      · exact ⟨line, more, by rw [List.nil_append, hlines]; rfl⟩
    · obtain ⟨tail, more, hlines⟩ := ih hcontent (List.cons_ne_nil _ _)
      exact ⟨tail, more, by rw [hlines]; rfl⟩

/-- A mark is not found sooner or later for the line end. -/
theorem prefix_concat_iff_of_unbroken {mark : Bytes} (hmark : Unbroken mark)
    (hbyte : endsLine byte = true) : mark <+: content ++ [byte] ↔ mark <+: content := by
  rw [List.prefix_concat_iff, or_iff_right_iff_imp]
  rintro rfl
  have := hmark byte (by simp)
  simp [this] at hbyte

/-! ### Marks -/

/-- The dashes at both ends of a mark. -/
def dashes : Bytes := [45, 45, 45, 45, 45]

theorem beginMark_eq : beginMark = dashes ++ [66, 69, 71, 73, 78, 32] := by decide

theorem endMark_eq (label : Bytes) :
    endMark label = dashes ++ [69, 78, 68, 32] ++ label ++ dashes := rfl

theorem unbroken_beginMark : Unbroken beginMark := by decide

theorem unbroken_dashes : Unbroken dashes := by decide

theorem unbroken_endMark {label : Bytes} (h : Unbroken label) : Unbroken (endMark label) := by
  have hfront : Unbroken (dashes ++ [69, 78, 68, 32]) := by decide
  exact (hfront.append h).append unbroken_dashes

theorem endMark_ne_nil (label : Bytes) : endMark label ≠ [] := by simp [endMark_eq, dashes]

/-- A line begins no section, and does not end the one with a label. -/
structure Markless (label content : Bytes) : Prop where
  begins : ¬ beginMark <+: content
  ends : ¬ endMark label <+: content

theorem markless_nil (label : Bytes) : Markless label [] :=
  ⟨by decide, fun h => endMark_ne_nil label (List.prefix_nil.mp h)⟩

theorem Markless.shorten {label front : Bytes} (h : Markless label content)
    (hfront : front <+: content) : Markless label front :=
  ⟨fun hb => h.begins (hb.trans hfront), fun he => h.ends (he.trans hfront)⟩

theorem Markless.concat {label : Bytes} (h : Markless label content) (hlabel : Unbroken label)
    (hbyte : endsLine byte = true) : Markless label (content ++ [byte]) :=
  ⟨(prefix_concat_iff_of_unbroken unbroken_beginMark hbyte).not.mpr h.begins,
    (prefix_concat_iff_of_unbroken (unbroken_endMark hlabel) hbyte).not.mpr h.ends⟩

/-- What ends a section does not begin one. -/
theorem not_beginMark_prefix_endMark (label rest : Bytes) :
    ¬ beginMark <+: endMark label ++ rest := by
  simp [beginMark_eq, endMark_eq, dashes]

/-! ### Labels -/

/-- The line that begins a section with a label. -/
def beginLine (label : Bytes) : Bytes := beginMark ++ label ++ dashes

/-- **What can be a label:** there is no line end in it, and its last byte that is no space is no
dash. -/
structure Labels (label : Bytes) : Prop where
  unbroken : Unbroken label
  undashed : (label.reverse.dropWhile (· == 32)).head? ≠ some 45

theorem labels_certificateLabel : Labels certificateLabel := ⟨by decide, by decide⟩

theorem unbroken_beginLine {label : Bytes} (h : Unbroken label) : Unbroken (beginLine label) :=
  (unbroken_beginMark.append h).append unbroken_dashes

/-- Looking back over a label, which is given in reverse, no dash is found. -/
theorem trailer_append_reverse_beginMark {back : Bytes} (h : Unbroken back)
    (hdash : (back.dropWhile (· == 32)).head? ≠ some 45) :
    trailer (back ++ beginMark.reverse) = (0, 0) := by
  induction back with
  | nil => decide
  | cons byte back ih =>
    obtain ⟨hbyte, hback⟩ := List.forall_mem_cons.mp h
    rw [List.cons_append, trailer]
    by_cases hspace : byte = 32
    · subst hspace
      rw [if_neg (by decide), if_pos (by decide), ih hback (by simpa using hdash)]
      rfl
    · have hne : byte ≠ 45 := by simpa [List.dropWhile_cons, hspace] using hdash
      rw [if_neg hne, if_neg (by simp [hbyte, hspace])]

theorem trailer_reverse_beginLine {label : Bytes} (h : Labels label) :
    trailer (beginLine label).reverse = (5, 5) := by
  have hback : Unbroken label.reverse := fun byte hbyte =>
    h.unbroken byte (List.mem_reverse.mp hbyte)
  have hlabel := trailer_append_reverse_beginMark hback h.undashed
  have hreverse : (beginLine label).reverse = dashes ++ (label.reverse ++ beginMark.reverse) := by
    rw [beginLine, List.reverse_append, List.reverse_append]
    rfl
  rw [hreverse]
  simp only [dashes, List.cons_append, List.nil_append, trailer, hlabel]
  rfl

/-- What stands between the mark and the dashes. -/
theorem drop_take_beginLine (label tail : Bytes) :
    ((beginLine label ++ tail).take ((beginLine label ++ tail).length - (tail.length + 5))).drop
      beginMark.length = label := by
  have hlength : (beginLine label ++ tail).length - (tail.length + 5) =
      (beginMark ++ label).length := by
    simp only [beginLine, dashes, List.length_append, List.length_cons, List.length_nil]
    omega
  rw [hlength, beginLine, List.append_assoc, List.take_left, List.drop_left]

/-- **The label of a section** is read as it was written. The line end does not count. -/
theorem label?_beginLine_concat {label : Bytes} (h : Labels label) (hbyte : endsLine byte = true) :
    label? (beginLine label ++ [byte]) = some label := by
  have hne : byte ≠ 45 := by
    rintro rfl
    cases hbyte
  have htrailer : trailer (beginLine label ++ [byte]).reverse = (5, 6) := by
    rw [List.reverse_concat, trailer, if_neg hne, if_pos (by simp [hbyte]),
      trailer_reverse_beginLine h]
    rfl
  have hlabel := drop_take_beginLine label [byte]
  simp only [label?, htrailer, if_true, List.length_singleton, Nat.reduceAdd] at hlabel ⊢
  rw [hlabel]

/-! ### Reading -/

/-- What comes of the rest of a text. -/
def State.finish (s : State) (rest : Bytes) : Except Fault (List Bytes) :=
  match s.readAll (lines rest) with
  | .error fault => .error fault
  | .ok s =>
    match s.current with
    | some opened => .error (.missingEnd opened.label)
    | none => .ok s.found.reverse

theorem certificates_eq_finish (text : Bytes) : certificates text = State.finish {} text := rfl

variable {s t u : State} {label body line text : Bytes} {found : List Bytes} {fault : Fault}

theorem finish_of_read (hlines : lines text = line :: lines rest) (hread : s.read line = .ok t) :
    s.finish text = t.finish rest := by
  rw [State.finish, hlines, State.readAll, hread]
  rfl

/-- A last line without a line end. -/
theorem finish_of_unbroken (h : Unbroken line) (hne : line ≠ []) (hread : s.read line = .ok t) :
    s.finish line = t.finish [] := by
  have hlines : lines line = line :: lines [] := lines_unbroken h hne
  exact finish_of_read hlines hread

theorem finish_of_read_error {more : List Bytes} (hlines : lines text = line :: more)
    (hread : s.read line = .error fault) : s.finish text = .error fault := by
  rw [State.finish, hlines, State.readAll, hread]

theorem read_outside (h : ¬ beginMark <+: line) :
    State.read ⟨none, found⟩ line = .ok ⟨none, found⟩ := by
  rw [State.read, if_neg (by rwa [List.isPrefixOf_iff_prefix])]

theorem read_inside (h : Markless label line) :
    State.read ⟨some ⟨label, body⟩, found⟩ line = .ok ⟨some ⟨label, body ++ line⟩, found⟩ := by
  rw [State.read, if_neg (by simpa [List.isPrefixOf_iff_prefix] using h.begins)]
  dsimp only
  rw [if_neg (by simpa [List.isPrefixOf_iff_prefix] using h.ends)]

theorem read_begin (h : beginMark <+: line) (hlabel : label? line = some label) :
    State.read ⟨none, found⟩ line = .ok ⟨some ⟨label, []⟩, found⟩ := by
  rw [State.read, if_pos (List.isPrefixOf_iff_prefix.mpr h), hlabel]
  rfl

theorem read_end (label body tail : Bytes) (found : List Bytes) :
    State.read ⟨some ⟨label, body⟩, found⟩ (endMark label ++ tail) =
      State.close ⟨some ⟨label, body⟩, found⟩ ⟨label, body⟩ := by
  have hbegin : ¬ beginMark.isPrefixOf (endMark label ++ tail) = true := by
    rw [List.isPrefixOf_iff_prefix]
    exact not_beginMark_prefix_endMark label tail
  rw [State.read, if_neg hbegin]
  dsimp only
  rw [if_pos (List.isPrefixOf_iff_prefix.mpr (List.prefix_append _ _))]

/-- **Reading a text takes one state to another,** whatever follows it. -/
def Reads (s : State) (text : Bytes) (t : State) : Prop :=
  ∀ rest, s.finish (text ++ rest) = t.finish rest

theorem Reads.refl (s : State) : Reads s [] s := fun _ => rfl

theorem Reads.trans {more : Bytes} (h : Reads s text t) (hmore : Reads t more u) :
    Reads s (text ++ more) u := fun rest => by
  rw [List.append_assoc, h, hmore]

theorem Reads.finish_eq (h : Reads s text t) : s.finish text = t.finish [] := by
  simpa using h []

/-- **What stands in a line and how the line ends** are read together. Where it ends with two bytes,
the second is read by itself. -/
theorem reads_ending (t : Bytes → State) (ending : LineEnd) (h : Unbroken content)
    (hread : ∀ byte, endsLine byte = true → s.read (content ++ [byte]) = .ok (t [byte]))
    (hsecond : (t [13]).read [10] = .ok (t [13, 10])) :
    Reads s (content ++ ending.bytes) (t ending.bytes) := by
  have hone : ∀ byte, endsLine byte = true → Reads s (content ++ [byte]) (t [byte]) := by
    intro byte hbyte rest
    rw [List.append_assoc]
    exact finish_of_read (lines_unbroken_append h hbyte rest) (hread byte hbyte)
  cases ending with
  | lf => exact hone 10 rfl
  | cr => exact hone 13 rfl
  | crlf =>
    have hten : Reads (t [13]) [10] (t [13, 10]) := fun rest =>
      finish_of_read (lines_unbroken_append unbroken_nil rfl rest) hsecond
    have htwo := (hone 13 rfl).trans hten
    rwa [List.append_assoc] at htwo

theorem reads_outside (ending : LineEnd) (h : Unbroken content)
    (hbegin : ¬ beginMark <+: content) :
    Reads ⟨none, found⟩ (content ++ ending.bytes) ⟨none, found⟩ := by
  refine reads_ending (fun _ => ⟨none, found⟩) ending h (fun byte hbyte => read_outside ?_)
    (read_outside (by decide))
  rwa [prefix_concat_iff_of_unbroken unbroken_beginMark hbyte]

theorem reads_inside (ending : LineEnd) (hlabel : Unbroken label) (h : Unbroken content)
    (hmarks : Markless label content) :
    Reads ⟨some ⟨label, body⟩, found⟩ (content ++ ending.bytes)
      ⟨some ⟨label, body ++ (content ++ ending.bytes)⟩, found⟩ := by
  refine reads_ending (fun tail => ⟨some ⟨label, body ++ (content ++ tail)⟩, found⟩) ending h
    (fun byte hbyte => read_inside (hmarks.concat hlabel hbyte)) ?_
  refine (read_inside ((markless_nil label).concat hlabel rfl)).trans ?_
  simp

theorem reads_opening (ending : LineEnd) (h : Labels label) :
    Reads ⟨none, found⟩ (beginLine label ++ ending.bytes)
      ⟨some ⟨label, ending.bytes.tail⟩, found⟩ := by
  refine reads_ending (fun tail => ⟨some ⟨label, tail.tail⟩, found⟩) ending
    (unbroken_beginLine h.unbroken) (fun byte hbyte => ?_)
    (read_inside ((markless_nil label).concat h.unbroken rfl))
  refine read_begin ?_ (label?_beginLine_concat h hbyte)
  rw [beginLine, List.append_assoc, List.append_assoc]
  exact List.prefix_append _ _

theorem reads_closing (ending : LineEnd) (hlabel : Unbroken label) {kept : List Bytes}
    (hclose : State.close ⟨some ⟨label, body⟩, found⟩ ⟨label, body⟩ = .ok ⟨none, kept⟩) :
    Reads ⟨some ⟨label, body⟩, found⟩ (endMark label ++ ending.bytes) ⟨none, kept⟩ :=
  reads_ending (fun _ => ⟨none, kept⟩) ending (unbroken_endMark hlabel)
    (fun byte _ => (read_end label body [byte] found).trans hclose) (read_outside (by decide))

/-- What ends a section can be the end of the text as well. -/
theorem finish_endMark (hlabel : Unbroken label) {kept : List Bytes}
    (hclose : State.close ⟨some ⟨label, body⟩, found⟩ ⟨label, body⟩ = .ok ⟨none, kept⟩) :
    State.finish ⟨some ⟨label, body⟩, found⟩ (endMark label) = .ok kept.reverse := by
  have hread := (read_end label body [] found).trans hclose
  rw [List.append_nil] at hread
  exact finish_of_unbroken (unbroken_endMark hlabel) (endMark_ne_nil label) hread

/-! ### Sections -/

/-- **A section as it is written.** The line of its label and those of its Base64 have their ends;
what ends the section has none yet. -/
structure Armor where
  label : Bytes
  opening : LineEnd
  body : List Line

namespace Armor

/-- A section up to what ends it. -/
def front (a : Armor) : Bytes :=
  beginLine a.label ++ a.opening.bytes ++ a.body.flatMap Line.bytes

/-- The bytes of a section. -/
def bytes (a : Armor) : Bytes := a.front ++ endMark a.label

theorem beginMark_prefix_front (a : Armor) : beginMark <+: a.front := by
  rw [front, beginLine, List.append_assoc, List.append_assoc, List.append_assoc]
  exact List.prefix_append _ _

theorem front_prefix_bytes (a : Armor) : a.front <+: a.bytes := List.prefix_append _ _

theorem front_ne_bytes (a : Armor) : a.front ≠ a.bytes := fun h =>
  endMark_ne_nil a.label (List.self_eq_append_right.mp h)

/-- The Base64 in a section, its lines put together. -/
def base64 (a : Armor) : Bytes := a.body.flatMap (·.content)

/-- A section can be told from what is around it. -/
structure Readable (a : Armor) : Prop where
  labels : Labels a.label
  markless : ∀ line ∈ a.body, Markless a.label line.content

variable {a : Armor}

theorem reads_body {ls : List Line} (hlabel : Unbroken label)
    (h : ∀ line ∈ ls, Markless label line.content) :
    Reads ⟨some ⟨label, body⟩, found⟩ (ls.flatMap Line.bytes)
      ⟨some ⟨label, body ++ ls.flatMap Line.bytes⟩, found⟩ := by
  induction ls generalizing body with
  | nil =>
    rw [List.flatMap_nil, List.append_nil]
    exact Reads.refl _
  | cons line ls ih =>
    obtain ⟨hline, hls⟩ := List.forall_mem_cons.mp h
    rw [List.flatMap_cons, ← List.append_assoc]
    exact (reads_inside line.ending hlabel line.unbroken hline).trans (ih hls)

/-- What has been read of a section where it ends. -/
def read (a : Armor) : Bytes := a.opening.bytes.tail ++ a.body.flatMap Line.bytes

/-- **Reading a section up to its end** leaves it open. -/
theorem reads_front (h : a.Readable) :
    Reads ⟨none, found⟩ a.front ⟨some ⟨a.label, a.read⟩, found⟩ :=
  (reads_opening a.opening h.labels).trans (reads_body h.labels.unbroken h.markless)

/-- What is read besides the Base64 is blank. -/
theorem filter_blank_read (a : Armor) :
    a.read.filter (!Base64.blank ·) = a.base64.filter (!Base64.blank ·) := by
  have hending : ∀ ending : LineEnd, ending.bytes.filter (!Base64.blank ·) = [] ∧
      ending.bytes.tail.filter (!Base64.blank ·) = [] := by
    intro ending
    cases ending <;> decide
  have hline : ∀ line : Line,
      line.bytes.filter (!Base64.blank ·) = line.content.filter (!Base64.blank ·) := by
    intro line
    rw [Line.bytes, List.filter_append, (hending line.ending).1, List.append_nil]
  rw [read, List.filter_append, (hending a.opening).2, List.nil_append, base64,
    List.filter_flatMap, List.filter_flatMap]
  simp only [hline]

end Armor

end Dialer.Pem
