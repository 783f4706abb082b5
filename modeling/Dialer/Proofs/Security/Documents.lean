import Dialer.Proofs.Security.Sections
import Mathlib.Data.List.Infix

/-!
# Documents

A `Document` is a text in which certificates are written in sections, with other sections and other
lines between them. Reading it adds its certificates to what has been found, in their order
(`Document.reads`), and a text may as well end in a section or a line without a line end
(`Ending.finish_eq`).

`Armor.Holds` says that a section holds a certificate, in lines of any length; `Armor.write` writes
one in lines of one width (`Armor.holds_write`).
-/

namespace Dialer.Pem

namespace Armor

/-- A section holds a certificate in Base64, in lines of any length. -/
structure Holds (a : Armor) (der : Bytes) : Prop where
  label_eq : a.label = certificateLabel
  base64_eq : a.base64 = Base64.encode der

/-- A section of another label is well formed. What it holds has to be Base64 only if the label is
known. -/
structure Foreign (a : Armor) : Prop extends a.Readable where
  label_ne : a.label ≠ certificateLabel
  wellFormed : a.label ∈ knownLabels → Base64.WellFormed a.base64

/-- A section that held a certificate has got a byte into its Base64 which does not belong there: it
is neither blank nor a digit nor padding. What else is there, was there before. -/
structure Spoilt (a : Armor) (der : Bytes) (byte : UInt8) : Prop where
  label_eq : a.label = certificateLabel
  base64_eq : ∃ front back, a.base64 = front ++ byte :: back ∧
    (front ++ back).Sublist (Base64.encode der)
  not_blank : Base64.blank byte = false
  not_symbol : Base64.symbol? byte = none

variable {a : Armor} {der : Bytes} {byte : UInt8} {found : List Bytes}

/-- Where there is at most one dash in the Base64, no line of it is a mark. -/
theorem readable_of_count (hlabel : Labels a.label) (hcount : a.base64.count 45 ≤ 1) :
    a.Readable := by
  have hfew : ∀ line ∈ a.body, ∀ mark : Bytes, 1 < mark.count 45 → ¬ mark <+: line.content := by
    intro line hline mark hmark hprefix
    have hsub : mark.Sublist a.base64 := by
      refine hprefix.sublist.trans ?_
      rw [base64, List.flatMap_def]
      exact List.sublist_flatten_of_mem (List.mem_map_of_mem hline)
    have := hsub.count_le 45
    omega
  have hend : 1 < (endMark a.label).count 45 := by
    have hdashes : dashes.count 45 = 5 := by decide
    rw [endMark_eq, List.count_append, hdashes]
    omega
  exact ⟨hlabel, fun line hline => ⟨hfew line hline _ (by decide), hfew line hline _ hend⟩⟩

theorem count_dash_encode (der : Bytes) : (Base64.encode der).count 45 = 0 := by
  refine List.count_eq_zero.mpr fun hmem => ?_
  obtain ⟨symbol, hsymbol⟩ := Base64.exists_symbol_of_mem_encode hmem
  cases hsymbol

theorem Holds.readable (h : a.Holds der) : a.Readable := by
  refine readable_of_count (h.label_eq ▸ labels_certificateLabel) ?_
  rw [h.base64_eq, count_dash_encode]
  exact Nat.zero_le 1

theorem Spoilt.readable (h : a.Spoilt der byte) : a.Readable := by
  obtain ⟨front, back, heq, hsub⟩ := h.base64_eq
  refine readable_of_count (h.label_eq ▸ labels_certificateLabel) ?_
  have hcount := hsub.count_le 45
  rw [count_dash_encode, List.count_append] at hcount
  rw [heq, List.count_append, List.count_cons]
  split_ifs <;> omega

/-- What is encoded in a section of another label is well formed. -/
theorem foreign_of_encode {bytes : Bytes} (hlabel : Labels a.label)
    (hne : a.label ≠ certificateLabel) (h : a.base64 = Base64.encode bytes) : a.Foreign where
  toReadable := readable_of_count hlabel (by rw [h, count_dash_encode]; exact Nat.zero_le 1)
  label_ne := hne
  wellFormed _ := by
    rw [h]
    exact Base64.exists_decode_iff.mp
      ⟨bytes, Base64.decode_of_filter (Base64.filter_blank_encode bytes)⟩

/-! ### Writing -/

/-- Cut a text into lines of one width; the last may be shorter. -/
def wrap (width : Nat) (text : Bytes) : List Bytes :=
  if width = 0 ∨ text = [] then []
  else text.take width :: wrap width (text.drop width)
termination_by text.length
decreasing_by
  have := List.length_pos_iff.mpr (not_or.mp ‹_›).2
  rw [List.length_drop]
  omega

theorem flatten_wrap {width : Nat} (hwidth : 0 < width) (text : Bytes) :
    (wrap width text).flatten = text := by
  fun_induction wrap width text with
  | case1 text h =>
    rcases h with h | h
    · omega
    · rw [h, List.flatten_nil]
  | case2 text h ih => rw [List.flatten_cons, ih, List.take_append_drop]

theorem unbroken_encode (bytes : Bytes) : Unbroken (Base64.encode bytes) := by
  intro byte hbyte
  obtain ⟨symbol, hsymbol⟩ := Base64.exists_symbol_of_mem_encode hbyte
  rw [endsLine, Bool.or_eq_false_iff, beq_eq_false_iff_ne, beq_eq_false_iff_ne]
  constructor <;> (rintro rfl; cases hsymbol)

theorem unbroken_of_mem_wrap {width : Nat} {text content : Bytes} (h : Unbroken text)
    (hmem : content ∈ wrap width text) : Unbroken content := by
  fun_induction wrap width text with
  | case1 => cases hmem
  | case2 text _ ih =>
    rcases List.mem_cons.mp hmem with rfl | hmem
    · exact h.shorten (List.take_prefix _ _)
    · exact ih (fun byte hbyte => h byte (List.mem_of_mem_drop hbyte)) hmem

/-- **Write bytes in a section,** in lines of one width that all end alike. -/
def write (label : Bytes) (width : Nat) (ending : LineEnd) (bytes : Bytes) : Armor where
  label
  opening := ending
  body := (wrap width (Base64.encode bytes)).pmap (fun content h => ⟨content, ending, h⟩)
    fun _ hmem => unbroken_of_mem_wrap (unbroken_encode bytes) hmem

theorem base64_write {width : Nat} (hwidth : 0 < width) (label : Bytes) (ending : LineEnd)
    (bytes : Bytes) : (write label width ending bytes).base64 = Base64.encode bytes := by
  rw [base64, write, List.flatMap_def, List.map_pmap, List.pmap_eq_map, List.map_id']
  exact flatten_wrap hwidth _

theorem holds_write {width : Nat} (hwidth : 0 < width) (ending : LineEnd) (der : Bytes) :
    (write certificateLabel width ending der).Holds der :=
  ⟨rfl, base64_write hwidth _ _ _⟩

/-! ### Closing -/

theorem Holds.close_eq (h : a.Holds der) :
    State.close ⟨some ⟨a.label, a.read⟩, found⟩ ⟨a.label, a.read⟩ = .ok ⟨none, der :: found⟩ := by
  have hdecode : Base64.decode a.read = .ok der := by
    refine Base64.decode_of_filter ?_
    rw [filter_blank_read, h.base64_eq, Base64.filter_blank_encode]
  have hknown : knownLabels.contains certificateLabel = true := by decide
  rw [State.close, h.label_eq, if_pos hknown, hdecode]
  rfl

theorem Foreign.close_eq (h : a.Foreign) :
    State.close ⟨some ⟨a.label, a.read⟩, found⟩ ⟨a.label, a.read⟩ = .ok ⟨none, found⟩ := by
  by_cases hknown : knownLabels.contains a.label = true
  · have hwell : Base64.WellFormed a.read := by
      obtain ⟨symbols, hspells, hcomplete⟩ := h.wellFormed (List.contains_iff_mem.mp hknown)
      refine ⟨symbols, ?_, hcomplete⟩
      rwa [Base64.Spells, filter_blank_read]
    obtain ⟨bytes, hbytes⟩ := Base64.exists_decode_iff.mpr hwell
    rw [State.close, if_pos hknown, hbytes]
    dsimp only
    rw [if_neg h.label_ne]
  · rw [State.close, if_neg hknown]

theorem Spoilt.exists_close_eq (h : a.Spoilt der byte) (found : List Bytes) :
    ∃ fault, State.close ⟨some ⟨a.label, a.read⟩, found⟩ ⟨a.label, a.read⟩ = .error fault := by
  obtain ⟨front, back, heq, -⟩ := h.base64_eq
  have hmem : byte ∈ a.read := by
    have hbase : byte ∈ a.base64.filter (!Base64.blank ·) :=
      List.mem_filter.mpr ⟨by simp [heq], by simp [h.not_blank]⟩
    rw [← filter_blank_read] at hbase
    exact (List.mem_filter.mp hbase).1
  obtain ⟨fault, hfault⟩ := Base64.exists_error_of_mem hmem h.not_blank h.not_symbol []
  have hdecode : Base64.decode a.read = .error fault := hfault
  have hknown : knownLabels.contains certificateLabel = true := by decide
  exact ⟨.base64 fault, by rw [State.close, h.label_eq, if_pos hknown, hdecode]⟩

end Armor

/-! ### Documents -/

/-- **A document:** its certificates in order, and its text. Between the sections stand lines that
begin no section, and every line has its end. -/
inductive Document : List Bytes → Bytes → Prop
  | nil : Document [] []
  | line {ders text} (line : Line) (hbegin : ¬ beginMark <+: line.content)
      (h : Document ders text) : Document ders (line.bytes ++ text)
  | certificate {ders text der} (a : Armor) (ending : LineEnd) (ha : a.Holds der)
      (h : Document ders text) : Document (der :: ders) (a.bytes ++ ending.bytes ++ text)
  | foreign {ders text} (a : Armor) (ending : LineEnd) (ha : a.Foreign)
      (h : Document ders text) : Document ders (a.bytes ++ ending.bytes ++ text)

/-- **What can stand at the end of a text** without a line end: a line, or a section. -/
inductive Ending : List Bytes → Bytes → Prop
  | line {content} (hunbroken : Unbroken content) (hbegin : ¬ beginMark <+: content) :
    Ending [] content
  | certificate {der} (a : Armor) (ha : a.Holds der) : Ending [der] a.bytes
  | foreign (a : Armor) (ha : a.Foreign) : Ending [] a.bytes

variable {ders last : List Bytes} {before rest : Bytes} {found : List Bytes} {a : Armor}

/-- A section that can be closed, with the end of its last line. -/
theorem Armor.Readable.reads (h : a.Readable) (ending : LineEnd) {kept : List Bytes}
    (hclose : State.close ⟨some ⟨a.label, a.read⟩, found⟩ ⟨a.label, a.read⟩ = .ok ⟨none, kept⟩) :
    Reads ⟨none, found⟩ (a.bytes ++ ending.bytes) ⟨none, kept⟩ := by
  rw [Armor.bytes, List.append_assoc]
  exact (a.reads_front h).trans (reads_closing ending h.labels.unbroken hclose)

/-- The same at the end of a text. -/
theorem Armor.Readable.finish_eq (h : a.Readable) {kept : List Bytes}
    (hclose : State.close ⟨some ⟨a.label, a.read⟩, found⟩ ⟨a.label, a.read⟩ = .ok ⟨none, kept⟩) :
    State.finish ⟨none, found⟩ a.bytes = .ok kept.reverse := by
  rw [Armor.bytes, a.reads_front h]
  exact finish_endMark h.labels.unbroken hclose

/-- **From a document its certificates are read.** -/
theorem Document.reads {text : Bytes} (h : Document ders text) (found : List Bytes) :
    Reads ⟨none, found⟩ text ⟨none, ders.reverse ++ found⟩ := by
  induction h generalizing found with
  | nil => exact Reads.refl _
  | line line hbegin _ ih => exact (reads_outside line.ending line.unbroken hbegin).trans (ih _)
  | @certificate ders _ der a ending ha _ ih =>
    have hkept : (der :: ders).reverse ++ found = ders.reverse ++ der :: found := by simp
    rw [hkept]
    exact (ha.readable.reads ending ha.close_eq).trans (ih _)
  | foreign a ending ha _ ih => exact (ha.toReadable.reads ending ha.close_eq).trans (ih _)

theorem finish_line {content : Bytes} (h : Unbroken content) (hbegin : ¬ beginMark <+: content) :
    State.finish ⟨none, found⟩ content = .ok found.reverse := by
  by_cases hne : content = []
  · rw [hne]
    rfl
  · exact finish_of_unbroken h hne (read_outside hbegin)

theorem Ending.finish_eq (h : Ending last rest) :
    State.finish ⟨none, found⟩ rest = .ok (found.reverse ++ last) := by
  cases h with
  | line hunbroken hbegin => rw [finish_line hunbroken hbegin, List.append_nil]
  | certificate a ha => rw [ha.readable.finish_eq ha.close_eq, List.reverse_cons]
  | foreign a ha => rw [ha.toReadable.finish_eq ha.close_eq, List.append_nil]

end Dialer.Pem
