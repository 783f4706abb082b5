import Dialer.Proofs.Security.Documents
import Dialer.Security.Parameters

/-!
# Certificates there and back

From a document exactly its certificates are read. If a byte that does not belong there has got into
one of them, or the text ends inside a section, none is (`Certificate.ofPem_document`).

A section begins with its mark, though. A text that ends inside this mark ends in a line that means
nothing, so the certificates before it are read (`Certificate.ofPem_cutMark`).
-/

namespace Dialer.Pem

variable {a : Armor} {label body content : Bytes} {found : List Bytes}

/-! ### Spoilt certificates -/

/-- A spoilt certificate spoils everything. -/
theorem Armor.Spoilt.finish_eq {der : Bytes} {byte : UInt8} (h : a.Spoilt der byte)
    (found : List Bytes) (after : Bytes) :
    ∃ fault, State.finish ⟨none, found⟩ (a.bytes ++ after) = .error fault := by
  obtain ⟨fault, hclose⟩ := h.exists_close_eq found
  obtain ⟨tail, more, hlines⟩ := exists_lines_append
    (unbroken_endMark h.readable.labels.unbroken) (endMark_ne_nil a.label) after
  refine ⟨fault, ?_⟩
  rw [Armor.bytes, List.append_assoc, a.reads_front h.readable]
  exact finish_of_read_error hlines ((read_end a.label a.read tail found).trans hclose)

/-! ### Texts that end too soon -/

theorem prefix_append_cases {cut front back : Bytes} (h : cut <+: front ++ back) :
    cut <+: front ∨ ∃ more, cut = front ++ more ∧ more <+: back := by
  obtain ⟨tail, htail⟩ := h
  rcases List.append_eq_append_iff.mp htail with ⟨more, hfront, -⟩ | ⟨more, hcut, hback⟩
  · exact Or.inl ⟨more, hfront.symm⟩
  · exact Or.inr ⟨more, hcut, tail, hback.symm⟩

theorem prefix_line_cases {ending : LineEnd} {cut : Bytes} (h : cut <+: content ++ ending.bytes) :
    cut <+: content ∨ ∃ shorter : LineEnd, cut = content ++ shorter.bytes := by
  rcases prefix_append_cases h with h | ⟨more, rfl, hmore⟩
  · exact Or.inl h
  have hnil : content ++ [] <+: content := by rw [List.append_nil]
  have hinits : more ∈ ending.bytes.inits := (List.mem_inits _ _).mpr hmore
  cases ending with
  | lf =>
    rcases List.mem_pair.mp hinits with rfl | rfl
    · exact Or.inl hnil
    · exact Or.inr ⟨.lf, rfl⟩
  | cr =>
    rcases List.mem_pair.mp hinits with rfl | rfl
    · exact Or.inl hnil
    · exact Or.inr ⟨.cr, rfl⟩
  | crlf =>
    rcases List.mem_cons.mp hinits with rfl | hinits
    · exact Or.inl hnil
    rcases List.mem_pair.mp hinits with rfl | rfl
    · exact Or.inr ⟨.cr, rfl⟩
    · exact Or.inr ⟨.crlf, rfl⟩

theorem finish_nil_inside (opened : Section) :
    State.finish ⟨some opened, found⟩ [] = .error (.missingEnd opened.label) := rfl

theorem exists_finish_line_inside {cut : Bytes} (hlabel : Unbroken label) (h : Unbroken content)
    (hmarks : Markless label content) (ending : LineEnd) (hcut : cut <+: content ++ ending.bytes) :
    ∃ fault, State.finish ⟨some ⟨label, body⟩, found⟩ cut = .error fault := by
  rcases prefix_line_cases hcut with hcut | ⟨shorter, rfl⟩
  · by_cases hne : cut = []
    · exact ⟨_, hne ▸ finish_nil_inside _⟩
    · exact ⟨_, (finish_of_unbroken (h.shorten hcut) hne (read_inside (hmarks.shorten hcut))).trans
        (finish_nil_inside _)⟩
  · exact ⟨_, ((reads_inside shorter hlabel h hmarks).finish_eq).trans (finish_nil_inside _)⟩

/-- **A text that ends inside a section,** behind the line that begins it. -/
theorem exists_finish_inside (body : Bytes) (found : List Bytes) {ls : List Line} {cut : Bytes}
    (hlabel : Unbroken label) (hmarks : ∀ line ∈ ls, Markless label line.content)
    (hcut : cut <+: ls.flatMap Line.bytes ++ endMark label)
    (hne : cut ≠ ls.flatMap Line.bytes ++ endMark label) :
    ∃ fault, State.finish ⟨some ⟨label, body⟩, found⟩ cut = .error fault := by
  induction ls generalizing body cut with
  | nil =>
    have hshort : cut <+: endMark label := hcut
    have hmarkless : Markless label cut := by
      refine ⟨fun hbegin => ?_, fun hend => hne (hshort.eq_of_length_le hend.length_le)⟩
      have hnone := not_beginMark_prefix_endMark label []
      rw [List.append_nil] at hnone
      exact hnone (hbegin.trans hshort)
    exact exists_finish_line_inside hlabel ((unbroken_endMark hlabel).shorten hshort) hmarkless
      .lf (List.prefix_append _ _)
  | cons line ls ih =>
    obtain ⟨hline, hls⟩ := List.forall_mem_cons.mp hmarks
    rw [List.flatMap_cons, List.append_assoc] at hcut hne
    rcases prefix_append_cases hcut with hcut | ⟨more, rfl, hmore⟩
    · exact exists_finish_line_inside hlabel line.unbroken hline line.ending hcut
    · obtain ⟨fault, hfault⟩ := ih _ hls hmore fun heq => hne (heq ▸ rfl)
      exact ⟨fault, (reads_inside line.ending hlabel line.unbroken hline more).trans hfault⟩

theorem exists_finish_beginLine {cut : Bytes} (hlabel : Labels label) (ending : LineEnd)
    (hcut : cut <+: beginLine label ++ ending.bytes) (hmark : beginMark <+: cut) :
    ∃ fault, State.finish ⟨none, found⟩ cut = .error fault := by
  rcases prefix_line_cases hcut with hcut | ⟨shorter, rfl⟩
  · -- Where the line is not complete, its label need not be either.
    have hne : cut ≠ [] := by
      rintro rfl
      exact absurd (List.prefix_nil.mp hmark) (by decide)
    have hline : Unbroken cut := (unbroken_beginLine hlabel.unbroken).shorten hcut
    rcases hfound : label? cut with _ | other
    · refine ⟨.illegalStart cut, finish_of_read_error (lines_unbroken hline hne) ?_⟩
      rw [State.read, if_pos (List.isPrefixOf_iff_prefix.mpr hmark), hfound]
    · exact ⟨_, (finish_of_unbroken hline hne (read_begin hmark hfound)).trans
        (finish_nil_inside _)⟩
  · exact ⟨_, ((reads_opening shorter hlabel).finish_eq).trans (finish_nil_inside _)⟩

/-- **A text that ends inside a section,** but not inside the mark that begins it. -/
theorem Armor.Readable.exists_finish_cut (h : a.Readable) (found : List Bytes) {cut : Bytes}
    (hcut : cut <+: a.bytes) (hne : cut ≠ a.bytes) (hmark : beginMark <+: cut) :
    ∃ fault, State.finish ⟨none, found⟩ cut = .error fault := by
  rw [Armor.bytes, Armor.front, List.append_assoc] at hcut hne
  rcases prefix_append_cases hcut with hcut | ⟨more, rfl, hmore⟩
  · exact exists_finish_beginLine h.labels a.opening hcut hmark
  · obtain ⟨fault, hfault⟩ := exists_finish_inside a.opening.bytes.tail found
      h.labels.unbroken h.markless hmore fun heq => hne (by rw [heq])
    exact ⟨fault, (reads_opening a.opening h.labels more).trans hfault⟩

end Dialer.Pem

namespace Dialer.Certificate

open Pem

variable {ders last : List Bytes} {before rest text : Bytes}

theorem ofPem_of_ok {found : List Bytes} (h : State.finish {} text = .ok found)
    (hne : found ≠ []) : ofPem text = .ok found := by
  rw [ofPem, certificates_eq_finish, h]
  rcases found with _ | ⟨der, found⟩
  · exact absurd rfl hne
  · rfl

theorem ofPem_of_none (h : State.finish {} text = .ok []) :
    ofPem text = .error .noCertificates := by
  rw [ofPem, certificates_eq_finish, h]

theorem ofPem_of_error {fault : Pem.Fault} (h : State.finish {} text = .error fault) :
    ofPem text = .error (.pem fault) := by
  rw [ofPem, certificates_eq_finish, h]

theorem finish_document (h : Document ders before) (rest : Bytes) :
    State.finish {} (before ++ rest) = State.finish ⟨none, ders.reverse⟩ rest := by
  have hreads := h.reads []
  rw [List.append_nil] at hreads
  exact hreads rest

theorem ofPem_ending (h : Document ders before) (hlast : Ending last rest)
    (hne : ders ++ last ≠ []) : ofPem (before ++ rest) = .ok (ders ++ last) := by
  refine ofPem_of_ok ?_ hne
  rw [finish_document h, hlast.finish_eq, List.reverse_reverse]

theorem finish_mark (h : Document ders before) (hrest : rest <+: beginMark)
    (hshort : ¬ beginMark <+: rest) : State.finish {} (before ++ rest) = .ok ders := by
  have hline : Ending [] rest := .line (unbroken_beginMark.shorten hrest) hshort
  rw [finish_document h, hline.finish_eq, List.reverse_reverse, List.append_nil]

/-- **Certificates there and back.** Of a text that begins with a document, all certificates are
read or none. All are if the text ends there, or in a last line or section without a line end. None
is if a spoilt certificate follows, or a section of which something is missing. Only a section that
ends inside the mark that begins it is passed over. -/
theorem ofPem_document (h : Document ders before) :
    (∀ last rest, Ending last rest → ders ++ last ≠ [] →
      ofPem (before ++ rest) = .ok (ders ++ last)) ∧
    (∀ (a : Armor) (der : Bytes) (byte : UInt8), a.Spoilt der byte →
      ∀ after, ∃ fault, ofPem (before ++ a.bytes ++ after) = .error (.pem fault)) ∧
    ∀ a : Armor, (∃ der, a.Holds der) ∨ a.Foreign →
      ∀ cut, cut <+: a.bytes → cut ≠ a.bytes →
        (beginMark <+: cut → ∃ fault, ofPem (before ++ cut) = .error (.pem fault)) ∧
        (¬ beginMark <+: cut → ders ≠ [] → ofPem (before ++ cut) = .ok ders) ∧
        (¬ beginMark <+: cut → ders = [] → ofPem (before ++ cut) = .error .noCertificates) := by
  refine ⟨fun last rest hlast hne => ofPem_ending h hlast hne, fun a der byte hspoilt after => ?_,
    fun a ha cut hcut hne => ?_⟩
  · obtain ⟨fault, hfault⟩ := hspoilt.finish_eq ders.reverse after
    refine ⟨fault, ofPem_of_error ?_⟩
    rw [List.append_assoc, finish_document h, hfault]
  · have hbegins := a.beginMark_prefix_front.trans a.front_prefix_bytes
    have hshort := List.prefix_or_prefix_of_prefix hcut hbegins
    have hpassed : ¬ beginMark <+: cut → State.finish {} (before ++ cut) = .ok ders := fun hmark =>
      finish_mark h (hshort.resolve_right hmark) hmark
    refine ⟨fun hmark => ?_, fun hmark hders => ofPem_of_ok (hpassed hmark) hders,
      fun hmark hders => ofPem_of_none (hders ▸ hpassed hmark)⟩
    have hreadable : a.Readable := by
      rcases ha with ⟨der, ha⟩ | ha
      · exact ha.readable
      · exact ha.toReadable
    obtain ⟨fault, hfault⟩ := hreadable.exists_finish_cut ders.reverse hcut hne hmark
    refine ⟨fault, ofPem_of_error ?_⟩
    rw [finish_document h, hfault]

/-- A key, a line and a certificate, in lines of different lengths and with different ends. -/
def mixed : Bytes :=
  (Armor.write (Utf8.encode "PUBLIC KEY") 64 .crlf [7]).bytes ++ LineEnd.crlf.bytes ++
    (Utf8.encode "roots" ++ LineEnd.cr.bytes ++
      ((Armor.write certificateLabel 3 .lf [1, 2, 3]).bytes ++ LineEnd.lf.bytes ++ []))

theorem document_mixed : Document [[1, 2, 3]] mixed := by
  have hlabel : Labels (Utf8.encode "PUBLIC KEY") := ⟨by decide, by decide⟩
  have hkey : (Armor.write (Utf8.encode "PUBLIC KEY") 64 .crlf [7]).Foreign :=
    Armor.foreign_of_encode hlabel (by decide) (Armor.base64_write (by decide) _ _ _)
  have hcertificate := Armor.holds_write (show 0 < 3 by decide) .lf [1, 2, 3]
  have hunbroken : Unbroken (Utf8.encode "roots") := by decide
  have hplain : ¬ beginMark <+: Utf8.encode "roots" := by decide
  exact .foreign _ .crlf hkey (.line ⟨Utf8.encode "roots", .cr, hunbroken⟩ hplain
    (.certificate _ .lf hcertificate .nil))

/-- Four digits, and an exclamation mark between the first and the second. -/
def exclaimed : Armor where
  label := certificateLabel
  opening := .lf
  body := [⟨Utf8.encode "A!A==", .lf, by decide⟩]

theorem spoilt_exclaimed : exclaimed.Spoilt [0] 33 :=
  ⟨rfl, ⟨[65], [65, 61, 61], rfl, .refl _⟩, rfl, rfl⟩

theorem ofPem_document_mixed :
    Document [[1, 2, 3]] mixed ∧
      ofPem (mixed ++ (Armor.write certificateLabel 64 .cr [4, 5]).bytes) =
        .ok [[1, 2, 3], [4, 5]] ∧
      (∃ fault, ofPem (mixed ++ exclaimed.bytes ++ mixed) = .error (.pem fault)) ∧
      ∃ fault, ofPem (mixed ++ (Armor.write certificateLabel 64 .cr [4, 5]).front) =
        .error (.pem fault) := by
  have hsecond := Armor.holds_write (show 0 < 64 by decide) .cr [4, 5]
  obtain ⟨hread, hspoilt, hcut⟩ := ofPem_document document_mixed
  refine ⟨document_mixed, hread _ _ (.certificate _ hsecond) (by simp),
    hspoilt _ _ _ spoilt_exclaimed _, ?_⟩
  exact (hcut _ (Or.inl ⟨_, hsecond⟩) _ (Armor.front_prefix_bytes _)
    (Armor.front_ne_bytes _)).1 (Armor.beginMark_prefix_front _)

/-- A certificate in lines of the usual width. -/
def usual (der : Bytes) : Armor := Armor.write certificateLabel 64 .lf der

/-- Of two certificates the second ends inside its mark, and the first is read. -/
theorem ofPem_cutMark :
    Document [[1, 2, 3], [4, 5, 6]]
        ((usual [1, 2, 3]).bytes ++ LineEnd.lf.bytes ++
          ((usual [4, 5, 6]).bytes ++ LineEnd.lf.bytes ++ [])) ∧
      Utf8.encode "-----BEGIN" <+: (usual [4, 5, 6]).bytes ∧
      Utf8.encode "-----BEGIN" ≠ [] ∧ Utf8.encode "-----BEGIN" ≠ (usual [4, 5, 6]).bytes ∧
      ofPem ((usual [1, 2, 3]).bytes ++ LineEnd.lf.bytes ++ Utf8.encode "-----BEGIN") =
        .ok [[1, 2, 3]] := by
  have hholds : ∀ der, (usual der).Holds der := Armor.holds_write (by decide) .lf
  have hfirst : Document [[1, 2, 3]] ((usual [1, 2, 3]).bytes ++ LineEnd.lf.bytes) := by
    have hfirst := Document.certificate _ .lf (hholds [1, 2, 3]) .nil
    rwa [List.append_nil] at hfirst
  have hmark : Utf8.encode "-----BEGIN" <+: beginMark := by decide
  have hshort : ¬ beginMark <+: Utf8.encode "-----BEGIN" := by decide
  refine ⟨.certificate _ .lf (hholds _) (.certificate _ .lf (hholds _) .nil),
    hmark.trans ((Armor.beginMark_prefix_front _).trans (Armor.front_prefix_bytes _)), by decide,
    fun heq => hshort ?_, ofPem_of_ok (finish_mark hfirst hmark hshort) (by simp)⟩
  rw [heq]
  exact (Armor.beginMark_prefix_front _).trans (Armor.front_prefix_bytes _)

end Dialer.Certificate
