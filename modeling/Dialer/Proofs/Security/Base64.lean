import Dialer.Security.Base64
import Mathlib.Data.List.Basic

/-!
# Base64 there and back

`Spells` relates a text to its symbols, blanks aside, and `Complete` says of symbols that their
groups are: `decode` accepts the texts whose symbols are complete and no others
(`exists_decode_iff`). It undoes `encode`, whatever blanks stand between the digits
(`decode_of_filter`).

In blocks of two groups or in single ones, reading comes to the same: `decodeGroups` takes the
symbols group by group, and `decodeFrom_eq_decodeGroups` is the one lemma about blocks.
-/

namespace Dialer.Base64

variable {text : Bytes} {symbols : List Symbol} {byte : UInt8}

/-! ### Bytes -/

theorem symbol?_of_blank (h : blank byte = true) : symbol? byte = none := by
  have hvalue : (9 ≤ byte.toNat ∧ byte.toNat ≤ 13) ∨ byte.toNat = 32 := by
    simpa [blank, UInt8.le_iff_toNat_le, ← UInt8.toNat_inj] using h
  unfold symbol?
  grind

theorem symbol?_digitByte {value : Nat} (h : value < 64) :
    symbol? (digitByte value) = some (.digit value) := by
  have hall : ∀ value < 64, symbol? (digitByte value) = some (.digit value) := by decide
  exact hall value h

/-- **A text spells symbols** if, blanks aside, its bytes are those. -/
def Spells (text : Bytes) (symbols : List Symbol) : Prop :=
  (text.filter (!blank ·)).map symbol? = symbols.map some

/-! ### Reading group by group -/

/-- Decode symbols group by group. -/
def decodeGroups : List Symbol → Except Fault Bytes
  | a :: b :: c :: d :: e :: rest =>
    if [a, b, c, d].any (·.isPad) then .error .prematurePadding
    else (decodeGroups (e :: rest)).map (groupBytes [a, b, c, d] ++ ·)
  | last => lastGroup last

theorem decodeGroups_of_length_le {symbols : List Symbol} (h : symbols.length ≤ 4) :
    decodeGroups symbols = lastGroup symbols := by
  match symbols, h with
  | [], _ | [_], _ | [_, _], _ | [_, _, _], _ | [_, _, _, _], _ => rfl
  | _ :: _ :: _ :: _ :: _ :: _, h =>
    simp only [List.length_cons] at h
    omega

theorem decodeGroups_append {group rest : List Symbol} (hgroup : group.length = 4)
    (hrest : rest ≠ []) :
    decodeGroups (group ++ rest) =
      if group.any (·.isPad) then .error .prematurePadding
      else (decodeGroups rest).map (groupBytes group ++ ·) := by
  match group, hgroup, rest, hrest with
  | [a, b, c, d], _, e :: rest, _ => rfl

theorem lastBlock_eq_decodeGroups {block : List Symbol} (h : block.length ≤ 8) :
    lastBlock block = decodeGroups block := by
  rw [lastBlock]
  split_ifs with hshort hpad
  · rw [decodeGroups_of_length_le hshort]
  all_goals
    have htake : (block.take 4).length = 4 := by rw [List.length_take]; omega
    have hdrop : block.drop 4 ≠ [] := by simpa using hshort
    conv_rhs => rw [← List.take_append_drop 4 block, decodeGroups_append htake hdrop]
  · rw [if_pos hpad]
  · rw [if_neg hpad, decodeGroups_of_length_le (by rw [List.length_drop]; omega)]

theorem decodeGroups_block {block rest : List Symbol} (hblock : block.length = 8)
    (hrest : rest ≠ []) :
    decodeGroups (block ++ rest) =
      if block.any (·.isPad) then .error .prematurePadding
      else (decodeGroups rest).map fun bytes =>
        groupBytes (block.take 4) ++ groupBytes (block.drop 4) ++ bytes := by
  have htake : (block.take 4).length = 4 := by rw [List.length_take]; omega
  have hdrop : (block.drop 4).length = 4 := by rw [List.length_drop]; omega
  have hany : block.any (·.isPad) =
      ((block.take 4).any (·.isPad) || (block.drop 4).any (·.isPad)) := by
    rw [← List.any_append, List.take_append_drop]
  have hsecond : block.drop 4 ++ rest ≠ [] := by simp [hrest]
  conv_lhs => rw [← List.take_append_drop 4 block]
  rw [List.append_assoc, decodeGroups_append htake hsecond, decodeGroups_append hdrop hrest, hany]
  rcases (block.take 4).any (·.isPad) with _ | _ <;> rcases (block.drop 4).any (·.isPad) with _ | _
  · rcases decodeGroups rest with fault | bytes
    · rfl
    · simp [Except.map]
  all_goals rfl

/-- **Reading in blocks is reading group by group.** -/
theorem decodeFrom_eq_decodeGroups {block : List Symbol} (hblock : block.length ≤ 8)
    (h : text.map symbol? = symbols.map some) :
    decodeFrom block text = decodeGroups (block ++ symbols) := by
  induction text generalizing block symbols with
  | nil =>
    obtain rfl : symbols = [] := by simpa using h.symm
    rw [decodeFrom, List.append_nil, lastBlock_eq_decodeGroups hblock]
  | cons byte text ih =>
    obtain ⟨symbol, symbols, rfl⟩ : ∃ s ss, symbols = s :: ss := by
      rcases symbols with _ | ⟨s, ss⟩
      · simp at h
      · exact ⟨s, ss, rfl⟩
    obtain ⟨hsymbol, htext⟩ := List.cons.inj h
    have hblank : ¬ blank byte = true := fun hb => by
      rw [symbol?_of_blank hb] at hsymbol
      cases hsymbol
    rw [decodeFrom, if_neg hblank, hsymbol]
    dsimp only
    by_cases hroom : block.length < 8
    · have hblock' : (block ++ [symbol]).length ≤ 8 := by rw [List.length_append]; exact hroom
      rw [if_pos hroom, ih hblock' htext, List.append_assoc, List.singleton_append]
    · have hsingle : [symbol].length ≤ 8 := by simp
      rw [if_neg hroom, decodeGroups_block (by omega) (List.cons_ne_nil _ _),
        ih hsingle htext, List.singleton_append]

theorem decodeFrom_filter_blank (block : List Symbol) (text : Bytes) :
    decodeFrom block (text.filter (!blank ·)) = decodeFrom block text := by
  induction text generalizing block with
  | nil => rfl
  | cons byte text ih =>
    by_cases hblank : blank byte = true
    · rw [List.filter_cons, decodeFrom, if_pos hblank]
      simpa [hblank] using ih block
    · rw [List.filter_cons, if_pos (by simpa using hblank), decodeFrom, decodeFrom]
      simp only [ih]

/-- **A text that spells symbols** is decoded as they are. -/
theorem Spells.decode_eq (h : Spells text symbols) : decode text = decodeGroups symbols := by
  rw [decode, ← decodeFrom_filter_blank]
  exact decodeFrom_eq_decodeGroups (Nat.zero_le 8) h

theorem exists_error_of_mem (hmem : byte ∈ text) (hblank : blank byte = false)
    (hsymbol : symbol? byte = none) (block : List Symbol) :
    ∃ fault, decodeFrom block text = .error fault := by
  induction text generalizing block with
  | nil => cases hmem
  | cons first text ih =>
    rw [decodeFrom]
    by_cases heq : byte = first
    · subst heq
      rw [if_neg (by simp [hblank]), hsymbol]
      exact ⟨_, rfl⟩
    have ih := ih ((List.mem_cons.mp hmem).resolve_left heq)
    by_cases hfirst : blank first = true
    · rw [if_pos hfirst]
      exact ih block
    rw [if_neg hfirst]
    rcases symbol? first with _ | symbol
    · exact ⟨_, rfl⟩
    dsimp only
    split_ifs with hroom hpad
    · exact ih _
    · exact ⟨_, rfl⟩
    · obtain ⟨fault, hfault⟩ := ih [symbol]
      exact ⟨fault, by rw [hfault]; rfl⟩

/-- So what can be decoded spells symbols. -/
theorem exists_spells_of_decode {bytes : Bytes} (h : decode text = .ok bytes) :
    ∃ symbols, Spells text symbols := by
  have hall : ∀ byte ∈ text.filter (!blank ·), ∃ symbol, symbol? byte = some symbol := by
    intro byte hbyte
    obtain ⟨hmem, hblank⟩ := List.mem_filter.mp hbyte
    refine Option.ne_none_iff_exists'.mp fun hnone => ?_
    obtain ⟨fault, hfault⟩ := exists_error_of_mem hmem (by simpa using hblank) hnone []
    rw [decode, hfault] at h
    cases h
  refine ⟨(text.filter (!blank ·)).filterMap symbol?, ?_⟩
  rw [Spells, List.map_filterMap, ← List.filterMap_eq_map]
  refine List.filterMap_congr fun byte hbyte => ?_
  obtain ⟨symbol, hsymbol⟩ := hall byte hbyte
  rw [Function.comp_apply, hsymbol, Option.map_some]

/-! ### Complete symbols -/

/-- **Symbols are complete** if they are digits in groups of four, of which the last may be short by
one digit or two, with or without padding. -/
inductive Complete : List Symbol → Prop
  | nil : Complete []
  | group (a b c d : Nat) {rest : List Symbol} (h : Complete rest) :
    Complete (.digit a :: .digit b :: .digit c :: .digit d :: rest)
  | three (a b c : Nat) : Complete [.digit a, .digit b, .digit c]
  | threePadded (a b c : Nat) : Complete [.digit a, .digit b, .digit c, .pad]
  | two (a b : Nat) : Complete [.digit a, .digit b]
  | twoPadded (a b : Nat) : Complete [.digit a, .digit b, .pad, .pad]

/-- **A text is well formed** if it spells complete symbols. -/
def WellFormed (text : Bytes) : Prop := ∃ symbols, Spells text symbols ∧ Complete symbols

theorem decodeGroups_digits (a b c d : Nat) (rest : List Symbol) :
    decodeGroups (.digit a :: .digit b :: .digit c :: .digit d :: rest) =
      (decodeGroups rest).map (groupBytes [.digit a, .digit b, .digit c, .digit d] ++ ·) := by
  rcases rest with _ | ⟨e, rest⟩ <;> rfl

theorem Complete.exists_decodeGroups (h : Complete symbols) :
    ∃ bytes, decodeGroups symbols = .ok bytes := by
  induction h with
  | group a b c d _ ih =>
    obtain ⟨bytes, hbytes⟩ := ih
    exact ⟨_, by rw [decodeGroups_digits, hbytes]; rfl⟩
  | nil | three | threePadded | two | twoPadded => exact ⟨_, rfl⟩

theorem complete_of_lastGroup {bytes : Bytes} (h : lastGroup symbols = .ok bytes) :
    Complete symbols := by
  unfold lastGroup at h
  split at h
  · exact .nil
  · exact .group _ _ _ _ .nil
  · exact .threePadded _ _ _
  · exact .three _ _ _
  · exact .twoPadded _ _
  · exact .two _ _
  · cases h

theorem complete_of_decodeGroups {bytes : Bytes} (h : decodeGroups symbols = .ok bytes) :
    Complete symbols := by
  induction symbols using decodeGroups.induct generalizing bytes with
  | case1 a b c d e rest hpad =>
    rw [decodeGroups, if_pos hpad] at h
    cases h
  | case2 a b c d e rest hpad ih =>
    rw [decodeGroups, if_neg hpad] at h
    rcases hrest : decodeGroups (e :: rest) with fault | more
    · rw [hrest] at h
      cases h
    rcases a with a | _ <;> rcases b with b | _ <;> rcases c with c | _ <;> rcases d with d | _
    all_goals first | exact .group a b c d (ih hrest) | exact absurd rfl hpad
  | case3 last hlast =>
    rw [decodeGroups.eq_2 last hlast] at h
    exact complete_of_lastGroup h

/-- **Exactly the well-formed texts can be decoded.** -/
theorem exists_decode_iff : (∃ bytes, decode text = .ok bytes) ↔ WellFormed text := by
  constructor
  · rintro ⟨bytes, h⟩
    obtain ⟨symbols, hsymbols⟩ := exists_spells_of_decode h
    exact ⟨symbols, hsymbols, complete_of_decodeGroups (hsymbols.decode_eq ▸ h)⟩
  · rintro ⟨symbols, hsymbols, hcomplete⟩
    rw [hsymbols.decode_eq]
    exact hcomplete.exists_decodeGroups

/-! ### What was encoded -/

theorem toUInt8_of_eq {n : Nat} (h : n = byte.toNat) : n.toUInt8 = byte := by
  rw [h]
  exact UInt8.ofNat_toNat

theorem decodeGroups_of_three (a b c : UInt8) {n : Nat}
    (hn : n = (a.toNat * 256 + b.toNat) * 256 + c.toNat) (rest : List Symbol) :
    decodeGroups (.digit (n / 262144) :: .digit (n / 4096 % 64) :: .digit (n / 64 % 64) ::
      .digit (n % 64) :: rest) = (decodeGroups rest).map ([a, b, c] ++ ·) := by
  have hb := b.toNat_lt
  have hc := c.toNat_lt
  have hjoin : ((n / 262144 * 64 + n / 4096 % 64) * 64 + n / 64 % 64) * 64 + n % 64 = n := by
    omega
  have hfirst : (n / 65536).toUInt8 = a := toUInt8_of_eq (by omega)
  have hsecond : (n / 256 % 256).toUInt8 = b := toUInt8_of_eq (by omega)
  have hthird : (n % 256).toUInt8 = c := toUInt8_of_eq (by omega)
  rw [decodeGroups_digits, groupBytes, hjoin, hfirst, hsecond, hthird]

theorem decodeGroups_of_two (a b : UInt8) {n : Nat} (hn : n = (a.toNat * 256 + b.toNat) * 4) :
    decodeGroups [.digit (n / 4096), .digit (n / 64 % 64), .digit (n % 64), .pad] = .ok [a, b] := by
  have hb := b.toNat_lt
  have hjoin : (n / 4096 * 64 + n / 64 % 64) * 64 + n % 64 = n := by omega
  have hfirst : (n / 1024).toUInt8 = a := toUInt8_of_eq (by omega)
  have hsecond : (n / 4 % 256).toUInt8 = b := toUInt8_of_eq (by omega)
  show lastGroup _ = _
  rw [lastGroup, hjoin, hfirst, hsecond]

theorem decodeGroups_of_one (a : UInt8) {n : Nat} (hn : n = a.toNat * 16) :
    decodeGroups [.digit (n / 64), .digit (n % 64), .pad, .pad] = .ok [a] := by
  have hjoin : (n / 64 * 64 + n % 64) / 16 = a.toNat := by omega
  show lastGroup _ = _
  rw [lastGroup, toUInt8_of_eq hjoin]

/-- **The symbols of an encoding** carry what was encoded. -/
theorem exists_symbols_encode (bytes : Bytes) :
    ∃ symbols, (encode bytes).map symbol? = symbols.map some ∧
      decodeGroups symbols = .ok bytes := by
  have hpad : symbol? 61 = some .pad := rfl
  induction bytes using encode.induct with
  | case1 => exact ⟨[], rfl, rfl⟩
  | case2 a =>
    have ha := a.toNat_lt
    refine ⟨_, ?_, decodeGroups_of_one a rfl⟩
    rw [encode, List.map_cons, List.map_cons, symbol?_digitByte (by omega),
      symbol?_digitByte (by omega), List.map_cons, List.map_cons, hpad]
    rfl
  | case3 a b =>
    have ha := a.toNat_lt
    have hb := b.toNat_lt
    refine ⟨_, ?_, decodeGroups_of_two a b rfl⟩
    rw [encode, List.map_cons, List.map_cons, List.map_cons, symbol?_digitByte (by omega),
      symbol?_digitByte (by omega), symbol?_digitByte (by omega), List.map_cons, hpad]
    rfl
  | case4 a b c rest ih =>
    have ha := a.toNat_lt
    have hb := b.toNat_lt
    have hc := c.toNat_lt
    obtain ⟨symbols, hsymbols, hrest⟩ := ih
    refine ⟨_, ?_, (decodeGroups_of_three a b c rfl symbols).trans (by rw [hrest]; rfl)⟩
    rw [encode, List.map_cons, List.map_cons, List.map_cons, List.map_cons,
      symbol?_digitByte (by omega), symbol?_digitByte (by omega), symbol?_digitByte (by omega),
      symbol?_digitByte (by omega), hsymbols]
    rfl

theorem exists_symbol_of_mem_encode {bytes : Bytes} (h : byte ∈ encode bytes) :
    ∃ symbol, symbol? byte = some symbol := by
  obtain ⟨symbols, hsymbols, -⟩ := exists_symbols_encode bytes
  have hmem : symbol? byte ∈ symbols.map some := hsymbols ▸ List.mem_map_of_mem h
  obtain ⟨symbol, -, hsymbol⟩ := List.mem_map.mp hmem
  exact ⟨symbol, hsymbol.symm⟩

theorem filter_blank_encode (bytes : Bytes) :
    (encode bytes).filter (!blank ·) = encode bytes := by
  refine List.filter_eq_self.mpr fun byte hbyte => ?_
  obtain ⟨symbol, hsymbol⟩ := exists_symbol_of_mem_encode hbyte
  rw [Bool.not_eq_true', ← Bool.not_eq_true]
  intro hblank
  rw [symbol?_of_blank hblank] at hsymbol
  cases hsymbol

/-- **Decoding undoes encoding,** whatever blanks there are in the text. -/
theorem decode_of_filter {bytes : Bytes} (h : text.filter (!blank ·) = encode bytes) :
    decode text = .ok bytes := by
  obtain ⟨symbols, hsymbols, hbytes⟩ := exists_symbols_encode bytes
  have hspells : Spells text symbols := by rw [Spells, h, hsymbols]
  rw [hspells.decode_eq, hbytes]

end Dialer.Base64
