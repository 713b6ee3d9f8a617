import FileRouting.Text.Source

/-!
# Reading text in pieces

A source gives the characters that its bytes write as a whole, with every line break as a newline,
wherever the pieces are cut: a character that is cut off is read with the next piece, and so is a
carriage return at the end of one. The main statement is `Source.read_of_holds`.
-/

namespace FileRouting.Text

/-! ## Decoding -/

/-- The characters that bytes write behind the bytes of a character that has been started. -/
inductive Decodes : Option Utf8Start → List UInt8 → List Char → Prop
  | done : Decodes none [] []
  | ascii {byte bytes text} : byte < 0x80 → Decodes none bytes text →
      Decodes none (byte :: bytes) (Char.ofNat byte.toNat :: text)
  | first {byte count low high bytes text} : ¬ byte < 0x80 →
      followers? byte = some (count, low, high) →
      Decodes (some ⟨byte, [byte], leadBits byte, count, low, high⟩) bytes text →
      Decodes none (byte :: bytes) text
  | last {s byte bytes text} : s.low ≤ byte ∧ byte ≤ s.high → s.missing = 1 →
      Decodes none bytes text →
      Decodes (some s) (byte :: bytes) (Char.ofNat (s.bits * 64 + byte.toNat % 64) :: text)
  | next {s byte bytes text} : s.low ≤ byte ∧ byte ≤ s.high → s.missing ≠ 1 →
      Decodes (some ⟨s.first, s.bytes ++ [byte], s.bits * 64 + byte.toNat % 64, s.missing - 1,
        0x80, 0xBF⟩) bytes text →
      Decodes (some s) (byte :: bytes) text

theorem decodes_of_decodeFrom {start : Option Utf8Start} {bytes : List UInt8}
    {text out : List Char} {position : Nat} {cut : List UInt8}
    (read : decodeFrom true text position start bytes = .ok (out, cut)) :
    ∃ rest, Decodes start bytes rest ∧ out = text.reverse ++ rest := by
  induction bytes generalizing start text position with
  | nil =>
    cases start with
    | none =>
      simp only [decodeFrom, Except.ok.injEq, Prod.mk.injEq] at read
      exact ⟨[], .done, by simp [read.1]⟩
    | some s => simp [decodeFrom] at read
  | cons byte bytes ih =>
    cases start with
    | none =>
      rw [decodeFrom] at read
      split at read
      · next ascii =>
        obtain ⟨rest, decodes, rfl⟩ := ih read
        exact ⟨_, .ascii ascii decodes, by simp⟩
      · next wide =>
        split at read
        · cases read
        · next count low high found =>
          obtain ⟨rest, decodes, rfl⟩ := ih read
          exact ⟨rest, .first wide found decodes, rfl⟩
    | some s =>
      simp only [decodeFrom, Bool.not_true, Bool.false_and, Bool.false_eq_true, if_false] at read
      split at read
      · next fits =>
        split at read
        · next one =>
          obtain ⟨rest, decodes, rfl⟩ := ih read
          exact ⟨_, .last fits one decodes, by simp⟩
        · next more =>
          obtain ⟨rest, decodes, rfl⟩ := ih read
          exact ⟨rest, .next fits more decodes, rfl⟩
      · cases read

theorem Decodes.decodeFrom_eq {start : Option Utf8Start} {bytes : List UInt8} {rest : List Char}
    (decodes : Decodes start bytes rest) (last : Bool) (text : List Char) (position : Nat) :
    decodeFrom last text position start bytes = .ok (text.reverse ++ rest, []) := by
  induction decodes generalizing text position with
  | done => simp [decodeFrom]
  | ascii ascii _ ih => simp [decodeFrom, ascii, ih]
  | first wide found _ ih => simp [decodeFrom, wide, found, ih]
  | last fits one _ ih => simp [decodeFrom, fits, one, ih]
  | next fits more _ ih => simp [decodeFrom, fits, more, ih]

theorem decodes_of_decodeUtf8 {bytes : List UInt8} {chars : List Char}
    (text : decodeUtf8 bytes = .ok chars) : Decodes none bytes chars := by
  rw [decodeUtf8, decodePiece] at text
  cases read : decodeFrom true [] 0 none bytes with
  | error error => simp [read, Except.map] at text
  | ok out =>
    obtain ⟨rest, decodes, whole⟩ := decodes_of_decodeFrom read
    simp only [read, Except.map, Except.ok.injEq] at text
    rw [← text, whole]
    exact decodes

/-! ## Cutting -/

/-- Whether the bytes of a started character lead to it. -/
def Utf8Start.IsReached (s : Utf8Start) : Prop :=
  ∀ bytes text, Decodes (some s) bytes text → Decodes none (s.bytes ++ bytes) text

theorem isReached_first {byte low high : UInt8} {count : Nat} (wide : ¬ byte < 0x80)
    (found : followers? byte = some (count, low, high)) :
    Utf8Start.IsReached ⟨byte, [byte], leadBits byte, count, low, high⟩ :=
  fun _ _ decodes => .first wide found decodes

theorem Utf8Start.IsReached.next {s : Utf8Start} (reached : s.IsReached) {byte : UInt8}
    (fits : s.low ≤ byte ∧ byte ≤ s.high) (more : s.missing ≠ 1) :
    Utf8Start.IsReached ⟨s.first, s.bytes ++ [byte], s.bits * 64 + byte.toNat % 64, s.missing - 1,
      0x80, 0xBF⟩ := by
  intro bytes text decodes
  have whole := reached (byte :: bytes) text (.next fits more decodes)
  simpa using whole

/-- The piece of some bytes gives the first characters, and what it cuts off goes with the others. -/
theorem decodeFrom_of_append {start : Option Utf8Start} {piece bytes : List UInt8}
    {chars : List Char} (decodes : Decodes start (piece ++ bytes) chars)
    (reached : ∀ s, start = some s → s.IsReached) (text : List Char) (position : Nat) :
    ∃ first rest cut, decodeFrom false text position start piece =
        .ok (text.reverse ++ first, cut) ∧ chars = first ++ rest ∧
      Decodes none (cut ++ bytes) rest := by
  induction piece generalizing start text position chars with
  | nil =>
    cases start with
    | none => exact ⟨[], chars, [], by simp [decodeFrom], rfl, decodes⟩
    | some s =>
      exact ⟨[], chars, s.bytes, by simp [decodeFrom], rfl, reached s rfl bytes chars decodes⟩
  | cons byte piece ih =>
    rw [List.cons_append] at decodes
    cases decodes with
    | ascii ascii others =>
      obtain ⟨first, rest, cut, read, rfl, left⟩ := ih others (by simp)
        (Char.ofNat byte.toNat :: text) (position + 1)
      exact ⟨_ :: first, rest, cut, by simp [decodeFrom, ascii, read], rfl, left⟩
    | first wide found others =>
      obtain ⟨first, rest, cut, read, rfl, left⟩ := ih others
        (fun s same => Option.some.inj same ▸ isReached_first wide found) text (position + 1)
      exact ⟨first, rest, cut, by simp [decodeFrom, wide, found, read], rfl, left⟩
    | @last s _ _ _ fits one others =>
      obtain ⟨first, rest, cut, read, rfl, left⟩ := ih others (by simp)
        (Char.ofNat (s.bits * 64 + byte.toNat % 64) :: text) (position + 1)
      exact ⟨_ :: first, rest, cut, by simp [decodeFrom, fits, one, read], rfl, left⟩
    | @next s _ _ _ fits more others =>
      obtain ⟨first, rest, cut, read, rfl, left⟩ := ih others
        (fun s' same => Option.some.inj same ▸ (reached s rfl).next fits more) text (position + 1)
      exact ⟨first, rest, cut, by simp [decodeFrom, fits, more, read], rfl, left⟩

theorem decodePiece_of_append {piece bytes : List UInt8} {chars : List Char}
    (decodes : Decodes none (piece ++ bytes) chars) :
    ∃ first rest cut, decodePiece false piece = .ok (first, cut) ∧ chars = first ++ rest ∧
      Decodes none (cut ++ bytes) rest := by
  simpa [decodePiece] using decodeFrom_of_append decodes (by simp) [] 0

/-! ## Line breaks -/

theorem unifyBreaks_cons {c : Char} (other : c ≠ '\r') (text : List Char) :
    unifyBreaks (c :: text) = c :: unifyBreaks text :=
  unifyBreaks.eq_4 _ _ (fun _ same => absurd same other) other

/-- Whether a text is cut from a rest without a break being cut through. -/
def IsApart (text rest : List Char) : Prop :=
  text.getLast? = some '\r' → rest.head? ≠ some '\n'

theorem IsApart.tail {c : Char} {text rest : List Char} (apart : IsApart (c :: text) rest) :
    IsApart text rest := by
  cases text with
  | nil =>
    intro ends
    cases ends
  | cons d text =>
    intro ends
    exact apart (by rwa [List.getLast?_cons_cons])

theorem unifyBreaks_append {text rest : List Char} (apart : IsApart text rest) :
    unifyBreaks (text ++ rest) = unifyBreaks text ++ unifyBreaks rest := by
  induction text using unifyBreaks.induct with
  | case1 => rfl
  | case2 text ih => simp only [List.cons_append, unifyBreaks, ih apart.tail.tail]
  | case3 text notNewline ih =>
    have other : ∀ chars, text ++ rest = '\n' :: chars → False := by
      intro chars same
      cases text with
      | nil =>
        rw [List.nil_append] at same
        exact apart rfl (by rw [same]; rfl)
      | cons c text =>
        rw [List.cons_append, List.cons.injEq] at same
        exact notNewline text (by rw [same.1])
    rw [List.cons_append, unifyBreaks.eq_3 _ other, unifyBreaks.eq_3 _ notNewline, ih apart.tail,
      List.cons_append]
  | case4 c text _ other ih =>
    rw [List.cons_append, unifyBreaks_cons other, unifyBreaks_cons other, ih apart.tail,
      List.cons_append]

/-! ## Sources -/

namespace Source

/-- The carriage return that is held back, if one is. -/
def held (source : Source) : List Char :=
  if source.heldReturn then ['\r'] else []

/-- Whether a text is what is left to read. -/
def Holds (source : Source) (text : List Char) : Prop :=
  ∃ chars, Decodes none (source.cutOff ++ source.bytes) chars ∧
    text = source.waiting ++ unifyBreaks (source.held ++ chars)

theorem holds_ofBytes {bytes : List UInt8} {chars : List Char} (text : decodeUtf8 bytes = .ok chars) :
    (ofBytes bytes).Holds (unifyBreaks chars) :=
  ⟨chars, decodes_of_decodeUtf8 text, rfl⟩

theorem Holds.waiting {source : Source} {text : List Char} (holds : source.Holds text) {count : Nat}
    (waits : count ≤ source.waiting.length) :
    text.take count = source.waiting.take count ∧
      Holds { source with waiting := source.waiting.drop count } (text.drop count) := by
  obtain ⟨chars, decodes, rfl⟩ := holds
  refine ⟨List.take_append_of_le_length waits, chars, decodes, ?_⟩
  rw [List.drop_append_of_le_length waits]
  rfl

theorem pieceSize_pos (source : Source) (wanted : Nat) : 0 < source.pieceSize wanted :=
  Nat.lt_of_lt_of_le (by decide) (Nat.le_max_left _ _)

theorem decodeNext_of_end {source : Source} {text : List Char} (holds : source.Holds text)
    (ended : source.bytes = []) (wanted : Nat) :
    ∃ count, source.decodeNext wanted = .ok ⟨[], [], false, text, 0, count⟩ := by
  obtain ⟨chars, decodes, rfl⟩ := holds
  have read : decodePiece true source.cutOff = .ok (chars, []) := by
    rw [ended, List.append_nil] at decodes
    simpa [decodePiece] using decodes.decodeFrom_eq true [] 0
  refine ⟨(unifyBreaks (source.held ++ chars)).length, ?_⟩
  cases returns : source.heldReturn <;>
    simp [decodeNext, ended, read, held, returns, bind, Except.bind]

/-- What is held back before a piece and the piece give the characters up to what is held back
behind it. -/
theorem unifyBreaks_piece (returns : Bool) (first rest : List Char) :
    let whole := if returns ∧ first ≠ [] then '\r' :: first else first
    let holds := whole.getLast? = some '\r' || (returns && whole.isEmpty)
    unifyBreaks ((if returns then ['\r'] else []) ++ (first ++ rest)) =
      unifyBreaks (if whole.getLast? = some '\r' ∧ holds then whole.dropLast else whole) ++
        unifyBreaks ((if holds then ['\r'] else []) ++ rest) := by
  intro whole holds
  by_cases nothing : returns ∧ first = []
  · obtain ⟨rfl, rfl⟩ := nothing
    rfl
  have held : (if returns then ['\r'] else []) ++ first = whole := by
    cases returns <;> cases first <;> simp_all [whole]
  have full : (returns && whole.isEmpty) = false := by
    cases returns <;> cases first <;> simp_all [whole]
  have holdsIff : holds = decide (whole.getLast? = some '\r') := by
    simp [holds, full]
  rw [← List.append_assoc, held, holdsIff]
  by_cases ends : whole.getLast? = some '\r'
  · obtain ⟨before, same⟩ := List.getLast?_eq_some_iff.1 ends
    have last : (before ++ ['\r']).getLast? = some '\r' := List.getLast?_concat
    simp only [same, last, decide_true, and_self, if_true, List.dropLast_concat, List.append_assoc]
    exact @unifyBreaks_append before (['\r'] ++ rest) fun _ => by simp
  · simp only [ends, decide_false, Bool.false_eq_true, and_self, if_false, List.nil_append]
    exact unifyBreaks_append fun same => absurd same ends

theorem decodeNext_of_more {source : Source} {text : List Char} (holds : source.Holds text)
    (more : source.bytes ≠ []) (wanted : Nat) :
    ∃ next, source.decodeNext wanted = .ok next ∧ next.Holds text ∧
      next.bytes.length < source.bytes.length := by
  obtain ⟨chars, decodes, rfl⟩ := holds
  have size := source.pieceSize_pos wanted
  have some : (source.bytes.take (source.pieceSize wanted)).isEmpty = false := by
    simp [more, Nat.ne_of_gt size]
  rw [← List.take_append_drop (source.pieceSize wanted) source.bytes, ← List.append_assoc]
    at decodes
  obtain ⟨first, rest, cut, read, rfl, left⟩ := decodePiece_of_append decodes
  simp only [decodeNext, some, read, bind, Except.bind, Bool.false_eq_true, false_or, Bool.not_false,
    Bool.true_and]
  refine ⟨_, rfl, ⟨rest, left, ?_⟩, ?_⟩
  · simp only [held, List.append_assoc, List.append_cancel_left_eq]
    exact unifyBreaks_piece source.heldReturn first rest
  · have bytes := List.length_pos_iff.2 more
    simp only [List.length_drop]
    omega

theorem readWith_of_holds {source : Source} {text : List Char} (holds : source.Holds text)
    (count : Nat) {fuel : Nat} (fuels : source.bytes.length < fuel) :
    ∃ next, source.readWith fuel count = .ok (text.take count, next) ∧
      next.Holds (text.drop count) := by
  induction fuel generalizing source with
  | zero => omega
  | succ fuel ih =>
    rw [readWith]
    by_cases waits : count ≤ source.waiting.length
    · obtain ⟨taken, left⟩ := holds.waiting waits
      exact ⟨_, by rw [if_pos waits, taken], left⟩
    rw [if_neg waits]
    by_cases ended : source.bytes = []
    · obtain ⟨chars, read⟩ := decodeNext_of_end holds ended (count - source.waiting.length)
      simp only [read, ended, bind, Except.bind, List.isEmpty_nil, if_true]
      exact ⟨_, rfl, [], .done, (List.append_nil _).symm⟩
    · obtain ⟨next, read, left, fewer⟩ :=
        decodeNext_of_more holds ended (count - source.waiting.length)
      simp only [read, bind, Except.bind, List.isEmpty_iff, ended, if_false]
      exact ih left (by omega)

theorem read_of_holds {source : Source} {text : List Char} (holds : source.Holds text)
    (count : Nat) :
    ∃ next, source.read count = .ok (text.take count, next) ∧ next.Holds (text.drop count) :=
  readWith_of_holds holds count (Nat.lt_succ_self _)

end Source

end FileRouting.Text
