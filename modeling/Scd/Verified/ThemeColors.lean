import Scd.Osk.Theme

/-! # Which strings are colours

A string of a theme is read in pairs of bytes.  Where all of them are two hexadecimal digits
the colour is the one that they denote.  A plus sign in the place of the first digit is read as
well, and a pair that cuts a character panics, so the strings on which the parser does what its
messages say are described here exactly.
-/

namespace Scd.Osk

open Scd.Core Scd.Foundation

/-! ## Digits -/

theorem hexDigit_some {character : Char} {value : ℕ} (digit : hexDigit character = some value) :
    value < 16 ∧ character.utf8Size = 1 := by
  have ascii : character.toNat < 128 ∧ value < 16 := by
    unfold hexDigit at digit
    simp only [Char.le_def, UInt32.le_iff_toNat_le] at digit
    change (if 48 ≤ character.toNat ∧ character.toNat ≤ 57 then some (character.toNat - 48)
      else if 97 ≤ character.toNat ∧ character.toNat ≤ 102 then some (character.toNat - 87)
      else if 65 ≤ character.toNat ∧ character.toNat ≤ 70 then some (character.toNat - 55)
      else none) = some value at digit
    split_ifs at digit <;> cases digit <;> omega
  refine ⟨ascii.2, ?_⟩
  have small : character.toNat ≤ 127 := by omega
  exact if_pos (by rw [UInt32.le_iff_toNat_le]; exact small)

/-- The character is a hexadecimal digit. -/
def IsHex (character : Char) : Prop := (hexDigit character).isSome

theorem IsHex.narrow {character : Char} (hex : IsHex character) : character.utf8Size = 1 := by
  obtain ⟨value, digit⟩ := Option.isSome_iff_exists.mp hex
  exact (hexDigit_some digit).2

theorem not_isHex_plus : ¬ IsHex '+' := by
  unfold IsHex
  decide

/-- The number of two digits. -/
def pairValue (high low : Char) : Option UInt8 := do
  return .ofNat (16 * (← hexDigit high) + (← hexDigit low))

/-- The numbers of the pairs of digits. -/
def pairValues : List Char → Option (List UInt8)
  | [] => some []
  | [_] => none
  | high :: low :: rest => do return (← pairValue high low) :: (← pairValues rest)

/-- The colour of three bytes, or of four with the alpha channel. -/
def ofBytes (bytes : List UInt8) : ThemeColor :=
  ⟨bytes.getD 0 0, bytes.getD 1 0, bytes.getD 2 0, bytes.getD 3 255⟩

/-- Six or eight hexadecimal digits. -/
def IsColor (value : List Char) : Prop :=
  (value.length = 6 ∨ value.length = 8) ∧ ∀ character ∈ value, IsHex character

/-! ## Pairs of bytes -/

/-- `from_str_radix` reads the two characters: a digit or a plus sign, and a digit. -/
def ReadsPair (first second : Char) : Prop := (IsHex first ∨ first = '+') ∧ IsHex second

/-- Every pair is read. -/
inductive AllRead : List Char → Prop where
  | nil : AllRead []
  | pair {first second : Char} {rest : List Char} :
      ReadsPair first second → AllRead rest → AllRead (first :: second :: rest)

/-- The first pair of bytes that is not read is made of whole characters. -/
inductive StopsWhole : List Char → Prop where
  | wide {character : Char} {rest : List Char} :
      character.utf8Size = 2 → StopsWhole (character :: rest)
  | narrow {first second : Char} {rest : List Char} : first.utf8Size = 1 →
      second.utf8Size = 1 → ¬ ReadsPair first second → StopsWhole (first :: second :: rest)
  | pair {first second : Char} {rest : List Char} :
      ReadsPair first second → StopsWhole rest → StopsWhole (first :: second :: rest)

/-- The first pair of bytes that is not read cuts a character. -/
inductive StopsCut : List Char → Prop where
  | large {character : Char} {rest : List Char} :
      3 ≤ character.utf8Size → StopsCut (character :: rest)
  | second {first second : Char} {rest : List Char} : first.utf8Size = 1 →
      second.utf8Size ≠ 1 → StopsCut (first :: second :: rest)
  | pair {first second : Char} {rest : List Char} :
      ReadsPair first second → StopsCut rest → StopsCut (first :: second :: rest)

theorem ReadsPair.narrow {first second : Char} (reads : ReadsPair first second) :
    first.utf8Size = 1 ∧ second.utf8Size = 1 := by
  obtain ⟨start, last⟩ := reads
  refine ⟨?_, last.narrow⟩
  cases start with
  | inl hex => exact hex.narrow
  | inr plus =>
    rw [plus]
    rfl

/-- A text of whole pairs of bytes is read, or stops at a pair of one kind or the other. -/
theorem pairs_cases (count : ℕ) {value : List Char} (long : byteLength value = 2 * count) :
    AllRead value ∨ StopsWhole value ∨ StopsCut value := by
  induction count generalizing value with
  | zero =>
    rw [byteLength_eq_zero long]
    exact .inl .nil
  | succ count inductionHypothesis =>
    cases value with
    | nil => cases long
    | cons first rest =>
      rw [byteLength_cons] at long
      rcases utf8Size_cases first with narrow | wide | large
      · cases rest with
        | nil =>
          rw [byteLength_nil] at long
          omega
        | cons second rest =>
          rw [byteLength_cons] at long
          by_cases reads : ReadsPair first second
          · obtain ⟨_, last⟩ := reads.narrow
            have shorter : byteLength rest = 2 * count := by omega
            rcases inductionHypothesis shorter with all | whole | cut
            · exact .inl (.pair reads all)
            · exact .inr (.inl (.pair reads whole))
            · exact .inr (.inr (.pair reads cut))
          · by_cases last : second.utf8Size = 1
            · exact .inr (.inl (.narrow narrow last reads))
            · exact .inr (.inr (.second narrow last))
      · exact .inr (.inl (.wide wide))
      · exact .inr (.inr (.large large))

/-- Digits are read. -/
theorem AllRead.of_hex (count : ℕ) {value : List Char} (long : value.length = 2 * count)
    (hex : ∀ character ∈ value, IsHex character) : AllRead value := by
  induction count generalizing value with
  | zero =>
    rw [List.eq_nil_of_length_eq_zero long]
    exact .nil
  | succ count inductionHypothesis =>
    obtain ⟨first, rest, rfl⟩ := List.exists_cons_of_length_eq_add_one (n := 2 * count + 1) long
    obtain ⟨second, rest, rfl⟩ := List.exists_cons_of_length_eq_add_one
      (Nat.succ.inj long : rest.length = 2 * count + 1)
    simp only [List.mem_cons, forall_eq_or_imp] at hex
    have shorter : rest.length = 2 * count := by
      simp only [List.length_cons] at long
      omega
    exact .pair ⟨.inl hex.1, hex.2.1⟩ (inductionHypothesis shorter hex.2.2)

/-- A text that stops is not made of digits. -/
theorem StopsWhole.not_hex {value : List Char} (stops : StopsWhole value) :
    ¬ ∀ character ∈ value, IsHex character := by
  intro hex
  induction stops with
  | wide wide =>
    have narrow := (hex _ List.mem_cons_self).narrow
    omega
  | narrow _ _ refused =>
    simp only [List.mem_cons, forall_eq_or_imp] at hex
    exact refused ⟨.inl hex.1, hex.2.1⟩
  | pair _ _ inductionHypothesis =>
    simp only [List.mem_cons, forall_eq_or_imp] at hex
    exact inductionHypothesis hex.2.2

/-! ## Numbers -/

theorem hexByte_pair (high low : Char) : hexByte [high, low] = pairValue high low := by
  unfold hexByte pairValue
  cases first : hexDigit high with
  | none => simp [first]
  | some value =>
    have small := (hexDigit_some first).1
    cases second : hexDigit low with
    | none => simp [first, second, (by omega : value ≤ 255)]
    | some value' =>
      have small' := (hexDigit_some second).1
      simp [first, second, (by omega : value ≤ 255), (by omega : 16 * value + value' ≤ 255),
        Nat.mul_comm value 16]

theorem hexByte_single (character : Char) :
    hexByte [character] = (hexDigit character).map UInt8.ofNat := by
  unfold hexByte
  cases digit : hexDigit character with
  | none => simp [digit]
  | some value =>
    have small := (hexDigit_some digit).1
    simp [digit, (by omega : value ≤ 255)]

theorem fromStrRadix_digits {first : Char} (other : first ≠ '+') (rest : List Char) :
    fromStrRadix (first :: rest) = hexByte (first :: rest) := by
  unfold fromStrRadix
  split
  · next empty => cases empty
  · next plus => exact absurd (List.cons.inj plus).1 other
  · rfl

theorem fromStrRadix_hex {first second : Char} (hex : IsHex first) :
    fromStrRadix [first, second] = pairValue first second := by
  have other : first ≠ '+' := fun plus => not_isHex_plus (plus ▸ hex)
  rw [fromStrRadix_digits other, hexByte_pair]

theorem fromStrRadix_plus (second : Char) :
    fromStrRadix ['+', second] = (hexDigit second).map UInt8.ofNat := hexByte_single second

theorem ReadsPair.number {first second : Char} (reads : ReadsPair first second) :
    ∃ byte, fromStrRadix [first, second] = some byte := by
  obtain ⟨start, last⟩ := reads
  obtain ⟨value, digit⟩ := Option.isSome_iff_exists.mp last
  cases start with
  | inl hex =>
    obtain ⟨value', digit'⟩ := Option.isSome_iff_exists.mp hex
    rw [fromStrRadix_hex hex]
    simp [pairValue, digit, digit']
  | inr plus =>
    rw [plus, fromStrRadix_plus, digit]
    exact ⟨_, rfl⟩

theorem fromStrRadix_refused {first second : Char} (refused : ¬ ReadsPair first second) :
    fromStrRadix [first, second] = none := by
  by_cases last : IsHex second
  · have start : ¬ (IsHex first ∨ first = '+') := fun start => refused ⟨start, last⟩
    push Not at start
    rw [fromStrRadix_digits start.2, hexByte_pair, pairValue, Option.not_isSome_iff_eq_none.mp start.1]
    rfl
  · have missing : hexDigit second = none := Option.not_isSome_iff_eq_none.mp last
    by_cases plus : first = '+'
    · rw [plus, fromStrRadix_plus, missing]
      rfl
    · rw [fromStrRadix_digits plus, hexByte_pair, pairValue, missing]
      cases hexDigit first <;> rfl

theorem fromStrRadix_wide {character : Char} (wide : character.utf8Size = 2) :
    fromStrRadix [character] = none := by
  have other : character ≠ '+' := by
    rintro rfl
    cases wide
  have digit : ¬ IsHex character := by
    intro hex
    have narrow := hex.narrow
    omega
  rw [fromStrRadix_digits other, hexByte_single, Option.not_isSome_iff_eq_none.mp digit]
  rfl

/-! ## Reading the pairs -/

namespace ThemeColor

section

variable {F : Type} (entry : KdlEntry F)

/-- A number of bytes, from an offset on. -/
def byteList (entry : KdlEntry F) (value : List Char) : ℕ → ℕ → ExceptT Issue Checked (List UInt8)
  | _, 0 => return []
  | index, count + 1 => do
    let first ← byte entry value index
    let rest ← byteList entry value (index + 2) count
    return first :: rest

/-- The issue of a pair that is not a number. -/
def digitsIssue (entry : KdlEntry F) : Issue :=
  ⟨"color must contain only hexadecimal digits", entry.span⟩

theorem byte_some {early late pair : List Char} {number : UInt8}
    (ascii : ∀ character ∈ early, character.utf8Size = 1) (taken : takeBytes 2 late = some pair)
    (reads : fromStrRadix pair = some number) :
    byte entry (early ++ late) early.length = pure number := by
  rw [byte, slice_ascii ascii, taken]
  dsimp only
  rw [reads]

theorem byte_refused {early late pair : List Char}
    (ascii : ∀ character ∈ early, character.utf8Size = 1) (taken : takeBytes 2 late = some pair)
    (refused : fromStrRadix pair = none) :
    byte entry (early ++ late) early.length = throw (digitsIssue entry) := by
  rw [byte, slice_ascii ascii, taken]
  dsimp only
  rw [refused]
  rfl

theorem byte_cut {early late : List Char} (ascii : ∀ character ∈ early, character.utf8Size = 1)
    (cut : takeBytes 2 late = none) :
    (byte entry (early ++ late) early.length).run = .error .notCharBoundary := by
  rw [byte, slice_ascii ascii, cut]
  rfl

/-- A pair that is read adds two characters to those that were read before it. -/
theorem ReadsPair.early {first second : Char} (reads : ReadsPair first second) {early : List Char}
    (ascii : ∀ character ∈ early, character.utf8Size = 1) :
    ∀ character ∈ early ++ [first, second], character.utf8Size = 1 := by
  obtain ⟨start, last⟩ := reads.narrow
  intro character member
  simp only [List.mem_append, List.mem_cons, List.not_mem_nil, or_false] at member
  rcases member with before | rfl | rfl
  · exact ascii _ before
  · exact start
  · exact last

/-- A pair that is read is followed by the other pairs. -/
theorem byteList_pair {first second : Char} (reads : ReadsPair first second) (rest : List Char)
    {early : List Char} (ascii : ∀ character ∈ early, character.utf8Size = 1) :
    ∃ number, fromStrRadix [first, second] = some number ∧ ∀ count,
      byteList entry (early ++ first :: second :: rest) early.length (count + 1) =
        byteList entry (early ++ [first, second] ++ rest) (early ++ [first, second]).length count >>=
          fun others => pure (number :: others) := by
  obtain ⟨number, reading⟩ := reads.number
  obtain ⟨start, last⟩ := reads.narrow
  refine ⟨number, reading, ?_⟩
  intro count
  rw [byteList, byte_some entry ascii (takeBytes_two_narrow start last rest) reading, pure_bind]
  simp

/-- Where there is a character, there is a pair of bytes to read. -/
theorem count_pos {character : Char} {rest : List Char} {count : ℕ}
    (long : byteLength (character :: rest) = 2 * count) : ∃ less, count = less + 1 := by
  have wide := Char.utf8Size_pos character
  rw [byteLength_cons] at long
  exact ⟨count - 1, by omega⟩

/-- What is left after a pair. -/
theorem ReadsPair.rest {first second : Char} (reads : ReadsPair first second) {rest : List Char}
    {count : ℕ} (long : byteLength (first :: second :: rest) = 2 * count) :
    ∃ less, count = less + 1 ∧ byteLength rest = 2 * less := by
  obtain ⟨start, last⟩ := reads.narrow
  rw [byteLength_cons, byteLength_cons, start, last] at long
  exact ⟨count - 1, by omega, by omega⟩

theorem byteList_allRead {late : List Char} (all : AllRead late) {early : List Char}
    (ascii : ∀ character ∈ early, character.utf8Size = 1) {count : ℕ}
    (long : byteLength late = 2 * count) :
    ∃ bytes, byteList entry (early ++ late) early.length count = pure bytes ∧
      ((∀ character ∈ late, IsHex character) → pairValues late = some bytes) := by
  induction all generalizing early count with
  | nil =>
    obtain rfl : count = 0 := by simpa using long.symm
    exact ⟨[], rfl, fun _ => rfl⟩
  | @pair first second rest reads _ inductionHypothesis =>
    obtain ⟨count, rfl, shorter⟩ := ReadsPair.rest reads long
    obtain ⟨number, reading, step⟩ := byteList_pair entry reads rest ascii
    obtain ⟨bytes, others, values⟩ :=
      inductionHypothesis (ReadsPair.early reads ascii) shorter
    refine ⟨number :: bytes, ?_, ?_⟩
    · rw [step, others, pure_bind]
    · intro hex
      simp only [List.mem_cons, forall_eq_or_imp] at hex
      rw [pairValues, ← fromStrRadix_hex hex.1, reading, values hex.2.2]
      rfl

theorem byteList_stopsWhole {late : List Char} (stops : StopsWhole late) {early : List Char}
    (ascii : ∀ character ∈ early, character.utf8Size = 1) {count : ℕ}
    (long : byteLength late = 2 * count) :
    byteList entry (early ++ late) early.length count = throw (digitsIssue entry) := by
  induction stops generalizing early count with
  | @wide character rest wide =>
    obtain ⟨count, rfl⟩ := count_pos long
    rw [byteList, byte_refused entry ascii (takeBytes_two_wide wide rest) (fromStrRadix_wide wide)]
    rfl
  | @narrow first second rest start last refused =>
    obtain ⟨count, rfl⟩ := count_pos long
    rw [byteList, byte_refused entry ascii (takeBytes_two_narrow start last rest)
      (fromStrRadix_refused refused)]
    rfl
  | @pair first second rest reads _ inductionHypothesis =>
    obtain ⟨count, rfl, shorter⟩ := ReadsPair.rest reads long
    obtain ⟨number, _, step⟩ := byteList_pair entry reads rest ascii
    rw [step, inductionHypothesis (ReadsPair.early reads ascii) shorter]
    rfl

theorem byteList_stopsCut {late : List Char} (stops : StopsCut late) {early : List Char}
    (ascii : ∀ character ∈ early, character.utf8Size = 1) {count : ℕ}
    (long : byteLength late = 2 * count) :
    (byteList entry (early ++ late) early.length count).run = .error .notCharBoundary := by
  have panics {late : List Char} (cut : takeBytes 2 late = none) {early : List Char}
      (ascii : ∀ character ∈ early, character.utf8Size = 1) (count : ℕ) :
      (byteList entry (early ++ late) early.length (count + 1)).run = .error .notCharBoundary := by
    rw [byteList, ExceptT.run_bind, byte_cut entry ascii cut]
    rfl
  induction stops generalizing early count with
  | @large character rest large =>
    obtain ⟨count, rfl⟩ := count_pos long
    exact panics (takeBytes_two_large large rest) ascii count
  | @second first second rest start cut =>
    obtain ⟨count, rfl⟩ := count_pos long
    exact panics (takeBytes_two_cut start cut rest) ascii count
  | @pair first second rest reads _ inductionHypothesis =>
    obtain ⟨count, rfl, shorter⟩ := ReadsPair.rest reads long
    obtain ⟨number, _, step⟩ := byteList_pair entry reads rest ascii
    rw [step, ExceptT.run_bind, inductionHypothesis (ReadsPair.early reads ascii) shorter]
    rfl

/-- The parser reads three or four bytes. -/
theorem fromKdl_eq {text : String} (string : entry.value = .string text) (field : String) {count : ℕ}
    (long : byteLength (stripHash text.toList) = 2 * count) (counts : count = 3 ∨ count = 4) :
    fromKdl entry field =
      byteList entry (stripHash text.toList) 0 count >>= fun bytes => pure (ofBytes bytes) := by
  rw [fromKdl, string]
  dsimp only
  rw [if_neg (by omega)]
  cases counts with
  | inl three =>
    subst three
    simp [byteList, ofBytes, long]
  | inr four =>
    subst four
    simp [byteList, ofBytes, long]

theorem fromKdl_length {text : String} (string : entry.value = .string text) (field : String)
    (wrong : ¬ (byteLength (stripHash text.toList) = 6 ∨ byteLength (stripHash text.toList) = 8)) :
    fromKdl entry field =
      throw ⟨"color must contain six or eight hexadecimal digits", entry.span⟩ := by
  rw [fromKdl, string]
  dsimp only
  rw [if_pos wrong]
  rfl

end

end ThemeColor

/-! ## Colours -/

section

open ThemeColor

variable {F : Type} {entry : KdlEntry F} {field text : String}

/-- The parser returns, with the colour of the digits if and only if there are six or eight. -/
def ReadsColor (entry : KdlEntry F) (field : String) (value : List Char) : Prop :=
  ∃ result : Except Issue ThemeColor, (fromKdl entry field).run = .ok result ∧
    ((∃ color, result = .ok color) ↔ IsColor value) ∧
    ∀ color, result = .ok color → (pairValues value).map ofBytes = some color

/-- Digits take one byte each. -/
theorem IsColor.long {value : List Char} (colour : IsColor value) :
    byteLength value = value.length :=
  byteLength_ascii fun character member => (colour.2 character member).narrow

/-- An issue is right where there is no colour. -/
theorem readsColor_issue {value : List Char} {issue : Issue} (none : ¬ IsColor value)
    (reads : (fromKdl entry field).run = .ok (.error issue)) : ReadsColor entry field value := by
  refine ⟨.error issue, reads, ⟨?_, fun colour => absurd colour none⟩, ?_⟩
  · rintro ⟨_, wrong⟩
    cases wrong
  · intro color wrong
    cases wrong

section

variable {value : List Char} {count : ℕ}

/-- The bytes of a string that is read to its end. -/
theorem fromKdl_allRead (unfolded : fromKdl entry field =
      byteList entry value 0 count >>= fun bytes => pure (ofBytes bytes))
    (all : AllRead value) (long : byteLength value = 2 * count) :
    ∃ bytes, (fromKdl entry field).run = .ok (.ok (ofBytes bytes)) ∧
      ((∀ character ∈ value, IsHex character) → pairValues value = some bytes) := by
  obtain ⟨bytes, listed, values⟩ := byteList_allRead entry all
    (fun character none => absurd none List.not_mem_nil : ∀ character ∈ [], _) long
  rw [List.nil_append, List.length_nil] at listed
  refine ⟨bytes, ?_, values⟩
  rw [unfolded, listed]
  rfl

theorem readsColor_digits (unfolded : fromKdl entry field =
      byteList entry value 0 count >>= fun bytes => pure (ofBytes bytes))
    (long : byteLength value = 2 * count) (counts : count = 3 ∨ count = 4)
    (hex : ∀ character ∈ value, IsHex character) : ReadsColor entry field value := by
  have size : value.length = 2 * count :=
    (byteLength_ascii fun character member => (hex character member).narrow).symm.trans long
  obtain ⟨bytes, returns, values⟩ := fromKdl_allRead unfolded (.of_hex count size hex) long
  refine ⟨_, returns, ⟨fun _ => ⟨by omega, hex⟩, fun _ => ⟨_, rfl⟩⟩, ?_⟩
  intro color same
  cases same
  rw [values hex, Option.map_some]

theorem readsColor_stopsWhole (unfolded : fromKdl entry field =
      byteList entry value 0 count >>= fun bytes => pure (ofBytes bytes))
    (long : byteLength value = 2 * count) (stops : StopsWhole value) :
    ReadsColor entry field value := by
  have refused := byteList_stopsWhole entry stops
    (fun character none => absurd none List.not_mem_nil : ∀ character ∈ [], _) long
  rw [List.nil_append, List.length_nil] at refused
  have reads : (fromKdl entry field).run = .ok (.error (digitsIssue entry)) := by
    rw [unfolded, refused]
    rfl
  exact readsColor_issue (fun colour => stops.not_hex colour.2) reads

/-- A pair that cuts a character panics. -/
theorem not_readsColor_stopsCut (unfolded : fromKdl entry field =
      byteList entry value 0 count >>= fun bytes => pure (ofBytes bytes))
    (long : byteLength value = 2 * count) (stops : StopsCut value) :
    ¬ ReadsColor entry field value := by
  have panics := byteList_stopsCut entry stops
    (fun character none => absurd none List.not_mem_nil : ∀ character ∈ [], _) long
  rw [List.nil_append, List.length_nil] at panics
  rintro ⟨result, returns, _⟩
  rw [unfolded, ExceptT.run_bind, panics] at returns
  cases returns

end

/-- The parser tells the colour of a string, or that it has none, if and only if the string has
    not six or eight bytes, is made of digits, or has a first pair of bytes that is not read and
    that is made of whole characters. -/
theorem readsColor_iff (string : entry.value = .string text) :
    ReadsColor entry field (stripHash text.toList) ↔
      ¬ (byteLength (stripHash text.toList) = 6 ∨ byteLength (stripHash text.toList) = 8) ∨
        (∀ character ∈ stripHash text.toList, IsHex character) ∨
        StopsWhole (stripHash text.toList) := by
  by_cases fits : byteLength (stripHash text.toList) = 6 ∨ byteLength (stripHash text.toList) = 8
  · obtain ⟨count, long, counts⟩ :
        ∃ count, byteLength (stripHash text.toList) = 2 * count ∧ (count = 3 ∨ count = 4) := by
      cases fits with
      | inl six => exact ⟨3, six, .inl rfl⟩
      | inr eight => exact ⟨4, eight, .inr rfl⟩
    have unfolded := fromKdl_eq entry string field long counts
    constructor
    · intro reads
      rcases pairs_cases count long with all | whole | cut
      · obtain ⟨_, returns, _⟩ := fromKdl_allRead unfolded all long
        obtain ⟨_, returns', colour, _⟩ := reads
        rw [returns] at returns'
        cases returns'
        exact .inr (.inl (colour.mp ⟨_, rfl⟩).2)
      · exact .inr (.inr whole)
      · exact absurd reads (not_readsColor_stopsCut unfolded long cut)
    · rintro (misfit | hex | whole)
      · exact absurd fits misfit
      · exact readsColor_digits unfolded long counts hex
      · exact readsColor_stopsWhole unfolded long whole
  · have none : ¬ IsColor (stripHash text.toList) := by
      intro colour
      rw [colour.long] at fits
      exact fits colour.1
    have reads : (fromKdl entry field).run =
        .ok (.error ⟨"color must contain six or eight hexadecimal digits", entry.span⟩) := by
      rw [fromKdl_length entry string field fits]
      rfl
    exact ⟨fun _ => .inl fits, fun _ => readsColor_issue none reads⟩

/-- A string of six digits behind the hash is read. -/
theorem example_readsColor :
    ReadsColor (F := ℚ) ⟨none, .string "#0f0e0d", ⟨0, 7⟩⟩ "active"
      (stripHash "#0f0e0d".toList) := by
  have digits : ((stripHash "#0f0e0d".toList).all fun character => (hexDigit character).isSome) =
      true := by decide
  have hex : ∀ character ∈ stripHash "#0f0e0d".toList, IsHex character := List.all_eq_true.mp digits
  exact (readsColor_iff rfl).mpr (.inr (.inl hex))

/-- Two characters of three bytes panic, and plus signs make a colour. -/
theorem not_readsColor_bytes :
    ¬ ReadsColor (F := ℚ) ⟨none, .string "€€", ⟨0, 6⟩⟩ "active" (stripHash "€€".toList) ∧
      ¬ ReadsColor (F := ℚ) ⟨none, .string "+1+2+3", ⟨0, 6⟩⟩ "active"
        (stripHash "+1+2+3".toList) := by
  constructor
  · rintro ⟨_, returns, _⟩
    cases returns
  · rintro ⟨_, returns, colour, _⟩
    cases returns
    exact not_isHex_plus ((colour.mp ⟨_, rfl⟩).2 '+' List.mem_cons_self)

end

end Scd.Osk
