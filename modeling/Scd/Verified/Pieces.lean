import Scd.Daemon.Ipc

/-! # Requests in pieces

`ready` runs once for each piece of a request that arrives.  A piece that ends within a
character is not valid UTF-8 on its own and is not kept, so that a request is refused, or
another one is read, because of where its bytes were cut (`split_character_refused`).

`Split.kept` is what remains of a text when such pieces are left out, and the pieces are
answered as this text would be if it arrived at once (`feed_arrivals`).
-/

namespace Scd.Daemon.Ipc

open Scd.Core Scd.Foundation

/-- The pieces of a request one after the other, each with nothing behind it. -/
def feed (fromStr : List UInt8 → Option Request) (request : List UInt8) :
    List (List UInt8) → Checked Line
  | [] => .ok .more
  | piece :: pieces => do
    let (request, line) ← read fromStr request ⟨piece, .wouldBlock⟩
    match line with
    | .more => feed fromStr request pieces
    | line => return line

/-- The answer to a text that ends in its first newline. -/
def verdict (fromStr : List UInt8 → Option Request) (text : List UInt8) : Line :=
  if Utf8 (text.take (maxRequestSize + 1)) then
    if maxRequestSize < text.length then .rejected "request is too large"
    else
      match fromStr text with
      | some parsed => .request parsed
      | none => .rejected "invalid request"
  else .rejected "invalid request"

variable {fromStr : List UInt8 → Option Request} {request piece : List UInt8}

/-! ## One read -/

theorem readUntil_piece {limit : Nat} (unbroken : newline ∉ piece) (short : piece.length < limit) :
    readUntil limit ⟨piece, .wouldBlock⟩ = (piece, .error .wouldBlock) := by
  have visible : piece.take limit = piece := List.take_of_length_le (by omega)
  simp only [readUntil, visible, if_neg unbroken, if_neg (Nat.not_le_of_lt short)]

theorem readUntil_full {limit : Nat} {ending : ReadEnd} (unbroken : newline ∉ piece.take limit)
    (long : limit ≤ piece.length) :
    readUntil limit ⟨piece, ending⟩ = (piece.take limit, .ok ()) := by
  simp only [readUntil, if_neg unbroken, if_pos long]

theorem readUntil_line {limit : Nat} {ending : ReadEnd} (unbroken : newline ∉ piece)
    (short : piece.length < limit) :
    readUntil limit ⟨piece ++ [newline], ending⟩ = (piece ++ [newline], .ok ()) := by
  have visible : (piece ++ [newline]).take limit = piece ++ [newline] := by
    apply List.take_of_length_le
    simp
    omega
  have before : (piece ++ [newline]).takeWhile (· != newline) = piece := by
    rw [List.takeWhile_append_of_pos]
    · simp
    · intro byte member
      simp only [bne_iff_ne, ne_eq]
      intro same
      exact unbroken (same ▸ member)
  simp only [readUntil, visible, before]
  simp

/-- The room for a piece is not yet used up. -/
theorem read_piece (unbroken : newline ∉ piece)
    (within : request.length + piece.length ≤ maxRequestSize) :
    read fromStr request ⟨piece, .wouldBlock⟩ =
      .ok (if Utf8 piece then request ++ piece else request, .more) := by
  have fits : ¬ maxRequestSize + 1 < request.length := by omega
  have short : piece.length < maxRequestSize + 1 - request.length := by omega
  rw [read, if_neg fits]
  simp only [readLine, readUntil_piece unbroken short]
  by_cases valid : Utf8 piece
  · simp only [if_pos valid]
    rfl
  · simp only [if_neg valid]
    rfl

/-- A read that ends in a newline or at the limit, where `text` is all that may come. -/
theorem read_verdict {arrived : Arrived} {bytes text : List UInt8} (valid : Utf8 request)
    (within : request.length ≤ maxRequestSize)
    (done : readUntil (maxRequestSize + 1 - request.length) arrived = (bytes, .ok ()))
    (cut : text.take (maxRequestSize + 1) = request ++ bytes) (some : bytes ≠ [])
    (ended : text.length ≤ maxRequestSize → text.getLast? = .some newline) :
    ∃ after, read fromStr request arrived = .ok (after, verdict fromStr text) := by
  have fits : ¬ maxRequestSize + 1 < request.length := by omega
  have encoded : Utf8 (text.take (maxRequestSize + 1)) ↔ Utf8 bytes := by
    rw [cut]
    exact utf8_append_iff valid bytes
  rw [read, if_neg fits, verdict]
  simp only [readLine, done]
  by_cases sound : Utf8 bytes
  · obtain ⟨first, rest, rfl⟩ := List.exists_cons_of_ne_nil some
    have whole := congrArg List.length cut
    rw [List.length_take] at whole
    rw [if_pos sound, if_pos (encoded.mpr sound)]
    refine ⟨request ++ first :: rest, ?_⟩
    by_cases large : maxRequestSize < text.length
    · have beyond : maxRequestSize < (request ++ first :: rest).length := by omega
      simp only [Except.map, List.length_cons, if_pos large, if_pos beyond]
      rfl
    · have same : request ++ first :: rest = text := by
        rw [← cut]
        exact List.take_of_length_le (by omega)
      have last := ended (by omega)
      simp only [Except.map, List.length_cons, if_neg large, same, last]
      cases fromStr text with
      | none => rfl
      | some parsed => rfl
  · rw [if_neg sound, if_neg fun decoded => sound (encoded.mp decoded)]
    exact ⟨request, rfl⟩

/-! ## All the pieces -/

theorem feed_more {after : List UInt8} {pieces : List (List UInt8)}
    (read : read fromStr request ⟨piece, .wouldBlock⟩ = .ok (after, .more)) :
    feed fromStr request (piece :: pieces) = feed fromStr after pieces := by
  rw [feed, read]
  rfl

theorem feed_verdict {after text : List UInt8} {pieces : List (List UInt8)}
    (read : read fromStr request ⟨piece, .wouldBlock⟩ = .ok (after, verdict fromStr text)) :
    feed fromStr request (piece :: pieces) = .ok (verdict fromStr text) := by
  have settled : verdict fromStr text ≠ .more := by
    rw [verdict]
    split
    · split
      · simp
      · split <;> simp
    · simp
  rw [feed, read, ok_bind]
  cases answer : verdict fromStr text with
  | more => exact absurd answer settled
  | _ => rfl

/-- A text that ends in its first newline, in the pieces in which it arrives. -/
structure Split where
  chunks : List (List UInt8)
  last : List UInt8
  unbroken : ∀ chunk ∈ chunks, newline ∉ chunk
  unbrokenLast : newline ∉ last

/-- What is kept of the pieces, up to the one with which the request is too large. -/
def keptOf (request : List UInt8) : List (List UInt8) → List UInt8
  | [] => request
  | chunk :: chunks =>
    if maxRequestSize < request.length + chunk.length then request ++ chunk
    else keptOf (if Utf8 chunk then request ++ chunk else request) chunks

namespace Split

def arrivals (split : Split) : List (List UInt8) := split.chunks ++ [split.last ++ [newline]]

def text (split : Split) : List UInt8 := split.chunks.flatten ++ (split.last ++ [newline])

def kept (split : Split) : List UInt8 := keptOf [] split.chunks ++ (split.last ++ [newline])

end Split

/-- The pieces are answered as what is kept of them. -/
theorem feed_chunks {chunks : List (List UInt8)} {last : List UInt8}
    (unbroken : ∀ chunk ∈ chunks, newline ∉ chunk) (unbrokenLast : newline ∉ last)
    (valid : Utf8 request) (within : request.length ≤ maxRequestSize) :
    feed fromStr request (chunks ++ [last ++ [newline]]) =
      .ok (verdict fromStr (keptOf request chunks ++ (last ++ [newline]))) := by
  -- over the pieces; what is kept so far is valid and within the limit
  induction chunks generalizing request with
  | nil =>
    suffices completes : ∃ after, read fromStr request ⟨last ++ [newline], .wouldBlock⟩ =
        .ok (after, verdict fromStr (request ++ (last ++ [newline]))) by
      obtain ⟨after, read⟩ := completes
      exact feed_verdict read
    have taken : (request ++ (last ++ [newline])).take (maxRequestSize + 1) =
        request ++ (last ++ [newline]).take (maxRequestSize + 1 - request.length) := by
      rw [List.take_append, List.take_of_length_le (by omega)]
    have ended : (request ++ (last ++ [newline])).getLast? = some newline := by simp
    -- the newline may lie behind the limit, and then it is not read
    by_cases short : last.length < maxRequestSize + 1 - request.length
    · refine read_verdict valid within (readUntil_line unbrokenLast short) ?_ (by simp) fun _ => ended
      rw [taken, List.take_of_length_le]
      simp
      omega
    · have cut : (last ++ [newline]).take (maxRequestSize + 1 - request.length) =
          last.take (maxRequestSize + 1 - request.length) :=
        List.take_append_of_le_length (by omega)
      refine read_verdict valid within (readUntil_full ?_ ?_) taken ?_ fun _ => ended
      · rw [cut]
        exact fun member => unbrokenLast (List.mem_of_mem_take member)
      · simp
        omega
      · apply List.ne_nil_of_length_pos
        simp
        omega
  | cons chunk chunks inductionHypothesis =>
    have here := unbroken chunk List.mem_cons_self
    have later : ∀ chunk ∈ chunks, newline ∉ chunk := fun other member =>
      unbroken other (List.mem_cons_of_mem _ member)
    by_cases large : maxRequestSize < request.length + chunk.length
    · -- the piece fills the request, whatever comes behind it
      rw [keptOf, if_pos large]
      have long : maxRequestSize + 1 - request.length ≤ chunk.length := by omega
      suffices completes : ∃ after, read fromStr request ⟨chunk, .wouldBlock⟩ =
          .ok (after, verdict fromStr (request ++ chunk ++ (last ++ [newline]))) by
        obtain ⟨after, read⟩ := completes
        exact feed_verdict read
      refine read_verdict valid within (readUntil_full ?_ long) ?_ ?_ ?_
      · exact fun member => here (List.mem_of_mem_take member)
      · rw [List.append_assoc, List.take_append, List.take_of_length_le (by omega),
          List.take_append_of_le_length long]
      · apply List.ne_nil_of_length_pos
        simp
        omega
      · intro small
        simp at small
        omega
    · have within' : request.length + chunk.length ≤ maxRequestSize := by omega
      rw [keptOf, if_neg large, List.cons_append, feed_more (read_piece here within')]
      apply inductionHypothesis later
      · split
        · next sound => exact (utf8_append_iff valid chunk).mpr sound
        · exact valid
      · split
        · simpa using within'
        · exact within

theorem feed_arrivals (split : Split) :
    feed fromStr [] split.arrivals = .ok (verdict fromStr split.kept) :=
  feed_chunks split.unbroken split.unbrokenLast utf8_nil (Nat.zero_le _)

theorem feed_text (split : Split) :
    feed fromStr [] [split.text] = .ok (verdict fromStr split.text) := by
  have unbroken : newline ∉ split.chunks.flatten ++ split.last := by
    rw [List.mem_append, List.mem_flatten]
    rintro (⟨chunk, member, inside⟩ | inside)
    · exact split.unbroken chunk member inside
    · exact split.unbrokenLast inside
  have whole : feed fromStr [] [split.chunks.flatten ++ split.last ++ [newline]] =
      .ok (verdict fromStr (split.chunks.flatten ++ split.last ++ [newline])) :=
    feed_chunks (List.forall_mem_nil _) unbroken utf8_nil (Nat.zero_le _)
  rw [List.append_assoc] at whole
  exact whole

/-! ## Two texts with one answer -/

/-- Both are refused as they are, both are too large, or both are the same request. -/
def Alike (left right : List UInt8) : Prop :=
  (Utf8 (left.take (maxRequestSize + 1)) ↔ Utf8 (right.take (maxRequestSize + 1))) ∧
    (Utf8 (left.take (maxRequestSize + 1)) →
      left.length ≤ maxRequestSize ∨ right.length ≤ maxRequestSize → left = right)

theorem verdict_invalid {text : List UInt8} (invalid : ¬ Utf8 (text.take (maxRequestSize + 1))) :
    verdict fromStr text = .rejected "invalid request" := if_neg invalid

theorem verdict_large {text : List UInt8} (valid : Utf8 (text.take (maxRequestSize + 1)))
    (large : maxRequestSize < text.length) :
    verdict fromStr text = .rejected "request is too large" := by
  rw [verdict, if_pos valid, if_pos large]

theorem verdict_parsed {text : List UInt8} (valid : Utf8 (text.take (maxRequestSize + 1)))
    (small : text.length ≤ maxRequestSize) {parsed : Request} (accepted : fromStr text = some parsed) :
    verdict fromStr text = .request parsed := by
  rw [verdict, if_pos valid, if_neg (by omega), accepted]

/-- A parser of a single text tells it from every other. -/
theorem eq_of_verdicts {left right : List UInt8} (valid : Utf8 (left.take (maxRequestSize + 1)))
    (small : left.length ≤ maxRequestSize)
    (alike : ∀ fromStr, verdict fromStr left = verdict fromStr right) : left = right := by
  by_contra differs
  -- the parser that accepts the one text and no other
  let only (text : List UInt8) : Option Request := if text = left then some .status else none
  have accepted : only left = some .status := if_pos rfl
  have refused : only right = none := if_neg fun same => differs same.symm
  have verdicts := alike only
  rw [verdict_parsed valid small accepted, verdict, refused] at verdicts
  split at verdicts
  · split at verdicts <;> cases verdicts
  · cases verdicts

theorem valid_of_verdicts {left right : List UInt8}
    (valid : Utf8 (left.take (maxRequestSize + 1)))
    (alike : ∀ fromStr, verdict fromStr left = verdict fromStr right) :
    Utf8 (right.take (maxRequestSize + 1)) := by
  by_contra invalid
  have verdicts := alike fun _ => some .status
  rw [verdict_invalid invalid] at verdicts
  by_cases large : maxRequestSize < left.length
  · rw [verdict_large valid large] at verdicts
    simp at verdicts
  · rw [verdict_parsed valid (by omega) rfl] at verdicts
    cases verdicts

theorem verdicts_agree_iff {left right : List UInt8} :
    (∀ fromStr, verdict fromStr left = verdict fromStr right) ↔ Alike left right := by
  constructor
  · intro alike
    have mirrored : ∀ fromStr, verdict fromStr right = verdict fromStr left :=
      fun fromStr => (alike fromStr).symm
    have encodings : Utf8 (left.take (maxRequestSize + 1)) ↔
        Utf8 (right.take (maxRequestSize + 1)) :=
      ⟨fun valid => valid_of_verdicts valid alike, fun valid => valid_of_verdicts valid mirrored⟩
    refine ⟨encodings, fun valid small => ?_⟩
    rcases small with small | small
    · exact eq_of_verdicts valid small alike
    · exact (eq_of_verdicts (encodings.mp valid) small mirrored).symm
  · rintro ⟨encodings, same⟩ fromStr
    by_cases valid : Utf8 (left.take (maxRequestSize + 1))
    · by_cases small : left.length ≤ maxRequestSize ∨ right.length ≤ maxRequestSize
      · rw [same valid small]
      · rw [verdict_large valid (by omega), verdict_large (encodings.mp valid) (by omega)]
    · rw [verdict_invalid valid, verdict_invalid fun decoded => valid (encodings.mpr decoded)]

/-! ## What is kept -/

theorem utf8_keptOf {chunks : List (List UInt8)} (valid : Utf8 request)
    (within : request.length + chunks.flatten.length ≤ maxRequestSize) :
    Utf8 (keptOf request chunks) := by
  induction chunks generalizing request with
  | nil => exact valid
  | cons chunk chunks inductionHypothesis =>
    rw [List.flatten_cons, List.length_append] at within
    rw [keptOf, if_neg (by omega)]
    split
    · next sound =>
      apply inductionHypothesis ((utf8_append_iff valid chunk).mpr sound)
      rw [List.length_append]
      omega
    · exact inductionHypothesis valid (by omega)

theorem length_keptOf_le (request : List UInt8) (chunks : List (List UInt8)) :
    (keptOf request chunks).length ≤ request.length + chunks.flatten.length := by
  induction chunks generalizing request with
  | nil => exact Nat.le_refl _
  | cons chunk chunks inductionHypothesis =>
    rw [keptOf, List.flatten_cons, List.length_append]
    split
    · rw [List.length_append]
      omega
    · have rest := inductionHypothesis (if Utf8 chunk then request ++ chunk else request)
      have grown : (if Utf8 chunk then request ++ chunk else request).length ≤
          request.length + chunk.length := by
        split <;> simp
      omega

/-- Within the limit everything is kept if and only if each piece is valid on its own. -/
theorem keptOf_eq_iff {chunks : List (List UInt8)}
    (within : request.length + chunks.flatten.length ≤ maxRequestSize) :
    keptOf request chunks = request ++ chunks.flatten ↔ ∀ chunk ∈ chunks, Utf8 chunk := by
  induction chunks generalizing request with
  | nil => simp [keptOf]
  | cons chunk chunks inductionHypothesis =>
    rw [List.flatten_cons, List.length_append] at within
    rw [keptOf, if_neg (by omega), List.flatten_cons, List.forall_mem_cons]
    split
    · next sound =>
      rw [← List.append_assoc, inductionHypothesis]
      · simp [sound]
      · rw [List.length_append]
        omega
    · next broken =>
      -- what is lost is missing from the length
      constructor
      · intro same
        have short := length_keptOf_le request chunks
        rw [same] at short
        have nonempty : chunk.length ≠ 0 := by
          intro none
          rw [List.length_eq_zero_iff] at none
          exact broken (none ▸ utf8_nil)
        rw [List.length_append, List.length_append] at short
        omega
      · exact fun all => absurd all.1 broken

namespace Split

/-- The cut of a request does not matter.

A request within the limit is kept whole, or it is refused for its encoding either way.  Of
a longer one enough is kept to be too large, or both texts are refused for their encoding. -/
def Harmless (split : Split) : Prop :=
  if split.text.length ≤ maxRequestSize then
    (∀ chunk ∈ split.chunks, Utf8 chunk) ∨
      (¬ Utf8 split.text ∧ ¬ Utf8 (split.last ++ [newline]))
  else
    (Utf8 (split.text.take (maxRequestSize + 1)) ↔ Utf8 (split.kept.take (maxRequestSize + 1))) ∧
      (Utf8 (split.text.take (maxRequestSize + 1)) → maxRequestSize < split.kept.length)

theorem alike_iff (split : Split) : Alike split.kept split.text ↔ split.Harmless := by
  rw [Harmless]
  split
  · next small =>
    have within : ([] : List UInt8).length + split.chunks.flatten.length ≤ maxRequestSize := by
      rw [text, List.length_append] at small
      rw [List.length_nil]
      omega
    have valid := utf8_keptOf utf8_nil within
    have short : split.kept.length ≤ maxRequestSize := by
      have bound := length_keptOf_le [] split.chunks
      rw [text, List.length_append] at small
      rw [kept, List.length_append]
      rw [List.length_nil] at bound
      omega
    have whole : split.kept = split.text ↔ ∀ chunk ∈ split.chunks, Utf8 chunk := by
      rw [← keptOf_eq_iff within, kept, text, List.nil_append, List.append_left_inj]
    have tail : Utf8 split.kept ↔ Utf8 (split.last ++ [newline]) := utf8_append_iff valid _
    rw [Alike, List.take_of_length_le (by omega), List.take_of_length_le (by omega), tail, whole]
    by_cases all : ∀ chunk ∈ split.chunks, Utf8 chunk
    · have same := tail
      rw [whole.mpr all] at same
      exact ⟨fun _ => .inl all, fun _ => ⟨same.symm, fun _ _ => all⟩⟩
    · simp only [all, short, true_or]
      tauto
  · next large =>
    rw [Alike]
    have differs : split.kept.length ≤ maxRequestSize → split.kept ≠ split.text := by
      intro short same
      exact large (same ▸ short)
    constructor
    · rintro ⟨encodings, same⟩
      refine ⟨encodings.symm, fun valid => ?_⟩
      by_contra short
      exact differs (by omega) (same (encodings.mpr valid) (.inl (by omega)))
    · rintro ⟨encodings, long⟩
      refine ⟨encodings.symm, fun valid small => ?_⟩
      have := long (encodings.mpr valid)
      omega

end Split

/-- Whatever the parser accepts, the pieces of a request are answered as the request that
    arrives at once, if and only if the cut is harmless. -/
theorem arrivals_agree_iff (split : Split) :
    (∀ fromStr, feed fromStr [] split.arrivals = feed fromStr [] [split.text]) ↔
      split.Harmless := by
  rw [← split.alike_iff, ← verdicts_agree_iff]
  simp only [feed_arrivals, feed_text, Except.ok.injEq]

/-- A request that selects the mode `é`, cut behind the name. -/
def splitName : Split where
  chunks := ["\x7b\"command\":\"mode-set\",".toUTF8.data.toList, "\"name\":\"é".toUTF8.data.toList]
  last := "\"\x7d".toUTF8.data.toList
  unbroken := by decide
  unbrokenLast := by decide

/-- It is accepted in its three pieces. -/
theorem arrivals_agree_iff_name :
    feed (fun text => if text = splitName.text then some (.modeSet "é") else none) []
      splitName.arrivals = .ok (.request (.modeSet "é")) := by
  have harmless : splitName.Harmless := by
    rw [Split.Harmless, if_pos (by decide)]
    left
    intro chunk member
    simp only [splitName, List.mem_cons, List.not_mem_nil, or_false] at member
    rcases member with rfl | rfl <;> exact utf8_toUTF8 _
  rw [(arrivals_agree_iff splitName).mpr harmless]
  rfl

/-- A request that selects the mode `é`, cut within the name. -/
def splitCharacter : Split where
  chunks := ["\x7b\"command\":\"mode-set\",\"name\":\"".toUTF8.data.toList ++ [0xc3]]
  last := 0xa9 :: "\"\x7d".toUTF8.data.toList
  unbroken := by decide
  unbrokenLast := by decide

/-- The parser on that request. -/
def parseSplitCharacter (text : List UInt8) : Option Request :=
  if text = splitCharacter.text then some (.modeSet "é") else none

/-- The request that is accepted at once is refused in two pieces. -/
theorem split_character_refused :
    feed parseSplitCharacter [] splitCharacter.arrivals = .ok (.rejected "invalid request") ∧
      feed parseSplitCharacter [] [splitCharacter.text] = .ok (.request (.modeSet "é")) := by
  constructor
  · rfl
  · rfl

end Scd.Daemon.Ipc
