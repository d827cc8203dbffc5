import SrtlaSend.Protocol.Wire
import SrtlaSend.Lib.MachineInt
import Mathlib.Data.Nat.Bitwise

/-!
# The loss list of an SRT NAK

What a loss list means is a function of its 32-bit words, `lossIds`. The parser
agrees with it up to the cap of a thousand ids, and it does so without an index
out of bounds or an overflow: `parseSrtNakChecked` is the same parser with every
access and every addition checked. The cap is applied inside ranges only, so single
words behind a thousand ids are still pushed.
-/

namespace SrtlaSend

/-! ### Meaning of a loss list -/

/-- The ids of the range from `first` to `last`. -/
def rangeIds (first last : Nat) : List Nat := List.range' first (last + 1 - first)

/-- The ids a loss list names, in order. A word with its top bit set opens a range that
the next word closes. -/
def lossIds : List Nat → List Nat
  | [] => []
  | word :: rest =>
    if word < 2 ^ 31 then word :: lossIds rest
    else
      match rest with
      | [] => []
      | last :: rest =>
        if last < 2 ^ 31 ∧ word % 2 ^ 31 ≤ last then rangeIds (word % 2 ^ 31) last ++ lossIds rest
        else lossIds rest

/-- The words after the control header. -/
def lossWords (buf : Bytes) : List Nat := be32Words (buf.drop srtControlHeaderLen)

/-- How many ids the list names up to its last single word; none without one. -/
def idsToLastSingle : List Nat → Nat
  | [] => 0
  | word :: rest =>
    if word < 2 ^ 31 then idsToLastSingle rest + 1
    else
      match rest with
      | [] => 0
      | last :: rest =>
        if idsToLastSingle rest = 0 then 0
        else
          (if last < 2 ^ 31 ∧ word % 2 ^ 31 ≤ last then last + 1 - word % 2 ^ 31 else 0) +
            idsToLastSingle rest

/-! ### The parser on words -/

theorem be32Word_lt (a b c d : UInt8) : be32Word a b c d < 2 ^ 32 := by
  have bound : ByteLayout.value [a, b, c, d] < 256 ^ 4 := ByteLayout.value_lt [a, b, c, d]
  rw [be32Word_eq]
  omega

/-- The range flag is the top bit. -/
theorem and_rangeFlag_eq_zero {word : Nat} (bound : word < 2 ^ 32) :
    word &&& srtNakRangeFlag = 0 ↔ word < 2 ^ 31 := by
  have top : word &&& srtNakRangeFlag = if word.testBit 31 then 2 ^ 31 else 0 := by
    have flag : srtNakRangeFlag = 2 ^ 31 := rfl
    rw [flag, Nat.and_two_pow]
    cases word.testBit 31 <;> simp
  rw [top]
  -- of 32 bits the top one is set from `2 ^ 31` on
  have bit : word.testBit 31 = decide (2 ^ 31 ≤ word) := by
    rw [Nat.testBit_eq_decide_div_mod_eq]
    congr 1
    rw [eq_iff_iff]
    omega
  rw [bit]
  split
  case isTrue high =>
    simp only [decide_eq_true_eq] at high
    omega
  case isFalse low =>
    simp only [decide_eq_true_eq] at low
    omega

theorem and_seqBits (word : Nat) : word &&& 0x7fffffff = word % 2 ^ 31 :=
  Nat.and_two_pow_sub_one_eq_mod word 31

/-- The walk of `parseLossList`, over words. -/
def walkWords : List Nat → List Nat → List Nat
  | [], out => out
  | word :: rest, out =>
    if word < 2 ^ 31 then walkWords rest (out ++ [word])
    else
      match rest with
      | [] => out
      | last :: rest =>
        if last < 2 ^ 31 ∧ word % 2 ^ 31 ≤ last then
          walkWords rest (pushRange (word % 2 ^ 31) (last - word % 2 ^ 31) out)
        else walkWords rest out

section Words

variable {word last : Nat} {rest out : List Nat}

theorem walkWords_single (low : word < 2 ^ 31) :
    walkWords (word :: rest) out = walkWords rest (out ++ [word]) := by
  rw [walkWords.eq_def]
  simp only [low, if_true]

theorem walkWords_range (high : ¬ word < 2 ^ 31) :
    walkWords (word :: last :: rest) out =
      if last < 2 ^ 31 ∧ word % 2 ^ 31 ≤ last then
        walkWords rest (pushRange (word % 2 ^ 31) (last - word % 2 ^ 31) out)
      else walkWords rest out := by
  rw [walkWords.eq_def]
  simp only [high, if_false]

theorem lossIds_single (low : word < 2 ^ 31) : lossIds (word :: rest) = word :: lossIds rest := by
  rw [lossIds.eq_def]
  simp only [low, if_true]

theorem lossIds_range (high : ¬ word < 2 ^ 31) :
    lossIds (word :: last :: rest) =
      if last < 2 ^ 31 ∧ word % 2 ^ 31 ≤ last then rangeIds (word % 2 ^ 31) last ++ lossIds rest
      else lossIds rest := by
  rw [lossIds.eq_def]
  simp only [high, if_false]

/-- A range word with nothing behind it ends the list. -/
theorem walkWords_open (high : ¬ word < 2 ^ 31) :
    walkWords [word] out = out ∧ lossIds [word] = [] ∧ idsToLastSingle [word] = 0 := by
  refine ⟨?_, ?_, ?_⟩
  · rw [walkWords.eq_def]
    simp only [high, if_false]
  · rw [lossIds.eq_def]
    simp only [high, if_false]
  · rw [idsToLastSingle.eq_def]
    simp only [high, if_false]

end Words

theorem parseLossList_eq_walkWords (bytes : Bytes) (out : List Nat) :
    parseLossList bytes out = walkWords (be32Words bytes) out := by
  fun_induction parseLossList bytes out with
  | case1 a b c d rest out id single ih =>
    have low := (and_rangeFlag_eq_zero (be32Word_lt a b c d)).mp single
    rw [ih, be32Words, walkWords_single low]
  | case2 a b c d out id range e f g h rest start last invalid ih =>
    -- the end has the flag set or lies below the start: both words are skipped
    have high := mt (and_rangeFlag_eq_zero (be32Word_lt a b c d)).mpr range
    have skipped : ¬ (be32Word e f g h < 2 ^ 31 ∧ be32Word a b c d % 2 ^ 31 ≤ be32Word e f g h) := by
      rintro ⟨low, le⟩
      rcases invalid with flagged | below
      · exact flagged ((and_rangeFlag_eq_zero (be32Word_lt e f g h)).mpr low)
      · simp only [start, id, and_seqBits, last] at below
        omega
    rw [ih, be32Words, be32Words, walkWords_range high, if_neg skipped]
  | case3 a b c d out id range e f g h rest start last valid ih =>
    have high := mt (and_rangeFlag_eq_zero (be32Word_lt a b c d)).mpr range
    rw [not_or, not_not, not_lt] at valid
    have start_eq : start = be32Word a b c d % 2 ^ 31 := and_seqBits _
    have taken : be32Word e f g h < 2 ^ 31 ∧ be32Word a b c d % 2 ^ 31 ≤ be32Word e f g h :=
      ⟨(and_rangeFlag_eq_zero (be32Word_lt e f g h)).mp valid.1, start_eq ▸ valid.2⟩
    rw [ih, be32Words, be32Words, walkWords_range high, if_pos taken, start_eq]
  | case4 a b c d rest out id range short =>
    have high := mt (and_rangeFlag_eq_zero (be32Word_lt a b c d)).mpr range
    have done : be32Words rest = [] := by
      rw [be32Words]
      exact short
    rw [be32Words, done, (walkWords_open high).1]
  | case5 bytes out short =>
    rw [be32Words]
    · rfl
    · exact short

/-! ### Ranges and the cap -/

/-- A range is pushed up to the cap. -/
theorem pushRange_eq (seq more : Nat) (out : List Nat) :
    pushRange seq more out =
      out ++ (List.range' seq (more + 1)).take (srtNakMaxLossIds - out.length) := by
  -- the cap is checked before each id, so the ids that fit are the first ones
  induction more generalizing seq out with
  | zero =>
    rw [pushRange]
    split
    case isTrue full => rw [Nat.sub_eq_zero_of_le full, List.take_zero, List.append_nil]
    case isFalse room =>
      obtain ⟨left, h⟩ : ∃ left, srtNakMaxLossIds - out.length = left + 1 :=
        ⟨srtNakMaxLossIds - out.length - 1, by omega⟩
      rw [h, List.range'_succ, List.take_succ_cons, List.range'_zero, List.take_nil]
  | succ more ih =>
    rw [pushRange]
    split
    case isTrue full => rw [Nat.sub_eq_zero_of_le full, List.take_zero, List.append_nil]
    case isFalse room =>
      obtain ⟨left, h⟩ : ∃ left, srtNakMaxLossIds - out.length = left + 1 :=
        ⟨srtNakMaxLossIds - out.length - 1, by omega⟩
      have rest : srtNakMaxLossIds - (out ++ [seq]).length = left := by
        rw [List.length_append, List.length_singleton]
        omega
      have split : List.range' seq (more + 1 + 1) = seq :: List.range' (seq + 1) (more + 1) :=
        List.range'_succ
      rw [ih, rest, h, split, List.take_succ_cons, List.append_assoc]
      rfl

theorem length_pushRange (seq more : Nat) {out : List Nat} (fits : out.length ≤ srtNakMaxLossIds) :
    (pushRange seq more out).length = min srtNakMaxLossIds (out.length + (more + 1)) := by
  rw [pushRange_eq, List.length_append, List.length_take, List.length_range']
  omega

/-- A range with room for it is pushed whole. -/
theorem pushRange_of_room {first last : Nat} {out : List Nat} (le : first ≤ last)
    (room : out.length + (rangeIds first last).length ≤ srtNakMaxLossIds) :
    pushRange first (last - first) out = out ++ rangeIds first last := by
  have size : last - first + 1 = last + 1 - first := by omega
  rw [rangeIds, List.length_range'] at room
  rw [pushRange_eq, rangeIds, size, List.take_of_length_le]
  rw [List.length_range']
  omega

/-- Within the cap the walk appends what the list means. -/
theorem walkWords_of_room (words out : List Nat)
    (room : out.length + (lossIds words).length ≤ srtNakMaxLossIds) :
    walkWords words out = out ++ lossIds words := by
  fun_induction lossIds words generalizing out with
  | case1 => rw [walkWords, List.append_nil]
  | case2 word rest low ih =>
    rw [List.length_cons] at room
    have room' : (out ++ [word]).length + (lossIds rest).length ≤ srtNakMaxLossIds := by
      rw [List.length_append, List.length_singleton]
      omega
    rw [walkWords_single low, ih (out ++ [word]) room', List.append_assoc]
    rfl
  | case3 word high => rw [(walkWords_open high).1, List.append_nil]
  | case4 word high last rest valid ih =>
    rw [List.length_append] at room
    have pushed : pushRange (word % 2 ^ 31) (last - word % 2 ^ 31) out =
        out ++ rangeIds (word % 2 ^ 31) last := pushRange_of_room valid.2 (by omega)
    have room' : (out ++ rangeIds (word % 2 ^ 31) last).length + (lossIds rest).length ≤
        srtNakMaxLossIds := by
      rw [List.length_append]
      omega
    rw [walkWords_range high, if_pos valid, pushed, ih _ room', List.append_assoc]
  | case5 word high last rest invalid ih =>
    rw [walkWords_range high, if_neg invalid, ih out room]

/-- The walk only appends. -/
theorem length_le_walkWords (words out : List Nat) : out.length ≤ (walkWords words out).length := by
  fun_induction walkWords words out with
  | case1 out => exact le_refl _
  | case2 out word rest low ih =>
    rw [List.length_append] at ih
    omega
  | case3 out word high => exact le_refl _
  | case4 word out high last rest valid ih =>
    refine le_trans ?_ ih
    rw [pushRange_eq, List.length_append]
    exact Nat.le_add_right _ _
  | case5 word out high last rest invalid ih => exact ih

/-- The walk stays within the cap as long as the single words do. -/
theorem length_walkWords_le_iff (words : List Nat) {out : List Nat}
    (fits : out.length ≤ srtNakMaxLossIds) :
    (walkWords words out).length ≤ srtNakMaxLossIds ↔
      idsToLastSingle words = 0 ∨ out.length + idsToLastSingle words ≤ srtNakMaxLossIds := by
  fun_induction idsToLastSingle words generalizing out with
  | case1 =>
    rw [walkWords]
    exact ⟨fun _ => Or.inl rfl, fun _ => fits⟩
  | case2 word rest low ih =>
    rw [walkWords_single low]
    have pushed : (out ++ [word]).length = out.length + 1 := by
      rw [List.length_append, List.length_singleton]
    -- a single word is pushed without a look at the cap
    by_cases full : out.length = srtNakMaxLossIds
    · have atLeast := length_le_walkWords rest (out ++ [word])
      constructor
      · intro within
        omega
      · intro within
        omega
    · rw [ih (by omega)]
      omega
  | case3 word high =>
    rw [(walkWords_open high).1]
    exact ⟨fun _ => Or.inl rfl, fun _ => fits⟩
  | case4 word high last rest none ih =>
    -- no single word follows, and ranges alone never pass the cap
    rw [walkWords_range high]
    split
    · rw [ih (by rw [length_pushRange _ _ fits]; exact min_le_left _ _)]
      simp [none]
    · rw [ih fits]
      simp [none]
  | case5 word high last rest some ih =>
    rw [walkWords_range high]
    split
    case isTrue valid =>
      -- a range cut off at the cap leaves no room for the single words behind it
      rw [ih (by rw [length_pushRange _ _ fits]; exact min_le_left _ _), length_pushRange _ _ fits]
      omega
    case isFalse invalid =>
      rw [ih fits]
      omega

/-! ### The cap -/

theorem parseSrtNak_eq_walkWords {buf : Bytes} (nak : getPacketType buf = some srtTypeNak) :
    parseSrtNak buf = walkWords (lossWords buf) [] := by
  simp only [parseSrtNak, nak, ne_eq, not_true_eq_false, if_false]
  split
  case isTrue short =>
    -- a header with less than a word behind it
    have none : lossWords buf = [] := by
      have few : (buf.drop srtControlHeaderLen).length < 4 := by
        rw [List.length_drop]
        omega
      rw [lossWords]
      match buf.drop srtControlHeaderLen, few with
      | [], _ => rfl
      | [_], _ => rfl
      | [_, _], _ => rfl
      | [_, _, _], _ => rfl
      | _ :: _ :: _ :: _ :: _, few =>
        simp only [List.length_cons] at few
        omega
    rw [none, walkWords]
  case isFalse => exact parseLossList_eq_walkWords _ _

theorem parseSrtNak_of_other {buf : Bytes} (other : getPacketType buf ≠ some srtTypeNak) :
    parseSrtNak buf = [] := by
  simp only [parseSrtNak, other, ne_eq, not_false_eq_true, if_true, ite_self]

/-- At most a thousand ids are returned exactly when those up to the last single word
are at most a thousand. -/
theorem parseSrtNak_within_cap_iff (buf : Bytes) :
    (parseSrtNak buf).length ≤ 1000 ↔
      (getPacketType buf = some srtTypeNak → idsToLastSingle (lossWords buf) ≤ 1000) := by
  by_cases nak : getPacketType buf = some srtTypeNak
  · have empty : ([] : List Nat).length ≤ srtNakMaxLossIds := Nat.zero_le _
    have cap := length_walkWords_le_iff (lossWords buf) empty
    simp only [srtNakMaxLossIds, List.length_nil, Nat.zero_add] at cap
    rw [parseSrtNak_eq_walkWords nak, cap]
    simp only [nak, forall_const]
    omega
  · rw [parseSrtNak_of_other nak]
    simp [nak]

/-- A range of a thousand ids and one single word behind it. -/
def overfullNak : Bytes :=
  toBe16 srtTypeNak ++ List.replicate 14 0 ++ toBe32 (2 ^ 31 + 1) ++ toBe32 1000 ++ toBe32 7

/-- The single word is pushed past the cap. -/
theorem parseSrtNak_exceeds_cap : ¬ (parseSrtNak overfullNak).length ≤ 1000 := by
  have nak : getPacketType overfullNak = some srtTypeNak := by decide
  have words : lossWords overfullNak = [2 ^ 31 + 1, 1000, 7] := by decide
  rw [parseSrtNak_eq_walkWords nak, words, walkWords_range (by decide), if_pos (by decide),
    walkWords_single (by decide), walkWords, List.length_append, length_pushRange _ _ (by decide)]
  decide

/-! ### Indices and overflow -/

/-- The word at `i`, with the bounds check of each index. -/
def wordAt (buf : Bytes) (i : Nat) : Option Nat := do
  let a ← buf[i]?
  let b ← buf[i + 1]?
  let c ← buf[i + 2]?
  let d ← buf[i + 3]?
  some (be32Word a b c d)

/-- `u32` addition, `none` on overflow. -/
def checkedAddU32 (a b : Nat) : Option Nat := if a + b < 2 ^ 32 then some (a + b) else none

/-- The walk over a range. -/
def walkRangeChecked (last seq : Nat) (out : List Nat) : Option (List Nat) :=
  if out.length ≥ srtNakMaxLossIds then some out
  else if seq = last then some (out ++ [seq])
  else
    match checkedAddU32 seq 1 with
    | some next => walkRangeChecked last next (out ++ [seq])
    | none => none
termination_by srtNakMaxLossIds - out.length
decreasing_by
  rw [List.length_append, List.length_singleton]
  omega

/-- The walk over the loss list, by index. -/
def walkNakChecked (buf : Bytes) (i : Nat) (out : List Nat) : Option (List Nat) :=
  if i + 3 < buf.length then
    match wordAt buf i with
    | none => none
    | some id =>
      if id &&& srtNakRangeFlag = 0 then walkNakChecked buf (i + 4) (out ++ [id])
      else if i + 4 + 3 ≥ buf.length then some out
      else
        match wordAt buf (i + 4) with
        | none => none
        | some last =>
          let start := id &&& 0x7fffffff
          if last &&& srtNakRangeFlag ≠ 0 ∨ last < start then walkNakChecked buf (i + 8) out
          else
            match walkRangeChecked last start out with
            | none => none
            | some out => walkNakChecked buf (i + 8) out
  else some out
termination_by buf.length - i

/-- `parseSrtNak` with every index and every addition checked. -/
def parseSrtNakChecked (buf : Bytes) : Option (List Nat) :=
  if buf.length < srtControlHeaderLen + 4 then some []
  else if getPacketType buf ≠ some srtTypeNak then some []
  else walkNakChecked buf srtControlHeaderLen []

/-- A range below `2 ^ 31` is walked without overflow. -/
theorem walkRangeChecked_eq {last seq : Nat} (out : List Nat) (le : seq ≤ last)
    (bound : last < 2 ^ 31) :
    walkRangeChecked last seq out = some (pushRange seq (last - seq) out) := by
  obtain ⟨more, rfl⟩ := Nat.exists_eq_add_of_le le
  rw [Nat.add_sub_cancel_left]
  -- the checked walk compares before it adds, so it never steps past the end
  induction more generalizing seq out with
  | zero =>
    rw [walkRangeChecked, pushRange]
    split
    · rfl
    · simp only [Nat.add_zero, if_true]
  | succ more ih =>
    have apart : seq ≠ seq + 1 + more := by omega
    have next : checkedAddU32 seq 1 = some (seq + 1) := by
      rw [checkedAddU32, if_pos (by omega)]
    have same : seq + (more + 1) = seq + 1 + more := by omega
    rw [walkRangeChecked, pushRange]
    split
    · rfl
    · have bound' : seq + 1 + more < 2 ^ 31 := by omega
      simp only [next]
      rw [same, if_neg apart]
      exact ih (out ++ [seq]) (Nat.le_add_right _ _) bound'

/-- Inside the buffer, reading by index is reading off the rest of it. -/
theorem drop_eq_wordAt {buf : Bytes} {i : Nat} (inside : i + 3 < buf.length) :
    ∃ a b c d, buf.drop i = a :: b :: c :: d :: buf.drop (i + 4) ∧
      wordAt buf i = some (be32Word a b c d) := by
  have drop (j : Nat) (h : j < buf.length) : buf.drop j = buf[j] :: buf.drop (j + 1) :=
    List.drop_eq_getElem_cons h
  refine ⟨buf[i], buf[i + 1], buf[i + 2], buf[i + 3], ?_, ?_⟩
  · rw [drop i (by omega), drop (i + 1) (by omega), drop (i + 1 + 1) (by omega),
      drop (i + 1 + 1 + 1) (by omega)]
  · simp only [wordAt, List.getElem?_eq_getElem (show i < buf.length by omega),
      List.getElem?_eq_getElem (show i + 1 < buf.length by omega),
      List.getElem?_eq_getElem (show i + 2 < buf.length by omega),
      List.getElem?_eq_getElem inside]
    rfl

/-- The bytes of a word that was read. -/
theorem drop_of_wordAt {buf : Bytes} {i word : Nat} (inside : i + 3 < buf.length)
    (read : wordAt buf i = some word) :
    ∃ a b c d, buf.drop i = a :: b :: c :: d :: buf.drop (i + 4) ∧ be32Word a b c d = word := by
  obtain ⟨a, b, c, d, bytes, read'⟩ := drop_eq_wordAt inside
  exact ⟨a, b, c, d, bytes, Option.some.inj (read'.symm.trans read)⟩

/-- Less than a word is left. -/
theorem parseLossList_of_short {bytes out : List _} (short : bytes.length < 4) :
    parseLossList bytes out = out := by
  match bytes, short with
  | [], _ => rfl
  | [_], _ => rfl
  | [_, _], _ => rfl
  | [_, _, _], _ => rfl
  | _ :: _ :: _ :: _ :: _, short =>
    simp only [List.length_cons] at short
    omega

/-- The step of `parseLossList` at a word read by index. -/
theorem parseLossList_drop {buf : Bytes} {i word : Nat} (out : List Nat)
    (inside : i + 3 < buf.length) (read : wordAt buf i = some word) :
    parseLossList (buf.drop i) out =
      if word &&& srtNakRangeFlag = 0 then parseLossList (buf.drop (i + 4)) (out ++ [word])
      else
        match buf.drop (i + 4) with
        | e :: f :: g :: h :: rest =>
          if be32Word e f g h &&& srtNakRangeFlag ≠ 0 ∨ be32Word e f g h < word &&& 0x7fffffff then
            parseLossList rest out
          else
            parseLossList rest
              (pushRange (word &&& 0x7fffffff) (be32Word e f g h - (word &&& 0x7fffffff)) out)
        | _ => out := by
  obtain ⟨a, b, c, d, bytes, rfl⟩ := drop_of_wordAt inside read
  rw [bytes]
  exact parseLossList.eq_def _ _

/-- The end word of a range that is taken. -/
theorem bounds_of_valid {buf : Bytes} {i start last : Nat} (inside : i + 3 < buf.length)
    (read : wordAt buf i = some last)
    (valid : ¬ (last &&& srtNakRangeFlag ≠ 0 ∨ last < start)) : last < 2 ^ 31 ∧ start ≤ last := by
  obtain ⟨a, b, c, d, -, same⟩ := drop_of_wordAt inside read
  rw [not_or, not_not, not_lt] at valid
  exact ⟨(and_rangeFlag_eq_zero (same ▸ be32Word_lt a b c d)).mp valid.1, valid.2⟩

/-- No index is out of bounds and no addition overflows, and the result is the parser's. -/
theorem walkNakChecked_eq (buf : Bytes) (i : Nat) (out : List Nat) :
    walkNakChecked buf i out = some (parseLossList (buf.drop i) out) := by
  fun_induction walkNakChecked buf i out with
  | case1 i out inside none =>
    -- the guard of the loop keeps the read inside
    obtain ⟨a, b, c, d, -, read⟩ := drop_eq_wordAt inside
    rw [none] at read
    cases read
  | case2 i out inside word read single ih =>
    rw [ih, parseLossList_drop out inside read, if_pos single]
  | case3 i out inside word read range short =>
    -- a range word at the very end: both parsers stop
    have few : (buf.drop (i + 4)).length < 4 := by
      rw [List.length_drop]
      omega
    rw [parseLossList_drop out inside read, if_neg range]
    split
    case h_1 e f g h rest bytes =>
      rw [bytes] at few
      simp only [List.length_cons] at few
      omega
    case h_2 => rfl
  | case4 i out inside word read range room none =>
    -- there is room for the end word, so it can be read
    obtain ⟨a, b, c, d, -, read⟩ := drop_eq_wordAt (show i + 4 + 3 < buf.length by omega)
    rw [none] at read
    cases read
  | case5 i out inside word read range room last readLast start invalid ih =>
    obtain ⟨e, f, g, h, bytes, same⟩ :=
      drop_of_wordAt (show i + 4 + 3 < buf.length by omega) readLast
    rw [ih, parseLossList_drop out inside read, if_neg range, bytes]
    simp only [same]
    rw [if_pos invalid]
  | case6 i out inside word read range room last readLast start valid none =>
    -- the end has 31 bits, so the walk up to it does not overflow
    obtain ⟨bound, le⟩ := bounds_of_valid (by omega) readLast valid
    rw [walkRangeChecked_eq out le bound] at none
    cases none
  | case7 i out inside word read range room last readLast start valid out' walked ih =>
    obtain ⟨bound, le⟩ := bounds_of_valid (by omega) readLast valid
    obtain ⟨e, f, g, h, bytes, same⟩ :=
      drop_of_wordAt (show i + 4 + 3 < buf.length by omega) readLast
    rw [walkRangeChecked_eq out le bound] at walked
    rw [ih, parseLossList_drop out inside read, if_neg range, bytes]
    simp only [same]
    rw [if_neg valid, Option.some.inj walked]
  | case8 i out outside =>
    -- incomplete trailing bytes
    rw [parseLossList_of_short]
    rw [List.length_drop]
    omega

theorem parseSrtNakChecked_eq (buf : Bytes) : parseSrtNakChecked buf = some (parseSrtNak buf) := by
  simp only [parseSrtNakChecked, parseSrtNak]
  split
  · rfl
  · split
    · rfl
    · exact walkNakChecked_eq buf srtControlHeaderLen []

/-! ### Ids have 31 bits -/

theorem mem_walkWords {words out : List Nat} {id : Nat} (member : id ∈ walkWords words out) :
    id ∈ out ∨ id < 2 ^ 31 := by
  fun_induction walkWords words out with
  | case1 out => exact Or.inl member
  | case2 out word rest low ih =>
    rcases ih member with earlier | bound
    · rw [List.mem_append, List.mem_singleton] at earlier
      rcases earlier with earlier | rfl
      · exact Or.inl earlier
      · exact Or.inr low
    · exact Or.inr bound
  | case3 out word high => exact Or.inl member
  | case4 word out high last rest valid ih =>
    rcases ih member with earlier | bound
    · rw [pushRange_eq, List.mem_append] at earlier
      refine earlier.imp_right fun pushed => ?_
      have within := List.mem_of_mem_take pushed
      rw [List.mem_range'_1] at within
      omega
    · exact Or.inr bound
  | case5 word out high last rest invalid ih => exact ih member

theorem parseSrtNak_lt (buf : Bytes) : ∀ id ∈ parseSrtNak buf, id < 2 ^ 31 := by
  intro id member
  by_cases nak : getPacketType buf = some srtTypeNak
  · rw [parseSrtNak_eq_walkWords nak] at member
    rcases mem_walkWords member with none | bound
    · cases none
    · exact bound
  · rw [parseSrtNak_of_other nak] at member
    cases member

/-! ### Encoding -/

/-- An entry of a loss list: one id, or the first and the last id of a range. -/
inductive LossEntry where
  | single (id : Nat)
  | range (first last : Nat)
deriving DecidableEq, Repr

namespace LossEntry

/-- Ids of 31 bits, ranges ascending. -/
def Valid : LossEntry → Prop
  | single id => id < 2 ^ 31
  | range first last => first ≤ last ∧ last < 2 ^ 31

instance : DecidablePred Valid
  | single id => inferInstanceAs (Decidable (id < 2 ^ 31))
  | range first last => inferInstanceAs (Decidable (first ≤ last ∧ last < 2 ^ 31))

def ids : LossEntry → List Nat
  | single id => [id]
  | range first last => rangeIds first last

def words : LossEntry → List Nat
  | single id => [id]
  | range first last => [srtNakRangeFlag + first, last]

theorem lossIds_words {entry : LossEntry} (valid : entry.Valid) (rest : List Nat) :
    lossIds (entry.words ++ rest) = entry.ids ++ lossIds rest := by
  cases entry with
  | single id => exact lossIds_single valid
  | range first last =>
    obtain ⟨le, bound⟩ := valid
    have high : ¬ srtNakRangeFlag + first < 2 ^ 31 := by
      rw [srtNakRangeFlag]
      omega
    have start : (srtNakRangeFlag + first) % 2 ^ 31 = first := by
      rw [srtNakRangeFlag]
      omega
    have range : lossIds (words (range first last) ++ rest) = _ := lossIds_range high
    rw [start, if_pos ⟨bound, le⟩] at range
    exact range

theorem words_lt {entry : LossEntry} (valid : entry.Valid) : ∀ word ∈ entry.words, word < 2 ^ 32 := by
  intro word member
  cases entry with
  | single id =>
    rw [words, List.mem_singleton] at member
    have bound : id < 2 ^ 31 := valid
    omega
  | range first last =>
    obtain ⟨le, bound⟩ := valid
    simp only [words, List.mem_cons, List.not_mem_nil, or_false] at member
    rcases member with rfl | rfl
    · rw [srtNakRangeFlag]
      omega
    · omega

end LossEntry

/-- A NAK with the given rest of its header. -/
def nakFrame (header : Bytes) (words : List Nat) : Bytes :=
  toBe16 srtTypeNak ++ header ++ words.flatMap toBe32

theorem be32Words_toBe32 {word : Nat} (bound : word < 2 ^ 32) (rest : Bytes) :
    be32Words (toBe32 word ++ rest) = word :: be32Words rest := by
  have spelled : ByteLayout.value (toBe32 word) = word := by
    rw [toBe32_eq]
    exact ByteLayout.value_encode_of_lt bound
  calc be32Words (toBe32 word ++ rest) = ByteLayout.value (toBe32 word) :: be32Words rest := by
        simp only [toBe32, toBe16, List.cons_append, List.nil_append, be32Words, be32Word_eq]
    _ = word :: be32Words rest := by rw [spelled]

theorem be32Words_flatMap {words : List Nat} (bound : ∀ word ∈ words, word < 2 ^ 32) :
    be32Words (words.flatMap toBe32) = words := by
  induction words with
  | nil => rfl
  | cons word rest ih =>
    rw [List.flatMap_cons, be32Words_toBe32 (bound word List.mem_cons_self),
      ih fun word' member => bound word' (List.mem_cons_of_mem word member)]

theorem getPacketType_nakFrame (header : Bytes) (words : List Nat) :
    getPacketType (nakFrame header words) = some srtTypeNak := rfl

theorem lossWords_nakFrame {header : Bytes} {words : List Nat} (size : header.length = 14)
    (bound : ∀ word ∈ words, word < 2 ^ 32) : lossWords (nakFrame header words) = words := by
  have front : (toBe16 srtTypeNak ++ header).length = srtControlHeaderLen := by
    rw [List.length_append, size]
    rfl
  rw [lossWords, nakFrame, List.drop_left' front, be32Words_flatMap bound]

theorem lossIds_flatMap_words {entries : List LossEntry} (valid : ∀ entry ∈ entries, entry.Valid) :
    lossIds (entries.flatMap LossEntry.words) = entries.flatMap LossEntry.ids := by
  induction entries with
  | nil => rfl
  | cons entry rest ih =>
    rw [List.flatMap_cons, LossEntry.lossIds_words (valid entry List.mem_cons_self),
      ih fun entry' member => valid entry' (List.mem_cons_of_mem entry member), List.flatMap_cons]

/-- Decoding is exact within the cap, stays in bounds, and undoes the encoding. -/
theorem parseSrtNak_exact (buf : Bytes) :
    (getPacketType buf = some srtTypeNak → (lossIds (lossWords buf)).length ≤ 1000 →
      parseSrtNak buf = lossIds (lossWords buf)) ∧
    (∀ id ∈ parseSrtNak buf, id < 2 ^ 31) ∧
    parseSrtNakChecked buf = some (parseSrtNak buf) ∧
    ∀ (header : Bytes) (entries : List LossEntry), header.length = 14 →
      (∀ entry ∈ entries, entry.Valid) → (entries.flatMap LossEntry.ids).length ≤ 1000 →
      parseSrtNak (nakFrame header (entries.flatMap LossEntry.words)) =
        entries.flatMap LossEntry.ids := by
  have exact {buf : Bytes} (nak : getPacketType buf = some srtTypeNak)
      (within : (lossIds (lossWords buf)).length ≤ 1000) :
      parseSrtNak buf = lossIds (lossWords buf) := by
    rw [parseSrtNak_eq_walkWords nak, walkWords_of_room, List.nil_append]
    rw [List.length_nil, Nat.zero_add]
    exact within
  refine ⟨exact, parseSrtNak_lt buf, parseSrtNakChecked_eq buf, ?_⟩
  -- an encoded list is read back word by word, and its words mean its entries
  intro header entries size valid within
  have bound : ∀ word ∈ entries.flatMap LossEntry.words, word < 2 ^ 32 := by
    intro word member
    obtain ⟨entry, inList, inWords⟩ := List.mem_flatMap.mp member
    exact LossEntry.words_lt (valid entry inList) word inWords
  have words := lossWords_nakFrame size bound
  have ids := lossIds_flatMap_words valid
  rw [exact (getPacketType_nakFrame _ _) (by rw [words, ids]; exact within), words, ids]

/-- Singles and a range in the order of the wire, and a range that is skipped. -/
theorem parseSrtNak_exact_mixed :
    parseSrtNak (nakFrame (List.replicate 14 0) [50, srtNakRangeFlag + 100, 102, 60]) =
      [50, 100, 101, 102, 60] ∧
    parseSrtNak (nakFrame (List.replicate 14 0) [1, srtNakRangeFlag + 10, 2 ^ 32 - 1, 2]) =
      [1, 2] := by
  constructor
  · exact (parseSrtNak_exact []).2.2.2 (List.replicate 14 0)
      [LossEntry.single 50, LossEntry.range 100 102, LossEntry.single 60] (by decide) (by decide)
      (by decide)
  · have words : lossWords (nakFrame (List.replicate 14 0)
        [1, srtNakRangeFlag + 10, 2 ^ 32 - 1, 2]) = [1, srtNakRangeFlag + 10, 2 ^ 32 - 1, 2] :=
      lossWords_nakFrame (by decide) (by decide)
    have ids : lossIds [1, srtNakRangeFlag + 10, 2 ^ 32 - 1, 2] = [1, 2] := by decide
    have exact := (parseSrtNak_exact
      (nakFrame (List.replicate 14 0) [1, srtNakRangeFlag + 10, 2 ^ 32 - 1, 2])).1 rfl
    rw [words, ids] at exact
    exact exact (by decide)

end SrtlaSend
