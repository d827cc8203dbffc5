import Mathlib.Algebra.Group.Nat.Defs
import Mathlib.Data.List.DropRight

/-!
# Text

Strings as lists of characters, with the operations a line-oriented reader needs: lines,
trimming, whitespace-separated fields and unsigned numbers. They follow the documented
behaviour of the methods of `str` that have these names.
-/

namespace Text

/-- The characters with the Unicode property `White_Space`. -/
def isWhitespace (c : Char) : Bool :=
  let n := c.toNat
  decide (9 ≤ n ∧ n ≤ 13) || n == 0x20 || n == 0x85 || n == 0xA0 || n == 0x1680 ||
    decide (0x2000 ≤ n ∧ n ≤ 0x200A) || n == 0x2028 || n == 0x2029 || n == 0x202F ||
    n == 0x205F || n == 0x3000

/-- The lines of what is left of a text, with the start of the first one read in reverse.
A carriage return belongs to the line feed that follows it, and to the line otherwise. -/
def linesFrom (read : List Char) : List Char → List (List Char)
  | [] => if read.isEmpty then [] else [read.reverse]
  | c :: rest =>
    if c = '\n' then
      (match read with
        | '\r' :: read => read.reverse
        | read => read.reverse) :: linesFrom [] rest
    else linesFrom (c :: read) rest

def lines (text : List Char) : List (List Char) := linesFrom [] text

def trim (s : List Char) : List Char := (s.dropWhile isWhitespace).rdropWhile isWhitespace

def splitWhitespace (s : List Char) : List (List Char) :=
  (s.splitOnP isWhitespace).filter fun field => !field.isEmpty

/-- One more digit of a `u64`. -/
def pushDigit (value : Nat) (c : Char) : Option Nat :=
  if c.isDigit then
    let value := value * 10 + (c.toNat - '0'.toNat)
    if value < 2 ^ 64 then some value else none
  else none

/-- Decimal digits that fit a `u64`, after an optional plus sign. -/
def parseU64 (s : List Char) : Option Nat :=
  let digits := match s with
    | '+' :: digits => digits
    | digits => digits
  if digits.isEmpty then none else digits.foldlM pushDigit 0

/-- Bytes as text, if they are UTF-8. -/
def ofUtf8 (bytes : List UInt8) : Option (List Char) :=
  bytes.toByteArray.utf8Decode?.map Array.toList

/-- Nothing but whitespace. -/
def Blank (s : List Char) : Prop := ∀ c ∈ s, isWhitespace c = true

instance (s : List Char) : Decidable (Blank s) := inferInstanceAs (Decidable (∀ c ∈ s, _))

theorem trim_eq_nil_iff {s : List Char} : trim s = [] ↔ Blank s := by
  rw [trim, List.rdropWhile_eq_nil_iff]
  constructor
  · intro rest c member
    rw [← List.takeWhile_append_dropWhile (p := isWhitespace) (l := s)] at member
    rcases List.mem_append.mp member with front | back
    · exact List.mem_takeWhile_imp front
    · exact rest c back
  · intro blank c member
    exact blank c ((List.dropWhile_sublist _).subset member)

/-- Fields do not reach across whitespace. -/
theorem splitWhitespace_append_cons {c : Char} (space : isWhitespace c = true) (s t : List Char) :
    splitWhitespace (s ++ c :: t) = splitWhitespace s ++ splitWhitespace t := by
  simp only [splitWhitespace, List.splitOnP_append_cons s t space, List.filter_append]

theorem splitWhitespace_of_blank {s : List Char} (blank : Blank s) : splitWhitespace s = [] := by
  induction s with
  | nil => rfl
  | cons c s ih =>
    have split := splitWhitespace_append_cons (blank c List.mem_cons_self) [] s
    rw [List.nil_append] at split
    rw [split, ih fun c' member => blank c' (List.mem_cons_of_mem c member)]
    rfl

/-- Whitespace around a text does not change its fields. -/
theorem splitWhitespace_blank_append {front : List Char} (blank : Blank front) (s : List Char) :
    splitWhitespace (front ++ s) = splitWhitespace s := by
  induction front with
  | nil => rfl
  | cons c front ih =>
    have split := splitWhitespace_append_cons (blank c List.mem_cons_self) [] (front ++ s)
    rw [List.nil_append] at split
    rw [List.cons_append, split, ih fun c' member => blank c' (List.mem_cons_of_mem c member)]
    rfl

theorem splitWhitespace_append_blank {back : List Char} (blank : Blank back) (s : List Char) :
    splitWhitespace (s ++ back) = splitWhitespace s := by
  cases back with
  | nil => rw [List.append_nil]
  | cons c back =>
    have rest : Blank back := fun c' member => blank c' (List.mem_cons_of_mem c member)
    rw [splitWhitespace_append_cons (blank c List.mem_cons_self), splitWhitespace_of_blank rest,
      List.append_nil]

theorem splitWhitespace_trim (s : List Char) : splitWhitespace (trim s) = splitWhitespace s := by
  have front : Blank (s.takeWhile isWhitespace) := fun c member => List.mem_takeWhile_imp member
  have back : Blank ((s.dropWhile isWhitespace).rtakeWhile isWhitespace) :=
    fun c member => List.mem_rtakeWhile_imp member
  calc splitWhitespace (trim s)
      = splitWhitespace (trim s ++ (s.dropWhile isWhitespace).rtakeWhile isWhitespace) :=
        (splitWhitespace_append_blank back _).symm
    _ = splitWhitespace (s.dropWhile isWhitespace) := by
        rw [trim, List.rdropWhile_append_rtakeWhile]
    _ = splitWhitespace (s.takeWhile isWhitespace ++ s.dropWhile isWhitespace) :=
        (splitWhitespace_blank_append front _).symm
    _ = splitWhitespace s := by rw [List.takeWhile_append_dropWhile]

end Text
