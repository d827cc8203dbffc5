import Mathlib.Data.List.Forall2
import Mathlib.Data.List.Induction
import Mathlib.Algebra.BigOperators.Group.List.Basic
import Mathlib.Algebra.Ring.Nat
import Mathlib.Tactic.Common

/-!
# Fixed-width fields in a byte buffer

A record on the wire is a row of big-endian numerals of fixed widths. `pack` writes
them one behind the other; `fields` reads them at the offsets the widths add up to.
The two are inverse in both directions: `fields_eq_iff` says that a buffer has the
values `vs` at these offsets exactly when it starts with the packed `vs`.
-/

namespace ByteLayout

/-! ### Big-endian numerals -/

/-- The number a row of bytes spells, most significant byte first. -/
def value (bytes : List UInt8) : Nat := bytes.foldl (fun acc b => acc * 256 + b.toNat) 0

/-- The low `width` bytes of `n`, most significant byte first. -/
def encode : Nat → Nat → List UInt8
  | 0, _ => []
  | width + 1, n => UInt8.ofNat (n / 256 ^ width) :: encode width n

/-- A row that is long enough has a first byte. -/
theorem exists_eq_cons {n : Nat} {bytes : List UInt8} (long : n + 1 ≤ bytes.length) :
    ∃ b rest, bytes = b :: rest ∧ n ≤ rest.length := by
  cases bytes with
  | nil => exact absurd long (Nat.not_succ_le_zero n)
  | cons b rest => exact ⟨b, rest, rfl, Nat.le_of_succ_le_succ long⟩

@[simp] theorem value_nil : value [] = 0 := rfl

theorem value_concat (bytes : List UInt8) (b : UInt8) :
    value (bytes ++ [b]) = value bytes * 256 + b.toNat := by
  simp only [value, List.foldl_append, List.foldl_cons, List.foldl_nil]

@[simp] theorem length_encode (width n : Nat) : (encode width n).length = width := by
  induction width with
  | zero => rfl
  | succ width ih => rw [encode, List.length_cons, ih]

theorem encode_add (high low n : Nat) :
    encode (high + low) n = encode high (n / 256 ^ low) ++ encode low n := by
  induction high with
  | zero => rw [Nat.zero_add, encode, List.nil_append]
  | succ high ih =>
    have shift : n / 256 ^ (high + low) = n / 256 ^ low / 256 ^ high := by
      rw [Nat.add_comm, Nat.pow_add, Nat.div_div_eq_div_mul]
    rw [Nat.succ_add, encode, encode, ih, shift, List.cons_append]

theorem encode_succ (width n : Nat) :
    encode (width + 1) n = encode width (n / 256) ++ [UInt8.ofNat n] := by
  rw [encode_add, Nat.pow_one, encode, encode, Nat.pow_zero, Nat.div_one]

theorem value_encode (width n : Nat) : value (encode width n) = n % 256 ^ width := by
  induction width generalizing n with
  | zero => rw [encode, value_nil, Nat.pow_zero, Nat.mod_one]
  | succ width ih =>
    have split : n % 256 ^ (width + 1) = n % 256 + 256 * (n / 256 % 256 ^ width) := by
      rw [Nat.pow_succ', Nat.mod_mul]
    rw [encode_succ, value_concat, ih, UInt8.toNat_ofNat', split]
    omega

theorem value_encode_of_lt {width n : Nat} (fits : n < 256 ^ width) : value (encode width n) = n := by
  rw [value_encode, Nat.mod_eq_of_lt fits]

theorem encode_value (bytes : List UInt8) : encode bytes.length (value bytes) = bytes := by
  induction bytes using List.reverseRecOn with
  | nil => rfl
  | append_singleton bytes b ih =>
    have byte := b.toNat_lt
    have high : (value bytes * 256 + b.toNat) / 256 = value bytes := by omega
    have low : UInt8.ofNat (value bytes * 256 + b.toNat) = b := by
      apply UInt8.toNat_inj.mp
      rw [UInt8.toNat_ofNat']
      omega
    rw [List.length_append, List.length_singleton, value_concat, encode_succ, high, low, ih]

theorem value_lt (bytes : List UInt8) : value bytes < 256 ^ bytes.length := by
  rw [← encode_value bytes, value_encode, length_encode]
  exact Nat.mod_lt _ (Nat.pow_pos (by decide))

/-! ### Fields -/

/-- The numeral of the `width` bytes from `off` on. -/
def field (buf : List UInt8) (off width : Nat) : Nat := value ((buf.drop off).take width)

/-- The fields of the given widths, one behind the other from `off` on. -/
def fields (buf : List UInt8) : Nat → List Nat → List Nat
  | _, [] => []
  | off, width :: widths => field buf off width :: fields buf (off + width) widths

/-- The numerals of the given widths, one behind the other. -/
def pack (widths values : List Nat) : List UInt8 := (List.zipWith encode widths values).flatten

/-- Every value fits the width of its field. -/
def Fits (widths values : List Nat) : Prop := List.Forall₂ (fun width v => v < 256 ^ width) widths values

@[simp] theorem pack_cons (width v : Nat) (widths values : List Nat) :
    pack (width :: widths) (v :: values) = encode width v ++ pack widths values := rfl

theorem length_pack {widths values : List Nat} (fits : Fits widths values) :
    (pack widths values).length = widths.sum := by
  induction fits with
  | nil => rfl
  | cons _ _ ih => rw [pack_cons, List.length_append, length_encode, ih, List.sum_cons]

theorem field_lt (buf : List UInt8) (off width : Nat) : field buf off width < 256 ^ width := by
  have short : ((buf.drop off).take width).length ≤ width := List.length_take_le _ _
  exact Nat.lt_of_lt_of_le (value_lt _) (Nat.pow_le_pow_right (by decide) short)

theorem fits_fields (buf : List UInt8) (off : Nat) (widths : List Nat) :
    Fits widths (fields buf off widths) := by
  induction widths generalizing off with
  | nil => exact .nil
  | cons width widths ih => exact .cons (field_lt buf off width) (ih (off + width))

theorem field_append (front rest : List UInt8) {width v : Nat} (fits : v < 256 ^ width) :
    field (front ++ (encode width v ++ rest)) front.length width = v := by
  rw [field, List.drop_left, List.take_left' (length_encode width v), value_encode_of_lt fits]

/-- Packed fields are read back, whatever stands in front and behind. -/
theorem fields_pack (front rest : List UInt8) {widths values : List Nat} (fits : Fits widths values) :
    fields (front ++ (pack widths values ++ rest)) front.length widths = values := by
  induction fits generalizing front with
  | nil => rfl
  | @cons width v widths values first _ ih =>
    -- the field just read becomes part of what stands in front
    have behind := ih (front ++ encode width v)
    rw [List.append_assoc, List.length_append, length_encode] at behind
    rw [pack_cons, List.append_assoc, fields, field_append front _ first, behind]

theorem pack_fields (buf : List UInt8) (off : Nat) (widths : List Nat)
    (long : off + widths.sum ≤ buf.length) :
    pack widths (fields buf off widths) = (buf.drop off).take widths.sum := by
  induction widths generalizing off with
  | nil => rfl
  | cons width widths ih =>
    rw [List.sum_cons] at long ⊢
    have first : encode width (field buf off width) = (buf.drop off).take width := by
      have length : ((buf.drop off).take width).length = width := by
        rw [List.length_take, List.length_drop]
        omega
      have spelled := encode_value ((buf.drop off).take width)
      rwa [length] at spelled
    rw [fields, pack_cons, first, ih (off + width) (by omega), List.take_add, List.drop_drop]

/-- A buffer holds the values in its fields exactly when it starts with the packed values. -/
theorem fields_eq_iff (buf : List UInt8) (widths values : List Nat) :
    widths.sum ≤ buf.length ∧ fields buf 0 widths = values ↔
      Fits widths values ∧ ∃ rest, buf = pack widths values ++ rest := by
  constructor
  · rintro ⟨long, rfl⟩
    have packed := pack_fields buf 0 widths (by omega)
    rw [List.drop_zero] at packed
    exact ⟨fits_fields buf 0 widths, buf.drop widths.sum, by rw [packed, List.take_append_drop]⟩
  · rintro ⟨fits, rest, rfl⟩
    have length := length_pack fits
    refine ⟨?_, fields_pack [] rest fits⟩
    rw [List.length_append, length]
    exact Nat.le_add_right _ _

end ByteLayout
