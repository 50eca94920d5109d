import Mathlib.Algebra.Group.Nat.Defs
import Mathlib.Data.List.Basic

/-! Octet strings: big-endian numbers, masks, and contents that are cut into records. -/

set_option autoImplicit false

namespace Roosty.Library.Octets

abbrev Bytes := List UInt8

/-- `[u8; length]`. -/
abbrev OfLength (length : Nat) := { bytes : Bytes // bytes.length = length }

def ascii (text : String) : Bytes := text.toList.map fun character => UInt8.ofNat character.toNat

/-!
## Numbers
-/

def toBeBytes : Nat → Nat → Bytes
  | 0, _ => []
  | width + 1, value => toBeBytes width (value / 256) ++ [UInt8.ofNat value]

def fromBeBytes (bytes : Bytes) : Nat :=
  bytes.foldl (fun value byte => value * 256 + byte.toNat) 0

@[simp] theorem length_toBeBytes (width value : Nat) : (toBeBytes width value).length = width := by
  induction width generalizing value with
  | zero => rfl
  | succ width ih => rw [toBeBytes, List.length_append, ih, List.length_singleton]

theorem fromBeBytes_toBeBytes (width value : Nat) :
    fromBeBytes (toBeBytes width value) = value % 256 ^ width := by
  induction width generalizing value with
  | zero => simp [toBeBytes, fromBeBytes, Nat.mod_one]
  | succ width ih =>
      have low : (UInt8.ofNat value).toNat = value % 256 := UInt8.toNat_ofNat'
      have high := ih (value / 256)
      rw [fromBeBytes] at high ⊢
      rw [toBeBytes, List.foldl_append, high, List.foldl_cons, List.foldl_nil, low, Nat.pow_succ,
        Nat.mul_comm (256 ^ width) 256, Nat.mod_mul]
      omega

theorem toBeBytes_zero (width : Nat) : toBeBytes width 0 = List.replicate width 0 := by
  induction width with
  | zero => rfl
  | succ width ih =>
      rw [toBeBytes, Nat.zero_div, ih, List.replicate_succ']
      rfl

/-!
## Masks
-/

/-- A mask over the big-endian form of a number of its own length. -/
def maskedBy (mask : Bytes) (number : Nat) : Bytes :=
  List.zipWith (· ^^^ ·) mask (toBeBytes mask.length number)

theorem maskedBy_zero (mask : Bytes) : maskedBy mask 0 = mask := by
  rw [maskedBy, toBeBytes_zero]
  induction mask with
  | nil => rfl
  | cons byte mask ih =>
      rw [List.length_cons, List.replicate_succ, List.zipWith_cons_cons, ih, UInt8.xor_zero]

/-!
## Records
-/

/-- Contents cut into records of a size, the last one possibly smaller. -/
def records (size : Nat) : Nat → Bytes → List Bytes
  | 0, _ => []
  | fuel + 1, content =>
      if content.length ≤ size then [content]
      else content.take size :: records size fuel (content.drop size)

def cut (size : Nat) (content : Bytes) : List Bytes := records size (content.length + 1) content

theorem cut_single {size : Nat} {content : Bytes} (fits : content.length ≤ size) :
    cut size content = [content] := by
  rw [cut, records, if_pos fits]

/-- Each record opened with its number and whether it is the last, and all must open. -/
def openRecords (opened : Nat → Bool → Bytes → Option Bytes) : Nat → List Bytes →
    Option (List Bytes)
  | _, [] => some []
  | number, record :: rest => do
      let text ← opened number rest.isEmpty record
      let later ← openRecords opened (number + 1) rest
      some (text :: later)

theorem openRecords_single {opened : Nat → Bool → Bytes → Option Bytes} {record text : Bytes}
    (opens : opened 0 true record = some text) : openRecords opened 0 [record] = some [text] := by
  simp only [openRecords, List.isEmpty_nil, opens]
  rfl

end Roosty.Library.Octets
