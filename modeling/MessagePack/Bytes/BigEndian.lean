/-!
# Big-endian bytes

A number and the bytes that stand for it on the wire: its digits in base 256,
most significant first, in a fixed width. Digits beyond the width are dropped.
-/

namespace MessagePack.Bytes.BigEndian

/-- The last `width` digits of a number in base 256, most significant first. The
least significant one is split off first, so the recursion is on the width. -/
def digits : Nat → Nat → List UInt8
  | 0, _ => []
  | width + 1, number => digits width (number / 256) ++ [UInt8.ofNat number]

/-- The number that some bytes spell. Bytes in front that are zero make no
difference. -/
def number (bytes : List UInt8) : Nat :=
  bytes.foldl (fun prior byte => prior * 256 + byte.toNat) 0

@[simp] theorem length_digits (width value : Nat) : (digits width value).length = width := by
  induction width generalizing value with
  | zero => rfl
  | succ width inductionHypothesis => simp [digits, inductionHypothesis]

end MessagePack.Bytes.BigEndian
