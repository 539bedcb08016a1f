import Mathlib.Data.List.Basic

/-!
# C strings

A `const char*` the debug monitors are given is the run of bytes before its terminator, and
the `char` arrays they keep are filled by `strncpy(dst, src, n)` followed by `dst[n] = '\0'`.
Both are byte lists here, so that a cut counts bytes as the C code does: a multi-byte UTF-8
character can be split, and a name of fifteen characters can be longer than fifteen bytes.
A `CString` carries the fact that none of its bytes is the terminator, so that `strncpy`,
which stops at the first `NUL`, is the plain prefix of its bytes and `strcmp` is equality.
-/

namespace Mousetrap.Machine

/-- The bytes of a C string before its terminating `NUL`. -/
@[ext]
structure CString where
  bytes : List (BitVec 8)
  nonzero : ∀ byte ∈ bytes, byte ≠ 0
  deriving DecidableEq, Repr

namespace CString

/-- `""`, what a zeroed `char` array holds. -/
def empty : CString :=
  ⟨[], fun _ member => absurd member (List.not_mem_nil _)⟩

/-- The string a buffer holds: its bytes up to the first `NUL`. -/
def ofBytes (bytes : List (BitVec 8)) : CString :=
  ⟨bytes.takeWhile (· != 0), fun _ member => by simpa using List.mem_takeWhile_imp member⟩

/-- A string literal as the compiler stores it, in UTF-8. -/
def ofString (s : String) : CString :=
  ofBytes (s.toList.flatMap fun c => (String.utf8EncodeChar c).map UInt8.toBitVec)

/-- `strncpy(dst, s, n); dst[n] = '\0';` into a `char[n + 1]`: the first `n` bytes. -/
def cut (s : CString) (n : Nat) : CString :=
  ⟨s.bytes.take n, fun byte member => s.nonzero byte (List.mem_of_mem_take member)⟩

@[simp]
theorem bytes_cut (s : CString) (n : Nat) : (s.cut n).bytes = s.bytes.take n :=
  rfl

theorem length_cut_le (s : CString) (n : Nat) : (s.cut n).bytes.length ≤ n :=
  List.length_take_le n s.bytes

/-- `strcmp(a, b) == 0`: two C strings are equal exactly when their bytes are. -/
theorem beq_eq_bytes_beq (a b : CString) : (a == b) = (a.bytes == b.bytes) :=
  Bool.eq_iff_iff.mpr (by simp only [beq_iff_eq, CString.ext_iff])

end CString

end Mousetrap.Machine
