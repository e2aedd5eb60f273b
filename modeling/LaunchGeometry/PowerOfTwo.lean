import LaunchGeometry.Word

/-! Powers of two above a word.

Smearing copies the highest set bit into every lower position, so that the
successor of a smeared word is a power of two. The successor of the full word
wraps to zero, which stands for a power that needs more than one word.
-/

set_option autoImplicit false

namespace LaunchGeometry.Word

/-- Copy every set bit into the `shift` positions below it. -/
def spread (a shift : Word) : Word := a ||| (a >>> shift)

/-- Fill every position below the highest set bit. Six doublings reach all 64 positions. -/
def smear (a : Word) : Word := [1, 2, 4, 8, 16, 32].foldl spread a

/-- The least power of two above `a`, or zero if it needs more than one word. -/
def powerAbove (a : Word) : Word := smear a + 1

/-- The least power of two not below `a`, or zero if `a` is zero or the power needs more than one word. -/
def powerAtLeast (a : Word) : Word := if a = 0 then 0 else powerAbove (a - 1)

@[simp] theorem powerAtLeast_zero : powerAtLeast 0 = 0 := rfl

theorem powerAtLeast_of_ne_zero {a : Word} (nonzero : a ≠ 0) : powerAtLeast a = powerAbove (a - 1) := by
  simp [powerAtLeast, nonzero]

end LaunchGeometry.Word
