import Demux.Text.Trim

namespace Demux.Text

/-- The value of a nonempty run of ASCII digits, if it is at most `bound`. -/
def digits? (bound : Nat) (cs : List Char) : Option Nat :=
  if !cs.isEmpty && cs.all Char.isDigit then
    let n := Nat.ofDigitChars 10 cs 0
    if n ≤ bound then some n else none
  else none

def dropPlus : List Char → List Char
  | '+' :: cs => cs
  | cs => cs

/-- Reads a number out of a field value, where blanks around it and one plus sign are allowed. -/
def number? (bound : Nat) (value : String) : Option Nat :=
  digits? bound (dropPlus (trim value.toList))

theorem digits?_eq_some {bound n : Nat} {cs : List Char} :
    digits? bound cs = some n ↔
      cs ≠ [] ∧ (∀ c ∈ cs, c.isDigit = true) ∧ Nat.ofDigitChars 10 cs 0 = n ∧ n ≤ bound := by
  simp [digits?]
  grind

theorem digits?_toDigits {bound n : Nat} (h : n ≤ bound) :
    digits? bound (Nat.toDigits 10 n) = some n :=
  digits?_eq_some.2 ⟨Nat.toDigits_ne_nil,
    fun _ hc => Nat.isDigit_of_mem_toDigits (by decide) (by decide) hc,
    Nat.ofDigitChars_ten_toDigits, h⟩

theorem dropPlus_of_isDigit {cs : List Char} (h : ∀ c ∈ cs, c.isDigit = true) :
    dropPlus cs = cs := by
  cases cs with
  | nil => rfl
  | cons c cs =>
    have hc : c ≠ '+' := by rintro rfl; exact absurd (h '+' (by simp)) (by decide)
    simp [dropPlus, hc]

theorem number?_toString {bound n : Nat} (h : n ≤ bound) : number? bound (toString n) = some n := by
  have hd : ∀ c ∈ Nat.toDigits 10 n, c.isDigit = true :=
    fun _ hc => Nat.isDigit_of_mem_toDigits (by decide) (by decide) hc
  have hb : ∀ c ∈ Nat.toDigits 10 n, isBlank c = false :=
    fun c hc => isBlank_of_isPlain (isPlain_of_isDigit (hd c hc))
  rw [number?, show (toString n).toList = Nat.toDigits 10 n from Nat.toList_repr, trim_eq_self hb,
    dropPlus_of_isDigit hd, digits?_toDigits h]

end Demux.Text
