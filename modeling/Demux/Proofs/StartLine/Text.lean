import Demux.StartLine.Method
import Demux.Text.Decimal

namespace Demux

namespace Text

theorem isToken_append {cs ds : List Char} (hcs : isToken cs = true)
    (hds : ∀ d ∈ ds, isPlain d = true) : isToken (cs ++ ds) = true := by
  cases cs with
  | nil => cases hcs
  | cons c cs =>
    have hplain : (c :: cs).all isPlain = true := hcs
    show ((c :: cs) ++ ds).all isPlain = true
    rw [List.all_append, hplain, List.all_eq_true.2 hds]
    rfl

section Token

variable {cs : List Char} (h : isToken cs = true)

include h

theorem trim_token : trim cs = cs :=
  trim_eq_self fun c hc => ((isToken_iff.1 h).2 c hc).1

theorem splitOnP_token : cs.splitOnP isBlank = [cs] :=
  List.splitOnP_eq_singleton fun c hc => ((isToken_iff.1 h).2 c hc).1

theorem splitOnP_token_cons (rest : List Char) :
    (cs ++ ' ' :: rest).splitOnP isBlank = cs :: rest.splitOnP isBlank :=
  List.splitOnP_append_cons_of_forall_mem (fun c hc => ((isToken_iff.1 h).2 c hc).1) ' ' rfl rest

theorem filter_isControl_token : cs.filter isControl = [] := by
  rw [List.filter_eq_nil_iff]
  intro c hc
  rw [((isToken_iff.1 h).2 c hc).2]
  decide

theorem filter_isControl_token_cons (rest : List Char) :
    (cs ++ ' ' :: rest).filter isControl = rest.filter isControl := by
  rw [List.filter_append, filter_isControl_token h]
  rfl

end Token

theorem toUpper_cases (c : Char) : c.toUpper = c ∨ 65 ≤ c.toUpper.toNat ∧ c.toUpper.toNat ≤ 90 := by
  delta Char.toUpper
  split
  · next h =>
    right
    have hlow : 97 ≤ c.val.toNat := UInt32.le_iff_toNat_le.1 h.1
    have hhigh : c.val.toNat ≤ 122 := UInt32.le_iff_toNat_le.1 h.2
    have hval : (c.val + ('A'.val - 'a'.val)).toNat = c.val.toNat - 32 := by
      rw [UInt32.toNat_add, show ('A'.val - 'a'.val).toNat = 4294967264 from rfl]
      omega
    show 65 ≤ (c.val + ('A'.val - 'a'.val)).toNat ∧ (c.val + ('A'.val - 'a'.val)).toNat ≤ 90
    omega
  · exact .inl rfl

theorem toUpper_eq_self {c : Char} (h : c.toNat ≤ 90) : c.toUpper = c := by
  delta Char.toUpper
  split
  · next hlower =>
    have hlow : 97 ≤ c.toNat := UInt32.le_iff_toNat_le.1 hlower.1
    omega
  · rfl

theorem toUpper_toUpper (c : Char) : c.toUpper.toUpper = c.toUpper := by
  obtain heq | ⟨-, hhigh⟩ := toUpper_cases c
  · rw [heq, heq]
  · exact toUpper_eq_self hhigh

theorem isPlain_toUpper {c : Char} (h : isPlain c = true) : isPlain c.toUpper = true := by
  obtain heq | ⟨hlow, hhigh⟩ := toUpper_cases c
  · rw [heq, h]
  · simp [isPlain, isBlank, isControl]
    omega

theorem isToken_map_toUpper {cs : List Char} (h : isToken cs = true) :
    isToken (cs.map Char.toUpper) = true := by
  cases cs with
  | nil => cases h
  | cons c cs =>
    have hplain : (c :: cs).all isPlain = true := h
    show ((c :: cs).map Char.toUpper).all isPlain = true
    rw [List.all_eq_true] at hplain ⊢
    intro d hd
    obtain ⟨e, he, rfl⟩ := List.mem_map.1 hd
    exact isPlain_toUpper (hplain e he)

theorem isPlain_of_mem_toDigits {n : Nat} {c : Char} (h : c ∈ Nat.toDigits 10 n) :
    isPlain c = true :=
  isPlain_of_isDigit (Nat.isDigit_of_mem_toDigits (by decide) (by decide) h)

theorem isToken_toDigits (n : Nat) : isToken (Nat.toDigits 10 n) = true := by
  rw [isToken, List.isEmpty_eq_false_iff.2 Nat.toDigits_ne_nil, List.all_eq_true.2]
  · rfl
  · intro c hc
    exact isPlain_of_mem_toDigits hc

theorem digitChar_of_isDigit {c : Char} (h : c.isDigit = true) :
    c.toNat - 48 < 10 ∧ (c.toNat - 48).digitChar = c := by
  have hrange : 48 ≤ c.toNat ∧ c.toNat ≤ 57 := Char.isDigit_iff_toNat.1 h
  have hlt : c.toNat - 48 < 10 := by omega
  refine ⟨hlt, ?_⟩
  rw [← Char.toNat_inj, Nat.toNat_digitChar_of_lt_ten hlt]
  omega

/-- Digits that are read after a number which is not zero are the last digits of what is read. -/
theorem toDigits_ofDigitChars {cs : List Char} (hcs : ∀ c ∈ cs, c.isDigit = true) {n : Nat}
    (hn : 0 < n) : Nat.toDigits 10 (Nat.ofDigitChars 10 cs n) = Nat.toDigits 10 n ++ cs := by
  induction cs generalizing n with
  | nil => rw [Nat.ofDigitChars_nil, List.append_nil]
  | cons c cs ih =>
    obtain ⟨hlt, hchar⟩ := digitChar_of_isDigit (hcs c List.mem_cons_self)
    have hrest : ∀ d ∈ cs, d.isDigit = true := fun d hd => hcs d (List.mem_cons_of_mem c hd)
    have hpos : 0 < 10 * n + (c.toNat - 48) := by omega
    calc Nat.toDigits 10 (Nat.ofDigitChars 10 (c :: cs) n)
      _ = Nat.toDigits 10 (Nat.ofDigitChars 10 cs (10 * n + (c.toNat - 48))) := rfl
      _ = Nat.toDigits 10 (10 * n + (c.toNat - 48)) ++ cs := ih hrest hpos
      _ = (Nat.toDigits 10 n ++ [c]) ++ cs := by
        rw [← Nat.toDigits_append_toDigits (by decide) hn hlt, Nat.toDigits_of_lt_base hlt, hchar]
      _ = Nat.toDigits 10 n ++ c :: cs := List.append_assoc _ _ _

end Text

theorem Method.isToken_text {value : String} {m : Method} (h : parse value = .ok m) :
    Text.isToken m.text.toList = true := by
  rw [text_of_parse h]
  exact (parse_eq_ok.1 h).1

end Demux
