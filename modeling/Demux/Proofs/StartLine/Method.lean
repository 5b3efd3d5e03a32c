import Demux.Proofs.StartLine.Text

namespace Demux.Method

open Text (isBlank isControl isToken isToken_iff trim)

/-- No well-known method is written out as a custom one. -/
def IsProper (m : Method) : Prop :=
  ∀ token, m = custom token → ∀ k, isWellKnown k = true → k.text ≠ token

variable {m n : Method} {token value : String}

theorem ofToken_text_of_isWellKnown (h : m.isWellKnown = true) : ofToken m.text = m := by
  cases m with
  | custom => cases h
  | options | get | head | post | put | patch | delete | trace | connect => rfl

theorem eq_custom_text (h : m.isWellKnown = false) : m = custom m.text := by
  cases m with
  | custom => rfl
  | options | get | head | post | put | patch | delete | trace | connect => cases h

theorem isProper_ofToken (token : String) : (ofToken token).IsProper := by
  intro t ht k hk htext
  have heq := text_ofToken token
  rw [ht] at heq
  -- the custom token is the text of `k`, of which `ofToken` makes `k`
  rw [← heq, text, ← htext, ofToken_text_of_isWellKnown hk] at ht
  rw [ht] at hk
  cases hk

namespace IsProper

theorem ofToken_text (h : m.IsProper) : ofToken m.text = m := by
  cases hm : m.isWellKnown with
  | true => exact ofToken_text_of_isWellKnown hm
  | false =>
    have hcustom := eq_custom_text hm
    cases hk : (ofToken m.text).isWellKnown with
    | true => exact absurd (text_ofToken m.text) (h m.text hcustom _ hk)
    | false =>
      calc ofToken m.text
        _ = custom (ofToken m.text).text := eq_custom_text hk
        _ = custom m.text := by rw [text_ofToken]
        _ = m := hcustom.symm

theorem eq_of_text_eq (hm : m.IsProper) (hn : n.IsProper) (h : m.text = n.text) : m = n := by
  rw [← hm.ofToken_text, h, hn.ofToken_text]

end IsProper

theorem ofToken_eq_iff : ofToken token = m ↔ m.text = token ∧ m.IsProper := by
  constructor
  · rintro rfl
    exact ⟨text_ofToken token, isProper_ofToken token⟩
  · rintro ⟨rfl, h⟩
    exact h.ofToken_text

theorem parse_eq_ok_iff :
    parse value = .ok m ↔
      isToken (trim value.toList) = true ∧ m.text = String.ofList (trim value.toList) ∧
        m.IsProper := by
  rw [parse_eq_ok, ofToken_eq_iff]

theorem exists_parse_eq_ok_iff :
    (∃ m, parse value = .ok m) ↔ isToken (trim value.toList) = true := by
  simp only [parse_eq_ok, exists_and_left, exists_eq', and_true]

theorem parse_text (h : parse value = .ok m) : parse m.text = .ok m := by
  have htoken := isToken_text h
  rw [parse_eq_ok_iff, Text.trim_token htoken, String.ofList_toList]
  exact ⟨htoken, rfl, (parse_eq_ok_iff.1 h).2.2⟩

theorem eq_iff_trim_eq {other : String} (hm : parse value = .ok m) (hn : parse other = .ok n) :
    n = m ↔ trim other.toList = trim value.toList := by
  rw [← text_of_parse hm, ← text_of_parse hn, String.toList_inj]
  constructor
  · exact congrArg text
  · exact (parse_eq_ok_iff.1 hn).2.2.eq_of_text_eq (parse_eq_ok_iff.1 hm).2.2

/-- A method is a value without its outer blanks, if that is a token, and keeps its text. -/
theorem parse_keeps_text (value : String) :
    let token := trim value.toList
    ((∃ m, parse value = .ok m) ↔
      token ≠ [] ∧ ∀ c ∈ token, isBlank c = false ∧ isControl c = false) ∧
    (∀ fault, parse value = .error fault ↔
      fault = .method value ∧
        ¬(token ≠ [] ∧ ∀ c ∈ token, isBlank c = false ∧ isControl c = false)) ∧
    ∀ m, parse value = .ok m →
      m.text = String.ofList token ∧
      (∀ t, m = .custom t → ∀ k, isWellKnown k = true → k.text ≠ t) ∧
      parse m.text = .ok m ∧
      ∀ other n, parse other = .ok n → (n = m ↔ trim other.toList = token) := by
  intro token
  refine ⟨exists_parse_eq_ok_iff.trans isToken_iff, ?_, ?_⟩
  · intro fault
    rw [parse_eq_error, and_comm, ← isToken_iff, Bool.not_eq_true]
  · intro m hm
    obtain ⟨-, htext, hproper⟩ := parse_eq_ok_iff.1 hm
    exact ⟨htext, hproper, parse_text hm, fun other n hn => eq_iff_trim_eq hm hn⟩

theorem parse_keeps_text_lower_case :
    parse "\u3000\u2003get\x0b\x85" = .ok (custom "get") ∧ parse " GET" = .ok get ∧
      (custom "get").text = String.ofList (trim "\u3000\u2003get\x0b\x85".toList) ∧
      parse "get" = .ok (custom "get") ∧
      (get = custom "get" ↔ trim " GET".toList = trim "\u3000\u2003get\x0b\x85".toList) ∧
      parse "GE T\n" = .error (.method "GE T\n") ∧
      parse "GE\x9fT" = .error (.method "GE\x9fT") := by
  have hlower : parse "\u3000\u2003get\x0b\x85" = .ok (custom "get") := rfl
  have hupper : parse " GET" = .ok get := rfl
  obtain ⟨-, -, hread⟩ := parse_keeps_text "\u3000\u2003get\x0b\x85"
  obtain ⟨htext, -, hagain, hother⟩ := hread _ hlower
  refine ⟨hlower, hupper, htext, hagain, hother _ _ hupper,
    ((parse_keeps_text _).2.1 _).2 ⟨rfl, ?_⟩, ((parse_keeps_text _).2.1 _).2 ⟨rfl, ?_⟩⟩
  · rw [← isToken_iff]
    decide +kernel
  · rw [← isToken_iff]
    decide +kernel

end Demux.Method
