import Demux.Proofs.StartLine.Text
import Demux.StartLine.Field

namespace Demux.Protocol

open Text (isBlank isControl isToken trim splitFirst?_eq_some digits?_eq_some)

/-- `IsName cs`: what may stand before the slash. -/
structure IsName (cs : List Char) : Prop where
  ne_nil : cs ≠ []
  slash_notMem : '/' ∉ cs
  plain : ∀ c ∈ cs, isBlank c = false ∧ isControl c = false

/-- `IsNumber cs n`: digits of a number that fits a byte, with leading zeros or without. -/
structure IsNumber (cs : List Char) (n : UInt8) : Prop where
  ne_nil : cs ≠ []
  isDigit : ∀ c ∈ cs, c.isDigit = true
  value : Nat.ofDigitChars 10 cs 0 = n.toNat

/-- `Reads cs p`: a name, kept in capitals, a slash, and two numbers with a point between. -/
inductive Reads : List Char → Protocol → Prop where
  | intro {name major minor : List Char} {a b : UInt8} (hname : IsName name)
    (hmajor : IsNumber major a) (hminor : IsNumber minor b) :
    Reads (name ++ '/' :: (major ++ '.' :: minor)) ⟨String.ofList (name.map Char.toUpper), a, b⟩

variable {cs : List Char} {n : UInt8} {p : Protocol} {value : String}

theorem toList_text (p : Protocol) :
    p.text.toList = p.name.toList ++
      '/' :: (Nat.toDigits 10 p.major.toNat ++ '.' :: Nat.toDigits 10 p.minor.toNat) := by
  simp [text]

theorem IsName.isToken (h : IsName cs) : isToken cs = true :=
  Text.isToken_iff.2 ⟨h.ne_nil, h.plain⟩

theorem isName_of_isToken (h : isToken cs = true) (hslash : '/' ∉ cs) : IsName cs := by
  obtain ⟨hne, hplain⟩ := Text.isToken_iff.1 h
  exact ⟨hne, hslash, hplain⟩

theorem IsName.map_toUpper (h : IsName cs) : IsName (cs.map Char.toUpper) := by
  apply isName_of_isToken (Text.isToken_map_toUpper h.isToken)
  intro hslash
  obtain ⟨c, hc, hupper⟩ := List.mem_map.1 hslash
  obtain heq | ⟨hlow, -⟩ := Text.toUpper_cases c
  · rw [heq] at hupper
    rw [hupper] at hc
    exact h.slash_notMem hc
  · rw [hupper] at hlow
    exact absurd hlow (by decide)

theorem isNumber_of_digits? {k : Nat} (h : Text.digits? 255 cs = some k) :
    IsNumber cs (.ofNat k) := by
  obtain ⟨hne, hdigits, hvalue, hk⟩ := digits?_eq_some.1 h
  refine ⟨hne, hdigits, ?_⟩
  rw [hvalue, UInt8.toNat_ofNat_of_lt' (Nat.lt_succ_of_le hk)]

theorem IsNumber.digits? (h : IsNumber cs n) : Text.digits? 255 cs = some n.toNat :=
  digits?_eq_some.2 ⟨h.ne_nil, h.isDigit, h.value, Nat.le_of_lt_succ n.toNat_lt⟩

theorem IsNumber.point_notMem (h : IsNumber cs n) : '.' ∉ cs := by
  intro hpoint
  cases h.isDigit '.' hpoint

theorem isNumber_toDigits (n : UInt8) : IsNumber (Nat.toDigits 10 n.toNat) n where
  ne_nil := Nat.toDigits_ne_nil
  isDigit _ hc := Nat.isDigit_of_mem_toDigits (by decide) (by decide) hc
  value := Nat.ofDigitChars_ten_toDigits

theorem reads_of_ofChars? (h : ofChars? cs = some p) : Reads cs p := by
  obtain ⟨⟨name, numbers⟩, hname, h⟩ := Option.bind_eq_some_iff.1 h
  obtain ⟨_, hguard, h⟩ := Option.bind_eq_some_iff.1 h
  obtain ⟨⟨major, minor⟩, hnumbers, h⟩ := Option.bind_eq_some_iff.1 h
  obtain ⟨a, ha, h⟩ := Option.bind_eq_some_iff.1 h
  obtain ⟨b, hb, ⟨⟩⟩ := Option.bind_eq_some_iff.1 h
  obtain ⟨rfl, hslash⟩ := splitFirst?_eq_some.1 hname
  obtain ⟨rfl, -⟩ := splitFirst?_eq_some.1 hnumbers
  have htoken : isToken name = true := by
    cases ht : isToken name with
    | true => rfl
    | false =>
      rw [ht] at hguard
      cases hguard
  exact .intro (isName_of_isToken htoken hslash) (isNumber_of_digits? ha) (isNumber_of_digits? hb)

theorem Reads.ofChars? (h : Reads cs p) : ofChars? cs = some p := by
  cases h with
  | @intro name _ _ a b hname hmajor hminor =>
    have hguard : (guard (isToken name = true) : Option Unit) = some () := by
      rw [hname.isToken]
      rfl
    refine Option.bind_eq_some_iff.2 ⟨_, splitFirst?_eq_some.2 ⟨rfl, hname.slash_notMem⟩, ?_⟩
    refine Option.bind_eq_some_iff.2 ⟨(), hguard, ?_⟩
    refine Option.bind_eq_some_iff.2 ⟨_, splitFirst?_eq_some.2 ⟨rfl, hmajor.point_notMem⟩, ?_⟩
    refine Option.bind_eq_some_iff.2 ⟨a.toNat, hmajor.digits?, ?_⟩
    refine Option.bind_eq_some_iff.2 ⟨b.toNat, hminor.digits?, ?_⟩
    rw [UInt8.ofNat_toNat, UInt8.ofNat_toNat]
    rfl

theorem ofChars?_eq_some : Protocol.ofChars? cs = some p ↔ Reads cs p :=
  ⟨reads_of_ofChars?, Reads.ofChars?⟩

theorem parse_eq_ok_iff_reads : parse value = .ok p ↔ Reads (trim value.toList) p :=
  parse_eq_ok.trans ofChars?_eq_some

theorem parse_eq_error_iff_not_reads {fault : Fault} :
    parse value = .error fault ↔ fault = .protocol value ∧ ∀ p, ¬Reads (trim value.toList) p := by
  rw [parse_eq_error, Option.eq_none_iff_forall_ne_some, and_comm]
  simp only [ne_eq, ofChars?_eq_some]

theorem Reads.isToken_toList_text (h : Reads cs p) : isToken p.text.toList = true := by
  cases h with
  | intro hname _ _ =>
    rw [toList_text, String.toList_ofList]
    apply Text.isToken_append hname.map_toUpper.isToken
    intro c hc
    rcases List.mem_cons.1 hc with rfl | hc
    · rfl
    rcases List.mem_append.1 hc with hmajor | hc
    · exact Text.isPlain_of_mem_toDigits hmajor
    rcases List.mem_cons.1 hc with rfl | hminor
    · rfl
    · exact Text.isPlain_of_mem_toDigits hminor

theorem isToken_text (h : parse value = .ok p) : isToken p.text.toList = true :=
  (parse_eq_ok_iff_reads.1 h).isToken_toList_text

/-- The text of a protocol is a form of it: capitals are their own capitals. -/
theorem Reads.text (h : Reads cs p) : Reads p.text.toList p := by
  cases h with
  | @intro name _ _ a b hname _ _ =>
    have hupper : (name.map Char.toUpper).map Char.toUpper = name.map Char.toUpper := by
      rw [List.map_map]
      apply List.map_congr_left
      intro c _
      exact Text.toUpper_toUpper c
    have hreads := Reads.intro hname.map_toUpper (isNumber_toDigits a) (isNumber_toDigits b)
    rw [hupper] at hreads
    rw [toList_text, String.toList_ofList]
    exact hreads

theorem parse_text (h : parse value = .ok p) : parse p.text = .ok p := by
  rw [parse_eq_ok_iff_reads, Text.trim_token (isToken_text h)]
  exact (parse_eq_ok_iff_reads.1 h).text

/-- A protocol is read just from its forms, and printed in the one that it is read from again. -/
theorem parse_normalizes (value : String) :
    (∀ p, parse value = .ok p ↔ Reads (trim value.toList) p) ∧
    (∀ fault, parse value = .error fault ↔
      fault = .protocol value ∧ ∀ p, ¬Reads (trim value.toList) p) ∧
    ∀ p, parse value = .ok p →
      parse p.text = .ok p ∧ (∀ v block, ofBlock v (p.write v block) = .ok p) ∧
      ∀ other q, parse other = .ok q → q.text = p.text → q = p := by
  refine ⟨fun p => parse_eq_ok_iff_reads, fun fault => parse_eq_error_iff_not_reads, ?_⟩
  intro p hp
  have htext := parse_text hp
  refine ⟨htext, ?_, ?_⟩
  · intro v block
    rw [ofBlock_write, htext]
  · intro other q hq heq
    have hq := parse_text hq
    rw [heq, htext] at hq
    exact (Except.ok.inj hq).symm

theorem parse_normalizes_leading_zeros :
    let p : Protocol := ⟨"HTTP.É", 1, 255⟩
    parse "\thttp.É/0001.0255\u00a0" = .ok p ∧ parse p.text = .ok p ∧
      ofBlock .three (p.write .three ⟨[(":VERSION", "HTTP/1.0")]⟩) = .ok p := by
  intro p
  have hparse : parse "\thttp.É/0001.0255\u00a0" = .ok p := rfl
  obtain ⟨htext, hblock, -⟩ := (parse_normalizes _).2.2 p hparse
  exact ⟨hparse, htext, hblock _ _⟩

example : parse " HTTP/1.256" = .error (.protocol " HTTP/1.256") := rfl

end Demux.Protocol
