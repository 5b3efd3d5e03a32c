import Demux.Proofs.StartLine.Text
import Demux.StartLine.Field

namespace Demux.Status

open Text (isBlank isControl trim IsTrimmed splitFirst? splitFirst?_eq_some splitFirst?_eq_none
  digits?_eq_some)

/-- `IsCode cs n`: three digits that make a number from 100 on. -/
structure IsCode (cs : List Char) (n : Nat) : Prop where
  length_eq : cs.length = 3
  isDigit : ∀ c ∈ cs, c.isDigit = true
  value : Nat.ofDigitChars 10 cs 0 = n
  least : 100 ≤ n

/-- The codes that have words of their own. -/
def phrases : List (Nat × String) :=
  [(100, "Continue"), (101, "Switching Protocols"), (102, "Processing"), (200, "OK"),
   (201, "Created"), (202, "Accepted"), (203, "Non-Authoritative Information"),
   (204, "No Content"), (205, "Reset Content"), (206, "Partial Content"), (207, "Multi-Status"),
   (300, "Multiple Choices"), (301, "Moved Permanently"), (302, "Found"), (303, "See Other"),
   (304, "Not Modified"), (305, "Use Proxy"), (307, "Temporary Redirect"), (400, "Bad Request"),
   (401, "Unauthorized"), (402, "Payment Required"), (403, "Forbidden"), (404, "Not Found"),
   (405, "Method Not Allowed"), (406, "Not Acceptable"), (407, "Proxy Authentication Required"),
   (408, "Request Timeout"), (409, "Conflict"), (410, "Gone"), (411, "Length Required"),
   (412, "Precondition Failed"), (413, "Request Entity Too Large"), (414, "Request-URI Too Long"),
   (415, "Unsupported Media Type"), (416, "Requested Range Not Satisfiable"),
   (417, "Expectation Failed"), (422, "Unprocessable Entity"), (423, "Locked"),
   (424, "Failed Dependency"), (426, "Upgrade Required"), (500, "Internal Server Error"),
   (501, "Not Implemented"), (502, "Bad Gateway"), (503, "Service Unavailable"),
   (504, "Gateway Timeout"), (505, "HTTP Version Not Supported"),
   (506, "Variant Also Negotiates"), (507, "Insufficient Storage"), (510, "Not Extended")]

/-- The words for all other codes, by their first digit. -/
def classPhrases : List (Nat × String) :=
  [(1, "Informational"), (2, "Successful"), (3, "Redirection"), (4, "Client Error"),
   (5, "Server Error")]

def phrase (n : Nat) : String :=
  ((phrases.lookup n).or (classPhrases.lookup (n / 100))).getD "Unknown Status"

/-- The line is a code alone, or a code, a space and then the reason, word for word. -/
inductive Reads : List Char → Status → Prop where
  | bare {code : List Char} {n : Nat} (h : IsCode code n) : Reads code ⟨n, phrase n⟩
  | phrase {code : List Char} {n : Nat} (h : IsCode code n) (reason : List Char) :
    Reads (code ++ ' ' :: reason) ⟨n, String.ofList reason⟩

/-- The statuses that are read back from what they are written as. -/
structure IsReadable (s : Status) : Prop where
  least : 100 ≤ s.code
  most : s.code ≤ 999
  ends : ∃ c, s.reason.toList.getLast? = some c ∧ isBlank c = false

/-- Words of a reason: no control character among them, and no blank after them. -/
def isPhrase (cs : List Char) : Bool :=
  !cs.any isControl && cs.getLast?.any fun c => !isBlank c

variable {cs : List Char} {n : Nat} {s : Status} {value : String}

theorem toList_text (s : Status) :
    s.text.toList = Nat.toDigits 10 s.code ++ ' ' :: s.reason.toList := by
  simp [text]

namespace IsCode

theorem toDigits_eq (h : IsCode cs n) : Nat.toDigits 10 n = cs := by
  obtain ⟨hlength, hdigits, rfl, hn⟩ := h
  match cs, hlength with
  | [a, b, c], _ =>
    obtain ⟨ha, hchar⟩ := Text.digitChar_of_isDigit (hdigits a (by simp))
    obtain ⟨hb, -⟩ := Text.digitChar_of_isDigit (hdigits b (by simp))
    obtain ⟨hc, -⟩ := Text.digitChar_of_isDigit (hdigits c (by simp))
    have hvalue :
        100 ≤ 10 * (10 * (10 * 0 + (a.toNat - 48)) + (b.toNat - 48)) + (c.toNat - 48) := hn
    have hpos : 0 < a.toNat - 48 := by omega
    have hrest : ∀ d ∈ [b, c], d.isDigit = true :=
      fun d hd => hdigits d (List.mem_cons_of_mem a hd)
    calc Nat.toDigits 10 (Nat.ofDigitChars 10 [a, b, c] 0)
      _ = Nat.toDigits 10 (Nat.ofDigitChars 10 [b, c] (a.toNat - 48)) := by
        rw [Nat.ofDigitChars_cons, Nat.mul_zero, Nat.zero_add]
        rfl
      _ = Nat.toDigits 10 (a.toNat - 48) ++ [b, c] := Text.toDigits_ofDigitChars hrest hpos
      _ = [a, b, c] := by rw [Nat.toDigits_of_lt_base ha, hchar]; rfl

theorem most (h : IsCode cs n) : n ≤ 999 := by
  have hlength : (Nat.toDigits 10 n).length ≤ 3 := by
    rw [h.toDigits_eq]
    exact Nat.le_of_eq h.length_eq
  exact Nat.le_of_lt_succ ((Nat.length_toDigits_le_iff (by decide) (by decide)).1 hlength)

theorem space_notMem (h : IsCode cs n) : ' ' ∉ cs := by
  intro hspace
  cases h.isDigit ' ' hspace

end IsCode

theorem isCode_toDigits (hleast : 100 ≤ n) (hmost : n ≤ 999) : IsCode (Nat.toDigits 10 n) n := by
  have hle : (Nat.toDigits 10 n).length ≤ 3 :=
    (Nat.length_toDigits_le_iff (by decide) (by decide)).2 (Nat.lt_succ_of_le hmost)
  have hgt : ¬(Nat.toDigits 10 n).length ≤ 2 := by
    rw [Nat.length_toDigits_le_iff (by decide) (by decide)]
    exact Nat.not_lt_of_le hleast
  refine ⟨by omega, ?_, Nat.ofDigitChars_ten_toDigits, hleast⟩
  intro c hc
  exact Nat.isDigit_of_mem_toDigits (by decide) (by decide) hc

theorem code?_eq_some : code? cs = some n ↔ IsCode cs n := by
  rw [code?, Option.ite_none_right_eq_some, Option.filter_eq_some_iff, digits?_eq_some,
    decide_eq_true_iff]
  constructor
  · rintro ⟨hlength, ⟨-, hdigits, hvalue, -⟩, hleast⟩
    exact ⟨hlength, hdigits, hvalue, hleast⟩
  · intro h
    have hne : cs ≠ [] := by
      rintro rfl
      cases h.length_eq
    exact ⟨h.length_eq, ⟨hne, h.isDigit, h.value, h.most⟩, h.least⟩

theorem mem_of_lookup_eq_some {table : List (Nat × String)} {words : String}
    (h : table.lookup n = some words) : (n, words) ∈ table := by
  obtain ⟨before, after, rfl, -⟩ := List.lookup_eq_some_iff.1 h
  simp

theorem reasonOf_of_mem_phrases {p : Nat × String} (h : p ∈ phrases) : reasonOf p.1 = p.2 := by
  have hall : phrases.map (fun p => reasonOf p.1) = phrases.map Prod.snd := rfl
  exact List.map_inj_left.1 hall p h

theorem reasonOf_eq_phrase (n : Nat) : reasonOf n = phrase n := by
  cases h : phrases.lookup n with
  | some words =>
    rw [phrase, h]
    exact reasonOf_of_mem_phrases (mem_of_lookup_eq_some h)
  | none =>
    rw [phrase, h, Option.none_or]
    unfold reasonOf
    split
    -- the last case is the one of the codes without words of their own
    all_goals try cases h
    generalize n / 100 = k
    match k with
    | 0 | 1 | 2 | 3 | 4 | 5 | k + 6 => rfl

theorem ofCode_eq (n : Nat) : ofCode n = ⟨n, phrase n⟩ := by
  rw [ofCode, reasonOf_eq_phrase]

theorem reads_of_ofChars? (h : ofChars? cs = some s) : Reads cs s := by
  rw [ofChars?] at h
  cases hsplit : splitFirst? ' ' cs with
  | some parts =>
    obtain ⟨code, reason⟩ := parts
    obtain ⟨rfl, -⟩ := splitFirst?_eq_some.1 hsplit
    rw [hsplit] at h
    obtain ⟨n, hn, rfl⟩ := Option.map_eq_some_iff.1 h
    exact .phrase (code?_eq_some.1 hn) reason
  | none =>
    rw [hsplit] at h
    obtain ⟨n, hn, rfl⟩ := Option.map_eq_some_iff.1 h
    rw [ofCode_eq]
    exact .bare (code?_eq_some.1 hn)

theorem Reads.ofChars? (h : Reads cs s) : ofChars? cs = some s := by
  cases h with
  | bare h =>
    rw [Status.ofChars?, splitFirst?_eq_none.2 h.space_notMem]
    exact Option.map_eq_some_iff.2 ⟨_, code?_eq_some.2 h, ofCode_eq _⟩
  | phrase h reason =>
    rw [Status.ofChars?, splitFirst?_eq_some.2 ⟨rfl, h.space_notMem⟩]
    exact Option.map_eq_some_iff.2 ⟨_, code?_eq_some.2 h, rfl⟩

theorem ofChars?_eq_some : Status.ofChars? cs = some s ↔ Reads cs s :=
  ⟨reads_of_ofChars?, Reads.ofChars?⟩

theorem parse_eq_ok_iff_reads : parse value = .ok s ↔ Reads (trim value.toList) s :=
  parse_eq_ok.trans ofChars?_eq_some

theorem parse_eq_error_iff_not_reads {fault : Fault} :
    parse value = .error fault ↔ fault = .status value ∧ ∀ s, ¬Reads (trim value.toList) s := by
  rw [parse_eq_error, Option.eq_none_iff_forall_ne_some, and_comm]
  simp only [ne_eq, ofChars?_eq_some]

theorem isPhrase_phrase (n : Nat) : isPhrase (phrase n).toList = true := by
  have hall : ∀ p ∈ phrases ++ classPhrases, isPhrase p.2.toList = true := by
    decide +kernel
  rw [phrase]
  cases h : (phrases.lookup n).or (classPhrases.lookup (n / 100)) with
  | none => rfl
  | some words =>
    have hwords : ∃ k, (k, words) ∈ phrases ++ classPhrases := by
      rcases Option.or_eq_some_iff.1 h with hown | ⟨-, hclass⟩
      · exact ⟨n, List.mem_append_left _ (mem_of_lookup_eq_some hown)⟩
      · exact ⟨n / 100, List.mem_append_right _ (mem_of_lookup_eq_some hclass)⟩
    obtain ⟨k, hk⟩ := hwords
    exact hall (k, words) hk

theorem filter_isControl_of_isPhrase (h : isPhrase cs = true) : cs.filter isControl = [] := by
  rw [isPhrase, Bool.and_eq_true, Bool.not_eq_true', List.any_eq_false] at h
  exact List.filter_eq_nil_iff.2 h.1

theorem ends_of_isPhrase (h : isPhrase cs = true) :
    ∃ c, cs.getLast? = some c ∧ isBlank c = false := by
  rw [isPhrase, Bool.and_eq_true] at h
  obtain ⟨c, hc, hblank⟩ := (Option.any_eq_true _ _).1 h.2
  exact ⟨c, hc, by simpa using hblank⟩

theorem filter_isControl_text (h : parse value = .ok s) :
    s.text.toList.filter isControl = (trim value.toList).filter isControl := by
  have hreads := parse_eq_ok_iff_reads.1 h
  rw [toList_text]
  generalize trim value.toList = line at hreads
  cases hreads with
  | @bare code n hcode =>
    have hdigits := Text.isToken_toDigits n
    have hreason := filter_isControl_of_isPhrase (isPhrase_phrase n)
    rw [← hcode.toDigits_eq, Text.filter_isControl_token hdigits]
    exact (Text.filter_isControl_token_cons hdigits _).trans hreason
  | phrase hcode reason => rw [hcode.toDigits_eq, String.toList_ofList]

theorem isReadable_phrase (hleast : 100 ≤ n) (hmost : n ≤ 999) : IsReadable ⟨n, phrase n⟩ :=
  ⟨hleast, hmost, ends_of_isPhrase (isPhrase_phrase n)⟩

/-- A blank stands before the reason, so that in a trimmed line the reason is not empty. -/
theorem Reads.isReadable (h : Reads cs s) (htrim : IsTrimmed cs) : IsReadable s := by
  cases h with
  | bare h => exact isReadable_phrase h.least h.most
  | @phrase code n h reason =>
    have hlast : (code ++ ' ' :: reason).getLast? = some (reason.getLast?.getD ' ') := by
      rw [List.getLast?_append, List.getLast?_cons]
      rfl
    have hblank := htrim.2 _ hlast
    refine ⟨h.least, h.most, ?_⟩
    rw [String.toList_ofList]
    cases hreason : reason.getLast? with
    | none =>
      rw [hreason] at hblank
      cases hblank
    | some c =>
      rw [hreason] at hblank
      exact ⟨c, rfl, hblank⟩

namespace IsReadable

variable (h : IsReadable s)

include h

theorem isTrimmed_text : IsTrimmed s.text.toList := by
  rw [toList_text]
  constructor
  · intro c hc
    cases hdigits : Nat.toDigits 10 s.code with
    | nil => exact absurd hdigits Nat.toDigits_ne_nil
    | cons d ds =>
      have hd : d ∈ Nat.toDigits 10 s.code := by
        rw [hdigits]
        exact List.mem_cons_self
      rw [hdigits] at hc
      cases hc
      exact Text.isBlank_of_isPlain (Text.isPlain_of_mem_toDigits hd)
  · obtain ⟨d, hd, hblank⟩ := h.ends
    intro c hc
    rw [List.getLast?_append, List.getLast?_cons, hd] at hc
    cases hc
    exact hblank

theorem parse_text : parse s.text = .ok s := by
  rw [parse_eq_ok_iff_reads, h.isTrimmed_text.trim_eq_self, toList_text]
  have hreads := Reads.phrase (isCode_toDigits h.least h.most) s.reason.toList
  rw [String.ofList_toList] at hreads
  exact hreads

end IsReadable

/-- A status is read just from a status line, and again from the text that it has. -/
theorem parse_inverts_text (value : String) :
    (∀ s, parse value = .ok s ↔ Reads (trim value.toList) s) ∧
    (∀ fault, parse value = .error fault ↔
      fault = .status value ∧ ∀ s, ¬Reads (trim value.toList) s) ∧
    ∀ s, (parse value = .ok s ∨ ∃ n, 100 ≤ n ∧ n ≤ 999 ∧ s = ofCode n) →
      parse s.text = .ok s ∧ ∀ v block, ofBlock v (s.write v block) = .ok s := by
  refine ⟨fun s => parse_eq_ok_iff_reads, fun fault => parse_eq_error_iff_not_reads, ?_⟩
  intro s hs
  have hreadable : IsReadable s := by
    obtain hparse | ⟨n, hleast, hmost, rfl⟩ := hs
    · exact (parse_eq_ok_iff_reads.1 hparse).isReadable (Text.isTrimmed_trim _)
    · rw [ofCode_eq]
      exact isReadable_phrase hleast hmost
  refine ⟨hreadable.parse_text, ?_⟩
  intro v block
  rw [ofBlock_write, hreadable.parse_text]

theorem parse_inverts_text_gone_fishing :
    let s : Status := ⟨404, " Gone Fishing"⟩
    parse "\u2003404  Gone Fishing\x0b" = .ok s ∧ parse s.text = .ok s ∧
      ofBlock .two (s.write .two ⟨[("Status", "200"), ("status", "")]⟩) = .ok s ∧
      parse "200" = .ok ⟨200, "OK"⟩ ∧ parse "\t299" = .ok ⟨299, "Successful"⟩ := by
  intro s
  have hparse : parse "\u2003404  Gone Fishing\x0b" = .ok s := rfl
  obtain ⟨htext, hblock⟩ := (parse_inverts_text _).2.2 s (.inl hparse)
  have hok : IsCode ['2', '0', '0'] 200 := code?_eq_some.1 rfl
  have hclass : IsCode ['2', '9', '9'] 299 := code?_eq_some.1 rfl
  exact ⟨hparse, htext, hblock _ _, ((parse_inverts_text "200").1 _).2 (.bare hok),
    ((parse_inverts_text "\t299").1 _).2 (.bare hclass)⟩

example : parse "099 OK\n" = .error (.status "099 OK\n") := rfl

end Demux.Status
