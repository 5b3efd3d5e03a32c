import Demux.Message.Opening

namespace Demux

namespace Fault

/-- The fault that a reading ends with. -/
def of? {α : Type} : Except Fault α → Option Fault
  | .ok _ => none
  | .error fault => some fault

variable {α β : Type}

theorem of?_eq_some {x : Except Fault α} {fault : Fault} :
    of? x = some fault ↔ x = .error fault := by
  cases x <;> simp [of?]

theorem of?_eq_none {x : Except Fault α} : of? x = none ↔ ∃ a, x = .ok a := by
  cases x <;> simp [of?]

variable {x : Except Fault α} {checks : List β} {check : β → Option Fault}

theorem exists_ok_iff (h : of? x = checks.findSome? check) :
    (∃ a, x = .ok a) ↔ ∀ c ∈ checks, check c = none := by
  rw [← of?_eq_none, h, List.findSome?_eq_none_iff]

theorem eq_error_iff (h : of? x = checks.findSome? check) (fault : Fault) :
    x = .error fault ↔ checks.findSome? check = some fault := by
  rw [← of?_eq_some, h]

/-- A property that results have and no two of them share says what the result is. -/
theorem eq_ok_iff (h : of? x = checks.findSome? check) {P : α → Prop}
    (holds : ∀ a, x = .ok a → P a) (unique : ∀ a b, P a → P b → a = b) (a : α) :
    x = .ok a ↔ (∀ c ∈ checks, check c = none) ∧ P a := by
  rw [← exists_ok_iff h]
  constructor
  · intro ha
    exact ⟨⟨a, ha⟩, holds a ha⟩
  · rintro ⟨⟨b, hb⟩, hP⟩
    rw [hb, unique b a (holds b hb) hP]

end Fault

namespace StartField

/-- What is wrong with a value of the field. Any scheme and any host will do. -/
def valueFault? : StartField → String → Option Fault
  | method, value => if (Method.parse value).toBool then none else some (.method value)
  | target, value =>
    if value ≠ "" ∧ value.toList.all fun c => !Text.isBlank c && !Text.isControl c then none
    else some (.target value)
  | protocol, value => if (Protocol.parse value).toBool then none else some (.protocol value)
  | status, value => if (Status.parse value).toBool then none else some (.status value)
  | scheme, _ | host, _ => none

/-- What is wrong with a block as to the field: it has no value, or its first value will not do. -/
def fault? (v : Revision) (block : Fields) (field : StartField) : Option Fault :=
  match field.get? v block with
  | none => some (.missing (field.name v))
  | some value => field.valueFault? value

variable {v : Revision} {block : Fields} {field : StartField} {α β : Type}

theorem of?_require_bind {read : String → Except Fault α}
    (h : ∀ value, Fault.of? (read value) = field.valueFault? value) :
    Fault.of? (field.require v block >>= read) = field.fault? v block := by
  rw [require, fault?]
  cases field.get? v block with
  | none => rfl
  | some value => exact h value

theorem require_bind_eq_ok {read : String → Except Fault α} {a : α} :
    (field.require v block >>= read) = .ok a ↔
      ∃ value, field.get? v block = some value ∧ read value = .ok a := by
  rw [require]
  cases field.get? v block with
  | none =>
    constructor
    · intro h
      cases h
    · rintro ⟨_, ⟨⟩, _⟩
  | some value =>
    constructor
    · intro h
      exact ⟨value, rfl, h⟩
    · rintro ⟨_, ⟨⟩, h⟩
      exact h

theorem of?_method : Fault.of? (Method.ofBlock v block) = method.fault? v block := by
  apply of?_require_bind
  intro value
  rw [valueFault?, Method.parse]
  split <;> rfl

theorem of?_target : Fault.of? (Message.targetOf v block) = target.fault? v block := by
  apply of?_require_bind
  intro value
  have htoken : Text.isToken value.toList = true ↔
      value ≠ "" ∧ value.toList.all fun c => !Text.isBlank c && !Text.isControl c := by
    rw [Text.isToken, Bool.and_eq_true, Bool.not_eq_true', ← Bool.not_eq_true, List.isEmpty_iff,
      String.toList_eq_nil_iff]
    rfl
  rw [valueFault?]
  split
  · next h =>
    rw [if_pos (htoken.1 h)]
    rfl
  · next h =>
    rw [if_neg (mt htoken.2 h)]
    rfl

theorem of?_protocol : Fault.of? (Protocol.ofBlock v block) = protocol.fault? v block := by
  apply of?_require_bind
  intro value
  rw [valueFault?, Protocol.parse]
  split <;> rfl

theorem of?_status : Fault.of? (Status.ofBlock v block) = status.fault? v block := by
  apply of?_require_bind
  intro value
  rw [valueFault?, Status.parse]
  split <;> rfl

theorem of?_scheme : Fault.of? (scheme.require v block) = scheme.fault? v block := by
  rw [require, fault?]
  cases scheme.get? v block <;> rfl

theorem of?_host : Fault.of? (Message.hostOf .three block) = host.fault? .three block := by
  apply of?_require_bind
  intro value
  rfl

theorem of?_bind_eq_findSome? {x : Except Fault α} {k : α → Except Fault β}
    {fields : List StartField}
    (hx : Fault.of? x = field.fault? v block)
    (hk : ∀ a, Fault.of? (k a) = fields.findSome? (fault? v block)) :
    Fault.of? (x >>= k) = (field :: fields).findSome? (fault? v block) := by
  rw [List.findSome?_cons, ← hx]
  cases x with
  | error fault => rfl
  | ok a => exact hk a

end StartField

namespace Message

open StartField (of?_bind_eq_findSome?)

variable {v : Revision} {block : Fields}

theorem of?_ofRequestBlock :
    Fault.of? (ofRequestBlock v block) =
      (StartField.ofRequest v).findSome? (StartField.fault? v block) := by
  have hfields : StartField.ofRequest v =
      .method :: .target :: .protocol :: .scheme :: (StartField.ofRequest v).drop 4 := by
    cases v <;> rfl
  rw [hfields]
  refine of?_bind_eq_findSome? StartField.of?_method fun method => ?_
  refine of?_bind_eq_findSome? StartField.of?_target fun target => ?_
  refine of?_bind_eq_findSome? StartField.of?_protocol fun protocol => ?_
  refine of?_bind_eq_findSome? StartField.of?_scheme fun scheme => ?_
  cases v with
  | two => rfl
  | three =>
    refine of?_bind_eq_findSome? StartField.of?_host fun host => ?_
    rfl

theorem of?_ofReplyBlock :
    Fault.of? (ofReplyBlock v block) =
      StartField.ofReply.findSome? (StartField.fault? v block) := by
  refine of?_bind_eq_findSome? StartField.of?_status fun status => ?_
  refine of?_bind_eq_findSome? StartField.of?_protocol fun protocol => ?_
  rfl

end Message

end Demux
