import Demux.Session.Lemmas

namespace Demux

universe u

namespace Store

variable {τ : Type u} [Store τ]

/-- Why a message would be refused, if its stream is new and the store has no room for it. -/
def refusal? (t : τ) (id : StreamId) : Option Full :=
  if contains t id then none else ((bounds t).find? (· ≤ size t)).map (⟨id, ·⟩)

theorem refusal?_of_bounds_eq_nil {t : τ} (h : bounds t = []) (id : StreamId) :
    refusal? t id = none := by
  simp [refusal?, h]

variable [LawfulStore τ]

theorem put_eq_error_iff {t : τ} {id : StreamId} {m : Message} {full : Full} :
    put t id m = .error full ↔ refusal? t id = some full := by
  rw [LawfulStore.put_eq_error, refusal?, contains]
  cases full with
  | mk k capacity =>
    cases get? t id with
    | some m => simp
    | none => cases (bounds t).find? (· ≤ size t) <;> simp [eq_comm]

theorem put_isOk_iff {t : τ} {id : StreamId} {m : Message} :
    (∃ t', put t id m = .ok t') ↔ refusal? t id = none := by
  constructor
  · rintro ⟨t', ht⟩
    rw [Option.eq_none_iff_forall_ne_some]
    intro full hf
    rw [put_eq_error_iff.2 hf] at ht
    cases ht
  · intro h
    cases hp : put t id m with
    | ok t' => exact ⟨t', rfl⟩
    | error full =>
      rw [put_eq_error_iff.1 hp] at h
      cases h

end Store

/-- The message pending for one stream, if there is one. -/
abbrev Slot : Type := Option Message

namespace Slot

/-- A message takes the place of the one before it, unless the store refuses it. -/
def keep (full : Option Full) (id : StreamId) (p : Slot) (m : Message) : Slot × List Event :=
  match full with
  | none => (some m, if p.isSome then [.replaced id] else [])
  | some full => (p, [.refused id full])

def start (full : Option Full) (id : StreamId) (p : Slot) (opening : Except Event Message)
    (last : Bool) : Slot × List Event :=
  match opening with
  | .ok m => if last then (p, [.emitted id m]) else keep full id p m
  | .error event => (p, [event])

/-- A message stays pending, or is emitted when its stream ends. -/
def goOn (id : StreamId) (m : Message) (last : Bool) : Slot × List Event :=
  if last then (none, [.emitted id (m.setContentLength m.body.size)]) else (some m, [])

def addHeaders (id : StreamId) (p : Slot) (block : Fields) (last : Bool) : Slot × List Event :=
  match p with
  | some m => goOn id (m.mapHeaders (· ++ block)) last
  | none => (none, [.strayHeaders id])

def addData (limit : Nat) (id : StreamId) (p : Slot) (payload : ByteArray) (last : Bool) :
    Slot × List Event :=
  match p with
  | some m =>
    if limit < m.body.size + payload.size then
      (none, [.overflowed ⟨id, m.body.size + payload.size, limit⟩])
    else goOn id (m.append payload) last
  | none => (none, [.strayData id])

def abort (id : StreamId) (p : Slot) (code : ResetCode) : Slot × List Event :=
  match p with
  | some _ => (none, [.aborted id code])
  | none => (none, [])

/-- What a frame does to its stream's message; `full` is the refusal that a new stream meets. -/
def react (terms : Terms) (full : Option Full) (p : Slot) : Frame → Slot × List Event
  | .synStream id associated priority block last =>
    if id.isServer then
      let r := start full id p (Opening.push terms.revision id associated priority block last) last
      (r.1, Opening.pushWarnings id associated ++ r.2)
    else start full id p (Opening.request terms.revision id block) last
  | .synReply id block last => start full id p (Opening.reply terms.revision id block last) last
  | .headers id block last => addHeaders id p block last
  | .data id payload last => addData terms.limit id p payload last
  | .rstStream id code => abort id p code
  | frame => (p, [.forwarded frame])

end Slot

namespace Session

variable {τ : Type u} [Store τ]

/-- What is left pending for a stream after a step, and what came of the step. -/
def slotAfter (id : StreamId) (r : Session τ × List Event) : Slot × List Event :=
  (r.1.pending? id, r.2)

theorem isPending_eq (s : Session τ) (id : StreamId) :
    s.isPending id = (s.pending? id).isSome := rfl

variable [LawfulStore τ]

open LawfulStore

theorem keep_slot (s : Session τ) (id : StreamId) (m : Message) :
    slotAfter id (s.keep id m) =
      Slot.keep (Store.refusal? s.pending id) id (s.pending? id) m := by
  simp only [keep]
  cases hp : Store.put s.pending id m with
  | ok t =>
    have hr := Store.put_isOk_iff.1 ⟨t, hp⟩
    have hg := (get?_put hp id).trans (if_pos rfl)
    rw [hr]
    exact Prod.ext hg rfl
  | error full =>
    rw [Store.put_eq_error_iff.1 hp]
    rfl

theorem start_slot (s : Session τ) (id : StreamId) (opening : Except Event Message)
    (last : Bool) :
    slotAfter id (s.start id opening last) =
      Slot.start (Store.refusal? s.pending id) id (s.pending? id) opening last := by
  cases opening with
  | error event => rfl
  | ok m =>
    cases last with
    | true => rfl
    | false => exact s.keep_slot id m

theorem finish_slot {s : Session τ} {id : StreamId} {m : Message} (h : s.pending? id = some m) :
    slotAfter id (s.finish id) = Slot.goOn id m true := by
  rw [finish, h]
  exact Prod.ext (s.pending?_drop_self id) rfl

theorem modify_slot {s : Session τ} {id : StreamId} {m : Message} (h : s.pending? id = some m)
    (f : Message → Message) (last : Bool) :
    slotAfter id
        (let s' : Session τ := { s with pending := Store.modify s.pending id f }
        if last then s'.finish id else (s', [])) =
      Slot.goOn id (f m) last := by
  have hm : pending? { s with pending := Store.modify s.pending id f } id = some (f m) := by
    rw [pending?_modify, if_pos rfl, h, Option.map_some]
  cases last with
  | true => exact finish_slot hm
  | false => exact Prod.ext hm rfl

theorem addHeaders_slot (s : Session τ) (id : StreamId) (block : Fields) (last : Bool) :
    slotAfter id (s.addHeaders id block last) = Slot.addHeaders id (s.pending? id) block last := by
  rw [addHeaders, isPending_eq]
  cases h : s.pending? id with
  | none => exact Prod.ext h rfl
  | some m => exact modify_slot h (fun m => m.mapHeaders (· ++ block)) last

theorem addData_slot (s : Session τ) (id : StreamId) (payload : ByteArray) (last : Bool) :
    slotAfter id (s.addData id payload last) =
      Slot.addData s.limit id (s.pending? id) payload last := by
  simp only [addData]
  cases h : s.pending? id with
  | none => exact Prod.ext h rfl
  | some m =>
    simp only [Option.map_some, Slot.addData]
    split
    · exact Prod.ext (s.pending?_drop_self id) rfl
    · exact modify_slot h (·.append payload) last

theorem abort_slot (s : Session τ) (id : StreamId) (code : ResetCode) :
    slotAfter id (s.abort id code) = Slot.abort id (s.pending? id) code := by
  rw [abort, isPending_eq]
  cases h : s.pending? id with
  | none => exact Prod.ext h rfl
  | some m => exact Prod.ext (s.pending?_drop_self id) rfl

theorem react_slot (s : Session τ) {f : Frame} {id : StreamId} (h : f.streamId? = some id) :
    slotAfter id (s.react f) =
      Slot.react s.terms (Store.refusal? s.pending id) (s.pending? id) f := by
  cases f with
  | synStream k associated priority block last =>
    cases h
    simp only [react, Slot.react]
    split
    · have hs := s.start_slot id (Opening.push s.revision id associated priority block last) last
      have hp := congrArg Prod.fst hs
      have he := congrArg Prod.snd hs
      exact Prod.ext hp (congrArg (Opening.pushWarnings id associated ++ ·) he)
    · exact s.start_slot id _ last
  | synReply k block last =>
    cases h
    exact s.start_slot id _ last
  | headers k block last =>
    cases h
    exact s.addHeaders_slot id block last
  | data k payload last =>
    cases h
    exact s.addData_slot id payload last
  | rstStream k code =>
    cases h
    exact s.abort_slot id code
  | windowUpdate => rfl
  | settings => cases h
  | ping => cases h
  | goAway => cases h

theorem pending?_react (s : Session τ) {f : Frame} {id : StreamId} (h : f.streamId? = some id) :
    (s.react f).1.pending? id =
      (Slot.react s.terms (Store.refusal? s.pending id) (s.pending? id) f).1 :=
  congrArg Prod.fst (s.react_slot h)

theorem events_react (s : Session τ) {f : Frame} {id : StreamId} (h : f.streamId? = some id) :
    (s.react f).2 = (Slot.react s.terms (Store.refusal? s.pending id) (s.pending? id) f).2 :=
  congrArg Prod.snd (s.react_slot h)

end Session

end Demux
