import Demux.Session.Basic

namespace Demux.Session

universe u

variable {τ : Type u} [Store τ]

/-- `Touches id s s'`: operations on the message of stream `id` make `s'` out of `s`. -/
inductive Touches (id : StreamId) (s : Session τ) : Session τ → Prop where
  | refl : Touches id s s
  | put {s' : Session τ} {t : τ} {m : Message} (h : Touches id s s')
      (hput : Store.put s'.pending id m = .ok t) : Touches id s { s' with pending := t }
  | modify {s' : Session τ} (h : Touches id s s') (f : Message → Message) :
      Touches id s { s' with pending := Store.modify s'.pending id f }
  | drop {s' : Session τ} (h : Touches id s s') : Touches id s (s'.drop id)

namespace Touches

variable {id : StreamId} {s s' : Session τ}

theorem keep (h : Touches id s s') (m : Message) : Touches id s (s'.keep id m).1 := by
  simp only [Session.keep]
  split
  · next hput => exact h.put hput
  · exact h

theorem finish (h : Touches id s s') : Touches id s (s'.finish id).1 := by
  simp only [Session.finish]
  split
  · exact h.drop
  · exact h

theorem start (h : Touches id s s') (opening : Except Event Message) (last : Bool) :
    Touches id s (s'.start id opening last).1 := by
  cases opening with
  | error event => exact h
  | ok m =>
    cases last with
    | true => exact h
    | false => exact h.keep m

theorem addHeaders (h : Touches id s s') (block : Fields) (last : Bool) :
    Touches id s (s'.addHeaders id block last).1 := by
  simp only [Session.addHeaders]
  split
  · have hm := h.modify fun m => m.mapHeaders (· ++ block)
    cases last with
    | true => exact hm.finish
    | false => exact hm
  · exact h

theorem addData (h : Touches id s s') (payload : ByteArray) (last : Bool) :
    Touches id s (s'.addData id payload last).1 := by
  simp only [Session.addData]
  split
  · exact h
  · split
    · exact h.drop
    · have hm := h.modify (·.append payload)
      cases last with
      | true => exact hm.finish
      | false => exact hm

theorem abort (h : Touches id s s') (code : ResetCode) : Touches id s (s'.abort id code).1 := by
  simp only [Session.abort]
  split
  · exact h.drop
  · exact h

theorem terms (h : Touches id s s') : s'.terms = s.terms := by
  induction h with
  | refl => rfl
  | put _ _ ih | modify _ _ ih | drop _ ih => exact ih

variable [LawfulStore τ]

open LawfulStore

theorem bounds (h : Touches id s s') : Store.bounds s'.pending = Store.bounds s.pending := by
  induction h with
  | refl => rfl
  | put _ hput ih => exact (bounds_put hput).trans ih
  | modify _ f ih => exact (bounds_modify _ id f).trans ih
  | drop _ ih => exact (bounds_erase _ id).trans ih

theorem pending?_of_ne (h : Touches id s s') {k : StreamId} (hk : k ≠ id) :
    s'.pending? k = s.pending? k := by
  induction h with
  | refl => rfl
  | put _ hput ih => exact ((get?_put hput k).trans (if_neg hk)).trans ih
  | modify _ f ih => exact ((get?_modify _ id f k).trans (if_neg hk)).trans ih
  | drop _ ih => exact ((get?_erase _ id k).trans (if_neg hk)).trans ih

end Touches

theorem react_of_streamId?_eq_none (s : Session τ) {f : Frame} (h : f.streamId? = none) :
    s.react f = (s, [.forwarded f]) := by
  cases f with
  | settings | ping | goAway => rfl
  | synStream | synReply | headers | data | rstStream | windowUpdate => cases h

theorem touches_react (s : Session τ) {f : Frame} {id : StreamId} (h : f.streamId? = some id) :
    Touches id s (s.react f).1 := by
  have hs : Touches id s s := .refl
  cases f with
  | synStream k associated priority block last =>
    cases h
    simp only [react]
    split
    · exact hs.start _ last
    · exact hs.start _ last
  | synReply k block last =>
    cases h
    exact hs.start _ last
  | headers k block last =>
    cases h
    exact hs.addHeaders block last
  | data k payload last =>
    cases h
    exact hs.addData payload last
  | rstStream k code =>
    cases h
    exact hs.abort code
  | windowUpdate => exact hs
  | settings | ping | goAway => cases h

theorem terms_react (s : Session τ) (f : Frame) : (s.react f).1.terms = s.terms := by
  cases hid : f.streamId? with
  | none => rw [s.react_of_streamId?_eq_none hid]
  | some id => exact (s.touches_react hid).terms

theorem revision_react (s : Session τ) (f : Frame) : (s.react f).1.revision = s.revision :=
  congrArg Terms.revision (s.terms_react f)

theorem limit_react (s : Session τ) (f : Frame) : (s.react f).1.limit = s.limit :=
  congrArg Terms.limit (s.terms_react f)

variable [LawfulStore τ]

theorem pending?_drop (s : Session τ) (id k : StreamId) :
    (s.drop id).pending? k = if k = id then none else s.pending? k :=
  LawfulStore.get?_erase s.pending id k

theorem pending?_drop_self (s : Session τ) (id : StreamId) : (s.drop id).pending? id = none :=
  (s.pending?_drop id id).trans (if_pos rfl)

theorem pending?_modify (s : Session τ) (id : StreamId) (f : Message → Message) (k : StreamId) :
    pending? { s with pending := Store.modify s.pending id f } k =
      if k = id then (s.pending? id).map f else s.pending? k :=
  LawfulStore.get?_modify s.pending id f k

theorem bounds_react (s : Session τ) (f : Frame) :
    Store.bounds (s.react f).1.pending = Store.bounds s.pending := by
  cases hid : f.streamId? with
  | none => rw [s.react_of_streamId?_eq_none hid]
  | some id => exact (s.touches_react hid).bounds

theorem pending?_react_of_ne (s : Session τ) {f : Frame} {k : StreamId}
    (h : f.streamId? ≠ some k) : (s.react f).1.pending? k = s.pending? k := by
  cases hid : f.streamId? with
  | none => rw [s.react_of_streamId?_eq_none hid]
  | some id =>
    have hk : k ≠ id := by
      rintro rfl
      exact h hid
    exact (s.touches_react hid).pending?_of_ne hk

end Demux.Session
