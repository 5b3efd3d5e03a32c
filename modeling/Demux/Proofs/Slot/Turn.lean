import Demux.Proofs.Slot.Opening

namespace Demux

universe u

/-- `Turn terms full id f p p' events`: `f` leaves `p'` for stream `id` in the place of `p`. -/
inductive Turn (terms : Terms) (full : Option Full) (id : StreamId) :
    Frame → Slot → Slot → List Event → Prop where
  | rejected {f : Frame} {p : Slot} {event : Event}
      (rejects : Rejects terms.revision f id event) :
      Turn terms full id f p p (f.warnings ++ [event])
  | answered {f : Frame} {p : Slot} {m : Message}
      (opens : Opens terms.revision f id m) (last : f.isLast = true) :
      Turn terms full id f p p (f.warnings ++ [.emitted id (f.sealed m)])
  | refused {f : Frame} {p : Slot} {m : Message} {why : Full}
      (opens : Opens terms.revision f id m) (last : f.isLast = false)
      (room : full = some why) :
      Turn terms full id f p p (f.warnings ++ [.refused id why])
  | kept {f : Frame} {m : Message}
      (opens : Opens terms.revision f id m) (last : f.isLast = false)
      (room : full = none) :
      Turn terms full id f none (some m) f.warnings
  | replaced {f : Frame} {old m : Message}
      (opens : Opens terms.revision f id m) (last : f.isLast = false)
      (room : full = none) :
      Turn terms full id f (some old) (some m) (f.warnings ++ [.replaced id])
  | strayHeaders {block : Fields} {last : Bool} :
      Turn terms full id (.headers id block last) none none [.strayHeaders id]
  | strayData {payload : ByteArray} {last : Bool} :
      Turn terms full id (.data id payload last) none none [.strayData id]
  | addedHeaders {m : Message} {block : Fields} :
      Turn terms full id (.headers id block false) (some m)
        (some (m.mapHeaders (· ++ block))) []
  | addedData {m : Message} {payload : ByteArray}
      (fits : m.body.size + payload.size ≤ terms.limit) :
      Turn terms full id (.data id payload false) (some m) (some (m.append payload)) []
  | endedByHeaders {m : Message} {block : Fields} :
      Turn terms full id (.headers id block true) (some m) none
        [.emitted id ((m.mapHeaders (· ++ block)).setContentLength m.body.size)]
  | endedByData {m : Message} {payload : ByteArray}
      (fits : m.body.size + payload.size ≤ terms.limit) :
      Turn terms full id (.data id payload true) (some m) none
        [.emitted id ((m.append payload).setContentLength (m.append payload).body.size)]
  | overflowed {m : Message} {payload : ByteArray} {last : Bool}
      (exceeds : terms.limit < m.body.size + payload.size) :
      Turn terms full id (.data id payload last) (some m) none
        [.overflowed ⟨id, m.body.size + payload.size, terms.limit⟩]
  | aborted {m : Message} {code : ResetCode} :
      Turn terms full id (.rstStream id code) (some m) none [.aborted id code]
  | idle {code : ResetCode} :
      Turn terms full id (.rstStream id code) none none []
  | forwarded {p : Slot} {delta : UInt32} :
      Turn terms full id (.windowUpdate id delta) p p [.forwarded (.windowUpdate id delta)]

namespace Slot

variable (terms : Terms) (full : Option Full) (p : Slot)

theorem turn_of_opening {f : Frame} {id : StreamId} (hid : f.streamId? = some id)
    (ho : (f.opening? terms.revision).isSome = true) :
    Turn terms full id f p (react terms full p f).1 (react terms full p f).2 := by
  obtain ⟨m, hm⟩ | ⟨event, he⟩ := Frame.opens_or_rejects ho hid
  · rw [react_of_opening terms full p hid hm.opening?]
    cases hl : f.isLast with
    | true => exact .answered hm hl
    | false =>
      rw [Frame.sealed_of_not_isLast hl]
      cases full with
      | some why => exact .refused hm hl rfl
      | none =>
        cases p with
        | none => simpa [start, keep] using Turn.kept hm hl rfl
        | some old => exact .replaced hm hl rfl
  · rw [react_of_opening terms full p hid he.opening?]
    exact .rejected he

theorem turn_of_headers (id : StreamId) (block : Fields) (last : Bool) :
    Turn terms full id (.headers id block last) p (addHeaders id p block last).1
      (addHeaders id p block last).2 := by
  cases p with
  | none => exact .strayHeaders
  | some m =>
    cases last with
    | true => exact .endedByHeaders
    | false => exact .addedHeaders

theorem turn_of_data (id : StreamId) (payload : ByteArray) (last : Bool) :
    Turn terms full id (.data id payload last) p (addData terms.limit id p payload last).1
      (addData terms.limit id p payload last).2 := by
  cases p with
  | none => exact .strayData
  | some m =>
    by_cases hover : terms.limit < m.body.size + payload.size
    · simp only [addData, if_pos hover]
      exact .overflowed hover
    · simp only [addData, if_neg hover]
      have hfits := Nat.le_of_not_lt hover
      cases last with
      | true => exact .endedByData hfits
      | false => exact .addedData hfits

theorem turn {f : Frame} {id : StreamId} (hid : f.streamId? = some id) :
    Turn terms full id f p (react terms full p f).1 (react terms full p f).2 := by
  cases f with
  | synStream | synReply => exact turn_of_opening terms full p hid rfl
  | headers k block last =>
    cases hid
    exact turn_of_headers terms full p id block last
  | data k payload last =>
    cases hid
    exact turn_of_data terms full p id payload last
  | rstStream k code =>
    cases hid
    cases p with
    | none => exact .idle
    | some m => exact .aborted
  | windowUpdate k delta =>
    cases hid
    exact .forwarded
  | settings | ping | goAway => cases hid

end Slot

theorem Session.turn {τ : Type u} [Store τ] [LawfulStore τ] (s : Session τ) {f : Frame}
    {id : StreamId} (hid : f.streamId? = some id) :
    Turn s.terms (Store.refusal? s.pending id) id f (s.pending? id)
      ((s.react f).1.pending? id) (s.react f).2 := by
  rw [s.pending?_react hid, s.events_react hid]
  exact Slot.turn _ _ _ hid

end Demux
