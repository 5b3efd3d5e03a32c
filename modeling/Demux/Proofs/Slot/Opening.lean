import Demux.Proofs.Slot.Basic

namespace Demux

/-- `Opens v f id m`: frame `f` opens stream `id` with message `m`, its origin on record. -/
inductive Opens (v : Revision) : Frame → StreamId → Message → Prop where
  | request {id associated : StreamId} {priority : UInt8} {block : Fields} {last : Bool}
      {m : Message} (client : id.isServer = false) (read : Message.ofRequestBlock v block = .ok m) :
      Opens v (.synStream id associated priority block last) id
        (m.mapHeaders (·.set "X-SPDY-Stream-ID" (toString id.number)))
  | push {id associated : StreamId} {priority : UInt8} {block : Fields} {last : Bool}
      {url : String} {m : Message} (server : id.isServer = true)
      (target : StartField.target.get? v block = some url)
      (read : Message.ofReplyBlock v block = .ok m) :
      Opens v (.synStream id associated priority block last) id
        (m.mapHeaders fun headers =>
          (((headers.set "X-SPDY-Stream-ID" (toString id.number)).set
            "X-SPDY-Associated-To-Stream-ID" (toString associated.number)).set
            "X-SPDY-Priority" (toString priority.toNat)).set "X-SPDY-URL" url)
  | reply {id : StreamId} {block : Fields} {last : Bool} {m : Message}
      (read : Message.ofReplyBlock v block = .ok m) :
      Opens v (.synReply id block last) id
        (m.mapHeaders (·.set "X-SPDY-Stream-ID" (toString id.number)))

/-- `Rejects v f id e`: frame `f` would open stream `id`, but is turned down with event `e`. -/
inductive Rejects (v : Revision) : Frame → StreamId → Event → Prop where
  | request {id associated : StreamId} {priority : UInt8} {block : Fields} {last : Bool}
      {fault : Fault} (client : id.isServer = false)
      (unread : Message.ofRequestBlock v block = .error fault) :
      Rejects v (.synStream id associated priority block last) id (.badRequest id fault)
  | pushWithoutUrl {id associated : StreamId} {priority : UInt8} {block : Fields} {last : Bool}
      (server : id.isServer = true) (target : StartField.target.get? v block = none) :
      Rejects v (.synStream id associated priority block last) id (.pushWithoutUrl id)
  | push {id associated : StreamId} {priority : UInt8} {block : Fields} {last : Bool}
      {url : String} {fault : Fault} (server : id.isServer = true)
      (target : StartField.target.get? v block = some url)
      (unread : Message.ofReplyBlock v block = .error fault) :
      Rejects v (.synStream id associated priority block last) id (.badPush id fault)
  | reply {id : StreamId} {block : Fields} {last : Bool} {fault : Fault}
      (unread : Message.ofReplyBlock v block = .error fault) :
      Rejects v (.synReply id block last) id (.badReply id fault)

variable {v : Revision} {f : Frame} {id : StreamId} {m : Message} {e : Event}

theorem Opens.streamId? (h : Opens v f id m) : f.streamId? = some id := by
  cases h with
  | request | push | reply => rfl

theorem Opens.body (h : Opens v f id m) : m.body = .empty := by
  cases h with
  | request _ read => exact (Message.body_of_ofRequestBlock read :)
  | push _ _ read | reply read => exact (Message.body_of_ofReplyBlock read :)

namespace Frame

/-- What a frame opens its stream with, or why it is turned down, if it is an opening frame. -/
def opening? (v : Revision) : Frame → Option (Except Event Message)
  | synStream id associated priority block last =>
    some (if id.isServer then Opening.push v id associated priority block last
      else Opening.request v id block)
  | synReply id block last => some (Opening.reply v id block last)
  | _ => none

/-- The message of an opening frame as it is emitted when the frame is also the last. -/
def sealed : Frame → Message → Message
  | synStream id _ _ _ last, m => if id.isServer then Opening.ended last m else m
  | synReply _ _ last, m => Opening.ended last m
  | _, m => m

/-- What comes of an opening frame ahead of its block. -/
def warnings : Frame → List Event
  | synStream id associated .. => if id.isServer then Opening.pushWarnings id associated else []
  | _ => []

theorem eq_of_mem_warnings (h : e ∈ f.warnings) :
    ∃ id, f.streamId? = some id ∧ e = .pushWithoutStream id := by
  cases f with
  | synStream k associated priority block last =>
    simp only [warnings, Opening.pushWarnings] at h
    split at h
    · split at h
      · exact ⟨k, rfl, List.mem_singleton.1 h⟩
      · cases h
    · cases h
  | synReply | headers | data | rstStream | settings | ping | goAway | windowUpdate => cases h

theorem any_warnings {q : Event → Bool} (hq : ∀ k, q (.pushWithoutStream k) = false) (f : Frame) :
    f.warnings.any q = false := by
  rw [List.any_eq_false]
  intro e he
  obtain ⟨k, -, rfl⟩ := eq_of_mem_warnings he
  rw [hq k]
  exact Bool.false_ne_true

theorem length_warnings_le (f : Frame) : f.warnings.length ≤ 1 := by
  cases f with
  | synStream id associated priority block last =>
    simp only [warnings, Opening.pushWarnings]
    split
    · split
      · exact Nat.le_refl 1
      · exact Nat.zero_le 1
    · exact Nat.zero_le 1
  | synReply | headers | data | rstStream | settings | ping | goAway | windowUpdate =>
    exact Nat.zero_le 1

theorem filterMap_warnings {β : Type} {g : Event → Option β}
    (hg : ∀ k, g (.pushWithoutStream k) = none) (f : Frame) : f.warnings.filterMap g = [] := by
  rw [List.filterMap_eq_nil_iff]
  intro e he
  obtain ⟨k, -, rfl⟩ := eq_of_mem_warnings he
  exact hg k

theorem inbound_warnings (f : Frame) : f.warnings.filterMap Event.inbound? = [] :=
  f.filterMap_warnings fun _ => rfl

theorem sealed_of_not_isLast (h : f.isLast = false) (m : Message) : f.sealed m = m := by
  cases f with
  | synStream =>
    cases h
    simp [sealed, Opening.ended]
  | synReply =>
    cases h
    rfl
  | headers | data | rstStream | settings | ping | goAway | windowUpdate => rfl

theorem sealed_eq (f : Frame) (m : Message) :
    f.sealed m = m ∨ f.sealed m = m.setContentLength 0 := by
  have hended (last : Bool) :
      Opening.ended last m = m ∨ Opening.ended last m = m.setContentLength 0 := by
    cases last with
    | true => exact .inr rfl
    | false => exact .inl rfl
  cases f with
  | synStream id associated priority block last =>
    simp only [sealed]
    split
    · exact hended last
    · exact .inl rfl
  | synReply id block last => exact hended last
  | headers | data | rstStream | settings | ping | goAway | windowUpdate => exact .inl rfl

@[simp] theorem body_sealed (f : Frame) (m : Message) : (f.sealed m).body = m.body := by
  rcases f.sealed_eq m with heq | heq
  · rw [heq]
  · rw [heq]
    rfl

end Frame

theorem Opens.opening? (h : Opens v f id m) : f.opening? v = some (.ok (f.sealed m)) := by
  cases h with
  | request client read =>
    simp only [Frame.opening?, Frame.sealed, client, Opening.request, read]
    rfl
  | push server target read =>
    simp only [Frame.opening?, Frame.sealed, server, Opening.push, target, read]
    rfl
  | reply read =>
    simp only [Frame.opening?, Frame.sealed, Opening.reply, read]
    rfl

theorem Rejects.streamId? (h : Rejects v f id e) : f.streamId? = some id := by
  cases h with
  | request | pushWithoutUrl | push | reply => rfl

theorem Rejects.opening? (h : Rejects v f id e) : f.opening? v = some (.error e) := by
  cases h with
  | request client unread => simp [Frame.opening?, client, Opening.request, unread]
  | pushWithoutUrl server target => simp [Frame.opening?, server, Opening.push, target]
  | push server target unread => simp [Frame.opening?, server, Opening.push, target, unread]
  | reply unread => simp [Frame.opening?, Opening.reply, unread]

theorem Opens.isSome_opening? (h : Opens v f id m) : (f.opening? v).isSome = true := by
  rw [h.opening?]
  rfl

theorem Rejects.isSome_opening? (h : Rejects v f id e) : (f.opening? v).isSome = true := by
  rw [h.opening?]
  rfl

/-- An opening frame has a header block that can be read, or is turned down for it. -/
theorem Frame.opens_or_rejects (h : (f.opening? v).isSome = true) (hid : f.streamId? = some id) :
    (∃ m, Opens v f id m) ∨ ∃ e, Rejects v f id e := by
  cases f with
  | synStream k associated priority block last =>
    cases hid
    cases hk : id.isServer with
    | true =>
      cases ht : StartField.target.get? v block with
      | none => exact .inr ⟨_, .pushWithoutUrl hk ht⟩
      | some url =>
        cases hread : Message.ofReplyBlock v block with
        | ok m => exact .inl ⟨_, .push hk ht hread⟩
        | error fault => exact .inr ⟨_, .push hk ht hread⟩
    | false =>
      cases hread : Message.ofRequestBlock v block with
      | ok m => exact .inl ⟨_, .request hk hread⟩
      | error fault => exact .inr ⟨_, .request hk hread⟩
  | synReply k block last =>
    cases hid
    cases hread : Message.ofReplyBlock v block with
    | ok m => exact .inl ⟨_, .reply hread⟩
    | error fault => exact .inr ⟨_, .reply hread⟩
  | headers | data | rstStream | settings | ping | goAway | windowUpdate => cases h

theorem Slot.react_of_opening (terms : Terms) (full : Option Full) (p : Slot)
    {opening : Except Event Message} (hid : f.streamId? = some id)
    (h : f.opening? terms.revision = some opening) :
    react terms full p f =
      ((start full id p opening f.isLast).1,
        f.warnings ++ (start full id p opening f.isLast).2) := by
  cases f with
  | synStream k associated priority block last =>
    cases hid
    cases h
    simp only [react, Frame.warnings, Frame.isLast]
    split <;> rfl
  | synReply k block last =>
    cases hid
    cases h
    rfl
  | headers | data | rstStream | settings | ping | goAway | windowUpdate => cases h

theorem Slot.react_of_opens {terms : Terms} (full : Option Full) (p : Slot)
    (h : Opens terms.revision f id m) (hlast : f.isLast = false) :
    react terms full p f = ((keep full id p m).1, f.warnings ++ (keep full id p m).2) := by
  rw [react_of_opening terms full p h.streamId? h.opening?, hlast, Frame.sealed_of_not_isLast hlast]
  rfl

namespace Session

variable {τ : Type u} [Store τ] (s : Session τ)

theorem react_of_opening {opening : Except Event Message} (hid : f.streamId? = some id)
    (h : f.opening? s.revision = some opening) :
    s.react f =
      ((s.start id opening f.isLast).1, f.warnings ++ (s.start id opening f.isLast).2) := by
  cases f with
  | synStream k associated priority block last =>
    cases hid
    cases h
    simp only [react, Frame.warnings, Frame.isLast]
    split <;> rfl
  | synReply k block last =>
    cases hid
    cases h
    rfl
  | headers | data | rstStream | settings | ping | goAway | windowUpdate => cases h

theorem react_of_rejects (h : Rejects s.revision f id e) : s.react f = (s, f.warnings ++ [e]) :=
  s.react_of_opening h.streamId? h.opening?

theorem react_of_refused [LawfulStore τ] (h : Opens s.revision f id m) (hlast : f.isLast = false)
    {why : Full} (hroom : Store.refusal? s.pending id = some why) :
    s.react f = (s, f.warnings ++ [.refused id why]) := by
  have hput : Store.put s.pending id m = .error why := Store.put_eq_error_iff.2 hroom
  rw [s.react_of_opening h.streamId? h.opening?, hlast, Frame.sealed_of_not_isLast hlast, start,
    if_neg Bool.false_ne_true, keep, hput]

end Session

end Demux
