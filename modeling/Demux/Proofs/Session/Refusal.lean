import Demux.Proofs.Session.Capacity
import Demux.Proofs.Session.Isolation
import Demux.Proofs.Session.Rejection

namespace Demux

universe u v

def Event.isRefusal : Event → Bool
  | refused .. => true
  | _ => false

section Turn

variable {terms : Terms} {full : Option Full} {id : StreamId} {f : Frame} {p p' : Slot}
  {events : List Event}

theorem Cause.of_refused {k : StreamId} {why : Full}
    (h : Cause terms full id f p (.refused k why)) :
    (∃ m, Opens terms.revision f id m) ∧ f.isLast = false ∧ full = some why := by
  cases h with
  | rejected rejects => cases rejects
  | refused opens last room => exact ⟨⟨_, opens⟩, last, room⟩

/-- A frame that is not refused does as it would if there were room for all. -/
theorem Slot.react_of_not_refused (hid : f.streamId? = some id)
    (h : (react terms full p f).2.any Event.isRefusal = false) :
    react terms full p f = react terms none p f := by
  cases hopening : f.opening? terms.revision with
  | none =>
    cases f with
    | synStream | synReply => cases hopening
    | headers | data | rstStream | settings | ping | goAway | windowUpdate => rfl
  | some opening =>
    have hsome := Option.isSome_of_eq_some hopening
    obtain ⟨m, hm⟩ | ⟨e, he⟩ := Frame.opens_or_rejects hsome hid
    · cases hlast : f.isLast with
      | true =>
        rw [react_of_opening terms full p hid hm.opening?,
          react_of_opening terms none p hid hm.opening?, hlast]
        rfl
      | false =>
        cases full with
        | none => rfl
        | some why =>
          rw [react_of_opens _ p hm hlast, List.any_append, Bool.or_eq_false_iff] at h
          cases h.2
    · rw [react_of_opening terms full p hid he.opening?,
        react_of_opening terms none p hid he.opening?]
      rfl

end Turn

namespace Session

section Refused

variable {τ : Type u} [Store τ] [LawfulStore τ]

theorem any_isRefusal_react_iff {s : Session τ} {f : Frame} :
    (s.react f).2.any Event.isRefusal = true ↔
      ∃ id m why, Opens s.revision f id m ∧ f.isLast = false ∧
        Store.refusal? s.pending id = some why := by
  constructor
  · intro h
    obtain ⟨e, he, hrefusal⟩ := List.any_eq_true.1 h
    cases e with
    | refused k why =>
      obtain ⟨-, heq⟩ | ⟨id, -, hcause⟩ := cause_of_mem_react he
      · cases heq
      · obtain ⟨⟨m, hopens⟩, hlast, hroom⟩ := hcause.of_refused
        exact ⟨id, m, why, hopens, hlast, hroom⟩
    | _ => cases hrefusal
  · rintro ⟨id, m, why, hopens, hlast, hroom⟩
    rw [s.react_of_refused hopens hlast hroom]
    simp [Event.isRefusal]

theorem pending?_react_of_isRefusal {s : Session τ} {f : Frame}
    (h : (s.react f).2.any Event.isRefusal = true) (k : StreamId) :
    (s.react f).1.pending? k = s.pending? k := by
  obtain ⟨id, m, why, hopens, hlast, hroom⟩ := any_isRefusal_react_iff.1 h
  rw [s.react_of_refused hopens hlast hroom]

theorem inbound_react_of_isRefusal {s : Session τ} {f : Frame}
    (h : (s.react f).2.any Event.isRefusal = true) :
    (s.react f).2.filterMap Event.inbound? = [] := by
  obtain ⟨id, m, why, hopens, hlast, hroom⟩ := any_isRefusal_react_iff.1 h
  rw [s.react_of_refused hopens hlast hroom, List.filterMap_append, f.inbound_warnings]
  rfl

end Refused

section Bound

variable {τ : Type u} [Store τ] [LawfulStore τ] {s : Session τ} {capacity : Nat}

theorem any_isRefusal_react_iff_full (hs : Store.bounds s.pending = [capacity]) {f : Frame} :
    (s.react f).2.any Event.isRefusal = true ↔
      ∃ id m, Opens s.revision f id m ∧ f.isLast = false ∧ s.isPending id = false ∧
        capacity ≤ s.pendingCount := by
  rw [any_isRefusal_react_iff]
  constructor
  · rintro ⟨id, m, why, hopens, hlast, hroom⟩
    have hfull := (Store.isSome_refusal?_iff hs id).1 (Option.isSome_of_eq_some hroom)
    exact ⟨id, m, hopens, hlast, hfull⟩
  · rintro ⟨id, m, hopens, hlast, hfull⟩
    obtain ⟨why, hroom⟩ := Option.isSome_iff_exists.1 ((Store.isSome_refusal?_iff hs id).2 hfull)
    exact ⟨id, m, why, hopens, hlast, hroom⟩

theorem pendingCount_feed_le (hs : Store.bounds s.pending = [capacity])
    (hle : s.pendingCount ≤ capacity) (fs : List Frame) :
    (s.feed fs).1.pendingCount ≤ capacity := by
  rw [← calls_frames]
  apply pendingCount_calls_le _ hle
  rw [hs]
  exact List.mem_singleton_self capacity

end Bound

section Taken

variable {τ : Type u} [Store τ]

/-- The frames of a run that are not refused, each with what came of it. -/
def taken (s : Session τ) (fs : List Frame) : List (Frame × List Event) :=
  (s.trace fs).filter fun step => !step.2.any Event.isRefusal

theorem taken_cons_of_refused {s : Session τ} {f : Frame}
    (h : (s.react f).2.any Event.isRefusal = true) (fs : List Frame) :
    s.taken (f :: fs) = (s.react f).1.taken fs := by
  rw [taken, trace_cons, List.filter_cons, h]
  rfl

theorem taken_cons_of_not_refused {s : Session τ} {f : Frame}
    (h : (s.react f).2.any Event.isRefusal = false) (fs : List Frame) :
    s.taken (f :: fs) = (f, (s.react f).2) :: (s.react f).1.taken fs := by
  rw [taken, trace_cons, List.filter_cons, h]
  rfl

theorem events_feed (s : Session τ) (fs : List Frame) :
    (s.feed fs).2 = (s.trace fs).flatMap Prod.snd := by
  induction fs generalizing s with
  | nil => rfl
  | cons f fs ih => rw [feed_cons, trace_cons, List.flatMap_cons, ih]

theorem inbound_feed [LawfulStore τ] (s : Session τ) (v : Revision) (fs : List Frame) :
    (Sink.ofEvents v (s.feed fs).2).inbound =
      (Sink.ofEvents v ((s.taken fs).flatMap Prod.snd)).inbound := by
  induction fs generalizing s with
  | nil => rfl
  | cons f fs ih =>
    have hrest := ih (s.react f).1
    simp only [Sink.ofEvents] at hrest ⊢
    rw [feed_cons, List.filterMap_append, hrest]
    cases hf : (s.react f).2.any Event.isRefusal with
    | true => rw [taken_cons_of_refused hf, inbound_react_of_isRefusal hf, List.nil_append]
    | false => rw [taken_cons_of_not_refused hf, List.flatMap_cons, List.filterMap_append]

end Taken

namespace Alike

variable {σ : Type u} {τ : Type v} [Store σ] [Store τ] [LawfulStore σ] [LawfulStore τ]
  {s : Session σ} {t : Session τ}

theorem react_of_not_refused (h : Alike s t) (ht : Store.bounds t.pending = []) {f : Frame}
    (hf : (s.react f).2.any Event.isRefusal = false) :
    Alike (s.react f).1 (t.react f).1 ∧ (s.react f).2 = (t.react f).2 := by
  apply h.react
  intro id hid
  rw [s.events_react hid] at hf
  rw [s.react_slot hid, t.react_slot hid, Slot.react_of_not_refused hid hf,
    Store.refusal?_of_bounds_eq_nil ht, h.terms, h.pending]

omit [LawfulStore τ] in
theorem react_of_refused (h : Alike s t) {f : Frame}
    (hf : (s.react f).2.any Event.isRefusal = true) : Alike (s.react f).1 t where
  terms := (s.terms_react f).trans h.terms
  pending k := (pending?_react_of_isRefusal hf k).trans (h.pending k)

theorem feed_taken (h : Alike s t) (ht : Store.bounds t.pending = []) (fs : List Frame) :
    t.trace ((s.taken fs).map Prod.fst) = s.taken fs ∧
      Alike (s.feed fs).1 (t.feed ((s.taken fs).map Prod.fst)).1 := by
  induction fs generalizing s t with
  | nil => exact ⟨rfl, h⟩
  | cons f fs ih =>
    cases hf : (s.react f).2.any Event.isRefusal with
    | true =>
      rw [taken_cons_of_refused hf]
      exact ih (h.react_of_refused hf) ht
    | false =>
      obtain ⟨hafter, hevents⟩ := h.react_of_not_refused ht hf
      obtain ⟨htrace, hend⟩ := ih hafter ((t.bounds_react f).trans ht)
      rw [taken_cons_of_not_refused hf, List.map_cons, trace_cons, htrace, hevents]
      exact ⟨rfl, hend⟩

theorem events_feed_taken (h : Alike s t) (ht : Store.bounds t.pending = []) (fs : List Frame) :
    (t.feed ((s.taken fs).map Prod.fst)).2 = (s.taken fs).flatMap Prod.snd := by
  rw [events_feed, (h.feed_taken ht fs).1]

theorem pendingCount_react_of_refused (h : Alike s t) (ht : Store.bounds t.pending = [])
    {capacity : Nat} (hs : Store.bounds s.pending = [capacity]) {f : Frame}
    (hf : (s.react f).2.any Event.isRefusal = true) : capacity < (t.react f).1.pendingCount := by
  obtain ⟨id, m, hopens, hlast, hnew, hfull⟩ := (any_isRefusal_react_iff_full hs).1 hf
  rw [h.isPending] at hnew
  rw [h.pendingCount] at hfull
  have hrevision : s.revision = t.revision := congrArg Terms.revision h.terms
  rw [hrevision] at hopens
  have hroom := Store.put_isOk_of_bounds_eq_nil ht id m
  have hkept : (t.react f).1.isPending id = true :=
    congrArg Option.isSome (pending?_react_of_opens hopens hlast hroom)
  have hcount := t.pendingCount_react hopens.streamId?
  rw [hnew, hkept] at hcount
  simp only [Bool.toNat_false, Bool.toNat_true] at hcount
  omega

theorem trace_of_room (h : Alike s t) (ht : Store.bounds t.pending = []) {capacity : Nat}
    (hs : Store.bounds s.pending = [capacity]) {fs : List Frame}
    (hroom : ∀ gs, gs <+: fs → (t.feed gs).1.pendingCount ≤ capacity) :
    s.trace fs = t.trace fs ∧ Alike (s.feed fs).1 (t.feed fs).1 := by
  induction fs generalizing s t with
  | nil => exact ⟨rfl, h⟩
  | cons f fs ih =>
    have hf : (s.react f).2.any Event.isRefusal = false := by
      rw [← Bool.not_eq_true]
      intro hf
      have hle := hroom [f] (List.prefix_append [f] fs)
      exact Nat.not_lt.2 hle (h.pendingCount_react_of_refused ht hs hf)
    obtain ⟨hafter, hevents⟩ := h.react_of_not_refused ht hf
    have hrest : ∀ gs, gs <+: fs → ((t.react f).1.feed gs).1.pendingCount ≤ capacity :=
      fun gs hgs => hroom (f :: gs) (List.prefix_cons_inj f |>.2 hgs)
    obtain ⟨htrace, hend⟩ :=
      ih hafter ((t.bounds_react f).trans ht) ((s.bounds_react f).trans hs) hrest
    rw [trace_cons, trace_cons, hevents, htrace]
    exact ⟨rfl, hend⟩

end Alike

variable {σ : Type u} {τ : Type v} [Store σ] [Store τ] [LawfulStore σ] [LawfulStore τ]

theorem Alike.of_isEmpty {s : Session σ} {t : Session τ} (hterms : s.terms = t.terms)
    (hs : Store.isEmpty s.pending = true) (ht : Store.isEmpty t.pending = true) : Alike s t where
  terms := hterms
  pending id := (Store.isEmpty_iff.1 hs id).trans (Store.isEmpty_iff.1 ht id).symm

/-- A bound does nothing but refuse the frames that would exceed it. -/
theorem bounded_only_refuses {s : Session (Bounded σ)} {t : Session τ} (hterms : s.terms = t.terms)
    (hs : Store.isEmpty s.pending = true) (ht : Store.isEmpty t.pending = true)
    (hsb : Store.bounds s.pending.inner = []) (htb : Store.bounds t.pending = [])
    (fs : List Frame) :
    let taken := s.taken fs
    let rest := taken.map Prod.fst
    t.trace rest = taken ∧
      (∀ id, (s.feed fs).1.pending? id = (t.feed rest).1.pending? id) ∧
      (Sink.ofEvents s.revision (s.feed fs).2).inbound =
        (Sink.ofEvents s.revision (t.feed rest).2).inbound ∧
      (Sink.ofEvents s.revision (s.feed fs).2).outbound =
        (Sink.ofEvents s.revision ((s.trace fs).flatMap Prod.snd)).outbound ∧
      (Sink.ofEvents s.revision (t.feed rest).2).outbound =
        (Sink.ofEvents s.revision (taken.flatMap Prod.snd)).outbound ∧
      (∀ f, ((s.feed fs).1.react f).2.any Event.isRefusal = true ↔
        ∃ id m, Opens s.revision f id m ∧ f.isLast = false ∧
          (s.feed fs).1.isPending id = false ∧
          (s.feed fs).1.pendingCount = s.pending.capacity) ∧
      ((∀ gs, gs <+: fs → (t.feed gs).1.pendingCount ≤ s.pending.capacity) →
        s.trace fs = t.trace fs ∧
          ∀ id, (s.feed fs).1.pending? id = (t.feed fs).1.pending? id) := by
  intro taken rest
  have halike := Alike.of_isEmpty hterms hs ht
  have hbounds : Store.bounds s.pending = [s.pending.capacity] := by
    rw [Bounded.bounds_def, hsb]
  have hevents := halike.events_feed_taken htb fs
  obtain ⟨htrace, hend⟩ := halike.feed_taken htb fs
  refine ⟨htrace, hend.pending, ?_, ?_, ?_, fun f => ?_, fun hroom => ?_⟩
  · rw [hevents, inbound_feed]
  · rw [events_feed]
  · rw [hevents]
  · have hempty : s.pendingCount = 0 := beq_iff_eq.1 hs
    have hle := pendingCount_feed_le hbounds (hempty ▸ Nat.zero_le _) fs
    have hrevision : (s.feed fs).1.revision = s.revision :=
      congrArg Terms.revision (s.terms_feed fs)
    rw [any_isRefusal_react_iff_full ((s.bounds_feed fs).trans hbounds), hrevision,
      Nat.le_antisymm_iff, and_iff_right hle]
  · obtain ⟨hsame, hend⟩ := halike.trace_of_room htb hbounds hroom
    exact ⟨hsame, hend.pending⟩

theorem bounded_only_refuses_second_stream :
    let a := StreamId.ofNat 1
    let b := StreamId.ofNat 3
    let s : Session (Bounded TreeStore) := ⟨⟨.three, 16, by decide⟩, ⟨∅, 1⟩⟩
    let t : Session TreeStore := ⟨⟨.three, 16, by decide⟩, ∅⟩
    let reply (id : StreamId) := Frame.synReply id (Fields.replyBlock .three "200 OK") false
    let fs := [reply a, reply b, .data b ⟨#[1]⟩ false, reply a, .data a ⟨#[2]⟩ true, reply b,
      .data b ⟨#[3]⟩ true]
    let rest := [reply a, .data b ⟨#[1]⟩ false, reply a, .data a ⟨#[2]⟩ true, reply b,
      .data b ⟨#[3]⟩ true]
    Store.isEmpty s.pending = true ∧ Store.isEmpty t.pending = true ∧
      (s.taken fs).map Prod.fst = rest ∧ t.trace rest = s.taken fs ∧
        s.trace rest = t.trace rest := by
  intro a b s t reply fs rest
  have hs : Store.isEmpty s.pending = true := by decide +kernel
  have ht : Store.isEmpty t.pending = true := by decide +kernel
  have hrest : (s.taken fs).map Prod.fst = rest := by decide +kernel
  obtain ⟨htrace, -⟩ := bounded_only_refuses (s := s) (t := t) rfl hs ht rfl rfl fs
  obtain ⟨-, -, -, -, -, -, hsame⟩ := bounded_only_refuses (s := s) (t := t) rfl hs ht rfl rfl rest
  have hroom : ∀ n < 7, (t.feed (rest.take n)).1.pendingCount ≤ 1 := by decide +kernel
  have hprefix : ∀ gs, gs <+: rest → (t.feed gs).1.pendingCount ≤ 1 := by
    intro gs hgs
    rw [List.prefix_iff_eq_take.1 hgs]
    exact hroom _ (Nat.lt_succ_of_le hgs.length_le)
  rw [hrest] at htrace
  exact ⟨hs, ht, hrest, htrace, (hsame hprefix).1⟩

end Session

end Demux
