import Demux.Session.Run

namespace Demux

universe u

inductive Call where
  | frame (f : Frame)
  | close
  deriving DecidableEq

namespace Session

variable {τ : Type u} [Store τ]

def call (s : Session τ) : Call → Session τ × List Event
  | .frame f => s.react f
  | .close => (s.close.1, s.close.2.2)

/-- Goes through all calls, overflows or not. -/
def calls (s : Session τ) : List Call → Session τ × List Event
  | [] => (s, [])
  | c :: cs =>
    let (s', events) := s.call c
    let (s'', more) := s'.calls cs
    (s'', events ++ more)

@[simp] theorem calls_nil (s : Session τ) : s.calls [] = (s, []) := rfl

theorem calls_cons (s : Session τ) (c : Call) (cs : List Call) :
    s.calls (c :: cs) =
      (((s.call c).1.calls cs).1, (s.call c).2 ++ ((s.call c).1.calls cs).2) := rfl

theorem calls_append (s : Session τ) (cs ds : List Call) :
    s.calls (cs ++ ds) =
      (((s.calls cs).1.calls ds).1, (s.calls cs).2 ++ ((s.calls cs).1.calls ds).2) := by
  induction cs generalizing s with
  | nil => rfl
  | cons c cs ih => simp [calls_cons, ih]

theorem calls_frames (s : Session τ) (fs : List Frame) : s.calls (fs.map .frame) = s.feed fs := by
  induction fs generalizing s with
  | nil => rfl
  | cons f fs ih =>
    rw [List.map_cons, calls_cons, ih, feed_cons]
    rfl

theorem exists_frame_of_emitted {s : Session τ} {c : Call} {id : StreamId} {m : Message}
    (h : .emitted id m ∈ (s.call c).2) : ∃ f, c = .frame f ∧ .emitted id m ∈ (s.react f).2 := by
  cases c with
  | frame f => exact ⟨f, rfl, h⟩
  | close =>
    simp only [call, close] at h
    split at h
    · cases h
    · cases List.mem_singleton.1 h

theorem sink_close (s : Session τ) (v : Revision) : Sink.ofEvents v s.close.2.2 = ∅ := by
  simp only [close]
  split <;> rfl

theorem terms_call (s : Session τ) (c : Call) : (s.call c).1.terms = s.terms := by
  cases c with
  | frame f => exact s.terms_react f
  | close => rfl

theorem terms_calls (s : Session τ) (cs : List Call) : (s.calls cs).1.terms = s.terms := by
  induction cs generalizing s with
  | nil => rfl
  | cons c cs ih => exact (ih _).trans (s.terms_call c)

theorem revision_call (s : Session τ) (c : Call) : (s.call c).1.revision = s.revision :=
  congrArg Terms.revision (s.terms_call c)

theorem revision_calls (s : Session τ) (cs : List Call) : (s.calls cs).1.revision = s.revision :=
  congrArg Terms.revision (s.terms_calls cs)

theorem limit_calls (s : Session τ) (cs : List Call) : (s.calls cs).1.limit = s.limit :=
  congrArg Terms.limit (s.terms_calls cs)

variable [LawfulStore τ]

theorem bounds_call (s : Session τ) (c : Call) :
    Store.bounds (s.call c).1.pending = Store.bounds s.pending := by
  cases c with
  | frame f => exact s.bounds_react f
  | close => exact LawfulStore.bounds_clear _

theorem bounds_calls (s : Session τ) (cs : List Call) :
    Store.bounds (s.calls cs).1.pending = Store.bounds s.pending := by
  induction cs generalizing s with
  | nil => rfl
  | cons c cs ih => exact (ih _).trans (s.bounds_call c)

theorem pending?_close (s : Session τ) (id : StreamId) : s.close.1.pending? id = none :=
  LawfulStore.get?_clear s.pending id

theorem mem_ids_close {s : Session τ} {id : StreamId} :
    id ∈ s.close.2.1 ↔ s.isPending id = true :=
  LawfulStore.mem_ids

end Session

end Demux
