import Demux.Store.Basic

namespace Demux.Store

universe u

inductive Operation where
  | put (id : StreamId) (m : Message)
  | get (id : StreamId)
  | modify (id : StreamId) (f : Message → Message)
  | remove (id : StreamId)
  | size
  | isEmpty
  | drain

inductive Answer where
  | replaced (old : Option Message)
  | refused (full : Full)
  | message (m : Option Message)
  | size (n : Nat)
  | isEmpty (b : Bool)
  | ids (ids : List StreamId)
  deriving DecidableEq

variable {τ : Type u} [Store τ]

/-- A message that is replaced, changed or removed is shown as it was before. -/
def perform (t : τ) : Operation → τ × Answer
  | .put id m =>
    match put t id m with
    | .ok t' => (t', .replaced (get? t id))
    | .error full => (t, .refused full)
  | .get id => (t, .message (get? t id))
  | .modify id f => (modify t id f, .message (get? t id))
  | .remove id => (erase t id, .message (get? t id))
  | .size => (t, .size (size t))
  | .isEmpty => (t, .isEmpty (isEmpty t))
  | .drain => (clear t, .ids (ids t))

def run (t : τ) : List Operation → τ × List Answer
  | [] => (t, [])
  | op :: ops =>
    let (t', answer) := perform t op
    let (t'', more) := run t' ops
    (t'', answer :: more)

theorem run_cons (t : τ) (op : Operation) (ops : List Operation) :
    run t (op :: ops) =
      ((run (perform t op).1 ops).1, (perform t op).2 :: (run (perform t op).1 ops).2) := rfl

end Demux.Store
