import Demux.Proofs.Message.Origin
import Demux.Proofs.Session.Headers

namespace Demux

universe u

open Text (sameName)

/-- `BegunBy v f id more m`: on record `m` has what `f` opened stream `id` with, then `more`. -/
def BegunBy (v : Revision) (f : Frame) (id : StreamId) (more : Fields) (m : Message) : Prop :=
  ∃ m₀, Opens v f id m₀ ∧
    ∀ n ∈ Origin.names, m.headers.getAll n = m₀.headers.getAll n ++ more.getAll n

/-- `Attributed v f id m`: message `m` reads as one of stream `id`, and as the push that `f` is. -/
structure Attributed (v : Revision) (f : Frame) (id : StreamId) (m : Message) : Prop where
  streamId : Origin.streamId? m.headers = some id
  push {associated : StreamId} {priority : UInt8} {block : Fields} {last : Bool} {url : String}
    (opening : f = .synStream id associated priority block last) (server : id.isServer = true)
    (target : StartField.target.get? v block = some url) :
    Origin.associated m.headers = associated ∧ Origin.priority m.headers = priority ∧
      Origin.url? m.headers = some url

variable {v : Revision} {f : Frame} {id : StreamId} {later : List Frame} {more : Fields}
  {m : Message}

theorem Part.begunBy (h : Part v id (f :: later) m) :
    BegunBy v f id (Frame.allFieldsFor id later) m := by
  obtain ⟨f', later', m₀, hfs, opens, -, rfl⟩ := h.exists_opening
  cases hfs
  exact ⟨m₀, opens, fun n _ => Fields.getAll_append _ _ n⟩

theorem Whole.begunBy (h : Whole v id (f :: later) m) :
    BegunBy v f id (Frame.allFieldsFor id later) m := by
  have hlength : ∀ n ∈ Origin.names, sameName HeaderName.contentLength n = false := by
    decide +kernel
  obtain ⟨f', later', m₀, hfs, opens, -, -, hvalues⟩ := h.exists_first
  cases hfs
  exact ⟨m₀, opens, fun n hn => hvalues n (hlength n hn)⟩

namespace BegunBy

theorem get?_of_getAll (h : BegunBy v f id more m) {n value : String} (hn : n ∈ Origin.names)
    (hopened : ∀ m₀, Opens v f id m₀ → m₀.headers.getAll n = [value]) :
    m.headers.get? n = some value := by
  obtain ⟨m₀, opens, hvalues⟩ := h
  rw [Fields.get?_eq_head?, hvalues n hn, hopened m₀ opens]
  rfl

theorem attributed (h : BegunBy v f id more m) : Attributed v f id m where
  streamId := by
    apply Origin.streamId?_of_get?
    apply h.get?_of_getAll (by simp [Origin.names])
    intro m₀ opens
    exact opens.getAll_streamIdName
  push {associated priority block last url} opening server target := by
    subst opening
    have hassociated := h.get?_of_getAll (n := Origin.associatedName) (by simp [Origin.names])
      fun m₀ opens => (opens.getAll_push server target).1
    have hpriority := h.get?_of_getAll (n := Origin.priorityName) (by simp [Origin.names])
      fun m₀ opens => (opens.getAll_push server target).2.1
    have hurl := h.get?_of_getAll (n := Origin.urlName) (by simp [Origin.names])
      fun m₀ opens => (opens.getAll_push server target).2.2
    exact ⟨Origin.associated_of_get? hassociated, Origin.priority_of_get? hpriority, hurl⟩

theorem getAll_of_not_isPush (h : BegunBy v f id more m) (hf : f.isPush = false) :
    ∀ n ∈ Origin.pushNames, m.headers.getAll n = (f.block ++ more).getAll n := by
  intro n hn
  obtain ⟨m₀, opens, hvalues⟩ := h
  have hname : n ∈ Origin.names := List.mem_cons_of_mem _ hn
  rw [hvalues n hname, opens.getAll_of_not_isPush hf hn, Fields.getAll_append]

end BegunBy

namespace Session

variable {τ : Type u} [Store τ] [LawfulStore τ]

theorem emitted_of_mem_messages {s : Session τ} {w : Revision} (hid : f.streamId? = some id)
    (hm : m ∈ (Sink.ofEvents w (s.react f).2).messages) : .emitted id m ∈ (s.react f).2 := by
  obtain ⟨k, he⟩ := Sink.mem_messages_ofEvents.1 hm
  cases (streamId?_of_mem_react he).trans hid
  exact he

theorem whole_of_mem_messages {s : Session τ} (hs : Store.isEmpty s.pending = true)
    {cs : List Call} {w : Revision} (hid : f.streamId? = some id)
    (hm : m ∈ (Sink.ofEvents w ((s.calls cs).1.react f).2).messages) :
    ∃ before first later, cs ++ [.frame f] = before ++ (first :: later).map .frame ∧
      Whole s.revision id (first :: later) m := by
  obtain ⟨before, fs, hcs, hwhole⟩ := whole_of_react hs (emitted_of_mem_messages hid hm)
  obtain ⟨first, later, m₀, rfl, -⟩ := hwhole.exists_first
  exact ⟨before, first, later, hcs, hwhole⟩

/-- Messages read as of the stream and the push that they are of, whatever the peer writes. -/
theorem origin_of_run {s : Session τ} (hs : Store.isEmpty s.pending = true) (cs : List Call)
    (id : StreamId) :
    let r := (s.calls cs).1
    (∀ m, r.pending? id = some m →
      ∃ before first later, cs = before ++ (first :: later).map .frame ∧
        Part s.revision id (first :: later) m ∧ Attributed s.revision first id m) ∧
    ∀ f : Frame, f.streamId? = some id →
      ∀ m ∈ (Sink.ofEvents s.revision (r.react f).2).messages,
        ∃ before first later, cs ++ [.frame f] = before ++ (first :: later).map .frame ∧
          Whole s.revision id (first :: later) m ∧ Attributed s.revision first id m := by
  intro r
  constructor
  · intro m hm
    obtain ⟨before, fs, hcs, hpart⟩ := part_of_pending hs hm
    obtain ⟨first, later, m₀, rfl, -⟩ := hpart.exists_opening
    exact ⟨before, first, later, hcs, hpart, hpart.begunBy.attributed⟩
  · intro f hid m hm
    obtain ⟨before, first, later, hcs, hwhole⟩ := whole_of_mem_messages hs hid hm
    exact ⟨before, first, later, hcs, hwhole, hwhole.begunBy.attributed⟩

theorem origin_of_run_spoofed_push :
    let id := StreamId.ofNat 2
    let s : Session TreeStore := ⟨⟨.three, 16, by decide⟩, ∅⟩
    let block := Fields.pushBlock .three "200 OK" "/a.css" ++
      ⟨[("x-spdy-stream-id", "9"), ("X-SPDY-URL", "/spoofed"), ("X-Spdy-Priority", "7")]⟩
    let push := Frame.synStream id (.ofNat 1) 3 block false
    let late := Frame.headers id
      ⟨[("X-SPDY-Associated-To-Stream-ID", "5"), ("x-spdy-url", "/late")]⟩ true
    let r := (s.calls [.frame push]).1
    Store.isEmpty s.pending = true ∧
      (∃ m, r.pending? id = some m ∧ Origin.streamId? m.headers = some id) ∧
      ∃ m ∈ (Sink.ofEvents s.revision (r.react late).2).messages,
        Origin.streamId? m.headers = some id ∧ Origin.associated m.headers = .ofNat 1 ∧
          Origin.priority m.headers = 3 ∧ Origin.url? m.headers = some "/a.css" := by
  intro id s block push late r
  have hs : Store.isEmpty s.pending = true := by decide +kernel
  obtain ⟨hpending, hemitted⟩ := origin_of_run hs [.frame push] id
  have hsome : (r.pending? id).isSome = true := by decide +kernel
  obtain ⟨m, hm⟩ := Option.isSome_iff_exists.1 hsome
  obtain ⟨_, _, _, _, _, hattributed⟩ := hpending m hm
  have hone : 0 < (Sink.ofEvents s.revision (r.react late).2).messages.length := by
    decide +kernel
  obtain ⟨m', hm'⟩ := List.exists_mem_of_length_pos hone
  obtain ⟨before, first, later, hcs, hwhole, hpushed⟩ := hemitted late rfl m' hm'
  have hfirst : first = push := by
    have hmem : Call.frame first ∈ [Call.frame push, .frame late] := by
      rw [show [Call.frame push, .frame late] = _ from hcs]
      simp
    obtain ⟨m₀, opens, -⟩ := hwhole.begunBy
    rcases List.mem_cons.1 hmem with heq | hlate
    · exact Call.frame.inj heq
    · cases Call.frame.inj (List.mem_singleton.1 hlate)
      exact absurd opens.isSome_opening? Bool.false_ne_true
  have htarget : StartField.target.get? s.revision block = some "/a.css" := by decide +kernel
  obtain ⟨hassociated, hpriority, hurl⟩ := hpushed.push hfirst (by decide +kernel) htarget
  exact ⟨hs, ⟨m, hm, hattributed.streamId⟩, m', hm', hpushed.streamId, hassociated, hpriority,
    hurl⟩

/-- In a message that was not pushed, all that reads as of a push is the peer's. -/
theorem push_origin_of_unpushed {s : Session τ} (hs : Store.isEmpty s.pending = true)
    (cs : List Call) {f : Frame} {id : StreamId} (hid : f.streamId? = some id) :
    ∀ m ∈ (Sink.ofEvents s.revision ((s.calls cs).1.react f).2).messages,
      ∃ before first later, cs ++ [.frame f] = before ++ (first :: later).map .frame ∧
        Whole s.revision id (first :: later) m ∧ (first.isPush = false →
          let given := first.block ++ Frame.allFieldsFor id later
          (Origin.associated m.headers = Origin.associated given ∧
            Origin.priority m.headers = Origin.priority given ∧
            Origin.url? m.headers = Origin.url? given) ∧
          ((∀ n ∈ Origin.pushNames, given.getAll n = []) →
            Origin.associated m.headers = .zero ∧ Origin.priority m.headers = 0 ∧
              Origin.url? m.headers = none)) := by
  intro m hm
  obtain ⟨before, first, later, hcs, hwhole⟩ := whole_of_mem_messages hs hid hm
  refine ⟨before, first, later, hcs, hwhole, fun hfirst => ?_⟩
  have hvalues := hwhole.begunBy.getAll_of_not_isPush hfirst
  refine ⟨Origin.push_congr hvalues, fun hnone => ?_⟩
  apply Origin.push_of_getAll_eq_nil
  intro n hn
  rw [hvalues n hn, hnone n hn]

theorem push_origin_of_unpushed_request :
    let id := StreamId.ofNat 1
    let s : Session TreeStore := ⟨⟨.two, 16, by decide⟩, ∅⟩
    let block := (Fields.requestBlock .two "GET" "/").insert "x-spdy-priority" "5"
    let request := Frame.request id block false
    let late := Frame.headers id ⟨[("X-SPDY-Priority", "2"), ("X-SPDY-URL", "/late")]⟩ true
    let r := (s.calls [.frame request]).1
    Store.isEmpty s.pending = true ∧ late.streamId? = some id ∧
      ∃ m ∈ (Sink.ofEvents s.revision (r.react late).2).messages,
        Origin.associated m.headers = .zero ∧ Origin.priority m.headers = 5 ∧
          Origin.url? m.headers = some "/late" := by
  intro id s block request late r
  have hs : Store.isEmpty s.pending = true := by decide +kernel
  have hone : 0 < (Sink.ofEvents s.revision (r.react late).2).messages.length := by
    decide +kernel
  obtain ⟨m, hm⟩ := List.exists_mem_of_length_pos hone
  obtain ⟨before, first, later, hcs, hwhole, hunpushed⟩ :=
    push_origin_of_unpushed hs [.frame request] (f := late) rfl m hm
  obtain ⟨m₀, opens, -⟩ := hwhole.begunBy
  cases before with
  | nil =>
    obtain ⟨hrequest, hlater⟩ := List.cons.inj hcs
    cases Call.frame.inj hrequest
    have hlate : later = [late] := (List.map_inj_right fun _ _ => Call.frame.inj).1 hlater.symm
    subst hlate
    obtain ⟨⟨hassociated, hpriority, hurl⟩, -⟩ := hunpushed rfl
    exact ⟨hs, rfl, m, hm, hassociated.trans (by decide +kernel),
      hpriority.trans (by decide +kernel), hurl.trans (by decide +kernel)⟩
  | cons c before =>
    -- a message does not begin with a frame that goes on with one
    obtain ⟨-, hrest⟩ := List.cons.inj hcs
    have hmem : Call.frame first ∈ [Call.frame late] := by
      rw [show [Call.frame late] = _ from hrest]
      simp
    cases Call.frame.inj (List.mem_singleton.1 hmem)
    exact absurd opens.isSome_opening? Bool.false_ne_true

theorem reply_emitted_as_pushed :
    let id := StreamId.ofNat 1
    let s : Session TreeStore := ⟨⟨.three, 16, by decide⟩, ∅⟩
    let block := Fields.replyBlock .three "200 OK" ++
      ⟨[("X-SPDY-Associated-To-Stream-ID", "7"), ("x-spdy-priority", "3")]⟩
    let late : Fields := ⟨[("X-SPDY-URL", "/spoofed")]⟩
    let cs := [Frame.synReply id block false].map Call.frame
    Store.isEmpty s.pending = true ∧
      ∃ m ∈ (Sink.ofEvents s.revision ((s.calls cs).1.react (.headers id late true)).2).messages,
        Origin.associated m.headers = .ofNat 7 ∧ Origin.priority m.headers = 3 ∧
          Origin.url? m.headers = some "/spoofed" := by
  decide +kernel

end Session

end Demux
