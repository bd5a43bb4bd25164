/-
  File:      Gem5Sc/Modules/ReturnPath.lean
  Subject:   WHICH UPSTREAM PORT A RESPONSE LEAVES THROUGH: a CacheSim or a Router between `m`
             upstream and `n` downstream ports, on every run.

  The surroundings are free: requests arrive on any port, `sendReq` is answered in any way, what
  has been forwarded is answered in any order, and pending events run in any order.

  Neither module keeps where a request came from. Both derive the upstream port of a response
  from the index of the downstream port that delivered it (`homePort`), so the response goes home
  exactly when the two indices happen to agree (`AnswersHome`).
-/
import Gem5Sc.Modules
import Gem5Sc.Library.Runs

namespace Gem5Sc

/-- A module that forwards requests and passes responses back. -/
inductive Relay where
  | cache (m : CacheSim)
  | router
  deriving Repr

/-- The surroundings of the module, with their history. -/
structure Outside where
  /-- The answer of the next `sendReq`. -/
  accept : Bool := true
  /-- Forwarded and not answered yet: the request and the downstream port that took it. -/
  forwarded : List (PacketId × Nat) := []
  pending : List Deferred := []
  /-- The responses sent upstream, each with its port. -/
  upstream : List (PacketId × Nat) := []

namespace Outside

def context (m n : Nat) (now : UInt64) : Context Outside where
  now := now
  upstream := m
  downstream := n
  sendReq i p w :=
    if w.2.accept then (true, (w.1, { w.2 with forwarded := w.2.forwarded ++ [(p, i)] }))
    else (false, w)
  sendResp j p w := (true, (w.1, { w.2 with upstream := w.2.upstream ++ [(p, j)] }))
  tickUpstream _ w := w
  tickDownstream _ w := w
  schedule e _ o := { o with pending := o.pending ++ [e] }

/-- Every response on its way: sent, or due in a pending event. -/
def outgoing (o : Outside) : List (PacketId × Nat) :=
  o.upstream ++ o.pending.filterMap fun e => match e with
    | .respond j p => some (p, j)
    | .tryForward => none

end Outside

/-- A module with its surroundings. -/
structure Responder where
  heap : Heap := {}
  relay : Relay
  outside : Outside := {}
  /-- Every request that has arrived, with its upstream port. -/
  arrived : List (PacketId × Nat) := []

namespace Responder

inductive Action where
  /-- A new request with its payload on an upstream port; `accept` answers a `sendReq` made at
      once. -/
  | request (t : Payload) (pkt : Packet) (port : Nat) (now : UInt64) (accept : Bool)
  | tick (now : UInt64) (accept : Bool)
  /-- The `k`-th pending event. -/
  | fire (k : Nat) (now : UInt64) (accept : Bool)
  /-- The response `resp` to the `k`-th forwarded request. -/
  | answer (k : Nat) (resp : Packet) (now : UInt64)

variable (m n : Nat)

/-- `handleUpstreamRequest` of the module. -/
def handleRequest (c : Context Outside) (r : Relay) (p : PacketId) (src : Nat)
    (w : Heap × Outside) : Relay × (Heap × Outside) :=
  match r with
  | .cache x => let y := x.handleUpstreamRequest c p src w; (.cache y.2.1, y.2.2)
  | .router => (.router, (Router.handleUpstreamRequest c p w).2)

/-- `handleDownstreamResponse` of the module. -/
def handleResponse (c : Context Outside) (r : Relay) (p : PacketId) (src : Nat)
    (w : Heap × Outside) : Relay × (Heap × Outside) :=
  match r with
  | .cache x => let y := x.handleDownstreamResponse c p src w; (.cache y.2.1, y.2.2)
  | .router => (.router, (Router.handleDownstreamResponse c p src w).2)

/-- `tryForward`, from a tick or from a pending event. -/
def forward (c : Context Outside) (r : Relay) (w : Heap × Outside) : Relay × (Heap × Outside) :=
  match r with
  | .cache x => let y := x.tryForward c w; (.cache y.2.1, y.2.2)
  | .router => (.router, w)

/-- Put back what a handler has returned. -/
def after (s : Responder) (r : Relay × (Heap × Outside)) : Responder :=
  { s with heap := r.2.1, relay := r.1, outside := r.2.2 }

def step (s : Responder) : Action → Responder
  | .request t pkt port now accept =>
      if port < m then
        let x := s.heap.newRequest t pkt
        { s with arrived := s.arrived ++ [(x.1, port)] }.after
          (handleRequest (Outside.context m n now) s.relay x.1 port
            (x.2, { s.outside with accept := accept }))
      else s
  | .tick now accept =>
      s.after (forward (Outside.context m n now) s.relay
        (s.heap, { s.outside with accept := accept }))
  | .fire k now accept =>
      let o := { s.outside with accept := accept, pending := s.outside.pending.eraseIdx k }
      match s.outside.pending[k]? with
      | none => s
      | some .tryForward => s.after (forward (Outside.context m n now) s.relay (s.heap, o))
      | some (.respond j p) =>
          s.after (s.relay, ((Outside.context m n now).sendResp j p (s.heap, o)).2)
  | .answer k resp now =>
      match s.outside.forwarded[k]? with
      | none => s
      | some (r, i) =>
          let x := s.heap.new { resp with originalReq := some r }
          let o := { s.outside with forwarded := s.outside.forwarded.eraseIdx k }
          s.after (handleResponse (Outside.context m n now) s.relay x.1 i (x.2, o))

/-- Every response on its way goes to the port its request came from. -/
def Returned (s : Responder) : Prop :=
  ∀ e ∈ s.outside.outgoing, ∀ r, (s.heap.packet e.1).originalReq = some r → (r, e.2) ∈ s.arrived

/-- The upstream port the module picks for a response from downstream port `i`, if it sends it. -/
def homePort (s : Responder) (i : Nat) : Option Nat :=
  match s.relay with
  | .cache _ => some (i % m)
  | .router => if i < m then some i else none

/-- An answered request had arrived on the port the module picks, or none is picked. -/
def AnswersHome (s : Responder) : Action → Prop
  | .answer k _ _ => ∀ r i, s.outside.forwarded[k]? = some (r, i) →
      ∀ j, s.homePort m i = some j → (r, j) ∈ s.arrived
  | _ => True

/-! ## 1. What a step adds to the responses on their way -/

/-- From `w` to `w'` no packet changes its `original_req`, and every response that is new on its
    way answers a request `r` through a port `j` with `F r j`. -/
structure Adds (F : PacketId → Nat → Prop) (w w' : Heap × Outside) : Prop where
  next : w.1.nextPacket ≤ w'.1.nextPacket
  old : ∀ q, q < w.1.nextPacket → (w'.1.packet q).originalReq = (w.1.packet q).originalReq
  out : ∀ e ∈ w'.2.outgoing, e ∈ w.2.outgoing ∨
    e.1 < w'.1.nextPacket ∧ ∃ r, (w'.1.packet e.1).originalReq = some r ∧ F r e.2

theorem Adds.trans {F : PacketId → Nat → Prop} {w₁ w₂ w₃ : Heap × Outside} (h12 : Adds F w₁ w₂)
    (h23 : Adds F w₂ w₃) : Adds F w₁ w₃ where
  next := Nat.le_trans h12.next h23.next
  old q hq := (h23.old q (Nat.lt_of_lt_of_le hq h12.next)).trans (h12.old q hq)
  out e he := by
    rcases h23.out e he with he | he
    · rcases h12.out e he with he | ⟨hlt, r, hr, hF⟩
      · exact Or.inl he
      · exact Or.inr ⟨Nat.lt_of_lt_of_le hlt h23.next, r, (h23.old _ hlt).trans hr, hF⟩
    · exact Or.inr he

/-- A step that issues packets and adds no response. -/
theorem adds_of_issue {F : PacketId → Nat → Prop} {w w' : Heap × Outside}
    (hn : w.1.nextPacket ≤ w'.1.nextPacket)
    (hp : ∀ q, q < w.1.nextPacket → w'.1.packet q = w.1.packet q)
    (ho : ∀ e ∈ w'.2.outgoing, e ∈ w.2.outgoing) : Adds F w w' :=
  ⟨hn, fun q hq => by rw [hp q hq], fun e he => Or.inl (ho e he)⟩

/-- A step that issues no packet and adds no response. -/
theorem adds_of_same {F : PacketId → Nat → Prop} {w w' : Heap × Outside}
    (hn : w'.1.nextPacket = w.1.nextPacket) (hp : w'.1.packet = w.1.packet)
    (ho : ∀ e ∈ w'.2.outgoing, e ∈ w.2.outgoing) : Adds F w w' :=
  adds_of_issue (Nat.le_of_eq hn.symm) (fun q _ => by rw [hp]) ho

theorem outgoing_respond (o : Outside) (j : Nat) (p : PacketId) :
    ({ o with pending := o.pending ++ [.respond j p] } : Outside).outgoing =
      o.outgoing ++ [(p, j)] := by
  simp [Outside.outgoing]

theorem outgoing_tryForward (o : Outside) :
    ({ o with pending := o.pending ++ [.tryForward] } : Outside).outgoing = o.outgoing := by
  simp [Outside.outgoing]

/-- A response scheduled for request `r` and port `j`, whatever is deleted afterwards. -/
theorem adds_respond (h : Heap) (o : Outside) (now : UInt64) (r : PacketId) (vcId : Int) (j : Nat)
    (h' : Heap) (hn : h'.nextPacket = (h.newResp now r vcId).2.nextPacket)
    (hp : h'.packet = (h.newResp now r vcId).2.packet) :
    Adds (fun r' j' => r' = r ∧ j' = j) (h, o)
      (h', { o with pending := o.pending ++ [.respond j (h.newResp now r vcId).1] }) := by
  refine ⟨?_, fun q hq => ?_, fun e he => ?_⟩
  · rw [hn]
    exact Nat.le_succ _
  · rw [hp, Heap.newResp, Heap.new_packet_of_lt _ _ hq]
  · rw [outgoing_respond, List.mem_append, List.mem_singleton] at he
    rcases he with he | rfl
    · exact Or.inl he
    · refine Or.inr ⟨?_, r, ?_, rfl, rfl⟩
      · rw [hn]
        exact Nat.lt_succ_self _
      · rw [hp, Heap.newResp, Heap.new_fst, Heap.new_packet_self]

variable {m n}

theorem adds_tryForward (F : PacketId → Nat → Prop) (now : UInt64) (x : CacheSim)
    (w : Heap × Outside) : Adds F w (x.tryForward (Outside.context m n now) w).2.2 := by
  unfold CacheSim.tryForward
  split
  · exact adds_of_same rfl rfl fun _ => id
  · split
    · exact adds_of_same rfl rfl fun _ => id
    · simp only [Outside.context]
      cases w.2.accept <;> exact adds_of_same rfl rfl fun _ => id

theorem adds_forward (F : PacketId → Nat → Prop) (now : UInt64) (r : Relay) (w : Heap × Outside) :
    Adds F w (forward (Outside.context m n now) r w).2 := by
  cases r with
  | cache x => exact adds_tryForward F now x w
  | router => exact adds_of_same rfl rfl fun _ => id

/-- A request is answered through its own port, or not yet. -/
theorem adds_handleRequest (now : UInt64) (r : Relay) (p : PacketId) (src : Nat)
    (w : Heap × Outside) : Adds (fun r' j => r' = p ∧ j = src) w
      (handleRequest (Outside.context m n now) r p src w).2 := by
  cases r with
  | cache x =>
      simp only [handleRequest, CacheSim.handleUpstreamRequest]
      split
      · exact adds_of_same rfl rfl fun _ => id
      · split
        · have hsame : Adds (fun r' j => r' = p ∧ j = src) w (w.1.setResponseOk p, w.2) :=
            adds_of_same (Heap.setResponseOk_nextPacket _ _) (Heap.setResponseOk_packet _ _)
              fun _ => id
          exact hsame.trans (adds_respond _ _ _ _ _ _ _ rfl rfl)
        · exact adds_of_same rfl rfl fun e he => outgoing_tryForward w.2 ▸ he
  | router =>
      simp only [handleRequest, Router.handleUpstreamRequest]
      split
      · simp only [Outside.context]
        cases w.2.accept <;> exact adds_of_same rfl rfl fun _ => id
      · exact adds_of_same rfl rfl fun _ => id

/-- A response is passed on through the port the module picks. -/
theorem adds_handleResponse (now : UInt64) (s : Responder) {r p : PacketId} (i : Nat)
    {w : Heap × Outside} (hp : p < w.1.nextPacket) (hr : (w.1.packet p).originalReq = some r) :
    Adds (fun r' j => r' = r ∧ s.homePort m i = some j) w
      (handleResponse (Outside.context m n now) s.relay p i w).2 := by
  unfold homePort
  cases s.relay with
  | cache x =>
      simp only [handleResponse, CacheSim.handleDownstreamResponse, hr]
      have h := adds_respond w.1 w.2 now r (w.1.packet p).vcId (i % m)
        (((w.1.newResp now r (w.1.packet p).vcId).2.delete p).delete r) rfl rfl
      exact ⟨h.next, h.old, fun e he => (h.out e he).imp id fun ⟨hlt, r', hr', h1, h2⟩ =>
        ⟨hlt, r', hr', h1, congrArg some h2.symm⟩⟩
  | router =>
      simp only [handleResponse, Router.handleDownstreamResponse, hr]
      by_cases hi : i < m
      · have hc : (some r).isSome = true ∧ i < (Outside.context m n now).upstream := ⟨rfl, hi⟩
        rw [if_pos hc]
        refine ⟨Nat.le_refl _, fun _ _ => rfl, fun e he => ?_⟩
        have he' : e ∈ w.2.outgoing ∨ e = (p, i) := by
          simp only [Outside.context, Outside.outgoing, List.mem_append, List.mem_singleton] at he ⊢
          tauto
        refine he'.imp id ?_
        rintro rfl
        exact ⟨hp, r, hr, rfl, if_pos hi⟩
      · have hc : ¬ ((some r).isSome = true ∧ i < (Outside.context m n now).upstream) :=
          fun h => hi h.2
        rw [if_neg hc]
        exact adds_of_same rfl rfl fun _ => id

/-- The response does go out through that port. -/
theorem handleResponse_sends (now : UInt64) (s : Responder) {r p : PacketId} {i j : Nat}
    {w : Heap × Outside} (hr : (w.1.packet p).originalReq = some r)
    (hj : s.homePort m i = some j) :
    ∃ e ∈ (handleResponse (Outside.context m n now) s.relay p i w).2.2.outgoing,
      ((handleResponse (Outside.context m n now) s.relay p i w).2.1.packet e.1).originalReq =
        some r ∧ e.2 = j := by
  unfold homePort at hj
  cases hrelay : s.relay with
  | cache x =>
      rw [hrelay, Option.some.injEq] at hj
      simp only [handleResponse, CacheSim.handleDownstreamResponse, hr]
      refine ⟨((w.1.newResp now r (w.1.packet p).vcId).1, j), ?_, ?_, rfl⟩
      · have h := outgoing_respond w.2 (i % m) (w.1.newResp now r (w.1.packet p).vcId).1
        have hmem : ((w.1.newResp now r (w.1.packet p).vcId).1, j) ∈ w.2.outgoing ++
            [((w.1.newResp now r (w.1.packet p).vcId).1, i % m)] := by
          rw [hj]
          exact List.mem_append_right _ (List.mem_singleton_self _)
        exact h ▸ hmem
      · simp [Heap.newResp]
  | router =>
      rw [hrelay] at hj
      have hi : i < m := by
        by_contra hge
        rw [if_neg hge] at hj
        cases hj
      rw [if_pos hi, Option.some.injEq] at hj
      have hc : (some r).isSome = true ∧ i < (Outside.context m n now).upstream := ⟨rfl, hi⟩
      simp only [handleResponse, Router.handleDownstreamResponse, hr]
      rw [if_pos hc]
      refine ⟨(p, j), ?_, hr, rfl⟩
      simp [Outside.context, Outside.outgoing, hj]

/-! ## 2. Every run -/

/-- The invariant: the responses on their way have been issued, and they go home. -/
structure Inv (s : Responder) : Prop where
  issued : ∀ e ∈ s.outside.outgoing, e.1 < s.heap.nextPacket
  returned : Returned s

theorem inv_of_adds {F : PacketId → Nat → Prop} {s s' : Responder} (hI : Inv s)
    (hA : Adds F (s.heap, s.outside) (s'.heap, s'.outside))
    (harr : ∀ x ∈ s.arrived, x ∈ s'.arrived) (hF : ∀ r j, F r j → (r, j) ∈ s'.arrived) :
    Inv s' := by
  constructor
  · intro e he
    rcases hA.out e he with he | ⟨hlt, -⟩
    · exact Nat.lt_of_lt_of_le (hI.issued e he) hA.next
    · exact hlt
  · intro e he r hr
    rcases hA.out e he with he | ⟨-, r', hr', hf⟩
    · rw [hA.old _ (hI.issued e he)] at hr
      exact harr _ (hI.returned e he r hr)
    · rw [hr', Option.some.injEq] at hr
      exact hF r e.2 (hr ▸ hf)

theorem outgoing_eraseIdx {o : Outside} (k : Nat) (accept : Bool) :
    ∀ e ∈ ({ o with accept := accept, pending := o.pending.eraseIdx k } : Outside).outgoing,
      e ∈ o.outgoing := by
  intro e he
  simp only [Outside.outgoing, List.mem_append, List.mem_filterMap] at he ⊢
  refine he.imp id fun ⟨x, hx, hxe⟩ => ⟨x, List.mem_of_mem_eraseIdx hx, hxe⟩

/-- A step that meets the condition keeps the invariant. -/
theorem inv_step {s : Responder} (hI : Inv s) (a : Action) (hC : AnswersHome m s a) :
    Inv (step m n s a) := by
  cases a with
  | request t pkt port now accept =>
      rw [step]
      split
      · have hnew : Adds (fun r j => r = s.heap.nextPacket ∧ j = port) (s.heap, s.outside)
            ((s.heap.newRequest t pkt).2, { s.outside with accept := accept }) :=
          adds_of_issue (Nat.le_succ _) (fun q => s.heap.newRequest_packet_of_lt t pkt) fun _ => id
        refine inv_of_adds hI (hnew.trans (adds_handleRequest now s.relay s.heap.nextPacket port _))
          (fun x hx => List.mem_append_left _ hx) ?_
        rintro r j ⟨rfl, rfl⟩
        exact List.mem_append_right _ (List.mem_singleton_self _)
      · exact hI
  | tick now accept =>
      rw [step]
      have hsame : Adds (fun _ _ => False) (s.heap, s.outside)
          (s.heap, { s.outside with accept := accept }) := adds_of_same rfl rfl fun _ => id
      exact inv_of_adds hI (hsame.trans (adds_forward _ now s.relay _)) (fun _ => id)
        fun _ _ h => h.elim
  | fire k now accept =>
      rw [step]
      have hsame : Adds (fun _ _ => False) (s.heap, s.outside)
          (s.heap, { s.outside with accept := accept, pending := s.outside.pending.eraseIdx k }) :=
        adds_of_same rfl rfl (outgoing_eraseIdx k accept)
      split
      · exact hI
      · exact inv_of_adds hI (hsame.trans (adds_forward _ now s.relay _)) (fun _ => id)
          fun _ _ h => h.elim
      · next j p hk =>
          -- the response moves from the pending events to the sent ones
          refine inv_of_adds (F := fun _ _ => False) hI (adds_of_same rfl rfl fun e he => ?_)
            (fun _ => id) fun _ _ h => h.elim
          have he' : e ∈ ({ s.outside with
                accept := accept, pending := s.outside.pending.eraseIdx k } : Outside).outgoing ∨
              e = (p, j) := by
            simp only [after, Outside.context, Outside.outgoing, List.mem_append,
              List.mem_singleton] at he ⊢
            tauto
          rcases he' with he' | rfl
          · exact outgoing_eraseIdx k accept e he'
          · refine List.mem_append_right _ (List.mem_filterMap.mpr ⟨.respond j p, ?_, rfl⟩)
            exact List.mem_of_getElem? hk
  | answer k resp now =>
      rw [step]
      split
      · exact hI
      · next r i hk =>
          have hnew : Adds (fun r' j => r' = r ∧ s.homePort m i = some j) (s.heap, s.outside)
              ((s.heap.new { resp with originalReq := some r }).2,
                { s.outside with forwarded := s.outside.forwarded.eraseIdx k }) :=
            adds_of_issue (Nat.le_succ _) (fun q => s.heap.new_packet_of_lt _) fun _ => id
          refine inv_of_adds hI (hnew.trans (adds_handleResponse now s i (Nat.lt_succ_self _) ?_))
            (fun _ => id) ?_
          · exact congrArg Packet.originalReq (Heap.new_packet_self s.heap _)
          · rintro r' j ⟨rfl, hj⟩
            exact hC r' i hk j hj

/-- **A response sent home to another port shows at once.** -/
theorem not_returned_of_answer {s : Responder} (a : Action) (hC : ¬ AnswersHome m s a) :
    ¬ Returned (step m n s a) := by
  cases a with
  | request t pkt port now accept => exact absurd trivial hC
  | tick now accept => exact absurd trivial hC
  | fire k now accept => exact absurd trivial hC
  | answer k resp now =>
      simp only [AnswersHome, not_forall] at hC
      obtain ⟨r, i, hk, j, hj, hnot⟩ := hC
      intro hR
      obtain ⟨e, he, hr, rfl⟩ := handleResponse_sends (n := n) now s (r := r)
        (p := s.heap.nextPacket) (w := ((s.heap.new { resp with originalReq := some r }).2,
          { s.outside with forwarded := s.outside.forwarded.eraseIdx k }))
        (congrArg Packet.originalReq (Heap.new_packet_self s.heap _)) hj
      rw [step, hk] at hR
      exact hnot (hR e he r hr)

/-- A module before its first request. -/
def create (r : Relay) : Responder := { relay := r }

theorem inv_create (r : Relay) : Inv (create r) where
  issued e he := by simp [create, Outside.outgoing] at he
  returned e he := by simp [create, Outside.outgoing] at he

variable (m n)

/-- **RESPONSES RETURN TO THE REQUESTER.** For a CacheSim or a Router, any numbers of ports and
    every run: each response the module has sent or scheduled upstream goes to the port its
    request arrived on, in every state of the run, if and only if every answered request had
    arrived on the port with the index the module derives from the answering downstream port. -/
theorem returned_iff_answersHome (r : Relay) (acts : List Action) :
    Library.Everywhere (step m n) Returned (create r) acts ↔
      Library.Along (step m n) (AnswersHome m) (create r) acts :=
  Library.everywhere_iff_along (I := Inv) (inv_create r) (fun _ h => h.returned)
    (fun _ a h hC => inv_step h a hC) (fun _ a _ hC => not_returned_of_answer a hC)

/-- One downstream and two upstream ports: a miss that arrives on port 1, is forwarded and
    answered. -/
def missOnPortOne : List Action :=
  [.request { address := 0x1004 } {} 1 0 true, .tick 1 true, .answer 0 { type := .resp } 2]

/-- The response leaves through port 0. -/
theorem missOnPortOne_not_returned :
    ¬ Library.Everywhere (step 2 1) Returned (create (.cache {})) missOnPortOne := by
  intro h
  have hlast := Library.everywhere_iff_prefix.mp h missOnPortOne (List.prefix_refl _)
  exact absurd (hlast (2, 0) (by decide) 0 (by decide)) (by decide)

end Responder

end Gem5Sc
