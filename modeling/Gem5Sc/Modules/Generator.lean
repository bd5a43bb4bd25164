/-
  File:      Gem5Sc/Modules/Generator.lean
  Subject:   THE TRAFFIC GENERATOR on every run: the addresses it issues, and how many of its
             requests are taken.

  A run is made of ticks with any surroundings and any random numbers, of responses to requests
  that were taken, in any order, and of anything the rest of the system does. What the generator
  hands to `sendReq` is only noted down (`noting`).

  * The members are initialised in the order of their declarations, and `cur_addr` is declared
    before the `start_addr` it is initialised from. So the first address is any value, and
    `addresses_iff` says which values, and how many requests, stay in range.
  * `tick` compares the responses with the budget, not the requests. What its test leaves out are
    the requests without a response yet: with `k` of them out at a time the budget is exceeded by at
    most `k` (`withinBy_of_atMostOut`), with one of them it can be (`inTurn_taken`). So the budget
    is kept where requests are answered one by one, or where there is nothing more to ask for
    (`within_iff_bounded`).
-/
import Gem5Sc.Library.Runs
import Gem5Sc.Modules.Dispatch
import Mathlib.Data.List.Chain
import Mathlib.Data.List.Iterate

namespace Gem5Sc

namespace TrafficGenerator

/-- The constructor, for a generation mode. What `cur_addr` is initialised from has no value yet,
    and `trace_pos` gets none. -/
def construct (mode : GenMode) (curAddr : UInt64) (tracePos : Nat) : TrafficGenerator :=
  { mode := mode, curAddr := curAddr, tracePos := tracePos }

/-- `addr_dist(start_addr, end_addr)`: a `uniform_int_distribution` takes both of its ends. -/
abbrev Roll := { d : Draw // 0x1000 ≤ d.addr ∧ d.addr ≤ 0x2000 }

/-- `tick` comes to `issueRequest`. -/
def issues (downstream : Nat) (d : Draw) (m : TrafficGenerator) : Bool :=
  downstream ≠ 0 ∧ m.completed < m.numRequests ∧ d.rand % 10 = 0

end TrafficGenerator

/-- What a generator has put out so far. -/
structure Issued where
  /-- The addresses of the requests handed to `sendReq`. -/
  addresses : List UInt64 := []
  /-- How many times `sendReq` returned true. -/
  taken : Nat := 0
  /-- The requests that were taken and whose response has not been counted. -/
  out : List PacketId := []
  deriving DecidableEq, Repr

/-- One more request, and what `sendReq` has answered. -/
def Issued.add (l : Issued) (addr : UInt64) (p : PacketId) (answer : Bool) : Issued where
  addresses := l.addresses ++ [addr]
  taken := if answer then l.taken + 1 else l.taken
  out := if answer then l.out ++ [p] else l.out

/-- A generator with its surroundings. -/
structure GeneratorRun (ρ : Type) where
  heap : Heap := {}
  gen : TrafficGenerator
  log : Issued := {}
  env : ρ

namespace GeneratorRun

open TrafficGenerator

variable {ρ : Type}

/-- The surroundings `c`, with a note of every `sendReq`. -/
def noting (c : Context ρ) : Context (Issued × ρ) where
  now := c.now
  upstream := c.upstream
  downstream := c.downstream
  sendReq i p w :=
    let r := c.sendReq i p (w.1, w.2.2)
    (r.1, (r.2.1, (w.2.1.add (w.1.address p) p r.1, r.2.2)))
  sendResp j p w :=
    let r := c.sendResp j p (w.1, w.2.2)
    (r.1, (r.2.1, (w.2.1, r.2.2)))
  tickUpstream i w :=
    let r := c.tickUpstream i (w.1, w.2.2)
    (r.1, (w.2.1, r.2))
  tickDownstream i w :=
    let r := c.tickDownstream i (w.1, w.2.2)
    (r.1, (w.2.1, r.2))
  schedule e delay x := (x.1, c.schedule e delay x.2)

inductive Action (ρ : Type) where
  | tick (c : Context ρ) (d : Roll)
  /-- A response to the `i`-th request in `out` arrives, through the generator's own handler or
      through the `SimObject` interface. -/
  | response (direct : Bool) (i : Nat) (now : UInt64)
  /-- Anything the rest of the system does. -/
  | other (f : Heap × ρ → Heap × ρ)

def step (s : GeneratorRun ρ) : Action ρ → GeneratorRun ρ
  | .tick c d =>
      let r := s.gen.tick (noting c) d.1 (s.heap, (s.log, s.env))
      { heap := r.2.1, gen := r.1, log := r.2.2.1, env := r.2.2.2 }
  | .response direct i now =>
      match s.log.out[i]? with
      | none => s
      | some req =>
          let x := s.heap.newResp now req (s.heap.packet req).vcId
          let r := if direct then s.gen.handleDownstreamResponse x.1 (x.2, s.env)
            else
              let r := SimObject.handleDefault x.1 (x.2, s.env)
              (r.1, s.gen, r.2)
          { heap := r.2.2.1, gen := r.2.1, env := r.2.2.2,
            log := if r.1 then { s.log with out := s.log.out.eraseIdx i } else s.log }
  | .other f =>
      let r := f (s.heap, s.env)
      { s with heap := r.1, env := r.2 }

/-- In this step the generator issues a request, unless its trace has come to an end. -/
def opens (s : GeneratorRun ρ) : Action ρ → Bool
  | .tick c d => s.gen.issues c.downstream d.1
  | _ => false

/-- The address of the request. -/
def asks (s : GeneratorRun ρ) : Action ρ → Option UInt64
  | .tick c d =>
      if s.gen.issues c.downstream d.1 then (nextRequest d.1 s.gen).1.map Prod.fst else none
  | _ => none

/-! ## 1. One step -/

/-- The request `issueRequest` builds for an address. -/
def request (c : Context ρ) (addr : UInt64) (isWrite : Bool) (h : Heap) : PacketId × Heap :=
  h.newRequest { command := if isWrite then .write else .read, address := addr, dataLength := 4 }
    { srcCycle := c.now, type := if isWrite then .reqWrite else .reqRead }

theorem request_address (c : Context ρ) (addr : UInt64) (isWrite : Bool) (h : Heap) :
    (request c addr isWrite h).2.address (request c addr isWrite h).1 = addr := by
  simp [request, Heap.newRequest, Heap.address, Heap.new, Heap.newPayload]

/-- What `sendReq` answers in this tick, if it is asked. -/
def answer (c : Context ρ) (d : Draw) (m : TrafficGenerator) (w : Heap × ρ) : Option Bool :=
  if m.issues c.downstream d then
    (nextRequest d m).1.map fun x =>
      (c.sendReq 0 (request c x.1 x.2 w.1).1 ((request c x.1 x.2 w.1).2, w.2)).1
  else none

theorem nextRequest_none {d : Draw} {m : TrafficGenerator} (h : (nextRequest d m).1 = none) :
    (nextRequest d m).2 = m := by
  unfold nextRequest at h ⊢
  cases hm : m.mode with
  | sequential => rw [hm] at h; cases h
  | random => rfl
  | trace =>
      rw [hm] at h
      cases ht : m.trace[m.tracePos]? with
      | none => rfl
      | some e => rw [ht] at h; cases h

section Tick

variable {c : Context ρ} {d : Draw} {m : TrafficGenerator} {w : Heap × (Issued × ρ)}

theorem tick_closed (h : m.issues c.downstream d = false) : m.tick (noting c) d w = (m, w) := by
  have hgate : ¬ (c.downstream ≠ 0 ∧ m.completed < m.numRequests ∧ d.rand % 10 = 0) := by
    simpa [issues] using h
  exact if_neg hgate

theorem tick_open (h : m.issues c.downstream d = true) :
    m.tick (noting c) d w = issueRequest (noting c) d m w := by
  have hgate : c.downstream ≠ 0 ∧ m.completed < m.numRequests ∧ d.rand % 10 = 0 := by
    simpa [issues] using h
  exact if_pos hgate

theorem issueRequest_none (h : (nextRequest d m).1 = none) :
    (issueRequest (noting c) d m w).1 = m ∧ (issueRequest (noting c) d m w).2.2 = w.2 := by
  have hm := nextRequest_none h
  unfold issueRequest
  cases hn : nextRequest d m with
  | mk next m' =>
      rw [hn] at h hm
      obtain rfl : next = none := h
      exact ⟨hm, rfl⟩

/-- A request is sent once, and the generator is as the `switch` has left it. -/
theorem issueRequest_some {addr : UInt64} {isWrite : Bool}
    (h : (nextRequest d m).1 = some (addr, isWrite)) :
    (issueRequest (noting c) d m w).1 = (nextRequest d m).2 ∧
      (issueRequest (noting c) d m w).2.2.1 =
        w.2.1.add addr (request c addr isWrite w.1).1
          (c.sendReq 0 (request c addr isWrite w.1).1
            ((request c addr isWrite w.1).2, w.2.2)).1 := by
  have haddr := request_address c addr isWrite w.1
  cases hn : nextRequest d m with
  | mk next m' =>
      rw [hn] at h
      obtain rfl : next = some (addr, isWrite) := h
      have hissue : issueRequest (noting c) d m w =
          let r := (noting c).sendReq 0 (request c addr isWrite w.1).1
            ((request c addr isWrite w.1).2, w.2)
          if r.1 then (m', r.2)
          else (m', (r.2.1.delete (request c addr isWrite w.1).1, r.2.2)) := by
        unfold issueRequest
        rw [hn]
        rfl
      rw [hissue]
      simp only [noting, haddr]
      split <;> exact ⟨rfl, rfl⟩

end Tick

/-- **The ways a tick can go.** -/
theorem tick_cases (s : GeneratorRun ρ) (c : Context ρ) (d : Roll) :
    ((s.gen.issues c.downstream d.1 = true → (nextRequest d.1 s.gen).1 = none) ∧
      answer c d.1 s.gen (s.heap, s.env) = none ∧
      (s.step (.tick c d)).gen = s.gen ∧ (s.step (.tick c d)).log = s.log) ∨
    ∃ addr isWrite b p, s.gen.issues c.downstream d.1 = true ∧
      (nextRequest d.1 s.gen).1 = some (addr, isWrite) ∧
      answer c d.1 s.gen (s.heap, s.env) = some b ∧
      (s.step (.tick c d)).gen = (nextRequest d.1 s.gen).2 ∧
      (s.step (.tick c d)).log = s.log.add addr p b := by
  have hgen : (s.step (.tick c d)).gen =
      (s.gen.tick (noting c) d.1 (s.heap, (s.log, s.env))).1 := rfl
  have hlog : (s.step (.tick c d)).log =
      (s.gen.tick (noting c) d.1 (s.heap, (s.log, s.env))).2.2.1 := rfl
  cases hi : s.gen.issues c.downstream d.1 with
  | false =>
      rw [tick_closed hi] at hgen hlog
      exact Or.inl ⟨fun h => (Bool.false_ne_true h).elim, by simp [answer, hi], hgen, hlog⟩
  | true =>
      rw [tick_open hi] at hgen hlog
      cases hn : (nextRequest d.1 s.gen).1 with
      | none =>
          obtain ⟨hm, hrest⟩ := issueRequest_none (c := c) (w := (s.heap, (s.log, s.env))) hn
          exact Or.inl ⟨fun _ => rfl, by simp [answer, hi, hn], hgen.trans hm,
            hlog.trans (congrArg Prod.fst hrest)⟩
      | some x =>
          obtain ⟨addr, isWrite⟩ := x
          obtain ⟨hm, hadd⟩ := issueRequest_some (c := c) (w := (s.heap, (s.log, s.env))) hn
          exact Or.inr ⟨addr, isWrite, _, _, rfl, rfl, by simp [answer, hi, hn],
            hgen.trans hm, hlog.trans hadd⟩

/-- A response reaches neither the addresses nor the number of requests. -/
theorem response_cases (s : GeneratorRun ρ) (direct : Bool) (i : Nat) (now : UInt64) :
    s.step (.response direct i now) = s ∨
    ∃ req, s.log.out[i]? = some req ∧
      ((direct = true ∧
          (s.step (.response direct i now)).gen =
            { s.gen with completed := s.gen.completed + 1 } ∧
          (s.step (.response direct i now)).log = { s.log with out := s.log.out.eraseIdx i }) ∨
        (direct = false ∧ (s.step (.response direct i now)).gen = s.gen ∧
          (s.step (.response direct i now)).log = s.log)) := by
  cases ho : s.log.out[i]? with
  | none => exact Or.inl (by simp only [step, ho])
  | some req =>
      refine Or.inr ⟨req, rfl, ?_⟩
      cases direct with
      | false => exact Or.inr ⟨rfl, by simp [step, ho], by simp [step, ho, SimObject.handleDefault]⟩
      | true =>
          have hresp : ((s.heap.newResp now req (s.heap.packet req).vcId).2.packet
              (s.heap.newResp now req (s.heap.packet req).vcId).1).isResponse = true := by
            simp [Heap.newResp, Packet.isResponse]
          refine Or.inl ⟨rfl, ?_, ?_⟩
          · simp [step, ho, handleDownstreamResponse, hresp]
          · simp [step, ho, handleDownstreamResponse, hresp]

/-! ## 2. The addresses -/

/-- What a step may write to in the generator. -/
theorem step_gen (s : GeneratorRun ρ) (a : Action ρ) : ∃ curAddr tracePos completed,
    (s.step a).gen = { s.gen with curAddr, tracePos, completed } := by
  cases a with
  | tick c d =>
      rcases tick_cases s c d with ⟨_, _, hgen, _⟩ | ⟨_, _, _, _, _, _, _, hgen, _⟩
      · exact ⟨_, _, _, hgen⟩
      · rw [hgen]
        unfold nextRequest
        split
        · exact ⟨_, _, _, rfl⟩
        · exact ⟨_, _, _, rfl⟩
        · split <;> exact ⟨_, _, _, rfl⟩
  | response direct i now =>
      rcases response_cases s direct i now with h | ⟨_, _, ⟨_, hgen, _⟩ | ⟨_, hgen, _⟩⟩
      · rw [h]
        exact ⟨_, _, _, rfl⟩
      · exact ⟨_, _, _, hgen⟩
      · exact ⟨_, _, _, hgen⟩
  | other f => exact ⟨_, _, _, rfl⟩

theorem asks_open {s : GeneratorRun ρ} {c : Context ρ} {d : Roll}
    (h : s.gen.issues c.downstream d.1 = true) :
    s.asks (.tick c d) = (nextRequest d.1 s.gen).1.map Prod.fst := if_pos h

theorem asks_closed {s : GeneratorRun ρ} {a : Action ρ} (h : s.opens a = false) :
    s.asks a = none := by
  cases a with
  | tick c d => exact if_neg (Bool.eq_false_iff.mp h)
  | response direct i now => rfl
  | other f => rfl

/-- Only a tick asks. -/
theorem opens_of_asks {s : GeneratorRun ρ} {a : Action ρ} {x : UInt64} (h : x ∈ s.asks a) :
    ∃ c d, a = .tick c d ∧ s.gen.issues c.downstream d.1 = true ∧
      x ∈ (nextRequest d.1 s.gen).1.map Prod.fst := by
  cases a with
  | response direct i now => cases h
  | other f => cases h
  | tick c d =>
      cases hi : s.gen.issues c.downstream d.1 with
      | false =>
          have hclosed : s.asks (.tick c d) = none := asks_closed hi
          rw [hclosed] at h
          cases h
      | true => exact ⟨c, d, rfl, hi, asks_open hi ▸ h⟩

/-- **The addresses after a step.** -/
theorem step_addresses (s : GeneratorRun ρ) (a : Action ρ) :
    (s.step a).log.addresses = s.log.addresses ++ (s.asks a).toList := by
  cases a with
  | tick c d =>
      rcases tick_cases s c d with ⟨hnone, _, _, hlog⟩ | ⟨addr, _, _, _, hi, hsome, _, _, hlog⟩
      · have hasks : s.asks (.tick c d) = none := by
          cases hi : s.gen.issues c.downstream d.1 with
          | false => exact asks_closed hi
          | true => rw [asks_open hi, hnone hi]; rfl
        rw [hasks, hlog]
        exact (List.append_nil _).symm
      · have hasks : s.asks (.tick c d) = some addr := by
          rw [asks_open hi, hsome]
          rfl
        rw [hasks, hlog]
        rfl
  | response direct i now =>
      rcases response_cases s direct i now with h | ⟨_, _, ⟨_, _, hlog⟩ | ⟨_, _, hlog⟩⟩
      · rw [h]
        exact (List.append_nil _).symm
      · rw [hlog]
        exact (List.append_nil _).symm
      · rw [hlog]
        exact (List.append_nil _).symm
  | other f => exact (List.append_nil _).symm

/-- `b` follows `a`: the next word, or the first one after the last. -/
def Follows (m : TrafficGenerator) (a b : UInt64) : Prop :=
  b = a + 4 ∨ a = m.endAddr - 4 ∧ b = m.startAddr

/-- **The addresses are in range**, and in SEQUENTIAL mode one follows the other. -/
structure InRange (s : GeneratorRun ρ) : Prop where
  range : ∀ a ∈ s.log.addresses, s.gen.startAddr ≤ a ∧ a < s.gen.endAddr
  order : s.gen.mode = .sequential → s.log.addresses.IsChain (Follows s.gen)

/-- No step takes an address back. -/
theorem inRange_of_step {s : GeneratorRun ρ} {a : Action ρ} (h : (s.step a).InRange) :
    s.InRange := by
  obtain ⟨curAddr, tracePos, completed, hgen⟩ := step_gen s a
  obtain ⟨hrange, horder⟩ := h
  rw [hgen, step_addresses] at hrange horder
  exact ⟨fun x hx => hrange x (List.mem_append_left _ hx),
    fun hm => (horder hm).left_of_append⟩

/-- The advance of `cur_addr`. -/
def advance (m : TrafficGenerator) (a : UInt64) : UInt64 :=
  if a + 4 ≥ m.endAddr then m.startAddr else a + 4

/-- One step in SEQUENTIAL mode: a tick that issues a request issues `cur_addr` and advances it. -/
theorem step_sequential {s : GeneratorRun ρ} (hm : s.gen.mode = .sequential) (a : Action ρ) :
    (s.step a).log.addresses =
        s.log.addresses ++ List.iterate (advance s.gen) s.gen.curAddr (s.opens a).toNat ∧
      (s.step a).gen.curAddr = (advance s.gen)^[(s.opens a).toNat] s.gen.curAddr := by
  rw [step_addresses]
  cases a with
  | tick c d =>
      have hn : nextRequest d.1 s.gen = (some (s.gen.curAddr, s.gen.curAddr % 8 == 0),
          { s.gen with curAddr := advance s.gen s.gen.curAddr }) := by
        simp only [nextRequest, hm]
        rfl
      rcases tick_cases s c d with ⟨hnone, _, hgen, _⟩ | ⟨_, _, _, _, hi, _, _, hgen, _⟩
      · have hi : s.gen.issues c.downstream d.1 = false :=
          Bool.not_eq_true _ ▸ fun hi => by cases hn ▸ hnone hi
        simp only [asks, opens, hi, hgen]
        exact ⟨rfl, rfl⟩
      · simp only [asks, opens, hi, hgen, hn]
        exact ⟨rfl, rfl⟩
  | response direct i now =>
      rcases response_cases s direct i now with h | ⟨_, _, ⟨_, hgen, _⟩ | ⟨_, hgen, _⟩⟩
      · rw [h]
        exact ⟨rfl, rfl⟩
      · rw [hgen]
        exact ⟨rfl, rfl⟩
      · rw [hgen]
        exact ⟨rfl, rfl⟩
  | other f => exact ⟨rfl, rfl⟩

/-- And a whole run. -/
theorem run_sequential {s : GeneratorRun ρ} (hm : s.gen.mode = .sequential)
    (acts : List (Action ρ)) :
    (Library.run step s acts).log.addresses = s.log.addresses ++
      List.iterate (advance s.gen) s.gen.curAddr (Library.count step opens s acts) := by
  induction acts generalizing s with
  | nil => exact (List.append_nil _).symm
  | cons a acts ih =>
      obtain ⟨haddr, hcur⟩ := step_sequential hm a
      obtain ⟨curAddr, tracePos, completed, hgen⟩ := step_gen s a
      have hm' : (s.step a).gen.mode = .sequential := by rw [hgen]; exact hm
      have hadv : advance (s.step a).gen = advance s.gen := by rw [hgen]; rfl
      have h := ih hm'
      rw [haddr, hcur, hadv, List.append_assoc, ← List.iterate_add] at h
      exact h

theorem toNat_add_four {a : UInt64} (h : a < 0x2000) : (a + 4).toNat = a.toNat + 4 := by
  have hlt : a.toNat < 0x2000 := UInt64.lt_iff_toNat_lt.mp h
  rw [UInt64.toNat_add]
  exact Nat.mod_eq_of_lt (by simp only [UInt64.reduceToNat]; omega)

section Sequence

variable {m : TrafficGenerator}

/-- The advance of an address in range: the next word, or the first when there is none. -/
theorem advance_toNat (hs : m.startAddr = 0x1000) (he : m.endAddr = 0x2000) {a : UInt64}
    (ha : a < 0x2000) :
    (advance m a).toNat = if a.toNat + 4 < 0x2000 then a.toNat + 4 else 0x1000 := by
  have hge : a + 4 ≥ 0x2000 ↔ ¬ a.toNat + 4 < 0x2000 := by
    rw [ge_iff_le, UInt64.le_iff_toNat_le, toNat_add_four ha, Nat.not_lt]
    rfl
  unfold advance
  rw [hs, he]
  by_cases hwrap : a.toNat + 4 < 0x2000
  · rw [if_pos hwrap, if_neg fun h => hge.mp h hwrap, toNat_add_four ha]
  · rw [if_neg hwrap, if_pos (hge.mpr hwrap)]
    rfl

/-- It follows the address, but for one behind the start of the last word. -/
theorem follows_advance (hs : m.startAddr = 0x1000) (he : m.endAddr = 0x2000) {a : UInt64}
    (hlo : 0x1000 ≤ a) (hhi : a < 0x2000) :
    Follows m a (advance m a) ↔ a.toNat % 4 = 0 ∨ a.toNat + 4 < 0x2000 := by
  have hlt : a.toNat < 0x2000 := UInt64.lt_iff_toNat_lt.mp hhi
  have hge : 0x1000 ≤ a.toNat := UInt64.le_iff_toNat_le.mp hlo
  have hnext : Follows m a (advance m a) ↔
      (advance m a).toNat = a.toNat + 4 ∨ a.toNat = 0x1FFC ∧ (advance m a).toNat = 0x1000 := by
    unfold Follows
    rw [hs, he, ← UInt64.toNat_inj, ← UInt64.toNat_inj, ← UInt64.toNat_inj, toNat_add_four hhi]
    rfl
  rw [hnext, advance_toNat hs he hhi]
  split <;> omega

/-- All addresses of `l` are in range, each follows the one before it. -/
def Sequential (m : TrafficGenerator) (l : List UInt64) : Prop :=
  (∀ a ∈ l, m.startAddr ≤ a ∧ a < m.endAddr) ∧ l.IsChain (Follows m)

theorem inRange_iff {s : GeneratorRun ρ} (hm : s.gen.mode = .sequential) :
    s.InRange ↔ Sequential s.gen s.log.addresses :=
  ⟨fun h => ⟨h.range, h.order hm⟩, fun h => ⟨h.1, fun _ => h.2⟩⟩

theorem sequential_iterate_succ (a : UInt64) (n : Nat) :
    Sequential m (List.iterate (advance m) a (n + 1)) ↔
      (m.startAddr ≤ a ∧ a < m.endAddr) ∧ (n = 0 ∨ Follows m a (advance m a)) ∧
        Sequential m (List.iterate (advance m) (advance m a) n) := by
  unfold Sequential
  rw [List.iterate, List.forall_mem_cons]
  cases n with
  | zero => simp [List.iterate]
  | succ n =>
      rw [List.iterate, List.isChain_cons_cons]
      simp only [Nat.add_one_ne_zero, false_or]
      tauto

/-- **The `n` addresses from `a` on.** -/
theorem sequential_iterate_iff (hs : m.startAddr = 0x1000) (he : m.endAddr = 0x2000) (n : Nat)
    (a : UInt64) : Sequential m (List.iterate (advance m) a n) ↔
      n = 0 ∨ 0x1000 ≤ a ∧ a < 0x2000 ∧ (a.toNat % 4 = 0 ∨ a.toNat + 4 * n < 0x2004) := by
  induction n generalizing a with
  | zero => simp [Sequential, List.iterate]
  | succ n ih =>
      rw [sequential_iterate_succ, ih, hs, he]
      by_cases ha : 0x1000 ≤ a ∧ a < 0x2000
      · have hlo : 0x1000 ≤ a.toNat := UInt64.le_iff_toNat_le.mp ha.1
        have hhi : a.toNat < 0x2000 := UInt64.lt_iff_toNat_lt.mp ha.2
        have hadv := advance_toNat hs he ha.2
        have hin : 0x1000 ≤ advance m a ∧ advance m a < 0x2000 := by
          rw [UInt64.le_iff_toNat_le, UInt64.lt_iff_toNat_lt, hadv]
          simp only [UInt64.reduceToNat]
          split <;> omega
        simp only [ha, hin, follows_advance hs he ha.1 ha.2, hadv, true_and, Nat.add_one_ne_zero,
          false_or]
        split <;> omega
      · refine ⟨fun h => absurd h.1 ha, fun h => ?_⟩
        rcases h with h | ⟨hlo, hhi, _⟩
        · exact absurd h (Nat.add_one_ne_zero n)
        · exact absurd ⟨hlo, hhi⟩ ha

end Sequence

/-- What the run is like that stays in range. In SEQUENTIAL mode it issues nothing, or `cur_addr`
    has come out in range, and at a word or so low that the requests do not reach the end. In RANDOM
    mode no request draws the upper end. -/
def Fits (s : GeneratorRun ρ) (acts : List (Action ρ)) : Prop :=
  match s.gen.mode with
  | .sequential =>
      Library.count step opens s acts = 0 ∨
        0x1000 ≤ s.gen.curAddr ∧ s.gen.curAddr < 0x2000 ∧
          (s.gen.curAddr.toNat % 4 = 0 ∨
            s.gen.curAddr.toNat + 4 * Library.count step opens s acts < 0x2004)
  | .random =>
      Library.Along step
        (fun s a => ∀ c d, a = .tick c d → s.opens a = true → d.1.addr ≠ 0x2000) s acts
  | .trace => True

/-- Before the first tick. -/
def start (heap : Heap) (env : ρ) (m : TrafficGenerator) : GeneratorRun ρ :=
  { heap := heap, gen := m, env := env }

/-- The members a run leaves alone, as the constructor has set them. -/
structure Built (mode : GenMode) (s : GeneratorRun ρ) : Prop where
  mode_eq : s.gen.mode = mode
  startAddr : s.gen.startAddr = 0x1000
  endAddr : s.gen.endAddr = 0x2000
  trace : ∀ e ∈ s.gen.trace, 0x1000 ≤ e.addr ∧ e.addr < 0x2000

theorem built_start (heap : Heap) (env : ρ) (mode : GenMode) (curAddr : UInt64) (tracePos : Nat) :
    Built mode (start heap env (construct mode curAddr tracePos)) :=
  ⟨rfl, rfl, rfl, show ∀ e ∈ (construct .sequential 0 0).trace, _ by decide⟩

theorem built_step {mode : GenMode} {s : GeneratorRun ρ} (h : Built mode s) (a : Action ρ) :
    Built mode (s.step a) := by
  obtain ⟨curAddr, tracePos, completed, hgen⟩ := step_gen s a
  obtain ⟨hmode, hs, he, htrace⟩ := h
  constructor <;> rw [hgen] <;> assumption

/-- Outside SEQUENTIAL mode a step stays in range when its own request does. -/
theorem inRange_step_iff {s : GeneratorRun ρ} {mode : GenMode} (hb : Built mode s)
    (hm : mode ≠ .sequential) (h : s.InRange) (a : Action ρ) :
    (s.step a).InRange ↔ ∀ x ∈ s.asks a, 0x1000 ≤ x ∧ x < 0x2000 := by
  have hb' := built_step hb a
  have hl := step_addresses s a
  refine ⟨fun h' x hx => ?_, fun hx => ⟨fun x hx' => ?_, fun hseq => ?_⟩⟩
  · have hmem := h'.range x (hl ▸ List.mem_append_right _ (Option.mem_toList.mpr hx))
    rwa [hb'.startAddr, hb'.endAddr] at hmem
  · rw [hl] at hx'
    rw [hb'.startAddr, hb'.endAddr]
    rcases List.mem_append.mp hx' with hx' | hx'
    · have hmem := h.range x hx'
      rwa [hb.startAddr, hb.endAddr] at hmem
    · exact hx x (Option.mem_toList.mp hx')
  · exact absurd (hb'.mode_eq.symm.trans hseq) hm

/-- In RANDOM mode a request is for the number that is drawn. -/
theorem asks_random {s : GeneratorRun ρ} (hb : Built .random s) {c : Context ρ} {d : Roll}
    (h : s.opens (.tick c d) = true) : s.asks (.tick c d) = some d.1.addr := by
  have hn : nextRequest d.1 s.gen = (some (d.1.addr, d.1.coin), s.gen) := by
    simp only [nextRequest, hb.mode_eq]
  rw [asks_open h, hn]
  rfl

/-- In TRACE mode for an address of the trace. -/
theorem asks_trace {s : GeneratorRun ρ} (hb : Built .trace s) (a : Action ρ) :
    ∀ x ∈ s.asks a, 0x1000 ≤ x ∧ x < 0x2000 := by
  intro x hx
  obtain ⟨c, d, rfl, -, hx⟩ := opens_of_asks hx
  obtain ⟨y, hy, rfl⟩ := Option.map_eq_some_iff.mp hx
  simp only [nextRequest, hb.mode_eq] at hy
  cases ht : s.gen.trace[s.gen.tracePos]? with
  | none =>
      rw [ht] at hy
      cases hy
  | some e =>
      rw [ht] at hy
      cases hy
      exact hb.trace e (List.mem_of_getElem? ht)

/-- What a run in SEQUENTIAL mode issues is an iteration from the first address, and no step takes
    an address back; so the addresses at the end decide. -/
theorem everywhere_sequential {s : GeneratorRun ρ} (hb : Built .sequential s)
    (hnone : s.log.addresses = []) (acts : List (Action ρ)) :
    Library.Everywhere step InRange s acts ↔
      Library.count step opens s acts = 0 ∨ 0x1000 ≤ s.gen.curAddr ∧ s.gen.curAddr < 0x2000 ∧
        (s.gen.curAddr.toNat % 4 = 0 ∨
          s.gen.curAddr.toNat + 4 * Library.count step opens s acts < 0x2004) := by
  have hend : Built .sequential (Library.run step s acts) :=
    Library.run_invariant hb (fun _ a h => built_step h a) acts
  have hadv : advance s.gen = advance (Library.run step s acts).gen := by
    funext a
    unfold advance
    rw [hend.startAddr, hend.endAddr, hb.startAddr, hb.endAddr]
  rw [Library.everywhere_iff_end fun _ _ => inRange_of_step, inRange_iff hend.mode_eq,
    run_sequential hb.mode_eq acts, hnone, List.nil_append, hadv]
  exact sequential_iterate_iff hend.startAddr hend.endAddr _ _

/-- In RANDOM mode each number that is drawn for a request decides. -/
theorem everywhere_random {s : GeneratorRun ρ} (hb : Built .random s) (h0 : s.InRange)
    (acts : List (Action ρ)) :
    Library.Everywhere step InRange s acts ↔ Library.Along step
      (fun s a => ∀ c d, a = .tick c d → s.opens a = true → d.1.addr ≠ 0x2000) s acts := by
  refine Library.everywhere_iff_along (I := fun s => Built .random s ∧ s.InRange)
    ⟨hb, h0⟩ (fun _ h => h.2) (fun s a h hC => ⟨built_step h.1 a, ?_⟩) (fun s a h hC h' => ?_)
  · refine (inRange_step_iff h.1 (by decide) h.2 a).mpr fun x hx => ?_
    obtain ⟨c, d, rfl, hi, -⟩ := opens_of_asks hx
    rw [asks_random h.1 hi] at hx
    cases hx
    exact ⟨d.2.1, UInt64.lt_of_le_of_ne d.2.2 (hC c d rfl hi)⟩
  · push Not at hC
    obtain ⟨c, d, rfl, ho, hd⟩ := hC
    have hx := (inRange_step_iff h.1 (by decide) h.2 _).mp h' d.1.addr (asks_random h.1 ho)
    rw [hd] at hx
    exact absurd hx.2 (by decide)

theorem everywhere_trace {s : GeneratorRun ρ} (hb : Built .trace s) (h0 : s.InRange)
    (acts : List (Action ρ)) : Library.Everywhere step InRange s acts := by
  refine Library.everywhere_of_invariant (I := fun s => Built .trace s ∧ s.InRange) ⟨hb, h0⟩
    (fun _ h => h.2) (fun s a h => ⟨built_step h.1 a, ?_⟩) acts
  exact (inRange_step_iff h.1 (by decide) h.2 a).mpr (asks_trace h.1 a)

/-- **WHICH RUNS STAY IN RANGE.** For every generator as it is constructed, in every mode, with
    whatever value is read for `cur_addr`, and every run: all addresses issued are in range, and in
    SEQUENTIAL mode one follows the other, exactly when the run is `Fits`. -/
theorem addresses_iff (mode : GenMode) (curAddr : UInt64) (tracePos : Nat) (heap : Heap) (env : ρ)
    (acts : List (Action ρ)) :
    Library.Everywhere step InRange (start heap env (construct mode curAddr tracePos)) acts ↔
      Fits (start heap env (construct mode curAddr tracePos)) acts := by
  have hb := built_start heap env mode curAddr tracePos
  have h0 : (start heap env (construct mode curAddr tracePos)).InRange :=
    ⟨fun _ hx => absurd hx List.not_mem_nil, fun _ => List.isChain_nil⟩
  cases mode with
  | sequential => exact everywhere_sequential hb rfl acts
  | random => exact everywhere_random hb h0 acts
  | trace => exact iff_of_true (everywhere_trace hb h0 acts) trivial

/-- `cur_addr` is read as 0; and in RANDOM mode the upper end is drawn. -/
theorem addresses_not_in_range :
    ¬ Library.Everywhere step InRange (start {} [] (construct .sequential 0 0))
        [.tick onePort ⟨{ rand := 0, addr := 0x1000, coin := false }, by decide⟩] ∧
      ¬ Library.Everywhere step InRange (start {} [] (construct .random 0x1000 0))
        [.tick onePort ⟨{ rand := 0, addr := 0x2000, coin := false }, by decide⟩] :=
  ⟨fun h => absurd (h.2.range 0 (by decide)).1 (by decide),
    fun h => absurd (h.2.range 0x2000 (by decide)).2 (by decide)⟩

/-! ## 3. The budget -/

/-- **Within the budget.** -/
def Within (s : GeneratorRun ρ) : Prop := (s.log.taken : Int) ≤ s.gen.numRequests

/-- In this step a request is taken. -/
def takes (s : GeneratorRun ρ) : Action ρ → Bool
  | .tick c d => answer c d.1 s.gen (s.heap, s.env) = some true
  | _ => false

/-- Within the budget, or at most `k` above it. -/
def WithinBy (k : Nat) (s : GeneratorRun ρ) : Prop := (s.log.taken : Int) ≤ s.gen.numRequests + k

/-- Every request that was taken has had its response counted or is out. -/
def Accounted (s : GeneratorRun ρ) : Prop :=
  (s.log.taken : Int) = s.gen.completed + s.log.out.length

theorem completed_nextRequest (d : Draw) (m : TrafficGenerator) :
    (nextRequest d m).2.completed = m.completed := by
  unfold nextRequest
  split
  · rfl
  · rfl
  · split <;> rfl

theorem mode_nextRequest (d : Draw) (m : TrafficGenerator) :
    (nextRequest d m).2.mode = m.mode := by
  unfold nextRequest
  split
  · rfl
  · rfl
  · split <;> rfl

theorem step_taken (s : GeneratorRun ρ) (a : Action ρ) :
    (s.step a).log.taken = s.log.taken + (s.takes a).toNat := by
  cases a with
  | tick c d =>
      rcases tick_cases s c d with ⟨_, hans, _, hlog⟩ | ⟨_, _, b, _, _, _, hans, _, hlog⟩
      · rw [hlog]
        simp [takes, hans]
      · rw [hlog]
        cases b <;> simp [takes, hans, Issued.add]
  | response direct i now =>
      rcases response_cases s direct i now with h | ⟨_, _, ⟨_, _, hlog⟩ | ⟨_, _, hlog⟩⟩
      · rw [h]
        rfl
      · rw [hlog]
        rfl
      · rw [hlog]
        rfl
  | other f => rfl

theorem accounted_step {s : GeneratorRun ρ} (h : s.Accounted) (a : Action ρ) :
    (s.step a).Accounted := by
  unfold Accounted at h ⊢
  cases a with
  | tick c d =>
      rcases tick_cases s c d with ⟨_, _, hgen, hlog⟩ | ⟨_, _, b, p, _, _, _, hgen, hlog⟩
      · rw [hgen, hlog]
        exact h
      · rw [hgen, hlog, completed_nextRequest]
        cases b with
        | false => exact h
        | true =>
            simp only [Issued.add, if_pos, List.length_append, List.length_singleton]
            omega
  | response direct i now =>
      rcases response_cases s direct i now with hs | ⟨req, hi, ⟨_, hgen, hlog⟩ | ⟨_, hgen, hlog⟩⟩
      · rw [hs]
        exact h
      · have hlt : i < s.log.out.length := (List.getElem?_eq_some_iff.mp hi).1
        rw [hgen, hlog]
        simp only [List.length_eraseIdx_of_lt hlt]
        omega
      · rw [hgen, hlog]
        exact h
  | other f => exact h

/-- What a generator may ask for has an end that the budget covers: it is never open, or its trace
    is no longer than the budget. -/
def Bounded (m : TrafficGenerator) : Prop :=
  m.numRequests = 0 ∨
    m.mode = .trace ∧ ((m.trace.length - m.tracePos : Nat) : Int) ≤ m.numRequests

/-- A tick that comes to `issueRequest` finds no more than `k` taken requests without their
    response. -/
def AtMostOut (k : Nat) (s : GeneratorRun ρ) (a : Action ρ) : Prop :=
  s.opens a = true → s.log.out.length ≤ k

/-- Only where `tick` comes to `issueRequest` is a request taken, with the budget still open. -/
theorem opens_of_takes {s : GeneratorRun ρ} {a : Action ρ} (h : s.takes a = true) :
    s.opens a = true ∧ s.gen.completed < s.gen.numRequests := by
  cases a with
  | response direct i now => cases h
  | other f => cases h
  | tick c d =>
      have hans : answer c d.1 s.gen (s.heap, s.env) = some true := of_decide_eq_true h
      have hi : s.gen.issues c.downstream d.1 = true := by
        by_contra hi
        rw [answer, if_neg hi] at hans
        cases hans
      have hgate : c.downstream ≠ 0 ∧ s.gen.completed < s.gen.numRequests ∧ d.1.rand % 10 = 0 := by
        simpa [issues] using hi
      exact ⟨hi, hgate.2.1⟩

/-- **One step.** The test of `tick` leaves out the requests that wait, so the budget is exceeded
    by no more than their number. -/
theorem withinBy_step {s : GeneratorRun ρ} {k : Nat} (h : s.Accounted) (hw : s.WithinBy k)
    {a : Action ρ} (ha : AtMostOut k s a) : (s.step a).WithinBy k := by
  obtain ⟨curAddr, tracePos, completed, hgen⟩ := step_gen s a
  have hn : (s.step a).gen.numRequests = s.gen.numRequests := by rw [hgen]
  unfold Accounted at h
  unfold WithinBy at hw ⊢
  rw [step_taken, hn]
  cases ht : s.takes a with
  | false => simpa using hw
  | true =>
      obtain ⟨hopen, hgate⟩ := opens_of_takes ht
      have hout := ha hopen
      rw [Bool.toNat_true]
      omega

/-- **With at most `k` requests out at a time** no more than `k` are taken above the budget. -/
theorem withinBy_of_atMostOut {s : GeneratorRun ρ} {k : Nat} (h : s.Accounted) (hw : s.WithinBy k)
    {acts : List (Action ρ)} (hacts : Library.Along step (AtMostOut k) s acts) :
    Library.Everywhere step (WithinBy k) s acts :=
  Library.everywhere_of_along (I := fun s => s.Accounted ∧ s.WithinBy k) ⟨h, hw⟩ (fun _ h => h.2)
    (fun _ a h ha => ⟨accounted_step h.1 a, withinBy_step h.1 h.2 ha⟩) hacts

theorem withinBy_zero : (WithinBy 0 : GeneratorRun ρ → Prop) = Within := by
  funext s
  unfold WithinBy Within
  rw [Nat.cast_zero, Int.add_zero]

/-- What `nextRequest` takes from the trace. -/
theorem nextRequest_trace {d : Draw} {m : TrafficGenerator} (hm : m.mode = .trace)
    {x : UInt64 × Bool} (h : (nextRequest d m).1 = some x) :
    m.tracePos < m.trace.length ∧ (nextRequest d m).2 = { m with tracePos := m.tracePos + 1 } := by
  unfold nextRequest at h ⊢
  rw [hm] at h ⊢
  dsimp only at h ⊢
  cases ht : m.trace[m.tracePos]? with
  | none =>
      rw [ht] at h
      cases h
  | some e => exact ⟨(List.getElem?_eq_some_iff.mp ht).1, rfl⟩

/-- The requests taken and the entries left of a trace, a bound that no step exceeds. -/
theorem trace_step {s : GeneratorRun ρ} (hm : s.gen.mode = .trace) (a : Action ρ) :
    (s.step a).log.taken + ((s.step a).gen.trace.length - (s.step a).gen.tracePos) ≤
      s.log.taken + (s.gen.trace.length - s.gen.tracePos) := by
  cases a with
  | tick c d =>
      rcases tick_cases s c d with ⟨_, _, hgen, hlog⟩ | ⟨_, _, b, p, _, hnext, _, hgen, hlog⟩
      · rw [hgen, hlog]
      · obtain ⟨hlt, hpos⟩ := nextRequest_trace hm hnext
        rw [hgen, hlog, hpos]
        cases b <;> simp only [Issued.add, if_true, if_false, Bool.false_eq_true] <;> omega
  | response direct i now =>
      rcases response_cases s direct i now with hs | ⟨req, hi, ⟨_, hgen, hlog⟩ | ⟨_, hgen, hlog⟩⟩
      · rw [hs]
      · rw [hgen, hlog]
      · rw [hgen, hlog]
  | other f => exact le_rfl

theorem completed_step (s : GeneratorRun ρ) (a : Action ρ) :
    s.gen.completed ≤ (s.step a).gen.completed := by
  cases a with
  | tick c d =>
      rcases tick_cases s c d with ⟨_, _, hgen, _⟩ | ⟨_, _, _, _, _, _, _, hgen, _⟩
      · rw [hgen]
      · rw [hgen, completed_nextRequest]
  | response direct i now =>
      rcases response_cases s direct i now with hs | ⟨req, hi, ⟨_, hgen, _⟩ | ⟨_, hgen, _⟩⟩
      · rw [hs]
      · rw [hgen]
        exact (Int.lt_succ _).le
      · rw [hgen]
  | other f => exact le_rfl

/-- **Every run of a bounded generator keeps the budget.** -/
theorem within_of_bounded {s : GeneratorRun ρ} (hb : Bounded s.gen) (htaken : s.log.taken = 0)
    (hcompleted : 0 ≤ s.gen.completed) (acts : List (Action ρ)) :
    Library.Everywhere step Within s acts := by
  have hnum : ∀ (t : GeneratorRun ρ) a, (t.step a).gen.numRequests = t.gen.numRequests := by
    intro t a
    obtain ⟨_, _, _, hgen⟩ := step_gen t a
    rw [hgen]
  rcases hb with hzero | ⟨hm, hleft⟩
  · refine Library.everywhere_of_invariant
      (I := fun t => t.log.taken = 0 ∧ 0 ≤ t.gen.completed ∧ t.gen.numRequests = 0)
      ⟨htaken, hcompleted, hzero⟩ (fun t h => ?_) (fun t a h => ?_) acts
    · unfold Within
      rw [h.1, h.2.2]
      rfl
    · have hnone : t.takes a = false := by
        by_contra ht
        have hgate := (opens_of_takes (Bool.eq_true_of_not_eq_false ht)).2
        omega
      refine ⟨?_, h.2.1.trans (completed_step t a), (hnum t a).trans h.2.2⟩
      rw [step_taken, h.1, hnone]
      rfl
  · refine Library.everywhere_of_invariant (I := fun t => t.gen.mode = .trace ∧
      ((t.log.taken + (t.gen.trace.length - t.gen.tracePos) : Nat) : Int) ≤ t.gen.numRequests)
      ⟨hm, by omega⟩ (fun t h => ?_) (fun t a h => ⟨?_, ?_⟩) acts
    · unfold Within
      omega
    · obtain ⟨_, _, _, hgen⟩ := step_gen t a
      rw [hgen]
      exact h.1
    · have hstep := trace_step h.1 a
      rw [hnum]
      omega

/-! ### A run that asks without end -/

/-- Surroundings with one port that takes every request. -/
def taking : Context ρ where
  now := 0
  upstream := 0
  downstream := 1
  sendReq _ _ w := (true, w)
  sendResp _ _ w := (false, w)
  tickUpstream _ w := w
  tickDownstream _ w := w
  schedule _ _ x := x

/-- A tick that asks for a request. -/
def askingTick : Action ρ :=
  .tick taking ⟨{ rand := 0, addr := 0x1000, coin := false }, by decide⟩

/-- The generator has at least `k` more requests to ask for. -/
def Supplies (m : TrafficGenerator) (k : Nat) : Prop :=
  m.mode = .trace → k ≤ m.trace.length - m.tracePos

theorem nextRequest_supplies {m : TrafficGenerator} {k : Nat} (h : Supplies m (k + 1)) (d : Draw) :
    ∃ x, (nextRequest d m).1 = some x ∧ Supplies (nextRequest d m).2 k := by
  have hmode := mode_nextRequest d m
  cases hm : m.mode with
  | sequential =>
      have hsome : (nextRequest d m).1 = some (m.curAddr, m.curAddr % 8 == 0) := by
        unfold nextRequest
        rw [hm]
      exact ⟨_, hsome, fun h' => by rw [hmode, hm] at h'; cases h'⟩
  | random =>
      have hsome : (nextRequest d m).1 = some (d.addr, d.coin) := by
        unfold nextRequest
        rw [hm]
      exact ⟨_, hsome, fun h' => by rw [hmode, hm] at h'; cases h'⟩
  | trace =>
      have hk := h hm
      have hlt : m.tracePos < m.trace.length := by omega
      have hsome : (nextRequest d m).1 =
          some (m.trace[m.tracePos].addr, m.trace[m.tracePos].isWrite) := by
        unfold nextRequest
        rw [hm]
        dsimp only
        rw [List.getElem?_eq_getElem hlt]
      refine ⟨_, hsome, fun _ => ?_⟩
      rw [(nextRequest_trace hm hsome).2]
      show k ≤ m.trace.length - (m.tracePos + 1)
      omega

/-- Such a tick has its request taken. -/
theorem step_asking {s : GeneratorRun ρ} {k : Nat} (hgate : s.gen.completed < s.gen.numRequests)
    (hk : Supplies s.gen (k + 1)) :
    (s.step askingTick).log.taken = s.log.taken + 1 ∧
      (s.step askingTick).log.out.length = s.log.out.length + 1 ∧
      (s.step askingTick).gen.completed = s.gen.completed ∧
      (s.step askingTick).gen.numRequests = s.gen.numRequests ∧
      Supplies (s.step askingTick).gen k := by
  obtain ⟨x, hx, hsupplies⟩ := nextRequest_supplies hk { rand := 0, addr := 0x1000, coin := false }
  have hopen : s.gen.issues (taking (ρ := ρ)).downstream
      { rand := 0, addr := 0x1000, coin := false } = true := by
    simpa [issues, taking] using hgate
  have hanswer : answer taking { rand := 0, addr := 0x1000, coin := false } s.gen
      (s.heap, s.env) = some true := by
    rw [answer, if_pos hopen, hx]
    rfl
  obtain ⟨_, _, _, hstep⟩ := step_gen s askingTick
  rcases tick_cases s taking ⟨{ rand := 0, addr := 0x1000, coin := false }, by decide⟩ with
    ⟨_, hnone, _⟩ | ⟨addr, _, b, p, _, _, hb, hgen, hlog⟩
  · rw [hanswer] at hnone
    cases hnone
  · obtain rfl : true = b := Option.some.inj (hanswer.symm.trans hb)
    have hlog' : (s.step askingTick).log = s.log.add addr p true := hlog
    have hgen' : (s.step askingTick).gen =
        (nextRequest { rand := 0, addr := 0x1000, coin := false } s.gen).2 := hgen
    refine ⟨?_, ?_, ?_, ?_, hgen' ▸ hsupplies⟩
    · rw [hlog']
      rfl
    · rw [hlog']
      exact List.length_append
    · rw [hgen', completed_nextRequest]
    · rw [hstep]

/-- The only request that is out is answered. -/
theorem step_answering {s : GeneratorRun ρ} (hout : s.log.out.length = 1) :
    (s.step (.response true 0 0)).log = { s.log with out := [] } ∧
      (s.step (.response true 0 0)).gen = { s.gen with completed := s.gen.completed + 1 } := by
  obtain ⟨req, hreq⟩ := List.length_eq_one_iff.mp hout
  rcases response_cases s true 0 0 with h | ⟨_, _, ⟨_, hgen, hlog⟩ | ⟨h, _⟩⟩
  · -- the step is not idle: there is a request to answer
    have hlog := congrArg (fun t : GeneratorRun ρ => t.log.out.length) h
    simp [step, hreq, handleDownstreamResponse, Heap.newResp, Packet.isResponse] at hlog
  · refine ⟨hlog.trans ?_, hgen⟩
    rw [hreq]
    rfl
  · cases h

/-- The first `j` requests are answered at once, the last two are not. -/
def inTurn : Nat → List (Action ρ)
  | 0 => [askingTick, askingTick]
  | j + 1 => askingTick :: .response true 0 0 :: inTurn j

/-- **One too many.** A tick comes to `issueRequest` with one request out, and it is taken. -/
theorem inTurn_taken {n : Nat} (hn : 1 ≤ n) (j : Nat) {s : GeneratorRun ρ}
    (hout : s.log.out.length = 0) (hgate : s.gen.completed + j < s.gen.numRequests)
    (hk : Supplies s.gen (j + 2)) :
    Library.Along step (AtMostOut n) s (inTurn j) ∧
      (Library.run step s (inTurn j)).log.taken = s.log.taken + (j + 2) ∧
      (Library.run step s (inTurn j)).gen.numRequests = s.gen.numRequests := by
  induction j generalizing s with
  | zero =>
      obtain ⟨ht1, ho1, hc1, hn1, hk1⟩ := step_asking (k := 1) (by omega) hk
      obtain ⟨ht2, -, -, hn2, -⟩ := step_asking (k := 0) (s := s.step askingTick)
        (by rw [hc1, hn1]; omega) hk1
      refine ⟨⟨fun _ => ?_, fun _ => ?_, trivial⟩, ht2.trans ?_, hn2.trans hn1⟩
      · rw [hout]
        exact Nat.zero_le n
      · rw [ho1, hout]
        exact hn
      · rw [ht1]
  | succ j ih =>
      obtain ⟨ht, ho, hc, hnum', hk'⟩ := step_asking (k := j + 2) (by omega) hk
      have hone : (s.step askingTick).log.out.length = 1 := by rw [ho, hout]
      obtain ⟨hlog, hgen⟩ := step_answering hone
      have hsupplies : Supplies ((s.step askingTick).step (.response true 0 0)).gen (j + 2) := by
        rw [hgen]
        exact hk'
      obtain ⟨halong, htaken, hnum⟩ := ih
        (s := (s.step askingTick).step (.response true 0 0))
        (by rw [hlog]; rfl) (by rw [hgen]; dsimp only; omega) hsupplies
      refine ⟨⟨fun _ => ?_, fun h => absurd h Bool.false_ne_true, halong⟩, htaken.trans ?_,
        hnum.trans ?_⟩
      · rw [hout]
        exact Nat.zero_le n
      · rw [hlog, ht]
        omega
      · rw [hgen]
        exact hnum'

/-- A generator that is not bounded breaks its budget as soon as one request may be out. -/
theorem exists_exceeding {m : TrafficGenerator} (hm : m.completed = 0) (hpos : 0 < m.numRequests)
    (hb : ¬ Bounded m) {k : Nat} (hk : 1 ≤ k) (heap : Heap) (env : ρ) :
    ∃ acts, Library.Along step (AtMostOut k) (start heap env m) acts ∧
      ¬ Library.Everywhere step Within (start heap env m) acts := by
  have hsupplies : Supplies m (m.numRequests.toNat - 1 + 2) := by
    intro hmode
    by_contra hlt
    refine hb (Or.inr ⟨hmode, ?_⟩)
    omega
  have hgate : (start heap env m).gen.completed + (m.numRequests.toNat - 1 : Nat) <
      (start heap env m).gen.numRequests := by
    show m.completed + (m.numRequests.toNat - 1 : Nat) < m.numRequests
    omega
  obtain ⟨halong, htaken, hnum⟩ := inTurn_taken hk _ (s := start heap env m) rfl hgate
    hsupplies
  refine ⟨_, halong, fun h => ?_⟩
  have hw := Library.everywhere_iff_prefix.mp h _ (List.prefix_refl _)
  unfold Within at hw
  rw [htaken, hnum] at hw
  have hbudget : (((start heap env m).log.taken + (m.numRequests.toNat - 1 + 2) : Nat) : Int) ≤
      m.numRequests := hw
  have hzero : (start heap env m).log.taken = 0 := rfl
  omega

/-- **WHEN THE BUDGET IS KEPT.** For every generator with `num_requests = n` as it is constructed,
    in every mode, no more than `n` requests are taken
    * in every run, exactly when `n` is 0 or the generator replays a trace of which no more than
      `n` entries are left;
    * in every run in which `tick` comes to `issueRequest` only when `k` taken requests or fewer are
      without their response, exactly when the generator is such a one or `k` is 0.

    With any `k`, no more than `n + k` are taken in these runs. -/
theorem within_iff_bounded (mode : GenMode) (curAddr : UInt64) (tracePos : Nat) (n : Int)
    (heap : Heap) (env : ρ) :
    let m : TrafficGenerator := { construct mode curAddr tracePos with numRequests := n }
    ((∀ acts, Library.Everywhere step Within (start heap env m) acts) ↔ Bounded m) ∧
      (∀ k : Nat, (∀ acts, Library.Along step (AtMostOut k) (start heap env m) acts →
        Library.Everywhere step Within (start heap env m) acts) ↔ Bounded m ∨ k = 0 ∧ 0 ≤ n) ∧
      ∀ (k : Nat) acts, 0 ≤ n + k ∧ Library.Along step (AtMostOut k) (start heap env m) acts →
        Library.Everywhere step (WithinBy k) (start heap env m) acts := by
  intro m
  have hby : ∀ (k : Nat) acts,
      0 ≤ n + k ∧ Library.Along step (AtMostOut k) (start heap env m) acts →
        Library.Everywhere step (WithinBy k) (start heap env m) acts :=
    fun k acts h => withinBy_of_atMostOut (s := start heap env m) rfl h.1 h.2
  have hall : Bounded m → ∀ acts, Library.Everywhere step Within (start heap env m) acts :=
    fun hb => within_of_bounded hb rfl (le_refl 0)
  have hexceeds : 0 ≤ n → ¬ Bounded m → ∀ k, 1 ≤ k → ∃ acts,
      Library.Along step (AtMostOut k) (start heap env m) acts ∧
        ¬ Library.Everywhere step Within (start heap env m) acts := fun hn hb k hk =>
    exists_exceeding rfl (lt_of_le_of_ne hn fun h0 => hb (Or.inl h0.symm)) hb hk heap env
  refine ⟨⟨fun h => ?_, hall⟩, fun k => ⟨fun h => ?_, fun h => ?_⟩, hby⟩
  · by_contra hb
    obtain ⟨acts, -, hnot⟩ := hexceeds (h []) hb 1 (le_refl 1)
    exact hnot (h acts)
  · have hn : 0 ≤ n := h [] trivial
    by_cases hb : Bounded m
    · exact Or.inl hb
    · refine Or.inr ⟨?_, hn⟩
      by_contra hk
      obtain ⟨acts, halong, hnot⟩ := hexceeds hn hb k (Nat.one_le_iff_ne_zero.mpr hk)
      exact hnot (h acts halong)
  · rcases h with hb | ⟨rfl, hn⟩
    · exact fun acts _ => hall hb acts
    · intro acts halong
      have hzero := hby 0 acts ⟨by simpa using hn, halong⟩
      rwa [withinBy_zero] at hzero

set_option maxRecDepth 4000 in
/-- No response has come yet when the twenty-first request is taken; and through the `SimObject`
    interface no response is counted, so a budget of one is not kept by answering at once. -/
theorem budget_exceeded :
    ¬ Library.Everywhere step Within (start {} () (construct .sequential 0x1000 0))
        (List.replicate 21 askingTick) ∧
      ¬ Library.Everywhere step Within
        (start {} () { construct .sequential 0x1000 0 with numRequests := 1 })
        [askingTick, .response false 0 0, askingTick] :=
  ⟨fun h => absurd (Library.everywhere_iff_prefix.mp h _ (List.prefix_refl _))
      (show ¬ ((21 : Nat) : Int) ≤ 20 by decide),
    fun h => absurd h.2.2.2 (show ¬ ((2 : Nat) : Int) ≤ 1 by decide)⟩

end GeneratorRun

end Gem5Sc
