/-!
# AgentHosting.Lib.Deadline

Loops that read a clock before each turn and end once it is past a deadline. A turn emits something
and then stops the loop or goes on; a loop that comes too late emits something else.

* `Loop.run`       — the loop as a function of the turns so far.
* `Outcome`        — the ways a run can stand: still going, too late, or stopped by a turn.
* `Loop.run_outcome` — every run stands in one of them.
* `Paced`          — clock readings that are at least a gap apart.
* `calls_le`, `finished_of_long` — how often a paced loop turns, and that it ends.
* `Prompt`         — clock readings that are at most a gap apart.
-/

namespace AgentHosting
namespace Deadline

variable {τ ε : Type}

/-- What a loop does in a turn: when it reads the clock, what it emits, whether it stops. -/
structure Loop (τ ε : Type) where
  now : τ → Nat
  emits : τ → List ε
  stops : τ → Bool
  /-- What is said when the deadline has passed. -/
  late : List ε

structure Polled (ε : Type) where
  events : List ε
  /-- The number of turns that found the deadline still ahead. -/
  calls : Nat
  finished : Bool

namespace Loop

def run (L : Loop τ ε) (deadline : Nat) : List τ → Polled ε
  | [] => ⟨[], 0, false⟩
  | t :: ts =>
    if L.now t > deadline then ⟨L.late, 0, true⟩
    else if L.stops t then ⟨L.emits t, 1, true⟩
    else ⟨L.emits t ++ (L.run deadline ts).events, (L.run deadline ts).calls + 1,
      (L.run deadline ts).finished⟩

/-- The turn is in time and does not stop the loop. -/
def GoesOn (L : Loop τ ε) (deadline : Nat) (t : τ) : Prop :=
  L.now t ≤ deadline ∧ L.stops t = false

end Loop

/-- How a run can stand after some turns. -/
inductive Outcome (L : Loop τ ε) (deadline : Nat) : List τ → Polled ε → Prop where
  | waiting {ts : List τ} : (∀ t ∈ ts, L.GoesOn deadline t) →
      Outcome L deadline ts ⟨ts.flatMap L.emits, ts.length, false⟩
  | late {ts : List τ} {t : τ} (rest : List τ) : (∀ t ∈ ts, L.GoesOn deadline t) →
      deadline < L.now t →
      Outcome L deadline (ts ++ t :: rest) ⟨ts.flatMap L.emits ++ L.late, ts.length, true⟩
  | stopped {ts : List τ} {t : τ} (rest : List τ) : (∀ t ∈ ts, L.GoesOn deadline t) →
      L.now t ≤ deadline → L.stops t = true →
      Outcome L deadline (ts ++ t :: rest) ⟨ts.flatMap L.emits ++ L.emits t, ts.length + 1, true⟩

section Outcomes

variable {L : Loop τ ε} {deadline : Nat}

theorem goesOn_cons {t : τ} {ts : List τ} (ht : L.GoesOn deadline t)
    (hts : ∀ t ∈ ts, L.GoesOn deadline t) : ∀ u ∈ t :: ts, L.GoesOn deadline u := by
  intro u hu
  rcases List.mem_cons.mp hu with rfl | hu
  · exact ht
  · exact hts u hu

/-- A turn that goes on, in front of a run. -/
theorem Outcome.cons {t : τ} {ts : List τ} {r : Polled ε} (ht : L.GoesOn deadline t)
    (h : Outcome L deadline ts r) :
    Outcome L deadline (t :: ts) ⟨L.emits t ++ r.events, r.calls + 1, r.finished⟩ := by
  cases h with
  | waiting hts => exact .waiting (goesOn_cons ht hts)
  | late rest hts hlate =>
    rw [← List.append_assoc]
    exact .late rest (goesOn_cons ht hts) hlate
  | stopped rest hts hnow hstops =>
    rw [← List.append_assoc]
    exact .stopped rest (goesOn_cons ht hts) hnow hstops

theorem Loop.run_outcome (L : Loop τ ε) (deadline : Nat) (ts : List τ) :
    Outcome L deadline ts (L.run deadline ts) := by
  induction ts with
  | nil => exact .waiting fun t h => nomatch h
  | cons t ts ih =>
    have hnone : ∀ u ∈ ([] : List τ), L.GoesOn deadline u := fun u h => nomatch h
    unfold run
    split
    · next hlate => exact .late ts hnone hlate
    · next hnow =>
      split
      · next hstops => exact .stopped ts hnone (Nat.le_of_not_lt hnow) hstops
      · next hgoes =>
        exact ih.cons ⟨Nat.le_of_not_lt hnow, by simpa using hgoes⟩

end Outcomes

/-! ## Pace -/

/-- Clock readings: the first not before `start`, the others at least `gap` after the one before. -/
def Paced (gap : Nat) : Nat → List Nat → Prop
  | _, [] => True
  | start, now :: clock => start ≤ now ∧ Paced gap (now + gap) clock

theorem Paced.append_left {gap start : Nat} {l l' : List Nat} (h : Paced gap start (l ++ l')) :
    Paced gap start l := by
  induction l generalizing start with
  | nil => trivial
  | cons now clock ih => exact ⟨h.1, ih h.2⟩

/-- The reading number `i` is at least `i` gaps after the start. -/
theorem Paced.getElem_ge {gap start : Nat} {clock : List Nat} (h : Paced gap start clock) {i : Nat}
    (hi : i < clock.length) : start + i * gap ≤ clock[i] := by
  induction clock generalizing start i with
  | nil => cases hi
  | cons now clock ih =>
    cases i with
    | zero => simpa using h.1
    | succ i =>
      have hnext := ih h.2 (Nat.lt_of_succ_lt_succ hi)
      have hstart := h.1
      rw [List.getElem_cons_succ, Nat.succ_mul]
      omega

/-- Only so many readings fit before a deadline. -/
theorem Paced.length_le {gap start deadline : Nat} (hgap : 0 < gap) {clock : List Nat}
    (h : Paced gap start clock) (hin : ∀ now ∈ clock, now ≤ deadline) :
    clock.length ≤ (deadline - start) / gap + 1 := by
  rcases Nat.eq_zero_or_pos clock.length with h0 | hpos
  · rw [h0]
    exact Nat.zero_le _
  · have hlast : clock.length - 1 < clock.length := by omega
    have hge := h.getElem_ge hlast
    have hle := hin _ (List.getElem_mem hlast)
    have hfit : clock.length - 1 ≤ (deadline - start) / gap :=
      (Nat.le_div_iff_mul_le hgap).mpr (by omega)
    exact Nat.sub_le_iff_le_add.mp hfit

/-- Clock readings: the first at most `gap` after `start`, the others after the one before. -/
def Prompt (gap : Nat) : Nat → List Nat → Prop
  | _, [] => True
  | start, now :: clock => now ≤ start + gap ∧ Prompt gap now clock

/-- The first turn that reads the clock past a moment reads it soon after. -/
theorem Prompt.first_after {now : τ → Nat} {gap start a : Nat} {ts : List τ}
    (h : Prompt gap start (ts.map now)) (hstart : start ≤ a) (hlate : ∃ t ∈ ts, a < now t) :
    ∃ front t back, ts = front ++ t :: back ∧ (∀ u ∈ front, now u ≤ a) ∧ a < now t ∧
      now t ≤ a + gap := by
  induction ts generalizing start with
  | nil =>
    obtain ⟨t, ht, -⟩ := hlate
    cases ht
  | cons t ts ih =>
    obtain ⟨hnow, hrest⟩ := h
    by_cases ht : a < now t
    · exact ⟨[], t, ts, rfl, fun u hu => absurd hu List.not_mem_nil, ht, by omega⟩
    · have hlate' : ∃ u ∈ ts, a < now u := by
        obtain ⟨u, hu, hau⟩ := hlate
        rcases List.mem_cons.mp hu with rfl | hu
        · exact (ht hau).elim
        · exact ⟨u, hu, hau⟩
      obtain ⟨front, u, back, rfl, hfront, hu, hle⟩ := ih hrest (by omega) hlate'
      refine ⟨t :: front, u, back, rfl, fun v hv => ?_, hu, hle⟩
      rcases List.mem_cons.mp hv with rfl | hv
      · omega
      · exact hfront v hv

section Bounds

variable {L : Loop τ ε} {gap start deadline : Nat} {ts : List τ} {r : Polled ε}

/-- The turns of a paced loop that found the deadline still ahead. -/
theorem Outcome.calls_le (h : Outcome L deadline ts r) (hgap : 0 < gap)
    (hpaced : Paced gap start (ts.map L.now)) : r.calls ≤ (deadline - start) / gap + 1 := by
  have hbound : ∀ ts : List τ, Paced gap start (ts.map L.now) → (∀ t ∈ ts, L.now t ≤ deadline) →
      ts.length ≤ (deadline - start) / gap + 1 := by
    intro ts hpaced hin
    rw [← List.length_map L.now]
    exact hpaced.length_le hgap (List.forall_mem_map.mpr hin)
  cases h with
  | waiting hts => exact hbound _ hpaced fun t ht => (hts t ht).1
  | late rest hts hlate =>
    rw [List.map_append] at hpaced
    exact hbound _ hpaced.append_left fun t ht => (hts t ht).1
  | @stopped ts t rest hts hnow hstops =>
    have hsplit : ts ++ t :: rest = (ts ++ [t]) ++ rest := by simp
    rw [hsplit, List.map_append] at hpaced
    have hin : ∀ u ∈ ts ++ [t], L.now u ≤ deadline := by
      intro u hu
      rcases List.mem_append.mp hu with hu | hu
      · exact (hts u hu).1
      · rw [List.mem_singleton.mp hu]
        exact hnow
    have hlength := hbound _ hpaced.append_left hin
    rwa [List.length_append, List.length_singleton] at hlength

/-- A paced loop has ended after one turn more than fit before the deadline. -/
theorem Outcome.finished_of_long (h : Outcome L deadline ts r) (hgap : 0 < gap)
    (hpaced : Paced gap start (ts.map L.now))
    (hlong : (deadline - start) / gap + 1 < ts.length) : r.finished = true := by
  have hcalls := h.calls_le hgap hpaced
  cases h with
  | waiting hts => exact absurd hlong (Nat.not_lt.mpr hcalls)
  | late rest hts hlate => rfl
  | stopped rest hts hnow hstops => rfl

end Bounds

end Deadline
end AgentHosting
