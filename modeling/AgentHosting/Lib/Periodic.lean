import Mathlib.Order.Basic
import Mathlib.Order.Lattice

/-!
# AgentHosting.Lib.Periodic

A task that is done again and again: each turn takes at most so long, and the next one starts after
it, at the latest when a pause that the turn asked for is over. It may start earlier.

* `Repeats`            — a list of turns, in order, that keeps these times.
* `Repeats.first_from` — the first turn that starts from a given moment on starts soon after it.
-/

namespace AgentHosting
namespace Periodic

variable {τ : Type}

/-- When a turn starts and stops, and how long the next one may be put off. -/
structure Timing (τ : Type) where
  start : τ → Nat
  stop : τ → Nat
  pause : τ → Nat

/-- The turn takes at most `limit`. -/
def Timing.Lasts (T : Timing τ) (limit : Nat) (t : τ) : Prop :=
  T.start t ≤ T.stop t ∧ T.stop t ≤ T.start t + limit

/-- The second turn follows the first, no later than it may. -/
def Timing.Follows (T : Timing τ) (t u : τ) : Prop :=
  T.stop t ≤ T.start u ∧ T.start u ≤ T.stop t + T.pause t

/-- The turns keep their times. -/
inductive Repeats (T : Timing τ) (limit : Nat) : List τ → Prop where
  | nil : Repeats T limit []
  | single {t : τ} : T.Lasts limit t → Repeats T limit [t]
  | cons {t u : τ} {ts : List τ} : T.Lasts limit t → T.Follows t u →
      Repeats T limit (u :: ts) → Repeats T limit (t :: u :: ts)

namespace Repeats

variable {T : Timing τ} {limit : Nat}

theorem lasts {t : τ} {ts : List τ} (h : Repeats T limit (t :: ts)) : T.Lasts limit t := by
  cases h with
  | single ht => exact ht
  | cons ht _ _ => exact ht

theorem tail {t : τ} {ts : List τ} (h : Repeats T limit (t :: ts)) : Repeats T limit ts := by
  cases h with
  | single _ => exact .nil
  | cons _ _ hts => exact hts

theorem of_append {ts us : List τ} (h : Repeats T limit (ts ++ us)) : Repeats T limit us := by
  induction ts with
  | nil => exact h
  | cons t ts ih => exact ih h.tail

/-- Later turns start after earlier ones stop. -/
theorem stop_le {t : τ} {ts : List τ} (h : Repeats T limit (t :: ts)) :
    ∀ u ∈ ts, T.stop t ≤ T.start u := by
  induction ts generalizing t with
  | nil => simp
  | cons u ts ih =>
    cases h with
    | cons _ hfollows hts =>
      intro v hv
      rcases List.mem_cons.mp hv with rfl | hv
      · exact hfollows.1
      · exact hfollows.1.trans (hts.lasts.1.trans (ih hts v hv))

/-- The first turn that starts from the moment `a` on: it starts at most one turn and one pause
after it, if there was a turn before. -/
theorem first_from {pause a : Nat} {t₀ : τ} {ts : List τ} (h : Repeats T limit (t₀ :: ts))
    (hpause : ∀ t ∈ t₀ :: ts, T.pause t ≤ pause) (hbefore : T.start t₀ ≤ a)
    (hlater : ∃ u ∈ t₀ :: ts, a ≤ T.start u) :
    ∃ front t back, t₀ :: ts = front ++ t :: back ∧ (∀ u ∈ front, T.start u < a) ∧
      a ≤ T.start t ∧ T.start t ≤ a + limit + pause := by
  induction ts generalizing t₀ with
  | nil =>
    obtain ⟨u, hu, hau⟩ := hlater
    obtain rfl := List.mem_singleton.mp hu
    exact ⟨[], u, [], rfl, by simp, hau, by omega⟩
  | cons u ts ih =>
    by_cases ha : a ≤ T.start t₀
    · exact ⟨[], t₀, u :: ts, rfl, by simp, ha, by omega⟩
    · cases h with
      | cons hlasts hfollows hts =>
        by_cases hu : a ≤ T.start u
        · -- the turn before started too early, so this one is not far off
          have hstop := hlasts.2
          have hstart := hfollows.2
          have hp := hpause t₀ List.mem_cons_self
          exact ⟨[t₀], u, ts, rfl, by simpa using ha, hu, by omega⟩
        · have hlater' : ∃ v ∈ u :: ts, a ≤ T.start v := by
            obtain ⟨v, hv, hav⟩ := hlater
            rcases List.mem_cons.mp hv with rfl | hv
            · exact (ha hav).elim
            · exact ⟨v, hv, hav⟩
          obtain ⟨front, t, back, hsplit, hfront, hat, hle⟩ := ih hts
            (fun v hv => hpause v (List.mem_cons_of_mem _ hv)) (by omega) hlater'
          refine ⟨t₀ :: front, t, back, by rw [hsplit, List.cons_append], fun v hv => ?_, hat, hle⟩
          rcases List.mem_cons.mp hv with rfl | hv
          · omega
          · exact hfront v hv

end Repeats

end Periodic
end AgentHosting
