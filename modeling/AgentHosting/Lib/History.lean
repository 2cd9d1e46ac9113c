import AgentHosting.Lib.Pool

/-!
# AgentHosting.Lib.History

Runs whose steps depend on what was there before: a reader that acts on a value it saw earlier, an
identifier that must be new.

* `visited`            — the states of a run, from the first to the last.
* `Recalls`            — every step of a run satisfies a condition on it and on the states so far.
* `Run.invariant_past` — what every such step keeps, of a state and the states so far, holds at the
  end.
* `Pool.progs_past`    — the programs of a pool keep a property that refers to the states so far.
-/

namespace AgentHosting

section Visited

variable {σ ℓ : Type}

/-- The states of a run with these steps that ends in `s`. -/
def visited (tr : List (σ × ℓ)) (s : σ) : List σ := tr.map Prod.fst ++ [s]

theorem mem_visited_last (tr : List (σ × ℓ)) (s : σ) : s ∈ visited tr s := by
  simp [visited]

theorem mem_visited_of_mem {tr : List (σ × ℓ)} {e : σ × ℓ} (h : e ∈ tr) (s : σ) :
    e.1 ∈ visited tr s :=
  List.mem_append_left _ (List.mem_map_of_mem h)

theorem visited_snoc (tr : List (σ × ℓ)) (s s' : σ) (l : ℓ) :
    visited (tr ++ [(s, l)]) s' = visited tr s ++ [s'] := by
  simp [visited]

/-- Every step satisfies `G`, which may refer to the states up to the step. -/
def Recalls (G : List σ → σ → ℓ → Prop) (tr : List (σ × ℓ)) : Prop :=
  ∀ front e back, tr = front ++ e :: back → G (visited front e.1) e.1 e.2

theorem Recalls.front {G : List σ → σ → ℓ → Prop} {tr tr' : List (σ × ℓ)}
    (h : Recalls G (tr ++ tr')) : Recalls G tr := by
  intro front e back htr
  refine h front e (back ++ tr') ?_
  rw [htr, List.append_assoc, List.cons_append]

theorem Recalls.last {G : List σ → σ → ℓ → Prop} {tr : List (σ × ℓ)} {e : σ × ℓ}
    (h : Recalls G (tr ++ [e])) : G (visited tr e.1) e.1 e.2 :=
  h tr e [] rfl

/-- A condition that does not look back. -/
theorem Recalls.of_forall {G : List σ → σ → ℓ → Prop} {tr : List (σ × ℓ)}
    (h : ∀ e ∈ tr, ∀ past, e.1 ∈ past → G past e.1 e.2) : Recalls G tr := by
  rintro front e back rfl
  exact h e (by simp) _ (mem_visited_last _ _)

/-- What every step keeps of a state and the states so far. -/
theorem Run.invariant_past {step : σ → ℓ → σ → Prop} {I : List σ → σ → Prop}
    {G : List σ → σ → ℓ → Prop}
    (hstep : ∀ past s l s', I past s → G past s l → step s l s' → I (past ++ [s']) s') {s s' : σ}
    {tr : List (σ × ℓ)} (h : Run step s tr s') (hg : Recalls G tr) (hi : I [s] s) :
    I (visited tr s') s' := by
  induction h with
  | nil => exact hi
  | @snoc s1 s2 tr l _ hs ih =>
    rw [visited_snoc]
    exact hstep _ _ _ _ (ih hg.front) hg.last hs

end Visited

namespace Pool

variable {ι C α σ : Type} {R : C → Type} [DecidableEq ι] {spawns : ι → Prog C R α → Prop}
  {serves : σ → (c : C) → R c → σ → Prop} {env : σ → σ → Prop}

theorem Step.narrow {w w' : Pool ι C R α σ} {l : Label ι C R α}
    (h : Step spawns serves env w l w') :
    Step (fun i p => l = .spawn i p) serves env w l w' := by
  cases h with
  | spawn hi _ => exact .spawn hi rfl
  | call hi hs => exact .call hi hs
  | exit hi => exact .exit hi
  | env he => exact .env he

/-- A property of programs that may refer to the states so far: it passes from a program to what it
does after a call, and stays as more states are passed. -/
theorem progs_past {P : List (Pool ι C R α σ) → ι → Prog C R α → Prop}
    (hgrow : ∀ past w i p, P past i p → P (past ++ [w]) i p)
    (hnext : ∀ past i c k, P past i (.call c k) → ∀ r, P past i (k r))
    {past : List (Pool ι C R α σ)} {w w' : Pool ι C R α σ} {l : Label ι C R α}
    (h : w.ProgsIn (P past)) (hspawn : ∀ i p, l = .spawn i p → P past i p)
    (hs : Step spawns serves env w l w') : w'.ProgsIn (P (past ++ [w'])) := by
  have hkept : w'.ProgsIn (P past) := progs_step hspawn (hnext past) h hs.narrow
  exact fun i p hp => hgrow _ _ _ _ (hkept i p hp)

end Pool

end AgentHosting
