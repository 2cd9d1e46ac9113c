/-!
# AgentHosting.Lib.Text

Cutting a sequence at a separator, as argument parsers and shells do.

* `splitOnce`  — the parts before and after the first occurrence of an element.
* `afterLast`  — the part after the last occurrence of a sequence.
* `splitOnce_eq_some`, `afterLast_append` — what the parts are, and when they are read back.
-/

namespace AgentHosting
namespace Text

variable {α : Type} [DecidableEq α]

/-! ## The first occurrence of an element -/

def splitOnce (sep : α) : List α → Option (List α × List α)
  | [] => none
  | c :: cs => if c = sep then some ([], cs) else (splitOnce sep cs).map fun p => (c :: p.1, p.2)

theorem splitOnce_append {sep : α} {l : List α} (h : sep ∉ l) (r : List α) :
    splitOnce sep (l ++ sep :: r) = some (l, r) := by
  induction l with
  | nil => simp [splitOnce]
  | cons c cs ih =>
    simp only [List.mem_cons, not_or] at h
    obtain ⟨hc, hcs⟩ := h
    rw [List.cons_append, splitOnce, if_neg (Ne.symm hc), ih hcs]
    rfl

theorem splitOnce_eq_some {sep : α} {s l r : List α} :
    splitOnce sep s = some (l, r) ↔ s = l ++ sep :: r ∧ sep ∉ l := by
  constructor
  · intro h
    induction s generalizing l with
    | nil => cases h
    | cons c cs ih =>
      rw [splitOnce] at h
      split at h
      · next hc =>
        cases h
        exact ⟨by rw [hc]; rfl, by simp⟩
      · next hc =>
        obtain ⟨⟨l', r'⟩, hsplit, heq⟩ := Option.map_eq_some_iff.mp h
        cases heq
        obtain ⟨rfl, hl⟩ := ih hsplit
        exact ⟨rfl, by simp [Ne.symm hc, hl]⟩
  · rintro ⟨rfl, h⟩
    exact splitOnce_append h r

theorem splitOnce_eq_none {sep : α} {s : List α} : splitOnce sep s = none ↔ sep ∉ s := by
  induction s with
  | nil => simp [splitOnce]
  | cons c cs ih =>
    by_cases hc : c = sep
    · simp [splitOnce, hc]
    · simp [splitOnce, hc, ih, Ne.symm hc]

/-! ## The last occurrence of a sequence -/

def afterLast (pat : List α) : List α → Option (List α)
  | [] => if pat = [] then some [] else none
  | c :: cs =>
    match afterLast pat cs with
    | some rest => some rest
    | none => if pat.isPrefixOf (c :: cs) then some ((c :: cs).drop pat.length) else none

/-- What stands in front does not matter once there is an occurrence. -/
theorem afterLast_prepend {pat s rest : List α} (h : afterLast pat s = some rest) (l : List α) :
    afterLast pat (l ++ s) = some rest := by
  induction l with
  | nil => exact h
  | cons c l ih => rw [List.cons_append, afterLast, ih]

theorem afterLast_eq_none {pat s : List α} (hpat : pat ≠ []) (h : ∀ t, t <:+ s → ¬ pat <+: t) :
    afterLast pat s = none := by
  induction s with
  | nil => rw [afterLast, if_neg hpat]
  | cons c s ih =>
    have hrest : afterLast pat s = none :=
      ih fun t ht => h t (ht.trans (List.suffix_cons c s))
    have hhere : ¬ pat.isPrefixOf (c :: s) = true := fun hp =>
      h (c :: s) List.suffix_rfl (List.isPrefixOf_iff_prefix.mp hp)
    rw [afterLast, hrest]
    exact if_neg hhere

/-- A sequence that ends in an element the rest does not have: nothing after it is cut off. -/
theorem afterLast_append {q : List α} {c : α} {r : List α} (h : c ∉ r) (l : List α) :
    afterLast (q ++ [c]) (l ++ (q ++ [c]) ++ r) = some r := by
  rw [List.append_assoc]
  refine afterLast_prepend ?_ l
  obtain ⟨d, w, hw⟩ : ∃ d w, q ++ [c] = d :: w := List.exists_cons_of_ne_nil (by simp)
  have hlength : w.length = q.length := by
    have := congrArg List.length hw
    simpa using this.symm
  -- a later occurrence would need its last element in the rest
  have hnone : afterLast (q ++ [c]) (w ++ r) = none := by
    refine afterLast_eq_none (by simp) ?_
    rintro t ⟨v, hv⟩ ⟨u, rfl⟩
    apply h
    have hsplit : r = ((v ++ q) ++ c :: u).drop w.length := by
      have hwhole : (v ++ q) ++ c :: u = w ++ r := by
        rw [← hv]
        simp
      rw [hwhole, List.drop_left]
    rw [hsplit, List.drop_append_of_le_length (by simp [hlength])]
    simp
  have hstarts : (q ++ [c]).isPrefixOf ((q ++ [c]) ++ r) = true :=
    List.isPrefixOf_iff_prefix.mpr (List.prefix_append _ _)
  have hdrop : ((q ++ [c]) ++ r).drop (q ++ [c]).length = r := List.drop_left
  rw [hw, List.cons_append] at hstarts hdrop ⊢
  rw [hw] at hnone
  rw [afterLast, hnone]
  simp only [hstarts, if_true, hdrop]

end Text
end AgentHosting
