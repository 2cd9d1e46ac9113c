import AgentHosting.Lib.Json

/-!
# AgentHosting.Lib.Schema

Structural schemas: what a store that has one keeps of a JSON value, and whether it then takes it.
Members the schema does not name are dropped; one that is absent or `null` gets its default, if any.

* `keep`, `admits` — the two halves of a write.
* `keep_idem`      — what is kept is kept as it is.
* `field_keep`, `field_dropped` — a member as a decoder finds it, once it has been kept or dropped.
-/

namespace AgentHosting

open Json

inductive Schema where
  | string (values : Option (List String))
  | integer
  | array (items : Schema)
  | object (names required : List String) (members : String → Schema)
      (defaults : String → Option Json)

namespace Schema

/-- An object with these members, each with its default. -/
def properties (required : List String) (ms : List (String × Schema × Option Json)) : Schema :=
  .object (ms.map Prod.fst) required (fun k => ((ms.lookup k).map Prod.fst).getD (.string none))
    fun k => (ms.lookup k).bind Prod.snd

/-- One member: a `null` counts as absent. -/
def keepMember (keep : Json → Json) (dflt : Option Json) : Option Json → Option Json
  | none | some .null => dflt
  | some v => some (keep v)

def keep : Schema → Json → Json
  | .object names _ members defaults, .obj f =>
    .obj fun k => if k ∈ names then keepMember (members k).keep (defaults k) (f k) else none
  | .array items, .arr xs => .arr (xs.map items.keep)
  | _, v => v
termination_by structural s => s

def admits : Schema → Json → Bool
  | .string values, .str s => values.all (·.contains s)
  | .integer, .num _ => true
  | .array items, .arr xs => xs.all items.admits
  | .object names required members _, .obj f =>
    required.all (fun k => (f k).isSome) && names.all fun k => (f k).all (members k).admits
  | _, _ => false
termination_by structural s => s

/-- Every default is a value that is kept as it is. -/
def Sound : Schema → Prop
  | .object names _ members defaults => ∀ k ∈ names, (members k).Sound ∧
      ∀ d, defaults k = some d → d ≠ .null ∧ (members k).keep d = d
  | .array items => items.Sound
  | _ => True
termination_by structural s => s

theorem keepMember_some {keep : Json → Json} {dflt : Option Json} {v : Json} (h : v ≠ .null) :
    keepMember keep dflt (some v) = some (keep v) := by
  cases v with
  | null => exact (h rfl).elim
  | _ => rfl

theorem keep_ne_null (s : Schema) {v : Json} (h : v ≠ .null) : s.keep v ≠ .null := by
  cases s <;> cases v <;> simp_all [keep]

theorem keepMember_idem {keep : Json → Json} {dflt : Option Json}
    (hnull : ∀ v, v ≠ .null → keep v ≠ .null) (hidem : ∀ v, keep (keep v) = keep v)
    (hdflt : ∀ d, dflt = some d → d ≠ .null ∧ keep d = d) (m : Option Json) :
    keepMember keep dflt (keepMember keep dflt m) = keepMember keep dflt m := by
  have hkept : keepMember keep dflt dflt = dflt := by
    cases dflt with
    | none => rfl
    | some d =>
      obtain ⟨hd, hkeep⟩ := hdflt d rfl
      rw [keepMember_some hd, hkeep]
  cases m with
  | none => exact hkept
  | some v =>
    by_cases hv : v = .null
    · subst hv
      exact hkept
    · rw [keepMember_some hv, keepMember_some (hnull v hv), hidem]

theorem keep_idem {s : Schema} (h : s.Sound) (v : Json) : s.keep (s.keep v) = s.keep v := by
  induction s generalizing v with
  | string values => rfl
  | integer => rfl
  | array items ih =>
    cases v with
    | arr xs => simp only [keep, List.map_map, Function.comp_def, ih h]
    | _ => rfl
  | object names required members defaults ih =>
    cases v with
    | obj f =>
      simp only [keep]
      refine congrArg Json.obj (funext fun k => ?_)
      by_cases hk : k ∈ names
      · simp only [if_pos hk]
        exact keepMember_idem (fun v => keep_ne_null _) (ih k (h k hk).1) (h k hk).2 (f k)
      · simp only [if_neg hk]
    | _ => rfl

theorem admits_object {names required : List String} {members : String → Schema}
    {defaults g : String → Option Json} (hrequired : ∀ k ∈ required, (g k).isSome)
    (hmembers : ∀ k ∈ names, ∀ v, g k = some v → (members k).admits v = true) :
    (Schema.object names required members defaults).admits (.obj g) = true := by
  rw [admits, Bool.and_eq_true]
  refine ⟨List.all_eq_true.mpr hrequired, List.all_eq_true.mpr fun k hk => ?_⟩
  cases hv : g k with
  | none => rfl
  | some v => exact hmembers k hk v hv

/-! ## Members as a decoder finds them -/

section Field

variable {α : Type} {decode : Json → Option α} {f g : String → Option Json} {k : String}

theorem field_dropped {absent : Option α} (h : g k = none) : field g k absent decode = absent := by
  simp only [field, h]

/-- A member whose decoder does not see the difference, and has the schema's default. -/
theorem field_keep {s : Schema} {dflt : Option Json} {absent : Option α} {x : α}
    (hg : g k = keepMember s.keep dflt (f k))
    (hdecode : ∀ v x, decode v = some x → decode (s.keep v) = some x)
    (hdflt : ∀ d, dflt = some d → decode d = absent)
    (hnull : ∀ x, decode .null = some x → absent = some x)
    (h : field f k absent decode = some x) : field g k absent decode = some x := by
  have hfilled : absent = some x → g k = dflt → field g k absent decode = some x := by
    intro habsent hk
    simp only [field, hk]
    cases hd : dflt with
    | none => exact habsent
    | some d => exact (hdflt d hd).trans habsent
  cases hf : f k with
  | none =>
    simp only [field, hf] at h
    exact hfilled h (by rw [hg, hf]; rfl)
  | some v =>
    simp only [field, hf] at h
    by_cases hv : v = .null
    · subst hv
      exact hfilled (hnull x h) (by rw [hg, hf]; rfl)
    · simp only [field, hg, hf, keepMember_some hv]
      exact hdecode v x h

/-- An array whose elements decode as before. -/
theorem seq_keep {items : Schema}
    (h : ∀ v x, decode v = some x → decode (items.keep v) = some x) {v : Json} {xs : List α}
    (hv : seq decode v = some xs) : seq decode ((Schema.array items).keep v) = some xs := by
  cases v with
  | arr vs =>
    simp only [seq, keep] at hv ⊢
    induction vs generalizing xs with
    | nil => exact hv
    | cons v vs ih =>
      rw [List.mapM_cons] at hv
      obtain ⟨x, hx, hv⟩ := Option.bind_eq_some_iff.mp hv
      obtain ⟨xs', hxs, hv⟩ := Option.bind_eq_some_iff.mp hv
      rw [List.map_cons, List.mapM_cons, h v x hx, ih hxs]
      exact hv
  | _ => cases hv

end Field

end Schema

end AgentHosting
