/-!
# AgentHosting.Lib.Json

JSON values and JSON merge patch (RFC 7386). An object is a partial map from keys to values, so two
objects with the same members are equal whatever order they were written in.

* `mergePatch p t`   — the target `t` patched by `p`: a `null` member removes the key, an absent
  member keeps it, an object is merged recursively, every other value (arrays included) replaces.
* `mergePatch_idem`  — applying one patch twice is applying it once.
* `mergePatch_absorb` — a patch absorbs an earlier patch whose members are some of its own.
* `field`, `opt`, `seq` — the building blocks of typed decoders.
-/

namespace AgentHosting

/-- A JSON value. `num` is an integer literal; `float` is any other number, by its bits. -/
inductive Json where
  | null
  | bool (b : Bool)
  | num (z : Int)
  | float (bits : UInt64)
  | str (s : String)
  | arr (xs : List Json)
  | obj (members : String → Option Json)

namespace Json

/-- The member `k` of an object; other values have no members. -/
def get? : Json → String → Option Json
  | .obj f, k => f k
  | _, _ => none

/-- The object with the listed members; the first entry of a key is the one that counts. -/
def object (kvs : List (String × Json)) : Json := .obj fun k => kvs.lookup k

/-- The object with the listed members, those given as `none` left out. -/
def record (kvs : List (String × Option Json)) : Json := .obj fun k => (kvs.lookup k).join

@[simp] theorem get?_obj (f : String → Option Json) (k : String) : (Json.obj f).get? k = f k := rfl

@[simp] theorem get?_null (k : String) : Json.null.get? k = none := rfl

@[simp] theorem get?_object (kvs : List (String × Json)) (k : String) :
    (object kvs).get? k = kvs.lookup k := rfl

@[simp] theorem get?_record (kvs : List (String × Option Json)) (k : String) :
    (record kvs).get? k = (kvs.lookup k).join := rfl

/-! ## Merge patch -/

mutual

/-- `mergePatch p t` is `t` after the patch `p`. -/
def mergePatch : Json → Json → Json
  | .obj p, t => .obj fun k => mergeField (p k) (t.get? k)
  | v, _ => v
termination_by structural p => p

/-- One member: the patch's member first, then the target's. -/
def mergeField : Option Json → Option Json → Option Json
  | none, old => old
  | some .null, _ => none
  | some v, old => some (mergePatch v (old.getD .null))
termination_by structural p => p

end

@[simp] theorem mergeField_none (old : Option Json) : mergeField none old = old := by
  simp only [mergeField]

@[simp] theorem mergeField_null (old : Option Json) : mergeField (some .null) old = none := by
  simp only [mergeField]

@[simp] theorem mergeField_str (s : String) (old : Option Json) :
    mergeField (some (.str s)) old = some (.str s) := by
  simp only [mergeField, mergePatch]

@[simp] theorem mergeField_num (z : Int) (old : Option Json) :
    mergeField (some (.num z)) old = some (.num z) := by
  simp only [mergeField, mergePatch]

@[simp] theorem mergeField_arr (xs : List Json) (old : Option Json) :
    mergeField (some (.arr xs)) old = some (.arr xs) := by
  simp only [mergeField, mergePatch]

@[simp] theorem mergeField_obj (p : String → Option Json) (old : Option Json) :
    mergeField (some (.obj p)) old = some (mergePatch (.obj p) (old.getD .null)) := by
  simp only [mergeField]

@[simp] theorem get?_mergePatch_obj (p : String → Option Json) (t : Json) (k : String) :
    (mergePatch (.obj p) t).get? k = mergeField (p k) (t.get? k) := by
  simp only [mergePatch, get?_obj]

theorem mergePatch_obj_eq (p : String → Option Json) (t : Json) :
    mergePatch (.obj p) t = .obj fun k => mergeField (p k) (t.get? k) := by
  simp only [mergePatch]

/-- An object patched by an object is read member by member. -/
theorem obj_mergePatch_ext {p q : String → Option Json} {t u : Json}
    (h : ∀ k, mergeField (p k) (t.get? k) = mergeField (q k) (u.get? k)) :
    mergePatch (.obj p) t = mergePatch (.obj q) u := by
  rw [mergePatch_obj_eq, mergePatch_obj_eq]
  exact congrArg Json.obj (funext h)

mutual

theorem mergePatch_idem : ∀ p t : Json, mergePatch p (mergePatch p t) = mergePatch p t
  | .null, _ | .bool _, _ | .num _, _ | .float _, _ | .str _, _ | .arr _, _ => by
    simp only [mergePatch]
  | .obj p, t => obj_mergePatch_ext fun k => by
    rw [get?_mergePatch_obj]
    exact mergeField_idem (p k) (t.get? k)
termination_by structural p => p

theorem mergeField_idem :
    ∀ p old : Option Json, mergeField p (mergeField p old) = mergeField p old
  | none, _ => by simp only [mergeField]
  | some .null, _ => by simp only [mergeField]
  | some (.bool _), _ | some (.num _), _ | some (.float _), _ | some (.str _), _
  | some (.arr _), _ => by simp only [mergeField, mergePatch]
  | some (.obj p), old => by
    simp only [mergeField_obj, Option.getD_some]
    rw [mergePatch_idem (.obj p) (old.getD .null)]
termination_by structural p => p

end

/-- A patch absorbs an earlier one whose members are some of its own. -/
theorem mergePatch_absorb {p q : String → Option Json} (h : ∀ k, q k = p k ∨ q k = none)
    (t : Json) : mergePatch (.obj p) (mergePatch (.obj q) t) = mergePatch (.obj p) t := by
  refine obj_mergePatch_ext fun k => ?_
  rw [get?_mergePatch_obj]
  rcases h k with hk | hk
  · rw [hk, mergeField_idem]
  · rw [hk, mergeField_none]

/-! ## Decoding -/

/-- A member of an object, with the value it takes when the key is absent (`none`: required). -/
def field {α : Type} (f : String → Option Json) (k : String) (absent : Option α)
    (decode : Json → Option α) : Option α :=
  match f k with
  | none => absent
  | some v => decode v

def string? : Json → Option String
  | .str s => some s
  | _ => none

def bool? : Json → Option Bool
  | .bool b => some b
  | _ => none

/-- A 32-bit signed integer; integers out of range and other numbers are refused. -/
def i32? : Json → Option Int32
  | .num z => if -2147483648 ≤ z ∧ z < 2147483648 then some (Int32.ofInt z) else none
  | _ => none

def ofI32 (x : Int32) : Json := .num x.toInt

/-- An optional value: `null` is none. -/
def opt {α : Type} (decode : Json → Option α) : Json → Option (Option α)
  | .null => some none
  | v => (decode v).map some

/-- An array whose elements all decode. -/
def seq {α : Type} (decode : Json → Option α) : Json → Option (List α)
  | .arr xs => xs.mapM decode
  | _ => none

/-- A list that is left out when empty. -/
def skipEmpty {α : Type} (encode : α → Json) : List α → Option Json
  | [] => none
  | x :: xs => some (.arr ((x :: xs).map encode))

theorem skipEmpty_map {α β : Type} (encode : β → Json) (g : α → β) (xs : List α) :
    skipEmpty encode (xs.map g) = skipEmpty (fun x => encode (g x)) xs := by
  cases xs with
  | nil => rfl
  | cons x xs => simp [skipEmpty]

/-- The encoding of a value that is written as `null` when absent. -/
def ofOption : Option Json → Json
  | none => .null
  | some v => v

@[simp] theorem opt_string?_str (s : String) : opt string? (.str s) = some (some s) := rfl

@[simp] theorem opt_null {α : Type} (d : Json → Option α) : opt d .null = some none := rfl

@[simp] theorem string?_str (s : String) : string? (.str s) = some s := rfl

@[simp] theorem bool?_bool (b : Bool) : bool? (.bool b) = some b := rfl

@[simp] theorem i32?_ofI32 (x : Int32) : i32? (ofI32 x) = some x := by
  have h1 := x.le_toInt
  have h2 := x.toInt_lt
  simp only [ofI32, i32?, Int32.ofInt_toInt]
  exact if_pos ⟨h1, h2⟩

@[simp] theorem opt_i32?_ofI32 (x : Int32) : opt i32? (ofI32 x) = some (some x) := by
  show (i32? (ofI32 x)).map some = _
  rw [i32?_ofI32]
  rfl

/-- Decoders that differ by a function on the elements differ by it on the arrays. -/
theorem seq_comp {α β : Type} {decode : Json → Option α} {decode' : Json → Option β} {g : α → β}
    (h : ∀ v, decode' v = (decode v).map g) (v : Json) :
    seq decode' v = (seq decode v).map (List.map g) := by
  cases v with
  | arr xs =>
    simp only [seq]
    induction xs with
    | nil => rfl
    | cons x xs ih =>
      simp only [List.mapM_cons, h, ih]
      cases decode x with
      | none => rfl
      | some a => cases xs.mapM decode <;> rfl
  | _ => rfl

theorem seq_map {α : Type} {encode : α → Json} {decode : Json → Option α}
    (h : ∀ x, decode (encode x) = some x) (xs : List α) :
    seq decode (.arr (xs.map encode)) = some xs := by
  simp only [seq]
  induction xs with
  | nil => rfl
  | cons x xs ih => simp only [List.map_cons, List.mapM_cons, h, ih]; rfl

/-- A decoder and its default, carried along a function. -/
theorem field_comp {α β : Type} {decode : Json → Option α} {decode' : Json → Option β} {g : α → β}
    (h : ∀ v, decode' v = (decode v).map g) (f : String → Option Json) (k : String)
    (absent : Option α) :
    field f k (absent.map g) decode' = (field f k absent decode).map g := by
  unfold field
  cases f k with
  | none => rfl
  | some v => exact h v

theorem field_comp_iff {α β : Type} {decode : Json → Option α} {decode' : Json → Option β}
    {g : α → β} (hg : Function.Injective g) (h : ∀ v, decode' v = (decode v).map g)
    (f : String → Option Json) (k : String) (absent : Option α) (x : α) :
    field f k (absent.map g) decode' = some (g x) ↔ field f k absent decode = some x := by
  rw [field_comp h]
  constructor
  · intro hx
    obtain ⟨x', hx', heq⟩ := Option.map_eq_some_iff.mp hx
    rw [hx', hg heq]
  · intro hx
    rw [hx]
    rfl

/-! ## Reading back an encoded object -/

section ReadBack

variable {α : Type} {encode : α → Json} {decode : Json → Option α} {f : String → Option Json}
  {k : String}

theorem field_present {absent : Option α} {v : Json} {x : α} (hdecode : decode v = some x)
    (h : f k = some v) : field f k absent decode = some x := by
  simp only [field, h, hdecode]

theorem field_ofOption (hdecode : ∀ x, opt decode (encode x) = some (some x)) {x : Option α}
    (h : f k = some (ofOption (x.map encode))) :
    field f k (some none) (opt decode) = some x := by
  cases x with
  | none => exact field_present rfl h
  | some x => exact field_present (hdecode x) h

theorem field_skip (hdecode : ∀ x, opt decode (encode x) = some (some x)) {x : Option α}
    (h : f k = x.map encode) : field f k (some none) (opt decode) = some x := by
  cases x with
  | none => simp only [field, h, Option.map_none]
  | some x => exact field_present (hdecode x) h

/-- A member that takes its default when absent. -/
theorem field_getD (hdecode : ∀ x, decode (encode x) = some x) {absent : α} {x : Option α}
    (h : f k = x.map encode) : field f k (some absent) decode = some (x.getD absent) := by
  cases x with
  | none => simp only [field, h, Option.map_none, Option.getD_none]
  | some x => exact field_present (hdecode x) h

theorem field_skipEmpty (hdecode : ∀ x, decode (encode x) = some x) {xs : List α}
    (h : f k = skipEmpty encode xs) : field f k (some []) (seq decode) = some xs := by
  cases xs with
  | nil => simp only [field, h, skipEmpty]
  | cons x xs => exact field_present (seq_map hdecode (x :: xs)) h

/-- A string that was read stands there. -/
theorem member_of_opt_string {text : String}
    (h : field f k (some none) (opt string?) = some (some text)) : f k = some (.str text) := by
  cases hk : f k with
  | none => simp [field, hk] at h
  | some v =>
    simp only [field, hk] at h
    cases v with
    | str s =>
      obtain rfl := Option.some.inj (Option.some.inj h)
      rfl
    | _ => cases h

end ReadBack

/-! ## Decoding a patched object -/

section Patched

variable {α : Type} {encode : α → Json} {decode : Json → Option α} {p f : String → Option Json}
  {k : String}

/-- A member the patch does not name. -/
theorem field_merge_absent {absent : Option α} (hp : p k = none) :
    field (fun k => mergeField (p k) (f k)) k absent decode = field f k absent decode := by
  simp only [field, hp, mergeField_none]

/-- A member the patch sets to a string. -/
theorem field_merge_str {absent : Option α} {text : String} {x : α}
    (hdecode : decode (.str text) = some x) (hp : p k = some (.str text)) :
    field (fun k => mergeField (p k) (f k)) k absent decode = some x := by
  simp only [field, hp, mergeField_str, hdecode]

/-- A member that is written as `null` when absent: the patch decides it. -/
theorem field_merge_ofOption (hscalar : ∀ x old, mergeField (some (encode x)) old = some (encode x))
    (hdecode : ∀ x, opt decode (encode x) = some (some x)) {new : Option α}
    (hp : p k = some (ofOption (new.map encode))) :
    field (fun k => mergeField (p k) (f k)) k (some none) (opt decode) = some new := by
  cases new with
  | none => simp [field, hp, ofOption]
  | some x => simp [field, hp, ofOption, hscalar, hdecode]

/-- A member that is left out when absent: the old value stays. -/
theorem field_merge_skip (hscalar : ∀ x old, mergeField (some (encode x)) old = some (encode x))
    (hdecode : ∀ x, opt decode (encode x) = some (some x)) {new old : Option α}
    (hp : p k = new.map encode) (hold : field f k (some none) (opt decode) = some old) :
    field (fun k => mergeField (p k) (f k)) k (some none) (opt decode) = some (new.or old) := by
  cases new with
  | none => simpa [field, hp] using hold
  | some x => simp [field, hp, hscalar, hdecode]

/-- A list that is left out when empty: the old list stays. -/
theorem field_merge_skipEmpty (hdecode : ∀ x, decode (encode x) = some x) {new old : List α}
    (hp : p k = skipEmpty encode new) (hold : field f k (some []) (seq decode) = some old) :
    field (fun k => mergeField (p k) (f k)) k (some []) (seq decode) =
      some (if new = [] then old else new) := by
  cases new with
  | nil => simpa [field, hp, skipEmpty] using hold
  | cons x xs =>
    have hxs := seq_map hdecode (x :: xs)
    simp only [List.map_cons] at hxs
    simp [field, hp, skipEmpty, hxs]

end Patched

end Json

end AgentHosting
