import AgentHosting.Kube.Objects

/-!
# AgentHosting.Kube.Validation

What the API server demands of an object before it stores it: the form of names and labels, the
ports of a Service, the mounts of a container. An object that breaks a rule is refused.

* `dns1035_of_subdomain` — a prefixed subdomain is a label when it has no dot and fits.
-/

namespace AgentHosting
namespace Kube

/-! ## Names -/

def isLowerAlnum (c : Char) : Bool := c.isLower || c.isDigit

def isLabelChar (c : Char) : Bool := isLowerAlnum c || c == '-'

/-- Lowercase letters, digits and inner dashes, the first character as `first` asks. -/
def isDnsLabel (first : Char → Bool) (cs : List Char) : Bool :=
  cs.head?.any first && cs.all isLabelChar && cs.getLast?.any isLowerAlnum

/-- The name of a Service. -/
def isDns1035Label (s : String) : Bool :=
  isDnsLabel Char.isLower s.toList && decide (s.length ≤ 63)

/-- The name of a custom resource. -/
def isDns1123Subdomain (s : String) : Bool :=
  (s.toList.splitOn '.').all (isDnsLabel isLowerAlnum) && decide (s.length ≤ 253)

theorem isDnsLabel_ne_nil {first : Char → Bool} {cs : List Char} (h : isDnsLabel first cs = true) :
    cs ≠ [] := by
  rintro rfl
  simp [isDnsLabel] at h

theorem not_dot_mem_of_isDnsLabel {first : Char → Bool} {cs : List Char}
    (h : isDnsLabel first cs = true) : '.' ∉ cs := by
  intro hdot
  simp only [isDnsLabel, Bool.and_eq_true] at h
  have hchar := List.all_eq_true.mp h.1.2 '.' hdot
  exact absurd hchar (by decide)

/-- In front of a label, letters and dashes only have to start right. -/
theorem isDnsLabel_append {first first' : Char → Bool} {pre cs : List Char}
    (hpre : pre.head?.any first = true) (hall : pre.all isLabelChar = true)
    (h : isDnsLabel first' cs = true) : isDnsLabel first (pre ++ cs) = true := by
  have hne := isDnsLabel_ne_nil h
  simp only [isDnsLabel, Bool.and_eq_true] at h ⊢
  refine ⟨⟨?_, ?_⟩, ?_⟩
  · cases pre with
    | nil => simp at hpre
    | cons c pre => exact hpre
  · rw [List.all_append, hall, h.1.2]
    rfl
  · rw [List.getLast?_append, List.getLast?_eq_some_getLast hne, Option.some_or,
      ← List.getLast?_eq_some_getLast hne]
    exact h.2

theorem isDnsLabel_of_subdomain {s : String} (h : isDns1123Subdomain s = true)
    (hdot : '.' ∉ s.toList) : isDnsLabel isLowerAlnum s.toList = true := by
  simp only [isDns1123Subdomain, List.splitOn_eq_singleton hdot, Bool.and_eq_true] at h
  simpa using h.1

theorem dns1035_of_subdomain {pre name : String} (hpre : pre.toList.head?.any Char.isLower = true)
    (hall : pre.toList.all isLabelChar = true) (h : isDns1123Subdomain name = true) :
    isDns1035Label (pre ++ name) = true ↔
      '.' ∉ name.toList ∧ pre.length + name.length ≤ 63 := by
  simp only [isDns1035Label, String.toList_append, String.length_append, Bool.and_eq_true,
    decide_eq_true_eq]
  constructor
  · rintro ⟨hlabel, hlength⟩
    have hdot := not_dot_mem_of_isDnsLabel hlabel
    exact ⟨fun hmem => hdot (List.mem_append_right _ hmem), hlength⟩
  · rintro ⟨hdot, hlength⟩
    exact ⟨isDnsLabel_append hpre hall (isDnsLabel_of_subdomain h hdot), hlength⟩

theorem mem_intercalate {x c : Char} {parts : List (List Char)}
    (h : c ∈ [x].intercalate parts) : c = x ∨ ∃ p ∈ parts, c ∈ p := by
  induction parts with
  | nil => simp [List.intercalate] at h
  | cons p parts ih =>
    cases parts with
    | nil =>
      simp only [List.intercalate_singleton] at h
      exact .inr ⟨p, List.mem_cons_self, h⟩
    | cons q parts =>
      rw [List.intercalate_cons_cons] at h
      simp only [List.mem_append, List.mem_singleton] at h
      rcases h with (h | h) | h
      · exact .inr ⟨p, List.mem_cons_self, h⟩
      · exact .inl h
      · rcases ih h with h | ⟨r, hr, h⟩
        · exact .inl h
        · exact .inr ⟨r, List.mem_cons_of_mem _ hr, h⟩

/-- A subdomain has no other characters than those of its labels and dots. -/
theorem not_mem_subdomain {s : String} (h : isDns1123Subdomain s = true) {c : Char} (hdot : c ≠ '.')
    (hlabel : isLabelChar c = false) : c ∉ s.toList := by
  intro hc
  rw [isDns1123Subdomain, Bool.and_eq_true] at h
  have hjoin : ['.'].intercalate (s.toList.splitOn '.') = s.toList := List.intercalate_splitOn '.'
  rw [← hjoin] at hc
  rcases mem_intercalate hc with rfl | ⟨p, hp, hc⟩
  · exact hdot rfl
  · have hpart := List.all_eq_true.mp h.1 p hp
    simp only [isDnsLabel, Bool.and_eq_true] at hpart
    have hchar := List.all_eq_true.mp hpart.1.2 c hc
    rw [hlabel] at hchar
    exact Bool.false_ne_true hchar

/-! ## Names in a URL -/

/-- The client puts the name of an object into the URL as it is; a name like this one stays one
segment of the path. With others, `a?x` or none, the call is about another object or is not made. -/
def IsSegment (name : String) : Prop :=
  name.toList.head?.any isLabelChar = true ∧ ∀ c ∈ name.toList, c = '.' ∨ isLabelChar c = true

theorem IsSegment.append {name : String} (h : IsSegment name) {pre : String}
    (hpre : pre.toList.head?.any isLabelChar = true) (hall : pre.toList.all isLabelChar = true) :
    IsSegment (pre ++ name) := by
  rw [IsSegment, String.toList_append]
  refine ⟨?_, fun c hc => ?_⟩
  · cases hlist : pre.toList with
    | nil => exact h.1
    | cons c cs =>
      rw [hlist] at hpre
      exact hpre
  · rcases List.mem_append.mp hc with hc | hc
    · exact .inr (List.all_eq_true.mp hall c hc)
    · exact h.2 c hc

/-! ## Objects -/

def ObjectMeta.LabelsFit (m : ObjectMeta) : Prop :=
  ∀ kv ∈ m.labels.getD [], kv.2.length ≤ 63

structure PortsValid (ports : List ServicePort) : Prop where
  someport : ports ≠ []
  named : ∀ p ∈ ports, p.name.getD "" ≠ ""
  namesDistinct : (ports.map (·.name)).Nodup
  portsDistinct : (ports.map (·.port)).Nodup
  inRange : ∀ p ∈ ports, 1 ≤ p.port.toInt ∧ p.port.toInt ≤ 65535

structure Service.Valid (svc : Service) : Prop where
  name : isDns1035Label (svc.metadata.name.getD "") = true
  labels : svc.metadata.LabelsFit
  ports : PortsValid ((svc.spec.bind (·.ports)).getD [])

/-- No two mounts of a container are at one path. -/
def Container.MountsDistinct (c : Container) : Prop :=
  ((c.volumeMounts.getD []).map (·.mountPath)).Nodup

structure Pod.Valid (p : Pod) : Prop where
  labels : p.metadata.LabelsFit
  mounts : ∀ c ∈ (p.spec.map (·.containers)).getD [], c.MountsDistinct

end Kube
end AgentHosting
