import Mathlib.Logic.Relation
import InfixCalculator.Failure

/-!
# Which classes of failures are others

A failure is one of its class and of every class that this class descends from.  The classes form a
hierarchy below `FailureClass.any` that an engine may extend (`FailureClass.HasParent`).  Two kinds
of fault have two parents: an undefined division is a fault of the calculator and a division by zero
too, and a result that is too large is an overflow.  What is read off the listed generalizations is
what the parents say (`FailureClass.isA_iff`).
-/

namespace InfixCalculator

namespace FailureClass

/-- The first class names the second one as its parent. -/
inductive HasParent : FailureClass → FailureClass → Prop
  | value : HasParent value any
  | arithmetic : HasParent arithmetic any
  | zeroDivision : HasParent zeroDivision arithmetic
  | overflow : HasParent overflow arithmetic
  | general : HasParent (calculator .general) value
  | calculator {kind : FaultKind} (special : kind ≠ .general) :
      HasParent (calculator kind) (calculator .general)
  | divisionByZero : HasParent (calculator .divisionByZero) zeroDivision
  | resultOverflow : HasParent (calculator .resultOverflow) overflow
  | unforeseen (name : String) : HasParent (unforeseen name) any
  | derived (name : String) (parent : FailureClass) : HasParent (derived name parent) parent

/-- The first class is the second one or descends from it. -/
abbrev Specialises : FailureClass → FailureClass → Prop :=
  Relation.ReflTransGen HasParent

variable {specific general parent : FailureClass}

theorem isA_eq_true_iff :
    specific.isA general = true ↔
      general = any ∨ specific = general ∨ general ∈ specific.generalizations := by
  simp only [isA, Bool.or_eq_true, beq_iff_eq, List.contains_iff_mem, or_assoc]

/-- Every kind of fault descends from the general one. -/
theorem specialises_general (kind : FaultKind) :
    (calculator kind).Specialises (calculator .general) := by
  by_cases general : kind = .general
  · rw [general]
  · exact .single (.calculator general)

theorem specialises_value (kind : FaultKind) : (calculator kind).Specialises value :=
  (specialises_general kind).tail .general

theorem specialises_any (failureClass : FailureClass) : failureClass.Specialises any := by
  induction failureClass with
  | any => exact .refl
  | value => exact .single .value
  | arithmetic => exact .single .arithmetic
  | zeroDivision => exact .tail (.single .zeroDivision) .arithmetic
  | overflow => exact .tail (.single .overflow) .arithmetic
  | calculator kind => exact (specialises_value kind).tail .value
  | unforeseen name => exact .single (.unforeseen name)
  | derived name parent ih => exact ih.head (.derived name parent)

/-- What is listed above a class is reached through its parents. -/
theorem specialises_of_mem (member : general ∈ specific.generalizations) :
    specific.Specialises general := by
  induction specific with
  | any | value | arithmetic | unforeseen => cases member
  | zeroDivision =>
      cases List.mem_singleton.mp member
      exact .single .zeroDivision
  | overflow =>
      cases List.mem_singleton.mp member
      exact .single .overflow
  | calculator kind =>
      cases kind with
      | general =>
          cases List.mem_singleton.mp member
          exact .single .general
      | divisionByZero =>
          simp only [generalizations, List.mem_cons, List.not_mem_nil, or_false] at member
          rcases member with rfl | rfl | rfl | rfl
          · exact specialises_general _
          · exact specialises_value _
          · exact .single .divisionByZero
          · exact .tail (.single .divisionByZero) .zeroDivision
      | resultOverflow =>
          simp only [generalizations, List.mem_cons, List.not_mem_nil, or_false] at member
          rcases member with rfl | rfl | rfl | rfl
          · exact specialises_general _
          · exact specialises_value _
          · exact .single .resultOverflow
          · exact .tail (.single .resultOverflow) .overflow
      | invalidToken | unknownOperator | unmatchedGroup | stackUnderflow =>
          simp only [generalizations, List.mem_cons, List.not_mem_nil, or_false] at member
          rcases member with rfl | rfl
          · exact specialises_general _
          · exact specialises_value _
  | derived name parent ih =>
      apply Relation.ReflTransGen.head (.derived name parent)
      rcases List.mem_cons.mp member with rfl | further
      · exact .refl
      · exact ih further

/-- A direct parent is the class of all failures, or it is listed. -/
theorem HasParent.eq_any_or_mem (named : specific.HasParent parent) :
    parent = any ∨ parent ∈ specific.generalizations := by
  cases named with
  | @calculator kind special => cases kind <;> simp [generalizations] at special ⊢
  | _ => simp [generalizations]

/-- What a parent specialises, its children specialise. -/
theorem HasParent.generalizations_subset (named : specific.HasParent parent) :
    parent.generalizations ⊆ specific.generalizations := by
  cases named with
  | @calculator kind special => cases kind <;> simp [generalizations] at special ⊢
  | _ => simp [generalizations]

/-- What a parent is, its children are. -/
theorem HasParent.isA (named : specific.HasParent parent) (isA : parent.isA general = true) :
    specific.isA general = true := by
  rw [isA_eq_true_iff] at isA ⊢
  rcases isA with all | rfl | further
  · exact Or.inl all
  · exact named.eq_any_or_mem.imp_right Or.inr
  · exact Or.inr (Or.inr (named.generalizations_subset further))

/-- A class is another one exactly if it descends from it. -/
theorem isA_iff : specific.isA general = true ↔ specific.Specialises general := by
  constructor
  · intro isA
    rcases isA_eq_true_iff.mp isA with rfl | rfl | further
    · exact specialises_any specific
    · exact .refl
    · exact specialises_of_mem further
  · -- From the general end down: what a parent is, the class below it is.
    intro specialises
    induction specialises using Relation.ReflTransGen.head_induction_on with
    | refl => exact isA_eq_true_iff.mpr (Or.inr (Or.inl rfl))
    | head named _ ih => exact named.isA ih

end FailureClass

end InfixCalculator
