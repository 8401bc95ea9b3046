import Mathlib.Data.List.MinMax
import InfixCalculator.Proofs.Machine.Effect

/-!
# Chains of operands and operators

A chain is a first operand with links behind it, each an operator and an operand.  Its
meaning is found by splitting it at the operator that is applied last: among the operators of
lowest priority the first right-associative one, or else the last one (`Link.meaning`).

Reading the links in order gives the same (`Held.reading_eq_meaning`).  A reader keeps the
operators that wait for their right operand, each with its left operand, and before it takes
an operator in it combines those that outrank it.  What carries the proof: an operator that
outranks no operator behind it stays below all of them (`Held.read_above`).
-/

namespace InfixCalculator

/-- An operator, and the outcome of the operand behind it. -/
structure Link where
  operator : Operator
  operand : Outcome

namespace Link

/-- Whether no link binds less than this one. -/
def isLowest (links : List Link) (link : Link) : Bool :=
  links.all fun other => link.operator.priority ≤ other.operator.priority

/-- What stands before, at and behind the first link with a property. -/
def splitFirst (property : Link → Bool) : List Link → Option (List Link × Link × List Link)
  | [] => none
  | link :: links =>
      if property link then some ([], link, links)
      else (splitFirst property links).map fun (before, found, behind) =>
        (link :: before, found, behind)

/-- What stands before, at and behind the last link with a property. -/
def splitLast (property : Link → Bool) : List Link → Option (List Link × Link × List Link)
  | [] => none
  | link :: links =>
      match splitLast property links with
      | some (before, found, behind) => some (link :: before, found, behind)
      | none => if property link then some ([], link, links) else none

/-- What stands before, at and behind the link whose operator is applied last: among the
operators of lowest priority the first right-associative one, or else the last one. -/
def splitApplied (links : List Link) : Option (List Link × Link × List Link) :=
  (splitFirst (fun link => link.isLowest links && link.operator.associativity == .right)
    links).or (splitLast (isLowest links) links)

variable {property : Link → Bool} {links before behind : List Link} {link : Link}

theorem splitFirst_eq_none (absent : splitFirst property links = none) :
    ∀ other ∈ links, property other = false := by
  induction links with
  | nil => exact fun other member => absurd member List.not_mem_nil
  | cons first rest ih =>
      rw [splitFirst] at absent
      split at absent
      · cases absent
      · rename_i fails
        rw [Option.map_eq_none_iff] at absent
        intro other member
        rcases List.mem_cons.mp member with same | old
        · exact same ▸ Bool.eq_false_iff.mpr fails
        · exact ih absent other old

/-- The first link with the property: none before it has the property. -/
theorem splitFirst_eq_some (split : splitFirst property links = some (before, link, behind)) :
    links = before ++ link :: behind ∧ property link = true ∧
      ∀ other ∈ before, property other = false := by
  induction links generalizing before with
  | nil => cases split
  | cons first rest ih =>
      rw [splitFirst] at split
      split at split
      · rename_i holds
        cases split
        exact ⟨rfl, holds, fun other member => absurd member List.not_mem_nil⟩
      · rename_i fails
        obtain ⟨⟨earlier, found, later⟩, inner, same⟩ := Option.map_eq_some_iff.mp split
        cases same
        obtain ⟨whole, holds, none⟩ := ih inner
        refine ⟨congrArg (first :: ·) whole, holds, ?_⟩
        intro other member
        rcases List.mem_cons.mp member with same | old
        · exact same ▸ Bool.eq_false_iff.mpr fails
        · exact none other old

theorem splitLast_eq_none (absent : splitLast property links = none) :
    ∀ other ∈ links, property other = false := by
  induction links with
  | nil => exact fun other member => absurd member List.not_mem_nil
  | cons first rest ih =>
      rw [splitLast] at absent
      split at absent
      · cases absent
      · rename_i inner
        split at absent
        · cases absent
        · rename_i fails
          intro other member
          rcases List.mem_cons.mp member with same | old
          · exact same ▸ Bool.eq_false_iff.mpr fails
          · exact ih inner other old

/-- The last link with the property: none behind it has the property. -/
theorem splitLast_eq_some (split : splitLast property links = some (before, link, behind)) :
    links = before ++ link :: behind ∧ property link = true ∧
      ∀ other ∈ behind, property other = false := by
  induction links generalizing before with
  | nil => cases split
  | cons first rest ih =>
      rw [splitLast] at split
      split at split
      · rename_i earlier found later inner
        cases split
        obtain ⟨whole, holds, none⟩ := ih inner
        exact ⟨congrArg (first :: ·) whole, holds, none⟩
      · rename_i inner
        split at split
        · rename_i holds
          cases split
          exact ⟨rfl, holds, splitLast_eq_none inner⟩
        · cases split

/-- Nothing binds less than an operator of lowest priority. -/
theorem priority_le_of_isLowest (lowest : link.isLowest links = true) {other : Link}
    (member : other ∈ links) : link.operator.priority ≤ other.operator.priority :=
  of_decide_eq_true (List.all_eq_true.mp lowest other member)

/-- What is not of lowest priority binds more than what is. -/
theorem priority_lt_of_not_isLowest (lowest : link.isLowest links = true) {other : Link}
    (higher : other.isLowest links = false) :
    link.operator.priority < other.operator.priority := by
  obtain ⟨lower, member, less⟩ := List.all_eq_false.mp higher
  have above := priority_le_of_isLowest lowest member
  rw [decide_eq_true_eq] at less
  omega

/-- Where no right-associative operator of lowest priority stands, every operator outranks
one of lowest priority. -/
theorem outranks_of_isLowest (lowest : link.isLowest links = true) {other : Link}
    (member : other ∈ links)
    (waits : (other.isLowest links && other.operator.associativity == .right) = false) :
    other.operator.outranks link.operator = true := by
  unfold Operator.outranks
  split
  · rename_i right
    rw [right, beq_self_eq_true, Bool.and_true] at waits
    exact decide_eq_true (priority_lt_of_not_isLowest lowest waits)
  · exact decide_eq_true (priority_le_of_isLowest lowest member)

/-- Every chain with links has an operator that is applied last. -/
theorem splitApplied_eq_none (absent : splitApplied links = none) : links = [] := by
  by_contra nonempty
  have unfound := splitLast_eq_none (Option.or_eq_none_iff.mp absent).2
  obtain ⟨lowest, found⟩ :=
    Option.ne_none_iff_exists'.mp (mt List.argmin_eq_none.mp nonempty :
      List.argmin (fun link : Link => link.operator.priority) links ≠ none)
  have isLowest : lowest.isLowest links = true := by
    apply List.all_eq_true.mpr
    intro other member
    have above : lowest.operator.priority ≤ other.operator.priority :=
      List.le_of_mem_argmin (f := fun link : Link => link.operator.priority) member found
    exact decide_eq_true above
  rw [unfound lowest (List.argmin_mem found)] at isLowest
  cases isLowest

/-- The operator that is applied last is outranked by those before it and outranks none of
those behind it. -/
theorem splitApplied_eq_some (split : splitApplied links = some (before, link, behind)) :
    links = before ++ link :: behind ∧
      (∀ other ∈ before, other.operator.outranks link.operator = true) ∧
      ∀ other ∈ behind, link.operator.outranks other.operator = false := by
  -- Either some operator of lowest priority groups from the right, or none does.
  rcases Option.or_eq_some_iff.mp split with first | ⟨absent, last⟩
  · obtain ⟨whole, chosen, passed⟩ := splitFirst_eq_some first
    rw [Bool.and_eq_true, beq_iff_eq] at chosen
    obtain ⟨lowest, right⟩ := chosen
    refine ⟨whole, ?_, ?_⟩
    · intro other member
      exact outranks_of_isLowest lowest (whole ▸ List.mem_append_left _ member)
        (passed other member)
    · intro other member
      have above := priority_le_of_isLowest lowest
        (whole ▸ List.mem_append_right _ (List.mem_cons_of_mem _ member) : other ∈ links)
      rw [Operator.outranks, if_pos right, decide_eq_false_iff_not]
      omega
  · have unfound := splitFirst_eq_none absent
    obtain ⟨whole, lowest, higher⟩ := splitLast_eq_some last
    have chosen : link ∈ links := whole ▸ List.mem_append_right _ List.mem_cons_self
    refine ⟨whole, ?_, ?_⟩
    · intro other member
      have inside : other ∈ links := whole ▸ List.mem_append_left _ member
      exact outranks_of_isLowest lowest inside (unfound other inside)
    · intro other member
      have above := priority_lt_of_not_isLowest lowest (higher other member)
      have notRight : ¬ link.operator.associativity = .right := by
        have passed := unfound link chosen
        rw [lowest, Bool.true_and, beq_eq_false_iff_ne] at passed
        exact passed
      rw [Operator.outranks, if_neg notRight, decide_eq_false_iff_not]
      omega

/-- Both sides of a split are shorter, so the meaning of a chain can recur on them. -/
theorem length_of_splitApplied (split : splitApplied links = some (before, link, behind)) :
    before.length < links.length ∧ behind.length < links.length := by
  rw [(splitApplied_eq_some split).1, List.length_append, List.length_cons]
  omega

/-- The meaning of a chain: split at the operator that is applied last, find the left part,
then the right part, then combine the two. -/
def meaning (first : Outcome) (links : List Link) : Outcome :=
  match split : splitApplied links with
  | none => first
  | some (before, link, behind) =>
      have := length_of_splitApplied split
      do
        let left ← meaning first before
        let right ← meaning link.operand behind
        link.operator.combine left right
termination_by links.length

end Link

/-! ## Reading in order -/

/-- An operator that waits for its right operand, with its left operand. -/
structure Pending where
  operator : Operator
  left : Int

/-- What a reader holds: the operators that wait, the latest first, and the latest operand. -/
structure Held where
  pending : List Pending
  value : Int

namespace Held

/-- Combines the waiting operators with the latest operand as long as they are due. -/
def settle (due : Operator → Bool) : List Pending → Int → Except FaultKind Held
  | [], value => .ok ⟨[], value⟩
  | first :: rest, value =>
      if due first.operator then do
        let combined ← first.operator.combine first.left value
        settle due rest combined
      else .ok ⟨first :: rest, value⟩

/-- Combines all waiting operators with the latest operand. -/
def collapse : List Pending → Int → Outcome
  | [], value => .ok value
  | first :: rest, value => do
      let combined ← first.operator.combine first.left value
      collapse rest combined

/-- Takes in a link: combines what outranks its operator, then takes its operand. -/
def advance (held : Held) (link : Link) : Except FaultKind Held := do
  let settled ← settle (·.outranks link.operator) held.pending held.value
  let right ← link.operand
  return ⟨⟨link.operator, settled.value⟩ :: settled.pending, right⟩

/-- The same with one more operator that waits below all others. -/
def above (lower : Pending) (held : Held) : Held :=
  { held with pending := held.pending ++ [lower] }

variable {due other : Operator → Bool} {pending : List Pending} {value : Int}
  {lower : Pending} {held next : Held} {link : Link} {links : List Link}

theorem settle_congr (agree : ∀ waits ∈ pending, due waits.operator = other waits.operator) :
    settle due pending value = settle other pending value := by
  induction pending generalizing value with
  | nil => rfl
  | cons first rest ih =>
      obtain ⟨same, rest⟩ := List.forall_mem_cons.mp agree
      rw [settle, settle, same]
      simp only [ih rest]

/-- Where every operator is due, nothing waits in the end. -/
theorem settle_of_due (all : ∀ waits ∈ pending, due waits.operator = true) :
    settle due pending value = (Held.mk []) <$> collapse pending value := by
  induction pending generalizing value with
  | nil => rfl
  | cons first rest ih =>
      obtain ⟨holds, rest⟩ := List.forall_mem_cons.mp all
      rw [settle, collapse, if_pos holds, map_bind]
      simp only [ih rest]

/-- An operator that is not due stays, with everything below it. -/
theorem settle_above (fails : due lower.operator = false) :
    settle due (pending ++ [lower]) value = above lower <$> settle due pending value := by
  induction pending generalizing value with
  | nil =>
      rw [List.nil_append, settle, settle, if_neg (Bool.eq_false_iff.mp fails)]
      rfl
  | cons first rest ih =>
      rw [List.cons_append, settle, settle]
      split
      · rw [map_bind]
        simp only [ih]
      · rfl

/-- What waits at the bottom is applied last. -/
theorem collapse_above :
    collapse (pending ++ [lower]) value =
      collapse pending value >>= lower.operator.combine lower.left := by
  induction pending generalizing value with
  | nil =>
      rw [List.nil_append, collapse]
      exact bind_pure _
  | cons first rest ih =>
      rw [List.cons_append, collapse, collapse, bind_assoc]
      simp only [ih]

/-- What waits after settling was waiting before. -/
theorem mem_of_settle (settled : settle due pending value = .ok next) :
    ∀ waits ∈ next.pending, waits ∈ pending := by
  induction pending generalizing value with
  | nil =>
      cases settled
      exact fun waits member => member
  | cons first rest ih =>
      rw [settle] at settled
      split at settled
      · obtain ⟨combined, _, later⟩ := bind_eq_ok_iff.mp settled
        exact fun waits member => List.mem_cons_of_mem _ (ih later waits member)
      · cases settled
        exact fun waits member => member

/-- What holds of the operators that wait and of a link's operator holds of what waits behind
the link. -/
theorem forall_of_advance (property : Operator → Prop)
    (waiting : ∀ waits ∈ held.pending, property waits.operator)
    (linked : property link.operator) (advanced : held.advance link = .ok next) :
    ∀ waits ∈ next.pending, property waits.operator := by
  obtain ⟨settled, settles, rest⟩ := bind_eq_ok_iff.mp advanced
  obtain ⟨right, _, result⟩ := bind_eq_ok_iff.mp rest
  cases result
  intro waits member
  rcases List.mem_cons.mp member with same | old
  · exact same ▸ linked
  · exact waiting waits (mem_of_settle settles waits old)

/-- What holds of the operators that wait and of the links still holds when the links are read. -/
theorem forall_of_read (property : Operator → Prop)
    (waiting : ∀ waits ∈ held.pending, property waits.operator)
    (linked : ∀ link ∈ links, property link.operator)
    (read : links.foldlM advance held = .ok next) :
    ∀ waits ∈ next.pending, property waits.operator := by
  induction links generalizing held with
  | nil =>
      cases read
      exact waiting
  | cons link rest ih =>
      obtain ⟨first, later⟩ := List.forall_mem_cons.mp linked
      rw [List.foldlM_cons] at read
      obtain ⟨between, advanced, readRest⟩ := bind_eq_ok_iff.mp read
      exact ih (forall_of_advance property waiting first advanced) later readRest

/-- An operator that is not outranked does not stir what waits below it. -/
theorem advance_above (fails : lower.operator.outranks link.operator = false) :
    (held.above lower).advance link = above lower <$> held.advance link := by
  unfold advance
  rw [above, settle_above fails, map_bind, bind_map_left]
  simp only [map_bind]
  rfl

/-- Links that the operator below does not outrank leave it where it is. -/
theorem read_above (lower : Pending) (held : Held)
    (fails : ∀ link ∈ links, lower.operator.outranks link.operator = false) :
    links.foldlM advance (held.above lower) = above lower <$> links.foldlM advance held := by
  induction links generalizing held with
  | nil => rfl
  | cons link rest ih =>
      obtain ⟨first, later⟩ := List.forall_mem_cons.mp fails
      rw [List.foldlM_cons, List.foldlM_cons, advance_above first, bind_map_left, map_bind]
      exact bind_congr fun between => ih between later

/-- A link whose operator everything that waits is combined before. -/
theorem advance_of_outranked
    (all : ∀ waits ∈ held.pending, waits.operator.outranks link.operator = true) :
    held.advance link = do
      let left ← collapse held.pending held.value
      let right ← link.operand
      return ⟨[⟨link.operator, left⟩], right⟩ := by
  unfold advance
  rw [settle_of_due all, bind_map_left]

/-- The value of a chain, read in order. -/
def reading (first : Outcome) (links : List Link) : Outcome := do
  let value ← first
  let held ← links.foldlM advance ⟨[], value⟩
  collapse held.pending held.value

/-- A reading can be cut at a link that is combined after what stands before it and that
waits for what stands behind it. -/
theorem reading_append {first : Outcome} {before behind : List Link}
    (outranked : ∀ other ∈ before, other.operator.outranks link.operator = true)
    (waits : ∀ other ∈ behind, link.operator.outranks other.operator = false) :
    reading first (before ++ link :: behind) =
      (do
        let left ← reading first before
        let right ← reading link.operand behind
        link.operator.combine left right) := by
  unfold reading
  rw [bind_assoc]
  refine bind_congr fun value => ?_
  rw [List.foldlM_append, bind_assoc, bind_assoc]
  refine bind_congr_of_ok fun held read => ?_
  have all := forall_of_read (·.outranks link.operator = true)
    (fun _ member => absurd member List.not_mem_nil) outranked read
  rw [List.foldlM_cons, advance_of_outranked all, bind_assoc, bind_assoc]
  refine bind_congr fun left => ?_
  rw [bind_assoc, bind_assoc]
  refine bind_congr fun right => ?_
  have below : behind.foldlM advance ⟨[⟨link.operator, left⟩], right⟩ =
      above ⟨link.operator, left⟩ <$> behind.foldlM advance ⟨[], right⟩ :=
    read_above ⟨link.operator, left⟩ ⟨[], right⟩ waits
  rw [pure_bind, bind_assoc, below, bind_map_left]
  exact bind_congr fun last => collapse_above

/-- Reading a chain in order gives its meaning. -/
theorem reading_eq_meaning (first : Outcome) (links : List Link) :
    reading first links = Link.meaning first links := by
  fun_induction Link.meaning first links with
  | case1 first links absent =>
      rw [Link.splitApplied_eq_none absent]
      exact bind_pure first
  | case2 first links before link behind split shorter ihBefore ihBehind =>
      obtain ⟨whole, outranked, waits⟩ := Link.splitApplied_eq_some split
      rw [whole, reading_append outranked waits, ihBefore]
      simp only [ihBehind]

end Held

end InfixCalculator
