import Mathlib.Data.List.Basic
import Mathlib.Tactic.Lemma
import SearchGateway.Proofs.Faults

/-!
# Obstacles

A compiler walks over a query from left to right and stops at the first part that it has no form
for.  This file sets up how that is said of any compiler.  A result is *characterized* by a
condition under which it is a value and by a relation that says with which errors it fails; running
one computation after the other puts the two together (`Characterized.bind`).  Over a list of parts
the condition is that all of them are supported, and the errors are those of the first part that is
not (`FirstObstacle`), whether the parts are the clauses of a query or the comparisons at the leaves
of a criterion, which the list of its mentions has from left to right.
-/
namespace SearchGateway

/-! ## Characterized results -/

/-- When a result is a value, and with which errors it fails. -/
structure Characterized {ε α : Type} (x : Except ε α) (succeeds : Prop) (failsWith : ε → Prop) :
    Prop where
  ok_iff : (∃ a, x = .ok a) ↔ succeeds
  error_iff : ∀ e, x = .error e ↔ failsWith e

namespace Characterized

variable {ε α β : Type} {x : Except ε α} {p p' : Prop} {q q' : ε → Prop}

lemma ok (a : α) : Characterized (.ok a : Except ε α) True fun _ => False :=
  ⟨iff_of_true ⟨a, rfl⟩ trivial, fun _ => iff_of_false nofun not_false⟩

lemma congr (h : Characterized x p q) (hp : p ↔ p') (hq : ∀ e, q e ↔ q' e) :
    Characterized x p' q' :=
  ⟨h.ok_iff.trans hp, fun e => (h.error_iff e).trans (hq e)⟩

/-- A result that fails in one way only. -/
lemma of_check {c : Prop} {error : ε} (hc : c ↔ ¬ p) (hok : p → ∃ a, x = .ok a)
    (herror : c → x = .error error) : Characterized x p fun e => c ∧ e = error := by
  by_cases h : p
  · obtain ⟨a, rfl⟩ := hok h
    exact (ok a).congr (iff_of_true trivial h) fun e => iff_of_false not_false fun he => hc.1 he.1 h
  · rw [herror (hc.2 h)]
    refine ⟨iff_of_false nofun h, fun e => ?_⟩
    simp [hc.2 h, eq_comm]

/-- A result that is looked at only where a condition does not hold. -/
lemma guard {c : Prop} [Decidable c] (h : Characterized x p q) (error : ε) :
    Characterized (if c then .error error else x) (¬ c ∧ p) fun e =>
      c ∧ e = error ∨ ¬ c ∧ q e := by
  by_cases hc : c
  · rw [if_pos hc]
    refine ⟨iff_of_false nofun fun hboth => hboth.1 hc, fun e => ?_⟩
    simp [hc, eq_comm]
  · rw [if_neg hc]
    exact h.congr (and_iff_right hc).symm fun e => by simp [hc]

lemma map (h : Characterized x p q) (f : α → β) : Characterized (x.map f) p q := by
  cases x with
  | error e =>
    have hp : ¬ p := fun hp => nomatch h.ok_iff.2 hp
    refine ⟨iff_of_false nofun hp, fun e' => ?_⟩
    rw [← h.error_iff e', Except.error.injEq]
    exact ⟨Except.error.inj, congrArg Except.error⟩
  | ok a =>
    have hq (e : ε) : ¬ q e := fun he => nomatch (h.error_iff e).2 he
    exact ⟨iff_of_true ⟨f a, rfl⟩ (h.ok_iff.1 ⟨a, rfl⟩), fun e => iff_of_false nofun (hq e)⟩

/-- The second of two computations is reached where the first one succeeds. -/
lemma bind {f : α → Except ε β} (h : Characterized x p q) (hf : ∀ a, Characterized (f a) p' q') :
    Characterized (x >>= f) (p ∧ p') fun e => q e ∨ p ∧ q' e := by
  cases x with
  | error e =>
    have hp : ¬ p := fun hp => nomatch h.ok_iff.2 hp
    refine ⟨iff_of_false nofun fun hboth => hp hboth.1, fun e' => ?_⟩
    rw [← h.error_iff e', Except.error.injEq, or_iff_left fun hlater => hp hlater.1]
    exact ⟨Except.error.inj, congrArg Except.error⟩
  | ok a =>
    have hp : p := h.ok_iff.1 ⟨a, rfl⟩
    have hq (e : ε) : ¬ q e := fun he => nomatch (h.error_iff e).2 he
    exact (hf a).congr (and_iff_right hp).symm fun e => by simp [hp, hq e]

lemma bind_pure (h : Characterized x p q) (f : α → β) :
    Characterized (x >>= fun a => pure (f a)) p q :=
  (h.bind fun a => ok (f a)).congr (and_iff_left trivial) fun _ =>
    or_iff_left fun hlater => hlater.2

end Characterized

/-! ## The first obstacle in a list -/

section

variable {ε ι : Type} {supported : ι → Prop} {blocked : ι → ε → Prop} {item : ι}
  {items others : List ι} {e : ε}

/-- An error is that of the first item that is not supported. -/
def FirstObstacle (supported : ι → Prop) (blocked : ι → ε → Prop) (items : List ι) (e : ε) : Prop :=
  ∃ before item after, items = before ++ item :: after ∧ (∀ other ∈ before, supported other) ∧
    blocked item e

@[simp] lemma not_firstObstacle_nil : ¬ FirstObstacle supported blocked [] e := by
  rintro ⟨before, item, after, h, -⟩
  simp at h

lemma firstObstacle_cons_iff :
    FirstObstacle supported blocked (item :: items) e ↔
      blocked item e ∨ supported item ∧ FirstObstacle supported blocked items e := by
  constructor
  · rintro ⟨before, other, after, hitems, hbefore, hblocked⟩
    cases before with
    | nil =>
      obtain ⟨rfl, rfl⟩ := List.cons.inj hitems
      exact .inl hblocked
    | cons first before =>
      obtain ⟨rfl, rfl⟩ := List.cons.inj hitems
      obtain ⟨hfirst, hbefore⟩ := List.forall_mem_cons.1 hbefore
      exact .inr ⟨hfirst, before, other, after, rfl, hbefore, hblocked⟩
  · rintro (hblocked | ⟨hitem, before, other, after, rfl, hbefore, hblocked⟩)
    · exact ⟨[], item, items, rfl, nofun, hblocked⟩
    · exact ⟨item :: before, other, after, rfl, List.forall_mem_cons.2 ⟨hitem, hbefore⟩, hblocked⟩

lemma firstObstacle_append_iff :
    FirstObstacle supported blocked (items ++ others) e ↔
      FirstObstacle supported blocked items e ∨
        (∀ item ∈ items, supported item) ∧ FirstObstacle supported blocked others e := by
  induction items with
  | nil => simp
  | cons item items ih =>
    rw [List.cons_append, firstObstacle_cons_iff, firstObstacle_cons_iff, ih, List.forall_mem_cons]
    tauto

variable {α β : Type} {x : Except ε α} {f : α → Except ε β}

lemma Characterized.nil (a : α) :
    Characterized (.ok a) (∀ i ∈ ([] : List ι), supported i)
      (FirstObstacle supported blocked []) :=
  (ok a).congr (iff_of_true trivial nofun) fun _ =>
    iff_of_false not_false not_firstObstacle_nil

lemma Characterized.singleton (h : Characterized x (supported item) (blocked item)) :
    Characterized x (∀ i ∈ [item], supported i) (FirstObstacle supported blocked [item]) :=
  h.congr List.forall_mem_singleton.symm fun e => by simp [firstObstacle_cons_iff]

/-- First an item is looked at, then the rest of the items. -/
lemma Characterized.cons (h : Characterized x (supported item) (blocked item))
    (hf : ∀ a, Characterized (f a) (∀ i ∈ items, supported i)
      (FirstObstacle supported blocked items)) :
    Characterized (x >>= f) (∀ i ∈ item :: items, supported i)
      (FirstObstacle supported blocked (item :: items)) :=
  (h.bind hf).congr List.forall_mem_cons.symm fun _ => firstObstacle_cons_iff.symm

/-- First some items are looked at, then the others. -/
lemma Characterized.append
    (h : Characterized x (∀ i ∈ items, supported i) (FirstObstacle supported blocked items))
    (hf : ∀ a, Characterized (f a) (∀ i ∈ others, supported i)
      (FirstObstacle supported blocked others)) :
    Characterized (x >>= f) (∀ i ∈ items ++ others, supported i)
      (FirstObstacle supported blocked (items ++ others)) :=
  (h.bind hf).congr List.forall_mem_append.symm fun _ => firstObstacle_append_iff.symm

end

/-! ## Literals -/

namespace FieldValue

/-- Whether a literal is a text, a number, a truth value or a date. -/
def isPlain : FieldValue → Bool
  | .text _ | .integer _ | .double _ | .bool _ | .date _ => true
  | .null | .list _ | .nested _ => false

/-- Reading a literal as a date keeps it plain, or not. -/
lemma isPlain_forKind (value : FieldValue) (kind : Option FieldKind) :
    (value.forKind kind).isPlain = value.isPlain := by
  have hdate : value.asDate.isPlain = value.isPlain := by
    cases value with
    | text value =>
      rw [asDate]
      cases Calendar.Timestamp.parse? value <;> rfl
    | _ => simp [asDate, isPlain]
  cases kind with
  | none => rfl
  | some kind =>
    rw [forKind]
    split
    · exact hdate
    · rfl

/-- The plain literals are those with a term. -/
lemma exists_term?_iff (value : FieldValue) :
    (∃ term, value.term? = some term) ↔ value.isPlain = true := by
  cases value <;> simp [term?, isPlain]

/-- A result that depends on whether a literal has a term. -/
lemma characterized_of_term {ε α : Type} {x : Except ε α} (value : FieldValue) (error : ε)
    (hsome : ∀ term, value.term? = some term → ∃ a, x = .ok a)
    (hnone : value.term? = none → x = .error error) :
    Characterized x (value.isPlain = true) fun e => value.isPlain = false ∧ e = error := by
  have hterm := exists_term?_iff value
  refine .of_check (by simp) (fun h => ?_) (fun h => hnone ?_)
  · obtain ⟨term, hsome'⟩ := hterm.2 h
    exact hsome term hsome'
  · refine Option.eq_none_iff_forall_ne_some.2 fun term hsome' => ?_
    exact ne_true_of_eq_false h (hterm.1 ⟨term, hsome'⟩)

lemma count?_eq_some_iff {value : FieldValue} {n : Nat} :
    value.count? = some n ↔ value = .integer n := by
  cases value with
  | integer k =>
    cases k with
    | ofNat k =>
      show some k = some n ↔ FieldValue.integer k = .integer n
      simp only [Option.some.injEq, FieldValue.integer.injEq, Int.ofNat_inj]
    | negSucc k => simp [count?]
  | _ => simp [count?]

/-- A result that depends on whether a literal is a count. -/
lemma characterized_of_count {ε α : Type} {x : Except ε α} (value : FieldValue) (error : ε)
    (hsome : ∀ n, value.count? = some n → ∃ a, x = .ok a)
    (hnone : value.count? = none → x = .error error) :
    Characterized x (∃ n : Nat, value = .integer n) fun e =>
      (¬ ∃ n : Nat, value = .integer n) ∧ e = error := by
  refine .of_check Iff.rfl (fun ⟨n, hvalue⟩ => ?_) (fun h => hnone ?_)
  · exact hsome n (count?_eq_some_iff.2 hvalue)
  · exact Option.eq_none_iff_forall_ne_some.2 fun n hn => h ⟨n, count?_eq_some_iff.1 hn⟩

end FieldValue
end SearchGateway
