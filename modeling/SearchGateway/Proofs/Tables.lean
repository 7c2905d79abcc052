import Mathlib.Tactic.Lemma
import SearchGateway.Proofs.Maps
import SearchGateway.Table

/-!
# Laws of tables

Setting a name changes the value at this name only, keeps the names different and keeps their
order; a new name comes last.
-/
namespace SearchGateway.Table

variable {α : Type u}

lemma lookup_setRow (name : String) (value : α) (rows : List (String × α))
    (wanted : String) :
    (setRow name value rows).lookup wanted =
      if wanted = name then some value else rows.lookup wanted := by
  induction rows with
  | nil => exact lookup_cons_eq_ite name value [] wanted
  | cons row rest ih =>
    obtain ⟨n, v⟩ := row
    simp only [setRow]
    split
    · subst_vars
      by_cases h : wanted = n <;> simp [lookup_cons_eq_ite, h]
    · by_cases h : wanted = n
      · subst h
        have : wanted ≠ name := fun e => by simp_all
        simp [this]
      · simp [lookup_cons_eq_ite, h, ih]

@[simp] lemma get?_set (t : Table α) (name : String) (value : α) (wanted : String) :
    (t.set name value).get? wanted = if wanted = name then some value else t.get? wanted :=
  lookup_setRow name value t.rows wanted

/-- Setting the value that is there changes nothing. -/
lemma set_eq_self {t : Table α} {name : String} {value : α} (h : t.get? name = some value) :
    t.set name value = t := by
  obtain ⟨rows⟩ := t
  simp only [get?, set] at h ⊢
  induction rows with
  | nil => exact nomatch h
  | cons first rest ih =>
    obtain ⟨n, v⟩ := first
    rw [lookup_cons_eq_ite] at h
    rw [setRow]
    split at h
    case isTrue heq =>
      obtain rfl := Option.some.inj h
      rw [if_pos heq.symm, heq]
    case isFalse hne =>
      rw [if_neg (Ne.symm hne), mk.inj (ih h)]

lemma names_setRow (name : String) (value : α) (rows : List (String × α)) :
    (setRow name value rows).map Prod.fst =
      if name ∈ rows.map Prod.fst then rows.map Prod.fst
      else rows.map Prod.fst ++ [name] := by
  induction rows with
  | nil => simp [setRow]
  | cons row rest ih =>
    obtain ⟨n, v⟩ := row
    simp only [setRow]
    split
    · subst_vars; simp
    · next h =>
      have h' : name ≠ n := fun e => h e.symm
      simp only [List.map_cons, ih, List.mem_cons, h', false_or]
      split <;> simp

lemma mem_setRow {name : String} {value : α} {rows : List (String × α)} {row : String × α}
    (h : row ∈ setRow name value rows) : row = (name, value) ∨ row ∈ rows := by
  induction rows with
  | nil => exact .inl (List.mem_singleton.1 h)
  | cons first rest ih =>
    rw [setRow] at h
    split at h
    · exact (List.mem_cons.1 h).imp id (List.mem_cons_of_mem _)
    · rcases List.mem_cons.1 h with rfl | h
      · exact .inr List.mem_cons_self
      · exact (ih h).imp id (List.mem_cons_of_mem _)

lemma mem_rows_set {t : Table α} {name : String} {value : α} {row : String × α}
    (h : row ∈ (t.set name value).rows) : row = (name, value) ∨ row ∈ t.rows :=
  mem_setRow h

/-- A new name is set at the end. -/
lemma rows_set_of_not_mem {t : Table α} {name : String} (value : α) (h : name ∉ t.names) :
    (t.set name value).rows = t.rows ++ [(name, value)] := by
  obtain ⟨rows⟩ := t
  simp only [names, set] at h ⊢
  induction rows with
  | nil => rfl
  | cons first rest ih =>
    rw [List.map_cons, List.mem_cons, not_or] at h
    rw [setRow, if_neg (Ne.symm h.1), ih h.2, List.cons_append]

lemma names_set_of_not_mem {t : Table α} {name : String} (value : α) (h : name ∉ t.names) :
    (t.set name value).names = t.names ++ [name] := by
  rw [names, rows_set_of_not_mem value h, List.map_append]
  rfl

lemma Distinct.set {t : Table α} (h : t.Distinct) (name : String) (value : α) :
    (t.set name value).Distinct := by
  unfold Distinct names Table.set at *
  rw [names_setRow]
  split
  · exact h
  · next hn =>
    refine List.nodup_append.2 ⟨h, by simp, fun a ha b hb => ?_⟩
    obtain rfl := List.mem_singleton.1 hb
    exact fun e => hn (e ▸ ha)

lemma distinct_empty : (empty : Table α).Distinct := List.nodup_nil

end SearchGateway.Table
