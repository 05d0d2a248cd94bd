/-! # Fields

Cutting a list at every separator. -/

namespace MapStandin.Text

/-- The stretches of a list between its separators; there is always at least one. -/
def fields [DecidableEq α] (sep : α) : List α → List (List α)
  | [] => [[]]
  | c :: cs =>
    if c = sep then [] :: fields sep cs
    else match fields sep cs with
      | [] => [[c]]
      | f :: fs => (c :: f) :: fs

/-- The list up to its first separator and the list after it. -/
def splitFirst [DecidableEq α] (sep : α) : List α → Option (List α × List α)
  | [] => none
  | c :: cs =>
    if c = sep then some ([], cs)
    else (splitFirst sep cs).map fun (a, b) => (c :: a, b)

theorem fields_ne_nil [DecidableEq α] (sep : α) (cs : List α) : fields sep cs ≠ [] := by
  induction cs with
  | nil => simp [fields]
  | cons c cs ih =>
    unfold fields
    split
    · simp
    · split <;> simp

theorem fields_of_not_mem [DecidableEq α] {sep : α} {cs : List α} (h : sep ∉ cs) :
    fields sep cs = [cs] := by
  induction cs with
  | nil => rfl
  | cons c cs ih =>
    have hc : c ≠ sep := fun he => h (he ▸ List.mem_cons_self)
    rw [fields, if_neg hc, ih fun hm => h (List.mem_cons_of_mem c hm)]

theorem fields_append_sep [DecidableEq α] (sep : α) (a b : List α) :
    fields sep (a ++ sep :: b) = fields sep a ++ fields sep b := by
  induction a with
  | nil => simp [fields]
  | cons c a ih =>
    rw [List.cons_append, fields, fields, ih]
    by_cases hc : c = sep
    · simp [hc]
    · cases hf : fields sep a with
      | nil => exact absurd hf (fields_ne_nil sep a)
      | cons f fs => simp [hc]

theorem splitFirst_eq_some [DecidableEq α] {sep : α} {cs a b : List α}
    (h : splitFirst sep cs = some (a, b)) : cs = a ++ sep :: b ∧ sep ∉ a := by
  induction cs generalizing a with
  | nil => simp [splitFirst] at h
  | cons c cs ih =>
    unfold splitFirst at h
    split at h
    · rename_i hc
      simp only [Option.some.injEq, Prod.mk.injEq] at h
      obtain ⟨rfl, rfl⟩ := h
      simp [hc]
    · rename_i hc
      obtain ⟨⟨a', b'⟩, h', he⟩ := Option.map_eq_some_iff.1 h
      simp only [Prod.mk.injEq] at he
      obtain ⟨rfl, rfl⟩ := he
      obtain ⟨hcs, hn⟩ := ih h'
      refine ⟨by simp [hcs], ?_⟩
      simp only [List.mem_cons, not_or]
      exact ⟨fun h => hc h.symm, hn⟩

theorem splitFirst_append [DecidableEq α] {sep : α} {a b : List α} (h : sep ∉ a) :
    splitFirst sep (a ++ sep :: b) = some (a, b) := by
  induction a with
  | nil => simp [splitFirst]
  | cons c a ih =>
    simp only [List.mem_cons, not_or] at h
    rw [List.cons_append, splitFirst, if_neg (Ne.symm h.1), ih h.2, Option.map_some]

theorem splitFirst_of_not_mem [DecidableEq α] {sep : α} {cs : List α} (h : sep ∉ cs) :
    splitFirst sep cs = none := by
  cases hsplit : splitFirst sep cs with
  | none => rfl
  | some parts =>
    have hcs := (splitFirst_eq_some (a := parts.1) (b := parts.2) hsplit).1
    exact absurd (by simp [hcs]) h

theorem fields_append_of_not_mem [DecidableEq α] {sep : α} {a b f : List α} {fs : List (List α)}
    (h : sep ∉ a) (hb : fields sep b = f :: fs) : fields sep (a ++ b) = (a ++ f) :: fs := by
  induction a with
  | nil => exact hb
  | cons c a ih =>
    simp only [List.mem_cons, not_or] at h
    rw [List.cons_append, fields, if_neg (Ne.symm h.1), ih h.2, List.cons_append]

theorem mem_of_mem_fields [DecidableEq α] {sep c : α} {f cs : List α} (h : f ∈ fields sep cs)
    (hc : c ∈ f) : c ∈ cs := by
  induction cs generalizing f with
  | nil => simp_all [fields]
  | cons d cs ih =>
    rw [fields] at h
    split at h
    · obtain rfl | h := List.mem_cons.1 h
      · simp at hc
      · exact List.mem_cons_of_mem d (ih h hc)
    · cases hf : fields sep cs with
      | nil => exact absurd hf (fields_ne_nil sep cs)
      | cons g gs =>
        rw [hf] at h ih
        obtain rfl | h := List.mem_cons.1 h
        · obtain rfl | hc := List.mem_cons.1 hc
          · exact List.mem_cons_self
          · exact List.mem_cons_of_mem d (ih List.mem_cons_self hc)
        · exact List.mem_cons_of_mem d (ih (List.mem_cons_of_mem g h) hc)

theorem not_mem_of_mem_fields [DecidableEq α] {sep : α} {f cs : List α} (h : f ∈ fields sep cs) :
    sep ∉ f := by
  induction cs generalizing f with
  | nil => simp_all [fields]
  | cons c cs ih =>
    rw [fields] at h
    split at h
    · obtain rfl | h := List.mem_cons.1 h
      · simp
      · exact ih h
    · rename_i hc
      cases hf : fields sep cs with
      | nil => exact absurd hf (fields_ne_nil sep cs)
      | cons g gs =>
        rw [hf] at h ih
        obtain rfl | h := List.mem_cons.1 h
        · rw [List.mem_cons, not_or]
          exact ⟨Ne.symm hc, ih List.mem_cons_self⟩
        · exact ih (List.mem_cons_of_mem g h)

theorem intercalate_cons_eq (sep : α) (f : List α) (fs : List (List α)) :
    [sep].intercalate (f :: fs) = f ++ fs.flatMap (sep :: ·) := by
  induction fs generalizing f with
  | nil => simp
  | cons g fs ih => simp [List.intercalate_cons_cons, ih]

theorem intercalate_fields [DecidableEq α] (sep : α) (cs : List α) :
    [sep].intercalate (fields sep cs) = cs := by
  induction cs with
  | nil => rfl
  | cons c cs ih =>
    rw [fields]
    cases hf : fields sep cs with
    | nil => exact absurd hf (fields_ne_nil sep cs)
    | cons f fs =>
      rw [hf] at ih
      split
      · rename_i hc
        rw [List.intercalate_cons_cons, ih, hc]
        rfl
      · cases fs with
        | nil => simpa using ih
        | cons g gs =>
          rw [List.intercalate_cons_cons] at ih ⊢
          simp [← ih]

end MapStandin.Text
