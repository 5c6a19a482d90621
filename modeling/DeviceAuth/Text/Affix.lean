/-!
# Where a text is cut

What follows a given start of a text (`after?`), and what follows a run of characters of one kind
(`takeWhile_dropWhile_eq_iff`).
-/

namespace DeviceAuth.Text

/-- What follows `start` in a text that begins with it. -/
def after? : (start s : List Char) → Option (List Char)
  | [], s => some s
  | _ :: _, [] => none
  | c :: start, d :: s => if c = d then after? start s else none

theorem after?_eq_some_iff {start s rest : List Char} :
    after? start s = some rest ↔ s = start ++ rest := by
  induction start generalizing s with
  | nil => simp [after?]
  | cons c start ih =>
    cases s with
    | nil => simp [after?]
    | cons d s =>
      by_cases h : c = d
      · subst h; simp [after?, ih]
      · simp [after?, h, Ne.symm h]

/-- A run of characters ends before the first one that is not of its kind. -/
theorem takeWhile_dropWhile_eq_iff {p : Char → Bool} {s run rest : List Char} :
    s.takeWhile p = run ∧ s.dropWhile p = rest ↔
      s = run ++ rest ∧ (∀ c ∈ run, p c = true) ∧ ∀ c ∈ rest.head?, p c = false := by
  constructor
  · rintro ⟨rfl, rfl⟩
    refine ⟨List.takeWhile_append_dropWhile.symm, List.all_eq_true.1 List.all_takeWhile,
      fun c hc => ?_⟩
    have hstop := List.head?_dropWhile_not p s
    rw [Option.mem_def.1 hc] at hstop
    simpa using hstop
  · rintro ⟨rfl, hrun, hrest⟩
    have hstop : rest.takeWhile p = [] ∧ rest.dropWhile p = rest := by
      cases rest with
      | nil => exact ⟨rfl, rfl⟩
      | cons c rest => simp [hrest c rfl]
    rw [List.takeWhile_append_of_pos hrun, List.dropWhile_append_of_pos hrun, hstop.1, hstop.2]
    exact ⟨List.append_nil run, rfl⟩

end DeviceAuth.Text
