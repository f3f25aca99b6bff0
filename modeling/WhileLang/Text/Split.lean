/-!
# Splitting a text

A text is cut at every occurrence of a separator. Put back between the pieces, the separator makes
the text again (`intercalate_pieces`), and no piece holds it (`not_mem_of_mem_pieces`).
-/

namespace WhileLang.Text

/-- The pieces between the separators; there is always at least one. -/
def pieces (sep : Char) : List Char → List (List Char)
  | [] => [[]]
  | c :: cs =>
    if c = sep then [] :: pieces sep cs
    else
      match pieces sep cs with
      | [] => [[c]]
      | p :: ps => (c :: p) :: ps

/-- The pieces of a string. -/
def split (sep : Char) (s : String) : List String := (pieces sep s.toList).map String.ofList

theorem pieces_ne_nil (sep : Char) (cs : List Char) : pieces sep cs ≠ [] := by
  cases cs with
  | nil => simp [pieces]
  | cons c cs =>
    unfold pieces
    split
    · simp
    · split <;> simp

theorem intercalate_pieces (sep : Char) (cs : List Char) :
    [sep].intercalate (pieces sep cs) = cs := by
  induction cs with
  | nil => rfl
  | cons c cs ih =>
    unfold pieces
    split
    · rename_i h
      subst h
      cases hp : pieces c cs with
      | nil => exact absurd hp (pieces_ne_nil c cs)
      | cons p ps => rw [hp] at ih; simp [List.intercalate, ← ih]
    · split
      · rename_i hp; exact absurd hp (pieces_ne_nil sep cs)
      · rename_i p ps hp
        rw [hp] at ih
        cases ps <;> simp_all [List.intercalate]

theorem not_mem_of_mem_pieces {sep : Char} {cs p : List Char} (h : p ∈ pieces sep cs) :
    sep ∉ p := by
  induction cs generalizing p with
  | nil => simp_all [pieces]
  | cons c cs ih =>
    unfold pieces at h
    split at h
    · rcases List.mem_cons.1 h with rfl | h
      · exact List.not_mem_nil
      · exact ih h
    · rename_i hc
      split at h
      · rename_i hp; exact absurd hp (pieces_ne_nil sep cs)
      · rename_i q qs hp
        rcases List.mem_cons.1 h with rfl | h
        · have hq : sep ∉ q := ih (hp ▸ List.mem_cons_self ..)
          simp [Ne.symm hc, hq]
        · exact ih (hp ▸ List.mem_cons_of_mem _ h)

end WhileLang.Text
