import WhileLang.Json.Records
import WhileLang.Json.Writing

/-!
# Phrases that name their forms

An object that has a member `node_type` fits one form of a kind at most, so there is nothing to
choose among (`countP_aexpForms_le_one` and its kin). Written phrases name all their forms, and are
read back (`AExp.toAExp?_toJson`, `BExp.toBExp?_toJson`, `Command.toCommand?_toJson`).
-/

namespace WhileLang

/-! ## The only reading -/

namespace Reading

variable {α : Type} {rs : List (Option (Reading α))} {r : Reading α}

/-- The better of two readings that may be missing. -/
def better : Option (Reading α) → Option (Reading α) → Option (Reading α)
  | none, r => r
  | some a, none => some a
  | some a, some b => some (a.prefer b)

theorem best_eq_foldl (rs : List (Option (Reading α))) : best rs = rs.foldl better none :=
  rfl

theorem better_eq (a b : Option (Reading α)) : better a b = a ∨ better a b = b := by
  cases a with
  | none => exact .inr rfl
  | some a =>
    cases b with
    | none => exact .inl rfl
    | some b =>
      rw [better, prefer]
      split
      · exact .inr rfl
      · exact .inl rfl

theorem better_none (a : Option (Reading α)) : better a none = a := by
  cases a <;> rfl

/-- What is found best is one of the readings. -/
theorem mem_of_best_eq (h : best rs = some r) : some r ∈ rs := by
  suffices key : ∀ acc, rs.foldl better acc = some r → acc = some r ∨ some r ∈ rs from
    (key none (by rwa [best_eq_foldl] at h)).resolve_left nofun
  clear h
  induction rs with
  | nil => exact fun acc h => .inl h
  | cons x rs ih =>
    intro acc h
    rcases ih _ h with h | h
    · rcases better_eq acc x with heq | heq <;> rw [heq] at h
      · exact .inl h
      · exact .inr (h ▸ List.mem_cons_self ..)
    · exact .inr (List.mem_cons_of_mem x h)

/-- The only reading is the best one. -/
theorem best_eq_of_mem (h : some r ∈ rs) (hone : rs.countP Option.isSome ≤ 1) :
    best rs = some r := by
  have hnone {rs : List (Option (Reading α))} (hrs : rs.countP Option.isSome = 0)
      (acc : Option (Reading α)) : rs.foldl better acc = acc := by
    rw [List.countP_eq_zero] at hrs
    induction rs with
    | nil => rfl
    | cons x rs ih =>
      obtain ⟨hx, hrs⟩ := List.forall_mem_cons.1 hrs
      rw [List.foldl_cons, Option.not_isSome_iff_eq_none.1 hx, better_none, ih hrs]
  rw [best_eq_foldl]
  induction rs with
  | nil => cases h
  | cons x rs ih =>
    rw [List.foldl_cons]
    cases x with
    | none =>
      have hmem : some r ∈ rs := (List.mem_cons.1 h).resolve_left nofun
      exact ih hmem (by simpa using hone)
    | some a =>
      have hrest : rs.countP Option.isSome = 0 := by simpa using hone
      rcases List.mem_cons.1 h with h | h
      · rw [hnone hrest, ← h]
        rfl
      · exact absurd rfl (List.countP_eq_zero.1 hrest _ h)

end Reading

namespace Json

/-! ## Forms that are named -/

/-- The form that an object names. -/
def tag? (j : Json) : Option String := do (← j.field? "node_type").text?

theorem member?_fieldTable (name : String) (ms : List (String × Json)) :
    member? name (fieldTable ms) = (member? name ms).map fun v => ⟨v, v.readings⟩ := by
  have hmap : fieldTable ms = ms.map fun m => (m.1, ⟨m.2, m.2.readings⟩) := by
    induction ms with
    | nil => rfl
    | cons m ms ih => rw [fieldTable, ih, List.map_cons]
  rw [hmap, member?, member?, ← List.map_reverse, List.find?_map, Option.map_map, Option.map_map]
  rfl

section

variable {α β γ : Type} {ms : List (String × Json)} {tag : String} {n : Nat}

/-- With a member `node_type` there, only the form that it names has a score. -/
theorem tag?_of_tagScore_eq (htag : (member? "node_type" ms).isSome = true)
    (h : Field.tagScore (fieldTable ms) tag = some n) : (object ms).tag? = some tag := by
  obtain ⟨v, hv⟩ := Option.isSome_iff_exists.1 htag
  simp only [Field.tagScore, member?_fieldTable, hv, Option.map_some] at h
  cases v with
  | string t =>
    simp only at h
    split at h
    · rename_i heq
      subst heq
      simp [tag?, field?, hv, text?]
    · cases h
  | _ => cases h

/-- Forms that each begin with a word of their own: at most one of them fits. -/
theorem countP_forms_le_one (htag : (member? "node_type" ms).isSome = true)
    (forms : List (String × (Nat → Option (Reading α)))) (hnodup : (forms.map Prod.fst).Nodup) :
    (forms.map fun form => (Field.tagScore (fieldTable ms) form.1).bind form.2).countP
      Option.isSome ≤ 1 := by
  have hnamed {form : String × (Nat → Option (Reading α))}
      (hsome : ((Field.tagScore (fieldTable ms) form.1).bind form.2).isSome = true) :
      (object ms).tag? = some form.1 := by
    obtain ⟨r, hr⟩ := Option.isSome_iff_exists.1 hsome
    obtain ⟨n, hn, -⟩ := Option.bind_eq_some_iff.1 hr
    exact tag?_of_tagScore_eq htag hn
  induction forms with
  | nil => exact Nat.zero_le 1
  | cons form forms ih =>
    obtain ⟨hfresh, hnodup⟩ := List.nodup_cons.1 hnodup
    rw [List.map_cons, List.countP_cons]
    split
    · rename_i hsome
      have hothers : (forms.map fun form => (Field.tagScore (fieldTable ms) form.1).bind
          form.2).countP Option.isSome = 0 := by
        rw [List.countP_eq_zero]
        intro r hr hsome'
        obtain ⟨form', hform', rfl⟩ := List.mem_map.1 hr
        have hsame : form.1 = form'.1 :=
          Option.some.inj ((hnamed hsome).symm.trans (hnamed hsome'))
        exact hfresh (hsame ▸ List.mem_map_of_mem hform')
      omega
    · exact ih hnodup

theorem countP_aexpForms_le_one (htag : (member? "node_type" ms).isSome = true) :
    (Field.aexpForms (fieldTable ms)).countP Option.isSome ≤ 1 :=
  countP_forms_le_one htag [("number", _), ("variable", _), ("plus", _), ("minus", _)] (by simp)

theorem countP_bexpForms_le_one (htag : (member? "node_type" ms).isSome = true) :
    (Field.bexpForms (fieldTable ms)).countP Option.isSome ≤ 1 :=
  countP_forms_le_one htag [("true", _), ("false", _), ("equal", _), ("less_equal", _),
    ("not", _), ("and", _)] (by simp)

theorem countP_commandForms_le_one (htag : (member? "node_type" ms).isSome = true) :
    (Field.commandForms (fieldTable ms)).countP Option.isSome ≤ 1 :=
  countP_forms_le_one htag [("skip", _), ("assign", _), ("seq", _), ("if", _), ("while", _)]
    (by simp)

end

end Json

/-! ## Written phrases -/

section

open Json

theorem AExp.readings_toJson (e : AExp) : ∃ n, e.toJson.readings.aexp = some ⟨e, n, true⟩ := by
  induction e with
  | number v =>
    exact ⟨2, Reading.best_eq_of_mem (List.mem_cons_self ..) (countP_aexpForms_le_one rfl)⟩
  | var x =>
    exact ⟨2, Reading.best_eq_of_mem (.tail _ (.head _)) (countP_aexpForms_le_one rfl)⟩
  | plus l r ihl ihr =>
    obtain ⟨m, hl⟩ := ihl
    obtain ⟨n, hr⟩ := ihr
    refine ⟨3 + m + n, Reading.best_eq_of_mem ?_ (countP_aexpForms_le_one rfl)⟩
    simp [Field.aexpForms, Field.pairForm, Field.tagScore, Field.aexp?, fieldTable, member?, hl, hr]
  | minus l r ihl ihr =>
    obtain ⟨m, hl⟩ := ihl
    obtain ⟨n, hr⟩ := ihr
    refine ⟨3 + m + n, Reading.best_eq_of_mem ?_ (countP_aexpForms_le_one rfl)⟩
    simp [Field.aexpForms, Field.pairForm, Field.tagScore, Field.aexp?, fieldTable, member?, hl, hr]

theorem BExp.readings_toJson (b : BExp) : ∃ n, b.toJson.readings.bexp = some ⟨b, n, true⟩ := by
  induction b with
  | tt => exact ⟨1, Reading.best_eq_of_mem (List.mem_cons_self ..) (countP_bexpForms_le_one rfl)⟩
  | ff => exact ⟨1, Reading.best_eq_of_mem (.tail _ (.head _)) (countP_bexpForms_le_one rfl)⟩
  | equal l r =>
    obtain ⟨m, hl⟩ := l.readings_toJson
    obtain ⟨n, hr⟩ := r.readings_toJson
    refine ⟨3 + m + n, Reading.best_eq_of_mem ?_ (countP_bexpForms_le_one rfl)⟩
    simp [Field.bexpForms, Field.pairForm, Field.tagScore, Field.aexp?, fieldTable, member?, hl, hr]
  | lessEqual l r =>
    obtain ⟨m, hl⟩ := l.readings_toJson
    obtain ⟨n, hr⟩ := r.readings_toJson
    refine ⟨3 + m + n, Reading.best_eq_of_mem ?_ (countP_bexpForms_le_one rfl)⟩
    simp [Field.bexpForms, Field.pairForm, Field.tagScore, Field.aexp?, fieldTable, member?, hl, hr]
  | neg b ih =>
    obtain ⟨n, hb⟩ := ih
    refine ⟨2 + n, Reading.best_eq_of_mem ?_ (countP_bexpForms_le_one rfl)⟩
    simp [Field.bexpForms, Field.tagScore, Field.bexp?, fieldTable, member?, hb]
  | conj l r ihl ihr =>
    obtain ⟨m, hl⟩ := ihl
    obtain ⟨n, hr⟩ := ihr
    refine ⟨3 + m + n, Reading.best_eq_of_mem ?_ (countP_bexpForms_le_one rfl)⟩
    simp [Field.bexpForms, Field.pairForm, Field.tagScore, Field.bexp?, fieldTable, member?, hl, hr]

theorem Command.readings_toJson (c : Command) :
    ∃ n, c.toJson.readings.command = some ⟨c, n, true⟩ := by
  induction c with
  | skip =>
    exact ⟨1, Reading.best_eq_of_mem (List.mem_cons_self ..) (countP_commandForms_le_one rfl)⟩
  | assign x e =>
    obtain ⟨n, he⟩ := e.readings_toJson
    refine ⟨3 + n, Reading.best_eq_of_mem ?_ (countP_commandForms_le_one rfl)⟩
    simp [Field.commandForms, Field.tagScore, Field.int?, readInt?, Field.aexp?, fieldTable,
      member?, he]
  | seq c₁ c₂ ih₁ ih₂ =>
    obtain ⟨m, h₁⟩ := ih₁
    obtain ⟨n, h₂⟩ := ih₂
    refine ⟨3 + m + n, Reading.best_eq_of_mem ?_ (countP_commandForms_le_one rfl)⟩
    simp [Field.commandForms, Field.pairForm, Field.tagScore, Field.command?, fieldTable, member?,
      h₁, h₂]
  | branch b c₁ c₂ ih₁ ih₂ =>
    obtain ⟨k, hb⟩ := b.readings_toJson
    obtain ⟨m, h₁⟩ := ih₁
    obtain ⟨n, h₂⟩ := ih₂
    refine ⟨4 + k + m + n, Reading.best_eq_of_mem ?_ (countP_commandForms_le_one rfl)⟩
    simp [Field.commandForms, Field.tagScore, Field.bexp?, Field.command?, fieldTable, member?, hb,
      h₁, h₂]
  | loop b c ih =>
    obtain ⟨m, hb⟩ := b.readings_toJson
    obtain ⟨n, hc⟩ := ih
    refine ⟨3 + m + n, Reading.best_eq_of_mem ?_ (countP_commandForms_le_one rfl)⟩
    simp [Field.commandForms, Field.pairForm, Field.tagScore, Field.bexp?, Field.command?,
      fieldTable, member?, hb, hc]

/-- **Written expressions are read back.** -/
theorem AExp.toAExp?_toJson (e : AExp) : e.toJson.toAExp? = some e := by
  obtain ⟨n, hn⟩ := e.readings_toJson
  rw [toAExp?, hn]
  rfl

/-- **Written conditions are read back.** -/
theorem BExp.toBExp?_toJson (b : BExp) : b.toJson.toBExp? = some b := by
  obtain ⟨n, hn⟩ := b.readings_toJson
  rw [toBExp?, hn]
  rfl

/-- **Written commands are read back.** -/
theorem Command.toCommand?_toJson (c : Command) : c.toJson.toCommand? = some c := by
  obtain ⟨n, hn⟩ := c.readings_toJson
  rw [toCommand?, hn]
  rfl

end

end WhileLang
