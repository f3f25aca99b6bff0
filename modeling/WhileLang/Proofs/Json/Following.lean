import WhileLang.Proofs.Json.Phrases

/-!
# Phrases follow the forms that are named

A value is `Tagged` if every object in it that stands in the place of a phrase says which form it
has. A phrase that is read from such a value has at every place the form that is named there
(`Tagged.followed`). What an object is read as rests on the readings of its parts only, so the
induction on the value treats expressions, conditions and commands together (`Followed`).
-/

namespace WhileLang

namespace Json

/-- The object has a part under the name, with a property. -/
def HasPart (name : String) (P : Json → Prop) (j : Json) : Prop :=
  ∃ p, j.field? name = some p ∧ P p

/-- The names under which the parts of a form stand. -/
def partNames : String → List String
  | "plus" | "minus" | "equal" | "less_equal" | "and" => ["left", "right"]
  | "not" => ["operand"]
  | "assign" => ["expr"]
  | "seq" => ["first", "second"]
  | "if" => ["cond", "then_branch", "else_branch"]
  | "while" => ["cond", "body"]
  | _ => []

/-- Every object that stands in the place of a phrase says which form it has. What stands in
another place, or is no object, may be anything. -/
inductive Tagged : Json → Prop
  | object {ms : List (String × Json)} (tag : (member? "node_type" ms).isSome = true)
      (parts : ∀ t, (object ms).tag? = some t → ∀ name ∈ partNames t, ∀ p,
        member? name ms = some p → Tagged p) : Tagged (object ms)
  | other {j : Json} (h : j.members? = none) : Tagged j

end Json

/-- The expression has at every place the form that the value names there. -/
def AExp.Follows : AExp → Json → Prop
  | number _, j => j.tag? = some "number"
  | var _, j => j.tag? = some "variable"
  | plus l r, j => j.tag? = some "plus" ∧ j.HasPart "left" l.Follows ∧ j.HasPart "right" r.Follows
  | minus l r, j =>
    j.tag? = some "minus" ∧ j.HasPart "left" l.Follows ∧ j.HasPart "right" r.Follows

def BExp.Follows : BExp → Json → Prop
  | tt, j => j.tag? = some "true"
  | ff, j => j.tag? = some "false"
  | equal l r, j =>
    j.tag? = some "equal" ∧ j.HasPart "left" l.Follows ∧ j.HasPart "right" r.Follows
  | lessEqual l r, j =>
    j.tag? = some "less_equal" ∧ j.HasPart "left" l.Follows ∧ j.HasPart "right" r.Follows
  | neg b, j => j.tag? = some "not" ∧ j.HasPart "operand" b.Follows
  | conj l r, j => j.tag? = some "and" ∧ j.HasPart "left" l.Follows ∧ j.HasPart "right" r.Follows

def Command.Follows : Command → Json → Prop
  | skip, j => j.tag? = some "skip"
  | assign _ e, j => j.tag? = some "assign" ∧ j.HasPart "expr" e.Follows
  | seq c₁ c₂, j =>
    j.tag? = some "seq" ∧ j.HasPart "first" c₁.Follows ∧ j.HasPart "second" c₂.Follows
  | branch b c₁ c₂, j =>
    j.tag? = some "if" ∧ j.HasPart "cond" b.Follows ∧ j.HasPart "then_branch" c₁.Follows ∧
      j.HasPart "else_branch" c₂.Follows
  | loop b c, j =>
    j.tag? = some "while" ∧ j.HasPart "cond" b.Follows ∧ j.HasPart "body" c.Follows

namespace Json

section

variable {α β γ : Type} {ms : List (String × Json)} {name tag : String}

/-- A part that was read stands under its name. -/
theorem exists_part {get : Readings → Option (Reading α)} {a : Reading α}
    (h : ((member? name (fieldTable ms)).bind fun f => get f.readings) = some a) :
    ∃ p, member? name ms = some p ∧ get p.readings = some a := by
  rw [member?_fieldTable] at h
  obtain ⟨f, hf, hget⟩ := Option.bind_eq_some_iff.1 h
  obtain ⟨p, hp, rfl⟩ := Option.map_eq_some_iff.1 hf
  exact ⟨p, hp, hget⟩

theorem pairForm_eq_some {fields : Field.Table} {left : Option (Reading α)}
    {right : Option (Reading β)} {make : α → β → γ} {r : Reading γ}
    (h : Field.pairForm fields tag left right make = some r) :
    ∃ n a b, Field.tagScore fields tag = some n ∧ left = some a ∧ right = some b ∧
      r.value = make a.value b.value := by
  simp only [Field.pairForm, Option.bind_eq_bind, Option.bind_eq_some_iff, Option.pure_def,
    Option.some.injEq] at h
  obtain ⟨n, hn, a, ha, b, hb, rfl⟩ := h
  exact ⟨n, a, b, hn, ha, hb, rfl⟩

theorem integerForm_eq_some {fields : Field.Table} {make : Int → α} {r : Reading α}
    (h : Field.integerForm fields tag name make = some r) :
    ∃ n i, Field.tagScore fields tag = some n ∧ r.value = make i := by
  simp only [Field.integerForm, Option.bind_eq_bind, Option.bind_eq_some_iff, Option.pure_def,
    Option.some.injEq] at h
  obtain ⟨n, hn, i, -, rfl⟩ := h
  exact ⟨n, i.value, hn, rfl⟩

theorem leaf_eq_some {fields : Field.Table} {a : α} {r : Reading α}
    (h : Field.leaf fields tag a = some r) :
    ∃ n, Field.tagScore fields tag = some n ∧ r.value = a := by
  simp only [Field.leaf, Option.bind_eq_bind, Option.bind_eq_some_iff, Option.pure_def,
    Option.some.injEq] at h
  obtain ⟨n, hn, rfl⟩ := h
  exact ⟨n, hn, rfl⟩

end

/-- What is read from a value as a phrase of each kind follows the value. -/
structure Followed (j : Json) : Prop where
  aexp {r : Reading AExp} (h : j.readings.aexp = some r) : r.value.Follows j
  bexp {r : Reading BExp} (h : j.readings.bexp = some r) : r.value.Follows j
  command {r : Reading Command} (h : j.readings.command = some r) : r.value.Follows j

section

variable {ms : List (String × Json)}

/-- The parts that belong to the form of an object are followed. -/
def PartsFollowed (ms : List (String × Json)) : Prop :=
  ∀ t, (object ms).tag? = some t → ∀ name ∈ partNames t, ∀ p,
    member? name ms = some p → Followed p

theorem hasPart_aexp (hparts : PartsFollowed ms) {tag name : String}
    (htag : (object ms).tag? = some tag) (hname : name ∈ partNames tag)
    {a : Reading AExp} (h : Field.aexp? (fieldTable ms) name = some a) :
    (object ms).HasPart name a.value.Follows := by
  obtain ⟨p, hp, ha⟩ := exists_part h
  exact ⟨p, hp, (hparts tag htag name hname p hp).aexp ha⟩

theorem hasPart_bexp (hparts : PartsFollowed ms) {tag name : String}
    (htag : (object ms).tag? = some tag) (hname : name ∈ partNames tag)
    {b : Reading BExp} (h : Field.bexp? (fieldTable ms) name = some b) :
    (object ms).HasPart name b.value.Follows := by
  obtain ⟨p, hp, hb⟩ := exists_part h
  exact ⟨p, hp, (hparts tag htag name hname p hp).bexp hb⟩

theorem hasPart_command (hparts : PartsFollowed ms) {tag name : String}
    (htag : (object ms).tag? = some tag) (hname : name ∈ partNames tag)
    {c : Reading Command} (h : Field.command? (fieldTable ms) name = some c) :
    (object ms).HasPart name c.value.Follows := by
  obtain ⟨p, hp, hc⟩ := exists_part h
  exact ⟨p, hp, (hparts tag htag name hname p hp).command hc⟩

/-- A form of two expressions. -/
theorem follows_aexpPair {γ : Type} {make : AExp → AExp → γ} {tag : String} {r : Reading γ}
    (htag : (member? "node_type" ms).isSome = true) (hparts : PartsFollowed ms)
    (hnames : partNames tag = ["left", "right"])
    (h : Field.pairForm (fieldTable ms) tag (Field.aexp? (fieldTable ms) "left")
      (Field.aexp? (fieldTable ms) "right") make = some r) :
    ∃ a b, r.value = make a b ∧ (object ms).tag? = some tag ∧
      (object ms).HasPart "left" a.Follows ∧ (object ms).HasPart "right" b.Follows := by
  obtain ⟨n, a, b, hn, ha, hb, hr⟩ := pairForm_eq_some h
  have hnamed := tag?_of_tagScore_eq htag hn
  exact ⟨a.value, b.value, hr, hnamed, hasPart_aexp hparts hnamed (by simp [hnames]) ha,
    hasPart_aexp hparts hnamed (by simp [hnames]) hb⟩

theorem follows_aexpForms (htag : (member? "node_type" ms).isSome = true)
    (hparts : PartsFollowed ms) {r : Reading AExp}
    (h : some r ∈ Field.aexpForms (fieldTable ms)) : r.value.Follows (object ms) := by
  simp only [Field.aexpForms, List.mem_cons, List.not_mem_nil, or_false] at h
  rcases h with hnumber | hvar | hplus | hminus
  · obtain ⟨n, v, hn, hr⟩ := integerForm_eq_some hnumber.symm
    rw [hr]
    exact tag?_of_tagScore_eq htag hn
  · obtain ⟨n, x, hn, hr⟩ := integerForm_eq_some hvar.symm
    rw [hr]
    exact tag?_of_tagScore_eq htag hn
  · obtain ⟨a, b, hr, hfollows⟩ := follows_aexpPair htag hparts rfl hplus.symm
    rw [hr]
    exact hfollows
  · obtain ⟨a, b, hr, hfollows⟩ := follows_aexpPair htag hparts rfl hminus.symm
    rw [hr]
    exact hfollows

theorem follows_bexpForms (htag : (member? "node_type" ms).isSome = true)
    (hparts : PartsFollowed ms) {r : Reading BExp}
    (h : some r ∈ Field.bexpForms (fieldTable ms)) : r.value.Follows (object ms) := by
  simp only [Field.bexpForms, List.mem_cons, List.not_mem_nil, or_false] at h
  rcases h with htrue | hfalse | hequal | hle | hneg | hconj
  · obtain ⟨n, hn, hr⟩ := leaf_eq_some htrue.symm
    rw [hr]
    exact tag?_of_tagScore_eq htag hn
  · obtain ⟨n, hn, hr⟩ := leaf_eq_some hfalse.symm
    rw [hr]
    exact tag?_of_tagScore_eq htag hn
  · obtain ⟨a, b, hr, hfollows⟩ := follows_aexpPair htag hparts rfl hequal.symm
    rw [hr]
    exact hfollows
  · obtain ⟨a, b, hr, hfollows⟩ := follows_aexpPair htag hparts rfl hle.symm
    rw [hr]
    exact hfollows
  · simp only [Option.bind_eq_bind, Option.pure_def, eq_comm (a := some r),
      Option.bind_eq_some_iff, Option.some.injEq] at hneg
    obtain ⟨n, hn, b, hb, rfl⟩ := hneg
    have hnamed := tag?_of_tagScore_eq htag hn
    exact ⟨hnamed, hasPart_bexp hparts hnamed (by decide) hb⟩
  · obtain ⟨n, a, b, hn, ha, hb, hr⟩ := pairForm_eq_some hconj.symm
    rw [hr]
    have hnamed := tag?_of_tagScore_eq htag hn
    exact ⟨hnamed, hasPart_bexp hparts hnamed (by decide) ha,
      hasPart_bexp hparts hnamed (by decide) hb⟩

theorem follows_commandForms (htag : (member? "node_type" ms).isSome = true)
    (hparts : PartsFollowed ms) {r : Reading Command}
    (h : some r ∈ Field.commandForms (fieldTable ms)) : r.value.Follows (object ms) := by
  simp only [Field.commandForms, List.mem_cons, List.not_mem_nil, or_false] at h
  rcases h with hskip | hassign | hseq | hbranch | hloop
  · obtain ⟨n, hn, hr⟩ := leaf_eq_some hskip.symm
    rw [hr]
    exact tag?_of_tagScore_eq htag hn
  · simp only [Option.bind_eq_bind, Option.pure_def, eq_comm (a := some r),
      Option.bind_eq_some_iff, Option.some.injEq] at hassign
    obtain ⟨n, hn, x, -, e, he, rfl⟩ := hassign
    have hnamed := tag?_of_tagScore_eq htag hn
    exact ⟨hnamed, hasPart_aexp hparts hnamed (by decide) he⟩
  · obtain ⟨n, c₁, c₂, hn, h₁, h₂, hr⟩ := pairForm_eq_some hseq.symm
    rw [hr]
    have hnamed := tag?_of_tagScore_eq htag hn
    exact ⟨hnamed, hasPart_command hparts hnamed (by decide) h₁,
      hasPart_command hparts hnamed (by decide) h₂⟩
  · simp only [Option.bind_eq_bind, Option.pure_def, eq_comm (a := some r),
      Option.bind_eq_some_iff, Option.some.injEq] at hbranch
    obtain ⟨n, hn, b, hb, c₁, h₁, c₂, h₂, rfl⟩ := hbranch
    have hnamed := tag?_of_tagScore_eq htag hn
    exact ⟨hnamed, hasPart_bexp hparts hnamed (by decide) hb,
      hasPart_command hparts hnamed (by decide) h₁, hasPart_command hparts hnamed (by decide) h₂⟩
  · obtain ⟨n, b, c, hn, hb, hc, hr⟩ := pairForm_eq_some hloop.symm
    rw [hr]
    have hnamed := tag?_of_tagScore_eq htag hn
    exact ⟨hnamed, hasPart_bexp hparts hnamed (by decide) hb,
      hasPart_command hparts hnamed (by decide) hc⟩

end

/-- **Names are followed.** Where every phrase names its form, that is the form it is read as. -/
theorem Tagged.followed {j : Json} (h : j.Tagged) : Followed j := by
  induction h with
  | object tag _ hparts =>
    exact {
      aexp := fun h => follows_aexpForms tag hparts (Reading.mem_of_best_eq h)
      bexp := fun h => follows_bexpForms tag hparts (Reading.mem_of_best_eq h)
      command := fun h => follows_commandForms tag hparts (Reading.mem_of_best_eq h) }
  | @other j h =>
    cases j with
    | object ms => cases h
    | _ => exact ⟨nofun, nofun, nofun⟩

end Json

end WhileLang
