import WhileLang.Proofs.Derivation.Construction
import WhileLang.Proofs.Step.LockStep

/-!
# What a command reads and writes

A run of a command looks at no variable that does not occur in it, and changes none that it does
not assign. So runs from two states that agree on the variables of the command are the same but for
the other variables: they have results on the same budgets (`Command.rel_interp`), and their small
steps pass through the same commands (`Configuration.lockStep_agreeOn`).

Agreement on the variables of the command at hand would not be kept, since an assignment leaves
`skip`, which has none. The two runs therefore agree on a fixed set of variables `vars` all along,
and what is left to be run is a command within that set.

All that is asked of the evaluator is that it is local (`Evaluator.IsLocal`).
-/

namespace WhileLang

variable {ev : Evaluator} {vars : Ident → Prop} {s t : State}

/-! ## Expressions -/

/-- Both states have the same values for the variables in `vars`. -/
def State.AgreeOn (vars : Ident → Prop) (s t : State) : Prop :=
  ∀ x, vars x → s.lookup x = t.lookup x

namespace State.AgreeOn

theorem mono {vars' : Ident → Prop} (h : s.AgreeOn vars t) (hsub : ∀ x, vars' x → vars x) :
    s.AgreeOn vars' t := fun x hx => h x (hsub x hx)

theorem update (h : s.AgreeOn vars t) (x : Ident) (v : Int) :
    (s.update x v).AgreeOn vars (t.update x v) := by
  intro z hz
  rw [lookup_update, lookup_update, h z hz]

end State.AgreeOn

/-- Values depend on the variables of the expression only. -/
structure Evaluator.IsLocal (ev : Evaluator) : Prop where
  aexp_eq {s t : State} (e : AExp) (h : s.AgreeOn (e.Mentions ·) t) : ev.aexp s e = ev.aexp t e
  bexp_eq {s t : State} (b : BExp) (h : s.AgreeOn (b.Mentions ·) t) : ev.bexp s b = ev.bexp t b

theorem AExp.eval_eq_of_agreeOn (e : AExp) (h : s.AgreeOn (e.Mentions ·) t) :
    e.eval s = e.eval t := by
  induction e with
  | number v => rfl
  | var x => exact h x rfl
  | plus l r ihl ihr =>
    have hl : l.eval s = l.eval t := ihl (h.mono fun _ => .inl)
    have hr : r.eval s = r.eval t := ihr (h.mono fun _ => .inr)
    rw [eval, eval, hl, hr]
  | minus l r ihl ihr =>
    have hl : l.eval s = l.eval t := ihl (h.mono fun _ => .inl)
    have hr : r.eval s = r.eval t := ihr (h.mono fun _ => .inr)
    rw [eval, eval, hl, hr]

theorem BExp.eval_eq_of_agreeOn (b : BExp) (h : s.AgreeOn (b.Mentions ·) t) :
    b.eval s = b.eval t := by
  unfold BExp.eval
  induction b with
  | tt => rfl
  | ff => rfl
  | equal l r =>
    have hl : l.eval s = l.eval t := l.eval_eq_of_agreeOn (h.mono fun _ => .inl)
    have hr : r.eval s = r.eval t := r.eval_eq_of_agreeOn (h.mono fun _ => .inr)
    rw [evalWith, evalWith, hl, hr]
  | lessEqual l r =>
    have hl : l.eval s = l.eval t := l.eval_eq_of_agreeOn (h.mono fun _ => .inl)
    have hr : r.eval s = r.eval t := r.eval_eq_of_agreeOn (h.mono fun _ => .inr)
    rw [evalWith, evalWith, hl, hr]
  | neg b ih => rw [evalWith, evalWith, ih h]
  | conj l r ihl ihr =>
    rw [evalWith, evalWith, ihl (h.mono fun _ => .inl), ihr (h.mono fun _ => .inr)]

theorem Evaluator.standard_isLocal : standard.IsLocal where
  aexp_eq := AExp.eval_eq_of_agreeOn
  bexp_eq := BExp.eval_eq_of_agreeOn

/-! ## Results -/

/-- Two stages that keep a relation between what they find. -/
theorem rel_bind {α β : Type} {R : α → α → Prop} {S : β → β → Prop} {x y : Option α}
    {f g : α → Option β} (hxy : Option.Rel R x y) (hfg : ∀ a b, R a b → Option.Rel S (f a) (g b)) :
    Option.Rel S (x.bind f) (y.bind g) := by
  cases hxy with
  | some hab => exact hfg _ _ hab
  | none => exact .none

namespace Command

/-- **Results depend on the variables of the command.** From states that agree on variables among
which are those of the command, it has no result on a budget, or results that agree on them. -/
theorem rel_interp (hev : ev.IsLocal) (k : Nat) {c : Command} (hc : ∀ x, c.Mentions x → vars x)
    (h : s.AgreeOn vars t) :
    Option.Rel (State.AgreeOn vars) (c.interp ev k s) (c.interp ev k t) := by
  induction k generalizing c s t with
  | zero =>
    rw [interp_zero, interp_zero]
    exact .none
  | succ k ih =>
    cases c with
    | skip => exact .some h
    | assign x e =>
      have he : ev.aexp s e = ev.aexp t e := hev.aexp_eq e (h.mono fun y hy => hc y (.inr hy))
      rw [interp_assign, interp_assign, he]
      exact .some (h.update x _)
    | seq c₁ c₂ =>
      rw [interp_seq, interp_seq]
      refine rel_bind (ih (fun x hx => hc x (.inl hx)) h) fun s' t' h' => ?_
      exact ih (fun x hx => hc x (.inr hx)) h'
    | branch b c₁ c₂ =>
      have hb : ev.bexp s b = ev.bexp t b := hev.bexp_eq b (h.mono fun y hy => hc y (.inl hy))
      rw [interp_branch, interp_branch, hb]
      split
      · exact ih (fun x hx => hc x (.inr (.inl hx))) h
      · exact ih (fun x hx => hc x (.inr (.inr hx))) h
    | loop b c =>
      have hb : ev.bexp s b = ev.bexp t b := hev.bexp_eq b (h.mono fun y hy => hc y (.inl hy))
      rw [interp_loop, interp_loop, hb]
      split
      · refine rel_bind (ih (fun x hx => hc x (.inr hx)) h) fun s' t' h' => ?_
        exact ih hc h'
      · exact .some h

theorem exists_interp_of_agreeOn (hev : ev.IsLocal) (k : Nat) (c : Command)
    (h : s.AgreeOn (c.Mentions ·) t) :
    c.interp ev k s = none ∧ c.interp ev k t = none ∨
      ∃ s' t', c.interp ev k s = some s' ∧ c.interp ev k t = some t' ∧
        s'.AgreeOn (c.Mentions ·) t' := by
  have hrel := rel_interp hev k (fun _ hx => hx) h
  generalize hs : c.interp ev k s = x at hrel
  generalize ht : c.interp ev k t = y at hrel
  cases hrel with
  | some hagree => exact .inr ⟨_, _, rfl, rfl, hagree⟩
  | none => exact .inl ⟨rfl, rfl⟩

end Command

/-- **Only assigned variables change.** -/
theorem Derivation.Proof.lookup_post {d : Derivation} (h : Proof ev d) {x : Ident}
    (hx : ¬ d.command.Assigns x) : d.post.lookup x = d.pre.lookup x := by
  induction h with
  | skip s => rfl
  | assign y e s => exact State.lookup_update_of_ne s _ hx
  | seq h₁ h₂ hs ih₁ ih₂ =>
    have h₁ := ih₁ fun h => hx (.inl h)
    have h₂ := ih₂ fun h => hx (.inr h)
    rw [h₂, hs, h₁]
  | branchTrue c₂ h hb ih => exact ih fun h => hx (.inl h)
  | branchFalse c₁ h hb ih => exact ih fun h => hx (.inr h)
  | loopFalse c hb => rfl
  | loopTrue h₁ h₂ hb hc hs ih₁ ih₂ =>
    -- The second premise is about the loop again.
    rw [hc] at ih₂
    rw [ih₂ hx, hs, ih₁ hx]

theorem Command.lookup_of_interp {k : Nat} {c : Command} (h : c.interp ev k s = some t)
    {x : Ident} (hx : ¬ c.Assigns x) : t.lookup x = s.lookup x := by
  obtain ⟨d, ⟨p, rfl, rfl, -⟩, rfl⟩ := Command.interp_eq_some_iff.1 h
  exact p.lookup_post hx

/-! ## Steps -/

/-- The same command, within `vars`, in states that agree on `vars`. -/
structure Configuration.AgreeOn (vars : Ident → Prop) (a b : Configuration) : Prop where
  command_eq : b.command = a.command
  within (x : Ident) (h : a.command.Mentions x) : vars x
  state : a.state.AgreeOn vars b.state

/-- **The next step depends on the variables of the command.** -/
theorem Command.forall₂_successors (hev : ev.IsLocal) {c : Command}
    (hc : ∀ x, c.Mentions x → vars x) (h : s.AgreeOn vars t) :
    List.Forall₂ (Configuration.AgreeOn vars) (c.successors ev s) (c.successors ev t) := by
  induction c with
  | skip => exact .nil
  | assign x e =>
    have he : ev.aexp s e = ev.aexp t e := hev.aexp_eq e (h.mono fun y hy => hc y (.inr hy))
    rw [successors, successors, he]
    exact .cons ⟨rfl, fun _ hx => hx.elim, h.update x _⟩ .nil
  | seq c₁ c₂ ih₁ _ =>
    have hc₂ (x : Ident) (hx : c₂.Mentions x) : vars x := hc x (.inr hx)
    have hnext := ih₁ fun x hx => hc x (.inl hx)
    rw [successors, successors]
    refine List.rel_append ?_ ?_
    · rw [List.forall₂_map_left_iff, List.forall₂_map_right_iff]
      refine hnext.imp fun a b hab =>
        ⟨congrArg (seq · c₂) hab.command_eq, fun x hx => ?_, hab.state⟩
      exact hx.elim (hab.within x) (hc₂ x)
    · split
      · exact .cons ⟨rfl, hc₂, h⟩ .nil
      · exact .nil
  | branch b c₁ c₂ =>
    have hb : ev.bexp s b = ev.bexp t b := hev.bexp_eq b (h.mono fun y hy => hc y (.inl hy))
    rw [successors_branch, successors_branch, hb]
    refine .cons ⟨rfl, fun x hx => ?_, h⟩ .nil
    dsimp only at hx
    split at hx
    · exact hc x (.inr (.inl hx))
    · exact hc x (.inr (.inr hx))
  | loop b c =>
    have hb : ev.bexp s b = ev.bexp t b := hev.bexp_eq b (h.mono fun y hy => hc y (.inl hy))
    rw [successors_loop, successors_loop, hb]
    refine .cons ⟨rfl, fun x hx => ?_, h⟩ .nil
    dsimp only at hx
    split at hx
    · exact hx.elim (fun hx => hc x (.inr hx)) (hc x)
    · exact hx.elim

/-- **Lock step.** Runs from states that agree on the variables of the command go through the same
commands. -/
theorem Configuration.lockStep_agreeOn (hev : ev.IsLocal) :
    (Stepper.standard ev).LockStep (Configuration.AgreeOn vars) where
  form_eq h := congrArg Command.form h.command_eq
  successors {a b} h := by
    show List.Forall₂ _ (a.command.successors ev a.state) (b.command.successors ev b.state)
    rw [h.command_eq]
    exact Command.forall₂_successors hev h.within h.state

/-- **A command depends on and changes only its own variables.** From states that agree on the
variables of the command it has no result on a budget, or results that agree on them, and neither
result differs from its initial state in a variable that is not assigned. The traces from both
states go through the same commands. -/
theorem command_is_local (c : Command) {s₁ s₂ : State} (h : s₁.AgreeOn (c.Mentions ·) s₂) :
    (∀ k : Nat,
      Interpreter.standard .standard k c s₁ = .ok none ∧
        Interpreter.standard .standard k c s₂ = .ok none ∨
      ∃ t₁ t₂ : State, Interpreter.standard .standard k c s₁ = .ok (some t₁) ∧
        Interpreter.standard .standard k c s₂ = .ok (some t₂) ∧ t₁.AgreeOn (c.Mentions ·) t₂ ∧
        t₁.AgreeOn (¬ c.Assigns ·) s₁ ∧ t₂.AgreeOn (¬ c.Assigns ·) s₂) ∧
    ∀ (record : Bool) (limit : Nat), ∃ tr₁ tr₂ : Trace,
      (Stepper.standard .standard).trace record ⟨c, s₁⟩ limit = .ok tr₁ ∧
      (Stepper.standard .standard).trace record ⟨c, s₂⟩ limit = .ok tr₂ ∧
      tr₂.steps = tr₁.steps ∧ tr₂.terminated = tr₁.terminated ∧
      tr₂.configurations.map (·.command) = tr₁.configurations.map (·.command) ∧
      tr₂.final.command = tr₁.final.command := by
  constructor
  · intro k
    simp only [Interpreter.standard_natCast, Except.ok.injEq]
    rcases Command.exists_interp_of_agreeOn Evaluator.standard_isLocal k c h with
      hnone | ⟨t₁, t₂, ht₁, ht₂, hagree⟩
    · exact .inl hnone
    · exact .inr ⟨t₁, t₂, ht₁, ht₂, hagree, fun x => Command.lookup_of_interp ht₁,
        fun x => Command.lookup_of_interp ht₂⟩
  · intro record limit
    have hstart : Configuration.AgreeOn (c.Mentions ·) ⟨c, s₁⟩ ⟨c, s₂⟩ := ⟨rfl, fun _ hx => hx, h⟩
    obtain ⟨tr₁, tr₂, h₁, h₂, hrelated⟩ :=
      (Configuration.lockStep_agreeOn Evaluator.standard_isLocal).exists_traces_eq hstart record
        limit
    exact ⟨tr₁, tr₂, h₁, h₂, hrelated.steps_eq, hrelated.terminated_eq,
      map_eq_of_forall₂ hrelated.configurations fun _ _ hab => hab.command_eq,
      hrelated.final.command_eq⟩

/-- Two turns of `while 1 ≤ x₀ do { x₁ := x₁ + x₀; x₀ := x₀ - 1 }`. The second state has another
value of `x₅` and a value of `x₆` of its own; both ends keep theirs. -/
theorem command_is_local_other_variables :
    let c : Command := .loop (.lessEqual (.number 1) (.var 0))
      (.seq (.assign 1 (.plus (.var 1) (.var 0))) (.assign 0 (.minus (.var 0) (.number 1))))
    let s₁ : State := .ofList [(0, 2), (5, 7)]
    let s₂ : State := .ofList [(0, 2), (5, -1), (6, 4)]
    s₁.AgreeOn (c.Mentions ·) s₂ ∧
      Interpreter.standard .standard 4 c s₁ = .ok (some (.ofList [(1, 3), (5, 7)])) ∧
      Interpreter.standard .standard 4 c s₂ = .ok (some (.ofList [(1, 3), (5, -1), (6, 4)])) ∧
      (State.ofList [(1, 3), (5, 7)]).AgreeOn (c.Mentions ·)
        (.ofList [(1, 3), (5, -1), (6, 4)]) ∧
      ∃ tr₁ tr₂ : Trace, (Stepper.standard .standard).trace true ⟨c, s₁⟩ (9 : Nat) = .ok tr₁ ∧
        (Stepper.standard .standard).trace true ⟨c, s₂⟩ (9 : Nat) = .ok tr₂ ∧
        tr₂.configurations.map (·.command) = tr₁.configurations.map (·.command) := by
  intro c s₁ s₂
  have h : s₁.AgreeOn (c.Mentions ·) s₂ := by
    intro x hx
    have hx : x = 0 ∨ x = 1 := by
      simp only [c, Command.Mentions, BExp.Mentions, AExp.Mentions] at hx
      tauto
    rcases hx with rfl | rfl <;> rfl
  obtain ⟨hresults, htraces⟩ := command_is_local c h
  have h₁ : Interpreter.standard .standard 4 c s₁ = .ok (some (.ofList [(1, 3), (5, 7)])) := by rfl
  have h₂ : Interpreter.standard .standard 4 c s₂ =
      .ok (some (.ofList [(1, 3), (5, -1), (6, 4)])) := by rfl
  refine ⟨h, h₁, h₂, ?_, ?_⟩
  · rcases hresults 4 with ⟨hnone, -⟩ | ⟨t₁, t₂, ht₁, ht₂, hagree, -, -⟩
    · cases h₁.symm.trans hnone
    · rwa [← Option.some.inj (Except.ok.inj (h₁.symm.trans ht₁)),
        ← Option.some.inj (Except.ok.inj (h₂.symm.trans ht₂))] at hagree
  · obtain ⟨tr₁, tr₂, htr₁, htr₂, -, -, hcommands, -⟩ := htraces true 9
    exact ⟨tr₁, tr₂, htr₁, htr₂, hcommands⟩

end WhileLang
