import WhileLang.Proofs.Service.Answers
import WhileLang.Proofs.Text.Numeral

/-!
# One story

Five endpoints look at a program with four engines, under limits that come from the request or from
the settings. What their records say about it fits together (`OneStory`): there is one final state,
and the least budget tells for which budgets it is found.

A record is not yet an answer, since a number in it may be too long to be written. The shorter a
record is, the less can be wrong with it: a run may be answered where its derivation, which shows
all states on the way, is not (`derivation_is_too_long`).
-/

namespace WhileLang.Service

/-- How the records of the endpoints agree about a program that was run on the budget `b`. -/
structure OneStory (b maxBudget : Int) (run : RunResponse) (derive : DeriveResponse)
    (equivalence : Report) (denote : DenoteResponse) (trace : TraceResponse) : Prop where
  derive_iff (t : State) : run.outcome = .terminated t ↔
    ∃ root rest, derive.nodes = some (root :: rest) ∧ root.post = t
  nodes_ne_nil : derive.nodes ≠ some []
  interpreter_eq : equivalence.outcomes.interpreter = run.outcome
  bigStep_eq : equivalence.outcomes.bigStep = run.outcome
  run_iff : run.outcome.state?.isSome = true ↔ ∃ m, denote.leastBudget = some m ∧ (m : Int) ≤ b
  denote_iff : denote.outcome.state?.isSome = true ↔ denote.leastBudget.isSome = true
  trace_eq (t u : State) (ht : run.outcome = .terminated t) (hu : trace.outcome = .terminated u) :
    t = u
  least_le (h : trace.outcome.state?.isSome = true) (hlt : trace.trace.steps < maxBudget) :
    ∃ m, denote.leastBudget = some m ∧ m ≤ trace.trace.steps + 1

/-- A request is answered with the record `x`, if all integers in it can be written. -/
structure AnsweredWith (st : Settings) (q : Request) (x : Response) : Prop where
  answer_eq : answer st q = .ok x
  respond_eq (method target : String) (body : Option Json) (h : route method target body = .ok q) :
    respond st method target body =
      match x.written with
      | .ok j => (200, j)
      | .error _ => (422, .object [("detail", .string Error.numberTooLong.message)])

theorem answeredWith {st : Settings} {q : Request} {x : Response} (h : answer st q = .ok x) :
    AnsweredWith st q x :=
  ⟨h, fun _ _ _ hq => respond_eq hq h⟩

variable {k B m n : Nat} {p : Program} {tr tr' : Trace} {least : Option Nat} {equivalence : Report}

theorem nodes_ofDerivation_eq_cons_iff {names : Names} {d : Option Derivation} {t : State} :
    (∃ root rest, (DeriveResponse.ofDerivation names d).nodes = some (root :: rest) ∧
      root.post = t) ↔ d.map (·.post) = some t := by
  cases d with
  | none => simp [DeriveResponse.ofDerivation]
  | some d => simp [DeriveResponse.ofDerivation, Derivation.flatten, Derivation.flattenQueue]

/-- The endpoints agree because their engines do. -/
theorem oneStory (hk : k ≤ B) (hleast : IsLeastBudget .standard p.initial p.command B least)
    (houtcomes : equivalence.outcomes = .ofTrace .standard B k m p.command p.initial tr')
    (hf : tr.Follows .standard ⟨p.command, p.initial⟩ n) (final : Except Error (Option String))
    (rendered : Except Error (List String)) (xs : List Approximation) :
    OneStory k B ⟨.ofResult k (p.command.interp .standard k p.initial), k, final⟩
      (.ofDerivation p.names (p.command.derive .standard k p.initial)) equivalence
      ⟨.ofResult B (p.command.interp .standard B p.initial), least, B, xs⟩
      ⟨tr, tr.outcome n, rendered⟩ := by
  have hrun (t : State) : Outcome.ofResult k (p.command.interp .standard k p.initial) =
      .terminated t ↔ p.command.interp .standard k p.initial = some t :=
    Outcome.ofResult_eq_terminated_iff
  constructor
  case derive_iff =>
    intro t
    rw [hrun, nodes_ofDerivation_eq_cons_iff, Command.interp_eq_map_derive]
  case nodes_ne_nil =>
    cases p.command.derive .standard k p.initial with
    | none => nofun
    | some d => simp [DeriveResponse.ofDerivation, Derivation.flatten, Derivation.flattenQueue]
  case interpreter_eq =>
    rw [houtcomes]
    rfl
  case bigStep_eq =>
    rw [houtcomes]
    rfl
  case run_iff =>
    rw [Outcome.state?_ofResult, hleast.interp_isSome_iff_exists hk]
    simp only [Int.ofNat_le]
  case denote_iff =>
    rw [Outcome.state?_ofResult]
    exact hleast.isSome_iff.symm
  case trace_eq =>
    intro t u ht hu
    obtain ⟨hend, rfl⟩ := Trace.outcome_eq_terminated_iff.1 hu
    exact Command.interp_unique ((hrun t).1 ht) (hf.interp_eq hend)
  case least_le =>
    intro h hlt
    obtain ⟨u, hu⟩ := Option.isSome_iff_exists.1 h
    obtain ⟨hend, -⟩ := Trace.outcome_eq_terminated_iff.1 (Outcome.state?_eq_some_iff.1 hu)
    refine (hleast.interp_isSome_iff_exists (Int.ofNat_lt.1 hlt)).1 ?_
    rw [hf.interp_eq hend]
    rfl

/-- **The endpoints tell one story about a program.** Under settings that are not negative, requests
about a program that is found are answered with records that agree, as far as these can be
written. -/
theorem endpoints_tell_one_story (st : Settings) (hbudget : 0 ≤ st.maxBudget)
    (hsteps : 0 ≤ st.maxSteps) (r : ProgramRequest) (p : Program) (hp : r.resolve = .ok p) (b : Int)
    (hb : 0 ≤ b ∧ b ≤ st.maxBudget) (budgets : List Int)
    (hbudgets : ∀ v ∈ budgets, 0 ≤ v ∧ v ≤ st.maxBudget) (compareSteps traceSteps : Option Int)
    (hcompare : Accepts st.maxSteps compareSteps) (htrace : Accepts st.maxSteps traceSteps)
    (record : Bool) :
    ∃ run derive equivalence denote trace,
      AnsweredWith st (.run r (some b)) (.run run) ∧
      AnsweredWith st (.derive r (some b)) (.derive derive) ∧
      AnsweredWith st (.equivalence r (some b) compareSteps) (.equivalence equivalence) ∧
      AnsweredWith st (.denote r budgets) (.denote denote) ∧
      AnsweredWith st (.trace r traceSteps record) (.trace trace) ∧
      OneStory b st.maxBudget run derive equivalence denote trace := by
  obtain ⟨B, hB⟩ := Int.eq_ofNat_of_zero_le hbudget
  obtain ⟨k, rfl⟩ := Int.eq_ofNat_of_zero_le hb.1
  have hk : budgetOf st (some (k : Int)) = .ok (k : Int) := boundedLimit_some hb.2
  obtain ⟨m, hm⟩ := exists_stepLimitOf_eq hsteps hcompare
  obtain ⟨n, hn⟩ := exists_stepLimitOf_eq hsteps htrace
  obtain ⟨equivalence, tr', houtcomes, hequivalence⟩ := equivalence_eq hB hk hm hp
  obtain ⟨least, xs, hleast, hdenote⟩ := denote_eq hB (fun v hv => hB ▸ hbudgets v hv) hp
  obtain ⟨tr, hf, htr⟩ := trace_eq hn hp record
  have hle : k ≤ B := Int.ofNat_le.1 (hB ▸ hb.2)
  refine ⟨_, _, equivalence, _, _, answeredWith (map_eq_ok_iff.2 ⟨_, run_eq hk hp, rfl⟩),
    answeredWith (map_eq_ok_iff.2 ⟨_, derive_eq hk hp, rfl⟩),
    answeredWith (map_eq_ok_iff.2 ⟨_, hequivalence, rfl⟩),
    answeredWith (map_eq_ok_iff.2 ⟨_, hdenote, rfl⟩),
    answeredWith (map_eq_ok_iff.2 ⟨_, htr, rfl⟩), ?_⟩
  rw [hB]
  exact oneStory hle hleast houtcomes hf _ _ _

/-- One assignment on the least budget, traced for three steps at most. -/
theorem endpoints_tell_one_story_assign :
    let r : ProgramRequest := ⟨.given (.assign 0 (.number 1)), none⟩
    ∃ run derive equivalence denote trace,
      AnsweredWith {} (.run r (some 1)) (.run run) ∧
      AnsweredWith {} (.derive r (some 1)) (.derive derive) ∧
      AnsweredWith {} (.equivalence r (some 1) none) (.equivalence equivalence) ∧
      AnsweredWith {} (.denote r [0, 5]) (.denote denote) ∧
      AnsweredWith {} (.trace r (some 3) true) (.trace trace) ∧
      OneStory 1 10000 run derive equivalence denote trace ∧
      run.outcome = .terminated (State.initial.update 0 1) := by
  intro r
  have hresolve := resolve_given (.assign 0 (.number 1))
  have htrace : Accepts (Settings.maxSteps {}) (some 3) := by
    intro v hv
    obtain rfl := Option.some.inj hv
    decide
  obtain ⟨run, derive, equivalence, denote, trace, hrun, hrest⟩ :=
    endpoints_tell_one_story {} (by decide) (by decide) r _ hresolve 1 (by decide) [0, 5]
      (by decide) none (some 3) nofun htrace true
  have hbudget : budgetOf {} (some 1) = .ok ((1 : Nat) : Int) := rfl
  have hout : run.outcome = .terminated (State.initial.update 0 1) := by
    have hrecord := hrun.answer_eq
    rw [answer, run_eq hbudget hresolve] at hrecord
    obtain rfl := Response.run.inj (Except.ok.inj hrecord)
    rfl
  exact ⟨run, derive, equivalence, denote, trace, hrun, hrest.1, hrest.2.1, hrest.2.2.1,
    hrest.2.2.2.1, hrest.2.2.2.2, hout⟩

/-! ## Numbers that are too long -/

/-- The body that asks for a command to be run on a budget. -/
def commandBody (c : Command) (k : Nat) : Json :=
  .object [("command", c.toJson), ("budget", .int k)]

theorem route_commandBody (c : Command) (k : Nat) :
    route "POST" "/run" (some (commandBody c k)) = .ok (.run ⟨.given c, none⟩ (some k)) ∧
      route "POST" "/derive" (some (commandBody c k)) =
        .ok (.derive ⟨.given c, none⟩ (some k)) := by
  have hrun : Place.ofTarget? "/run" = some (.action .run) := by decide +kernel
  have hderive : Place.ofTarget? "/derive" = some (.action .derive) := by decide +kernel
  have hprogram : programRequest? [("command", c.toJson), ("budget", .int k)] =
      some ⟨.given c, none⟩ := programRequest?_eq rfl rfl rfl
  rw [commandBody, route_post hrun, route_post hderive]
  simp [Action.request?, hprogram, optionalField, Json.member?, nonNegative?, Json.toInt?,
    Json.readInt?]

/-- Doubles a number in a variable and forgets it. -/
def doubleAndForget (v : Int) : Command :=
  .seq (.assign 0 (.plus (.number v) (.number v))) (.assign 0 (.number 0))

/-- Neither the command nor its final state holds what is forgotten. -/
theorem respond_run_forgotten (v : Int) :
    respond {} "POST" "/run" (some (commandBody (doubleAndForget v) 2)) =
      (200, .object [("outcome", (Outcome.terminated .initial).toJson), ("budget", .int 2),
        ("rendered_state", .string "\x7b\x7d")]) := by
  have hbudget : budgetOf {} (some (2 : Nat)) = .ok ((2 : Nat) : Int) := rfl
  have hend : (State.initial.update 0 (v + v)).update 0 0 = .initial := by
    rw [State.update_update]
    exact State.update_eq_self rfl
  have hinterp : (doubleAndForget v).interp .standard 2 .initial = some .initial :=
    congrArg some hend
  have hrun : answer {} (.run ⟨.given (doubleAndForget v), none⟩ (some (2 : Nat))) =
      .ok (.run ⟨.terminated .initial, 2, .ok (some "\x7b\x7d")⟩) := by
    rw [answer, run_eq hbudget (resolve_given _)]
    show Except.ok (Response.run
      ⟨.ofResult 2 ((doubleAndForget v).interp .standard 2 .initial), 2,
        ((doubleAndForget v).interp .standard 2 .initial).mapM (·.render ∅)⟩) = _
    rw [hinterp]
    rfl
  exact respond_eq_ok_iff.2 ⟨_, _, (route_commandBody _ 2).1, hrun,
    Response.written_eq_ok_iff.2 ⟨rfl, by decide +kernel⟩⟩

/-- The state between the two assignments is a part of the derivation. -/
theorem respond_derive_forgotten {v : Int} (hv : Text.isWritable (v + v) = false) :
    respond {} "POST" "/derive" (some (commandBody (doubleAndForget v) 2)) =
      (422, .object [("detail", .string Error.numberTooLong.message)]) := by
  let t : State := State.initial.update 0 (v + v)
  have hbindings : t.bindings = [(0, v + v)] := by
    have hne : v + v ≠ 0 := by
      intro h
      rw [h] at hv
      exact absurd hv (by decide +kernel)
    simp [t, State.update, State.initial, Binding.set, hne]
  have hbudget : budgetOf {} (some (2 : Nat)) = .ok ((2 : Nat) : Int) := rfl
  have hderive : (doubleAndForget v).derive .standard 2 .initial =
      some ⟨.seq, doubleAndForget v, .initial, t.update 0 0,
        [⟨.assign, .assign 0 (.plus (.number v) (.number v)), .initial, t, []⟩,
          ⟨.assign, .assign 0 (.number 0), t, t.update 0 0, []⟩]⟩ := rfl
  have hanswer : answer {} (.derive ⟨.given (doubleAndForget v), none⟩ (some (2 : Nat))) =
      .ok (.derive (.ofDerivation ∅ ((doubleAndForget v).derive .standard 2 .initial))) := by
    rw [answer, derive_eq hbudget (resolve_given _)]
    rfl
  rw [respond_eq (route_commandBody _ 2).2 hanswer]
  rcases (written_failsOnlyWith hanswer).ok_or_error with ⟨j, hj⟩ | hlong
  · exfalso
    obtain ⟨hjson, hwritable⟩ := Response.written_eq_ok_iff.1 hj
    rw [hderive, Response.toJson] at hjson
    obtain ⟨lines, -, hrecord⟩ := bind_eq_ok_iff.1 hjson
    cases hrecord
    simp [DeriveResponse.ofDerivation, Derivation.flatten, Derivation.flattenQueue,
      FlatNode.toJson, State.toJson, Json.isWritable, Json.membersWritable,
      Json.elementsWritable, hbindings, hv] at hwritable
  · rw [hlong]

/-- The sum of two numbers of the program has a digit more than they have. -/
theorem derivation_is_too_long :
    let v : Int := 5 * Text.powerOfTen 4299
    let c : Command := .seq (.assign 0 (.plus (.number v) (.number v))) (.assign 0 (.number 0))
    Text.isWritable v = true ∧
    respond {} "POST" "/run" (some (commandBody c 2)) =
      (200, .object [("outcome", (Outcome.terminated .initial).toJson), ("budget", .int 2),
        ("rendered_state", .string "\x7b\x7d")]) ∧
    respond {} "POST" "/derive" (some (commandBody c 2)) =
      (422, .object [("detail", .string Error.numberTooLong.message)]) := by
  intro v c
  have hhalf := Text.isWritable_half (n := 4299) rfl
  exact ⟨hhalf.1, respond_run_forgotten v, respond_derive_forgotten hhalf.2⟩

end WhileLang.Service
