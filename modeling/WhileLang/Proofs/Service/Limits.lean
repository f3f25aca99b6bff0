import WhileLang.Proofs.Service.Calls
import WhileLang.Proofs.Text.Numeral

/-!
# Limits of requests

No request asks for more than the settings allow and is answered. What a request leaves out is
another matter: the default of the step limit is the greatest one that is allowed, but the default
budget is a setting of its own, which is not held to the greatest budget.

**Theorem (`limits_bind_what_is_asked_for`).** A request that is answered takes calls within the
limits, and calls on the default budget if it leaves its budget out; so it keeps the limits if and
only if the default budget does, or it has no need of it. If it keeps them, the final state of a run
or of a derivation is also the denotation of the program.
-/

namespace WhileLang

/-- A setting that is given as text is short enough to be written. -/
theorem Settings.isWritable_of_integer? {src : Sources} {name : String} {default i : Int}
    (hdefault : Text.isWritable default = true) (h : src.integer? name default = some i) :
    Text.isWritable i = true := by
  unfold Sources.integer? at h
  split at h
  · obtain rfl := Option.some.inj h
    exact hdefault
  · exact Text.isWritable_of_readLooseInt_eq h

theorem Settings.isWritable_maxBudget {environment : Variables} {file : Option String}
    {st : Settings} (h : load? environment file = some st) :
    Text.isWritable st.maxBudget = true := by
  simp only [load?, ofSources?, Option.bind_eq_bind, Option.bind_eq_some_iff] at h
  obtain ⟨_, -, b, hb, _, -, hst⟩ := h
  obtain rfl := Option.some.inj hst
  exact isWritable_of_integer? (by decide +kernel) hb

theorem Json.elementsWritable_iff {js : List Json} :
    elementsWritable js = true ↔ ∀ j ∈ js, j.isWritable = true := by
  induction js with
  | nil => simp [elementsWritable]
  | cons j js ih => simp [elementsWritable, ih]

namespace Service

variable {st : Settings} {q : Request} {x : Response} {r : ProgramRequest} {t : State}

/-! ## Final states -/

/-- The final state that a record reports. -/
def Response.final? : Response → Option State
  | .run x => x.outcome.state?
  | .derive x => x.nodes.bind fun ns => ns.head?.map (·.post)
  | .denote x => x.outcome.state?
  | _ => none

/-- The program that a request is to run or to derive. -/
def Request.ran? : Request → Option ProgramRequest
  | .run r _ | .derive r _ => some r
  | _ => none

theorem final?_ofDerivation (names : Names) (d : Option Derivation) :
    (Response.derive (.ofDerivation names d)).final? = d.map (·.post) := by
  cases d with
  | none => rfl
  | some d => simp [Response.final?, DeriveResponse.ofDerivation, Derivation.flatten,
      Derivation.flattenQueue]

/-- A final state is a result on a budget that may be handed on. -/
theorem exists_interp_eq_of_final? (h : answer st q = .ok x) (hr : q.ran? = some r)
    (ht : x.final? = some t) : ∃ (k : Nat) (p : Program), Permitted st q (.interpret k) ∧
      r.resolve = .ok p ∧ p.command.interp .standard k p.initial = some t := by
  cases q with
  | run r' asked =>
    obtain rfl := Option.some.inj hr
    obtain ⟨y, hy, rfl⟩ := map_eq_ok_iff.1 h
    have hstages := hy
    simp only [run, resolve, bind_eq_ok_iff, Refusal.ofError_eq_ok_iff] at hstages
    obtain ⟨b, hb, p, hp, o, ho, -⟩ := hstages
    -- The interpreter refuses a negative budget, so this one is a natural number.
    obtain ⟨u, hu, -⟩ := map_eq_ok_iff.1 ho
    obtain ⟨k, rfl, -⟩ := Interpreter.standard_eq_ok_iff.1 hu
    obtain rfl := Except.ok.inj ((run_eq hb hp).symm.trans hy)
    refine ⟨k, p, (permitted_of_budgetOf hb (by rintro rfl; trivial)).1, hp, ?_⟩
    rwa [Response.final?, Outcome.state?_ofResult] at ht
  | derive r' asked =>
    obtain rfl := Option.some.inj hr
    obtain ⟨y, hy, rfl⟩ := map_eq_ok_iff.1 h
    have hstages := hy
    simp only [derive, resolve, bind_eq_ok_iff, Refusal.ofError_eq_ok_iff,
      Derivation.build_eq_ok_iff] at hstages
    obtain ⟨b, hb, p, hp, -, ⟨k, rfl, -⟩, -⟩ := hstages
    obtain rfl := Except.ok.inj ((derive_eq hb hp).symm.trans hy)
    refine ⟨k, p, (permitted_of_budgetOf hb (by rintro rfl; trivial)).1, hp, ?_⟩
    rwa [final?_ofDerivation, ← Command.interp_eq_map_derive] at ht
  | _ => cases hr

/-- The state of an outcome is a part of the record that begins with it. -/
theorem isWritable_of_state? {o : Outcome} {ms : List (String × Json)}
    (h : (Json.object (("outcome", o.toJson) :: ms)).isWritable = true) (ht : o.state? = some t) :
    t.toJson.isWritable = true := by
  obtain rfl := Outcome.state?_eq_some_iff.1 ht
  simp only [Outcome.toJson, Json.isWritable, Json.membersWritable, Bool.true_and,
    Bool.and_eq_true] at h
  exact h.1.1

/-- A final state in a record that is written can be written. -/
theorem isWritable_of_final? {j : Json} (hx : x.written = .ok j) (ht : x.final? = some t) :
    t.toJson.isWritable = true := by
  obtain ⟨hjson, hwritable⟩ := Response.written_eq_ok_iff.1 hx
  cases x with
  | run y =>
    obtain ⟨text, -, hrecord⟩ := bind_eq_ok_iff.1 hjson
    cases hrecord
    exact isWritable_of_state? hwritable ht
  | denote y =>
    cases hjson
    exact isWritable_of_state? hwritable ht
  | derive y =>
    obtain ⟨lines, -, hrecord⟩ := bind_eq_ok_iff.1 hjson
    cases hrecord
    obtain ⟨ns, hns, hroot⟩ := Option.bind_eq_some_iff.1 ht
    obtain ⟨root, hhead, rfl⟩ := Option.map_eq_some_iff.1 hroot
    obtain ⟨rest, rfl⟩ := List.head?_eq_some_iff.1 hhead
    simp only [hns, List.map_cons, FlatNode.toJson, Json.isWritable, Json.membersWritable,
      Json.elementsWritable, Bool.true_and, Bool.and_eq_true] at hwritable
    exact hwritable.1.1.2.2.1
  | _ => cases ht

theorem isWritable_approximation {B : Nat} {a : Approximation} (hB : Text.isWritable B = true)
    (ht : t.toJson.isWritable = true) (hbudget : 0 ≤ a.budget ∧ a.budget ≤ B)
    (hresult : ∀ u, a.result = some u → u = t) : a.toJson.isWritable = true := by
  have hshown : Text.isWritable a.budget = true := Text.isWritable_of_le hbudget.1 hbudget.2 hB
  cases ha : a.result with
  | none => simp [Approximation.toJson, Json.isWritable, Json.membersWritable, ha, hshown]
  | some u =>
    obtain rfl := hresult u ha
    simp [Approximation.toJson, Json.isWritable, Json.membersWritable, ha, hshown, ht]

/-- Besides the greatest budget, a denotation shows smaller numbers and one state. -/
theorem isWritable_denotation {B : Nat} {least : Option Nat} {xs : List Approximation}
    (ht : t.toJson.isWritable = true) (hleast : ∀ m, least = some m → m ≤ B)
    (hxs : ∀ a ∈ xs, (0 ≤ a.budget ∧ a.budget ≤ B) ∧ ∀ u, a.result = some u → u = t) :
    (DenoteResponse.mk (.terminated t) least B xs).toJson.isWritable = Text.isWritable B := by
  cases hB : Text.isWritable B with
  | false => simp [DenoteResponse.toJson, Json.isWritable, Json.membersWritable, hB]
  | true =>
    have hfound : (Json.ofNat? least).isWritable = true := by
      cases least with
      | none => rfl
      | some m =>
        exact Text.isWritable_of_le (Int.natCast_nonneg m) (Int.ofNat_le.2 (hleast m rfl)) hB
    have happroximations : Json.elementsWritable (xs.map Approximation.toJson) = true := by
      refine Json.elementsWritable_iff.2 (List.forall_mem_map.2 fun a ha => ?_)
      exact isWritable_approximation hB ht (hxs a ha).1 (hxs a ha).2
    simp [DenoteResponse.toJson, Outcome.toJson, Json.isWritable, Json.membersWritable, hB, ht,
      hfound, happroximations]

/-- A denotation has no texts, so only its numbers can be too long. -/
theorem respond_denote_eq {method target : String} {body : Option Json} {y : DenoteResponse}
    (hq : route method target body = .ok q) (hy : answer st q = .ok (.denote y)) :
    respond st method target body =
      if y.toJson.isWritable then (200, y.toJson)
      else (422, .object [("detail", .string Error.numberTooLong.message)]) := by
  have hwritten : (Response.denote y).written =
      if y.toJson.isWritable then .ok y.toJson else .error .numberTooLong := rfl
  rw [respond_eq hq hy, hwritten]
  cases y.toJson.isWritable <;> rfl

/-- **A result within the greatest budget is the denotation**, which can be written like the
budget. -/
theorem exists_answer_denote_eq {B k : Nat} {p : Program} {budgets : List Int}
    (hB : st.maxBudget = B) (hbudgets : ∀ b ∈ budgets, 0 ≤ b ∧ b ≤ B) (hp : r.resolve = .ok p)
    (hk : k ≤ B) (ht : p.command.interp .standard k p.initial = some t)
    (hwritable : t.toJson.isWritable = true) :
    ∃ y : DenoteResponse, answer st (.denote r budgets) = .ok (.denote y) ∧
      y.outcome = .terminated t ∧ y.toJson.isWritable = Text.isWritable B := by
  obtain ⟨least, hleast, hdenote⟩ := exists_denote_eq hB hbudgets hp
  have hceiling : p.command.interp .standard B p.initial = some t := Command.interp_mono hk ht
  rw [hceiling] at hdenote
  refine ⟨_, map_eq_ok_iff.2 ⟨_, hdenote, rfl⟩, rfl, isWritable_denotation hwritable ?_ ?_⟩
  · intro m hm
    exact (hleast.interp_isSome_iff m hm B).1 (hceiling ▸ rfl)
  · refine List.forall_mem_map.2 fun b hb => ⟨hbudgets b hb, fun u hu => ?_⟩
    exact Command.interp_unique hu ht

/-! ## A countdown -/

/-- The body that names a program of the catalogue, with a budget if there is one. -/
def namedBody (name : String) (asked : Option Nat) : Json :=
  .object (("program", .string name) :: (asked.map fun k => ("budget", .int k)).toList)

theorem route_namedBody (name : String) (asked : Option Nat) :
    route "POST" "/run" (some (namedBody name asked)) =
        .ok (.run ⟨.catalogue name, none⟩ (asked.map Int.ofNat)) ∧
      route "POST" "/denote" (some (namedBody name asked)) =
        .ok (.denote ⟨.catalogue name, none⟩ []) := by
  have hrun : Place.ofTarget? "/run" = some (.action .run) := by decide +kernel
  have hdenote : Place.ofTarget? "/denote" = some (.action .denote) := by decide +kernel
  rw [namedBody, route_post hrun, route_post hdenote]
  cases asked <;>
    simp [Action.request?, programRequest?, optionalField, Json.optional, Json.member?,
      Json.text?, nonNegative?, Json.toInt?, Json.readInt?]

/-- The countdown of the catalogue starts with `x = 10`, which takes a budget of `11`. -/
theorem exists_resolve_countdown :
    ∃ p : Program, (ProgramRequest.mk (.catalogue "countdown") none).resolve = .ok p ∧
      p.command.interp .standard 10 p.initial = none ∧
      p.command.interp .standard 11 p.initial = some .initial :=
  ⟨_, rfl, by decide +kernel, by decide +kernel⟩

theorem answer_run_countdown {k : Nat} {asked : Option Int} (hb : budgetOf st asked = .ok (k : Int))
    (hk : 11 ≤ k) :
    answer st (.run ⟨.catalogue "countdown", none⟩ asked) =
      .ok (.run ⟨.terminated .initial, k, .ok (some "{}")⟩) := by
  obtain ⟨p, hp, -, hinterp⟩ := exists_resolve_countdown
  rw [answer, run_eq hb hp, Command.interp_mono hk hinterp]
  rfl

theorem respond_run_countdown {k : Nat} {asked : Option Nat}
    (hb : budgetOf st (asked.map Int.ofNat) = .ok (k : Int)) (hk : 11 ≤ k)
    (hwritable : Text.isWritable k = true) :
    respond st "POST" "/run" (some (namedBody "countdown" asked)) =
      (200, .object [("outcome", (Outcome.terminated .initial).toJson), ("budget", .int k),
        ("rendered_state", .string "{}")]) := by
  refine respond_eq_ok_iff.2 ⟨_, _, (route_namedBody "countdown" asked).1,
    answer_run_countdown hb hk, Response.written_eq_ok_iff.2 ⟨rfl, ?_⟩⟩
  have hout : (Outcome.terminated .initial).toJson.isWritable = true := rfl
  simp [Json.isWritable, Json.membersWritable, hout, hwritable]

/-! ## What the limits bind -/

/-- The result of a request that keeps the limits is a result within the greatest budget. -/
theorem exists_interp_eq_of_keepsLimits (h : answer st q = .ok x) (hkeeps : KeepsLimits st q)
    (hr : q.ran? = some r) (ht : x.final? = some t) :
    ∃ (k B : Nat) (p : Program), st.maxBudget = B ∧ k ≤ B ∧ r.resolve = .ok p ∧
      p.command.interp .standard k p.initial = some t := by
  obtain ⟨k, p, hpermitted, hp, hinterp⟩ := exists_interp_eq_of_final? h hr ht
  have hk : (k : Int) ≤ st.maxBudget := by
    rcases hpermitted with hwithin | ⟨hq, hdefault⟩
    · exact hwithin.2
    · rw [hdefault.2]
      exact (keepsLimits_iff h).1 hkeeps hq
  obtain ⟨B, hB⟩ := Int.eq_ofNat_of_zero_le (Int.le_trans (Int.natCast_nonneg k) hk)
  exact ⟨k, B, p, hB, Int.ofNat_le.1 (hB ▸ hk), hp, hinterp⟩

/-- **The limits bind what is asked for.** A request that is answered takes calls within the limits
only, except that one which leaves its budget out takes calls on the default budget, however large
it is. If it keeps the limits, a state in which it reports its program to end is the denotation. The
greatest budget is a part of that answer; a budget that was read from the environment can always be
written. -/
theorem limits_bind_what_is_asked_for (st : Settings) (method target : String) (body : Option Json)
    (q : Request) (reply : Json) (hroute : route method target body = .ok q)
    (hreply : respond st method target body = (200, reply)) :
    (∀ call, Takes st q call → call.Within st ∨ q.LeavesBudget ∧ call.OnDefault st) ∧
    (KeepsLimits st q ↔ (q.LeavesBudget → st.defaultBudget ≤ st.maxBudget)) ∧
    (∃ x : Response, answer st q = .ok x ∧ x.written = .ok reply ∧
      ∀ (r : ProgramRequest) (t : State), KeepsLimits st q → q.ran? = some r → x.final? = some t →
        ∀ (method' target' : String) (body' : Option Json) (budgets : List Int),
          route method' target' body' = .ok (.denote r budgets) →
          (∀ b ∈ budgets, 0 ≤ b ∧ b ≤ st.maxBudget) →
          ∃ y : DenoteResponse, y.outcome = .terminated t ∧
            respond st method' target' body' =
              if Text.isWritable st.maxBudget then (200, y.toJson)
              else (422, .object [("detail", .string Error.numberTooLong.message)])) ∧
    ∀ (environment : Settings.Variables) (file : Option String),
      Settings.load? environment file = some st → Text.isWritable st.maxBudget = true := by
  obtain ⟨q', x, hq, hx, hwritten⟩ := respond_eq_ok_iff.1 hreply
  obtain rfl := Except.ok.inj (hroute.symm.trans hq)
  refine ⟨fun call => permitted_of_takes hx, keepsLimits_iff hx, ⟨x, hx, hwritten, ?_⟩,
    fun _ _ => Settings.isWritable_maxBudget⟩
  intro r t hkeeps hr ht method' target' body' budgets hroute' hbudgets
  obtain ⟨k, B, p, hB, hk, hp, hinterp⟩ := exists_interp_eq_of_keepsLimits hx hkeeps hr ht
  rw [hB] at hbudgets ⊢
  -- The state was a part of the first reply, so the second one can only fail on the budget.
  obtain ⟨y, hy, hout, hlength⟩ := exists_answer_denote_eq hB hbudgets hp hk hinterp
    (isWritable_of_final? hwritten ht)
  refine ⟨y, hout, ?_⟩
  rw [respond_denote_eq hroute' hy, hlength]

/-- A countdown on the least budget that it needs, where no greater one is allowed. -/
theorem limits_bind_what_is_asked_for_countdown :
    let st : Settings := { maxBudget := 11 }
    (∀ call, Takes st (.run ⟨.catalogue "countdown", none⟩ (some 11)) call → call.Within st) ∧
    respond st "POST" "/run" (some (namedBody "countdown" (some 11))) =
      (200, .object [("outcome", (Outcome.terminated .initial).toJson), ("budget", .int 11),
        ("rendered_state", .string "{}")]) ∧
    ∃ y : DenoteResponse, y.outcome = .terminated .initial ∧
      respond st "POST" "/denote" (some (namedBody "countdown" none)) =
        (200, y.toJson) := by
  intro st
  have hroute := route_namedBody "countdown" (some 11)
  have hb : budgetOf st (some 11) = .ok ((11 : Nat) : Int) := rfl
  have hrun : respond st "POST" "/run" (some (namedBody "countdown" (some 11))) = _ :=
    respond_run_countdown hb (Nat.le_refl 11) (by decide +kernel)
  obtain ⟨-, hkeeps, ⟨x, hx, -, hdenote⟩, -⟩ :=
    limits_bind_what_is_asked_for st "POST" "/run" _ _ _ hroute.1 hrun
  obtain rfl := Except.ok.inj (hx.symm.trans (answer_run_countdown hb (Nat.le_refl 11)))
  obtain ⟨y, hy, hreply⟩ := hdenote _ .initial (hkeeps.2 False.elim) rfl rfl "POST" "/denote" _ []
    (route_namedBody "countdown" none).2 (List.forall_mem_nil _)
  rw [if_pos (by decide +kernel)] at hreply
  exact ⟨hkeeps.2 False.elim, hrun, y, hy, hreply⟩

/-- The default budget is used although it exceeds the greatest one, on which the same program has
no result. -/
theorem default_budget_exceeds_the_limit :
    let st : Settings := { maxBudget := 10 }
    let q : Request := .run ⟨.catalogue "countdown", none⟩ none
    let body := namedBody "countdown" none
    route "POST" "/run" (some body) = .ok q ∧
    respond st "POST" "/run" (some body) =
      (200, .object [("outcome", (Outcome.terminated .initial).toJson), ("budget", .int 1000),
        ("rendered_state", .string "{}")]) ∧
    Takes st q (.interpret 1000) ∧ ¬ Call.Within st (.interpret 1000) ∧
    respond st "POST" "/denote" (some body) =
      (200, .object [("outcome", (Outcome.undetermined 10).toJson), ("least_budget", .null),
        ("max_budget", .int 10), ("approximations", .array [])]) := by
  intro st q body
  have hroute := route_namedBody "countdown" none
  have hb : budgetOf st none = .ok ((1000 : Nat) : Int) := rfl
  refine ⟨hroute.1, respond_run_countdown hb (by decide) (by decide +kernel),
    takes_run (answer_run_countdown hb (by decide)) hb, by simp [Call.Within, st], ?_⟩
  obtain ⟨p, hp, hinterp, -⟩ := exists_resolve_countdown
  have hB : st.maxBudget = (10 : Nat) := rfl
  obtain ⟨least, hleast, hdenote⟩ := exists_denote_eq hB (List.forall_mem_nil _) hp
  have hnone : least = none := by
    simpa [hinterp] using hleast.isSome_iff
  rw [hinterp, hnone, List.map_nil] at hdenote
  rw [respond_denote_eq hroute.2 (map_eq_ok_iff.2 ⟨_, hdenote, rfl⟩), if_pos]
  · rfl
  · decide +kernel

end Service

end WhileLang
