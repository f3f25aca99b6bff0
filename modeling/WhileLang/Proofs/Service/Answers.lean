import WhileLang.Proofs.Comparison
import WhileLang.Proofs.Denotation.Settling
import WhileLang.Proofs.Json.Phrases
import WhileLang.Proofs.Printing.Text
import WhileLang.Service.Route

/-!
# What the service answers

A response is a success if and only if the request can be made out, nothing in answering it fails,
and the record that results can be written (`respond_eq_ok_iff`). It can be written unless an
integer in it is too long (`written_failsOnlyWith`).

For each kind of request about a program there is one lemma with its record (`run_eq`, `derive_eq`
and so on). Under limits that are not negative all of these requests succeed, once the program has
been found.
-/

namespace WhileLang.Service

variable {st : Settings} {r : ProgramRequest} {p : Program}

/-! ## Responses -/

theorem Refusal.status_ne (e : Refusal) : e.status ≠ 200 := by
  cases e with
  | failed e =>
    rw [status]
    split <;> decide
  | _ => simp [status]

@[simp] theorem Refusal.ofError_eq_ok_iff {α : Type} {x : Except Error α} {a : α} :
    ofError x = .ok a ↔ x = .ok a := by
  cases x <;> simp [ofError]

theorem route_post {a : Action} {target : String} (h : Place.ofTarget? target = some (.action a))
    (ms : List (String × Json)) :
    route "POST" target (some (.object ms)) = (a.request? ms).elim (.error .malformed) .ok := by
  have hmethod : String.ofList ("POST".toList.map Char.toUpper) = "POST" := by decide +kernel
  unfold route
  simp only [hmethod, h, if_true]
  cases ha : a.request? ms <;> simp [Json.members?, ha]

/-- A field that is there and is not `null`. -/
theorem optionalField_eq {α : Type} {name : String} {read : Json → Option α}
    {ms : List (String × Json)} {j : Json} (h : Json.member? name ms = some j) (hj : j ≠ .null) :
    optionalField name read ms = (read j).map some := by
  rw [optionalField, h]
  cases j with
  | null => exact absurd rfl hj
  | _ => rfl

/-- The request for a bare command. -/
theorem programRequest?_eq {c : Command} {ms : List (String × Json)}
    (hcommand : Json.member? "command" ms = some c.toJson)
    (hprogram : Json.member? "program" ms = none) (hstate : Json.member? "state" ms = none) :
    programRequest? ms = some ⟨.given c, none⟩ := by
  have hc : optionalField "command" Json.toCommand? ms = some (some c) := by
    rw [optionalField_eq hcommand (by cases c <;> nofun), c.toCommand?_toJson, Option.map_some]
  have hp : optionalField "program" Json.text? ms = some none := by rw [optionalField, hprogram]
  have hs : optionalField "state" Json.toState? ms = some none := by rw [optionalField, hstate]
  simp [programRequest?, hc, hp, hs]

theorem resolve_given (c : Command) :
    (ProgramRequest.mk (.given c) none).resolve = .ok (.ofCommand "inline" "" c) := rfl

/-- **Success** takes three steps. -/
theorem respond_eq_ok_iff {method target : String} {body : Option Json} {j : Json} :
    respond st method target body = (200, j) ↔
      ∃ (q : Request) (x : Response), route method target body = .ok q ∧ answer st q = .ok x ∧
        x.written = .ok j := by
  have hstages : (route method target body >>= answer st >>= encode) = .ok j ↔
      ∃ (q : Request) (x : Response), route method target body = .ok q ∧ answer st q = .ok x ∧
        x.written = .ok j := by
    simp only [bind_eq_ok_iff, encode, Refusal.ofError_eq_ok_iff]
    constructor
    · rintro ⟨x, ⟨q, hq, hx⟩, hj⟩
      exact ⟨q, x, hq, hx, hj⟩
    · rintro ⟨q, x, hq, hx, hj⟩
      exact ⟨x, ⟨q, hq, hx⟩, hj⟩
  rw [← hstages]
  unfold respond
  cases route method target body >>= answer st >>= encode with
  | ok j' => simp
  | error e => simp [e.status_ne]

/-! ## What can be written -/

theorem Response.written_eq_ok_iff {x : Response} {j : Json} :
    x.written = .ok j ↔ x.toJson = .ok j ∧ j.isWritable = true := by
  rw [written, bind_eq_ok_iff]
  constructor
  · rintro ⟨j', hj', h⟩
    split at h
    · rename_i hwritable
      cases h
      exact ⟨hj', hwritable⟩
    · cases h
  · rintro ⟨hj, hwritable⟩
    exact ⟨j, hj, if_pos hwritable⟩

theorem outline_failsOnlyWith (names : Names) (d : Derivation) :
    FailsOnlyWith .numberTooLong (d.outline names) :=
  .mapM fun n _ => (n.2.pre.render_failsOnlyWith names).bind fun _ =>
    (n.2.command.inline_failsOnlyWith names).bind fun _ =>
      (n.2.post.render_failsOnlyWith names).bind fun _ => .ok _

theorem optional_failsOnlyWith {α : Type} {f : α → Except Error String}
    (hf : ∀ a, FailsOnlyWith .numberTooLong (f a)) (a? : Option α) :
    FailsOnlyWith .numberTooLong (a?.mapM f) := by
  cases a? with
  | none => exact .ok _
  | some a => exact (hf a).map

/-- The texts of an answer are all there, or an integer in one of them is too long. -/
theorem toJson_failsOnlyWith {q : Request} {x : Response} (h : answer st q = .ok x) :
    FailsOnlyWith .numberTooLong x.toJson := by
  cases q with
  | health =>
    cases h
    exact .ok _
  | programs =>
    obtain rfl := Except.ok.inj h
    rw [Response.toJson]
    refine FailsOnlyWith.map (FailsOnlyWith.mapM fun y hy => ?_)
    obtain ⟨p, -, rfl⟩ := List.mem_map.1 hy
    exact (p.initial.render_failsOnlyWith p.names).bind fun _ => .ok _
  | program name =>
    obtain ⟨y, hy, rfl⟩ := map_eq_ok_iff.1 h
    obtain ⟨p, -, hy⟩ := bind_eq_ok_iff.1 hy
    cases hy
    exact (p.command.block_failsOnlyWith p.names).bind fun _ => .ok _
  | run r asked =>
    obtain ⟨y, hy, rfl⟩ := map_eq_ok_iff.1 h
    simp only [run, bind_eq_ok_iff] at hy
    obtain ⟨_, -, p, -, o, -, hy⟩ := hy
    cases hy
    exact (optional_failsOnlyWith (State.render_failsOnlyWith p.names) _).bind fun _ => .ok _
  | step r =>
    obtain ⟨y, hy, rfl⟩ := map_eq_ok_iff.1 h
    simp only [step, bind_eq_ok_iff] at hy
    obtain ⟨p, -, next, -, hy⟩ := hy
    cases hy
    exact (optional_failsOnlyWith (Configuration.render_failsOnlyWith p.names) _).bind
      fun _ => .ok _
  | trace r asked record =>
    obtain ⟨y, hy, rfl⟩ := map_eq_ok_iff.1 h
    simp only [trace, bind_eq_ok_iff] at hy
    obtain ⟨_, -, p, -, tr, -, hy⟩ := hy
    cases hy
    exact (FailsOnlyWith.mapM fun a _ => a.render_failsOnlyWith p.names).bind fun _ => .ok _
  | derive r asked =>
    obtain ⟨y, hy, rfl⟩ := map_eq_ok_iff.1 h
    simp only [derive, bind_eq_ok_iff] at hy
    obtain ⟨_, -, p, -, d?, -, hy⟩ := hy
    cases d? with
    | none =>
      cases hy
      exact .ok _
    | some d =>
      cases hy
      exact (outline_failsOnlyWith p.names d).bind fun _ => .ok _
  | verify nodes names =>
    obtain ⟨y, hy, rfl⟩ := map_eq_ok_iff.1 h
    obtain ⟨d, -, hy⟩ := bind_eq_ok_iff.1 hy
    cases hy
    exact (outline_failsOnlyWith names d).bind fun _ => .ok _
  | denote r budgets | equivalence r askedBudget askedSteps | eval e s =>
    obtain ⟨y, -, rfl⟩ := map_eq_ok_iff.1 h
    exact .ok _
  | optimize r =>
    obtain ⟨y, hy, rfl⟩ := map_eq_ok_iff.1 h
    obtain ⟨p, -, hy⟩ := bind_eq_ok_iff.1 hy
    cases hy
    exact (p.command.block_failsOnlyWith p.names).bind fun _ =>
      (p.command.dropZeroPlus.block_failsOnlyWith p.names).bind fun _ => .ok _

theorem written_failsOnlyWith {q : Request} {x : Response} (h : answer st q = .ok x) :
    FailsOnlyWith .numberTooLong x.written :=
  (toJson_failsOnlyWith h).bind fun _ => .ite _ _

/-- **A record that can be written is the answer**; if it cannot, the limit on numerals is. -/
theorem respond_eq {method target : String} {body : Option Json} {q : Request} {x : Response}
    (hq : route method target body = .ok q) (hx : answer st q = .ok x) :
    respond st method target body =
      match x.written with
      | .ok j => (200, j)
      | .error _ => (422, .object [("detail", .string Error.numberTooLong.message)]) := by
  rcases (written_failsOnlyWith hx).ok_or_error with ⟨j, hj⟩ | hlong
  · rw [hj]
    exact respond_eq_ok_iff.2 ⟨q, x, hq, hx, hj⟩
  · have hencode : (route method target body >>= answer st >>= encode) =
        .error (.failed .numberTooLong) := by
      rw [hq]
      show answer st q >>= encode = _
      rw [hx]
      show encode x = _
      rw [encode, hlong]
      rfl
    unfold respond
    rw [hencode, hlong]
    rfl

/-! ## Limits -/

theorem boundedLimit_some {field : String} {default limit value : Int} (h : value ≤ limit) :
    boundedLimit field default limit (some value) = .ok value := by
  rw [boundedLimit, if_neg (Int.not_lt.2 h)]

/-- What is asked for, if anything, is a limit within the bound. -/
def Accepts (bound : Int) (asked : Option Int) : Prop := ∀ v ∈ asked, 0 ≤ v ∧ v ≤ bound

theorem exists_stepLimitOf_eq {asked : Option Int} (hst : 0 ≤ st.maxSteps)
    (h : Accepts st.maxSteps asked) : ∃ n : Nat, stepLimitOf st asked = .ok (n : Int) := by
  cases asked with
  | none =>
    obtain ⟨n, hn⟩ := Int.eq_ofNat_of_zero_le hst
    exact ⟨n, congrArg Except.ok hn⟩
  | some v =>
    obtain ⟨hv, hle⟩ := h v rfl
    obtain ⟨n, rfl⟩ := Int.eq_ofNat_of_zero_le hv
    exact ⟨n, boundedLimit_some hle⟩

theorem checkBudgets_eq_ok {limit : Int} {budgets : List Int} (h : ∀ b ∈ budgets, b ≤ limit) :
    checkBudgets limit budgets = .ok () := by
  induction budgets with
  | nil => rfl
  | cons b bs ih =>
    obtain ⟨hb, hbs⟩ := List.forall_mem_cons.1 h
    rw [checkBudgets, if_neg (Int.not_lt.2 hb), ih hbs]

/-! ## Runs and traces -/

section

variable {k : Nat} {asked : Option Int}

theorem run_eq (hb : budgetOf st asked = .ok (k : Int)) (hp : r.resolve = .ok p) :
    run st r asked = .ok ⟨.ofResult k (p.command.interp .standard k p.initial), k,
      (p.command.interp .standard k p.initial).mapM (·.render p.names)⟩ := by
  simp only [run, resolve, bind_eq_ok_iff, Refusal.ofError_eq_ok_iff]
  refine ⟨_, hb, p, hp, _, Interpreter.run_standard_natCast .standard p.command p.initial k, ?_⟩
  rw [Outcome.state?_ofResult]
  rfl

theorem trace_eq (hm : stepLimitOf st asked = .ok (k : Int)) (hp : r.resolve = .ok p)
    (record : Bool) :
    ∃ tr : Trace, tr.Follows .standard ⟨p.command, p.initial⟩ k ∧
      trace st r asked record =
        .ok ⟨tr, tr.outcome k, tr.configurations.mapM (·.render p.names)⟩ := by
  obtain ⟨tr, htr, hf⟩ := Stepper.exists_trace_eq .standard record ⟨p.command, p.initial⟩ k
  refine ⟨tr, hf, ?_⟩
  simp only [trace, resolve, bind_eq_ok_iff, Refusal.ofError_eq_ok_iff]
  exact ⟨_, hm, p, hp, tr, htr, rfl⟩

end

/-! ## Denotations and comparisons -/

/-- The denotation is the result at the greatest budget, which bounds the search for the least. -/
theorem exists_denote_eq {B : Nat} {budgets : List Int} (hB : st.maxBudget = B)
    (hbudgets : ∀ b ∈ budgets, 0 ≤ b ∧ b ≤ B) (hp : r.resolve = .ok p) :
    ∃ least, IsLeastBudget .standard p.initial p.command B least ∧
      denote st r budgets = .ok ⟨.ofResult B (p.command.interp .standard B p.initial), least, B,
        budgets.map fun b => ⟨b, p.command.interp .standard b.toNat p.initial⟩⟩ := by
  obtain ⟨least, hleast, hspec⟩ :=
    Denotation.exists_leastBudget_eq .standard B p.initial p.command B
  have hxs : Denotation.approximations (.standard .standard B) p.initial p.command budgets =
      .ok (budgets.map fun b => ⟨b, p.command.interp .standard b.toNat p.initial⟩) :=
    Denotation.approximations_eq fun b hb => (hbudgets b hb).1
  refine ⟨least, hspec, ?_⟩
  simp only [denote, resolve, bind_eq_ok_iff, Refusal.ofError_eq_ok_iff, hB]
  exact ⟨_, checkBudgets_eq_ok fun b hb => (hbudgets b hb).2, p, hp, _,
    Interpreter.run_standard_natCast .standard p.command p.initial B, least, hleast, _, hxs, rfl⟩

theorem denote_eq {B : Nat} {budgets : List Int} (hB : st.maxBudget = B)
    (hbudgets : ∀ b ∈ budgets, 0 ≤ b ∧ b ≤ B) (hp : r.resolve = .ok p) :
    ∃ least xs, IsLeastBudget .standard p.initial p.command B least ∧
      denote st r budgets =
        .ok ⟨.ofResult B (p.command.interp .standard B p.initial), least, B, xs⟩ := by
  obtain ⟨least, hspec, hdenote⟩ := exists_denote_eq hB hbudgets hp
  exact ⟨least, _, hspec, hdenote⟩

theorem equivalence_eq {B k m : Nat} {askedBudget askedSteps : Option Int} (hB : st.maxBudget = B)
    (hb : budgetOf st askedBudget = .ok (k : Int)) (hm : stepLimitOf st askedSteps = .ok (m : Int))
    (hp : r.resolve = .ok p) :
    ∃ (x : Report) (tr : Trace),
      x.outcomes = .ofTrace .standard B k m p.command p.initial tr ∧
      equivalence st r askedBudget askedSteps = .ok x := by
  obtain ⟨tr, least, -, -, hcompare⟩ :=
    Engines.exists_compare_eq .standard B k m p.command p.initial
  obtain ⟨x, hx, houtcomes⟩ : ∃ x : Report,
      (Engines.standard .standard B).compare p.command p.initial k m = .ok x ∧
        x.outcomes = .ofTrace .standard B k m p.command p.initial tr := ⟨_, hcompare, rfl⟩
  refine ⟨x, tr, houtcomes, ?_⟩
  simp only [equivalence, resolve, bind_eq_ok_iff, Refusal.ofError_eq_ok_iff, hB]
  exact ⟨_, hb, _, hm, p, hp, hx⟩

/-! ## Derivations -/

/-- The response with the derivation of a program, if the budget sufficed. -/
def DeriveResponse.ofDerivation (names : Names) : Option Derivation → DeriveResponse
  | none => ⟨none, false, [], .ok []⟩
  | some d => ⟨some d.flatten, true, [], d.outline names⟩

theorem derive_eq {k : Nat} {asked : Option Int} (hb : budgetOf st asked = .ok (k : Int))
    (hp : r.resolve = .ok p) :
    derive st r asked =
      .ok (.ofDerivation p.names (p.command.derive .standard k p.initial)) := by
  simp only [derive, resolve, bind_eq_ok_iff, Refusal.ofError_eq_ok_iff]
  refine ⟨_, hb, p, hp, _, Derivation.build_natCast .standard k p.initial p.command, ?_⟩
  cases hd : p.command.derive .standard k p.initial with
  | none => rfl
  | some d =>
    have hfaults : d.faults .standard = [] :=
      Derivation.faults_eq_nil_iff.2 (Command.derives_of_derive hd).proof
    simp only [Derivation.holds, Derivation.verify, hfaults]
    rfl

/-- Every derivation that is answered comes from the program of the request. -/
theorem exists_of_derive_eq {asked : Option Int} {x : DeriveResponse}
    (h : derive st r asked = .ok x) : ∃ (k : Nat) (p : Program), r.resolve = .ok p ∧
      x = .ofDerivation p.names (p.command.derive .standard k p.initial) := by
  have hstages := h
  simp only [derive, resolve, bind_eq_ok_iff, Refusal.ofError_eq_ok_iff,
    Derivation.build_eq_ok_iff] at hstages
  obtain ⟨b, hb, p, hp, -, ⟨k, rfl, -⟩, -⟩ := hstages
  exact ⟨k, p, hp, (Except.ok.inj ((derive_eq hb hp).symm.trans h)).symm⟩

end WhileLang.Service
