import WhileLang.Proofs.Service.Answers

/-!
# Calls that a request takes

To answer a request the service hands budgets to an interpreter and to a builder of derivations,
and step limits to a stepper. `answerWith` answers requests with any such parts; with those of the
language it is `answer` (`answerWith_standard`). A request *takes* a call if its answer would be
another one with the call failing (`Takes`).

**Theorem (`permitted_of_takes`).** A request that is answered takes no call beyond the limits of
the settings, unless it leaves its budget out. Then it takes a call on the default budget
(`takes_default`), whatever the limits are.

The proof compares two sets of parts: if they agree on the calls that are permitted, they give the
same answer (`answerWith_eq_ok`). Bisection is the one place where the service chooses
budgets itself, and it stays between its two ends (`bisect_congr`).
-/

namespace WhileLang

/-! ## Searches that look at the same places -/

/-- Only places between the ends are looked at. -/
theorem bisect_congr {f g : Nat → Except Error Bool} {lo hi : Nat}
    (h : ∀ k, lo < k → k < hi → f k = g k) : bisect f lo hi = bisect g lo hi := by
  fun_induction bisect f lo hi with
  | case1 lo hi hwide e he =>
    rw [bisect, if_pos hwide, ← h _ (by omega) (by omega), he]
  | case2 lo hi hwide hmid ih =>
    have hlow : bisect g lo hi = bisect g lo ((lo + hi) / 2) := by
      rw [bisect, if_pos hwide, ← h _ (by omega) (by omega), hmid]
    rw [hlow]
    exact ih fun k hk hk' => h k hk (by omega)
  | case3 lo hi hwide hmid ih =>
    have hhigh : bisect g lo hi = bisect g ((lo + hi) / 2) hi := by
      rw [bisect, if_pos hwide, ← h _ (by omega) (by omega), hmid]
    rw [hhigh]
    exact ih fun k hk hk' => h k (by omega) hk'
  | case4 lo hi hnarrow =>
    rw [bisect, if_neg hnarrow]

namespace Denotation

variable {den den' : Denotation} {s : State} {c : Command}

/-- The search for the least budget looks at budgets up to its bound. -/
theorem leastBudget_congr {upper : Nat}
    (h : ∀ k : Nat, k ≤ upper → den.interpreter k c s = den'.interpreter k c s) :
    den.leastBudget s c upper = den'.leastBudget s c upper := by
  have hsearch : bisect (den.finished s c) 0 upper = bisect (den'.finished s c) 0 upper :=
    bisect_congr fun k _ hk => by rw [finished, finished, h k (Nat.le_of_lt hk)]
  rw [leastBudget, leastBudget, h upper (Nat.le_refl upper), Int.toNat_natCast, hsearch]

theorem approximations_eq_ok_of_forall {budgets : List Int} {xs : List Approximation}
    (h : ∀ b ∈ budgets, ∀ r, den.interpreter b c s = .ok r → den'.interpreter b c s = .ok r)
    (hxs : den.approximations s c budgets = .ok xs) :
    den'.approximations s c budgets = .ok xs := by
  unfold approximations at hxs ⊢
  induction budgets generalizing xs with
  | nil => exact hxs
  | cons b rest ih =>
    obtain ⟨hb, hrest⟩ := List.forall_mem_cons.1 h
    simp only [List.mapM_cons, bind_eq_ok_iff, map_eq_ok_iff] at hxs ⊢
    obtain ⟨a, ⟨r, hr, ha⟩, as, has, hxs⟩ := hxs
    exact ⟨a, ⟨r, hb r hr, ha⟩, as, ih hrest has, hxs⟩

end Denotation

namespace Service

variable {st : Settings} {q : Request} {x : Response}

/-! ## Parts and calls -/

/-- What the service hands limits to. -/
structure Parts where
  interpreter : Interpreter
  build : (budget : Int) → State → Command → Except Error (Option Derivation)
  trace : (record : Bool) → Configuration → (limit : Int) → Except Error Trace

/-- A limit that is handed to one of the parts. -/
inductive Call where
  /-- The interpreter is to run a command on a budget. -/
  | interpret (budget : Int)
  /-- A derivation is to be built on a budget. -/
  | derive (budget : Int)
  /-- A program is to be followed for a number of steps. -/
  | follow (limit : Int)
deriving DecidableEq

namespace Parts

/-- The parts of the language. -/
def standard : Parts :=
  ⟨.standard .standard, Derivation.build .standard, (Stepper.standard .standard).trace⟩

def denotation (pt : Parts) (ceiling : Int) : Denotation := ⟨.standard, pt.interpreter, ceiling⟩

/-- The parts as engines of a comparison. -/
def engines (pt : Parts) (ceiling : Int) : Engines where
  trace := pt.trace false
  derive := pt.build
  faults := Derivation.faults .standard
  run := pt.interpreter.run
  denote := (pt.denotation ceiling).denote
  leastBudget s c := (pt.denotation ceiling).leastBudget s c ceiling

/-- The parts, but one call fails. -/
def failing (pt : Parts) (e : Error) : Call → Parts
  | .interpret b =>
    { pt with interpreter := fun b' c s => if b' = b then .error e else pt.interpreter b' c s }
  | .derive b =>
    { pt with build := fun b' s c => if b' = b then .error e else pt.build b' s c }
  | .follow n =>
    { pt with trace := fun record c n' => if n' = n then .error e else pt.trace record c n' }

/-- Two sets of parts return the same on the calls with the property `P`. -/
structure AgreeOn (P : Call → Prop) (pt pt' : Parts) : Prop where
  interpreter_eq (b : Int) (h : P (.interpret b)) (c : Command) (s : State) :
    pt.interpreter b c s = pt'.interpreter b c s
  build_eq (b : Int) (h : P (.derive b)) (s : State) (c : Command) :
    pt.build b s c = pt'.build b s c
  trace_eq (n : Int) (h : P (.follow n)) (record : Bool) (c : Configuration) :
    pt.trace record c n = pt'.trace record c n

theorem failing_agreeOn {P : Call → Prop} {call : Call} (h : ¬ P call) (pt : Parts) (e : Error) :
    AgreeOn P (pt.failing e call) pt := by
  have hne {call' : Call} (h' : P call') : call' ≠ call := fun heq => h (heq ▸ h')
  constructor
  case interpreter_eq =>
    intro b hb c s
    cases call with
    | interpret b' => exact if_neg fun heq : b = b' => hne hb (heq ▸ rfl)
    | derive _ => rfl
    | follow _ => rfl
  case build_eq =>
    intro b hb s c
    cases call with
    | derive b' => exact if_neg fun heq : b = b' => hne hb (heq ▸ rfl)
    | interpret _ => rfl
    | follow _ => rfl
  case trace_eq =>
    intro n hn record c
    cases call with
    | follow n' => exact if_neg fun heq : n = n' => hne hn (heq ▸ rfl)
    | interpret _ => rfl
    | derive _ => rfl

end Parts

/-! ## Answers from any parts -/

section

variable (pt : Parts) (st : Settings) (r : ProgramRequest)

def runWith (asked : Option Int) : Except Refusal RunResponse := do
  let budget ← budgetOf st asked
  let p ← resolve r
  let o ← Refusal.ofError (pt.interpreter.run p.command p.initial budget)
  return ⟨o, budget, o.state?.mapM (·.render p.names)⟩

def traceWith (asked : Option Int) (record : Bool) : Except Refusal TraceResponse := do
  let limit ← stepLimitOf st asked
  let p ← resolve r
  let t ← Refusal.ofError (pt.trace record ⟨p.command, p.initial⟩ limit)
  return ⟨t, t.outcome limit, t.configurations.mapM (·.render p.names)⟩

def deriveWith (asked : Option Int) : Except Refusal DeriveResponse := do
  let budget ← budgetOf st asked
  let p ← resolve r
  match ← Refusal.ofError (pt.build budget p.initial p.command) with
  | none => return ⟨none, false, [], .ok []⟩
  | some d =>
    return ⟨some d.flatten, d.holds .standard, d.verify .standard, d.outline p.names⟩

def denoteWith (budgets : List Int) : Except Refusal DenoteResponse := do
  checkBudgets st.maxBudget budgets
  let p ← resolve r
  let den := pt.denotation st.maxBudget
  let o ← Refusal.ofError (den.denote p.initial p.command)
  let least ← Refusal.ofError (den.leastBudget p.initial p.command den.ceiling)
  let approximations ← Refusal.ofError (den.approximations p.initial p.command budgets)
  return ⟨o, least, den.ceiling, approximations⟩

def equivalenceWith (askedBudget askedSteps : Option Int) : Except Refusal Report := do
  let budget ← budgetOf st askedBudget
  let maxSteps ← stepLimitOf st askedSteps
  let p ← resolve r
  Refusal.ofError ((pt.engines st.maxBudget).compare p.command p.initial budget maxSteps)

/-- The response to a request, made with the given parts. -/
def answerWith : Request → Except Refusal Response
  | .run r budget => (runWith pt st r budget).map .run
  | .trace r maxSteps record => (traceWith pt st r maxSteps record).map .trace
  | .derive r budget => (deriveWith pt st r budget).map .derive
  | .denote r budgets => (denoteWith pt st r budgets).map .denote
  | .equivalence r budget maxSteps => (equivalenceWith pt st r budget maxSteps).map .equivalence
  | q => answer st q

end

/-- **The service uses the parts of the language.** -/
theorem answerWith_standard (st : Settings) (q : Request) :
    answerWith .standard st q = answer st q := by
  cases q <;> rfl

/-- The call is taken in answering the request: if it failed, the answer would be another one. -/
def Takes (st : Settings) (q : Request) (call : Call) : Prop :=
  ∃ e : Error, answerWith (Parts.standard.failing e call) st q ≠ answer st q

/-! ## Calls that are permitted -/

/-- The call is within the limits of the settings. -/
def Call.Within (st : Settings) : Call → Prop
  | .interpret b | .derive b => 0 ≤ b ∧ b ≤ st.maxBudget
  | .follow n => 0 ≤ n ∧ n ≤ st.maxSteps

/-- The call is on the default budget, which is not negative. -/
def Call.OnDefault (st : Settings) : Call → Prop
  | .interpret b | .derive b => 0 ≤ b ∧ b = st.defaultBudget
  | .follow _ => False

/-- The request leaves its budget to the settings. -/
def Request.LeavesBudget : Request → Prop
  | .run _ none | .derive _ none | .equivalence _ none _ => True
  | _ => False

/-- The calls within the limits, and those on the default budget if the request asks for none. -/
def Permitted (st : Settings) (q : Request) (call : Call) : Prop :=
  call.Within st ∨ q.LeavesBudget ∧ call.OnDefault st

/-- What is asked for is held to the bound, the default is not. -/
theorem boundedLimit_eq_ok_iff {field : String} {default limit n : Int} {asked : Option Int} :
    boundedLimit field default limit asked = .ok n ↔
      (asked = some n ∧ n ≤ limit) ∨ (asked = none ∧ n = default) := by
  cases asked with
  | none => simp [boundedLimit, eq_comm]
  | some v =>
    rw [boundedLimit]
    split <;> simp <;> omega

theorem stepLimitOf_le {asked : Option Int} {n : Int} (h : stepLimitOf st asked = .ok n) :
    n ≤ st.maxSteps := by
  rcases boundedLimit_eq_ok_iff.1 h with ⟨-, hle⟩ | ⟨-, rfl⟩
  · exact hle
  · exact Int.le_refl _

theorem checkBudgets_eq_ok_iff {limit : Int} {budgets : List Int} :
    checkBudgets limit budgets = .ok () ↔ ∀ b ∈ budgets, b ≤ limit := by
  refine ⟨fun h => ?_, checkBudgets_eq_ok⟩
  induction budgets with
  | nil => exact fun _ hb => absurd hb List.not_mem_nil
  | cons b bs ih =>
    rw [checkBudgets] at h
    split at h
    · cases h
    · rename_i hle
      exact List.forall_mem_cons.2 ⟨Int.not_lt.1 hle, ih h⟩

section

variable {pt : Parts} {r : ProgramRequest}

/-- The budget of a request, which is not negative, may be handed on. -/
theorem permitted_of_budgetOf {asked : Option Int} {k : Nat} (h : budgetOf st asked = .ok (k : Int))
    (hq : asked = none → q.LeavesBudget) :
    Permitted st q (.interpret k) ∧ Permitted st q (.derive k) := by
  have hk : 0 ≤ (k : Int) := Int.natCast_nonneg k
  rcases boundedLimit_eq_ok_iff.1 h with ⟨-, hle⟩ | ⟨hnone, hdefault⟩
  · exact ⟨.inl ⟨hk, hle⟩, .inl ⟨hk, hle⟩⟩
  · exact ⟨.inr ⟨hq hnone, hk, hdefault⟩, .inr ⟨hq hnone, hk, hdefault⟩⟩

/-- So may a budget up to the greatest one. -/
theorem permitted_of_le {b : Int} (h0 : 0 ≤ b) (hle : b ≤ st.maxBudget) :
    Permitted st q (.interpret b) :=
  .inl ⟨h0, hle⟩

theorem permitted_of_stepLimitOf {asked : Option Int} {n : Int}
    (h : stepLimitOf st asked = .ok n) (h0 : 0 ≤ n) : Permitted st q (.follow n) :=
  .inl ⟨h0, stepLimitOf_le h⟩

/-! ## Parts that agree -/

theorem runWith_eq_ok {asked : Option Int} {y : RunResponse}
    (hpt : pt.AgreeOn (Permitted st (.run r asked)) .standard) (h : run st r asked = .ok y) :
    runWith pt st r asked = .ok y := by
  simp only [run, runWith, bind_eq_ok_iff, Refusal.ofError_eq_ok_iff] at h ⊢
  obtain ⟨b, hb, p, hp, o, ho, hy⟩ := h
  obtain ⟨t, ht, -⟩ := map_eq_ok_iff.1 ho
  obtain ⟨k, rfl, -⟩ := Interpreter.standard_eq_ok_iff.1 ht
  have hbudget := permitted_of_budgetOf (q := .run r asked) hb (by rintro rfl; trivial)
  have hk := hpt.interpreter_eq k hbudget.1 p.command p.initial
  exact ⟨k, hb, p, hp, o, (congrArg (Except.map _) hk).trans ho, hy⟩

theorem traceWith_eq_ok {asked : Option Int} {record : Bool} {y : TraceResponse}
    (hpt : pt.AgreeOn (Permitted st (.trace r asked record)) .standard)
    (h : trace st r asked record = .ok y) : traceWith pt st r asked record = .ok y := by
  simp only [trace, traceWith, bind_eq_ok_iff, Refusal.ofError_eq_ok_iff] at h ⊢
  obtain ⟨n, hn, p, hp, tr, htr, hy⟩ := h
  have hpermitted : Permitted st (.trace r asked record) (.follow n) :=
    permitted_of_stepLimitOf hn (Stepper.nonneg_of_trace_eq htr)
  exact ⟨n, hn, p, hp, tr, (hpt.trace_eq n hpermitted record _).trans htr, hy⟩

theorem deriveWith_eq_ok {asked : Option Int} {y : DeriveResponse}
    (hpt : pt.AgreeOn (Permitted st (.derive r asked)) .standard) (h : derive st r asked = .ok y) :
    deriveWith pt st r asked = .ok y := by
  simp only [derive, deriveWith, bind_eq_ok_iff, Refusal.ofError_eq_ok_iff] at h ⊢
  obtain ⟨b, hb, p, hp, d, hd, hy⟩ := h
  obtain ⟨k, rfl, -⟩ := Derivation.build_eq_ok_iff.1 hd
  have hbudget := permitted_of_budgetOf (q := .derive r asked) hb (by rintro rfl; trivial)
  exact ⟨k, hb, p, hp, d, (hpt.build_eq k hbudget.2 _ _).trans hd, hy⟩

/-- A denotation that does not fail has a ceiling that is not negative. -/
theorem nonneg_of_denote_eq {ceiling : Int} {s : State} {c : Command} {o : Outcome}
    (h : (Parts.standard.denotation ceiling).denote s c = .ok o) : 0 ≤ ceiling := by
  obtain ⟨t, ht, -⟩ := map_eq_ok_iff.1 h
  obtain ⟨B, rfl, -⟩ := Interpreter.standard_eq_ok_iff.1 ht
  exact Int.natCast_nonneg B

/-- The greatest budget is the ceiling of the denotation and the bound of the search. -/
theorem denotation_eq (h0 : 0 ≤ st.maxBudget) (hpt : pt.AgreeOn (Permitted st q) .standard)
    (s : State) (c : Command) :
    (pt.denotation st.maxBudget).denote s c =
        (Parts.standard.denotation st.maxBudget).denote s c ∧
      (pt.denotation st.maxBudget).leastBudget s c st.maxBudget =
        (Parts.standard.denotation st.maxBudget).leastBudget s c st.maxBudget := by
  have hinterpreter (b : Int) (hb : 0 ≤ b) (hle : b ≤ st.maxBudget) :
      pt.interpreter b c s = Parts.standard.interpreter b c s :=
    hpt.interpreter_eq b (permitted_of_le hb hle) c s
  constructor
  · exact congrArg (Except.map _) (hinterpreter st.maxBudget h0 (Int.le_refl _))
  · obtain ⟨B, hB⟩ := Int.eq_ofNat_of_zero_le h0
    rw [hB] at hinterpreter ⊢
    exact Denotation.leastBudget_congr fun k hk =>
      hinterpreter k (Int.natCast_nonneg k) (Int.ofNat_le.2 hk)

theorem denoteWith_eq_ok {budgets : List Int} {y : DenoteResponse}
    (hpt : pt.AgreeOn (Permitted st (.denote r budgets)) .standard)
    (h : denote st r budgets = .ok y) : denoteWith pt st r budgets = .ok y := by
  simp only [denote, denoteWith, bind_eq_ok_iff, Refusal.ofError_eq_ok_iff] at h ⊢
  obtain ⟨u, hbudgets, p, hp, o, ho, least, hleast, xs, hxs, hy⟩ := h
  -- If the greatest budget were negative, the denotation would have failed.
  obtain ⟨hdenote, hsearch⟩ := denotation_eq (nonneg_of_denote_eq ho) hpt p.initial p.command
  refine ⟨u, hbudgets, p, hp, o, hdenote.trans ho, least, hsearch.trans hleast, xs, ?_, hy⟩
  refine Denotation.approximations_eq_ok_of_forall (fun b hb t ht => ?_) hxs
  obtain ⟨k, rfl, -⟩ := Interpreter.standard_eq_ok_iff.1 ht
  have hle : k ≤ st.maxBudget := checkBudgets_eq_ok_iff.1 hbudgets k hb
  exact (hpt.interpreter_eq k (permitted_of_le (Int.natCast_nonneg k) hle) _ _).trans ht

theorem equivalenceWith_eq_ok {askedBudget askedSteps : Option Int} {y : Report}
    (hpt : pt.AgreeOn (Permitted st (.equivalence r askedBudget askedSteps)) .standard)
    (h : equivalence st r askedBudget askedSteps = .ok y) :
    equivalenceWith pt st r askedBudget askedSteps = .ok y := by
  simp only [equivalence, equivalenceWith, bind_eq_ok_iff, Refusal.ofError_eq_ok_iff,
    Engines.compare] at h ⊢
  obtain ⟨b, hb, n, hn, p, hp, tr, htr, d, hd, o, ho, den, hden, least, hleast, hy⟩ := h
  obtain ⟨k, rfl, -⟩ := Derivation.build_eq_ok_iff.1 hd
  have hfollow : Permitted st (.equivalence r askedBudget askedSteps) (.follow n) :=
    permitted_of_stepLimitOf hn (Stepper.nonneg_of_trace_eq htr)
  have hbudget := permitted_of_budgetOf (q := .equivalence r askedBudget askedSteps) hb
    (by rintro rfl; trivial)
  obtain ⟨hdenote, hsearch⟩ := denotation_eq (nonneg_of_denote_eq hden) hpt p.initial p.command
  have hk := hpt.interpreter_eq k hbudget.1 p.command p.initial
  exact ⟨k, hb, n, hn, p, hp, tr, (hpt.trace_eq n hfollow false _).trans htr, d,
    (hpt.build_eq k hbudget.2 _ _).trans hd, o, (congrArg (Except.map _) hk).trans ho, den,
    hdenote.trans hden, least, hsearch.trans hleast, hy⟩

/-- **Parts that agree on the permitted calls give the same answer.** -/
theorem answerWith_eq_ok (hpt : pt.AgreeOn (Permitted st q) .standard) (h : answer st q = .ok x) :
    answerWith pt st q = .ok x := by
  cases q with
  | run r asked =>
    obtain ⟨y, hy, rfl⟩ := map_eq_ok_iff.1 h
    exact map_eq_ok_iff.2 ⟨y, runWith_eq_ok hpt hy, rfl⟩
  | trace r asked record =>
    obtain ⟨y, hy, rfl⟩ := map_eq_ok_iff.1 h
    exact map_eq_ok_iff.2 ⟨y, traceWith_eq_ok hpt hy, rfl⟩
  | derive r asked =>
    obtain ⟨y, hy, rfl⟩ := map_eq_ok_iff.1 h
    exact map_eq_ok_iff.2 ⟨y, deriveWith_eq_ok hpt hy, rfl⟩
  | denote r budgets =>
    obtain ⟨y, hy, rfl⟩ := map_eq_ok_iff.1 h
    exact map_eq_ok_iff.2 ⟨y, denoteWith_eq_ok hpt hy, rfl⟩
  | equivalence r askedBudget askedSteps =>
    obtain ⟨y, hy, rfl⟩ := map_eq_ok_iff.1 h
    exact map_eq_ok_iff.2 ⟨y, equivalenceWith_eq_ok hpt hy, rfl⟩
  | health => exact h
  | programs => exact h
  | program name => exact h
  | step r => exact h
  | verify nodes names => exact h
  | optimize r => exact h
  | eval e s => exact h

/-! ## Calls that are taken -/

/-- **A request that is answered takes permitted calls only.** -/
theorem permitted_of_takes {call : Call} (h : answer st q = .ok x) (htakes : Takes st q call) :
    Permitted st q call := by
  obtain ⟨e, hne⟩ := htakes
  by_contra hbeyond
  -- The parts in which it fails are the standard ones on everything that is permitted.
  exact hne ((answerWith_eq_ok (Parts.failing_agreeOn hbeyond .standard e) h).trans h.symm)

variable {asked : Option Int} {b : Int}

theorem takes_run (h : answer st (.run r asked) = .ok x) (hb : budgetOf st asked = .ok b) :
    Takes st (.run r asked) (.interpret b) := by
  refine ⟨.negativeBudget b, fun heq => ?_⟩
  obtain ⟨y, hy, -⟩ := map_eq_ok_iff.1 (heq.trans h)
  simp only [runWith, bind_eq_ok_iff, Refusal.ofError_eq_ok_iff] at hy
  obtain ⟨b', hb', p, -, o, ho, -⟩ := hy
  obtain rfl := Except.ok.inj (hb.symm.trans hb')
  obtain ⟨t, ht, -⟩ := map_eq_ok_iff.1 ho
  simp [Parts.failing] at ht

theorem takes_derive (h : answer st (.derive r asked) = .ok x) (hb : budgetOf st asked = .ok b) :
    Takes st (.derive r asked) (.derive b) := by
  refine ⟨.negativeBudget b, fun heq => ?_⟩
  obtain ⟨y, hy, -⟩ := map_eq_ok_iff.1 (heq.trans h)
  simp only [deriveWith, bind_eq_ok_iff, Refusal.ofError_eq_ok_iff] at hy
  obtain ⟨b', hb', p, -, d, hd, -⟩ := hy
  obtain rfl := Except.ok.inj (hb.symm.trans hb')
  simp [Parts.failing] at hd

theorem takes_equivalence {askedSteps : Option Int}
    (h : answer st (.equivalence r asked askedSteps) = .ok x) (hb : budgetOf st asked = .ok b) :
    Takes st (.equivalence r asked askedSteps) (.derive b) := by
  refine ⟨.negativeBudget b, fun heq => ?_⟩
  obtain ⟨y, hy, -⟩ := map_eq_ok_iff.1 (heq.trans h)
  simp only [equivalenceWith, bind_eq_ok_iff, Refusal.ofError_eq_ok_iff, Engines.compare] at hy
  obtain ⟨b', hb', n, -, p, -, tr, -, d, hd, -⟩ := hy
  obtain rfl := Except.ok.inj (hb.symm.trans hb')
  simp [Parts.failing, Parts.engines] at hd

/-- **The default budget is used as it is.** -/
theorem takes_default (h : answer st q = .ok x) (hq : q.LeavesBudget) :
    Takes st q (.interpret st.defaultBudget) ∨ Takes st q (.derive st.defaultBudget) := by
  match q, hq with
  | .run r none, _ => exact .inl (takes_run h rfl)
  | .derive r none, _ => exact .inr (takes_derive h rfl)
  | .equivalence r none _, _ => exact .inr (takes_equivalence h rfl)

end

/-- The request takes no call beyond the limits of the settings. -/
def KeepsLimits (st : Settings) (q : Request) : Prop := ∀ call, Takes st q call → call.Within st

/-- **The limits are kept by every request that is answered, unless it leaves its budget to the
settings and these give one that is too large.** -/
theorem keepsLimits_iff (h : answer st q = .ok x) :
    KeepsLimits st q ↔ (q.LeavesBudget → st.defaultBudget ≤ st.maxBudget) := by
  constructor
  · intro hkeeps hq
    rcases takes_default h hq with htakes | htakes
    · exact (hkeeps _ htakes).2
    · exact (hkeeps _ htakes).2
  · intro hdefault call htakes
    rcases permitted_of_takes h htakes with hwithin | ⟨hq, hcall⟩
    · exact hwithin
    · cases call with
      | interpret b => exact ⟨hcall.1, hcall.2 ▸ hdefault hq⟩
      | derive b => exact ⟨hcall.1, hcall.2 ▸ hdefault hq⟩
      | follow n => exact hcall.elim

end Service

end WhileLang
