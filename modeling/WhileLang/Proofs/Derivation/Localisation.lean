import Mathlib.Data.List.Basic
import WhileLang.Proofs.Derivation.Validity
import WhileLang.Proofs.Derivation.Visits
import WhileLang.Proofs.Text.Numeral

/-!
# Where the faults of a tree are

An issue that `Derivation.verify` reports has the text of a path for its place, and different paths
have different texts (`pathText_inj`). Since every path is visited once, the issues at a place are
the faults of the node there, and nothing else (`issuesAt_pathText`).

The check of a node never lacks what it asks for. `inspect?` is the same check in stages that ask
for parts of the command and for premises one by one, and have no answer if one is missing: the form
of the command and the number of premises are looked at first, and with these as the rule has them
all parts are there (`inspect?_eq`).

**Theorem (`every_fault_is_located`).** The check of any tree succeeds, visits every node once, and
has issues at just those paths whose node is no instance of its rule.
-/

namespace WhileLang

namespace Derivation

variable {ev : Evaluator} {d : Derivation}

/-! ## The texts of paths -/

/-- The characters for one number of a path, behind those that introduce it. -/
def stepChars (opening : List Char) (i : Nat) : List Char :=
  opening ++ (Nat.toDigits 10 i ++ [']'])

theorem toList_pathText (path : List Nat) :
    (pathText path).toList = "root".toList ++ path.flatMap (stepChars ".premises[".toList) := by
  have hstep (text : String) (i : Nat) : (text ++ ".premises[" ++ toString i ++ "]").toList =
      text.toList ++ stepChars ".premises[".toList i := by
    rw [String.toList_append, String.toList_append, String.toList_append, Nat.toString_eq_repr,
      Nat.toList_repr, List.append_assoc, List.append_assoc, stepChars]
    rfl
  have h (start : String) :
      (path.foldl (fun text i => text ++ ".premises[" ++ toString i ++ "]") start).toList =
        start.toList ++ path.flatMap (stepChars ".premises[".toList) := by
    induction path generalizing start with
    | nil => rw [List.foldl_nil, List.flatMap_nil, List.append_nil]
    | cons i path ih => rw [List.foldl_cons, ih, hstep, List.flatMap_cons, List.append_assoc]
  exact h "root"

/-- The digits of a number end where the bracket is closed. -/
theorem flatMap_stepChars_inj {opening : List Char} {p q : List Nat}
    (h : p.flatMap (stepChars opening) = q.flatMap (stepChars opening)) : p = q := by
  induction p generalizing q with
  | nil =>
    cases q with
    | nil => rfl
    | cons j q => simp [stepChars] at h
  | cons i p ih =>
    cases q with
    | nil => simp [stepChars] at h
    | cons j q =>
      simp only [List.flatMap_cons, stepChars, List.append_assoc, List.append_cancel_left_eq] at h
      have hbracket (rest : List Char) : Text.EndsDigits ([']'] ++ rest) :=
        Text.endsDigits_cons.2 (by decide)
      obtain ⟨rfl, hrest⟩ := Text.toDigits_append_inj (hbracket _) (hbracket _) h
      rw [ih (List.append_cancel_left hrest)]

theorem pathText_inj {p q : List Nat} : pathText p = pathText q ↔ p = q := by
  constructor
  · intro h
    have hchars := congrArg String.toList h
    rw [toList_pathText, toList_pathText] at hchars
    exact flatMap_stepChars_inj (List.append_cancel_left hchars)
  · rintro rfl
    rfl

/-! ## The issues at a place -/

/-- The issues with the given place. -/
def issuesAt (ev : Evaluator) (d : Derivation) (place : String) : List Issue :=
  (d.verify ev).filter fun i => i.place? = some place

/-- What a list with different keys has for one of them. -/
theorem flatMap_ite_eq {β : Type} {visits : List Visit} (h : (visits.map Prod.fst).Nodup)
    {path : List Nat} {n : Derivation} (hmem : (path, n) ∈ visits) (f : Visit → List β) :
    (visits.flatMap fun v => if v.1 = path then f v else []) = f (path, n) := by
  induction visits with
  | nil => cases hmem
  | cons v visits ih =>
    rw [List.map_cons, List.nodup_cons] at h
    obtain ⟨hv, hrest⟩ := h
    rw [List.flatMap_cons]
    rcases List.mem_cons.1 hmem with rfl | hmem
    · have hnil : (visits.flatMap fun v => if v.1 = path then f v else []) = [] :=
        List.flatMap_eq_nil_iff.2 fun w hw => if_neg fun heq =>
          hv (List.mem_map.2 ⟨w, hw, heq⟩)
      rw [if_pos rfl, hnil, List.append_nil]
    · have hne : v.1 ≠ path := by
        rintro rfl
        exact hv (List.mem_map.2 ⟨_, hmem, rfl⟩)
      rw [if_neg hne, List.nil_append, ih hrest hmem]

/-- **Places.** The issues at a path are the faults of the node there, each once. -/
theorem issuesAt_pathText (ev : Evaluator) (d : Derivation) (path : List Nat) :
    d.issuesAt ev (pathText path) =
      match d.at? path with
      | some n => (n.rootFaults ev).map (Issue.derivationFault path)
      | none => [] := by
  have hfilter : d.issuesAt ev (pathText path) = d.visits.flatMap fun v =>
      if v.1 = path then (v.2.rootFaults ev).map (Issue.derivationFault v.1) else [] := by
    rw [issuesAt, verify_eq_flatMap, List.filter_flatMap]
    refine List.flatMap_congr fun v _ => ?_
    split
    · rename_i heq
      refine List.filter_eq_self.2 fun i hi => ?_
      obtain ⟨f, -, rfl⟩ := List.mem_map.1 hi
      simp [Issue.place?, heq]
    · rename_i hne
      refine List.filter_eq_nil_iff.2 fun i hi => ?_
      obtain ⟨f, -, rfl⟩ := List.mem_map.1 hi
      simpa [Issue.place?, pathText_inj] using hne
  rw [hfilter]
  cases hat : d.at? path with
  | some n =>
    exact flatMap_ite_eq d.nodup_visits (mem_visits_iff.2 hat) fun v =>
      (v.2.rootFaults ev).map (Issue.derivationFault v.1)
  | none =>
    refine List.flatMap_eq_nil_iff.2 fun v hv => if_neg ?_
    rintro rfl
    rw [mem_visits_iff.1 hv] at hat
    cases hat

theorem issuesAt_ne_nil_iff {path : List Nat} :
    d.issuesAt ev (pathText path) ≠ [] ↔ ∃ n, d.at? path = some n ∧ ¬ Follows ev n := by
  rw [issuesAt_pathText]
  cases d.at? path with
  | none => simp
  | some n => simp [← rootFaults_eq_nil_iff]

/-- Every issue is at the path of a node. -/
theorem exists_place_of_mem_verify {i : Issue} (h : i ∈ d.verify ev) :
    ∃ path n, d.at? path = some n ∧ i.place? = some (pathText path) := by
  rw [verify_eq_flatMap] at h
  obtain ⟨⟨path, n⟩, hv, hi⟩ := List.mem_flatMap.1 h
  obtain ⟨f, -, rfl⟩ := List.mem_map.1 hi
  exact ⟨path, n, mem_visits_iff.1 hv, rfl⟩

/-! ## Every part that is asked for is there -/

/-- The conditions of the rule of a node. There is no answer if the node lacks a part of its command
or a premise that the rule asks for. -/
def ruleFaults? (ev : Evaluator) (d : Derivation) : Option (List Fault) :=
  match d.rule with
  | .skip => some (faultUnless (d.post = d.pre) (.conclusionState .skip))
  | .assign =>
    match d.command with
    | .assign x e =>
      some (faultUnless (d.post = d.pre.update x (ev.aexp d.pre e)) (.conclusionState .assign))
    | _ => none
  | .seq =>
    match d.command, d.premises[0]?, d.premises[1]? with
    | .seq c₁ c₂, some p₁, some p₂ =>
      some (linkFaults p₁ c₁ d.pre ++ linkFaults p₂ c₂ p₁.post ++
        faultUnless (d.post = p₂.post) (.conclusionState .seq))
    | _, _, _ => none
  | .branchTrue | .branchFalse =>
    match d.command, d.premises[0]? with
    | .branch b c₁ c₂, some p =>
      let chosen := decide (d.rule = .branchTrue)
      some (faultUnless (ev.bexp d.pre b = chosen) (.guardValue d.rule) ++
        linkFaults p (if chosen then c₁ else c₂) d.pre ++
        faultUnless (d.post = p.post) (.conclusionState d.rule))
    | _, _ => none
  | .loopFalse =>
    match d.command with
    | .loop b _ =>
      some (faultUnless (!ev.bexp d.pre b) (.guardValue .loopFalse) ++
        faultUnless (d.post = d.pre) (.conclusionState .loopFalse))
    | _ => none
  | .loopTrue =>
    match d.command, d.premises[0]?, d.premises[1]? with
    | .loop b c, some p₁, some p₂ =>
      some (faultUnless (ev.bexp d.pre b) (.guardValue .loopTrue) ++ linkFaults p₁ c d.pre ++
        linkFaults p₂ (.loop b c) p₁.post ++
        faultUnless (d.post = p₂.post) (.conclusionState .loopTrue))
    | _, _, _ => none

/-- The check of a node in stages. The conditions of the rule are looked at only if the form of the
command and the number of premises are those of the rule. -/
def inspect? (ev : Evaluator) (d : Derivation) : Option (List Fault) :=
  if d.command.form ≠ d.rule.form then some [.ruleMismatch d.rule d.command.form]
  else if d.premises.length ≠ d.rule.arity then some [.premiseCount d.rule d.premises.length]
  else d.ruleFaults? ev

theorem rootFaults_of_form_ne (h : d.command.form ≠ d.rule.form) :
    d.rootFaults ev = [.ruleMismatch d.rule d.command.form] := by
  obtain ⟨r, c, s, t, ps⟩ := d
  simp only [rootFaults]
  split
  case h_8 => exact if_neg h
  all_goals exact absurd rfl h

theorem rootFaults_of_length_ne (h : d.command.form = d.rule.form)
    (hlength : d.premises.length ≠ d.rule.arity) :
    d.rootFaults ev = [.premiseCount d.rule d.premises.length] := by
  obtain ⟨r, c, s, t, ps⟩ := d
  simp only [rootFaults]
  split
  case h_8 => exact if_pos h
  all_goals exact absurd rfl hlength

/-- With the form and the premises of its rule, a node has all parts that the rule asks for. -/
theorem ruleFaults?_eq (h : d.command.form = d.rule.form)
    (hlength : d.premises.length = d.rule.arity) :
    d.ruleFaults? ev = some (d.rootFaults ev) := by
  obtain ⟨r, c, s, t, ps⟩ := d
  cases r <;> cases c <;> cases h
  case skip.skip =>
    obtain rfl := List.length_eq_zero_iff.1 hlength
    rfl
  case assign.assign =>
    obtain rfl := List.length_eq_zero_iff.1 hlength
    rfl
  case seq.seq =>
    obtain ⟨p₁, p₂, rfl⟩ := List.length_eq_two.1 hlength
    rfl
  case branchTrue.branch =>
    obtain ⟨p, rfl⟩ := List.length_eq_one_iff.1 hlength
    simp [ruleFaults?, rootFaults]
  case branchFalse.branch =>
    obtain ⟨p, rfl⟩ := List.length_eq_one_iff.1 hlength
    simp [ruleFaults?, rootFaults]
  case loopFalse.loop =>
    obtain rfl := List.length_eq_zero_iff.1 hlength
    rfl
  case loopTrue.loop =>
    obtain ⟨p₁, p₂, rfl⟩ := List.length_eq_two.1 hlength
    rfl

/-- **No part is missing.** -/
theorem inspect?_eq (ev : Evaluator) (d : Derivation) :
    d.inspect? ev = some (d.rootFaults ev) := by
  rw [inspect?]
  by_cases h : d.command.form = d.rule.form
  · rw [if_neg (not_not.2 h)]
    by_cases hlength : d.premises.length = d.rule.arity
    · rw [if_neg (not_not.2 hlength), ruleFaults?_eq h hlength]
    · rw [if_pos hlength, rootFaults_of_length_ne h hlength]
  · rw [if_pos h, rootFaults_of_form_ne h]

/-- The issues of one visit. -/
def visit? (ev : Evaluator) (v : Visit) : Option (List Issue) :=
  (v.2.inspect? ev).map fun faults => faults.map fun f => .derivationFault v.1 f

/-- The check of a tree, visit by visit. There is no answer if there is none for one of
the nodes. -/
def survey? (ev : Evaluator) (d : Derivation) : Option (List Issue) :=
  (d.visits.mapM (visit? ev)).map List.flatten

theorem survey?_eq (ev : Evaluator) (d : Derivation) : d.survey? ev = some (d.verify ev) := by
  have hvisit : visit? ev = fun v =>
      pure ((v.2.rootFaults ev).map fun f => Issue.derivationFault v.1 f) := by
    funext v
    rw [visit?, inspect?_eq]
    rfl
  rw [survey?, hvisit, List.mapM_pure, verify_eq_flatMap]
  rfl

/-- **Every fault is located.** The check of any tree, however ill-formed, asks no node for a part
that is missing. It visits every node once. The issues at the text of a path are there if and only
if the path leads to a node that is no instance of its rule, and there are no other issues. So there
are none if and only if the tree is a proof. -/
theorem every_fault_is_located (ev : Evaluator) (d : Derivation) :
    d.survey? ev = some (d.verify ev) ∧
    (d.visits.map Prod.fst).Nodup ∧ (∀ path n, (path, n) ∈ d.visits ↔ d.at? path = some n) ∧
    (∀ path, ((d.verify ev).filter fun i => i.place? = some (pathText path)) ≠ [] ↔
      ∃ n, d.at? path = some n ∧ ¬ Follows ev n) ∧
    (∀ i ∈ d.verify ev, ∃ path n, d.at? path = some n ∧ i.place? = some (pathText path)) ∧
    (d.verify ev = [] ↔ Proof ev d) :=
  ⟨survey?_eq ev d, d.nodup_visits, fun _ _ => mem_visits_iff, fun _ => issuesAt_ne_nil_iff,
    fun _ => exists_place_of_mem_verify, verify_eq_nil_iff⟩

/-- A forged derivation of `x₀ := 1; skip`. The second premise has a premise, which it must not
have, and which is labelled with a rule for loops. -/
theorem every_fault_is_located_nested :
    let c : Command := .assign 0 (.number 1)
    let t : State := .ofList [(0, 1)]
    let d : Derivation := ⟨.seq, .seq c .skip, .initial, t, [⟨.assign, c, .initial, t, []⟩,
      ⟨.skip, .skip, t, t, [⟨.loopTrue, .skip, t, t, []⟩]⟩]⟩
    let i : Issue := .derivationFault [1, 0] (.ruleMismatch .loopTrue .skip)
    i ∈ d.verify .standard ∧ (∃ n, d.at? [1, 0] = some n ∧ ¬ Follows .standard n) ∧
      ∃ path n, d.at? path = some n ∧ i.place? = some (pathText path) := by
  intro c t d i
  obtain ⟨-, -, -, hplace, hissue, -⟩ := every_fault_is_located .standard d
  have hi : i ∈ d.verify .standard := by decide
  have hfound : i ∈ (d.verify .standard).filter fun j => j.place? = some (pathText [1, 0]) :=
    List.mem_filter.2 ⟨hi, decide_eq_true rfl⟩
  exact ⟨hi, (hplace [1, 0]).1 (List.ne_nil_of_mem hfound), hissue i hi⟩

end Derivation

end WhileLang
