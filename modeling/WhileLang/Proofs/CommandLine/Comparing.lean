import WhileLang.CommandLine.Perform
import WhileLang.Proofs.Comparison

/-!
# No false disagreement

The commands `check` and `fuzz` leave the status `2` if a comparison finds an error. The semantics
of the language never differ, so they do not leave it: what is compared is a program of the
catalogue, of a file or of the generator, and for all of them the report is consistent
(`no_false_disagreement`).
-/

namespace WhileLang

namespace CommandLine

variable {env : Surroundings} {page : Page}

/-- Whatever programs are drawn, the semantics agree on them. -/
theorem agree_of_mem_fuzzReports {σ : Type} {gen : Generator σ} {st : Settings} {bounded : Bool}
    {budget maxSteps : Int} {count : Nat} {g : Generator.Progress σ} {reports : List Report}
    (h : fuzzReports gen (engines st) bounded budget maxSteps count g = .ok reports) :
    ∀ r ∈ reports, r.agree = true := by
  induction count generalizing g reports with
  | zero =>
    obtain rfl := Except.ok.inj h
    simp
  | succ count ih =>
    -- A draw of the generator that fails counts as a program that is not compared.
    rw [fuzzReports] at h
    split at h
    split at h
    · exact ih h
    · split at h
      · cases h
      · rename_i r hr
        obtain ⟨rest, hrest, rfl⟩ := map_eq_ok_iff.1 h
        intro r' hr'
        cases hr' with
        | head => exact Engines.agree_of_compare_eq hr
        | tail _ hmem => exact ih hrest r' hmem

theorem exit_of_checkProgram {t : Target} {budget : Amount}
    (h : checkProgram env t budget = .ok page) : page.exit = 0 := by
  simp only [checkProgram, bind_eq_ok_iff] at h
  obtain ⟨⟨p, s⟩, -, b, -, r, hr, h⟩ := h
  obtain ⟨_, -, _, -, _, -, _, -, h⟩ := h
  obtain rfl := Except.ok.inj h
  exact if_pos (Engines.agree_of_compare_eq hr)

theorem exit_of_fuzz {count seed budget : Amount} {bounded : Bool}
    (h : fuzz env count seed budget bounded = .ok page) : page.exit = 0 := by
  simp only [fuzz, bind_eq_ok_iff] at h
  obtain ⟨seed, -, n, -, h⟩ := h
  obtain ⟨b, reports, hreports, hexit⟩ : ∃ b reports,
      fuzzReports (.mersenne {}) (engines env.settings) bounded b env.settings.maxSteps n.toNat
        ((Generator.mersenne {}).start (.ofSeed seed)) = .ok reports ∧
      page.exit = if (reports.filter fun r => !r.agree).length = 0 then 0 else 2 := by
    split at h
    all_goals
      obtain ⟨b, -, h⟩ := bind_eq_ok_iff.1 h
      obtain ⟨reports, hreports, h⟩ := bind_eq_ok_iff.1 h
      obtain rfl := Except.ok.inj h
      exact ⟨b, reports, hreports, rfl⟩
  have hagree := agree_of_mem_fuzzReports hreports
  have hnone : reports.filter (fun r => !r.agree) = [] := by
    refine List.filter_eq_nil_iff.2 fun r hr => ?_
    simp [hagree r hr]
  rw [hexit, hnone]
  rfl

/-- The commands that compare semantics. -/
def Invocation.IsComparison : Invocation → Prop
  | .check .. | .fuzz .. => True
  | _ => False

theorem exit_of_isComparison {i : Invocation} (hi : i.IsComparison)
    (h : perform env i = .ok page) : page.exit = 0 := by
  cases i with
  | check t budget => exact exit_of_checkProgram h
  | fuzz count seed budget bounded => exact exit_of_fuzz h
  | _ => cases hi

theorem status_of_isComparison {args : List String} {environment : Settings.Variables}
    {dir : Folder} {charset : Text.Charset} {i : Invocation}
    (hparse : parseInvocation args = .ok i) (hi : i.IsComparison) :
    (execute args environment dir charset).status ≠ 2 := by
  simp only [execute, hparse]
  split
  · simp [Ending.status]
  · split
    · rename_i page hpage
      show page.exit ≠ 2
      rw [exit_of_isComparison hi hpage]
      decide
    · split <;> simp [Ending.status]

end CommandLine

/-- **No false disagreement.** Comparing the semantics of the language, under any evaluator and any
limits, gives a consistent report; and a command line that is read as one of the two commands that
compare them never leaves the status of a disagreement. -/
theorem no_false_disagreement :
    (∀ (ev : Evaluator) (ceiling budget maxSteps : Nat) (c : Command) (s : State),
      ∃ r, (Engines.standard ev ceiling).compare c s budget maxSteps = .ok r ∧
        r.Consistent ceiling budget) ∧
    ∀ (args : List String) (environment : Settings.Variables) (dir : CommandLine.Folder)
      (charset : Text.Charset) (i : CommandLine.Invocation),
      CommandLine.parseInvocation args = .ok i → i.IsComparison →
        (CommandLine.execute args environment dir charset).status ≠ 2 :=
  ⟨Engines.exists_consistent, fun _ _ _ _ _ => CommandLine.status_of_isComparison⟩

end WhileLang
