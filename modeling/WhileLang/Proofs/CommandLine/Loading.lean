import Mathlib.Logic.Function.Iterate
import WhileLang.CommandLine.Folder
import WhileLang.Proofs.Json.Following
import WhileLang.Proofs.Json.Records

/-!
# Records survive their texts

A record is found again in both of its texts, the compact one and the one on several lines
(`RoundTrips`), so a file that holds the text of a program is loaded as that program, and a file
that holds the text of a command as a program that consists of the command only. Both hold within
the limits of the reader of JSON, on the digits of a number and on the depth of nesting
(`json_is_faithful`, `json_is_faithful_limit`).
-/

namespace WhileLang

/-! ## Texts of records -/

/-- Both texts that `a` is written as are read as `a`. -/
def RoundTrips {α : Type} (write : α → Json) (read : Json → Option α) (a : α) : Prop :=
  ∀ text ∈ [(write a).compact, (write a).pretty], (Json.parse? text).bind read = some a

theorem RoundTrips.of_withinLimits {α : Type} {write : α → Json} {read : Json → Option α} {a : α}
    (hlimits : (write a).WithinLimits) (hread : read (write a) = some a) :
    RoundTrips write read a := by
  intro text htext
  rw [Json.parse?_text hlimits text htext]
  exact hread

/-! ## Files -/

namespace CommandLine

variable {dir : Folder} {source text : String}

theorem Folder.load_eq (hzero : Char.ofNat 0 ∉ source.toList)
    (hfind : dir.find (.ofString source) = .text text) :
    dir.load source =
      (readProgram? (.ofString source) text).elim (.error (.notAProgram source)) .ok := by
  simp only [load, if_neg hzero, hfind]
  cases readProgram? (.ofString source) text <;> rfl

/-- A folder with one file in it. -/
theorem Folder.find_singleton (name : String) (hname : FilePath.ofString name = ⟨"", [name]⟩)
    (hdots : name ≠ "..") (hsize : name.utf8ByteSize ≤ maxPartSize) (text : String) :
    (ofList [(name, text)]).find (.ofString name) = .text text := by
  have hpart : ¬ maxPartSize < name.utf8ByteSize := Nat.not_lt.2 hsize
  have hpath : ¬ maxPathSize < (FilePath.mk "" [name]).toString.utf8ByteSize := by
    simp only [FilePath.toString, List.isEmpty_cons, Bool.false_eq_true, and_false, if_false,
      String.intercalate_singleton, String.empty_append]
    exact Nat.not_lt.2 (Nat.le_trans hsize (by decide))
  rw [hname, find, if_neg hpath]
  simp [follow, ofList, at?, FilePath.start, FilePath.enter, hname, hdots, hpart]

/-- **The text of a program is loaded as the program.** -/
theorem Folder.load_program {p : Program} (hlimits : p.toJson.WithinLimits)
    (htext : text ∈ [p.toJson.compact, p.toJson.pretty])
    (hzero : Char.ofNat 0 ∉ source.toList)
    (hfind : dir.find (.ofString source) = .text text) : dir.load source = .ok p := by
  rw [load_eq hzero hfind, readProgram?, Json.parse?_text hlimits text htext]
  simp only [Program.toProgram?_toJson hlimits.short, Option.elim_some]

/-- **The text of a command is loaded as the command alone**, named after the file. -/
theorem Folder.load_command {c : Command} (hlimits : c.toJson.WithinLimits)
    (htext : text ∈ [c.toJson.compact, c.toJson.pretty])
    (hzero : Char.ofNat 0 ∉ source.toList)
    (hfind : dir.find (.ofString source) = .text text) :
    dir.load source = .ok (.ofCommand (FilePath.ofString source).stem
      (FilePath.ofString source).toString c) := by
  rw [load_eq hzero hfind, readProgram?, Json.parse?_text hlimits text htext]
  simp only [c.toProgram?_toJson, c.toCommand?_toJson, Option.map_some, Option.elim_some]

end CommandLine

/-! ## The encoding as a whole -/

open CommandLine

/-- **JSON is a faithful encoding**, as far as numbers are short enough to be read and the
nesting is not too deep. -/
theorem json_is_faithful :
    ((∀ e : AExp, e.toJson.WithinLimits → RoundTrips AExp.toJson Json.toAExp? e) ∧
      (∀ b : BExp, b.toJson.WithinLimits → RoundTrips BExp.toJson Json.toBExp? b) ∧
      (∀ c : Command, c.toJson.WithinLimits → RoundTrips Command.toJson Json.toCommand? c) ∧
      (∀ s : State, s.toJson.isShort → RoundTrips State.toJson Json.toState? s) ∧
      (∀ a : Configuration, a.toJson.WithinLimits →
        RoundTrips Configuration.toJson Json.toConfiguration? a) ∧
      (∀ o : Outcome, o.toJson.WithinLimits → RoundTrips Outcome.toJson Json.toOutcome? o) ∧
      (∀ d : Derivation, d.toJson.WithinLimits →
        RoundTrips Derivation.toJson Json.toDerivation? d) ∧
      (∀ n : FlatNode, n.toJson.WithinLimits → RoundTrips FlatNode.toJson Json.toFlatNode? n) ∧
      ∀ p : Program, p.toJson.WithinLimits → RoundTrips Program.toJson Json.toProgram? p) ∧
    (∀ j : Json, j.Tagged →
      (∀ e, j.toAExp? = some e → e.Follows j) ∧ (∀ b, j.toBExp? = some b → b.Follows j) ∧
        ∀ c, j.toCommand? = some c → c.Follows j) ∧
    (∀ ms : List (String × Json), (Json.member? "node_type" ms).isSome →
      (Field.aexpForms (Json.fieldTable ms)).countP Option.isSome ≤ 1 ∧
        (Field.bexpForms (Json.fieldTable ms)).countP Option.isSome ≤ 1 ∧
        (Field.commandForms (Json.fieldTable ms)).countP Option.isSome ≤ 1) ∧
    ∀ (dir : Folder) (source text : String), Char.ofNat 0 ∉ source.toList →
      dir.find (.ofString source) = .text text →
        (∀ p : Program, p.toJson.WithinLimits → text ∈ [p.toJson.compact, p.toJson.pretty] →
          dir.load source = .ok p) ∧
        ∀ c : Command, c.toJson.WithinLimits → text ∈ [c.toJson.compact, c.toJson.pretty] →
          dir.load source = .ok ⟨(FilePath.ofString source).stem,
            (FilePath.ofString source).toString, c, ∅, .initial⟩ := by
  refine ⟨⟨fun e h => .of_withinLimits h e.toAExp?_toJson,
    fun b h => .of_withinLimits h b.toBExp?_toJson,
    fun c h => .of_withinLimits h c.toCommand?_toJson,
    fun s h =>
      .of_withinLimits ⟨h, s.nesting_toJson⟩ (State.toState?_toJson h),
    fun a h => .of_withinLimits h (Configuration.toConfiguration?_toJson h.short),
    fun o h => .of_withinLimits h (Outcome.toOutcome?_toJson h.short),
    fun d h => .of_withinLimits h (Derivation.toDerivation?_toJson h.short),
    fun n h => .of_withinLimits h (FlatNode.toFlatNode?_toJson h.short),
    fun p h => .of_withinLimits h (Program.toProgram?_toJson h.short)⟩,
    fun j h => ?_, fun ms h => ?_,
    fun dir source text hzero hfind => ⟨fun p hlimits htext => ?_, fun c hlimits htext => ?_⟩⟩
  · have hfollowed := h.followed
    refine ⟨fun e he => ?_, fun b hb => ?_, fun c hc => ?_⟩
    · obtain ⟨r, hr, rfl⟩ := Option.map_eq_some_iff.1 he
      exact hfollowed.aexp hr
    · obtain ⟨r, hr, rfl⟩ := Option.map_eq_some_iff.1 hb
      exact hfollowed.bexp hr
    · obtain ⟨r, hr, rfl⟩ := Option.map_eq_some_iff.1 hc
      exact hfollowed.command hr
  · exact ⟨Json.countP_aexpForms_le_one h, Json.countP_bexpForms_le_one h,
      Json.countP_commandForms_le_one h⟩
  · exact Folder.load_program hlimits htext hzero hfind
  · exact Folder.load_command hlimits htext hzero hfind

/-- A program with a negative variable that has a name, its text and that of its command in a file,
and a condition with an unknown member that names its forms. -/
theorem json_is_faithful_file :
    let c : Command := .loop (.neg (.lessEqual (.number 12) (.var (-3))))
      (.assign (-3) (.plus (.var (-3)) (.number 5)))
    let p : Program := ⟨"count", "a \"line\"", c, .ofList [(-3, "n")], .ofList [(-3, -40)]⟩
    let j : Json := .object [("operand", .node "true" [("left", .object [])]),
      ("node_type", .string "not")]
    (Folder.ofList [("t.json", p.toJson.pretty)]).load "t.json" = .ok p ∧
      (Folder.ofList [("t.json", c.toJson.compact)]).load "t.json" =
        .ok ⟨"t", "t.json", c, ∅, .initial⟩ ∧
      RoundTrips Program.toJson Json.toProgram? p ∧
      j.toBExp? = some (.neg .tt) ∧ BExp.Follows (.neg .tt) j := by
  intro c p j
  have hfind := Folder.find_singleton "t.json" (by decide +kernel) (by decide) (by decide +kernel)
  have hzero : Char.ofNat 0 ∉ "t.json".toList := by decide
  have hp : p.toJson.WithinLimits := ⟨by decide +kernel, by decide +kernel⟩
  have hc : c.toJson.WithinLimits := ⟨by decide +kernel, by decide +kernel⟩
  have hread : j.toBExp? = some (.neg .tt) := by rfl
  have hleaf : (Json.node "true" [("left", .object [])]).Tagged := by
    refine .object rfl fun t ht name hname => ?_
    obtain rfl : "true" = t := Option.some.inj ht
    cases hname
  have htagged : j.Tagged := by
    refine .object rfl fun t ht name hname q hq => ?_
    obtain rfl : "not" = t := Option.some.inj ht
    obtain rfl : name = "operand" := List.mem_singleton.1 hname
    obtain rfl : Json.node "true" [("left", .object [])] = q := Option.some.inj hq
    exact hleaf
  refine ⟨?_, ?_, json_is_faithful.1.2.2.2.2.2.2.2.2 p hp, hread,
    (json_is_faithful.2.1 j htagged).2.1 _ hread⟩
  · exact (json_is_faithful.2.2.2 _ _ _ hzero (hfind _)).1 p hp (by simp)
  · exact (json_is_faithful.2.2.2 _ _ _ hzero (hfind _)).2 c hc (by simp)

/-- A command whose text is not read is found neither in it nor in a file with that text. -/
theorem Command.not_found {c : Command}
    (h : ¬ (c.toJson.isReadable ∧ c.toJson.nesting ≤ Json.maxNesting)) :
    ¬ RoundTrips Command.toJson Json.toCommand? c ∧
      (Folder.ofList [("t.json", c.toJson.compact)]).load "t.json" =
        .error (.notAProgram "t.json") := by
  have hparse : Json.parse? c.toJson.compact = none := by rw [Json.parse?_compact, if_neg h]
  refine ⟨fun hround => ?_, ?_⟩
  · have htext := hround c.toJson.compact (List.mem_cons_self ..)
    rw [hparse] at htext
    cases htext
  · have hfind := Folder.find_singleton "t.json" (by decide +kernel) (by decide)
      (by decide +kernel) c.toJson.compact
    rw [Folder.load_eq (by decide) hfind, Folder.readProgram?, hparse]
    rfl

/-- Each negation is one object more around its operand. -/
theorem BExp.le_nesting_negations (n : Nat) (b : BExp) : n ≤ (BExp.neg^[n] b).toJson.nesting := by
  induction n with
  | zero => exact Nat.zero_le _
  | succ n ih =>
    simp only [Function.iterate_succ_apply', toJson, Json.node, Json.nesting, Json.membersNesting]
    omega

/-- One digit too many, or three hundred negations: the command is not found in its text again. -/
theorem json_is_faithful_limit :
    let long : Command := .loop .ff (.assign 0 (.number Text.numeralBound))
    let deep : Command := .branch (BExp.neg^[300] .tt) .skip .skip
    (¬ RoundTrips Command.toJson Json.toCommand? long ∧
      (Folder.ofList [("t.json", long.toJson.compact)]).load "t.json" =
        .error (.notAProgram "t.json")) ∧
      ¬ RoundTrips Command.toJson Json.toCommand? deep ∧
        (Folder.ofList [("t.json", deep.toJson.compact)]).load "t.json" =
          .error (.notAProgram "t.json") := by
  intro long deep
  have hlong : long.toJson.isReadable = false := by
    simp only [long, Command.toJson, BExp.toJson, AExp.toJson, Json.node, Json.isReadable,
      Json.membersReadable, Text.isWritable_numeralBound, Bool.and_false, Bool.false_and]
  have hdeep : Json.maxNesting < deep.toJson.nesting := by
    have hcond := BExp.le_nesting_negations 300 .tt
    simp only [deep, Command.toJson, Json.node, Json.nesting, Json.membersNesting, Json.maxNesting]
    omega
  refine ⟨Command.not_found fun h => ?_, Command.not_found fun h => ?_⟩
  · rw [hlong] at h
    exact Bool.noConfusion h.1
  · exact Nat.not_le.2 hdeep h.2

end WhileLang
