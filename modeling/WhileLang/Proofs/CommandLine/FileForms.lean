import WhileLang.Proofs.CommandLine.Loading

/-!
# What the object in a file is loaded as

A file may hold a program or a bare command, and the two readers are tried in this order. Neither
minds members that it does not know, and a command need not name its form. So an object that is
not quite a program is still looked at as a command, and unless it has a member `node_type` there
is always a form that fits: `skip` has no fields (`Folder.load_object`, `Folder.load_eq_skip`).
-/

namespace WhileLang

/-! ## Objects that name no form -/

theorem Reading.isSome_best {α : Type} {rs : List (Option (Reading α))} {r : Reading α}
    (h : some r ∈ rs) : (best rs).isSome = true := by
  suffices key : ∀ acc : Option (Reading α), acc.isSome = true ∨ some r ∈ rs →
      (rs.foldl better acc).isSome = true from key none (.inr h)
  clear h
  induction rs with
  | nil => exact fun acc h => h.resolve_right List.not_mem_nil
  | cons x rs ih =>
    intro acc h
    refine ih _ ?_
    rcases h with hacc | hmem
    · left
      obtain ⟨a, rfl⟩ := Option.isSome_iff_exists.1 hacc
      cases x <;> rfl
    · refine (List.mem_cons.1 hmem).imp_left fun hx => ?_
      rw [← hx]
      cases acc <;> rfl

namespace Json

variable {ms : List (String × Json)}

theorem member?_eq_none {α : Type} {name : String} {members : List (String × α)}
    (h : ∀ m ∈ members, m.1 ≠ name) : member? name members = none := by
  rw [member?, Option.map_eq_none_iff, List.find?_eq_none]
  intro m hm
  simpa using h m (List.mem_reverse.1 hm)

/-- What is read as a command fits one of its forms. -/
theorem exists_tagScore_of_mem {r : Reading Command}
    (h : some r ∈ Field.commandForms (fieldTable ms)) :
    ∃ n, Field.tagScore (fieldTable ms) r.value.form.tag = some n := by
  simp only [Field.commandForms, List.mem_cons, List.not_mem_nil, or_false] at h
  rcases h with hskip | hassign | hseq | hbranch | hloop
  · obtain ⟨n, hn, hr⟩ := leaf_eq_some hskip.symm
    rw [hr]
    exact ⟨n, hn⟩
  · simp only [Option.bind_eq_bind, Option.pure_def, eq_comm (a := some r),
      Option.bind_eq_some_iff, Option.some.injEq] at hassign
    obtain ⟨n, hn, -, -, -, -, rfl⟩ := hassign
    exact ⟨n, hn⟩
  · obtain ⟨n, _, _, hn, -, -, hr⟩ := pairForm_eq_some hseq.symm
    rw [hr]
    exact ⟨n, hn⟩
  · simp only [Option.bind_eq_bind, Option.pure_def, eq_comm (a := some r),
      Option.bind_eq_some_iff, Option.some.injEq] at hbranch
    obtain ⟨n, hn, -, -, -, -, -, -, rfl⟩ := hbranch
    exact ⟨n, hn⟩
  · obtain ⟨n, _, _, hn, -, -, hr⟩ := pairForm_eq_some hloop.symm
    rw [hr]
    exact ⟨n, hn⟩

/-- A command that is read from an object has the form that the object names, if it names one. -/
theorem tag?_eq_of_toCommand? {c : Command} (h : (object ms).toCommand? = some c) :
    (object ms).tag? = some c.form.tag ∨ member? "node_type" ms = none := by
  obtain ⟨r, hr, rfl⟩ := Option.map_eq_some_iff.1 h
  obtain ⟨n, hn⟩ := exists_tagScore_of_mem (Reading.mem_of_best_eq hr)
  cases htag : member? "node_type" ms with
  | none => exact .inr rfl
  | some v => exact .inl (tag?_of_tagScore_eq (by rw [htag]; rfl) hn)

/-- An object that names no form is a command. -/
theorem isSome_toCommand? (h : member? "node_type" ms = none) :
    ((object ms).toCommand?).isSome = true := by
  have hskip : Field.leaf (fieldTable ms) "skip" Command.skip = some ⟨.skip, 0, true⟩ := by
    simp [Field.leaf, Field.tagScore, member?_fieldTable, h]
  rw [toCommand?, Option.isSome_map]
  refine Reading.isSome_best (r := ⟨.skip, 0, true⟩) ?_
  rw [Field.commandForms, hskip]
  exact List.mem_cons_self ..

/-- The members that an object needs, one of them at least, to be another command than `skip`. -/
def commandMembers : List String := ["node_type", "ident", "first", "cond"]

theorem toCommand?_eq_skip (h : ∀ name ∈ commandMembers, member? name ms = none) :
    (object ms).toCommand? = some .skip := by
  have hfield (name : String) (hname : name ∈ commandMembers) :
      member? name (fieldTable ms) = none := by
    rw [member?_fieldTable, h name hname, Option.map_none]
  have htag : ∀ tag, Field.tagScore (fieldTable ms) tag = some 0 := by
    intro tag
    rw [Field.tagScore, hfield "node_type" (by decide)]
  simp [toCommand?, readings, Field.read, Field.commandForms, Field.leaf, Field.pairForm,
    Field.int?, Field.bexp?, Field.command?, htag, hfield "ident" (by decide),
    hfield "first" (by decide), hfield "cond" (by decide), Reading.best]

/-- The command of a program is what its member `command` is read as. -/
theorem exists_command_of_toProgram? {p : Program}
    (h : (object ms).toProgram? = some p) :
    ∃ v, member? "command" ms = some v ∧ v.toCommand? = some p.command := by
  simp only [toProgram?, members?, required, Option.bind_eq_bind,
    Option.bind_some, Option.bind_eq_some_iff, Option.pure_def, Option.some.injEq] at h
  obtain ⟨-, -, -, -, c, ⟨v, hv, hc⟩, -, -, -, -, rfl⟩ := h
  exact ⟨v, hv, hc⟩

end Json

/-! ## Files -/

namespace CommandLine

/-- How a file is loaded that holds an object: as the program that the object is, or else as the
bare command that it is, or not at all. -/
structure LoadedFrom (source : String) (ms : List (String × Json))
    (result : Except Error Program) : Prop where
  program (p : Program) (h : (Json.object ms).toProgram? = some p) :
    result = .ok p ∧ ∃ v, Json.member? "command" ms = some v ∧ v.toCommand? = some p.command
  command (p : Program) (h : (Json.object ms).toProgram? = none) (hp : result = .ok p) :
    ∃ c, p = .ofCommand (FilePath.ofString source).stem (FilePath.ofString source).toString c ∧
      (Json.object ms).toCommand? = some c ∧
      ((Json.object ms).tag? = some c.form.tag ∨ Json.member? "node_type" ms = none)
  refused (e : Error) : result = .error e ↔ e = .notAProgram source ∧
    (Json.object ms).toProgram? = none ∧ (Json.object ms).toCommand? = none
  named (e : Error) (h : result = .error e) : (Json.member? "node_type" ms).isSome = true
  skip (h : (Json.object ms).toProgram? = none)
    (hms : ∀ name ∈ Json.commandMembers, Json.member? name ms = none) :
    result = .ok (.ofCommand (FilePath.ofString source).stem (FilePath.ofString source).toString
      .skip)

variable {dir : Folder} {source content : String} {ms : List (String × Json)}

theorem Folder.load_object (hzero : Char.ofNat 0 ∉ source.toList)
    (hfind : dir.find (.ofString source) = .text content)
    (hparse : Json.parse? content = some (.object ms)) :
    LoadedFrom source ms (dir.load source) := by
  have hload : dir.load source = (Json.object ms).toProgram?.elim
      (((Json.object ms).toCommand?.map (Program.ofCommand (FilePath.ofString source).stem
        (FilePath.ofString source).toString)).elim (.error (.notAProgram source)) .ok) .ok := by
    rw [load_eq hzero hfind, readProgram?, hparse]
    cases hp : (Json.object ms).toProgram? <;> simp [hp]
  rw [hload]
  constructor
  case program =>
    intro p hp
    rw [hp]
    exact ⟨rfl, Json.exists_command_of_toProgram? hp⟩
  case command =>
    intro p h hp
    rw [h] at hp
    cases hc : (Json.object ms).toCommand? with
    | none => simp [hc] at hp
    | some c =>
      simp only [hc, Option.map_some, Option.elim_some, Option.elim_none, Except.ok.injEq] at hp
      exact ⟨c, hp.symm, rfl, Json.tag?_eq_of_toCommand? hc⟩
  case refused =>
    intro e
    cases (Json.object ms).toProgram? with
    | some p => simp
    | none => cases (Json.object ms).toCommand? <;> simp [eq_comm]
  case named =>
    intro e he
    cases hname : Json.member? "node_type" ms with
    | some v => rfl
    | none =>
      obtain ⟨c, hc⟩ := Option.isSome_iff_exists.1 (Json.isSome_toCommand? hname)
      cases hp : (Json.object ms).toProgram? <;> simp [hp, hc] at he
  case skip =>
    intro h hms
    rw [h, Json.toCommand?_eq_skip hms]
    rfl

/-- The members that a file with a program is said to have. -/
def programMembers : List String := ["command", "names", "initial"]

/-- An object without a name and a description is no program. -/
theorem Folder.load_eq_skip (hzero : Char.ofNat 0 ∉ source.toList)
    (hfind : dir.find (.ofString source) = .text content)
    (hparse : Json.parse? content = some (.object ms)) (hms : ∀ m ∈ ms, m.1 ∈ programMembers) :
    dir.load source = .ok (.ofCommand (FilePath.ofString source).stem
      (FilePath.ofString source).toString .skip) := by
  have habsent (name : String) (hname : name ∉ programMembers) : Json.member? name ms = none :=
    Json.member?_eq_none fun m hm hm' => hname (hm' ▸ hms m hm)
  have hprogram : (Json.object ms).toProgram? = none := by
    simp [Json.toProgram?, Json.members?, Json.required, habsent "name" (by decide)]
  have hother : ∀ name ∈ Json.commandMembers, name ∉ programMembers := by decide
  exact (load_object hzero hfind hparse).skip hprogram fun name hname =>
    habsent name (hother name hname)

end CommandLine

open CommandLine

/-- **What an object is loaded as.** A file that holds an object is loaded as the program that the
object is. If it is none, it is loaded as a bare command, which has the form that the object names;
but an object that names no form is never refused. With nothing but the members that a program is
said to have, it is `skip`. -/
theorem object_is_loaded (dir : Folder) (source content : String) (ms : List (String × Json))
    (hzero : Char.ofNat 0 ∉ source.toList) (hfind : dir.find (.ofString source) = .text content)
    (hparse : Json.parse? content = some (.object ms)) :
    LoadedFrom source ms (dir.load source) ∧
      ((∀ m ∈ ms, m.1 ∈ programMembers) →
        dir.load source = .ok ⟨(FilePath.ofString source).stem,
          (FilePath.ofString source).toString, .skip, ∅, .initial⟩) :=
  ⟨Folder.load_object hzero hfind hparse, Folder.load_eq_skip hzero hfind hparse⟩

/-- A file with the said members, and one that names a form which it has not. -/
theorem object_is_loaded_or_refused :
    let c : Command := .assign 0 (.number 1)
    let said : Json := .object [("command", c.toJson), ("names", .object [("0", .string "x")])]
    let unsaid : Json := .object [("node_type", .string "assign"), ("command", c.toJson)]
    (Folder.ofList [("t.json", said.compact)]).load "t.json" =
        .ok ⟨"t", "t.json", .skip, ∅, .initial⟩ ∧
      (Folder.ofList [("t.json", unsaid.pretty)]).load "t.json" =
        .error (.notAProgram "t.json") := by
  intro c said unsaid
  have hfind := Folder.find_singleton "t.json" (by decide +kernel) (by decide) (by decide +kernel)
  have hzero : Char.ofNat 0 ∉ "t.json".toList := by decide
  have hsaid : Json.parse? said.compact = some said :=
    Json.parse?_text ⟨by decide +kernel, by decide +kernel⟩ _ (by simp)
  have hunsaid : Json.parse? unsaid.pretty = some unsaid :=
    Json.parse?_text ⟨by decide +kernel, by decide +kernel⟩ _ (by simp)
  constructor
  · exact (object_is_loaded _ _ _ _ hzero (hfind _) hsaid).2 (by decide)
  · exact ((object_is_loaded _ _ _ _ hzero (hfind _) hunsaid).1.refused _).2 ⟨rfl, rfl, rfl⟩

/-- An assignment becomes `skip`, and so does nothing at all. -/
theorem object_is_loaded_as_skip :
    let c : Command := .assign 0 (.number 1)
    let ms : List (String × Json) := [("command", c.toJson),
      ("names", .object [("0", .string "x")]), ("initial", State.initial.toJson)]
    (Json.member? "command" ms).bind Json.toCommand? = some c ∧
      (Folder.ofList [("t.json", (Json.object ms).compact)]).load "t.json" =
        .ok ⟨"t", "t.json", .skip, ∅, .initial⟩ ∧
      (Json.object []).tag? = none ∧ (Json.object []).toProgram?.isNone = true ∧
      (Folder.ofList [("t.json", (Json.object []).compact)]).load "t.json" =
        .ok ⟨"t", "t.json", .skip, ∅, .initial⟩ := by
  intro c ms
  have hfind := Folder.find_singleton "t.json" (by decide +kernel) (by decide) (by decide +kernel)
  have hzero : Char.ofNat 0 ∉ "t.json".toList := by decide
  have hms : Json.parse? (Json.object ms).compact = some (.object ms) :=
    Json.parse?_text ⟨by decide +kernel, by decide +kernel⟩ _ (by simp)
  have hnil : Json.parse? (Json.object []).compact = some (.object []) :=
    Json.parse?_text ⟨rfl, by decide +kernel⟩ _ (by simp)
  exact ⟨c.toCommand?_toJson, Folder.load_eq_skip hzero (hfind _) hms (by decide), rfl, rfl,
    Folder.load_eq_skip hzero (hfind _) hnil (by decide)⟩

end WhileLang
