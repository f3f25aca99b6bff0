import WhileLang.Proofs.Json.Parsing
import WhileLang.Proofs.Json.Phrases
import WhileLang.Proofs.Text.Typed

/-!
# Records are read back

What a record is written as is read as that record, if the variables in it are short enough to be
read as names of members (`isShort`). Variables travel as text, everything else as it is: only
states and names depend on the condition. The text of a record is read as what was written if it is
short in this sense and not nested too deeply (`WithinLimits`), which states never are.
-/

namespace WhileLang

/-! ## Short texts -/

namespace Json

mutual

/-- All numbers in the value, and the names of all members, have no more than `Text.maxDigits`
digits, exponents apart. -/
def isShort : Json → Bool
  | int i => Text.isWritable i
  | decimal d => Text.isWritable d.mantissa
  | array xs => elementsShort xs
  | object ms => membersShort ms
  | _ => true

def elementsShort : List Json → Bool
  | [] => true
  | x :: xs => x.isShort && elementsShort xs

def membersShort : List (String × Json) → Bool
  | [] => true
  | (name, value) :: ms =>
    Text.digitCount name.toList ≤ Text.maxDigits && value.isShort && membersShort ms

end

mutual

theorem isReadable_of_isShort : ∀ {j : Json}, j.isShort = true → j.isReadable = true
  | .int _ | .decimal _ => fun h => by
    rw [isShort] at h
    rwa [isReadable]
  | .null | .bool _ | .nonFinite _ | .string _ => fun _ => rfl
  | .array _ => elementsReadable_of_elementsShort
  | .object _ => membersReadable_of_membersShort

theorem elementsReadable_of_elementsShort :
    ∀ {xs : List Json}, elementsShort xs = true → elementsReadable xs = true
  | [], _ => rfl
  | x :: xs, h => by
    rw [elementsShort, Bool.and_eq_true] at h
    rw [elementsReadable, isReadable_of_isShort h.1, elementsReadable_of_elementsShort h.2]
    rfl

theorem membersReadable_of_membersShort :
    ∀ {ms : List (String × Json)}, membersShort ms = true → membersReadable ms = true
  | [], _ => rfl
  | (name, value) :: ms, h => by
    rw [membersShort, Bool.and_eq_true, Bool.and_eq_true] at h
    rw [membersReadable, isReadable_of_isShort h.1.2, membersReadable_of_membersShort h.2]
    rfl

end

/-- The value is found in its text again (`parse?_text`): no number is too long to be read, and the
value is not nested too deeply. -/
structure WithinLimits (j : Json) : Prop where
  short : j.isShort = true
  nesting_le : j.nesting ≤ maxNesting

theorem parse?_text {j : Json} (h : j.WithinLimits) :
    ∀ text ∈ [j.compact, j.pretty], parse? text = some j := by
  have hread := And.intro (isReadable_of_isShort h.short) h.nesting_le
  refine List.forall_mem_cons.2 ⟨?_, List.forall_mem_singleton.2 ?_⟩
  · rw [parse?_compact, if_pos hread]
  · rw [parse?_pretty, if_pos hread]

theorem membersShort_iff {ms : List (String × Json)} : membersShort ms = true ↔
    ∀ m ∈ ms, Text.digitCount m.1.toList ≤ Text.maxDigits ∧ m.2.isShort = true := by
  induction ms with
  | nil => simp [membersShort]
  | cons m ms ih =>
    obtain ⟨name, value⟩ := m
    simp [membersShort, ih]

/-- Members that are each read as what they were made from. -/
theorem mapM_map_eq_some {α β γ : Type} {f : α → β} {read : β → Option γ} {g : α → γ}
    {as : List α} (h : ∀ a ∈ as, read (f a) = some (g a)) :
    (as.map f).mapM read = some (as.map g) := by
  induction as with
  | nil => rfl
  | cons a as ih =>
    obtain ⟨ha, has⟩ := List.forall_mem_cons.1 h
    simp [ha, ih has]

/-- If one of them is not read, none is. -/
theorem mapM_map_eq_none {α β γ : Type} {f : α → β} {read : β → Option γ} {as : List α}
    (h : ∃ a ∈ as, read (f a) = none) : (as.map f).mapM read = none := by
  induction as with
  | nil => simp at h
  | cons a as ih =>
    cases ha : read (f a) with
    | none => simp [ha]
    | some c =>
      have has : ∃ a ∈ as, read (f a) = none := by simpa [ha] using h
      simp [ha, ih has]

end Json

/-! ## States and names from their entries -/

namespace Binding

/-- A key above all others is added at the end. -/
theorem set_eq_append {x : Ident} {v : Int} (hv : v ≠ 0) {bs : List (Ident × Int)}
    (hbs : ∀ b ∈ bs, b.1 < x) : set x v bs = bs ++ [(x, v)] := by
  induction bs with
  | nil => rw [set, if_neg hv, List.nil_append]
  | cons b bs ih =>
    obtain ⟨y, w⟩ := b
    obtain ⟨hy, hbs⟩ := List.forall_mem_cons.1 hbs
    rw [set, if_neg (Int.not_lt.2 (Int.le_of_lt hy)), if_neg (Int.ne_of_gt hy), ih hbs,
      List.cons_append]

end Binding

theorem State.ofList_bindings (s : State) : ofList s.bindings = s := by
  have key (bs : List (Ident × Int)) (t : State) (hbs : Binding.Sorted (t.bindings ++ bs))
      (hnonZero : Binding.NonZero bs) :
      (bs.foldl (fun s b => s.update b.1 b.2) t).bindings = t.bindings ++ bs := by
    induction bs generalizing t with
    | nil => exact (List.append_nil _).symm
    | cons b bs ih =>
      obtain ⟨hb, hnonZero⟩ := List.forall_mem_cons.1 hnonZero
      have hupdate : (t.update b.1 b.2).bindings = t.bindings ++ [b] :=
        Binding.set_eq_append hb fun c hc =>
          (List.pairwise_append.1 hbs).2.2 c hc b (List.mem_cons_self ..)
      have happend : t.bindings ++ b :: bs = (t.update b.1 b.2).bindings ++ bs := by
        rw [hupdate, List.append_assoc, List.singleton_append]
      rw [happend] at hbs ⊢
      exact ih _ hbs hnonZero
  exact ext_bindings (key s.bindings initial s.sorted s.nonZero)

namespace Names

/-- A new key is added at the end. -/
theorem insertEntry_eq_append {α : Type} {x : Ident} {a : α} {es : List (Ident × α)}
    (h : x ∉ es.map Prod.fst) : insertEntry x a es = es ++ [(x, a)] := by
  induction es with
  | nil => rfl
  | cons e es ih =>
    obtain ⟨y, n⟩ := e
    rw [List.map_cons, List.mem_cons, not_or] at h
    rw [insertEntry, if_neg (Ne.symm h.1), ih h.2, List.cons_append]

theorem ofList_entries (names : Names) : ofList names.entries = names := by
  have key (es : List (Ident × String)) (ns : Names)
      (hes : ((ns.entries ++ es).map Prod.fst).Nodup) :
      (es.foldl (fun ns e => ns.insert e.1 e.2) ns).entries = ns.entries ++ es := by
    induction es generalizing ns with
    | nil => exact (List.append_nil _).symm
    | cons e es ih =>
      have hfresh : e.1 ∉ ns.entries.map Prod.fst := by
        rw [List.map_append, List.nodup_append] at hes
        exact fun he => hes.2.2 e.1 he e.1 (List.mem_cons_self ..) rfl
      have hinsert : (ns.insert e.1 e.2).entries = ns.entries ++ [e] :=
        insertEntry_eq_append hfresh
      have happend : ns.entries ++ e :: es = (ns.insert e.1 e.2).entries ++ es := by
        rw [hinsert, List.append_assoc, List.singleton_append]
      rw [happend] at hes ⊢
      exact ih _ hes
  have hentries : (ofList names.entries).entries = names.entries :=
    key names.entries ∅ names.distinct
  cases names with
  | mk entries distinct =>
    cases hof : ofList entries with
    | mk entries' distinct' =>
      rw [hof] at hentries
      cases hentries
      rfl

end Names

/-! ## Records -/

section

open Json

/-- The variables of the state can be read as names of members. -/
def State.hasShortKeys (s : State) : Bool := s.bindings.all fun b => Text.isWritable b.1

theorem State.hasShortKeys_of_isShort {s : State} (h : s.toJson.isShort = true) :
    s.hasShortKeys = true := by
  simp only [toJson, isShort, membersShort, Bool.and_eq_true, Bool.and_true, membersShort_iff] at h
  refine List.all_eq_true.2 fun b hb => ?_
  exact (Text.digitCount_numeral_le b.1).1 (h.2 _ (List.mem_map_of_mem hb)).1

theorem State.readBindings?_eq (s : State) :
    readBindings? (.object (s.bindings.map fun b => (toString b.1, .int b.2))) =
      if s.hasShortKeys then some ⟨s, 0, true⟩ else none := by
  have hread (b : Ident × Int) : binding? (toString b.1, .int b.2) =
      if Text.isWritable b.1 then some (b.1, ⟨b.2, true⟩) else none := by
    simp only [binding?, Text.readLooseInt_toString, readInt?, Option.bind_eq_bind, Option.pure_def]
    split <;> rfl
  split
  · rename_i h
    have hbindings : (s.bindings.map fun b => (toString b.1, Json.int b.2)).mapM binding? =
        some (s.bindings.map fun b => (b.1, ⟨b.2, true⟩)) :=
      mapM_map_eq_some fun b hb => by
        rw [hread, if_pos (List.all_eq_true.1 h b hb)]
    have hpairs : (s.bindings.map fun b => (b.1, (⟨b.2, true⟩ : IntReading))).map
        (fun b => (b.1, b.2.value)) = s.bindings := by
      rw [List.map_map]
      exact List.map_id s.bindings
    have hexact : (s.bindings.map fun b => (b.1, (⟨b.2, true⟩ : IntReading))).all
        (fun b => b.2.exact) = true := by
      simp
    simp only [readBindings?, members?, Option.bind_eq_bind, Option.bind_some, hbindings, hpairs,
      hexact, ofList_bindings, Option.pure_def]
  · rename_i h
    have hbindings : (s.bindings.map fun b => (toString b.1, Json.int b.2)).mapM binding? =
        none := by
      refine mapM_map_eq_none ?_
      simp only [hasShortKeys, List.all_eq_true, not_forall] at h
      obtain ⟨b, hb, hlong⟩ := h
      exact ⟨b, hb, by rw [hread, if_neg hlong]⟩
    simp only [readBindings?, members?, Option.bind_eq_bind, Option.bind_some, hbindings,
      Option.bind_none]

theorem State.readState?_toJson_eq (s : State) :
    readState? s.toJson = if s.hasShortKeys then some ⟨s, 1, true⟩ else none := by
  simp only [readState?, toJson, members?, member?, Option.bind_eq_bind, Option.bind_some,
    List.reverse_singleton, List.find?_singleton, decide_true, if_true, Option.map_some,
    readBindings?_eq, Option.pure_def]
  split <;> rfl

theorem State.readState?_toJson {s : State} (h : s.toJson.isShort = true) :
    readState? s.toJson = some ⟨s, 1, true⟩ := by
  rw [readState?_toJson_eq, if_pos (hasShortKeys_of_isShort h)]

/-- **Written states are read back** if and only if their variables are short enough. -/
theorem State.toState?_toJson_eq (s : State) :
    s.toJson.toState? = if s.hasShortKeys then some s else none := by
  rw [toState?, readState?_toJson_eq]
  split <;> rfl

/-- The bindings of a state are an object in an object. -/
theorem State.nesting_toJson (s : State) : s.toJson.nesting ≤ maxNesting := by
  have hbindings : membersNesting (s.bindings.map fun b => (toString b.1, .int b.2)) ≤ 1 := by
    induction s.bindings with
    | nil => exact Nat.zero_le 1
    | cons b bs ih =>
      simp only [List.map_cons, membersNesting, nesting]
      exact Nat.max_le.2 ⟨Nat.le_refl 1, ih⟩
  rw [toJson, nesting, membersNesting, nesting, membersNesting, maxNesting]
  omega

theorem State.toState?_toJson {s : State} (h : s.toJson.isShort = true) :
    s.toJson.toState? = some s := by
  rw [toState?_toJson_eq, if_pos (hasShortKeys_of_isShort h)]

theorem Names.toNames?_toJson {names : Names} (h : names.toJson.isShort = true) :
    names.toJson.toNames? = some names := by
  rw [toJson, isShort, membersShort_iff] at h
  have hentries : (names.entries.map fun e => (toString e.1, Json.string e.2)).mapM nameEntry? =
      some (names.entries.map id) := by
    refine mapM_map_eq_some fun e he => ?_
    have hshort := (Text.digitCount_numeral_le e.1).1 (h _ (List.mem_map_of_mem he)).1
    have hvar : Text.readLooseInt (toString e.1) = some e.1 := by
      rw [Text.readLooseInt_toString, if_pos hshort]
    simp only [ nameEntry?, text?, hvar, Option.bind_eq_bind, Option.bind_some, Option.pure_def, id]
  simp only [toNames?, toJson, members?, Option.bind_eq_bind, Option.bind_some, hentries,
    List.map_id, ofList_entries, Option.pure_def]

/-- **Written outcomes are read back.** -/
theorem Outcome.toOutcome?_toJson {o : Outcome} (h : o.toJson.isShort = true) :
    o.toJson.toOutcome? = some o := by
  cases o with
  | terminated s =>
    have hs : s.toJson.isShort = true := by
      simp only [toJson, isShort, membersShort, Bool.and_eq_true] at h
      exact h.2.1.2
    simp [toJson, toOutcome?, members?, member?, outcomeScore, text?, required, Reading.best,
      State.readState?_toJson hs]
  | undetermined n =>
    simp [toJson, toOutcome?, members?, member?, outcomeScore, text?, required, Reading.best,
      readInt?]

/-- **Written configurations are read back.** -/
theorem Configuration.toConfiguration?_toJson {a : Configuration}
    (h : a.toJson.isShort = true) : a.toJson.toConfiguration? = some a := by
  have hs : a.state.toJson.isShort = true := by
    simp only [toJson, isShort, membersShort, Bool.and_eq_true] at h
    exact h.2.1.2
  simp [toJson, toConfiguration?, members?, member?, required, a.command.toCommand?_toJson,
    State.toState?_toJson hs]

theorem Rule.ofTag?_tag (r : Rule) : ofTag? r.tag = some r := by
  cases r <;> decide

/-- The variables of both states of the node can be read as names of members. -/
def FlatNode.hasShortKeys (n : FlatNode) : Bool := n.pre.hasShortKeys && n.post.hasShortKeys

/-- **Written nodes are read back** if and only if their states are. -/
theorem FlatNode.toFlatNode?_toJson_eq (n : FlatNode) :
    n.toJson.toFlatNode? = if n.hasShortKeys then some n else none := by
  have hpremises : (n.premises.map Json.int).mapM toInt? = some n.premises := by
    rw [mapM_map_eq_some fun i _ => show toInt? (.int i) = some (id i) from rfl, List.map_id]
  cases hpre : n.pre.hasShortKeys <;> cases hpost : n.post.hasShortKeys <;>
    simp [toJson, toFlatNode?, toConclusion?, members?, member?, required, Json.optional, toRule?,
      text?, Rule.ofTag?_tag, n.command.toCommand?_toJson, State.toState?_toJson_eq, hpre, hpost,
      hasShortKeys, toInts?, elements?, hpremises]

theorem FlatNode.toFlatNode?_toJson {n : FlatNode} (h : n.toJson.isShort = true) :
    n.toJson.toFlatNode? = some n := by
  have hkeys : n.hasShortKeys = true := by
    simp only [toJson, isShort, membersShort, Bool.and_eq_true] at h
    rw [hasShortKeys, State.hasShortKeys_of_isShort h.2.2.1.2,
      State.hasShortKeys_of_isShort h.2.2.2.1.2]
    rfl
  rw [toFlatNode?_toJson_eq, if_pos hkeys]

namespace Derivation

mutual

/-- **Written derivations are read back.** -/
theorem toDerivation?_toJson : ∀ {d : Derivation}, d.toJson.isShort = true →
    d.toJson.toDerivation? = some d
  | ⟨r, c, s, t, ps⟩, h => by
    simp only [toJson, isShort, membersShort, Bool.and_eq_true] at h
    obtain ⟨-, -, ⟨-, hpre⟩, ⟨-, hpost⟩, ⟨-, hps⟩, -⟩ := h
    simp [toJson, toDerivation?, toConclusion?, premisesOf?, toPremises?, member?, required,
      toRule?, text?, Rule.ofTag?_tag, c.toCommand?_toJson, State.toState?_toJson hpre,
      State.toState?_toJson hpost, toDerivations?_toJsons hps]

theorem toDerivations?_toJsons : ∀ {ds : List Derivation}, elementsShort (toJsons ds) = true →
    toDerivations? (toJsons ds) = some ds
  | [], _ => rfl
  | d :: ds, h => by
    rw [toJsons, elementsShort, Bool.and_eq_true] at h
    simp [toJsons, toDerivations?, toDerivation?_toJson h.1, toDerivations?_toJsons h.2]

end

end Derivation

/-- **Written programs are read back.** -/
theorem Program.toProgram?_toJson {p : Program} (h : p.toJson.isShort = true) :
    p.toJson.toProgram? = some p := by
  have hparts : p.names.toJson.isShort = true ∧ p.initial.toJson.isShort = true := by
    simp only [toJson, isShort, membersShort, Bool.and_eq_true] at h
    exact ⟨h.2.2.2.1.2, h.2.2.2.2.1.2⟩
  simp [toJson, toProgram?, members?, member?, required, Json.optional, text?,
    p.command.toCommand?_toJson, Names.toNames?_toJson hparts.1,
    State.toState?_toJson hparts.2]

/-- A command is no program: it has no name. -/
theorem Command.toProgram?_toJson (c : Command) : c.toJson.toProgram? = none := by
  cases c <;> simp [toJson, node, toProgram?, members?, member?, required]

end

end WhileLang
