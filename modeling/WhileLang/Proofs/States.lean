import Mathlib.Data.List.Induction
import Mathlib.Tactic.TFAE
import WhileLang.Proofs.Json.Records
import WhileLang.Proofs.Printing.Determinacy

/-!
# States are canonical

A state keeps its bindings in order from the start: an update puts the variable in its place or
takes it out. The same lists come about in two steps, if the bindings are first put together as a
dictionary, in which each variable has one entry, and the dictionary is then sorted by key and rid
of its zeros (`Binding.canonical`). `Binding.Obtained` are the lists that sequences of such steps
lead to. They are the lists that ascend and hold no zero (`Binding.obtained_iff`), and what the
operations on states make is the same (`State.bindings_ofList`, `State.bindings_update`,
`State.bindings_of_toBindings?`).

So every assignment of values to variables has one list, and all ways to compare two states agree.
Their texts are compared in that way too, and they are read back from their JSON, unless an integer
in them is too long to be written (`states_are_canonical`, `equal_states_without_text`).
-/

namespace WhileLang

open Names (insertEntry distinct_insertEntry insertEntry_eq_append)

namespace Binding

variable {x z : Ident} {v : Int} {b : Ident × Int} {bs es : List (Ident × Int)}

/-! ## Dictionaries -/

/-- The dictionary that entries make one after the other. -/
def dictionary (es : List (Ident × Int)) : List (Ident × Int) :=
  es.foldl (fun d e => insertEntry e.1 e.2 d) []

/-- Entries are in order if their keys are. -/
def ascends (a b : Ident × Int) : Bool := a.1 ≤ b.1

/-- The entries of a dictionary by ascending key, without those that are zero. -/
def canonical (d : List (Ident × Int)) : List (Ident × Int) :=
  (d.mergeSort ascends).filter fun b => b.2 ≠ 0

theorem dictionary_concat (es : List (Ident × Int)) (e : Ident × Int) :
    dictionary (es ++ [e]) = insertEntry e.1 e.2 (dictionary es) := by
  rw [dictionary, List.foldl_append]
  rfl

theorem distinct_dictionary (es : List (Ident × Int)) : ((dictionary es).map Prod.fst).Nodup := by
  induction es using List.reverseRecOn with
  | nil => exact List.nodup_nil
  | append_singleton es e ih =>
    rw [dictionary_concat]
    exact distinct_insertEntry ih e.1 e.2

/-- Entries whose keys are distinct are a dictionary already. -/
theorem dictionary_eq_self (h : (bs.map Prod.fst).Nodup) : dictionary bs = bs := by
  induction bs using List.reverseRecOn with
  | nil => rfl
  | append_singleton bs b ih =>
    rw [List.map_append, List.nodup_append] at h
    obtain ⟨hbs, -, hfresh⟩ := h
    rw [dictionary_concat, ih hbs]
    exact insertEntry_eq_append fun hb => hfresh b.1 hb b.1 (List.mem_cons_self ..) rfl

theorem lookup_insertEntry (x z : Ident) (v : Int) (bs : List (Ident × Int)) :
    lookup z (insertEntry x v bs) = if z = x then v else lookup z bs := by
  induction bs with
  | nil => rfl
  | cons b bs ih =>
    obtain ⟨y, w⟩ := b
    unfold insertEntry
    by_cases hyx : y = x
    · subst hyx
      by_cases hz : z = y <;> simp [lookup, hz]
    · by_cases hz : z = x
      · subst hz
        simp [lookup, hyx, Ne.symm hyx, ih]
      · simp [lookup, hyx, hz, ih]

/-- What a dictionary binds a variable to, unless it is zero, is what is looked up. -/
theorem mem_iff_lookup_of_distinct (h : (bs.map Prod.fst).Nodup) (hv : v ≠ 0) :
    (x, v) ∈ bs ↔ lookup x bs = v := by
  induction bs with
  | nil => simp [lookup, Ne.symm hv]
  | cons b bs ih =>
    obtain ⟨y, w⟩ := b
    rw [List.map_cons, List.nodup_cons] at h
    by_cases hx : x = y
    · subst hx
      have hfresh : (x, v) ∉ bs := fun hb => h.1 (List.mem_map.2 ⟨(x, v), hb, rfl⟩)
      simp [lookup, hfresh, eq_comm]
    · simp [lookup, hx, ih h.2]

/-! ## Their order -/

theorem Sorted.distinct (h : Sorted bs) : (bs.map Prod.fst).Nodup :=
  List.pairwise_map.2 (h.imp Int.ne_of_lt)

theorem mem_canonical : b ∈ canonical bs ↔ b ∈ bs ∧ b.2 ≠ 0 := by
  simp [canonical, List.mem_mergeSort]

theorem nonZero_canonical (bs : List (Ident × Int)) : NonZero (canonical bs) :=
  fun _ hb => (mem_canonical.1 hb).2

theorem ascends_trans (a b c : Ident × Int) (hab : ascends a b) (hbc : ascends b c) :
    ascends a c :=
  decide_eq_true (Int.le_trans (of_decide_eq_true hab) (of_decide_eq_true hbc))

theorem ascends_total (a b : Ident × Int) : ascends a b || ascends b a := by
  simpa [ascends] using Int.le_total a.1 b.1

theorem sorted_canonical (h : (bs.map Prod.fst).Nodup) : Sorted (canonical bs) := by
  have hascends : (bs.mergeSort ascends).Pairwise fun a b => ascends a b :=
    List.pairwise_mergeSort ascends_trans ascends_total bs
  have hdistinct : (bs.mergeSort ascends).Pairwise fun a b => a.1 ≠ b.1 :=
    List.pairwise_map.1 (((List.mergeSort_perm ..).map Prod.fst).nodup_iff.2 h)
  refine ((hascends.and hdistinct).imp fun hab => ?_).filter _
  exact Int.lt_iff_le_and_ne.2 ⟨of_decide_eq_true hab.1, hab.2⟩

end Binding

namespace State

open Binding

variable {s t : State} {d : List (Ident × Int)}

/-- The bindings of a state are the dictionary with the same values, in order. -/
theorem bindings_eq_canonical (hd : (d.map Prod.fst).Nodup)
    (h : ∀ x, s.lookup x = Binding.lookup x d) : s.bindings = canonical d := by
  refine eq_of_mem_iff s.sorted (sorted_canonical hd) fun p => ?_
  obtain ⟨x, v⟩ := p
  rw [mem_iff_lookup s.sorted s.nonZero, mem_canonical]
  refine and_congr_left fun hv => ?_
  rw [mem_iff_lookup_of_distinct hd hv, ← h x]
  rfl

theorem canonical_bindings (s : State) : canonical s.bindings = s.bindings :=
  (bindings_eq_canonical s.sorted.distinct fun _ => rfl).symm

theorem dictionary_bindings (s : State) : dictionary s.bindings = s.bindings :=
  dictionary_eq_self s.sorted.distinct

theorem lookup_ofList (es : List (Ident × Int)) (z : Ident) :
    (ofList es).lookup z = Binding.lookup z (dictionary es) := by
  induction es using List.reverseRecOn with
  | nil => rfl
  | append_singleton es e ih =>
    have hof : ofList (es ++ [e]) = (ofList es).update e.1 e.2 := by
      rw [ofList, List.foldl_append]
      rfl
    rw [hof, dictionary_concat, lookup_update, lookup_insertEntry, ih]

/-- A state is made of a list by making a dictionary of it and putting that in order. -/
theorem bindings_ofList (es : List (Ident × Int)) :
    (ofList es).bindings = canonical (dictionary es) :=
  bindings_eq_canonical (distinct_dictionary es) (lookup_ofList es)

/-- A state is updated by changing its dictionary and putting that in order. -/
theorem bindings_update (s : State) (x : Ident) (v : Int) :
    (s.update x v).bindings = canonical (insertEntry x v s.bindings) := by
  refine bindings_eq_canonical (distinct_insertEntry s.sorted.distinct x v) fun z => ?_
  rw [lookup_update, lookup_insertEntry]
  rfl

/-- A state is read from an object by making a dictionary of its members and putting that in
order. -/
theorem bindings_of_toBindings? (ms : List (String × Json)) :
    (Json.object ms).toBindings?.map (·.bindings) = (ms.mapM Json.binding?).map fun es =>
      canonical (dictionary (es.map fun e => (e.1, e.2.value))) := by
  simp only [Json.toBindings?, Json.readBindings?, Json.members?, Option.bind_eq_bind,
    Option.bind_some]
  cases ms.mapM Json.binding? with
  | none => rfl
  | some es => exact congrArg some (bindings_ofList _)

theorem isReadable_toJson (s : State) :
    s.toJson.isReadable = s.bindings.all fun b => Text.isWritable b.2 := by
  have hbindings (bs : List (Ident × Int)) :
      Json.membersReadable (bs.map fun b => (toString b.1, .int b.2)) =
        bs.all fun b => Text.isWritable b.2 := by
    induction bs with
    | nil => rfl
    | cons b bs ih =>
      rw [List.map_cons, Json.membersReadable, Json.isReadable, ih, List.all_cons]
  rw [toJson, Json.isReadable, Json.membersReadable, Json.isReadable, Json.membersReadable,
    hbindings, Bool.and_true]

theorem all_isWritable_integers (s : State) : s.integers.all Text.isWritable = true ↔
    s.toJson.isReadable = true ∧ s.hasShortKeys = true := by
  rw [isReadable_toJson, hasShortKeys, integers]
  simp only [List.all_eq_true, List.mem_flatMap, List.mem_cons, List.not_mem_nil, or_false]
  constructor
  · intro h
    exact ⟨fun b hb => h b.2 ⟨b, hb, .inr rfl⟩, fun b hb => h b.1 ⟨b, hb, .inl rfl⟩⟩
  · rintro ⟨hvalues, hkeys⟩ i ⟨b, hb, rfl | rfl⟩
    · exact hkeys b hb
    · exact hvalues b hb

/-- From a text of a state, that state is read, or nothing. -/
theorem parse_text {text : String} (htext : text ∈ [s.toJson.compact, s.toJson.pretty]) :
    (Json.parse? text).bind Json.toState? =
      if s.integers.all Text.isWritable then some s else none := by
  have hparse : Json.parse? text = if s.toJson.isReadable then some s.toJson else none := by
    have hnesting : s.toJson.isReadable = true ∧ s.toJson.nesting ≤ Json.maxNesting ↔
        s.toJson.isReadable = true := and_iff_left s.nesting_toJson
    rcases List.mem_cons.1 htext with rfl | htext
    · exact (Json.parse?_compact _).trans (if_congr hnesting rfl rfl)
    · rw [List.mem_singleton.1 htext]
      exact (Json.parse?_pretty _).trans (if_congr hnesting rfl rfl)
  rw [hparse, if_congr s.all_isWritable_integers rfl rfl, ite_and]
  split
  · exact toState?_toJson_eq s
  · rfl

end State

/-! ## The bindings that are obtained -/

namespace Binding

/-- The lists of bindings that a sequence of operations on states leads to. -/
inductive Obtained : List (Ident × Int) → Prop
  | ofEntries (es : List (Ident × Int)) : Obtained (canonical (dictionary es))
  | initial : Obtained (canonical [])
  | update {bs : List (Ident × Int)} (x : Ident) (v : Int) (h : Obtained bs) :
    Obtained (canonical (insertEntry x v bs))
  | copy {bs : List (Ident × Int)} (h : Obtained bs) : Obtained (dictionary bs)
  /-- From the members of an object, whichever variables they repeat. -/
  | read {ms : List (String × Json)} {es : List (Ident × IntReading)}
    (h : ms.mapM Json.binding? = some es) :
    Obtained (canonical (dictionary (es.map fun e => (e.1, e.2.value))))

variable {bs : List (Ident × Int)}

theorem Obtained.ordered (h : Obtained bs) : Sorted bs ∧ NonZero bs := by
  induction h with
  | ofEntries es => exact ⟨sorted_canonical (distinct_dictionary es), nonZero_canonical _⟩
  | initial => exact ⟨sorted_canonical List.nodup_nil, nonZero_canonical _⟩
  | update x v _ ih =>
    exact ⟨sorted_canonical (distinct_insertEntry ih.1.distinct x v), nonZero_canonical _⟩
  | copy _ ih => rwa [dictionary_eq_self ih.1.distinct]
  | read _ => exact ⟨sorted_canonical (distinct_dictionary _), nonZero_canonical _⟩

/-- They are the lists that ascend and hold no zero. -/
theorem obtained_iff : Obtained bs ↔ Sorted bs ∧ NonZero bs := by
  refine ⟨Obtained.ordered, fun ⟨hsorted, hnonZero⟩ => ?_⟩
  have hbs : canonical (dictionary bs) = bs := by
    rw [dictionary_eq_self hsorted.distinct]
    exact State.canonical_bindings ⟨bs, hsorted, hnonZero⟩
  exact hbs ▸ .ofEntries bs

end Binding

/-! ## States as a whole -/

namespace State

theorem tfae_eq (s t : State) : [s = t, ∀ x, s.lookup x = t.lookup x, s.bindings = t.bindings,
    ∀ b, b ∈ s.bindings ↔ b ∈ t.bindings].TFAE := by
  tfae_have 1 → 2 := fun h x => h ▸ rfl
  tfae_have 2 → 3 := fun h => congrArg bindings (ext_lookup h)
  tfae_have 3 → 4 := fun h b => h ▸ Iff.rfl
  tfae_have 4 → 1 := fun h => ext_bindings (Binding.eq_of_mem_iff s.sorted t.sorted h)
  tfae_finish

/-- Updates of different variables commute. -/
theorem update_comm (s : State) {x y : Ident} (h : y ≠ x) (v w : Int) :
    (s.update x v).update y w = (s.update y w).update x v := by
  refine ext_lookup fun z => ?_
  simp only [lookup_update]
  by_cases hx : z = x
  · rw [if_pos hx, if_neg (hx ▸ h.symm), if_pos hx]
  · rw [if_neg hx, if_neg hx]

end State

/-- **States are canonical.** The lists of bindings that sequences of operations lead to are those
that ascend and hold no zero, and the operations of `State` lead to them. Two states are equal if
they agree on every variable, if their lists of bindings are the same, if these have the same
entries, or if the states have one text; but a state with a key or a value that is too long to be
written has none, and it is not read back from its JSON. The last update of a variable counts, and
it leaves the others alone. -/
theorem states_are_canonical :
    (∀ bs, Binding.Obtained bs ↔ Binding.Sorted bs ∧ Binding.NonZero bs) ∧
    ((∀ es, (State.ofList es).bindings = Binding.canonical (Binding.dictionary es)) ∧
      State.initial.bindings = Binding.canonical [] ∧
      (∀ (s : State) (x : Ident) (v : Int),
        (s.update x v).bindings = Binding.canonical (insertEntry x v s.bindings)) ∧
      (∀ s : State, Binding.dictionary s.bindings = s.bindings) ∧
      (∀ ms, (Json.object ms).toBindings?.map (·.bindings) = (ms.mapM Json.binding?).map fun es =>
        Binding.canonical (Binding.dictionary (es.map fun e => (e.1, e.2.value)))) ∧
      ∀ s : State, ∀ text ∈ [s.toJson.compact, s.toJson.pretty],
        (Json.parse? text).bind Json.toState? =
          if s.integers.all Text.isWritable then some s else none) ∧
    (∀ s t : State, [s = t, ∀ x, s.lookup x = t.lookup x, s.bindings = t.bindings,
      ∀ b, b ∈ s.bindings ↔ b ∈ t.bindings].TFAE) ∧
    ((∀ s t : State, SameText (s.render ∅) (t.render ∅) ↔
        s = t ∧ s.integers.all Text.isWritable = true) ∧
      ∀ s : State, ¬ s.integers.all Text.isWritable → s.render ∅ = .error .numberTooLong) ∧
    ∀ (s : State) (x : Ident) (v : Int),
      (s.update x v).lookup x = v ∧
      (∀ z, z ≠ x → (s.update x v).lookup z = s.lookup z) ∧
      (∀ y, y ≠ x → ∀ w, (s.update x v).update y w = (s.update y w).update x v) ∧
      (∀ w, (s.update x v).update x w = s.update x w) ∧ s.update x (s.lookup x) = s := by
  refine ⟨fun bs => Binding.obtained_iff, ?operations, State.tfae_eq,
    ⟨fun s t => State.sameText_iff, fun s => State.render_eq_error⟩, fun s x v => ?updates⟩
  case operations =>
    exact ⟨State.bindings_ofList, (State.canonical_bindings .initial).symm, State.bindings_update,
      State.dictionary_bindings, State.bindings_of_toBindings?,
      fun s text htext => State.parse_text htext⟩
  case updates =>
    exact ⟨s.lookup_update_self x v, fun z hz => s.lookup_update_of_ne v hz,
      fun y hy w => s.update_comm hy v w, fun w => s.update_update x v w, State.update_eq_self rfl⟩

/-- Two ways to one state: it is read back from its text, its own text is written, and updates of
its two variables commute. -/
theorem states_are_canonical_two_variables :
    let s : State := .ofList [(1, 4), (2, 0), (0, 3)]
    let t : State := (State.initial.update 0 3).update 1 4
    s = t ∧ SameText (s.render ∅) (t.render ∅) ∧
      t = (State.initial.update 1 4).update 0 3 ∧ t.lookup 0 = 3 ∧
      (Json.parse? s.toJson.compact).bind Json.toState? = some t := by
  intro s t
  obtain ⟨-, ⟨-, -, -, -, -, hread⟩, hequal, ⟨htext, -⟩, hupdate⟩ := states_are_canonical
  have hst : s = t := ((hequal s t).out 2 0).1 rfl
  refine ⟨hst, (htext s t).2 ⟨hst, by decide +kernel⟩,
    (hupdate .initial 0 3).2.2.1 1 (by decide) 4,
    (hupdate (State.initial.update 0 3) 1 4).2.1 0 (by decide), ?_⟩
  rw [hread s _ (List.mem_cons_self ..), if_pos (by decide +kernel), hst]

/-- Two states that bind a variable to the sum of two numbers are equal, but neither has a text: the
sum has a digit more than the numbers. -/
theorem equal_states_without_text :
    let v : Int := 5 * Text.powerOfTen 4299
    let s : State := .ofList [(0, v + v)]
    let t : State := (State.initial.update 0 v).update 0 (v + v)
    Text.isWritable v = true ∧ s = t ∧ s.render ∅ = .error .numberTooLong ∧
      t.render ∅ = .error .numberTooLong := by
  intro v s t
  have hhalf := Text.isWritable_half (n := 4299) rfl
  have hlong (s : State) : ¬ (s.update 0 (v + v)).integers.all Text.isWritable :=
    s.not_all_isWritable_update 0 hhalf.2
  exact ⟨hhalf.1, (State.initial.update_update 0 v (v + v)).symm,
    State.render_eq_error (hlong _), State.render_eq_error (hlong _)⟩

end WhileLang
